import EmbeddedSql.Proofs.Connection.Reading
import EmbeddedSql.Proofs.Connection.Rows
import EmbeddedSql.Proofs.Query.Rewinding
import EmbeddedSql.Proofs.Connection.Run

/-! Fetching one row goes along with fetching all of them, until it has seen two. Fetching all
gives one row for each that the engine gives, in their order. -/

namespace EmbeddedSql

open Call (TakesNoStep)

variable {σ : Type}

/-! ## Preparing -/

namespace Query

section
variable (backend : Backend σ)

theorem bindFrom_takesNoStep (statement : StatementHandle) (count position : Nat)
    (values : List Json) :
    TakesNoStep (bindFrom backend.engine.recording backend.growth statement count position
      values) := by
  have binds (index : Int32) (value : Json) :
      TakesNoStep (bindValue backend.engine.recording backend.growth statement index value) :=
    .ofConnection (Parameter.bind_takesNoStep backend.engine backend.growth statement _ _)
  induction values generalizing position with
  | nil => exact .pure _
  | cons value rest induction =>
      unfold bindFrom
      dsimp only
      split
      · exact (TakesNoStep.throw _).bind fun _ => (binds _ _).bind fun _ => induction _
      · exact (binds _ _).bind fun _ => induction _

theorem prepare_takesNoStep (sql : Text) (values : List Json) :
    TakesNoStep (prepare backend.recording sql values) :=
  (TakesNoStep.ofConnection (Connection.createCommand_takesNoStep backend sql)).bind fun command =>
    (Command.dropOnError_takesNoStep backend
      (bindFrom_takesNoStep backend command.statement values.length 1 values)).bind
        fun _ => .pure _

end

/-! ## Loops over rows -/

section
variable {backend : Backend σ} {wanted : List Row → Bool} {limit : Nat}
  {stage last : Stage (Recorded σ) (List Row)}

theorem rows_of_goes
    (goes : Stage.Goes backend.recording.engine wanted (takeRow backend.recording.engine) stage
      last) :
    ∃ count, last.gathered.length = stage.gathered.length + count ∧
      last.link.rows = stage.link.rows + count := by
  induction goes with
  | here => exact ⟨0, rfl, rfl⟩
  | row _ reads taken _ induction =>
      obtain ⟨count, sameLength, sameRows⟩ := induction
      obtain rfl := Except.ok.inj (taken.symm.trans (takeRow_of_row _ reads))
      have given : _ = _ + 1 := Reader.rows_of_row reads
      refine ⟨count + 1, ?_, ?_⟩
      · rw [sameLength, List.length_cons]
        omega
      · rw [sameRows, given]
        omega

theorem length_of_goes
    (goes : Stage.Goes backend.recording.engine (isWanted (some limit))
      (takeRow backend.recording.engine) stage last)
    (isWithin : stage.gathered.length ≤ limit) : last.gathered.length ≤ limit := by
  induction goes with
  | here => exact isWithin
  | row isWanted reads taken _ induction =>
      obtain rfl := Except.ok.inj (taken.symm.trans (takeRow_of_row _ reads))
      exact induction (of_decide_eq_true isWanted)

variable (backend stage)

theorem gather_all_rows (lift : EmbeddedSql.Error → Error) :
    let outcome := stage.gather backend.recording (isWanted none)
      (takeRow backend.recording.engine) lift
    ∃ count, outcome.2.rows = stage.link.rows + count ∧
      ∀ rows, outcome.1.1 = .ok rows → rows.length = stage.gathered.length + count := by
  intro outcome
  obtain ⟨last, goes, isEnough | ⟨-, answer, next, after, reads, isNoRow⟩⟩ :=
    exists_lastRow backend.recording stage (isWanted none)
  · cases isEnough
  obtain ⟨count, sameLength, sameRows⟩ := rows_of_goes goes
  have gathers : outcome = _ :=
    (goes.gather_eq _ id lift).trans (Stage.gather_of_over rfl reads isNoRow)
  refine ⟨count, ?_, fun rows isOk => ?_⟩
  · rw [gathers, Reader.rows_of_end isNoRow reads, sameRows]
  · rw [gathers] at isOk
    rcases answer with error | answer
    · cases isOk
    · rw [← Except.ok.inj isOk, sameLength]

end

/-! ## Commands -/

theorem readRows_apply (backend : Backend σ) (limit : Option Nat) (command : Command)
    {link : Link σ} (isLive : link.connection.isDisposed = false) :
    readRows backend limit command link =
      let outcome := Stage.gather backend (isWanted limit) (takeRow backend.engine) .connection
        ⟨command.reader, [], link⟩
      (outcome.1.1, outcome.1.2.dispose backend.engine outcome.2) := by
  unfold readRows Command.executeReader
  rw [EmbeddedSql.Call.bind_apply, Call.ofConnection,
    EmbeddedSql.Call.bind_of_ok _ (Connection.ensureNotDisposed_of_live isLive)]
  rfl

/-- The engine gives `count` rows for all of them. A loop that wants two goes along with that, and
has two rows and no more if there are as many. -/
structure StopsAtTwo (before count : Nat) (two all : Except Error (List Row) × Link (Recorded σ)) :
    Prop where
  given : all.2.rows = before + count
  counts : ∀ rows, all.1 = .ok rows → rows.length = count
  short : count < 2 → two.1 = all.1 ∧ two.2.rows = all.2.rows
  long : 2 ≤ count → two.2.rows = before + 2 ∧ ∃ rows, two.1 = .ok rows ∧ rows.length = 2

theorem StopsAtTwo.reverse {before count : Nat}
    {two all other others : Except Error (List Row) × Link (Recorded σ)}
    (stops : StopsAtTwo before count two all)
    (sameTwo : other.1 = two.1.map List.reverse ∧ other.2.rows = two.2.rows)
    (sameAll : others.1 = all.1.map List.reverse ∧ others.2.rows = all.2.rows) :
    StopsAtTwo before count other others where
  given := sameAll.2.trans stops.given
  counts rows isOk := by
    rw [sameAll.1] at isOk
    rcases isAll : all.1 with error | gathered <;> rw [isAll] at isOk
    · cases isOk
    · rw [← Except.ok.inj isOk, List.length_reverse, stops.counts gathered isAll]
  short isShort := by
    obtain ⟨sameAnswer, sameRows⟩ := stops.short isShort
    rw [sameTwo.1, sameTwo.2, sameAll.1, sameAll.2, sameAnswer, sameRows]
    exact ⟨rfl, rfl⟩
  long isLong := by
    obtain ⟨sameRows, rows, isOk, isTwo⟩ := stops.long isLong
    refine ⟨sameTwo.2.trans sameRows, rows.reverse, ?_, ?_⟩
    · rw [sameTwo.1, isOk]
      rfl
    · rw [List.length_reverse, isTwo]

theorem readRows_stopsAtTwo (backend : Backend σ) (command : Command) {link : Link (Recorded σ)}
    (isLive : link.connection.isDisposed = false) :
    ∃ count, StopsAtTwo link.rows count (readRows backend.recording (some 2) command link)
      (readRows backend.recording none command link) := by
  rw [readRows_apply _ _ _ isLive, readRows_apply _ _ _ isLive]
  let start : Stage (Recorded σ) (List Row) := ⟨command.reader, [], link⟩
  obtain ⟨last, goes, isLast⟩ := exists_lastRow backend.recording start (isWanted (some 2))
  obtain ⟨count, sameLength, sameRows⟩ := rows_of_goes goes
  have isWithin : last.gathered.length ≤ 2 := length_of_goes goes (Nat.zero_le 2)
  replace sameLength : last.gathered.length = count := sameLength.trans (Nat.zero_add count)
  replace sameRows : last.link.rows = link.rows + count := sameRows
  have two := goes.gather_eq (isWanted (some 2)) id .connection
  have all := goes.gather_eq (isWanted none) (fun _ => rfl) .connection
  dsimp only
  rw [two, all]
  rcases isLast with isEnough | ⟨wants, answer, next, after, reads, isNoRow⟩
  · have isTwo : last.gathered.length = 2 :=
      Nat.le_antisymm isWithin (Nat.le_of_not_lt (of_decide_eq_false isEnough))
    rw [← sameLength, isTwo] at sameRows
    obtain ⟨others, given, counts⟩ := gather_all_rows backend last .connection
    rw [Stage.gather_of_enough isEnough]
    refine ⟨2 + others, ⟨?_, fun rows isOk => isTwo ▸ counts rows isOk, by omega, fun _ => ?_⟩⟩
    · rw [← Nat.add_assoc, ← sameRows, ← given]
      exact Link.rows_of_steps (Reader.dispose_steps ..)
    · exact ⟨(Link.rows_of_steps (Reader.dispose_steps ..)).trans sameRows, _, rfl, isTwo⟩
  · have isShort : count < 2 := sameLength ▸ of_decide_eq_true wants
    rw [Stage.gather_of_over wants reads isNoRow, Stage.gather_of_over rfl reads isNoRow]
    refine ⟨count, ⟨?_, fun rows isOk => ?_, fun _ => ⟨rfl, rfl⟩, by omega⟩⟩
    · rw [← sameRows, ← Reader.rows_of_end isNoRow reads]
      exact Link.rows_of_steps (Reader.dispose_steps ..)
    · rcases answer with error | answer
      · cases isOk
      · rw [← Except.ok.inj isOk, sameLength]

end Query

/-! ## Queries -/

namespace Rewinding

open Query

variable {backend : Backend σ} {laws : Rewinding backend.engine}

variable {watch : Watch laws.recording.toCustody} {link between : Link (Recorded σ)} {sql : Text}
  {values : List Json} {command : Command}

theorem Rests.fetch_rows
    (prepares : Query.prepare backend.recording sql values link = (.ok command, between))
    (rests : laws.recording.Rests watch command.statement between)
    (isUnwatched : ¬watch.watched command.statement) (limit : Option Nat) :
    let fetches := Query.fetch backend.recording sql values limit link
    let reads := Query.readRows backend.recording limit command between
    fetches.1 = reads.1.map List.reverse ∧ fetches.2.rows = reads.2.rows := by
  dsimp only
  obtain ⟨last, fetches, rfl | finalizes⟩ := rests.fetch_of_prepared prepares isUnwatched limit
  · rw [fetches]
    exact ⟨rfl, Link.rows_of_steps (command.drop_steps backend _)⟩
  · have sameRows := (command.finalize_takesNoStep backend).givesNoRow
      (Query.readRows backend.recording limit command between).2
    rw [finalizes] at sameRows
    rw [fetches]
    exact ⟨rfl, sameRows⟩

variable (sits : laws.recording.Sits watch link) (sql : Text) (values : List Json)
include sits

theorem Sits.fetch_stopsAtTwo :
    ∃ count, StopsAtTwo link.rows count (Query.fetch backend.recording sql values (some 2) link)
      (Query.fetch backend.recording sql values none link) := by
  have ends := sits.prepareQuery sql values
  have sameRows := (prepare_takesNoStep backend sql values).givesNoRow link
  rcases prepares : Query.prepare backend.recording sql values link with
    ⟨error | command, between⟩ <;> rw [prepares] at ends sameRows
  · have fails (limit : Option Nat) :
        Query.fetch backend.recording sql values limit link = (.error error, between) := by
      rw [fetch_eq, EmbeddedSql.Call.bind_of_error _ prepares]
    rw [fails, fails]
    exact ⟨0, sameRows, nofun, fun _ => ⟨rfl, rfl⟩, nofun⟩
  · obtain ⟨rests, isUnwatched⟩ := ends
    obtain ⟨count, stops⟩ := readRows_stopsAtTwo backend command rests.isLive
    rw [show between.rows = link.rows from sameRows] at stops
    exact ⟨count, stops.reverse (rests.fetch_rows prepares isUnwatched _)
      (rests.fetch_rows prepares isUnwatched _)⟩

/-- What is fetched when one row is asked for is the first of all rows, unless there are two. -/
theorem Sits.fetchOne_of_fetchAll :
    let all := Query.fetchAll backend.recording sql values link
    let one := Query.fetchOne backend.recording sql values link
    ∃ count, all.2.rows = link.rows + count ∧ (∀ rows, all.1 = .ok rows → rows.length = count) ∧
      one.1 = (if 2 ≤ count then .error (.multipleRowsReturned 2) else all.1.map List.head?) ∧
      one.2.rows ≤ link.rows + 2 := by
  intro all one
  obtain ⟨count, stops⟩ := sits.fetch_stopsAtTwo sql values
  refine ⟨count, stops.given, stops.counts, ?_⟩
  have isOne : one = _ := fetchOne_apply ..
  rw [isOne]
  by_cases isLong : 2 ≤ count
  · obtain ⟨givenTwo, rows, isOk, isTwo⟩ := stops.long isLong
    rw [if_pos isLong, isOk]
    refine ⟨(if_pos (Nat.le_of_eq isTwo.symm)).trans ?_, Nat.le_of_eq givenTwo⟩
    rw [isTwo]
  · obtain ⟨sameAnswer, sameRows⟩ := stops.short (Nat.not_le.mp isLong)
    rw [if_neg isLong, sameAnswer]
    constructor
    · change all.1.bind _ = all.1.map List.head?
      rcases isAll : all.1 with error | rows
      · rfl
      · have isShort : ¬2 ≤ rows.length := stops.counts rows isAll ▸ isLong
        exact if_neg isShort
    · rw [sameRows, stops.given]
      exact Nat.add_le_add_left (Nat.le_of_not_le isLong) _

end Rewinding

end EmbeddedSql

namespace EmbeddedSql

open Query

variable {σ : Type}

/-! ## The rows of an engine -/

/-- A statement is stepped as long as it gives rows, which show columns. The code is that of the
last step. -/
inductive Engine.Yields (engine : Engine σ) (statement : StatementHandle) :
    σ → List (List (String × Json)) → Int → σ → Prop
  | last {state : σ} : (engine.step statement state).1 ≠ Status.row →
      engine.Yields statement state [] (engine.step statement state).1
        (engine.step statement state).2
  | row {state after : σ} {rows : List (List (String × Json))} {code : Int} :
      (engine.step statement state).1 = Status.row →
        engine.Yields statement (engine.step statement state).2 rows code after →
          engine.Yields statement state
            (currentColumns engine statement (engine.step statement state).2 :: rows) code after

theorem Engine.Yields.unique {engine : Engine σ} {statement : StatementHandle} {state after : σ}
    {rows : List (List (String × Json))} {code : Int}
    (yields : engine.Yields statement state rows code after) {others : List (List (String × Json))}
    {otherCode : Int} {last : σ} (again : engine.Yields statement state others otherCode last) :
    others = rows ∧ otherCode = code ∧ last = after := by
  induction yields generalizing others otherCode last with
  | last isNoRow =>
      cases again with
      | last _ => exact ⟨rfl, rfl, rfl⟩
      | row isRow _ => exact absurd isRow isNoRow
  | row isRow _ induction =>
      cases again with
      | last isNoRow => exact absurd isRow isNoRow
      | row _ again =>
          obtain ⟨rfl, rfl, rfl⟩ := induction again
          exact ⟨rfl, rfl, rfl⟩

/-! ## Loops -/

variable {backend : Backend σ}

theorem Stage.Goes.yields {wanted : List Row → Bool} {stage last : Stage σ (List Row)}
    (goes : Stage.Goes backend.engine wanted (takeRow backend.engine) stage last)
    (isLive : stage.link.connection.isDisposed = false) (isOpen : stage.reader.cursor ≠ .done)
    {answer : Except EmbeddedSql.Error Bool} {next : Reader} {after : Link σ}
    (reads : last.reader.read backend.engine last.link = ((answer, next), after))
    (isNoRow : answer ≠ .ok true) :
    ∃ rows code,
      backend.engine.Yields stage.reader.statement stage.link.engine rows code after.engine ∧
        last.gathered = (rows.map Row.ofColumns).reverse ++ stage.gathered ∧
          (answer = .ok false ∧ stage.link.connection.config.Accepts code ∨
            (∃ error, answer = .error error) ∧
              ¬stage.link.connection.config.Accepts code) := by
  induction goes with
  | here stage =>
      rw [stage.reader.read_of_live backend.engine isLive isOpen] at reads
      obtain ⟨settles, rfl⟩ := Prod.mk.inj reads
      have isEnd : (backend.engine.step stage.reader.statement stage.link.engine).1 ≠
          Status.row := by
        intro isRow
        rw [isRow, Reader.settle_row] at settles
        exact isNoRow (congrArg Prod.fst settles).symm
      have settled := stage.reader.settle_of_end
        { stage.link with
          engine := (backend.engine.step stage.reader.statement stage.link.engine).2 }
        backend.engine isEnd
      rw [settles] at settled
      exact ⟨[], _, .last isEnd, rfl, settled⟩
  | @row stage last next more between isWanted readsRow taken _ induction =>
      have stepped := Reader.step_of_read backend.engine (congrArg (·.1.1) readsRow)
      have isOnRow := (Reader.read_onRow isLive).mpr (congrArg (·.1.1) readsRow)
      have sameConnection := stage.reader.read_connection backend.engine stage.link
      have sameStatement := stage.reader.read_statement backend.engine stage.link
      rw [readsRow] at stepped isOnRow sameConnection sameStatement
      dsimp only at stepped isOnRow sameConnection sameStatement
      obtain rfl := Except.ok.inj (taken.symm.trans (takeRow_of_row _ readsRow))
      obtain ⟨isRow, sameEngine⟩ := stepped
      obtain ⟨rows, code, yields, gathers, isEnd⟩ :=
        induction ((congrArg Connection.isDisposed sameConnection).trans isLive)
          (by rw [isOnRow]; exact nofun) reads
      dsimp only at yields gathers isEnd
      rw [sameStatement, sameEngine] at yields
      rw [sameConnection] at isEnd
      refine ⟨_, code, .row isRow yields, ?_, isEnd⟩
      rw [gathers, sameEngine]
      simp

/-! ## Queries -/

section
variable {laws : Rewinding backend.engine} {watch : Watch laws.toCustody} {link bound : Link σ}
  {command : Command} {sql : Text} {values : List Json}

/-- The rows of a statement are fetched one by one, up to its last step. An end that is accepted
makes an answer of them. -/
theorem Rewinding.Sits.fetchAll_yields (sits : laws.Sits watch link)
    (prepares : Query.prepare backend sql values link = (.ok command, bound)) :
    ∃ rows code last, backend.engine.Yields command.statement bound.engine rows code last ∧
      (bound.connection.config.Accepts code →
        (Query.fetchAll backend sql values link).1 = .ok (rows.map Row.ofColumns)) ∧
      (¬bound.connection.config.Accepts code →
        ∃ error, (Query.fetchAll backend sql values link).1 = .error (.connection error)) := by
  have ends := sits.prepareQuery sql values
  rw [prepares] at ends
  obtain ⟨rests, isUnwatched⟩ := ends
  obtain ⟨last, fetches, -⟩ := Rewinding.Rests.fetch_of_prepared prepares rests isUnwatched none
  let start : Stage σ (List Row) := ⟨command.reader, [], bound⟩
  obtain ⟨final, goes, isEnough | ⟨-, answer, next, after, reads, isNoRow⟩⟩ :=
    exists_lastRow backend start (isWanted none)
  · cases isEnough
  obtain ⟨rows, code, yields, gathers, isEnd⟩ := goes.yields rests.isLive nofun reads isNoRow
  have gathered : start.gather backend (isWanted none) (takeRow backend.engine) .connection =
      (((answer.mapError Query.Error.connection).map fun _ => final.gathered, next), after) :=
    (goes.gather_eq _ id _).trans (Stage.gather_of_over rfl reads isNoRow)
  have sameAnswer : (Query.fetchAll backend sql values link).1 =
      (start.gather backend (isWanted none) (takeRow backend.engine) .connection).1.1.map
        List.reverse := by
    rw [Query.fetchAll, fetches, readRows_apply backend none command rests.isLive]
  rw [gathered, gathers, List.append_nil] at sameAnswer
  rw [sameAnswer]
  refine ⟨rows, code, after.engine, yields, fun isAccepted => ?_, fun isRefused => ?_⟩
  · obtain ⟨rfl, -⟩ | ⟨-, isRefused⟩ := isEnd
    · exact congrArg Except.ok (List.reverse_reverse _)
    · exact absurd isAccepted isRefused
  · obtain ⟨-, isAccepted⟩ | ⟨⟨error, rfl⟩, -⟩ := isEnd
    · exact absurd isAccepted isRefused
    · exact ⟨error, rfl⟩

end

end EmbeddedSql
