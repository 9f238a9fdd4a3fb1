import EmbeddedSql.Proofs.Connection.Run

/-! What a reader makes of the engine's steps: rows up to the first code that is no row's,
one verdict on that code, and nothing more after it. Loops over rows pass places that loops which
want more or less of the same rows have in common. -/

namespace EmbeddedSql

variable {σ : Type}

/-! ## New readers -/

theorem Connection.executeReader_cursor {backend : Backend σ} {sql : Text} {link : Link σ}
    {reader : Reader} (isMade : (Connection.executeReader backend sql link).1 = .ok reader) :
    reader.cursor = .beforeFirst := by
  unfold Connection.executeReader at isMade
  rw [Call.bind_apply] at isMade
  split at isMade
  · cases isMade
    rfl
  · cases isMade

theorem Command.executeReader_cursor {command : Command} {link : Link σ} {reader : Reader}
    (isMade : (command.executeReader link).1 = .ok reader) : reader.cursor = .beforeFirst := by
  unfold Command.executeReader at isMade
  rw [Call.bind_apply] at isMade
  split at isMade
  · cases isMade
    rfl
  · cases isMade

namespace Reader

variable {engine : Engine σ} {reader : Reader} {link : Link σ}

/-! ## Verdicts -/

def verdict (isLenient : Bool) (code : Int) (message : String) : Except Error Bool :=
  if code = Status.done then .ok false
  else if code = Status.misuse then .error .misuse
  else if code ≠ Status.error ∧ isLenient then .ok false
  else .error (.stepFailed code message)

theorem verdict_ne_true (isLenient : Bool) (code : Int) (message : String) :
    verdict isLenient code message ≠ .ok true := by
  unfold verdict
  repeat' split
  all_goals simp

theorem settle_verdict {code : Int} (isEnd : code ≠ Status.row) :
    reader.settle engine code link =
      (verdict link.connection.config.lenientStepStatus code
          (Connection.errorMessage engine link),
        { reader with cursor := .done, cells := [] }) := by
  unfold settle verdict
  dsimp only
  rw [if_neg isEnd]
  repeat' split
  all_goals rfl

theorem settle_row (reader : Reader) (link : Link σ) :
    reader.settle engine Status.row link =
      (.ok true,
        { reader with
          cursor := .onRow
          cells := engine.row reader.statement link.engine }) := by
  rw [settle, if_pos rfl]

/-! ## Reading -/

section
variable (isLive : link.connection.isDisposed = false)
include isLive

theorem read_of_done (isDone : reader.cursor = .done) :
    reader.read engine link = ((.ok false, reader), link) := by
  rw [read, if_neg (by simp [isLive]), if_pos isDone]

theorem read_onRow :
    (reader.read engine link).1.2.cursor = .onRow ↔
      (reader.read engine link).1.1 = .ok true := by
  by_cases isDone : reader.cursor = .done
  · rw [read_of_done isLive isDone]
    simp [isDone]
  rw [read_of_live engine isLive isDone]
  by_cases isRow : (engine.step reader.statement link.engine).1 = Status.row
  · rw [isRow, settle_row]
    simp
  · rw [settle_verdict isRow]
    simp [verdict_ne_true]

end

theorem isLive_of_row (isTrue : (reader.read engine link).1.1 = .ok true) :
    link.connection.isDisposed = false := by
  cases isDisposed : link.connection.isDisposed with
  | false => rfl
  | true =>
      rw [read, if_pos isDisposed] at isTrue
      cases isTrue

/-- The cells of a row are those that the engine has for it. -/
theorem cells_of_read (engine : Engine σ) (isTrue : (reader.read engine link).1.1 = .ok true) :
    (reader.read engine link).1.2.cells =
      engine.row reader.statement (reader.read engine link).2.engine := by
  have isRow := (step_of_read engine isTrue).1
  have isLive := isLive_of_row isTrue
  have isOpen : reader.cursor ≠ .done := by
    intro isDone
    rw [read_of_done isLive isDone] at isTrue
    cases isTrue
  rw [read_of_live engine isLive isOpen, isRow, settle_row]

end Reader

/-! ## Loops over rows -/

variable {ε β : Type}

structure Stage (σ β : Type) where
  reader : Reader
  gathered : β
  link : Link σ

namespace Stage

section
variable (backend : Backend σ) (engine : Engine σ) (wanted : β → Bool)
  (take : Reader → Link σ → β → Except ε β)

def gather (lift : Error → ε) (stage : Stage σ β) : (Except ε β × Reader) × Link σ :=
  stage.reader.gather backend wanted take lift stage.gathered stage.link

/-- Rows are read and taken from one place to another. More is wanted wherever a row is read,
but the last place may be one where it is not. -/
inductive Goes : Stage σ β → Stage σ β → Prop
  | here (stage : Stage σ β) : Goes stage stage
  | row {stage last : Stage σ β} {next : Reader} {more : β} {after : Link σ} :
      wanted stage.gathered = true →
        stage.reader.read engine stage.link = ((.ok true, next), after) →
          take next after stage.gathered = .ok more →
            Goes ⟨next, more, after⟩ last → Goes stage last

end

variable {backend : Backend σ} {wanted : β → Bool} {take : Reader → Link σ → β → Except ε β}
  {lift : Error → ε} {stage last : Stage σ β}

theorem exists_last
    (takes : ∀ {reader next : Reader} {link after : Link σ} (gathered : β),
      reader.read backend.engine link = ((.ok true, next), after) →
        ∃ more, take next after gathered = .ok more)
    (wanted : β → Bool) (stage : Stage σ β) :
    ∃ last, Goes backend.engine wanted take stage last ∧
      (wanted last.gathered = false ∨ wanted last.gathered = true ∧
        ∃ answer next after,
          last.reader.read backend.engine last.link = ((answer, next), after) ∧
            answer ≠ .ok true) := by
  obtain ⟨reader, gathered, link⟩ := stage
  induction reader, gathered, link using Reader.gather.induct backend wanted take with
  | case1 reader gathered link isWanted error next after outcome =>
      exact ⟨_, .here _, .inr ⟨isWanted, _, _, _, outcome, nofun⟩⟩
  | case2 reader gathered link isWanted next after outcome =>
      exact ⟨_, .here _, .inr ⟨isWanted, _, _, _, outcome, nofun⟩⟩
  | case3 reader gathered link isWanted next after outcome error refused =>
      obtain ⟨more, taken⟩ := takes gathered outcome
      cases refused.symm.trans taken
  | case4 reader gathered link isWanted next after outcome more taken induction =>
      obtain ⟨last, goes, isLast⟩ := induction
      exact ⟨last, .row isWanted outcome taken goes, isLast⟩
  | case5 reader gathered link isUnwanted =>
      exact ⟨_, .here _, .inl (Bool.eq_false_iff.mpr isUnwanted)⟩

theorem Goes.gather_eq (goes : Goes backend.engine wanted take stage last) (other : β → Bool)
    (isWanted : ∀ {gathered}, wanted gathered = true → other gathered = true)
    (lift : Error → ε) :
    stage.gather backend other take lift = last.gather backend other take lift := by
  induction goes with
  | here => rfl
  | row wants reads taken goes induction =>
      rw [← induction, gather, Reader.gather_of_row (isWanted wants) reads, taken]
      rfl

theorem gather_of_enough (isEnough : wanted stage.gathered = false) :
    stage.gather backend wanted take lift = ((.ok stage.gathered, stage.reader), stage.link) := by
  rw [gather, Reader.gather, if_neg (by simp [isEnough])]

theorem gather_of_over {answer : Except Error Bool} {next : Reader} {after : Link σ}
    (isWanted : wanted stage.gathered = true)
    (reads : stage.reader.read backend.engine stage.link = ((answer, next), after))
    (isNoRow : answer ≠ .ok true) :
    stage.gather backend wanted take lift =
      (((answer.mapError lift).map fun _ => stage.gathered, next), after) := by
  rcases answer with error | (_ | _)
  · exact Reader.gather_of_error isWanted reads
  · exact Reader.gather_of_end isWanted reads
  · exact absurd rfl isNoRow

end Stage

end EmbeddedSql
