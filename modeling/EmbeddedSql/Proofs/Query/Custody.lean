import EmbeddedSql.Proofs.Connection.Custody
import EmbeddedSql.Proofs.Query.Lifecycle

/-! Whole queries hand back every statement that they make. -/

namespace EmbeddedSql.Mirror

open Query

variable {σ τ : Type} {backend : Backend σ} {image : Backend τ}

/-! ## Rows -/

section
variable {mirror : Mirror backend.engine image.engine} {reader : Reader} {link : Link σ}
  {state : τ} (suits : mirror.Suits reader.statement link state)
include suits

theorem Suits.columnJson (column : Nat) :
    columnJson image.engine reader column (link.withEngine state) =
      columnJson backend.engine reader column link := by
  rw [Query.columnJson, Query.columnJson, suits.cell]

theorem Suits.decodeFrom (left column : Nat) (row : Row) :
    decodeFrom image.engine reader (link.withEngine state) left column row =
      decodeFrom backend.engine reader link left column row := by
  induction left generalizing column row with
  | zero => rfl
  | succ left induction =>
      simp only [Query.decodeFrom, Reader.nameString, suits.name, suits.columnJson, induction]

theorem Suits.decodeRow :
    decodeRow image.engine reader (link.withEngine state) =
      decodeRow backend.engine reader link := by
  simp only [Query.decodeRow, suits.columnCount, suits.decodeFrom]

end

/-! ## Parameters -/

variable (mirror : Mirror backend.engine image.engine) {before : Situation}

section
variable {statement : StatementHandle} (holds : before.Holds statement)
  (sameGrowth : image.growth = backend.growth)
include holds sameGrowth

theorem keeps_bindValue (index : Int32) (value : Json) :
    mirror.Keeps before (bindValue backend.engine backend.growth statement index value)
      (bindValue image.engine image.growth statement index value) := by
  rw [sameGrowth]
  exact .ofConnection (mirror.keeps_bindParameter holds _ _ _)

theorem keeps_bindFrom (count position : Nat) (values : List Json) :
    mirror.Keeps before (bindFrom backend.engine backend.growth statement count position values)
      (bindFrom image.engine image.growth statement count position values) := by
  induction values generalizing position with
  | nil => exact .pure rfl
  | cons value rest induction =>
      have binds := mirror.keeps_bindValue holds sameGrowth (Int32.ofNat position) value
      unfold bindFrom
      split
      · exact .throwBind rfl
      · exact binds.andThen (fun _ => induction _) fun _ => rfl

theorem keeps_bindValues (values : List Json) :
    mirror.Keeps before (bindValues backend.engine backend.growth statement values)
      (bindValues image.engine image.growth statement values) :=
  mirror.keeps_bindFrom holds sameGrowth _ _ values

end

/-! ## Queries -/

section
variable (isSound : before.IsSound) (sameGrowth : image.growth = backend.growth)
  (sql : Text) (values : List Json)
include isSound sameGrowth

theorem runs_prepareQuery :
    mirror.Runs before (Query.prepare backend sql values) (Query.prepare image sql values)
      (before.Lends (·.statement)) := by
  have creates : mirror.Runs before
      (Call.ofConnection (Connection.createCommand backend sql))
      (Call.ofConnection (Connection.createCommand image sql)) (before.Lends (·.statement)) := by
    refine .ofConnection ((mirror.runs_createCommand isSound sameGrowth sql).mono ?_)
    rintro (error | command) next isLeft <;> exact isLeft
  refine creates.bind ?_ fun _ _ isLeft => isLeft
  intro command lent lends
  rcases lends.ok isSound with ⟨_, holds, continues⟩
  have binds := mirror.keeps_bindValues holds sameGrowth values
  refine (mirror.runs_dropOnError holds binds).bind ?_ ?_
  · rintro _ _ rfl
    exact .pure lends
  · rintro _ _ rfl
    exact continues

theorem opens_execute :
    mirror.Opens before (execute backend sql values) (execute image sql values) := by
  refine mirror.opens_borrowing isSound (mirror.runs_prepareQuery isSound sameGrowth sql values) ?_
  intro command lent lentIsSound holds
  have counts : mirror.Keeps lent (Call.ofConnection (command.executeNonQuery backend))
      (Call.ofConnection (command.executeNonQuery image)) :=
    .ofConnection (mirror.keeps_executeCommand holds)
  refine (mirror.runs_dropOnError holds counts).bind ?_ ?_
  · intro rows next isSame
    rw [show next = lent from isSame]
    refine .ofConnection ((mirror.runs_finalizeCommand holds).bind ?_ ?_)
    · rintro _ _ rfl
      have isSound := lentIsSound.without command.statement
      rw [sameGrowth]
      exact (mirror.opens_changes backend.growth isSound).andThen isSound
        fun changes between isSound =>
          (mirror.opens_lastInsertRowid backend.growth isSound).andThen isSound
            fun rowid next _ => .pure (.refl _)
    · rintro _ _ rfl
      exact .refl _
  · rintro _ _ rfl
    exact .refl _

theorem opens_fetch (limit : Option Nat) :
    mirror.Opens before (fetch backend sql values limit) (fetch image sql values limit) := by
  refine mirror.opens_borrowing isSound (mirror.runs_prepareQuery isSound sameGrowth sql values) ?_
  intro command lent _ holds
  refine Runs.bind (mirror.runs_dropOnError holds ?reads) ?_ ?_
  case reads =>
    have makes : mirror.Runs lent (Call.ofConnection command.executeReader)
        (Call.ofConnection command.executeReader)
        fun result next => next = lent ∧ ∀ reader, result = .ok reader → reader = command.reader := by
      refine .ofConnection (mirror.runs_commandReader.mono ?_)
      rintro (error | reader) next ⟨isSame, isReader⟩
      · exact ⟨isSame, nofun⟩
      · exact ⟨isSame, fun other isOk => isReader other (congrArg Except.ok (Except.ok.inj isOk))⟩
    refine makes.bind ?_ fun _ _ isLeft => isLeft.1
    rintro reader next ⟨isSame, isReader⟩
    rw [isSame, isReader reader rfl]
    exact mirror.keeps_gather holds fun reader link state rows suits => by rw [suits.decodeRow]
  · intro rows next isSame
    rw [show next = lent from isSame]
    have finalizes : mirror.Runs lent (Call.ofConnection (command.finalize backend))
        (Call.ofConnection (command.finalize image))
        fun _ next => next = lent.without command.statement :=
      .ofConnection (mirror.runs_finalizeCommand holds)
    refine finalizes.bind ?_ ?_
    · rintro _ _ rfl
      exact .pure (.refl _)
    · rintro _ _ rfl
      exact .refl _
  · rintro _ _ rfl
    exact .refl _

theorem opens_fetchAll :
    mirror.Opens before (fetchAll backend sql values) (fetchAll image sql values) :=
  mirror.opens_fetch isSound sameGrowth sql values none

theorem opens_fetchOne :
    mirror.Opens before (fetchOne backend sql values) (fetchOne image sql values) := by
  refine (mirror.opens_fetch isSound sameGrowth sql values _).andThen isSound
    fun rows between _ => ?_
  rcases rows with _ | ⟨row, _ | _⟩
  · exact .pure (.refl _)
  · exact .pure (.refl _)
  · exact .throw (.refl _)

end

/-! ## Transactions -/

section
variable (isSound : before.IsSound) (sameGrowth : image.growth = backend.growth)
include isSound sameGrowth

theorem opens_control (text : String) :
    mirror.Opens before (control backend text) (control image text) := by
  have opens : mirror.Opens before
      (Call.ofConnection (Connection.executeNonQuery backend (.ofString text)))
      (Call.ofConnection (Connection.executeNonQuery image (.ofString text))) :=
    .ofConnection (mirror.opens_executeNonQuery isSound sameGrowth _)
  exact opens.andThen isSound fun _ _ _ => .pure (.refl _)

omit isSound in
theorem opens_executeEach (statements : List (Text × List Json)) (before : Situation)
    (isSound : before.IsSound) :
    mirror.Opens before (executeEach backend statements) (executeEach image statements) := by
  induction statements generalizing before with
  | nil => exact .pure (.refl _)
  | cons statement rest induction =>
      exact (mirror.opens_execute isSound sameGrowth _ _).andThen isSound
        fun result between isSound =>
          Opens.andThen isSound (induction between isSound) fun _ _ _ => .pure (.refl _)

theorem opens_rollback (error : Query.Error) :
    mirror.Opens before (rollback backend error) (rollback image error) := by
  intro link state valid same isSeen
  rcases mirror.opens_control isSound sameGrowth "ROLLBACK" link state valid same isSeen with
    ⟨next, images, same, valid, continues⟩
  unfold rollback
  rw [images]
  rcases outcome : control backend "ROLLBACK" link with ⟨error | answer, after⟩ <;>
    rw [outcome] at continues valid same
  · exact ⟨next, rfl, same, valid, continues⟩
  · exact ⟨next, rfl, same, valid, continues⟩

theorem opens_executeTransaction (statements : List (Text × List Json)) :
    mirror.Opens before (executeTransaction backend statements)
      (executeTransaction image statements) := by
  refine (mirror.opens_control isSound sameGrowth _).andThen isSound fun _ begun isSound => ?_
  refine Opens.orElse isSound ?_ fun error between isSound =>
    mirror.opens_rollback isSound sameGrowth error
  refine Opens.andThen isSound
    (mirror.opens_executeEach sameGrowth statements begun isSound) fun results between isSound => ?_
  exact (mirror.opens_control isSound sameGrowth _).andThen isSound fun _ _ _ => .pure (.refl _)

end

end EmbeddedSql.Mirror
