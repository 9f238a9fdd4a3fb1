import EmbeddedSql.Proofs.Connection.Binding
import EmbeddedSql.Proofs.Query.Rewinding

/-! What JSON values set: the first of them the first slot, and so on, up to the first one
that finds none. -/

namespace EmbeddedSql.Binding

open Query

variable {σ : Type} {backend : Backend σ} {laws : Binding backend.engine}
  {watch : Watch laws.toCustody} {link : Link σ} {statement : StatementHandle}

def filling (laws : Binding backend.engine) (position : Nat) : List Json → List Slots.Change
  | [] => []
  | value :: rest =>
      laws.filling (position + 1) rest ++ [.set position ((argumentOf value).kept laws.ofWide)]

def capacity (backend : Backend σ) (statement : StatementHandle) (state : σ) : Nat :=
  min (backend.engine.parameterCount statement state) 0x7FFFFFFF

def filled (laws : Binding backend.engine) (capacity position : Nat) (values : List Json) :
    List Slots.Change :=
  laws.filling position (values.take (capacity + 1 - position))

theorem filled_of_lt {capacity position : Nat} (isBeyond : capacity < position)
    (values : List Json) : laws.filled capacity position values = [] := by
  rw [filled, Nat.sub_eq_zero_of_le isBeyond]
  rfl

theorem foldr_filled_of_le {capacity position : Nat} (isRoom : position ≤ capacity)
    (value : Json) (rest : List Json) (slots : Slots) :
    (laws.filled capacity position (value :: rest)).foldr Slots.Change.apply slots =
      (laws.filled capacity (position + 1) rest).foldr Slots.Change.apply
        (Function.update slots position ((argumentOf value).kept laws.ofWide)) := by
  rw [filled, Nat.succ_sub isRoom, List.take_succ_cons, filling, List.foldr_append, filled,
    Nat.add_sub_add_right]
  rfl

/-- A value goes to the slot at its position, and the rest to those after it. Where there is no
slot it is refused, and the rest is not looked at. -/
theorem bindFrom_cons (rests : laws.Rests watch statement link) (count : Nat) {position : Nat}
    (isPosition : 1 ≤ position) (isFound : position ≤ 0x7FFFFFFF) {value : Json}
    (fits : (argumentOf value).fits = true) (rest : List Json) :
    let slotCount := backend.engine.parameterCount statement link.engine
    let bind := Query.bindFrom backend.engine backend.growth statement count
    (position ≤ slotCount ∧ ∃ last, laws.Rests watch statement last ∧
        backend.engine.parameterCount statement last.engine = slotCount ∧
          laws.slots last.engine statement =
              Function.update (laws.slots link.engine statement) position
                ((argumentOf value).kept laws.ofWide) ∧
            bind position (value :: rest) link = bind (position + 1) rest last) ∨
      slotCount < position ∧ ∃ last,
        laws.slots last.engine statement = laws.slots link.engine statement ∧
          bind position (value :: rest) link =
            (.error (.connection (.bindFailed Status.range)), last) := by
  intro slotCount bind
  let parameter : Parameter := .index (.ofNat position)
  have isAt : parameter.position backend.engine statement link.engine = position :=
    Int32.toInt_ofNat_of_lt (by omega)
  have assigns := bind_assigns rests backend.growth parameter fits
  have sameCount := bind_count rests backend.growth parameter (argumentOf value)
  have restsAfter := rests.bindParameter backend.growth parameter (argumentOf value)
  have binds : bind position (value :: rest) link =
      ((bindValue backend.engine backend.growth statement (.ofNat position) value) >>= fun _ =>
        bind (position + 1) rest) link := by
    show bindFrom .. = _
    rw [bindFrom, if_neg (Nat.not_lt.mpr isFound)]
  rw [EmbeddedSql.Call.bind_apply, bindValue, Call.ofConnection] at binds
  rw [isAt] at assigns
  rcases outcome : parameter.bind backend.engine backend.growth statement (argumentOf value) link
    with ⟨refusal, last⟩
  rw [outcome] at assigns sameCount restsAfter binds
  cases assigns with
  | taken _ inRange sets => exact .inl ⟨by omega, last, restsAfter, sameCount, sets, binds⟩
  | refused isOutside keeps => exact .inr ⟨by omega, last, keeps, binds⟩

theorem bindFrom_slots (rests : laws.Rests watch statement link) (count : Nat) {position : Nat}
    (isPosition : 1 ≤ position) {values : List Json}
    (fit : ∀ value ∈ values, (argumentOf value).fits = true) :
    laws.slots
        (Query.bindFrom backend.engine backend.growth statement count position values link).2.engine
        statement =
      (laws.filled (capacity backend statement link.engine) position values).foldr
        Slots.Change.apply (laws.slots link.engine statement) := by
  induction values generalizing position link with
  | nil =>
      rw [filled, List.take_nil]
      rfl
  | cons value rest induction =>
      by_cases isBeyond : 0x7FFFFFFF < position
      · rw [filled_of_lt (by rw [capacity]; omega), Query.bindFrom, if_pos isBeyond]
        rfl
      obtain ⟨fits, fit⟩ := List.forall_mem_cons.mp fit
      rcases bindFrom_cons rests count isPosition (Nat.not_lt.mp isBeyond) fits rest with
        ⟨isRoom, last, restsAfter, sameCount, sets, binds⟩ | ⟨isFull, last, keeps, binds⟩
      · have sameCapacity : capacity backend statement last.engine =
            capacity backend statement link.engine := by rw [capacity, sameCount, capacity]
        rw [binds, foldr_filled_of_le (by rw [capacity]; omega), ← sets, ← sameCapacity]
        exact induction restsAfter (Nat.le_add_left 1 position) fit
      · rw [binds, filled_of_lt (by rw [capacity]; omega)]
        exact keeps

theorem bindValues_slots (rests : laws.Rests watch statement link) {values : List Json}
    (fit : ∀ value ∈ values, (argumentOf value).fits = true) :
    laws.slots (Query.bindValues backend.engine backend.growth statement values link).2.engine
        statement =
      (laws.filled (capacity backend statement link.engine) 1 values).foldr
        Slots.Change.apply (laws.slots link.engine statement) :=
  bindFrom_slots rests _ (Nat.le_refl 1) fit

end EmbeddedSql.Binding
