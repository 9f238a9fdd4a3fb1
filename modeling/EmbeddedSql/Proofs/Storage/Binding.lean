import EmbeddedSql.Proofs.Engine.Binding
import EmbeddedSql.Proofs.Engine.Naming
import EmbeddedSql.Proofs.Storage.Rewinding

/-! The slots of statements in the store. A statement has one for each of its parameters, and
only giving it values changes what is in them. -/

namespace EmbeddedSql.Storage

/-! ## Arrays of values -/

def slotsOf (bindings : Array Value) : Slots := fun position =>
  if 1 ≤ position then bindings[position.toNat - 1]?.getD .null else .null

theorem slotsOf_replicate (count : Nat) : slotsOf (Array.replicate count .null) = .empty := by
  funext position
  unfold slotsOf
  split
  · rw [Array.getElem?_replicate]
    split <;> rfl
  · rfl

theorem slotsOf_map_null (bindings : Array Value) :
    slotsOf (bindings.map fun _ => .null) = .empty := by
  funext position
  unfold slotsOf
  split
  · rw [Array.getElem?_map]
    cases bindings[position.toNat - 1]? <;> rfl
  · rfl

theorem slotsOf_set {bindings : Array Value} {position : Int} (isPosition : 1 ≤ position)
    (isInRange : position ≤ bindings.size) (value : Value) :
    slotsOf (bindings.setIfInBounds (position.toNat - 1) value) =
      Function.update (slotsOf bindings) position value := by
  funext other
  by_cases isSame : other = position
  · subst isSame
    rw [Function.update_self, slotsOf, if_pos isPosition, Array.getElem?_setIfInBounds, if_pos rfl,
      if_pos (by omega), Option.getD_some]
  rw [Function.update_of_ne isSame]
  unfold slotsOf
  split
  · rw [Array.getElem?_setIfInBounds, if_neg (by omega)]
  · rfl

theorem eq_of_slotsOf {bindings others : Array Value} (sameSize : others.size = bindings.size)
    (same : slotsOf others = slotsOf bindings) : others = bindings := by
  refine Array.ext sameSize fun index isIndex isIndexHere => ?_
  have isPosition : (1 : Int) ≤ index + 1 := by omega
  have isSlot : ((index : Int) + 1).toNat - 1 = index := by omega
  simpa [slotsOf, isPosition, isSlot, isIndex, isIndexHere] using congrFun same (index + 1)

theorem valueOf_eq (argument : Argument) :
    Store.valueOf argument = argument.kept (Lenient.toUtf8 ∘ Lenient.dropByteOrderMark) := by
  rcases argument with _ | _ | _ | ⟨_ | _⟩ | _ <;> rfl

/-! ## Room for all values -/

def Entry.IsFitted (entry : Entry) : Prop :=
  entry.bindings.size = entry.parsed.parameters.count

def IsFitted (store : Store) : Prop :=
  ∀ statement ∈ store.statements, (statement.entry none).IsFitted

namespace Store

variable {store after : Store} {name : StatementHandle}

theorem isFitted_iff (hidden : Option StatementHandle) :
    IsFitted store ↔ ∀ entry ∈ (store.sketch hidden).statements, entry.IsFitted := by
  show _ ↔ ∀ entry ∈ store.statements.map (·.entry hidden), entry.IsFitted
  rw [List.forall_mem_map]
  rfl

theorem isFitted_of_sketch {hidden : Option StatementHandle}
    (same : after.sketch hidden = store.sketch hidden) (isFitted : IsFitted store) :
    IsFitted after := by
  rw [isFitted_iff hidden] at isFitted ⊢
  rwa [same]

theorem isFitted_updateStatement {change : Statement → Statement}
    (keeps : ∀ statement, (statement.entry none).IsFitted → ((change statement).entry none).IsFitted)
    (isFitted : IsFitted store) : IsFitted (store.updateStatement name change) := by
  refine List.forall_mem_map.mpr fun statement isThere => ?_
  split
  · exact keeps statement (isFitted statement isThere)
  · exact isFitted statement isThere

theorem isFitted_filter {keeps : Statement → Bool} (isFitted : IsFitted store) :
    IsFitted { store with statements := store.statements.filter keeps } :=
  fun statement isThere => isFitted statement (List.mem_filter.mp isThere).1

theorem prepare_isFitted (database : DatabaseHandle) (sql : Text) (isFitted : IsFitted store) :
    IsFitted (store.prepare database sql).2 := by
  intro statement isThere
  rcases store.prepare_statements database sql with same | ⟨_, _, _, _, _, _, -, added⟩
  · exact isFitted statement (same ▸ isThere)
  rw [added] at isThere
  rcases List.mem_append.mp isThere with wasThere | isNew
  · exact isFitted statement wasThere
  · rw [List.mem_singleton.mp isNew]
    exact Array.size_replicate

end Store

theorem custody_isFitted : custody.Keeps IsFitted where
  openDatabase {store path mode} _ isFitted := by
    show ∀ statement ∈ (store.openDatabase path mode).2.statements, _
    rw [store.openDatabase_statements path mode]
    exact isFitted
  closeDatabase _ isFitted _ _ := Store.isFitted_filter isFitted
  prepare _ isFitted _ := Store.prepare_isFitted _ _ isFitted
  finalize {store name} _ isFitted _ :=
    Store.isFitted_filter (Store.isFitted_of_sketch (store.reset_sketch name) isFitted)
  step {store name} _ isFitted _ := Store.isFitted_of_sketch (store.step_sketch name) isFitted
  reset {store name} _ isFitted _ := Store.isFitted_of_sketch (store.reset_sketch name) isFitted
  bind {store name index argument} _ isFitted _ := by
    show IsFitted (store.bind name index argument).2
    rcases store.bind_cases name index argument with same | ⟨value, same⟩ <;> rw [same]
    · exact isFitted
    · exact Store.isFitted_updateStatement
        (fun _ fits => (Array.size_setIfInBounds ..).trans fits) isFitted
  clearBindings _ isFitted _ :=
    Store.isFitted_updateStatement (fun _ fits => Array.size_map.trans fits) isFitted

/-! ## Slots -/

namespace Store

variable {store after : Store} {name : StatementHandle}

def slots (store : Store) (name : StatementHandle) : Slots :=
  ((store.entryAt? name).map fun entry => slotsOf entry.bindings).getD .empty

theorem slots_of_entry {entry : Entry} (isThere : store.entryAt? name = some entry) :
    store.slots name = slotsOf entry.bindings := by
  rw [slots, isThere, Option.map_some, Option.getD_some]

theorem slots_of_sketch (same : after.sketch (some name) = store.sketch (some name)) :
    after.slots name = store.slots name := by
  have shown (store : Store) : store.slots name =
      (((store.sketch (some name)).entryAt? name).map fun entry => slotsOf entry.bindings).getD
        .empty := by
    rw [slots, sketch_entryAt?, entryAt?, Option.map_map, Option.map_map]
    rfl
  rw [shown, shown, same]

theorem slots_updateStatement (bindings : Array Value → Array Value) (changed : Slots → Slots)
    {statement : Statement} (isFound : store.statement? name = some statement)
    (changes : slotsOf (bindings statement.bindings) = changed (slotsOf statement.bindings)) :
    (store.updateStatement name fun statement =>
        { statement with bindings := bindings statement.bindings }).slots name =
      changed (store.slots name) := by
  have isThere : store.entryAt? name = some (statement.entry none) := by
    rw [entryAt?, isFound, Option.map_some]
  have changesEntry : (store.updateStatement name fun statement =>
      { statement with bindings := bindings statement.bindings }).entryAt? name =
        (store.entryAt? name).map fun entry => { entry with bindings := bindings entry.bindings } :=
    entryAt?_updateStatement_self (fun _ => rfl) fun _ => rfl
  rw [isThere, Option.map_some] at changesEntry
  rw [slots_of_entry changesEntry, slots_of_entry isThere]
  exact changes

theorem parameterCount_of_fitted {statement : Statement}
    (isFound : store.statement? name = some statement) (isFitted : IsFitted store) :
    engine.parameterCount name store = statement.bindings.size := by
  have fits : statement.bindings.size = statement.parsed.parameters.count :=
    isFitted statement (List.mem_of_find?_eq_some isFound)
  simp [engine, isFound, fits]

theorem bind_parameterCount (index : Int) (argument : Argument) :
    engine.parameterCount name (store.bind name index argument).2 =
      engine.parameterCount name store := by
  rcases store.bind_cases name index argument with same | ⟨value, same⟩ <;> rw [same]
  dsimp only [engine]
  rw [statement?_updateStatement (by exact fun _ => rfl)]
  cases store.statement? name with
  | none => rfl
  | some statement =>
      rw [Option.map_some, if_pos rfl]
      rfl

theorem fits_iff {argument : Argument} :
    argument.fits = true ↔ ¬maxLength < argument.byteLength :=
  decide_eq_true_iff.trans Nat.not_lt.symm

theorem maxLength_of_long {argument : Argument} (isLong : argument.fits = false) :
    maxLength < argument.byteLength :=
  Nat.not_le.mp (of_decide_eq_false isLong)

theorem bind_slots {statement : Statement} (isFound : store.statement? name = some statement)
    (isFitted : IsFitted store) (isReady : statement.phase = .ready) {argument : Argument}
    (fits : argument.fits = true) {index : Int} (isIndex : 1 ≤ index)
    (isInRange : index ≤ engine.parameterCount name store) :
    (store.bind name index argument).1 = Status.ok ∧
      (store.bind name index argument).2.slots name =
        Function.update (store.slots name) index
          (argument.kept (Lenient.toUtf8 ∘ Lenient.dropByteOrderMark)) := by
  rw [parameterCount_of_fitted isFound isFitted] at isInRange
  unfold bind
  rw [isFound]
  dsimp only
  rw [isReady]
  dsimp only
  rw [if_neg (by omega), if_neg (fits_iff.mp fits), ← valueOf_eq]
  refine ⟨rfl, ?_⟩
  exact slots_updateStatement (·.setIfInBounds (index.toNat - 1) (valueOf argument))
    (Function.update · index _) isFound (slotsOf_set isIndex isInRange _)

theorem bind_long {statement : Statement} (isFound : store.statement? name = some statement)
    (isFitted : IsFitted store) (isReady : statement.phase = .ready) {argument : Argument}
    (isLong : argument.fits = false) {index : Int} (isIndex : 1 ≤ index)
    (isInRange : index ≤ engine.parameterCount name store) :
    (store.bind name index argument).1 = Status.tooBig := by
  rw [parameterCount_of_fitted isFound isFitted] at isInRange
  unfold bind
  rw [isFound]
  dsimp only
  rw [isReady]
  dsimp only
  rw [if_neg (by omega), if_pos (maxLength_of_long isLong)]

theorem bind_wide {units : Utf16.Units} (fits : (Argument.text (.utf16 units)).fits = true)
    (fitsUtf8 :
      (Argument.text (.utf8 (Lenient.toUtf8 (Lenient.dropByteOrderMark units)))).fits = true)
    (index : Int) :
    store.bind name index (.text (.utf16 units)) =
      store.bind name index
        (.text (.utf8 (Lenient.toUtf8 (Lenient.dropByteOrderMark units)))) := by
  simp only [bind, if_neg (fits_iff.mp fits), if_neg (fits_iff.mp fitsUtf8)]
  rfl

theorem bind_outside {statement : Statement} (isFound : store.statement? name = some statement)
    (isFitted : IsFitted store) (isReady : statement.phase = .ready) (argument : Argument)
    {index : Int} (isOutside : ¬(1 ≤ index ∧ index ≤ engine.parameterCount name store)) :
    store.bind name index argument = (Status.range, store) := by
  rw [parameterCount_of_fitted isFound isFitted] at isOutside
  unfold bind
  rw [isFound]
  dsimp only
  rw [isReady]
  dsimp only
  exact if_pos (by omega)

end Store

def binding : Binding backend.engine where
  toRewinding := rewinding.within custody_isFitted
  slots := Store.slots
  ofWide := Lenient.toUtf8 ∘ Lenient.dropByteOrderMark
  spares_slots held := by
    have spares := (custody_spares fun entry => slotsOf entry.bindings = held).within custody_isFitted
    refine spares.congr ?_ ?_
    · intro store name _ inUse isHeld
      obtain ⟨entry, isThere⟩ := Option.isSome_iff_exists.mp (entryAt?_of_inUse inUse)
      exact ⟨entry, isThere, (Store.slots_of_entry isThere).symm.trans isHeld⟩
    · rintro store name ⟨entry, isThere, isHeld⟩
      exact (Store.slots_of_entry isThere).trans isHeld
  prepared_slots {store database sql name} valid _ isPrepared := by
    obtain ⟨-, parsed, body, -, program, -, -, -, -, isFound⟩ :=
      Store.prepare_new valid.1 isPrepared
    have isThere : ((store.prepare database sql).2.entryAt? name) =
        some ((Store.newStatement name database parsed body program).entry none) := by
      rw [Store.entryAt?, isFound, Option.map_some]
    exact (Store.slots_of_entry isThere).trans (slotsOf_replicate _)
  stepped_slots {store name} _ _ := Store.slots_of_sketch (store.step_sketch name)
  reset_slots {store name} _ _ := Store.slots_of_sketch (store.reset_sketch name)
  bound_slots fits valid inUse isReset := by
    obtain ⟨statement, -, isFound, -⟩ := statement?_of_inUse inUse
    exact Store.bind_slots isFound valid.2 ((Store.isReset_iff isFound).mp isReset) fits
  bound_outside {store name index argument} valid inUse isReset isOutside := by
    obtain ⟨statement, -, isFound, -⟩ := statement?_of_inUse inUse
    have same := Store.bind_outside isFound valid.2 ((Store.isReset_iff isFound).mp isReset)
      argument isOutside
    have same : backend.engine.bind name index argument store = (Status.range, store) := same
    rw [same]
    exact ⟨rfl, rfl⟩
  bound_count _ _ := Store.bind_parameterCount _ _
  cleared_slots {store name} _ inUse := by
    obtain ⟨statement, -, isFound, -⟩ := statement?_of_inUse inUse
    refine ⟨rfl, ?_⟩
    exact Store.slots_updateStatement (·.map fun _ => .null) (fun _ => .empty) isFound
      (slotsOf_map_null _)

theorem isFitted_empty : IsFitted {} := fun _ isThere => absurd isThere List.not_mem_nil

theorem binding_empty : binding.Shows {} .none :=
  ⟨⟨custody_empty.1, isFitted_empty⟩, custody_empty.2⟩

/-! ## Wide text -/

def Store.keepsUtf8 (store : Store) (handle : DatabaseHandle) : Bool :=
  (store.client? handle).any fun client => (store.content client).encoding = .utf8

def wideBinding : WideBinding backend.engine where
  toBinding := binding
  KeepsUtf8 handle store := store.keepsUtf8 handle = true
  bound_wide fits fitsUtf8 _ _ _ := Store.bind_wide fits fitsUtf8 _
  bound_long isLong valid inUse isReset isIndex isInRange := by
    obtain ⟨statement, -, isFound, -⟩ := statement?_of_inUse inUse
    exact Store.bind_long isFound valid.2 ((Store.isReset_iff isFound).mp isReset) isLong isIndex
      isInRange

@[simp] theorem wideBinding_keepsUtf8 {handle : DatabaseHandle} {store : Store} :
    wideBinding.KeepsUtf8 handle store ↔ store.keepsUtf8 handle = true :=
  .rfl

/-! ## Names

The parser has found them for the parameters of a statement. -/

def Store.names (store : Store) (statement : StatementHandle) : Names :=
  (store.statement? statement).elim [] (·.parsed.parameters.names)

def naming : Naming backend.engine where
  toBinding := binding
  names := Store.names
  index_eq {store statement name} _ inUse _ := by
    obtain ⟨found, -, isFound, -⟩ := statement?_of_inUse inUse
    simp [backend, engine, Store.names, isFound, Sql.Parameters.number?]
  name_eq {store statement index} _ inUse := by
    obtain ⟨found, -, isFound, -⟩ := statement?_of_inUse inUse
    simp [backend, engine, Store.names, isFound, Sql.Parameters.name?]

@[simp] theorem naming_names : naming.names = Store.names := rfl

end EmbeddedSql.Storage
