import EmbeddedSql.Proofs.Storage.Binding
import EmbeddedSql.Proofs.Storage.Likeness

/-! The program of a statement is always one that its text has been compiled to. -/

namespace EmbeddedSql.Storage

def Statement.IsCompiled (statement : Statement) : Prop :=
  ∃ context circumstances setting,
    Plan.Program.compile context circumstances statement.parsed statement.body =
      .ok (statement.program, setting)

def IsCompiled (store : Store) : Prop :=
  ∀ statement ∈ store.statements, statement.IsCompiled

namespace Store

theorem isCompiled_of_detail {store after : Store} {hidden : Option StatementHandle}
    (same : after.detail hidden = store.detail hidden) (isCompiled : IsCompiled store) :
    IsCompiled after := by
  have shown (store : Store) : IsCompiled store ↔ ∀ planned ∈ (store.detail hidden).statements,
      ∃ context circumstances setting, Plan.Program.compile context circumstances
        planned.1.parsed planned.1.body = .ok (planned.2, setting) := by
    show _ ↔ ∀ planned ∈ store.statements.map fun statement =>
      (statement.entry hidden, statement.program), _
    rw [List.forall_mem_map]
    rfl
  rw [shown] at isCompiled ⊢
  rwa [same]

theorem isCompiled_updateStatement {store : Store} {name : StatementHandle}
    (bindings : Array Value → Array Value) (isCompiled : IsCompiled store) :
    IsCompiled (store.updateStatement name fun statement =>
      { statement with bindings := bindings statement.bindings }) := by
  refine List.forall_mem_map.mpr fun statement isThere => ?_
  split
  · exact isCompiled statement isThere
  · exact isCompiled statement isThere

/-! ## Compiling -/

section
variable {store after : Store} {statement : Statement}
  (listsOnce : store.outline.ListsOnce)
  (isFound : store.statement? statement.handle = some statement)
  (isCompiled : IsCompiled store)
include listsOnce isFound isCompiled

theorem recompile_isCompiled {recompiled : Statement}
    (isOk : store.recompile statement = .ok (after, recompiled)) : IsCompiled after := by
  unfold recompile at isOk
  dsimp only at isOk
  split at isOk
  · cases isOk
  rename_i acquired isAcquired
  have same : acquired.detail none = store.detail none := acquire_detail isAcquired
  repeat' split at isOk
  all_goals cases isOk
  · exact isCompiled_of_detail same isCompiled
  rename_i program setting compiles _ isAgain
  refine @isCompiled_of_detail _ _ none (acquire_detail isAgain) ?_
  refine List.forall_mem_map.mpr fun other isThere => ?_
  split
  case isFalse => exact isCompiled_of_detail same isCompiled other isThere
  rename_i isNamed
  have sameSketch := sketch_of_detail same
  have listsOnce : acquired.outline.ListsOnce := outline_of_sketch sameSketch ▸ listsOnce
  obtain ⟨later, isLater, sameEntry⟩ := statement?_of_sketch sameSketch isFound
  rw [← isNamed, statement?_of_mem listsOnce isThere] at isLater
  cases isLater
  have isAnew : ∃ context circumstances setting, Plan.Program.compile context circumstances
      statement.parsed statement.body = .ok (program, setting) := ⟨_, _, setting, compiles⟩
  have sameParsed : other.parsed = statement.parsed := congrArg Entry.parsed sameEntry
  have sameBody : other.body = statement.body := congrArg Entry.body sameEntry
  rw [← sameParsed, ← sameBody] at isAnew
  exact isAnew

theorem start_isCompiled : IsCompiled (started (store.start statement)) := by
  unfold start
  dsimp only
  split
  · exact isCompiled_of_detail (store.fail_detail ..) isCompiled
  rename_i ready recompiled isRecompiled
  have before := recompile_isCompiled listsOnce isFound isCompiled isRecompiled
  rw [recompile_handle isRecompiled]
  split
  · exact isCompiled_of_detail (ready.fail_detail ..) before
  rename_i client _
  have executes : (ready.execute client recompiled).1.detail (some statement.handle) =
      ready.detail (some statement.handle) :=
    ready.execute_detail client recompiled
  split <;> rename_i executed <;> rw [executed] at executes
  · exact isCompiled_of_detail ((fail_detail ..).trans executes) before
  · exact isCompiled_of_detail ((setPhase_detail ..).trans executes) before

end

section
variable {store : Store} (isCompiled : IsCompiled store)
include isCompiled

theorem step_isCompiled (listsOnce : store.outline.ListsOnce) (name : StatementHandle) :
    IsCompiled (store.step name).2 := by
  unfold step
  split
  · exact isCompiled
  rename_i statement isFound
  cases handle_of_statement? isFound
  split
  · exact isCompiled_of_detail (advance_detail _) isCompiled
  have starts := start_isCompiled listsOnce isFound isCompiled
  split <;> rename_i isStarted <;> rw [isStarted] at starts
  · exact starts
  · exact isCompiled_of_detail (advance_detail _) starts

theorem prepare_isCompiled (database : DatabaseHandle) (sql : Text) :
    IsCompiled (store.prepare database sql).2 := by
  intro statement isThere
  rcases store.prepare_statements database sql with
    same | ⟨client, parsed, body, schema, program, setting, compiles, added⟩
  · exact isCompiled statement (same ▸ isThere)
  rw [added] at isThere
  rcases List.mem_append.mp isThere with wasThere | isNew
  · exact isCompiled statement wasThere
  · obtain ⟨database, compiles⟩ := compileFor_compiles compiles
    rw [List.mem_singleton.mp isNew]
    exact ⟨_, _, setting, compiles⟩

end

end Store

theorem custody_isCompiled : (custody.within custody_listsOnce).Keeps IsCompiled where
  openDatabase {store path mode} _ isCompiled := by
    show ∀ statement ∈ (store.openDatabase path mode).2.statements, _
    rw [store.openDatabase_statements path mode]
    exact isCompiled
  closeDatabase _ isCompiled _ _ := fun statement isThere =>
    isCompiled statement (List.mem_filter.mp isThere).1
  prepare _ isCompiled _ := Store.prepare_isCompiled isCompiled _ _
  finalize {store name} _ isCompiled _ := fun statement isThere =>
    Store.isCompiled_of_detail (store.reset_detail name) isCompiled statement
      (List.mem_filter.mp isThere).1
  step valid isCompiled _ := Store.step_isCompiled isCompiled valid.2 _
  reset {store name} _ isCompiled _ := Store.isCompiled_of_detail (store.reset_detail name) isCompiled
  bind {store name index argument} _ isCompiled _ := by
    show IsCompiled (store.bind name index argument).2
    rcases store.bind_cases name index argument with same | ⟨value, same⟩ <;> rw [same]
    · exact isCompiled
    · exact Store.isCompiled_updateStatement (·.setIfInBounds (index.toNat - 1) value) isCompiled
  clearBindings {store name} _ isCompiled _ :=
    Store.isCompiled_updateStatement (·.map fun _ => .null) isCompiled

end EmbeddedSql.Storage
