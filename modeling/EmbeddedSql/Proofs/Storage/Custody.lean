import Mathlib.Data.List.Nodup
import EmbeddedSql.Proofs.Engine.Custody
import EmbeddedSql.Proofs.Storage.Sketch
import EmbeddedSql.Storage.Backend

/-! The store keeps its promises about handles: numbers are never given out again, and a
statement is listed until it is finalized. -/

namespace EmbeddedSql.Storage

/-! ## Pragmas -/

def isPragma : Sql.Statement → Bool
  | .pragma _ _ _ => true
  | _ => false

/-- Whether a text begins with a pragma, even if what comes after that is no SQL. -/
def textIsPragma (sql : Text) : Bool :=
  match Store.parse sql with
  | .ok parsed => parsed.statement.any isPragma
  | .error (_, leading) => leading.any isPragma

/-! ## Outlines

Running statements and what they do to databases make no difference to which handles a store has
given out. -/

@[ext]
structure Outline where
  clients : List DatabaseHandle
  statements : List (StatementHandle × DatabaseHandle)
  nextClient : Nat
  nextStatement : Nat

namespace Store

def outline (store : Store) : Outline where
  clients := store.clients.map (·.handle)
  statements := store.statements.map fun statement => (statement.handle, statement.client)
  nextClient := store.nextClient
  nextStatement := store.nextStatement

theorem outline_of_sketch {store after : Store} {hidden : Option StatementHandle}
    (same : after.sketch hidden = store.sketch hidden) : after.outline = store.outline := by
  have outlines (store : Store) : store.outline.statements =
      (store.sketch hidden).statements.map fun entry => (entry.handle, entry.client) := by
    simp [outline, sketch, Statement.entry, Function.comp_def]
  refine Outline.ext (congrArg Sketch.clients same) ?_ (congrArg Sketch.nextClient same)
    (congrArg Sketch.nextStatement same)
  rw [outlines, outlines, same]

variable (store : Store) (handle : DatabaseHandle)

@[simp] theorem updateClient_outline {change : Client → Client}
    (keeps : ∀ client, (change client).handle = client.handle) :
    (store.updateClient handle change).outline = store.outline := by
  have same : (store.updateClient handle change).detail none = store.detail none :=
    store.updateClient_detail handle keeps
  exact outline_of_sketch (sketch_of_detail same)

@[simp] theorem updateStatement_outline {statement : StatementHandle}
    {change : Statement → Statement}
    (keeps : ∀ statement, ((change statement).handle, (change statement).client) =
      (statement.handle, statement.client)) :
    (store.updateStatement statement change).outline = store.outline := by
  unfold outline updateStatement
  congr 1
  rw [List.map_map]
  refine List.map_congr_left fun other _ => ?_
  dsimp only [Function.comp]
  split
  · exact keeps other
  · rfl

@[simp] theorem step_outline (statement : StatementHandle) :
    (store.step statement).2.outline = store.outline :=
  outline_of_sketch (store.step_sketch statement)

@[simp] theorem reset_outline (statement : StatementHandle) :
    (store.reset statement).2.outline = store.outline :=
  outline_of_sketch (store.reset_sketch statement)

@[simp] theorem bind_outline (statement : StatementHandle) (index : Int) (argument : Argument) :
    (store.bind statement index argument).2.outline = store.outline := by
  rcases store.bind_cases statement index argument with same | ⟨value, same⟩ <;> rw [same]
  exact store.updateStatement_outline fun _ => rfl

@[simp] theorem clearBindings_outline (statement : StatementHandle) :
    (store.clearBindings statement).outline = store.outline :=
  store.updateStatement_outline fun _ => rfl

@[simp] theorem applySetting_outline (client : Client) (setting : Option Plan.Setting) :
    (store.applySetting client setting).outline = store.outline := by
  have same : (store.applySetting client setting).detail none = store.detail none :=
    store.applySetting_detail client setting
  exact outline_of_sketch (sketch_of_detail same)

end Store

/-! ## Handles of an outline -/

namespace Outline

def handles (outline : Outline) : Handles where
  isOpen database := decide (database ∈ outline.clients)
  owner? statement := outline.statements.lookup statement

structure IsValid (outline : Outline) : Prop where
  clients : ∀ database ∈ outline.clients, database.number < outline.nextClient
  statements : ∀ statement owner, (statement, owner) ∈ outline.statements →
    statement.number < outline.nextStatement ∧ owner ∈ outline.clients
  isFunctional : ∀ statement owner other, (statement, owner) ∈ outline.statements →
    (statement, other) ∈ outline.statements → owner = other

variable {outline : Outline} {database : DatabaseHandle} {statement : StatementHandle}

theorem isOpen_iff : outline.handles.isOpen database = true ↔ database ∈ outline.clients :=
  decide_eq_true_iff

theorem mem_of_owner (isOwner : outline.handles.owner? statement = some database) :
    (statement, database) ∈ outline.statements := by
  rcases List.lookup_eq_some_iff.mp isOwner with ⟨before, after, isSplit, -⟩
  rw [isSplit]
  exact List.mem_append_right _ List.mem_cons_self

theorem owner_eq_none :
    outline.handles.owner? statement = none ↔ ∀ owner, (statement, owner) ∉ outline.statements := by
  refine List.lookup_eq_none_iff.trans ⟨fun areOthers owner isListed => ?_, fun isMissing => ?_⟩
  · simpa using areOthers _ isListed
  · rintro ⟨other, owner⟩ isListed
    have isOther : statement ≠ other := by
      rintro rfl
      exact isMissing owner isListed
    simpa using isOther

theorem owner_iff (isValid : outline.IsValid) :
    outline.handles.owner? statement = some database ↔
      (statement, database) ∈ outline.statements := by
  refine ⟨mem_of_owner, fun isListed => ?_⟩
  cases isOwner : outline.handles.owner? statement with
  | none => exact absurd isListed (owner_eq_none.mp isOwner database)
  | some other =>
      rw [isValid.isFunctional _ _ _ (mem_of_owner isOwner) isListed]

/-! ## Giving out and taking back -/

def opening (outline : Outline) : Outline :=
  { outline with
    clients := outline.clients ++ [⟨outline.nextClient⟩]
    nextClient := outline.nextClient + 1 }

def closing (outline : Outline) (database : DatabaseHandle) : Outline :=
  { outline with
    clients := outline.clients.filter (· ≠ database)
    statements := outline.statements.filter (·.2 ≠ database) }

def preparing (outline : Outline) (database : DatabaseHandle) : Outline :=
  { outline with
    statements := outline.statements ++ [(⟨outline.nextStatement⟩, database)]
    nextStatement := outline.nextStatement + 1 }

def finalizing (outline : Outline) (statement : StatementHandle) : Outline :=
  { outline with statements := outline.statements.filter (·.1 ≠ statement) }

theorem owner_eq (isValid : outline.IsValid) {owner? : StatementHandle → Option DatabaseHandle}
    (isSame : ∀ statement database,
      (statement, database) ∈ outline.statements ↔ owner? statement = some database) :
    outline.handles.owner? = owner? := by
  funext statement
  refine Option.ext fun database => ?_
  exact (owner_iff isValid).trans (isSame statement database)

section
variable (isValid : outline.IsValid)
include isValid

theorem isFree_nextClient : outline.handles.isOpen ⟨outline.nextClient⟩ = false := by
  refine decide_eq_false fun isListed => ?_
  exact absurd (isValid.clients _ isListed) (Nat.lt_irrefl _)

theorem isFree_nextStatement : outline.handles.owner? ⟨outline.nextStatement⟩ = none :=
  owner_eq_none.mpr fun _ isListed =>
    absurd (isValid.statements _ _ isListed).1 (Nat.lt_irrefl _)

theorem opening_isValid : outline.opening.IsValid where
  clients database isListed := by
    rcases List.mem_append.mp isListed with wasListed | isNew
    · exact Nat.lt_succ_of_lt (isValid.clients _ wasListed)
    · rw [List.mem_singleton.mp isNew]
      exact Nat.lt_succ_self _
  statements statement owner isListed := by
    rcases isValid.statements _ _ isListed with ⟨isOld, isOpen⟩
    exact ⟨isOld, List.mem_append_left _ isOpen⟩
  isFunctional := isValid.isFunctional

omit isValid in
theorem opening_handles :
    outline.opening.handles = outline.handles.opening ⟨outline.nextClient⟩ := by
  refine Handles.ext (funext fun database => ?_) rfl
  by_cases isNew : database = ⟨outline.nextClient⟩
  · simp [handles, opening, Handles.opening, isNew]
  · simp [handles, opening, Handles.opening, isNew]

theorem closing_isValid (database : DatabaseHandle) : (outline.closing database).IsValid where
  clients other isListed := isValid.clients _ (List.mem_filter.mp isListed).1
  statements statement owner isListed := by
    rcases List.mem_filter.mp isListed with ⟨wasListed, isOther⟩
    rcases isValid.statements _ _ wasListed with ⟨isOld, isOpen⟩
    exact ⟨isOld, List.mem_filter.mpr ⟨isOpen, isOther⟩⟩
  isFunctional _ _ _ isListed isOther := isValid.isFunctional _ _ _
    (List.mem_filter.mp isListed).1 (List.mem_filter.mp isOther).1

theorem closing_handles (isIdle : outline.handles.IsIdle database) :
    (outline.closing database).handles = outline.handles.closing database := by
  refine Handles.ext (funext fun other => ?_) ?_
  · by_cases isGone : other = database
    · simp [handles, closing, Handles.closing, isGone]
    · simp [handles, closing, Handles.closing, isGone]
  · refine owner_eq (closing_isValid isValid database) fun statement owner => ?_
    rw [Handles.closing_owner?, owner_iff isValid]
    refine ⟨fun isListed => (List.mem_filter.mp isListed).1, fun isListed => ?_⟩
    have isOther : owner ≠ database := by
      rintro rfl
      exact isIdle statement ((owner_iff isValid).mpr isListed)
    exact List.mem_filter.mpr ⟨isListed, by simpa using isOther⟩

theorem preparing_isValid (isOpen : database ∈ outline.clients) :
    (outline.preparing database).IsValid where
  clients := isValid.clients
  statements statement owner isListed := by
    rcases List.mem_append.mp isListed with wasListed | isNew
    · rcases isValid.statements _ _ wasListed with ⟨isOld, isOpen⟩
      exact ⟨Nat.lt_succ_of_lt isOld, isOpen⟩
    · cases List.mem_singleton.mp isNew
      exact ⟨Nat.lt_succ_self _, isOpen⟩
  isFunctional statement owner other isListed isOther := by
    have isNoneNew {owner : DatabaseHandle} :
        ((⟨outline.nextStatement⟩, owner) : StatementHandle × DatabaseHandle) ∉
          outline.statements := fun wasListed =>
      absurd (isValid.statements _ _ wasListed).1 (Nat.lt_irrefl _)
    rcases List.mem_append.mp isListed with wasListed | isNew <;>
      rcases List.mem_append.mp isOther with wasOther | isOtherNew
    · exact isValid.isFunctional _ _ _ wasListed wasOther
    · cases List.mem_singleton.mp isOtherNew
      exact absurd wasListed isNoneNew
    · cases List.mem_singleton.mp isNew
      exact absurd wasOther isNoneNew
    · cases List.mem_singleton.mp isNew
      cases List.mem_singleton.mp isOtherNew
      rfl

theorem preparing_handles (isOpen : database ∈ outline.clients) :
    (outline.preparing database).handles =
      outline.handles.preparing ⟨outline.nextStatement⟩ database := by
  refine Handles.ext rfl (owner_eq (preparing_isValid isValid isOpen) fun statement owner => ?_)
  by_cases isNew : statement = ⟨outline.nextStatement⟩
  · subst isNew
    have isNoneNew : ((⟨outline.nextStatement⟩, owner) : StatementHandle × DatabaseHandle) ∉
        outline.statements := owner_eq_none.mp (isFree_nextStatement isValid) owner
    simp [preparing, isNoneNew, eq_comm]
  · simp [preparing, Handles.preparing, isNew, owner_iff isValid]

theorem finalizing_isValid (statement : StatementHandle) :
    (outline.finalizing statement).IsValid where
  clients := isValid.clients
  statements _ _ isListed := isValid.statements _ _ (List.mem_filter.mp isListed).1
  isFunctional _ _ _ isListed isOther := isValid.isFunctional _ _ _
    (List.mem_filter.mp isListed).1 (List.mem_filter.mp isOther).1

theorem finalizing_handles (statement : StatementHandle) :
    (outline.finalizing statement).handles = outline.handles.finalizing statement := by
  refine Handles.ext rfl (owner_eq (finalizing_isValid isValid statement) fun other owner => ?_)
  by_cases isGone : other = statement
  · simp [finalizing, Handles.finalizing, isGone]
  · simp [finalizing, Handles.finalizing, isGone, owner_iff isValid]

end

end Outline

/-! ## The store as an engine -/

namespace Store

variable {store : Store}

theorem fileFor_outline {location : Location} {after : Store} {file : Nat}
    (isOk : store.fileFor location = .ok (after, file)) : after.outline = store.outline := by
  have found (place : Place) : (store.findOrAdd place).1.outline = store.outline := by
    unfold findOrAdd
    split <;> rfl
  have isAfter {outcome : Store × Nat} (isSame : outcome.1.outline = store.outline)
      (isOk : (.ok outcome : Except Refusal (Store × Nat)) = .ok (after, file)) :
      after.outline = store.outline := by
    rwa [Except.ok.inj isOk] at isSame
  unfold fileFor at isOk
  split at isOk
  · exact isAfter rfl isOk
  · exact isAfter (found _) isOk
  · repeat' split at isOk
    · exact isAfter (found _) isOk
    · exact isAfter rfl isOk
    · cases isOk
  · split at isOk <;> cases isOk
  · cases isOk

theorem addClient_outline (client : DatabaseHandle → Client)
    (isNamed : ∀ handle, (client handle).handle = handle) :
    (store.addClient client).1.outline = store.outline.opening := by
  simp [addClient, outline, Outline.opening, isNamed]

theorem openDatabase_eq (path : Bytes) (mode : OpenMode) :
    (store.openDatabase path mode).1.1 = some ⟨store.outline.nextClient⟩ ∧
      (store.openDatabase path mode).2.outline = store.outline.opening := by
  have adds (store : Store) (client : DatabaseHandle → Client)
      (isNamed : ∀ handle, (client handle).handle = handle) :
      (store.addClient client).2 = ⟨store.outline.nextClient⟩ ∧
        (store.addClient client).1.outline = store.outline.opening :=
    ⟨rfl, addClient_outline client isNamed⟩
  unfold openDatabase
  dsimp only
  split
  · exact (adds store _ fun _ => rfl).imp (congrArg some) id
  split
  · exact (adds store _ fun _ => rfl).imp (congrArg some) id
  · rename_i isFile
    rw [← fileFor_outline isFile]
    exact (adds _ _ fun _ => rfl).imp (congrArg some) id

theorem closeDatabase_outline (database : DatabaseHandle) :
    (store.closeDatabase database).outline = store.outline.closing database := by
  simp [closeDatabase, outline, Outline.closing, List.filter_map, Function.comp_def]

theorem finalize_outline (statement : StatementHandle) :
    (store.finalize statement).2.outline = store.outline.finalizing statement := by
  have resets := store.reset_outline statement
  unfold finalize
  rw [← resets]
  simp [outline, Outline.finalizing, List.filter_map, Function.comp_def]

theorem refuse_outline (database : DatabaseHandle) (code : Int) (message : Bytes) :
    (store.refuse database code message).2.outline = store.outline := by
  simp [refuse]

theorem addStatement_outline (database : DatabaseHandle) (parsed : Sql.Parsed)
    (body : Sql.Statement) (program : Plan.Program) :
    (store.addStatement database parsed body program).1.outline =
      store.outline.preparing database := by
  simp [addStatement, outline, Outline.preparing]

theorem prepare_cases (database : DatabaseHandle) (sql : Text) :
    (store.prepare database sql).1.2 = none ∧
        (store.prepare database sql).2.outline = store.outline ∨
      (store.prepare database sql).1 = (Status.ok, some ⟨store.outline.nextStatement⟩) ∧
        (store.prepare database sql).2.outline = store.outline.preparing database := by
  unfold prepare
  split
  · exact .inl ⟨rfl, rfl⟩
  · exact .inl ⟨rfl, (refuse_outline ..).trans (applySetting_outline ..)⟩
  rename_i client parsed _ _
  split
  · exact .inl ⟨rfl, rfl⟩
  split
  · exact .inl ⟨rfl, refuse_outline ..⟩
  · rename_i schema program setting _
    have same : ((store.applySetting client setting).updateClient database fun client =>
        { client with schema }).outline = store.outline := by
      simp
    rw [← same]
    exact .inr ⟨rfl, addStatement_outline ..⟩

end Store

def ledger : Ledger Store where
  handles store := store.outline.handles
  Valid store := store.outline.IsValid

theorem shows_of_outline {after : Store} {outline : Outline} (same : after.outline = outline)
    (isValid : outline.IsValid) : ledger.Shows after outline.handles := by
  subst same
  exact ⟨isValid, rfl⟩

open Outline in
def custody : Custody backend.engine where
  toLedger := ledger
  isOpen_of_owner valid isOwner :=
    isOpen_iff.mpr (valid.statements _ _ (mem_of_owner isOwner)).2
  opened {store path mode database} valid isOpened := by
    rcases store.openDatabase_eq path mode with ⟨isNext, opens⟩
    obtain rfl := Option.some.inj (isNext.symm.trans isOpened)
    have shows := shows_of_outline opens (opening_isValid valid)
    rw [opening_handles] at shows
    exact ⟨isFree_nextClient valid, shows⟩
  unopened {store path mode} _ isUnopened :=
    nomatch (store.openDatabase_eq path mode).1.symm.trans isUnopened
  closed {store database} valid isOpen isIdle := by
    have shows := shows_of_outline (store.closeDatabase_outline database)
      (closing_isValid valid database)
    rwa [closing_handles valid isIdle] at shows
  mem_statements {store database statement} valid isOpen := by
    refine Iff.trans ?_ (owner_iff valid).symm
    simp [backend, engine, Store.statementsOf, Store.outline, and_assoc, and_comm, and_left_comm]
  prepared {store database sql statement} valid isOpen isPrepared := by
    rcases store.prepare_cases database sql with ⟨isNone, -⟩ | ⟨isSome, prepares⟩
    · cases isNone.symm.trans isPrepared
    · obtain rfl := Option.some.inj ((congrArg Prod.snd isSome).symm.trans isPrepared)
      have shows := shows_of_outline prepares (preparing_isValid valid (isOpen_iff.mp isOpen))
      rw [preparing_handles valid (isOpen_iff.mp isOpen)] at shows
      exact ⟨congrArg Prod.fst isSome, isFree_nextStatement valid, shows⟩
  unprepared {store database sql} valid isOpen isUnprepared := by
    rcases store.prepare_cases database sql with ⟨-, same⟩ | ⟨isSome, -⟩
    · exact shows_of_outline same valid
    · cases (congrArg Prod.snd isSome).symm.trans isUnprepared
  finalized {store statement} valid _ := by
    have shows := shows_of_outline (store.finalize_outline statement)
      (finalizing_isValid valid statement)
    rwa [finalizing_handles valid statement] at shows
  stepped valid _ := shows_of_outline (Store.step_outline ..) valid
  reset valid _ := shows_of_outline (Store.reset_outline ..) valid
  bound valid _ := shows_of_outline (Store.bind_outline ..) valid
  cleared valid _ := shows_of_outline (Store.clearBindings_outline ..) valid

theorem custody_empty : custody.Shows {} .none := by
  refine ⟨⟨nofun, nofun, nofun⟩, ?_⟩
  rfl

/-! ## The list of statements -/

def Outline.ListsOnce (outline : Outline) : Prop :=
  (outline.statements.map (·.1)).Nodup

namespace Outline.ListsOnce

variable {outline : Outline} (listsOnce : outline.ListsOnce)
include listsOnce

theorem opening : outline.opening.ListsOnce := listsOnce

theorem closing (database : DatabaseHandle) : (outline.closing database).ListsOnce :=
  listsOnce.sublist (List.filter_sublist.map _)

theorem preparing (isValid : outline.IsValid) (database : DatabaseHandle) :
    (outline.preparing database).ListsOnce := by
  rw [ListsOnce, Outline.preparing, List.map_append, List.nodup_append]
  refine ⟨listsOnce, List.pairwise_singleton _ _, fun statement isListed other isNew => ?_⟩
  rcases List.mem_map.mp isListed with ⟨entry, wasListed, rfl⟩
  rw [List.mem_singleton.mp isNew]
  intro isSame
  have isOld := (isValid.statements _ _ wasListed).1
  rw [isSame] at isOld
  exact Nat.lt_irrefl _ isOld

theorem finalizing (statement : StatementHandle) : (outline.finalizing statement).ListsOnce :=
  listsOnce.sublist (List.filter_sublist.map _)

end Outline.ListsOnce

theorem Outline.ListsOnce.statements {store : Store} (listsOnce : store.outline.ListsOnce)
    (database : DatabaseHandle) : (engine.statements database store).Nodup := by
  rw [ListsOnce, Store.outline, List.map_map] at listsOnce
  exact List.nodup_reverse.mpr (listsOnce.sublist (List.filter_sublist.map _))

theorem custody_listsOnce : custody.Keeps (·.outline.ListsOnce) where
  openDatabase {store path mode} _ listsOnce :=
    (store.openDatabase_eq path mode).2 ▸ listsOnce.opening
  closeDatabase {store database} _ listsOnce _ _ :=
    store.closeDatabase_outline database ▸ listsOnce.closing database
  prepare {store database sql} valid listsOnce _ := by
    rcases store.prepare_cases database sql with ⟨-, same⟩ | ⟨-, prepares⟩
    · exact same ▸ listsOnce
    · exact prepares ▸ listsOnce.preparing valid database
  finalize {store statement} _ listsOnce _ :=
    store.finalize_outline statement ▸ listsOnce.finalizing statement
  step {store statement} _ listsOnce _ := store.step_outline statement ▸ listsOnce
  reset {store statement} _ listsOnce _ := store.reset_outline statement ▸ listsOnce
  bind {store statement index argument} _ listsOnce _ :=
    store.bind_outline statement index argument ▸ listsOnce
  clearBindings {store statement} _ listsOnce _ :=
    store.clearBindings_outline statement ▸ listsOnce

end EmbeddedSql.Storage
