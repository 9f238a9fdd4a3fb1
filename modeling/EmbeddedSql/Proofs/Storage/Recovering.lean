import EmbeddedSql.Proofs.Engine.Recovering
import EmbeddedSql.Proofs.Storage.Binding
import EmbeddedSql.Proofs.Storage.Isolation
import EmbeddedSql.Proofs.Storage.Renaming

/-! A store forgets what failed. A file that could not be opened has taken a number, and that is
all. -/

namespace EmbeddedSql.Storage

/-! ## Files that are in use -/

def IsThrifty (store : Store) : Prop :=
  ∀ file ∈ store.files, store.outlives file = true

theorem Store.outlives_of_clients {store after : Store} {file : StoredFile}
    (isOpen : ∀ client ∈ store.clients, client.file = some file.number →
      ∃ other ∈ after.clients, other.file = some file.number)
    (isKept : store.outlives file = true) : after.outlives file = true := by
  unfold outlives at isKept ⊢
  split
  · rfl
  rename_i isNamed
  split at isKept
  · rename_i isPlace
    exact absurd isPlace (isNamed _)
  · obtain ⟨client, isThere, isFile⟩ := List.any_eq_true.mp isKept
    obtain ⟨other, isAfter, isSame⟩ := isOpen client isThere (of_decide_eq_true isFile)
    exact List.any_eq_true.mpr ⟨other, isAfter, decide_eq_true isSame⟩

theorem Beyond.isThrifty {database : DatabaseHandle} {store after : Store}
    (beyond : Beyond database store after) (isThrifty : IsThrifty store) : IsThrifty after := by
  intro file isThere
  obtain ⟨before, wasThere, sameNumber, samePlace⟩ := beyond.file_before isThere
  have same (store : Store) : store.outlives file = store.outlives before := by
    rw [Store.outlives, Store.outlives, sameNumber, samePlace]
  rw [same]
  refine Store.outlives_of_clients (fun client isClient isFile => ?_) (isThrifty before wasThere)
  have isSeat : (client.handle, client.file) ∈
      store.clients.map fun client => (client.handle, client.file) := List.mem_map_of_mem isClient
  rw [← beyond.seats] at isSeat
  obtain ⟨other, isAfter, isSame⟩ := List.mem_map.mp isSeat
  exact ⟨other, isAfter, (Prod.mk.inj isSame).2.trans isFile⟩

namespace Store

theorem openDatabase_isThrifty {store : Store} (isThrifty : IsThrifty store) (path : Bytes)
    (mode : OpenMode) : IsThrifty (store.openDatabase path mode).2 := by
  obtain ⟨before, client, opens, isFile⟩ := store.openDatabase_cases path mode
  rw [opens]
  have keeps {file : StoredFile} (isThere : file ∈ store.files)
      (sameClients : before.clients = store.clients) :
      (before.addClient client).1.outlives file = true :=
    outlives_of_clients (fun other isOther isSame =>
      ⟨other, List.mem_append_left _ (sameClients ▸ isOther), isSame⟩) (isThrifty file isThere)
  rcases isFile with ⟨rfl, -⟩ | ⟨place, rfl, isNew⟩ | ⟨rfl, -, -, -, -⟩
  · exact fun file isThere => keeps isThere rfl
  · intro file isThere
    rcases List.mem_append.mp isThere with wasThere | isAdded
    · exact keeps wasThere rfl
    · obtain rfl := List.mem_singleton.mp isAdded
      unfold outlives
      split
      · rfl
      · exact List.any_eq_true.mpr ⟨_, List.mem_append_right _ (List.mem_singleton_self _),
          decide_eq_true (isNew _)⟩
  · exact fun file isThere => keeps isThere rfl

theorem closeDatabase_isThrifty (store : Store) (database : DatabaseHandle) :
    IsThrifty (store.closeDatabase database) :=
  fun _ isThere => (List.mem_filter.mp isThere).2

end Store

theorem IsThrifty.asked {store : Store} {name : StatementHandle} (isTidy : IsTidy store)
    (isThrifty : IsThrifty store) (inUse : (custody.handles store).InUse name)
    {action : StatementHandle → StateM Store Int} (asks : engine.Asks action) :
    IsThrifty (action name store).2 := by
  obtain ⟨database, isOwner, isOpen⟩ := inUse
  exact (Store.asked_beyond isTidy.listsOnce isOwner isOpen asks).isThrifty isThrifty

theorem custody_isThrifty : (custody.within custody_isTidy).Keeps IsThrifty where
  openDatabase _ isThrifty := Store.openDatabase_isThrifty isThrifty _ _
  closeDatabase _ _ _ _ := Store.closeDatabase_isThrifty _ _
  prepare valid isThrifty isOpen :=
    (Store.prepare_beyond valid.2.listsOnce valid.1 isOpen _).isThrifty isThrifty
  finalize valid isThrifty inUse := by
    obtain ⟨database, isOwner, isOpen⟩ := inUse
    exact (Store.finalize_beyond valid.2.listsOnce isOwner isOpen).isThrifty isThrifty
  step valid isThrifty inUse := isThrifty.asked valid.2 inUse .step
  reset valid isThrifty inUse := isThrifty.asked valid.2 inUse .reset
  bind valid isThrifty inUse := isThrifty.asked valid.2 inUse (.bind _ _)
  clearBindings valid isThrifty inUse := isThrifty.asked valid.2 inUse .clearBindings

/-- Each statement is listed once, and no number of a file is used twice nor any file kept. -/
theorem custody_isThriftyAndTidy :
    binding.toCustody.Keeps fun store => IsTidy store ∧ IsThrifty store :=
  (custody_isTidy.both custody_isThrifty).within custody_isFitted

/-! ## Files that could not be opened -/

def skipping (next : Nat) : DatabaseHandle ↪ DatabaseHandle where
  toFun database := ⟨if database.number < next then database.number else database.number + 1⟩
  inj' first second same := by
    rcases first with ⟨first⟩
    rcases second with ⟨second⟩
    simp only [DatabaseHandle.mk.injEq] at same ⊢
    split at same <;> split at same <;> omega

theorem skipping_of_lt {next : Nat} {database : DatabaseHandle} (isOld : database.number < next) :
    skipping next database = database := by
  change (⟨if database.number < next then _ else _⟩ : DatabaseHandle) = database
  rw [if_pos isOld]

theorem skipping_isSteady (next : Nat) : Store.IsSteady (skipping next) next := by
  intro number isNew
  change (if number + 1 < next then _ else _) = (if number < next then _ else _) + 1
  rw [if_neg (by omega), if_neg (by omega)]

theorem Store.IsSteady.congr {rename : DatabaseHandle ↪ DatabaseHandle} {next other : Nat}
    (isSteady : Store.IsSteady rename next) (same : other = next) : Store.IsSteady rename other :=
  same ▸ isSteady

theorem isSteady_refl (next : Nat) : Store.IsSteady (.refl _) next :=
  fun _ _ => rfl

namespace Store

variable {store : Store} {path : Bytes} {mode : OpenMode}

theorem openDatabase_refused (isRefused : (store.openDatabase path mode).1.2 ≠ Status.ok) :
    ∃ message, (store.openDatabase path mode).2 =
      (store.addClient fun handle => { handle, file := none, message }).1 := by
  unfold openDatabase at isRefused ⊢
  dsimp only at isRefused ⊢
  split
  · exact ⟨_, rfl⟩
  split
  · exact ⟨_, rfl⟩
  · rename_i isPlace _ _ _ isFile
    rw [isPlace] at isRefused
    dsimp only at isRefused
    rw [isFile] at isRefused
    exact absurd rfl isRefused

section
variable (valid : custody.Valid store)
include valid

theorem client_isOld {client : Client} (isThere : client ∈ store.clients) :
    client.handle.number < store.nextClient :=
  valid.clients _ (List.mem_map_of_mem isThere)

theorem owner_isOld {statement : Statement} (isThere : statement ∈ store.statements) :
    statement.client.number < store.nextClient :=
  valid.clients _ (valid.statements _ _ (List.mem_map_of_mem isThere)).2

/-- All that is left of it is that its number is gone. -/
theorem closeDatabase_refused (isThrifty : IsThrifty store) (message : Bytes) :
    (store.addClient fun handle => { handle, file := none, message }).1.closeDatabase
        ⟨store.nextClient⟩ =
      { store with nextClient := store.nextClient + 1 } := by
  have isOther {database : DatabaseHandle} (isOld : database.number < store.nextClient) :
      decide (database ≠ ⟨store.nextClient⟩) = true := by
    refine decide_eq_true fun isSame => ?_
    rw [isSame] at isOld
    exact absurd isOld (Nat.lt_irrefl _)
  have clients : store.clients.filter (·.handle ≠ ⟨store.nextClient⟩) = store.clients :=
    List.filter_eq_self.mpr fun client isThere => isOther (client_isOld valid isThere)
  have statements : store.statements.filter (·.client ≠ ⟨store.nextClient⟩) = store.statements :=
    List.filter_eq_self.mpr fun statement isThere => isOther (owner_isOld valid isThere)
  have files : store.files.filter store.outlives = store.files := List.filter_eq_self.mpr isThrifty
  unfold closeDatabase addClient
  dsimp only
  rw [List.filter_append, clients, statements]
  simp only [ne_eq, not_true_eq_false, decide_false, Bool.false_eq_true, not_false_eq_true,
    List.filter_cons_of_neg, List.filter_nil, List.append_nil]
  congr 1

theorem refused_looksLike :
    LooksLike (skipping store.nextClient) store
      { store with nextClient := store.nextClient + 1 } := by
  have clients : store.clients.map (·.renamed (.refl _)) =
      store.clients.map (·.renamed (skipping store.nextClient)) :=
    List.map_congr_left fun client isThere => by
      simp only [Client.renamed, skipping_of_lt (client_isOld valid isThere),
        Function.Embedding.refl_apply]
  have statements : store.statements.map (·.renamed (.refl _)) =
      store.statements.map (·.renamed (skipping store.nextClient)) :=
    List.map_congr_left fun statement isThere => by
      simp only [Statement.renamed, skipping_of_lt (owner_isOld valid isThere),
        Function.Embedding.refl_apply]
  have next : store.nextClient + 1 = (skipping store.nextClient ⟨store.nextClient⟩).number :=
    (if_neg (Nat.lt_irrefl _)).symm
  simp only [LooksLike, muted, renamed, clients, statements, ← next, Function.Embedding.refl_apply]

end

/-! ## Requests -/

theorem asked_muted (rename : DatabaseHandle ↪ DatabaseHandle) (store : Store)
    (name : StatementHandle) {action : StatementHandle → StateM Store Int}
    (asks : engine.Asks action) :
    Agree (LooksLike rename) (action name store) (action name (store.renamed rename)) := by
  cases asks with
  | step => exact step_muted store name
  | reset => exact reset_muted store name
  | bind index argument => exact bind_muted store name index argument
  | clearBindings => exact ⟨rfl, clearBindings_muted store name⟩

theorem prepare_nextClient (store : Store) (database : DatabaseHandle) (sql : Text) :
    (store.prepare database sql).2.nextClient = store.nextClient := by
  rcases store.prepare_cases database sql with ⟨-, same⟩ | ⟨-, prepares⟩
  · exact congrArg Outline.nextClient same
  · exact congrArg Outline.nextClient prepares

theorem openDatabase_nextClient (store : Store) (path : Bytes) (mode : OpenMode) :
    (store.openDatabase path mode).2.nextClient = store.nextClient + 1 :=
  congrArg Outline.nextClient (store.openDatabase_eq path mode).2

/-! ## Rows of others -/

theorem row_congr {after : Store} (same : after.statements = store.statements)
    (handle : StatementHandle) : after.row handle = store.row handle := by
  rw [row, row, statement?, statement?, same]

theorem prepare_statements_of_none {database : DatabaseHandle} {sql : Text}
    (isNone : (store.prepare database sql).1.2 = none) :
    (store.prepare database sql).2.statements = store.statements := by
  unfold prepare at isNone ⊢
  split
  · rfl
  · exact applySetting_statements ..
  rename_i isClient isText
  rw [isClient, isText] at isNone
  dsimp only at isNone ⊢
  split
  · rfl
  rename_i isBody
  rw [isBody] at isNone
  dsimp only at isNone
  split
  · rfl
  · rename_i compiles
    rw [compiles] at isNone
    cases isNone

end Store

/-! ## The law -/

def recovering : Recovering backend.engine where
  toBinding := binding.within custody_isThriftyAndTidy
  Resembles rename store image :=
    store.LooksLike rename image ∧ Store.IsSteady rename store.nextClient
  resembles_itself _ := ⟨rfl, isSteady_refl _⟩
  resembles_opened {rename state image} path mode resembles := by
    obtain ⟨looksLike, isSteady⟩ := resembles
    obtain ⟨sameAnswer, opens⟩ := state.openDatabase_muted path mode isSteady
    obtain ⟨itsAnswer, opensImage⟩ := image.openDatabase_muted path mode (isSteady_refl _)
    have same : image.renamed (.refl _) = state.renamed rename := looksLike
    rw [same] at itsAnswer opensImage
    refine ⟨?_, opensImage.symm.trans opens, ?_⟩
    · have isItself : (image.openDatabase path mode).1 =
          ((image.openDatabase path mode).1.1.map (Function.Embedding.refl _),
            (image.openDatabase path mode).1.2) := Prod.ext Option.map_id'.symm rfl
      exact isItself.trans (itsAnswer.symm.trans sameAnswer)
    · intro number isNew
      have isNew : (state.openDatabase path mode).2.nextClient ≤ number := isNew
      rw [state.openDatabase_nextClient] at isNew
      exact isSteady number (Nat.le_of_succ_le isNew)
  resembles_closed {rename state image} database resembles := by
    obtain ⟨looksLike, isSteady⟩ := resembles
    have closes : (image.renamed (.refl _)).closeDatabase (rename database) =
        (image.closeDatabase (rename database)).muted :=
      Store.closeDatabase_renamed image (rename database)
    have same : image.renamed (.refl _) = state.renamed rename := looksLike
    rw [same, Store.closeDatabase_renamed] at closes
    exact ⟨rfl, closes.symm, isSteady⟩
  resembles_prepared {rename state image} database sql resembles := by
    obtain ⟨looksLike, isSteady⟩ := resembles
    obtain ⟨same, prepares⟩ := looksLike.agrees (state.prepare_muted database sql)
      (image.prepare_muted (rename database) sql)
    exact ⟨same, prepares, isSteady.congr (state.prepare_nextClient database sql)⟩
  resembles_asked {rename state image action} statement asks resembles := by
    obtain ⟨looksLike, isSteady⟩ := resembles
    obtain ⟨same, goesOn⟩ := looksLike.agrees (Store.asked_muted rename state statement asks)
      (Store.asked_muted (.refl _) image statement asks)
    exact ⟨same, goesOn, isSteady.congr (congrArg Outline.nextClient (Store.asked_outline asks))⟩
  resembles_finalized {rename state image} statement resembles := by
    obtain ⟨looksLike, isSteady⟩ := resembles
    obtain ⟨same, finalizes⟩ := looksLike.agrees (state.finalize_muted statement)
      (image.finalize_muted statement)
    have next := congrArg Outline.nextClient (state.finalize_outline statement)
    exact ⟨same, finalizes, isSteady.congr next⟩
  resembles_statements database resembles :=
    congrArg List.reverse (resembles.1.statements_eq database)
  resembles_changes database resembles :=
    congrArg (·.getD 0) (resembles.1.client_eq (·.counters.changes) (fun _ _ => rfl) database)
  resembles_lastInsertRowid database resembles :=
    congrArg (·.getD 0)
      (resembles.1.client_eq (·.counters.lastInsertRowid) (fun _ _ => rfl) database)
  resembles_sqlText statement resembles :=
    congrArg (·.getD []) (resembles.1.statement_eq (·.parsed.written) (fun _ _ => rfl) statement)
  resembles_parameterCount statement resembles :=
    congrArg (·.getD 0)
      (resembles.1.statement_eq (·.parsed.parameters.count) (fun _ _ => rfl) statement)
  resembles_parameterIndex statement name resembles := by
    have same := congrArg
      (fun parsed => (parsed.bind (·.parameters.number? name)).elim 0 Int.ofNat)
      (resembles.1.statement_eq (·.parsed) (fun _ _ => rfl) statement)
    rw [Option.bind_map, Option.bind_map] at same
    exact same
  resembles_parameterName? statement index resembles := by
    have same := congrArg
      (·.bind fun parsed => if index < 1 then none else parsed.parameters.name? index.toNat)
      (resembles.1.statement_eq (·.parsed) (fun _ _ => rfl) statement)
    rw [Option.bind_map, Option.bind_map] at same
    exact same
  resembles_slots {rename state image} statement resembles := by
    have slots (store : Store) : store.slots statement =
        ((store.statement? statement).map fun found => slotsOf found.bindings).getD .empty := by
      rw [Store.slots, Store.entryAt?, Option.map_map]
      rfl
    have same : image.slots statement = state.slots statement := by
      rw [slots, slots, resembles.1.statement_eq _ (fun _ _ => rfl)]
    exact same
  resembles_columnNames statement resembles :=
    congrArg (·.getD []) (resembles.1.statement_eq
      (fun statement => statement.program.columns.map (·.name)) (fun _ _ => rfl) statement)
  resembles_row statement resembles := resembles.1.row_eq statement
  forgets_unopened {store path mode} _ isUnopened :=
    nomatch (store.openDatabase_eq path mode).1.symm.trans isUnopened
  forgets_opened {store path mode database} valid isOpened isRefused := by
    obtain rfl := Option.some.inj ((store.openDatabase_eq path mode).1.symm.trans isOpened)
    obtain ⟨message, isRefused⟩ := Store.openDatabase_refused isRefused
    refine ⟨skipping store.nextClient, fun other isOpen => ?_, ?_, skipping_isSteady _⟩
    · exact skipping_of_lt (valid.1.1.clients other (Outline.isOpen_iff.mp isOpen))
    · have closes : (engine.closeDatabase ⟨store.outline.nextClient⟩
          (store.openDatabase path mode).2).2 =
          { store with nextClient := store.nextClient + 1 } := by
        rw [isRefused]
        exact Store.closeDatabase_refused valid.1.1 valid.2.2 message
      exact closes ▸ Store.refused_looksLike valid.1.1
  prepared_row statement _ isUnprepared :=
    Store.row_congr (Store.prepare_statements_of_none isUnprepared) statement
  opened_row {store path mode} statement _ :=
    Store.row_congr (store.openDatabase_statements path mode) statement

/-- A store forgets a text that has no statement, unless it begins with a pragma. -/
theorem forgets_prepared {store : Store} {database : DatabaseHandle} {sql : Text}
    (isNoPragma : textIsPragma sql = false) (isNone : (store.prepare database sql).1.2 = none) :
    recovering.Resembles (.refl _) store (store.prepare database sql).2 :=
  ⟨store.prepare_of_none database sql isNone isNoPragma, isSteady_refl _⟩

theorem recovering_empty : recovering.Shows {} .none :=
  ⟨⟨binding_empty.1, isTidy_empty, nofun⟩, binding_empty.2⟩

end EmbeddedSql.Storage
