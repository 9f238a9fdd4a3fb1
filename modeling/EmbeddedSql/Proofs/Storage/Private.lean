import EmbeddedSql.Proofs.Storage.Companions

/-! Databases in files that nobody else can find. What is done with other databases of the
store leaves them as they are. -/

namespace EmbeddedSql.Storage

structure IsNumbered (store : Store) : Prop where
  files : ∀ file ∈ store.files, file.number < store.nextFile
  clients : ∀ client ∈ store.clients, ∀ number, client.file = some number →
    number < store.nextFile

/-- Nobody else has the file of the database open, nor can anybody find it. -/
structure IsPrivate (store : Store) (database : DatabaseHandle) (number : Nat) : Prop where
  isOpen : (store.client? database).map (·.file) = some (some number)
  isOld : number < store.nextFile
  isUnnamed : ∀ file ∈ store.files, file.number = number → file.place = .unnamed
  isOnly : ∀ client ∈ store.clients, client.file = some number → client.handle = database

theorem IsPrivate.others_eq_nil {store : Store} {database : DatabaseHandle} {number : Nat}
    {client : Client} (isPrivate : IsPrivate store database number)
    (isNamed : client.handle = database) (isFile : client.file = some number) :
    store.others client = [] := by
  refine List.filter_eq_nil_iff.mpr fun other isThere isOther => ?_
  simp only [Bool.and_eq_true, decide_eq_true_eq] at isOther
  obtain ⟨⟨isElsewhere, -⟩, sameFile⟩ := isOther
  exact isElsewhere ((isPrivate.isOnly other isThere (sameFile.trans isFile)).trans isNamed.symm)

/-- What was done with others is no change for a database. -/
structure Apart (database : DatabaseHandle) (number : Nat) (store after : Store) : Prop where
  client : after.client? database = store.client? database
  statements : after.statementsOf database = store.statementsOf database
  file : after.file? number = store.file? number
  isPrivate : IsPrivate after database number

theorem Apart.trans {database : DatabaseHandle} {number : Nat} {first second third : Store}
    (before : Apart database number first second) (after : Apart database number second third) :
    Apart database number first third :=
  ⟨after.client.trans before.client, after.statements.trans before.statements,
    after.file.trans before.file, after.isPrivate⟩

/-! ## What changes of one database leave -/

namespace Beyond

theorem refl {database : DatabaseHandle} (store : Store) : Beyond database store store :=
  ⟨rfl, rfl, rfl, fun _ => rfl, rfl, fun _ => rfl⟩

variable {database : DatabaseHandle} {base store : Store} (beyond : Beyond database base store)
include beyond

theorem file_before {file : StoredFile} (isThere : file ∈ store.files) :
    ∃ before ∈ base.files, before.number = file.number ∧ before.place = file.place := by
  have isListed : (file.number, file.place) ∈
      store.files.map fun file => (file.number, file.place) := List.mem_map_of_mem isThere
  rw [beyond.places] at isListed
  obtain ⟨before, wasThere, isSame⟩ := List.mem_map.mp isListed
  exact ⟨before, wasThere, Prod.mk.inj isSame⟩

theorem client_before {client : Client} (isThere : client ∈ store.clients) :
    ∃ before ∈ base.clients, before.handle = client.handle ∧ before.file = client.file := by
  have isListed : (client.handle, client.file) ∈
      store.clients.map fun client => (client.handle, client.file) := List.mem_map_of_mem isThere
  rw [beyond.seats] at isListed
  obtain ⟨before, wasThere, isSame⟩ := List.mem_map.mp isListed
  exact ⟨before, wasThere, Prod.mk.inj isSame⟩

theorem client_file (other : DatabaseHandle) :
    (store.client? other).map (·.file) = (base.client? other).map (·.file) := by
  have seats (store : Store) : (store.client? other).map (·.file) =
      ((store.clients.map fun client => (client.handle, client.file)).find?
        (·.1 = other)).map (·.2) := by
    rw [List.find?_map, Option.map_map]
    rfl
  rw [seats, seats, beyond.seats]

theorem isNumbered (isNumbered : IsNumbered base) : IsNumbered store where
  files file isThere := by
    obtain ⟨before, wasThere, sameNumber, -⟩ := beyond.file_before isThere
    rw [beyond.nextFile, ← sameNumber]
    exact isNumbered.files before wasThere
  clients client isThere number isFile := by
    obtain ⟨before, wasThere, -, sameFile⟩ := beyond.client_before isThere
    rw [beyond.nextFile]
    exact isNumbered.clients before wasThere number (sameFile.trans isFile)

theorem isPrivate {other : DatabaseHandle} {number : Nat} (isPrivate : IsPrivate base other number) :
    IsPrivate store other number where
  isOpen := (beyond.client_file other).trans isPrivate.isOpen
  isOld := beyond.nextFile ▸ isPrivate.isOld
  isUnnamed file isThere isNumber := by
    obtain ⟨before, wasThere, sameNumber, samePlace⟩ := beyond.file_before isThere
    rw [← samePlace]
    exact isPrivate.isUnnamed before wasThere (sameNumber.trans isNumber)
  isOnly client isThere isFile := by
    obtain ⟨before, wasThere, sameHandle, sameFile⟩ := beyond.client_before isThere
    rw [← sameHandle]
    exact isPrivate.isOnly before wasThere (sameFile.trans isFile)

theorem apart {other : DatabaseHandle} {number : Nat} (isOther : other ≠ database)
    (isPrivate : IsPrivate base other number) : Apart other number base store where
  client := beyond.clients isOther
  statements := by
    have splits (store : Store) : store.statementsOf other =
        (store.statements.filter (·.client ≠ database)).filter (·.client = other) := by
      rw [List.filter_filter]
      refine List.filter_congr fun statement _ => ?_
      by_cases isOwned : statement.client = other
      · simp [isOwned, isOther]
      · simp [isOwned]
    rw [splits, splits, beyond.statements]
  file := beyond.files fun client isClient isFile => by
    have isThere := List.mem_of_find?_eq_some isClient
    have isNamed : client.handle = database := by simpa using List.find?_some isClient
    exact isOther ((beyond.isPrivate isPrivate).isOnly client isThere isFile ▸ isNamed)
  isPrivate := beyond.isPrivate isPrivate

end Beyond

/-! ## A database beside itself -/

def Counterparts.itself (store : Store) (database : DatabaseHandle) : Counterparts where
  database := database
  image := database
  statements := (store.statementsOf database).map fun statement =>
    (statement.handle, statement.handle)

theorem Counterparts.mem_itself {store : Store} {name : StatementHandle} {statement : Statement}
    (isFound : store.statement? name = some statement) :
    (name, name) ∈ (Counterparts.itself store statement.client).statements := by
  have isNamed := Store.handle_of_statement? isFound
  refine List.mem_map.mpr ⟨statement, List.mem_filter.mpr ⟨List.mem_of_find?_eq_some isFound,
    decide_eq_true rfl⟩, by rw [isNamed]⟩

namespace Likeness

theorem itself {store : Store} {database : DatabaseHandle}
    (listsOnce : store.outline.ListsOnce) (isOpen : database ∈ store.outline.clients) :
    Likeness .full store (Counterparts.itself store database) store store where
  client := by
    obtain ⟨client, isClient⟩ := Store.client?_of_mem isOpen
    obtain rfl : client.handle = database := by simpa using List.find?_some isClient
    exact ⟨client, client.file, client.schema, isClient, isClient, fun _ => rfl, rfl, rfl, rfl⟩
  statement isPaired := by
    obtain ⟨statement, isListed, isPair⟩ := List.mem_map.mp isPaired
    obtain ⟨rfl, rfl⟩ := Prod.mk.inj isPair
    obtain ⟨isThere, isOwned⟩ := List.mem_filter.mp isListed
    obtain rfl : statement.client = database := of_decide_eq_true isOwned
    have isFound := Store.statement?_of_mem listsOnce isThere
    exact ⟨statement, statement.program, isFound, isFound, rfl, rfl, rfl, fun _ => rfl⟩
  distinct isPaired isOther := by
    obtain ⟨statement, -, isPair⟩ := List.mem_map.mp isPaired
    obtain ⟨other, -, isOtherPair⟩ := List.mem_map.mp isOther
    obtain ⟨rfl, rfl⟩ := Prod.mk.inj isPair
    obtain ⟨rfl, rfl⟩ := Prod.mk.inj isOtherPair
    exact Iff.rfl
  running {statement} isThere isOwned _ := ⟨statement.handle, List.mem_map.mpr
    ⟨statement, List.mem_filter.mpr ⟨isThere, decide_eq_true isOwned⟩, rfl⟩⟩
  runningImage {statement} isThere isOwned _ := ⟨statement.handle, List.mem_map.mpr
    ⟨statement, List.mem_filter.mpr ⟨isThere, decide_eq_true isOwned⟩, rfl⟩⟩
  listsOnce := listsOnce
  listsOnceImage := listsOnce
  beyond := .refl store

theorem rebase {precision : Precision} {base store image : Store} {parts : Counterparts}
    (likeness : Likeness precision base parts store image) :
    Likeness precision store parts store image :=
  { likeness with beyond := .refl store }

theorem asked {precision : Precision} {base store image : Store} {parts : Counterparts}
    (likeness : Likeness precision base parts store image) {name other : StatementHandle}
    (isPaired : (name, other) ∈ parts.statements) {action : StatementHandle → StateM Store Int}
    (asks : engine.Asks action) :
    Agree (Likeness precision base parts) (action name store) (action other image) := by
  cases asks with
  | step => exact likeness.step isPaired
  | reset => exact likeness.reset isPaired
  | bind index argument => exact likeness.bind isPaired index argument
  | clearBindings => exact ⟨rfl, likeness.clearBindings isPaired⟩

end Likeness

/-! ## Requests to one database -/

namespace Store

variable {store : Store} {database : DatabaseHandle} {name : StatementHandle}

theorem asked_outline {action : StatementHandle → StateM Store Int} (asks : engine.Asks action) :
    (action name store).2.outline = store.outline := by
  cases asks with
  | step => exact store.step_outline name
  | reset => exact store.reset_outline name
  | bind index argument => exact store.bind_outline name index argument
  | clearBindings => exact store.clearBindings_outline name

section
variable (listsOnce : store.outline.ListsOnce)
include listsOnce

theorem prepare_beyond (valid : custody.Valid store)
    (isOpen : (custody.handles store).isOpen database = true) (sql : Text) :
    Beyond database store (store.prepare database sql).2 := by
  have isListed := Outline.isOpen_iff.mp isOpen
  have prepares := (Likeness.itself listsOnce isListed).prepare trivial valid valid sql
  rcases prepares with ⟨-, ⟨-, -, likeness⟩ | ⟨-, _, _, -, -, -, likeness⟩⟩
  · exact likeness.beyond
  · exact likeness.beyond

variable (isOwner : (custody.handles store).owner? name = some database)
  (isOpen : (custody.handles store).isOpen database = true)
include isOwner isOpen

theorem asked_beyond {action : StatementHandle → StateM Store Int} (asks : engine.Asks action) :
    Beyond database store (action name store).2 := by
  obtain ⟨statement, -, isFound, rfl, -⟩ := statement?_of_owner isOwner isOpen
  have itself := Likeness.itself listsOnce (Outline.isOpen_iff.mp isOpen)
  exact (itself.asked (Counterparts.mem_itself isFound) asks).2.beyond

theorem finalize_beyond : Beyond database store (store.finalize name).2 := by
  obtain ⟨statement, -, isFound, rfl, -⟩ := statement?_of_owner isOwner isOpen
  have itself := Likeness.itself listsOnce (Outline.isOpen_iff.mp isOpen)
  exact (itself.finalize (Counterparts.mem_itself isFound)).2.beyond

end

/-! ## Opening and closing -/

/-- A file for a new database is a new one, or it has a name. -/
theorem fileFor_cases {location : Location} {after : Store} {number : Nat}
    (isFile : store.fileFor location = .ok (after, number)) :
    (∃ place, (after, number) = store.addFile place) ∨
      after = store ∧ ∃ file ∈ store.files, file.number = number ∧ file.place ≠ .unnamed := by
  have named {place : Place} {file : StoredFile} (isNamed : place ≠ .unnamed)
      (isFound : store.fileAt? place = some file) :
      ∃ found ∈ store.files, found.number = file.number ∧ found.place ≠ .unnamed := by
    have isPlace : file.place = place := by simpa using List.find?_some isFound
    exact ⟨file, List.mem_of_find?_eq_some isFound, rfl, isPlace ▸ isNamed⟩
  have found {place : Place} (isNamed : place ≠ .unnamed)
      (isFile : store.findOrAdd place = (after, number)) :
      (∃ place, (after, number) = store.addFile place) ∨
        after = store ∧ ∃ file ∈ store.files, file.number = number ∧ file.place ≠ .unnamed := by
    unfold findOrAdd at isFile
    split at isFile
    · rename_i isFound
      cases isFile
      exact .inr ⟨rfl, named isNamed isFound⟩
    · exact .inl ⟨place, isFile.symm⟩
  unfold fileFor at isFile
  split at isFile
  · exact .inl ⟨_, (Except.ok.inj isFile).symm⟩
  · exact found Place.noConfusion (Except.ok.inj isFile)
  · split at isFile
    · exact found Place.noConfusion (Except.ok.inj isFile)
    split at isFile
    · rename_i isFound
      cases isFile
      exact .inr ⟨rfl, named Place.noConfusion isFound⟩
    · cases isFile
  · split at isFile <;> cases isFile
  · cases isFile

theorem openDatabase_cases (path : Bytes) (mode : OpenMode) :
    ∃ before client, (store.openDatabase path mode).2 = (before.addClient client).1 ∧
      (before = store ∧ (∀ handle, (client handle).file = none) ∨
        (∃ place, before = (store.addFile place).1 ∧
          ∀ handle, (client handle).file = some store.nextFile) ∨
        before = store ∧ ∃ file ∈ store.files, file.place ≠ .unnamed ∧
          ∀ handle, (client handle).file = some file.number) := by
  unfold openDatabase
  dsimp only
  split
  · rename_i refusal _
    exact ⟨store, fun handle => { handle, file := none, message := refusal.message }, rfl,
      .inl ⟨rfl, fun _ => rfl⟩⟩
  rename_i location _
  split
  · rename_i refusal _
    exact ⟨store, fun handle => { handle, file := none, message := refusal.message }, rfl,
      .inl ⟨rfl, fun _ => rfl⟩⟩
  rename_i before number isFile
  let client (handle : DatabaseHandle) : Client :=
    { handle, file := some number, path, isReadOnly := location.access = .readOnly }
  refine ⟨before, client, rfl, .inr ?_⟩
  rcases fileFor_cases isFile with ⟨place, isNew⟩ | ⟨isSame, file, isThere, isNumber, isNamed⟩
  · cases isNew
    exact .inl ⟨place, rfl, fun _ => rfl⟩
  · exact .inr ⟨isSame, file, isThere, isNamed, fun _ => congrArg some isNumber.symm⟩

theorem addFile_isNumbered (isNumbered : IsNumbered store) (place : Place) :
    IsNumbered (store.addFile place).1 where
  files file isThere := by
    rcases List.mem_append.mp isThere with wasThere | isNew
    · exact Nat.lt_succ_of_lt (isNumbered.files file wasThere)
    · rw [List.mem_singleton.mp isNew]
      exact Nat.lt_succ_self _
  clients client isThere number isFile :=
    Nat.lt_succ_of_lt (isNumbered.clients client isThere number isFile)

theorem addClient_isNumbered (isNumbered : IsNumbered store) {client : DatabaseHandle → Client}
    {file : Option Nat} (hasFile : ∀ handle, (client handle).file = file)
    (isOld : ∀ number, file = some number → number < store.nextFile) :
    IsNumbered (store.addClient client).1 where
  files := isNumbered.files
  clients other isThere number isFile := by
    rcases List.mem_append.mp isThere with wasThere | isNew
    · exact isNumbered.clients other wasThere number isFile
    · rw [List.mem_singleton.mp isNew, hasFile] at isFile
      exact isOld number isFile

theorem openDatabase_isNumbered (isNumbered : IsNumbered store) (path : Bytes) (mode : OpenMode) :
    IsNumbered (store.openDatabase path mode).2 := by
  obtain ⟨before, client, opens, isFile⟩ := store.openDatabase_cases path mode
  rw [opens]
  rcases isFile with ⟨rfl, hasNone⟩ | ⟨place, rfl, isNew⟩ | ⟨rfl, file, isThere, -, isOld⟩
  · exact addClient_isNumbered isNumbered hasNone nofun
  · refine addClient_isNumbered (addFile_isNumbered isNumbered place) isNew ?_
    rintro _ ⟨⟩
    exact Nat.lt_succ_self _
  · refine addClient_isNumbered isNumbered isOld ?_
    rintro _ ⟨⟩
    exact isNumbered.files file isThere

theorem closeDatabase_isNumbered (isNumbered : IsNumbered store) (database : DatabaseHandle) :
    IsNumbered (store.closeDatabase database) where
  files file isThere := isNumbered.files file (List.mem_filter.mp isThere).1
  clients client isThere := isNumbered.clients client (List.mem_filter.mp isThere).1

section
variable {number : Nat} (isPrivate : IsPrivate store database number)
include isPrivate

theorem addFile_apart (place : Place) : Apart database number store (store.addFile place).1 where
  client := rfl
  statements := rfl
  file := by
    have isOther : ¬store.nextFile = number := Nat.ne_of_gt isPrivate.isOld
    simp [file?, addFile, isOther]
  isPrivate := {
    isOpen := isPrivate.isOpen
    isOld := Nat.lt_succ_of_lt isPrivate.isOld
    isUnnamed := fun file isThere isNumber => by
      rcases List.mem_append.mp isThere with wasThere | isNew
      · exact isPrivate.isUnnamed file wasThere isNumber
      · rw [List.mem_singleton.mp isNew] at isNumber
        exact absurd isNumber (Nat.ne_of_gt isPrivate.isOld)
    isOnly := isPrivate.isOnly }

theorem addClient_apart {client : DatabaseHandle → Client} {file : Option Nat}
    (hasFile : ∀ handle, (client handle).file = file) (isOther : file ≠ some number) :
    Apart database number store (store.addClient client).1 := by
  obtain ⟨found, isFound, -⟩ := Option.map_eq_some_iff.mp isPrivate.isOpen
  have same : (store.addClient client).1.client? database = store.client? database := by
    rw [client?] at isFound ⊢
    rw [addClient, List.find?_append, isFound]
    exact isFound.symm
  refine ⟨same, rfl, rfl, ?_, isPrivate.isOld, isPrivate.isUnnamed, fun other isThere isFile => ?_⟩
  · rw [same]
    exact isPrivate.isOpen
  · rcases List.mem_append.mp isThere with wasThere | isNew
    · exact isPrivate.isOnly other wasThere isFile
    · rw [List.mem_singleton.mp isNew, hasFile] at isFile
      exact absurd isFile isOther

theorem openDatabase_apart (path : Bytes) (mode : OpenMode) :
    Apart database number store (store.openDatabase path mode).2 := by
  obtain ⟨before, client, opens, isFile⟩ := store.openDatabase_cases path mode
  rw [opens]
  rcases isFile with ⟨rfl, hasNone⟩ | ⟨place, rfl, isNew⟩ | ⟨rfl, file, isThere, isNamed, isOld⟩
  · exact addClient_apart isPrivate hasNone nofun
  · have adds := addFile_apart isPrivate place
    exact adds.trans (addClient_apart adds.isPrivate isNew fun isSame =>
      Nat.ne_of_gt isPrivate.isOld (Option.some.inj isSame))
  · exact addClient_apart isPrivate isOld fun isSame =>
      isNamed (isPrivate.isUnnamed file isThere (Option.some.inj isSame))

theorem closeDatabase_apart {other : DatabaseHandle} (isOther : database ≠ other) :
    Apart database number store (store.closeDatabase other) := by
  obtain ⟨client, isClient, isFile⟩ := Option.map_eq_some_iff.mp isPrivate.isOpen
  have isNamed : client.handle = database := by simpa using List.find?_some isClient
  have isKept : client.handle ≠ other := isNamed ▸ isOther
  have stays : (store.closeDatabase other).client? database = some client :=
    find?_filter_of_kept isClient (decide_eq_true isKept)
  refine ⟨stays.trans isClient.symm, ?_, ?_, ?_, isPrivate.isOld, ?_, ?_⟩
  · rw [statementsOf, closeDatabase, List.filter_filter]
    refine List.filter_congr fun statement _ => ?_
    by_cases isOwned : statement.client = database
    · simp [isOwned, isOther]
    · simp [isOwned]
  · have isOpen : (store.clients.filter (·.handle ≠ other)).any
        (fun client => client.file = some number) = true :=
      List.any_eq_true.mpr ⟨client, List.mem_filter.mpr
        ⟨List.mem_of_find?_eq_some isClient, decide_eq_true isKept⟩, decide_eq_true isFile⟩
    cases found : store.file? number with
    | none =>
        exact List.find?_eq_none.mpr fun file isThere =>
          List.find?_eq_none.mp found file (List.mem_filter.mp isThere).1
    | some file =>
        have isNumber : file.number = number := by simpa using List.find?_some found
        have isUnnamed := isPrivate.isUnnamed file (List.mem_of_find?_eq_some found) isNumber
        refine find?_filter_of_kept found ?_
        rw [outlives, isUnnamed, isNumber]
        exact isOpen
  · rw [stays]
    exact congrArg some isFile
  · intro file isThere
    exact isPrivate.isUnnamed file (List.mem_filter.mp isThere).1
  · intro client isThere
    exact isPrivate.isOnly client (List.mem_filter.mp isThere).1

end

end Store

end EmbeddedSql.Storage
