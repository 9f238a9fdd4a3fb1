import EmbeddedSql.Proofs.Storage.Private

/-! The store keeps what it promises about databases in memory. -/

namespace EmbeddedSql.Storage

/-! ## The statements of a database -/

def Outline.listed (outline : Outline) (database : DatabaseHandle) : List StatementHandle :=
  ((outline.statements.filter (·.2 = database)).map (·.1)).reverse

theorem statements_eq (store : Store) (database : DatabaseHandle) :
    engine.statements database store = store.outline.listed database := by
  simp [engine, Store.statementsOf, Store.outline, Outline.listed, List.filter_map,
    Function.comp_def]

namespace Outline

variable (outline : Outline) (database : DatabaseHandle)

theorem preparing_listed : (outline.preparing database).listed database =
    ⟨outline.nextStatement⟩ :: outline.listed database := by
  simp [preparing, listed]

theorem finalizing_listed (statement : StatementHandle) :
    (outline.finalizing statement).listed database =
      (outline.listed database).filter (· ≠ statement) := by
  simp only [finalizing, listed, List.filter_filter, List.filter_map, List.filter_reverse,
    Function.comp_def]
  refine congrArg List.reverse (congrArg (List.map _) (List.filter_congr fun entry _ => ?_))
  exact Bool.and_comm _ _

theorem opening_listed {outline : Outline} (isValid : outline.IsValid) :
    outline.opening.listed ⟨outline.nextClient⟩ = [] := by
  rw [listed, List.reverse_eq_nil_iff, List.map_eq_nil_iff, List.filter_eq_nil_iff]
  rintro ⟨statement, owner⟩ isListed isOwned
  obtain rfl : owner = ⟨outline.nextClient⟩ := of_decide_eq_true isOwned
  have isOpen := (isValid.statements statement _ isListed).2
  exact absurd (isValid.clients _ isOpen) (Nat.lt_irrefl _)

end Outline

/-! ## Databases that cannot be told apart -/

structure Alike (parts : Counterparts) (store image : Store) : Prop where
  likeness : Likeness .full store parts store image
  valid : custody.Valid store
  validImage : custody.Valid image
  listed : store.outline.listed parts.database = parts.statements.map (·.1)
  listedImage : image.outline.listed parts.image = parts.statements.map (·.2)
  isPrivate : ∃ number, IsPrivate store parts.database number

namespace Alike

variable {parts : Counterparts} {store image : Store} (alike : Alike parts store image)
include alike

theorem next {nextParts : Counterparts} {after afterImage : Store}
    (likeness : Likeness .full store nextParts after afterImage)
    (isSame : nextParts.database = parts.database)
    (valid : custody.Valid after) (validImage : custody.Valid afterImage)
    (listed : after.outline.listed nextParts.database = nextParts.statements.map (·.1))
    (listedImage : afterImage.outline.listed nextParts.image = nextParts.statements.map (·.2)) :
    Alike nextParts after afterImage where
  likeness := likeness.rebase
  valid := valid
  validImage := validImage
  listed := listed
  listedImage := listedImage
  isPrivate := by
    obtain ⟨number, isPrivate⟩ := alike.isPrivate
    exact ⟨number, isSame ▸ likeness.beyond.isPrivate isPrivate⟩

theorem staying {after afterImage : Store} (likeness : Likeness .full store parts after afterImage)
    (same : after.outline = store.outline) (sameImage : afterImage.outline = image.outline) :
    Alike parts after afterImage := by
  refine alike.next likeness rfl (shows_of_outline same alike.valid).1
    (shows_of_outline sameImage alike.validImage).1 ?_ ?_
  · rw [same]
    exact alike.listed
  · rw [sameImage]
    exact alike.listedImage

theorem apart {after : Store} (valid : custody.Valid after) (listsOnce : after.outline.ListsOnce)
    (isApart : ∀ number, IsPrivate store parts.database number →
      Apart parts.database number store after) : Alike parts after image := by
  obtain ⟨likeness, -, validImage, listed, listedImage, number, isPrivate⟩ := alike
  obtain ⟨client, statements, file, isPrivateAfter⟩ := isApart number isPrivate
  have mem_iff {statement : Statement} (isOwned : statement.client = parts.database) :
      statement ∈ after.statements ↔ statement ∈ store.statements := by
    have same : statement ∈ after.statementsOf parts.database ↔
        statement ∈ store.statementsOf parts.database := by rw [statements]
    simpa [Store.statementsOf, isOwned] using same
  refine ⟨?_, valid, validImage, ?_, listedImage, number, isPrivateAfter⟩
  · exact {
      client := by
        obtain ⟨found, foundFile, schema, isClient, isImage, same, seen⟩ := likeness.client
        have isNamed : found.handle = parts.database := by simpa using List.find?_some isClient
        have hasFile : found.file = some number := by
          have isOpen := isPrivate.isOpen
          rwa [isClient, Option.map_some, Option.some_inj] at isOpen
        have sameFile : found.file.bind after.file? = found.file.bind store.file? := by
          rw [hasFile, Option.bind_some, Option.bind_some, file]
        refine ⟨found, foundFile, schema, client.trans isClient, isImage, same, ?_, ?_, ?_⟩
        · rw [sameFile]
          exact seen.committed
        · refine seen.isMemory.trans ?_
          unfold Store.circumstances
          dsimp only
          rw [sameFile]
        · rw [isPrivateAfter.others_eq_nil isNamed hasFile, seen.locks,
            isPrivate.others_eq_nil isNamed hasFile]
      statement := fun isPaired => by
        obtain ⟨statement, program, isStatement, isImage, isOwned, standsIn⟩ :=
          likeness.statement isPaired
        have isThere := (mem_iff isOwned).mpr (List.mem_of_find?_eq_some isStatement)
        have isNamed := Store.handle_of_statement? isStatement
        exact ⟨statement, program, isNamed ▸ Store.statement?_of_mem listsOnce isThere, isImage,
          isOwned, standsIn⟩
      distinct := likeness.distinct
      running := fun isThere isOwned => likeness.running ((mem_iff isOwned).mp isThere) isOwned
      runningImage := likeness.runningImage
      listsOnce := listsOnce
      listsOnceImage := likeness.listsOnceImage
      beyond := .refl after }
  · rw [← statements_eq] at listed ⊢
    exact (congrArg (fun listed => (listed.map (·.handle)).reverse) statements).trans listed

/-! ### What is seen of both -/

theorem client_eq {α : Type} (look : Option Client → α)
    (isPlain : ∀ (client : Client) handle file schema,
      look (some (client.under handle file schema)) = look (some client)) :
    look (image.client? parts.image) = look (store.client? parts.database) := by
  obtain ⟨client, file, schema, isClient, isImage, -, -⟩ := alike.likeness.client
  rw [isClient, isImage, isPlain]

theorem statement_eq {α : Type} {name other : StatementHandle}
    (isPaired : (name, other) ∈ parts.statements) (look : Option Statement → α)
    (isPlain : ∀ (statement : Statement) handle client,
      look (some (statement.under handle client statement.program)) = look (some statement)) :
    look (image.statement? other) = look (store.statement? name) := by
  obtain ⟨statement, program, isStatement, isImage, -, standsIn⟩ :=
    alike.likeness.statement isPaired
  obtain rfl := standsIn.same (.inl trivial)
  rw [isStatement, isImage, isPlain]

end Alike

/-! ## New databases in memory -/

theorem ofPath_memoryPath (mode : OpenMode) :
    Location.ofPath memoryPath mode = .ok ⟨.unnamed, mode.access⟩ := by
  cases mode
  all_goals rfl

namespace Store

variable (store : Store) (mode : OpenMode)

def memoryClient (handle : DatabaseHandle) : Client where
  handle := handle
  file := some store.nextFile
  path := memoryPath
  isReadOnly := mode.access = .readOnly

theorem openDatabase_memory : store.openDatabase memoryPath mode =
    ((some ⟨store.nextClient⟩, Status.ok),
      ((store.addFile .unnamed).1.addClient (store.memoryClient mode)).1) := by
  unfold openDatabase
  rw [ofPath_memoryPath]
  rfl

variable {store}

theorem memory_client (valid : custody.Valid store) :
    (store.openDatabase memoryPath mode).2.client? ⟨store.nextClient⟩ =
      some (store.memoryClient mode ⟨store.nextClient⟩) := by
  have isFree : store.clients.find? (·.handle = ⟨store.nextClient⟩) = none := by
    refine List.find?_eq_none.mpr fun client isThere isNamed => ?_
    have isOld := valid.clients client.handle (List.mem_map_of_mem isThere)
    rw [of_decide_eq_true isNamed] at isOld
    exact Nat.lt_irrefl _ isOld
  rw [openDatabase_memory]
  refine List.find?_append.trans ?_
  refine (congrArg (Option.or · _) isFree).trans ?_
  simp [memoryClient, addFile]

theorem memory_isPrivate (valid : custody.Valid store) (isNumbered : IsNumbered store) :
    IsPrivate (store.openDatabase memoryPath mode).2 ⟨store.nextClient⟩ store.nextFile where
  isOpen := by
    rw [memory_client mode valid]
    rfl
  isOld := by
    rw [openDatabase_memory]
    exact Nat.lt_succ_self _
  isUnnamed file isThere isNumber := by
    rw [openDatabase_memory] at isThere
    rcases List.mem_append.mp isThere with wasThere | isNew
    · exact absurd (isNumbered.files file wasThere) (isNumber ▸ Nat.lt_irrefl _)
    · rw [List.mem_singleton.mp isNew]
  isOnly client isThere isFile := by
    rw [openDatabase_memory] at isThere
    rcases List.mem_append.mp isThere with wasThere | isNew
    · exact absurd (isNumbered.clients client wasThere _ isFile) (Nat.lt_irrefl _)
    · rw [List.mem_singleton.mp isNew]
      rfl

theorem memory_file (isNumbered : IsNumbered store) :
    (store.openDatabase memoryPath mode).2.file? store.nextFile =
      some { number := store.nextFile, place := .unnamed } := by
  have isFree : store.files.find? (·.number = store.nextFile) = none := by
    refine List.find?_eq_none.mpr fun file isThere isNumber => ?_
    have isOld := isNumbered.files file isThere
    rw [of_decide_eq_true isNumber] at isOld
    exact Nat.lt_irrefl _ isOld
  rw [openDatabase_memory]
  refine List.find?_append.trans ?_
  refine (congrArg (Option.or · _) isFree).trans ?_
  simp

theorem memory_statements (valid : custody.Valid store) :
    (store.openDatabase memoryPath mode).2.outline.listed ⟨store.nextClient⟩ = [] := by
  rw [(store.openDatabase_eq memoryPath mode).2]
  exact Outline.opening_listed valid

end Store

structure IsTidy (store : Store) : Prop where
  listsOnce : store.outline.ListsOnce
  isNumbered : IsNumbered store

namespace IsTidy

variable {store : Store} (isTidy : IsTidy store)
include isTidy

theorem beyond {database : DatabaseHandle} {after : Store} (beyond : Beyond database store after)
    (listsOnce : after.outline.ListsOnce) : IsTidy after :=
  ⟨listsOnce, beyond.isNumbered isTidy.isNumbered⟩

theorem asked {name : StatementHandle} (inUse : (custody.handles store).InUse name)
    {action : StatementHandle → StateM Store Int} (asks : engine.Asks action) :
    IsTidy (action name store).2 := by
  obtain ⟨database, isOwner, isOpen⟩ := inUse
  refine isTidy.beyond (Store.asked_beyond isTidy.listsOnce isOwner isOpen asks) ?_
  rw [Store.asked_outline asks]
  exact isTidy.listsOnce

end IsTidy

theorem custody_isTidy : custody.Keeps IsTidy where
  openDatabase valid isTidy :=
    ⟨custody_listsOnce.openDatabase valid isTidy.listsOnce,
      Store.openDatabase_isNumbered isTidy.isNumbered ..⟩
  closeDatabase valid isTidy isOpen isIdle :=
    ⟨custody_listsOnce.closeDatabase valid isTidy.listsOnce isOpen isIdle,
      Store.closeDatabase_isNumbered isTidy.isNumbered _⟩
  prepare valid isTidy isOpen :=
    isTidy.beyond (Store.prepare_beyond isTidy.listsOnce valid isOpen _)
      (custody_listsOnce.prepare valid isTidy.listsOnce isOpen)
  finalize valid isTidy inUse := by
    have listsOnce := custody_listsOnce.finalize valid isTidy.listsOnce inUse
    obtain ⟨database, isOwner, isOpen⟩ := inUse
    exact isTidy.beyond (Store.finalize_beyond isTidy.listsOnce isOwner isOpen) listsOnce
  step _ isTidy inUse := isTidy.asked inUse .step
  reset _ isTidy inUse := isTidy.asked inUse .reset
  bind _ isTidy inUse := isTidy.asked inUse (.bind _ _)
  clearBindings _ isTidy inUse := isTidy.asked inUse .clearBindings

/-! ## The promises -/

theorem Alike.opened {store image : Store} (valid : custody.Valid store) (isTidy : IsTidy store)
    (validImage : custody.Valid image) (isTidyImage : IsTidy image) (mode : OpenMode) :
    Alike { database := ⟨store.nextClient⟩, image := ⟨image.nextClient⟩ }
      (store.openDatabase memoryPath mode).2 (image.openDatabase memoryPath mode).2 := by
  have isPrivate := Store.memory_isPrivate mode valid isTidy.isNumbered
  have isPrivateImage := Store.memory_isPrivate mode validImage isTidyImage.isNumbered
  have nobody {before : Store} (valid : custody.Valid before) {statement : Statement}
      (isThere : statement ∈ (before.openDatabase memoryPath mode).2.statements)
      (isOwned : statement.client = ⟨before.nextClient⟩) : False := by
    have isNone := Store.memory_statements mode valid
    rw [← statements_eq] at isNone
    have isListed : statement.handle ∈ engine.statements ⟨before.nextClient⟩
        (before.openDatabase memoryPath mode).2 :=
      List.mem_reverse.mpr
        (List.mem_map_of_mem (List.mem_filter.mpr ⟨isThere, decide_eq_true isOwned⟩))
    rw [isNone] at isListed
    cases isListed
  refine ⟨?_, ?_, ?_, Store.memory_statements mode valid, Store.memory_statements mode validImage,
    _, isPrivate⟩
  · exact {
      client := by
        refine ⟨store.memoryClient mode ⟨store.nextClient⟩, some image.nextFile, none,
          Store.memory_client mode valid, Store.memory_client mode validImage, fun _ => rfl, ?_⟩
        have file := Store.memory_file mode isTidy.isNumbered
        have fileImage := Store.memory_file mode isTidyImage.isNumbered
        refine ⟨?_, ?_, ?_⟩
        · simp [Store.memoryClient, file, fileImage]
        · simp [Store.memoryClient, Store.circumstances, file, fileImage]
        · rw [isPrivate.others_eq_nil rfl rfl, isPrivateImage.others_eq_nil rfl rfl]
      statement := nofun
      distinct := nofun
      running := fun isThere isOwned => (nobody valid isThere isOwned).elim
      runningImage := fun isThere isOwned => (nobody validImage isThere isOwned).elim
      listsOnce := custody_listsOnce.openDatabase valid isTidy.listsOnce
      listsOnceImage := custody_listsOnce.openDatabase validImage isTidyImage.listsOnce
      beyond := .refl _ }
  · exact (custody.opened valid (congrArg (·.1.1) (store.openDatabase_memory mode))).2.1
  · exact (custody.opened validImage (congrArg (·.1.1) (image.openDatabase_memory mode))).2.1

namespace Store

variable {store : Store} {database : DatabaseHandle} {sql : Text}

theorem isOpen_of_client {client : Client} (isClient : store.client? database = some client) :
    (custody.handles store).isOpen database = true := by
  have isNamed : client.handle = database := by simpa using List.find?_some isClient
  exact Outline.isOpen_iff.mpr (List.mem_map.mpr ⟨client, List.mem_of_find?_eq_some isClient, isNamed⟩)

theorem prepare_outline_of_none (isNone : (store.prepare database sql).1.2 = none) :
    (store.prepare database sql).2.outline = store.outline := by
  rcases store.prepare_cases database sql with ⟨-, same⟩ | ⟨isSome, -⟩
  · exact same
  · cases (congrArg Prod.snd isSome).symm.trans isNone

theorem prepare_outline_of_some {statement : StatementHandle}
    (isSome : (store.prepare database sql).1.2 = some statement) :
    statement = ⟨store.outline.nextStatement⟩ ∧
      (store.prepare database sql).2.outline = store.outline.preparing database := by
  rcases store.prepare_cases database sql with ⟨isNone, -⟩ | ⟨isNew, prepares⟩
  · cases isNone.symm.trans isSome
  · exact ⟨Option.some.inj (isSome.symm.trans (congrArg Prod.snd isNew)), prepares⟩

end Store

namespace Alike

variable {parts : Counterparts} {store image : Store} (alike : Alike parts store image)
include alike

theorem prepared (sql : Text) :
    let first := store.prepare parts.database sql
    let second := image.prepare parts.image sql
    second.1.1 = first.1.1 ∧
      (first.1.2 = none ∧ second.1.2 = none ∧ Alike parts first.2 second.2 ∨
        first.1.1 = Status.ok ∧
          ∃ statement other, first.1.2 = some statement ∧ second.1.2 = some other ∧
            (statement, other) ∉ parts.statements ∧
              Alike (parts.adding statement other) first.2 second.2) := by
  obtain ⟨same, prepares⟩ := alike.likeness.prepare trivial alike.valid alike.validImage sql
  refine ⟨same, ?_⟩
  rcases prepares with ⟨isNone, isNoneImage, likeness⟩ |
      ⟨isOk, statement, other, isSome, isSomeImage, isNew, likeness⟩
  · refine .inl ⟨isNone, isNoneImage, alike.staying likeness ?_ ?_⟩
    · exact store.prepare_outline_of_none isNone
    · exact image.prepare_outline_of_none isNoneImage
  · obtain ⟨rfl, prepares⟩ := store.prepare_outline_of_some isSome
    obtain ⟨rfl, preparesImage⟩ := image.prepare_outline_of_some isSomeImage
    obtain ⟨client, _, _, isClient, isImage, -⟩ := alike.likeness.client
    refine .inr ⟨isOk, _, _, isSome, isSomeImage, isNew, alike.next likeness rfl ?_ ?_ ?_ ?_⟩
    · exact (custody.prepared alike.valid (Store.isOpen_of_client isClient) isSome).2.2.1
    · exact (custody.prepared alike.validImage (Store.isOpen_of_client isImage) isSomeImage).2.2.1
    · rw [prepares]
      refine (Outline.preparing_listed ..).trans ?_
      simp [alike.listed, Counterparts.adding]
    · rw [preparesImage]
      refine (Outline.preparing_listed ..).trans ?_
      simp [alike.listedImage, Counterparts.adding]

theorem finalized {statement other : StatementHandle}
    (isPaired : (statement, other) ∈ parts.statements) :
    Agree (Alike (parts.removing statement other)) (store.finalize statement)
      (image.finalize other) := by
  obtain ⟨same, likeness⟩ := alike.likeness.finalize isPaired
  refine ⟨same, alike.next likeness rfl ?_ ?_ ?_ ?_⟩
  · exact (shows_of_outline (store.finalize_outline statement)
      (Outline.finalizing_isValid alike.valid statement)).1
  · exact (shows_of_outline (image.finalize_outline other)
      (Outline.finalizing_isValid alike.validImage other)).1
  · rw [store.finalize_outline]
    refine (Outline.finalizing_listed ..).trans ?_
    refine (congrArg (List.filter _) alike.listed).trans ?_
    rw [List.filter_map]
    refine congrArg (List.map _) (List.filter_congr fun pair isThere => ?_)
    refine decide_eq_decide.mpr (not_congr ⟨fun isSame => ?_, congrArg Prod.fst⟩)
    exact Prod.ext isSame ((alike.likeness.distinct isThere isPaired).mp isSame)
  · rw [image.finalize_outline]
    refine (Outline.finalizing_listed ..).trans ?_
    refine (congrArg (List.filter _) alike.listedImage).trans ?_
    rw [List.filter_map]
    refine congrArg (List.map _) (List.filter_congr fun pair isThere => ?_)
    refine decide_eq_decide.mpr (not_congr ⟨fun isSame => ?_, congrArg Prod.snd⟩)
    exact Prod.ext ((alike.likeness.distinct isThere isPaired).mpr isSame) isSame

end Alike

/-- All that can be asked of another database, while this one is private. -/
theorem Alike.reached {parts : Counterparts} {store image after : Store}
    (alike : Alike parts store image) (isTidy : IsTidy store) {database : DatabaseHandle}
    (reaches : engine.Reaches (custody.handles store) database store after)
    (isOther : database ≠ parts.database) : Alike parts after image := by
  have valid := alike.valid
  have listsOnce := isTidy.listsOnce
  cases reaches with
  | close isOpen =>
      refine alike.apart (shows_of_outline (store.closeDatabase_outline database)
        (Outline.closing_isValid valid database)).1 ?_ fun _ isPrivate =>
          Store.closeDatabase_apart isPrivate isOther.symm
      exact store.closeDatabase_outline database ▸ listsOnce.closing database
  | prepare sql isOpen =>
      have beyond := Store.prepare_beyond listsOnce valid isOpen sql
      refine alike.apart ?_ (custody_listsOnce.prepare valid listsOnce isOpen)
        fun _ isPrivate => beyond.apart isOther.symm isPrivate
      rcases store.prepare_cases database sql with ⟨-, same⟩ | ⟨-, prepares⟩
      · exact (shows_of_outline same valid).1
      · exact (shows_of_outline prepares
          (Outline.preparing_isValid valid (Outline.isOpen_iff.mp isOpen))).1
  | ask asks isOwner =>
      have beyond := Store.asked_beyond listsOnce isOwner
        (custody.isOpen_of_owner valid isOwner) asks
      refine alike.apart (shows_of_outline (Store.asked_outline asks) valid).1 ?_
        fun _ isPrivate => beyond.apart isOther.symm isPrivate
      rw [Store.asked_outline asks]
      exact listsOnce
  | @finalize statement isOwner =>
      have isOpen := custody.isOpen_of_owner valid isOwner
      have beyond := Store.finalize_beyond listsOnce isOwner isOpen
      exact alike.apart (custody.finalized valid ⟨database, isOwner, isOpen⟩).1
        (custody_listsOnce.finalize valid listsOnce ⟨database, isOwner, isOpen⟩)
        fun _ isPrivate => beyond.apart isOther.symm isPrivate

def isolation : Isolation backend.engine where
  toCustody := custody.within custody_isTidy
  Alike := Alike
  alike_opened {state image} mode valid validImage := by
    have opens := Store.openDatabase_memory
    have alike := Alike.opened valid.1 valid.2 validImage.1 validImage.2 mode
    refine ⟨?_, .inr ⟨⟨state.nextClient⟩, ⟨image.nextClient⟩, ?_, ?_, ?_, fun _ => alike⟩⟩
    · exact (congrArg (·.1.2) (opens image mode)).trans (congrArg (·.1.2) (opens state mode)).symm
    · exact congrArg (·.1.1) (opens state mode)
    · exact congrArg (·.1.1) (opens image mode)
    · exact alike.client_eq (fun client => (client.map (·.message)).getD []) fun _ _ _ _ => rfl
  alike_prepared sql alike := alike.prepared sql
  alike_asked asks alike isPaired := by
    obtain ⟨same, likeness⟩ := alike.likeness.asked isPaired asks
    exact ⟨same, alike.staying likeness (Store.asked_outline asks) (Store.asked_outline asks)⟩
  alike_finalized alike isPaired := alike.finalized isPaired
  alike_statements {parts state image} alike :=
    ⟨.of_eq ((statements_eq state _).trans alike.listed),
      .of_eq ((statements_eq image _).trans alike.listedImage)⟩
  alike_errorMessage alike :=
    congrArg (·.getD []) (alike.client_eq (·.map (·.message)) fun _ _ _ _ => rfl)
  alike_changes alike :=
    congrArg (·.getD 0) (alike.client_eq (·.map (·.counters.changes)) fun _ _ _ _ => rfl)
  alike_lastInsertRowid alike :=
    congrArg (·.getD 0) (alike.client_eq (·.map (·.counters.lastInsertRowid)) fun _ _ _ _ => rfl)
  alike_sqlText alike isPaired :=
    congrArg (·.getD []) (alike.statement_eq isPaired (·.map (·.parsed.written)) fun _ _ _ => rfl)
  alike_parameterCount alike isPaired :=
    congrArg (·.getD 0)
      (alike.statement_eq isPaired (·.map (·.parsed.parameters.count)) fun _ _ _ => rfl)
  alike_parameterIndex name alike isPaired :=
    alike.statement_eq isPaired (fun statement =>
      (statement.bind (·.parsed.parameters.number? name)).elim 0 Int.ofNat) fun _ _ _ => rfl
  alike_parameterName? index alike isPaired :=
    alike.statement_eq isPaired (fun statement => statement.bind fun statement =>
      if index < 1 then none else statement.parsed.parameters.name? index.toNat) fun _ _ _ => rfl
  alike_columnNames alike isPaired :=
    congrArg (·.getD []) (alike.statement_eq isPaired
      (·.map fun statement => statement.program.columns.map (·.name)) fun _ _ _ => rfl)
  alike_row alike isPaired := alike.likeness.row isPaired
  apart_opened path mode valid alike := by
    refine alike.apart ?_ (custody_listsOnce.openDatabase valid.1 valid.2.listsOnce)
      fun _ isPrivate => Store.openDatabase_apart isPrivate path mode
    exact (shows_of_outline (Store.openDatabase_eq path mode).2
      (Outline.opening_isValid valid.1)).1
  apart valid alike reaches isOther := alike.reached valid.2 reaches isOther

theorem isTidy_empty : IsTidy {} where
  listsOnce := .nil
  isNumbered := {
    files := fun _ isThere => absurd isThere List.not_mem_nil
    clients := fun _ isThere => absurd isThere List.not_mem_nil }

theorem isolation_opensMemory : isolation.OpensMemory :=
  fun _ => ⟨_, congrArg Prod.fst (Store.openDatabase_memory ..)⟩

theorem isolation_empty : isolation.Shows {} .none :=
  ⟨⟨custody_empty.1, isTidy_empty⟩, custody_empty.2⟩

end EmbeddedSql.Storage
