import EmbeddedSql.Proofs.Engine.Isolation
import EmbeddedSql.Proofs.Storage.Standing

/-! Two stores with databases that cannot be told apart, under other numbers and among other
databases. How each change is made to both, and what it leaves of the first store. -/

namespace EmbeddedSql.Storage

/-! ## What changes of one database leave -/

/-- A store that differs from an earlier one only in one database, its statements, and what
is in its file. -/
structure Beyond (database : DatabaseHandle) (base store : Store) : Prop where
  nextFile : store.nextFile = base.nextFile
  places : store.files.map (fun file => (file.number, file.place)) =
    base.files.map fun file => (file.number, file.place)
  seats : store.clients.map (fun client => (client.handle, client.file)) =
    base.clients.map fun client => (client.handle, client.file)
  clients : ∀ {other}, other ≠ database → store.client? other = base.client? other
  statements : store.statements.filter (·.client ≠ database) =
    base.statements.filter (·.client ≠ database)
  files : ∀ {number}, (∀ client, store.client? database = some client → client.file ≠ some number) →
    store.file? number = base.file? number

/-! ## Clients and statements -/

structure KeepsSeat (change : Client → Client) : Prop where
  handle : ∀ client, (change client).handle = client.handle
  file : ∀ client, (change client).file = client.file

structure KeepsOwner (change : Statement → Statement) : Prop where
  handle : ∀ statement, (change statement).handle = statement.handle
  client : ∀ statement, (change statement).client = statement.client

abbrev Client.under (client : Client) (handle : DatabaseHandle) (file : Option Nat)
    (schema : Option Database) : Client :=
  { client with handle, file, schema }

abbrev Statement.under (statement : Statement) (handle : StatementHandle)
    (client : DatabaseHandle) (program : Plan.Program) : Statement :=
  { statement with handle, client, program }

/-- The databases of two clients have the same in them, and the same locks are held by the
others who have them open. -/
structure SeenAlike (store image : Store) (client other : Client) : Prop where
  committed : (other.file.bind image.file?).map (·.database) =
    (client.file.bind store.file?).map (·.database)
  isMemory : (image.circumstances other).isMemory = (store.circumstances client).isMemory
  locks : (image.others other).map (·.lock) = (store.others client).map (·.lock)

/-- A program that can stand in for that of a statement. If they are not known to be the same,
they only differ while the statement is about to be compiled again. -/
structure StandsIn (known : Prop) (statement : Statement) (program : Plan.Program) : Prop where
  need : Store.needOf program = Store.needOf statement.program
  counting : Store.isCounting { statement with program } = Store.isCounting statement
  same : known ∨ Store.needOf statement.program = .nothing ∨ statement.running?.isSome = true →
    program = statement.program

theorem StandsIn.mono {known more : Prop} {statement : Statement} {program : Plan.Program}
    (standsIn : StandsIn known statement program) (implies : more → known) :
    StandsIn more statement program :=
  ⟨standsIn.need, standsIn.counting, fun isSame => standsIn.same (isSame.imp_left implies)⟩

/-- What is known to be the same of two databases, besides all that matters once statements
have been compiled again. -/
structure Precision where
  schema : Prop
  program : StatementHandle → Prop

namespace Precision

def full : Precision := ⟨True, fun _ => True⟩

def knowing (precision : Precision) (name : StatementHandle) : Precision :=
  { precision with program := fun other => other = name ∨ precision.program other }

end Precision

/-- The databases and the statements that go together cannot be told apart. -/
structure Likeness (precision : Precision) (base : Store) (parts : Counterparts) (store image : Store) :
    Prop where
  client : ∃ client file schema, store.client? parts.database = some client ∧
    image.client? parts.image = some (client.under parts.image file schema) ∧
      (precision.schema → schema = client.schema) ∧
        SeenAlike store image client (client.under parts.image file schema)
  statement : ∀ {name other}, (name, other) ∈ parts.statements →
    ∃ statement program, store.statement? name = some statement ∧
      image.statement? other =
          some (statement.under other parts.image program) ∧
        statement.client = parts.database ∧ StandsIn (precision.program name) statement program
  distinct : ∀ {name other third fourth}, (name, other) ∈ parts.statements →
    (third, fourth) ∈ parts.statements → (name = third ↔ other = fourth)
  running : ∀ {statement}, statement ∈ store.statements → statement.client = parts.database →
    statement.running?.isSome = true → ∃ other, (statement.handle, other) ∈ parts.statements
  runningImage : ∀ {statement}, statement ∈ image.statements → statement.client = parts.image →
    statement.running?.isSome = true → ∃ name, (name, statement.handle) ∈ parts.statements
  listsOnce : store.outline.ListsOnce
  listsOnceImage : image.outline.ListsOnce
  beyond : Beyond parts.database base store

namespace Store

variable {store : Store} {handle : DatabaseHandle} {client : Client}

theorem statement?_of_mem (listsOnce : store.outline.ListsOnce) {statement : Statement}
    (isThere : statement ∈ store.statements) :
    store.statement? statement.handle = some statement := by
  unfold Outline.ListsOnce outline at listsOnce
  rw [List.map_map] at listsOnce
  unfold statement?
  generalize store.statements = statements at isThere listsOnce ⊢
  induction statements with
  | nil => cases isThere
  | cons first rest induction =>
      obtain ⟨isFirst, listsOnce⟩ := List.nodup_cons.mp listsOnce
      rcases List.mem_cons.mp isThere with rfl | isThere
      · exact List.find?_cons_of_pos (decide_eq_true rfl)
      · have isOther : first.handle ≠ statement.handle := fun isSame =>
          isFirst (List.mem_map.mpr ⟨statement, isThere, isSame.symm⟩)
        rw [List.find?_cons_of_neg (by simpa using isOther)]
        exact induction isThere listsOnce

theorem client?_updateClient_other {other : DatabaseHandle} {change : Client → Client}
    (keeps : ∀ client, (change client).handle = client.handle) (isOther : other ≠ handle) :
    (store.updateClient handle change).client? other = store.client? other := by
  have same : (fun client : Client => decide (client.handle = other)) ∘
      (fun client => if client.handle = handle then change client else client) =
        fun client : Client => decide (client.handle = other) := by
    funext client
    dsimp only [Function.comp]
    split
    · rw [keeps]
    · rfl
  rw [client?, updateClient, List.find?_map, same]
  refine (Option.map_congr fun client isThere => ?_).trans Option.map_id'
  have isNamed : client.handle = other := by simpa using List.find?_some isThere
  exact if_neg (isNamed ▸ isOther)

theorem filter_map_of_kept {α : Type} {keeps : α → Bool} {change : α → α} (items : List α)
    (same : ∀ item, keeps (change item) = keeps item)
    (stays : ∀ item, item ∈ items → keeps item = true → change item = item) :
    (items.map change).filter keeps = items.filter keeps := by
  have sameKeeps : keeps ∘ change = keeps := funext same
  rw [List.filter_map, sameKeeps]
  refine (List.map_congr_left fun item isThere => ?_).trans (List.map_id _)
  obtain ⟨isThere, isKept⟩ := List.mem_filter.mp isThere
  exact stays item isThere isKept

section
variable {change : Client → Client} (keeps : KeepsSeat change)
include keeps

theorem updateClient_seats :
    (store.updateClient handle change).clients.map (fun client => (client.handle, client.file)) =
      store.clients.map fun client => (client.handle, client.file) := by
  rw [updateClient, List.map_map]
  refine List.map_congr_left fun client _ => ?_
  dsimp only [Function.comp]
  split
  · rw [keeps.handle, keeps.file]
  · rfl

theorem others_updateClient (isNamed : client.handle = handle) :
    (store.updateClient handle change).others client = store.others client := by
  unfold others updateClient
  dsimp only
  refine filter_map_of_kept _ (fun other => ?_) fun other _ isKept => ?_
  · split
    · rw [keeps.handle, keeps.file]
    · rfl
  · have isOther : other.handle ≠ client.handle := by
      simp only [Bool.and_eq_true, decide_eq_true_eq] at isKept
      exact isKept.1.1
    exact if_neg (isNamed ▸ isOther)

end

theorem others_congr {next : Client} (sameHandle : next.handle = client.handle)
    (sameFile : next.file = client.file) : store.others next = store.others client := by
  rw [others, others, sameHandle, sameFile]

theorem isMemory_congr {next : Client} (same : next.file = client.file) :
    (store.circumstances next).isMemory = (store.circumstances client).isMemory := by
  rw [circumstances, circumstances, same]

/-! What becomes of scans makes no difference to anything else of a statement. -/

theorem loseScans_eq (statement : Statement) :
    ∃ phase, loseScans statement = { statement with phase } ∧
      (loseScans statement).running?.isSome = statement.running?.isSome := by
  rcases statement with ⟨_, _, _, _, _, _, phase⟩
  cases phase with
  | running running =>
      rcases running with ⟨remainder, _, _, _, _⟩
      cases remainder <;> exact ⟨_, rfl, rfl⟩
  | _ => exact ⟨_, rfl, rfl⟩

theorem loseScans_under (statement : Statement) (handle : StatementHandle)
    (client : DatabaseHandle) (program : Plan.Program) :
    loseScans (statement.under handle client program) =
      (loseScans statement).under handle client program := by
  rcases statement with ⟨_, _, _, _, _, _, phase⟩
  cases phase with
  | running running =>
      rcases running with ⟨remainder, _, _, _, _⟩
      cases remainder <;> rfl
  | _ => rfl

theorem loseScans_keepsOwner (database : DatabaseHandle) :
    KeepsOwner fun statement => if statement.client = database then loseScans statement
      else statement where
  handle statement := by
    obtain ⟨phase, isIt, -⟩ := loseScans_eq statement
    split
    · rw [isIt]
    · rfl
  client statement := by
    obtain ⟨phase, isIt, -⟩ := loseScans_eq statement
    split
    · rw [isIt]
    · rfl

theorem statement?_map {change : Statement → Statement} (keeps : KeepsOwner change)
    (name : StatementHandle) :
    { store with statements := store.statements.map change }.statement? name =
      (store.statement? name).map change := by
  have same : (fun statement : Statement => decide (statement.handle = name)) ∘ change =
      fun statement : Statement => decide (statement.handle = name) :=
    funext fun statement => by simp [keeps.handle]
  rw [statement?, List.find?_map, same]
  rfl

theorem listsOnce_map (listsOnce : store.outline.ListsOnce) {change : Statement → Statement}
    (keeps : KeepsOwner change) :
    { store with statements := store.statements.map change }.outline.ListsOnce := by
  unfold Outline.ListsOnce outline at listsOnce ⊢
  rw [List.map_map] at listsOnce
  rw [List.map_map, List.map_map]
  have same : (Prod.fst ∘ fun statement : Statement => (statement.handle, statement.client)) ∘
      change = Prod.fst ∘ fun statement : Statement => (statement.handle, statement.client) :=
    funext keeps.handle
  rwa [same]

theorem committed_setCommitted (database : Database) :
    (client.file.bind (store.setCommitted client database).file?).map (·.database) =
      (client.file.bind store.file?).map fun _ => database := by
  cases isFile : client.file with
  | none => rfl
  | some number =>
      rw [Option.bind_some, Option.bind_some, setCommitted_file?, isFile, Option.map_map]
      exact Option.map_congr fun file _ => by simp

theorem isMemory_setCommitted (database : Database) :
    ((store.setCommitted client database).circumstances client).isMemory =
      (store.circumstances client).isMemory := by
  unfold circumstances
  dsimp only
  cases isFile : client.file with
  | none => rfl
  | some number =>
      rw [Option.bind_some, Option.bind_some, setCommitted_file?, isFile]
      cases store.file? number with
      | none => rfl
      | some file =>
          rcases file with ⟨_, place, _⟩
          rw [Option.map_some, if_pos rfl]
          cases place <;> rfl

end Store

namespace SeenAlike

variable {store image : Store} {client other : Client}

section
variable (seen : SeenAlike store image client other)
include seen

theorem congr {next otherNext : Client} (sameHandle : next.handle = client.handle)
    (sameFile : next.file = client.file) (sameOtherHandle : otherNext.handle = other.handle)
    (sameOtherFile : otherNext.file = other.file) : SeenAlike store image next otherNext where
  committed := by
    rw [sameFile, sameOtherFile]
    exact seen.committed
  isMemory := by
    rw [Store.isMemory_congr sameFile, Store.isMemory_congr sameOtherFile]
    exact seen.isMemory
  locks := by
    rw [Store.others_congr sameHandle sameFile, Store.others_congr sameOtherHandle sameOtherFile]
    exact seen.locks

theorem updateClient {change changeImage : Client → Client} (keeps : KeepsSeat change)
    (keepsImage : KeepsSeat changeImage) :
    SeenAlike (store.updateClient client.handle change)
      (image.updateClient other.handle changeImage) client other where
  committed := seen.committed
  isMemory := seen.isMemory
  locks := by
    rw [Store.others_updateClient keeps rfl, Store.others_updateClient keepsImage rfl]
    exact seen.locks

theorem committed_eq : image.committed other = store.committed client := by
  rw [Store.committed, Store.committed, seen.committed]

theorem all_locks (holds : Lock → Bool) :
    (image.others other).all (fun client => holds client.lock) =
      (store.others client).all fun client => holds client.lock := by
  have same := congrArg (·.all holds) seen.locks
  simpa only [List.all_map, Function.comp_def] using same

theorem isAlone_eq : image.isAlone other = store.isAlone client :=
  seen.all_locks fun lock => decide (lock = .none)

end

variable {handle : DatabaseHandle} {file : Option Nat} {schema : Option Database}
  (seen : SeenAlike store image client (client.under handle file schema))
include seen

theorem content_eq : image.content (client.under handle file schema) = store.content client := by
  rw [Store.content, Store.content, seen.committed_eq]

theorem canRead_eq : image.canRead (client.under handle file schema) = store.canRead client := by
  rw [Store.canRead, Store.canRead, seen.all_locks fun lock => lock.isBelow .pending]

theorem canReserve_eq :
    image.canReserve (client.under handle file schema) = store.canReserve client := by
  rw [Store.canReserve, Store.canReserve, seen.all_locks fun lock => lock.isBelow .reserved]

theorem circumstances_eq :
    image.circumstances (client.under handle file schema) = store.circumstances client := by
  have same := seen.isMemory
  unfold Store.circumstances at same ⊢
  dsimp only at same
  rw [same]

theorem compile_eq (database : Database) (parsed : Sql.Parsed) (body : Sql.Statement) :
    image.compile (client.under handle file schema) database parsed body =
      store.compile client database parsed body := by
  rw [Store.compile, Store.compile, seen.circumstances_eq]

theorem environment_eq (statement : Statement) (name : StatementHandle) (owner : DatabaseHandle)
    (program : Plan.Program) :
    image.environment (client.under handle file schema) (statement.under name owner program) =
      store.environment client statement := by
  rw [Store.environment, Store.environment, seen.content_eq]

end SeenAlike

namespace Likeness

variable {precision : Precision} {base store image : Store} {parts : Counterparts}

section
variable (likeness : Likeness precision base parts store image)
include likeness

theorem other_unique {name other third : StatementHandle} (isPaired : (name, other) ∈ parts.statements)
    (isThird : (name, third) ∈ parts.statements) : other = third :=
  (likeness.distinct isPaired isThird).mp rfl

/-! ## What is known -/

theorem program_eq {name other : StatementHandle} {statement : Statement} {program : Plan.Program}
    (isPaired : (name, other) ∈ parts.statements)
    (isStatement : store.statement? name = some statement)
    (isImage : image.statement? other = some (statement.under other parts.image program))
    (isSame : precision.program name ∨ statement.running?.isSome = true) :
    program = statement.program := by
  obtain ⟨found, foundProgram, isFound, isFoundImage, -, standsIn⟩ := likeness.statement isPaired
  cases isStatement.symm.trans isFound
  obtain rfl : program = foundProgram :=
    congrArg Statement.program (Option.some.inj (isImage.symm.trans isFoundImage))
  exact standsIn.same (isSame.imp_right .inr)

theorem withPrecision {next : Precision} (schema : next.schema → precision.schema)
    (programs : ∀ {name other statement program}, (name, other) ∈ parts.statements →
      store.statement? name = some statement →
        image.statement? other = some (statement.under other parts.image program) →
          next.program name → precision.program name ∨ program = statement.program) :
    Likeness next base parts store image where
  client := by
    obtain ⟨client, file, loaded, isClient, isImage, same, seen⟩ := likeness.client
    exact ⟨client, file, loaded, isClient, isImage, same ∘ schema, seen⟩
  statement isPaired := by
    obtain ⟨statement, program, isStatement, isImage, isOwned, standsIn⟩ :=
      likeness.statement isPaired
    refine ⟨statement, program, isStatement, isImage, isOwned, standsIn.need, standsIn.counting, ?_⟩
    rintro (isKnown | isSame)
    · exact (programs isPaired isStatement isImage isKnown).elim (standsIn.same ∘ .inl) id
    · exact standsIn.same (.inr isSame)
  distinct := likeness.distinct
  running := likeness.running
  runningImage := likeness.runningImage
  listsOnce := likeness.listsOnce
  listsOnceImage := likeness.listsOnceImage
  beyond := likeness.beyond

omit likeness in
theorem forget {name : StatementHandle}
    (likeness : Likeness (precision.knowing name) base parts store image) :
    Likeness precision base parts store image :=
  likeness.withPrecision id fun _ _ _ isKnown => .inl (.inr isKnown)

/-! ## Changes of the clients -/

theorem updateClient {change changeImage : Client → Client} (keeps : KeepsSeat change)
    (keepsImage : KeepsSeat changeImage)
    (agrees : ∀ client file schema, store.client? parts.database = some client →
      SeenAlike store image client (client.under parts.image file schema) →
        (precision.schema → schema = client.schema) →
          ∃ next, changeImage (client.under parts.image file schema) =
              (change client).under parts.image file next ∧
            (precision.schema → next = (change client).schema)) :
    Likeness precision base parts (store.updateClient parts.database change)
      (image.updateClient parts.image changeImage) where
  client := by
    obtain ⟨client, file, schema, isClient, isImage, sameSchema, seen⟩ := likeness.client
    obtain ⟨next, isNext, nextSchema⟩ := agrees client file schema isClient seen sameSchema
    have isNamed : client.handle = parts.database := by simpa using List.find?_some isClient
    refine ⟨change client, file, next, ?_, ?_, nextSchema, ?_⟩
    · rw [Store.client?_updateClient keeps.handle, isClient]
      rfl
    · rw [Store.client?_updateClient keepsImage.handle, isImage, ← isNext]
      rfl
    · rw [← isNext, ← isNamed]
      exact (seen.updateClient keeps keepsImage).congr (keeps.handle _) (keeps.file _)
        (keepsImage.handle _) (keepsImage.file _)
  statement := likeness.statement
  distinct := likeness.distinct
  running := likeness.running
  runningImage := likeness.runningImage
  listsOnce := by
    rw [Store.updateClient_outline _ _ keeps.handle]
    exact likeness.listsOnce
  listsOnceImage := by
    rw [Store.updateClient_outline _ _ keepsImage.handle]
    exact likeness.listsOnceImage
  beyond := {
    nextFile := likeness.beyond.nextFile
    places := likeness.beyond.places
    seats := (Store.updateClient_seats keeps).trans likeness.beyond.seats
    clients := fun isOther =>
      (Store.client?_updateClient_other keeps.handle isOther).trans (likeness.beyond.clients isOther)
    statements := likeness.beyond.statements
    files := fun isElsewhere => likeness.beyond.files fun client isClient => by
      rw [← keeps.file client]
      refine isElsewhere _ ?_
      rw [Store.client?_updateClient keeps.handle, isClient]
      rfl }

theorem updateBoth {change : Client → Client} (keeps : KeepsSeat change)
    (isPlain : ∀ (client : Client) handle file schema,
      change (client.under handle file schema) = (change client).under handle file schema)
    (sameSchema : ∀ client, (change client).schema = client.schema) :
    Likeness precision base parts (store.updateClient parts.database change)
      (image.updateClient parts.image change) :=
  likeness.updateClient keeps keeps fun client _ schema _ _ same =>
    ⟨schema, isPlain .., fun isExact => (same isExact).trans (sameSchema client).symm⟩

/-! ## Changes of the statements -/

section
variable {name other : StatementHandle} (isPaired : (name, other) ∈ parts.statements)
include isPaired

theorem updateStatement {next : Precision} {change changeImage : Statement → Statement}
    (keeps : KeepsOwner change) (keepsImage : KeepsOwner changeImage)
    (schema : next.schema → precision.schema)
    (programs : ∀ third, third ≠ name → next.program third → precision.program third)
    (agrees : ∀ statement program, store.statement? name = some statement →
      image.statement? other = some (statement.under other parts.image program) →
      StandsIn (precision.program name) statement program →
        ∃ changed, changeImage (statement.under other parts.image program) =
            (change statement).under other parts.image changed ∧
          StandsIn (next.program name) (change statement) changed) :
    Likeness next base parts (store.updateStatement name change)
      (image.updateStatement other changeImage) where
  client := by
    obtain ⟨client, file, loaded, isClient, isImage, same, seen⟩ := likeness.client
    exact ⟨client, file, loaded, isClient, isImage, same ∘ schema, seen.committed, seen.isMemory,
      seen.locks⟩
  statement {third fourth} isThird := by
    obtain ⟨statement, program, isStatement, isImage, isOwned, standsIn⟩ :=
      likeness.statement isThird
    rw [Store.statement?_updateStatement keeps.handle, isStatement,
      Store.statement?_updateStatement keepsImage.handle, isImage]
    by_cases isSame : third = name
    · subst isSame
      obtain rfl : fourth = other := (likeness.distinct isThird isPaired).mp rfl
      obtain ⟨changed, isChanged, standsIn⟩ := agrees statement program isStatement isImage standsIn
      refine ⟨change statement, changed, by simp, by simp [isChanged], ?_, standsIn⟩
      rw [keeps.client, isOwned]
    · have isSameImage : fourth ≠ other := fun isSameImage =>
        isSame ((likeness.distinct isThird isPaired).mpr isSameImage)
      exact ⟨statement, program, by simp [isSame], by simp [isSameImage], isOwned,
        standsIn.mono (programs third isSame)⟩
  distinct := likeness.distinct
  running {statement} isThere isOwned isRunning := by
    obtain ⟨before, wasThere, rfl⟩ := List.mem_map.mp isThere
    by_cases isNamed : before.handle = name
    · rw [if_pos isNamed, keeps.handle, isNamed]
      exact ⟨other, isPaired⟩
    · rw [if_neg isNamed] at isOwned isRunning ⊢
      exact likeness.running wasThere isOwned isRunning
  runningImage {statement} isThere isOwned isRunning := by
    obtain ⟨before, wasThere, rfl⟩ := List.mem_map.mp isThere
    by_cases isNamed : before.handle = other
    · rw [if_pos isNamed, keepsImage.handle, isNamed]
      exact ⟨name, isPaired⟩
    · rw [if_neg isNamed] at isOwned isRunning ⊢
      exact likeness.runningImage wasThere isOwned isRunning
  listsOnce := by
    rw [Store.updateStatement_outline _ fun statement => by rw [keeps.handle, keeps.client]]
    exact likeness.listsOnce
  listsOnceImage := by
    rw [Store.updateStatement_outline _ fun statement => by
      rw [keepsImage.handle, keepsImage.client]]
    exact likeness.listsOnceImage
  beyond := {
    likeness.beyond with
    statements := by
      refine Eq.trans ?_ likeness.beyond.statements
      refine Store.filter_map_of_kept _ (fun statement => ?_) fun statement isThere isKept => ?_
      · split
        · rw [keeps.client]
        · rfl
      · refine if_neg ?_
        rintro rfl
        obtain ⟨found, -, isFound, -, isOwned, -⟩ := likeness.statement isPaired
        rw [Store.statement?_of_mem likeness.listsOnce isThere] at isFound
        cases isFound
        exact of_decide_eq_true isKept isOwned }

theorem setPhase (phase : Phase) (isStill : ∀ running, phase ≠ .running running) :
    Likeness precision base parts (store.setPhase name phase) (image.setPhase other phase) := by
  refine likeness.updateStatement isPaired ⟨fun _ => rfl, fun _ => rfl⟩ ⟨fun _ => rfl, fun _ => rfl⟩ id
    (fun _ _ => id) fun statement program _ _ standsIn => ⟨program, rfl, ?_⟩
  refine ⟨standsIn.need, standsIn.counting, ?_⟩
  rintro (isExact | isPlain | isRunning)
  · exact standsIn.same (.inl isExact)
  · exact standsIn.same (.inr (.inl isPlain))
  · cases phase with
    | running running => exact absurd rfl (isStill running)
    | _ => cases isRunning

theorem run (running : Running)
    (isSame : ∀ statement, store.statement? name = some statement →
      precision.program name ∨ statement.running?.isSome = true) :
    Likeness precision base parts (store.setPhase name (.running running))
      (image.setPhase other (.running running)) := by
  refine likeness.updateStatement isPaired ⟨fun _ => rfl, fun _ => rfl⟩ ⟨fun _ => rfl, fun _ => rfl⟩ id
    (fun _ _ => id) fun statement program isStatement isImage standsIn => ⟨program, rfl, ?_⟩
  have same := likeness.program_eq isPaired isStatement isImage (isSame statement isStatement)
  exact ⟨standsIn.need, standsIn.counting, fun _ => same⟩

/-- A statement and its counterpart are compiled to the same. -/
theorem compiled (program : Plan.Program) :
    Likeness (precision.knowing name) base parts
      (store.updateStatement name fun statement => { statement with program })
      (image.updateStatement other fun statement => { statement with program }) := by
  refine likeness.updateStatement isPaired ⟨fun _ => rfl, fun _ => rfl⟩ ⟨fun _ => rfl, fun _ => rfl⟩ id
    (fun third isOther isKnown => isKnown.resolve_left isOther) fun statement _ _ _ _ =>
      ⟨program, rfl, rfl, rfl, fun _ => rfl⟩

end

/-! ## Changes of the files -/

theorem setCommitted {client : Client} {file : Option Nat} {schema : Option Database}
    (isClient : store.client? parts.database = some client)
    (isImage : image.client? parts.image = some (client.under parts.image file schema))
    (database : Database) :
    Likeness precision base parts (store.setCommitted client database)
      (image.setCommitted (client.under parts.image file schema) database) where
  client := by
    obtain ⟨found, foundFile, foundSchema, isFound, isFoundImage, same, seen⟩ := likeness.client
    obtain rfl := Option.some.inj (isClient.symm.trans isFound)
    obtain ⟨rfl, rfl⟩ : foundFile = file ∧ foundSchema = schema := by
      have same := Option.some.inj (isFoundImage.symm.trans isImage)
      exact ⟨congrArg Client.file same, congrArg Client.schema same⟩
    refine ⟨client, foundFile, foundSchema, isClient, isImage, same, ?_, ?_, seen.locks⟩
    · have sameFile := congrArg (Option.map fun _ => database) seen.committed
      rw [Option.map_map, Option.map_map] at sameFile
      rw [Store.committed_setCommitted, Store.committed_setCommitted]
      exact sameFile
    · rw [Store.isMemory_setCommitted, Store.isMemory_setCommitted, seen.isMemory]
  statement := likeness.statement
  distinct := likeness.distinct
  running := likeness.running
  runningImage := likeness.runningImage
  listsOnce := likeness.listsOnce
  listsOnceImage := likeness.listsOnceImage
  beyond := {
    likeness.beyond with
    places := by
      refine Eq.trans ?_ likeness.beyond.places
      rw [Store.setCommitted, List.map_map]
      refine List.map_congr_left fun file _ => ?_
      dsimp only [Function.comp]
      split <;> rfl
    files := fun {number} isElsewhere => by
      refine Eq.trans ?_ (likeness.beyond.files isElsewhere)
      rw [Store.setCommitted_file?]
      refine (Option.map_congr fun file _ => ?_).trans Option.map_id'
      exact if_neg fun isHere => isElsewhere client isClient isHere.symm }

/-! ## Forgetting the schema -/

theorem loseScans :
    Likeness precision base parts
      { store with statements := store.statements.map fun statement =>
          if statement.client = parts.database then Store.loseScans statement else statement }
      { image with statements := image.statements.map fun statement =>
          if statement.client = parts.image then Store.loseScans statement else statement } where
  client := by
    obtain ⟨client, file, schema, isClient, isImage, same, seen⟩ := likeness.client
    exact ⟨client, file, schema, isClient, isImage, same, seen.committed, seen.isMemory, seen.locks⟩
  statement isPaired := by
    obtain ⟨statement, program, isStatement, isImage, isOwned, standsIn⟩ :=
      likeness.statement isPaired
    rw [Store.statement?_map (Store.loseScans_keepsOwner _), isStatement,
      Store.statement?_map (Store.loseScans_keepsOwner _), isImage]
    obtain ⟨phase, isIt, isRunning⟩ := Store.loseScans_eq statement
    refine ⟨Store.loseScans statement, program, ?_, ?_, ?_, ?_⟩
    · simp [isOwned]
    · rw [Option.map_some, if_pos rfl, Store.loseScans_under]
    · rw [isIt, isOwned]
    · refine ⟨?_, ?_, fun isSame => ?_⟩
      · rw [isIt]
        exact standsIn.need
      · rw [isIt]
        exact standsIn.counting
      · rw [isRunning] at isSame
        rw [isIt] at isSame ⊢
        exact standsIn.same isSame
  distinct := likeness.distinct
  running {statement} isThere isOwned isRunning := by
    obtain ⟨before, wasThere, rfl⟩ := List.mem_map.mp isThere
    have keeps := Store.loseScans_keepsOwner parts.database
    rw [keeps.client] at isOwned
    rw [keeps.handle]
    rw [if_pos isOwned, (Store.loseScans_eq before).choose_spec.2] at isRunning
    exact likeness.running wasThere isOwned isRunning
  runningImage {statement} isThere isOwned isRunning := by
    obtain ⟨before, wasThere, rfl⟩ := List.mem_map.mp isThere
    have keeps := Store.loseScans_keepsOwner parts.image
    rw [keeps.client] at isOwned
    rw [keeps.handle]
    rw [if_pos isOwned, (Store.loseScans_eq before).choose_spec.2] at isRunning
    exact likeness.runningImage wasThere isOwned isRunning
  listsOnce := Store.listsOnce_map likeness.listsOnce (Store.loseScans_keepsOwner _)
  listsOnceImage := Store.listsOnce_map likeness.listsOnceImage (Store.loseScans_keepsOwner _)
  beyond := {
    likeness.beyond with
    statements := by
      refine Eq.trans ?_ likeness.beyond.statements
      refine Store.filter_map_of_kept _ (fun statement => ?_) fun statement _ isKept => ?_
      · rw [(Store.loseScans_keepsOwner _).client]
      · exact if_neg (of_decide_eq_true isKept) }

theorem forgetSchema :
    Likeness precision base parts (store.forgetSchema parts.database)
      (image.forgetSchema parts.image) := by
  let forget (client : Client) : Client := { client with schema := none, hasNewSchema := false }
  have keeps : KeepsSeat forget := ⟨fun _ => rfl, fun _ => rfl⟩
  exact (likeness.updateClient keeps keeps fun _ _ _ _ _ _ => ⟨none, rfl, fun _ => rfl⟩).loseScans

/-! ## What is under way -/

theorem mem_runningOf {running : Running} :
    running ∈ image.runningOf parts.image ↔ running ∈ store.runningOf parts.database := by
  simp only [Store.runningOf, Store.statementsOf, List.mem_filterMap, List.mem_filter,
    decide_eq_true_eq]
  constructor
  · rintro ⟨statement, ⟨isThere, isOwned⟩, isRunning⟩
    obtain ⟨name, isPaired⟩ :=
      likeness.runningImage isThere isOwned (Option.isSome_iff_exists.mpr ⟨running, isRunning⟩)
    obtain ⟨found, program, isFound, isImage, foundIsOwned, -⟩ := likeness.statement isPaired
    rw [Store.statement?_of_mem likeness.listsOnceImage isThere] at isImage
    rw [Option.some.inj isImage] at isRunning
    exact ⟨found, ⟨List.mem_of_find?_eq_some isFound, foundIsOwned⟩, isRunning⟩
  · rintro ⟨statement, ⟨isThere, isOwned⟩, isRunning⟩
    obtain ⟨other, isPaired⟩ :=
      likeness.running isThere isOwned (Option.isSome_iff_exists.mpr ⟨running, isRunning⟩)
    obtain ⟨found, program, isFound, isImage, foundIsOwned, -⟩ := likeness.statement isPaired
    rw [Store.statement?_of_mem likeness.listsOnce isThere] at isFound
    cases isFound
    exact ⟨_, ⟨List.mem_of_find?_eq_some isImage, rfl⟩, isRunning⟩

theorem any_runningOf (holds : Running → Bool) :
    (image.runningOf parts.image).any holds = (store.runningOf parts.database).any holds := by
  rw [Bool.eq_iff_iff, List.any_eq_true, List.any_eq_true]
  exact exists_congr fun running => and_congr_left fun _ => likeness.mem_runningOf

theorem isReading_eq : image.isReading parts.image = store.isReading parts.database :=
  likeness.any_runningOf (·.reads)

theorem isWriting_eq : image.isWriting parts.image = store.isWriting parts.database :=
  likeness.any_runningOf (·.writes)

theorem isEmpty_runningOf :
    (image.runningOf parts.image).isEmpty = (store.runningOf parts.database).isEmpty := by
  rw [Bool.eq_iff_iff, List.isEmpty_iff, List.isEmpty_iff, List.eq_nil_iff_forall_not_mem,
    List.eq_nil_iff_forall_not_mem]
  exact forall_congr' fun running => not_congr likeness.mem_runningOf

theorem any_client (holds : Client → Bool)
    (same : ∀ (client : Client) file schema,
      holds (client.under parts.image file schema) = holds client) :
    (image.client? parts.image).any holds = (store.client? parts.database).any holds := by
  obtain ⟨client, file, schema, isClient, isImage, -, -⟩ := likeness.client
  rw [isClient, isImage, Option.any_some, Option.any_some, same]

end

end Likeness

end EmbeddedSql.Storage
