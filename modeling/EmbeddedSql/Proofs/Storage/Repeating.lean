import EmbeddedSql.Proofs.Engine.Repeating
import EmbeddedSql.Proofs.Storage.Alongside
import EmbeddedSql.Proofs.Storage.Compiled
import EmbeddedSql.Proofs.Storage.Private
import Mathlib.Data.List.Nodup

/-! What a reset statement does is up to its text, its values and what its client sees of the
database, as long as it is compiled again whenever it starts. -/

namespace EmbeddedSql.Storage

/-! ## Texts that are compiled again -/

/-- Statements that read tables or change rows. Others are run as they were compiled first. -/
def isRecompiled (parsed : Sql.Parsed) : Bool :=
  match parsed.statement with
  | some (.insert _) | some (.update _) | some (.delete _) => true
  | some (.select _) => Plan.Program.needsSchema parsed
  | _ => false

def isTextRecompiled (sql : Text) : Bool :=
  match Store.parse sql with
  | .ok parsed => isRecompiled parsed
  | .error _ => false

def demandOf : Sql.Statement → Store.Need × Option Nat
  | .select _ => (.reading, none)
  | _ => (.writing, some 0)

theorem compile_demand {context : Plan.Context} {circumstances : Plan.Circumstances}
    {statement : Statement} {program : Plan.Program} {setting : Option Plan.Setting}
    (isRecompiled : isRecompiled statement.parsed = true)
    (isBody : statement.parsed.statement = some statement.body)
    (compiles : Plan.Program.compile context circumstances statement.parsed statement.body =
      .ok (program, setting)) :
    (Store.needOf program, Store.isCounting { statement with program }) =
      demandOf statement.body := by
  unfold Storage.isRecompiled at isRecompiled
  rw [isBody] at isRecompiled
  cases hasBody : statement.body with
  | select select =>
      rw [hasBody] at isRecompiled isBody compiles
      obtain ⟨selection, -, isProgram⟩ := bind_eq_ok compiles
      dsimp only at isRecompiled
      rw [Plan.Program.needsSchema, isBody] at isRecompiled
      dsimp only at isRecompiled
      rw [isRecompiled] at isProgram
      cases isProgram
      rfl
  | insert _ | update _ | delete _ =>
      rw [hasBody] at compiles
      obtain ⟨change, -, isProgram⟩ := bind_eq_ok compiles
      cases isProgram
      rfl
  | _ =>
      rw [hasBody] at isRecompiled
      cases isRecompiled

/-- A program that a statement has been compiled to can stand in for another one, as long as
the statement is not run. -/
theorem standsIn_of_compiled {statement : Statement} {program : Plan.Program}
    (isRecompiled : isRecompiled statement.parsed = true)
    (isBody : statement.parsed.statement = some statement.body)
    (isCompiled : statement.IsCompiled) (isCompiledTo : { statement with program }.IsCompiled)
    (isStill : statement.running?.isSome = false) : StandsIn False statement program := by
  obtain ⟨_, _, _, compiles⟩ := isCompiled
  obtain ⟨_, _, _, compilesTo⟩ := isCompiledTo
  have demands := compile_demand isRecompiled isBody compiles
  have demandsTo := compile_demand isRecompiled isBody compilesTo
  obtain ⟨need, counting⟩ := Prod.mk.inj (demandsTo.trans demands.symm)
  refine ⟨need, counting, ?_⟩
  have isNeeded : Store.needOf statement.program ≠ .nothing := by
    rw [(Prod.mk.inj demands).1]
    cases statement.body <;> nofun
  rintro (isFalse | isNothing | isRunning)
  · exact isFalse.elim
  · exact absurd isNothing isNeeded
  · cases isStill.symm.trans isRunning

/-! ## What a client sees -/

/-- What can be told of a client and its database, under whatever numbers they are. -/
structure View where
  client : Client
  committed : Option Database
  isMemory : Bool
  /-- What others who have the database open may do with it. -/
  locks : List Lock
  running : List Statement

def Statement.anonymous (statement : Statement) : Statement :=
  statement.under ⟨0⟩ ⟨0⟩ statement.program

namespace Store

def runners (store : Store) (database : DatabaseHandle) : List Statement :=
  (store.statementsOf database).filter (·.running?.isSome)

def view? (database : DatabaseHandle) (store : Store) : Option View :=
  (store.client? database).map fun client =>
    { client := client.under ⟨0⟩ none none
      committed := (client.file.bind store.file?).map (·.database)
      isMemory := (store.circumstances client).isMemory
      locks := (store.others client).map (·.lock)
      running := (store.runners database).map (·.anonymous) }

theorem mem_runners {store : Store} {database : DatabaseHandle} {statement : Statement} :
    statement ∈ store.runners database ↔ statement ∈ store.statements ∧
      statement.client = database ∧ statement.running?.isSome = true := by
  rw [runners, List.mem_filter, statementsOf, List.mem_filter, decide_eq_true_iff, and_assoc]

section
variable {store : Store} (listsOnce : store.outline.ListsOnce)
include listsOnce

theorem eq_of_handle {statement other : Statement} (isThere : statement ∈ store.statements)
    (isOtherThere : other ∈ store.statements) (same : other.handle = statement.handle) :
    other = statement := by
  have isFound := statement?_of_mem listsOnce isOtherThere
  rw [same, statement?_of_mem listsOnce isThere] at isFound
  exact (Option.some.inj isFound).symm

theorem runners_nodup (database : DatabaseHandle) : (store.runners database).Nodup := by
  unfold Outline.ListsOnce outline at listsOnce
  rw [List.map_map] at listsOnce
  exact ((List.Nodup.of_map _ listsOnce).filter _).filter _

theorem ne_of_runner {database : DatabaseHandle} {name : StatementHandle}
    {statement runner : Statement} (isFound : store.statement? name = some statement)
    (isStill : statement.running? = none) (isRunner : runner ∈ store.runners database) :
    name ≠ runner.handle := by
  rintro rfl
  obtain ⟨isThere, -, isRunning⟩ := mem_runners.mp isRunner
  cases isFound.symm.trans (statement?_of_mem listsOnce isThere)
  rw [isStill] at isRunning
  cases isRunning

end

end Store

/-! ## Statements that go together -/

theorem zip_of_map_eq {α β : Type} {shown : α → β} {items others : List α}
    (same : others.map shown = items.map shown) :
    (∀ item other, (item, other) ∈ items.zip others → shown other = shown item) ∧
      (items.zip others).map Prod.fst = items ∧ (items.zip others).map Prod.snd = others := by
  induction items generalizing others with
  | nil =>
      cases List.map_eq_nil_iff.mp same
      exact ⟨nofun, rfl, rfl⟩
  | cons first rest induction =>
      cases others with
      | nil => cases same
      | cons other more =>
          obtain ⟨sameFirst, sameRest⟩ := List.cons.inj same
          obtain ⟨shows, firsts, seconds⟩ := induction sameRest
          refine ⟨fun item image isThere => ?_, congrArg (first :: ·) firsts,
            congrArg (other :: ·) seconds⟩
          rcases List.mem_cons.mp isThere with isFirst | isThere
          · cases isFirst
            exact sameFirst
          · exact shows item image isThere

/-- The statements of two clients that are under way, in the order in which they were made. -/
abbrev pairs (store image : Store) (database other : DatabaseHandle) :
    List (Statement × Statement) :=
  (store.runners database).zip (image.runners other)

def counterparts (store image : Store) (database other : DatabaseHandle)
    (name otherName : StatementHandle) : Counterparts where
  database := database
  image := other
  statements := (name, otherName) ::
    (pairs store image database other).map fun pair => (pair.1.handle, pair.2.handle)

section
variable {store image : Store} {database other : DatabaseHandle} {name otherName : StatementHandle}

theorem mem_counterparts {third fourth : StatementHandle} :
    (third, fourth) ∈ (counterparts store image database other name otherName).statements ↔
      (third = name ∧ fourth = otherName) ∨ ∃ first second,
        (first, second) ∈ pairs store image database other ∧ first.handle = third ∧
          second.handle = fourth := by
  rw [counterparts, List.mem_cons, List.mem_map, Prod.mk.injEq]
  refine or_congr_right ⟨?_, ?_⟩
  · rintro ⟨⟨first, second⟩, isPair, isIt⟩
    exact ⟨first, second, isPair, Prod.mk.inj isIt⟩
  · rintro ⟨first, second, isPair, rfl, rfl⟩
    exact ⟨(first, second), isPair, rfl⟩

section
variable (sameRunning : (image.runners other).map (·.anonymous) =
  (store.runners database).map (·.anonymous))
include sameRunning

theorem anonymous_of_pair {first second : Statement}
    (isPair : (first, second) ∈ pairs store image database other) :
    second = first.under second.handle other first.program := by
  have sameShown := (zip_of_map_eq sameRunning).1 first second isPair
  have isOwned := (Store.mem_runners.mp (List.of_mem_zip isPair).2).2.1
  cases first
  cases second
  cases sameShown
  cases isOwned
  rfl

theorem pair_of_runner {runner : Statement} (isRunner : runner ∈ store.runners database) :
    ∃ second, (runner, second) ∈ pairs store image database other := by
  rw [← (zip_of_map_eq sameRunning).2.1] at isRunner
  obtain ⟨⟨first, second⟩, isPair, rfl⟩ := List.mem_map.mp isRunner
  exact ⟨second, isPair⟩

theorem pair_of_image {runner : Statement} (isRunner : runner ∈ image.runners other) :
    ∃ first, (first, runner) ∈ pairs store image database other := by
  rw [← (zip_of_map_eq sameRunning).2.2] at isRunner
  obtain ⟨⟨first, second⟩, isPair, rfl⟩ := List.mem_map.mp isRunner
  exact ⟨first, isPair⟩

variable (listsOnce : store.outline.ListsOnce) (listsOnceImage : image.outline.ListsOnce)
include listsOnce listsOnceImage

theorem pair_unique {first second third fourth : Statement}
    (isPair : (first, second) ∈ pairs store image database other)
    (isOther : (third, fourth) ∈ pairs store image database other) :
    first.handle = third.handle ↔ second.handle = fourth.handle := by
  obtain ⟨-, firsts, seconds⟩ := zip_of_map_eq sameRunning
  have nodupFirsts := firsts.symm ▸ Store.runners_nodup listsOnce database
  have nodupSeconds := seconds.symm ▸ Store.runners_nodup listsOnceImage other
  have isFirst := (Store.mem_runners.mp (List.of_mem_zip isPair).1).1
  have isSecond := (Store.mem_runners.mp (List.of_mem_zip isPair).2).1
  have isThird := (Store.mem_runners.mp (List.of_mem_zip isOther).1).1
  have isFourth := (Store.mem_runners.mp (List.of_mem_zip isOther).2).1
  constructor
  · intro same
    have samePair := List.inj_on_of_nodup_map nodupFirsts isPair isOther
      (Store.eq_of_handle listsOnce isThird isFirst same)
    rw [(Prod.mk.inj samePair).2]
  · intro same
    have samePair := List.inj_on_of_nodup_map nodupSeconds isPair isOther
      (Store.eq_of_handle listsOnceImage isFourth isSecond same)
    rw [(Prod.mk.inj samePair).1]

theorem counterparts_distinct {statement imageStatement : Statement}
    (isFound : store.statement? name = some statement) (isStill : statement.running? = none)
    (isImage : image.statement? otherName = some imageStatement)
    (isImageStill : imageStatement.running? = none) {third fourth fifth sixth : StatementHandle}
    (isPaired : (third, fourth) ∈
      (counterparts store image database other name otherName).statements)
    (isOther : (fifth, sixth) ∈
      (counterparts store image database other name otherName).statements) :
    third = fifth ↔ fourth = sixth := by
  have areOthers {first second : Statement}
      (isPair : (first, second) ∈ pairs store image database other) :
      name ≠ first.handle ∧ otherName ≠ second.handle :=
    ⟨Store.ne_of_runner listsOnce isFound isStill (List.of_mem_zip isPair).1,
      Store.ne_of_runner listsOnceImage isImage isImageStill (List.of_mem_zip isPair).2⟩
  rcases mem_counterparts.mp isPaired with ⟨rfl, rfl⟩ | ⟨first, second, isPair, rfl, rfl⟩ <;>
    rcases mem_counterparts.mp isOther with ⟨rfl, rfl⟩ | ⟨_, _, isOtherPair, rfl, rfl⟩
  · exact iff_of_true rfl rfl
  · exact iff_of_false (areOthers isOtherPair).1 (areOthers isOtherPair).2
  · exact iff_of_false (areOthers isPair).1.symm (areOthers isPair).2.symm
  · exact pair_unique sameRunning listsOnce listsOnceImage isPair isOtherPair

end

end

namespace Likeness

section
variable {store image : Store} {database other : DatabaseHandle} {client : Client}
  (isClient : store.client? database = some client)
  (sameView : image.view? other = store.view? database)
include isClient sameView

theorem client_of_view :
    ∃ file schema, image.client? other = some (client.under other file schema) ∧
      SeenAlike store image client (client.under other file schema) ∧
        (image.runners other).map (·.anonymous) = (store.runners database).map (·.anonymous) := by
  unfold Store.view? at sameView
  rw [isClient] at sameView
  cases isImage : image.client? other with
  | none =>
      rw [isImage] at sameView
      cases sameView
  | some found =>
      rw [isImage, Option.map_some, Option.map_some, Option.some.injEq] at sameView
      obtain ⟨sameClient, sameCommitted, sameMemory, sameLocks, sameRunning⟩ :=
        View.mk.inj sameView
      have isNamed : found.handle = other := by simpa using List.find?_some isImage
      have isUnder : found = client.under other found.file found.schema := by
        cases found
        cases client
        cases sameClient
        cases isNamed
        rfl
      exact ⟨found.file, found.schema, congrArg some isUnder, isUnder ▸
        ⟨sameCommitted, sameMemory, sameLocks⟩, sameRunning⟩

/-- Two databases of which the same is seen, with a statement of either that is not under way. -/
theorem ofViews {statement : Statement} {name otherName : StatementHandle}
    {program : Plan.Program} (listsOnce : store.outline.ListsOnce)
    (listsOnceImage : image.outline.ListsOnce)
    (isStatement : store.statement? name = some statement)
    (isImage : image.statement? otherName = some (statement.under otherName other program))
    (isOwned : statement.client = database) (isStill : statement.running? = none)
    (standsIn : StandsIn False statement program) :
    Likeness ⟨False, fun _ => False⟩ store (counterparts store image database other name otherName)
      store image := by
  obtain ⟨file, schema, isClientImage, seen, sameRunning⟩ := client_of_view isClient sameView
  refine ⟨⟨client, file, schema, isClient, isClientImage, False.elim, seen⟩, ?_,
    counterparts_distinct sameRunning listsOnce listsOnceImage isStatement isStill isImage isStill,
    ?_, ?_, listsOnce, listsOnceImage, .refl store⟩
  · intro third fourth isPaired
    rcases mem_counterparts.mp isPaired with ⟨rfl, rfl⟩ | ⟨first, second, isPair, rfl, rfl⟩
    · exact ⟨statement, program, isStatement, isImage, isOwned, standsIn⟩
    · obtain ⟨isFirst, isFirstOwned, -⟩ := Store.mem_runners.mp (List.of_mem_zip isPair).1
      obtain ⟨isSecond, -, -⟩ := Store.mem_runners.mp (List.of_mem_zip isPair).2
      have isFound := Store.statement?_of_mem listsOnceImage isSecond
      exact ⟨first, first.program, Store.statement?_of_mem listsOnce isFirst,
        isFound.trans (congrArg some (anonymous_of_pair sameRunning isPair)), isFirstOwned, rfl, rfl,
        fun _ => rfl⟩
  · intro runner isThere isRunnerOwned isRunning
    obtain ⟨second, isPair⟩ := pair_of_runner sameRunning
      (Store.mem_runners.mpr ⟨isThere, isRunnerOwned, isRunning⟩)
    exact ⟨second.handle, mem_counterparts.mpr (.inr ⟨runner, second, isPair, rfl, rfl⟩)⟩
  · intro runner isThere isRunnerOwned isRunning
    obtain ⟨first, isPair⟩ := pair_of_image sameRunning
      (Store.mem_runners.mpr ⟨isThere, isRunnerOwned, isRunning⟩)
    exact ⟨first.handle, mem_counterparts.mpr (.inr ⟨first, runner, isPair, rfl, rfl⟩)⟩

end

/-! ## Executions -/

section
variable {precision : Precision} {base store image : Store} {parts : Counterparts}
  {name other : StatementHandle}

theorem columnNames_eq (likeness : Likeness precision base parts store image)
    (isPaired : (name, other) ∈ parts.statements) (isRunning : store.isRunning name = true) :
    engine.columnNames other image = engine.columnNames name store := by
  obtain ⟨statement, program, isStatement, isImage, -, standsIn⟩ := likeness.statement isPaired
  rw [Store.isRunning, isStatement] at isRunning
  have sameProgram := standsIn.same (.inr (.inr isRunning))
  subst sameProgram
  dsimp only [engine]
  rw [isStatement, isImage]
  rfl

theorem errorMessage_eq (likeness : Likeness precision base parts store image) :
    engine.errorMessage parts.image image = engine.errorMessage parts.database store := by
  obtain ⟨client, file, schema, isClient, isImage, -, -⟩ := likeness.client
  dsimp only [engine]
  rw [isClient, isImage]
  rfl

/-- By induction on the rows that are still to come. -/
theorem execution_eq (likeness : Likeness precision base parts store image)
    (isPaired : (name, other) ∈ parts.statements) :
    backend.execution parts.image other image = backend.execution parts.database name store := by
  induction isBound : store.remaining name using Nat.strongRecOn
    generalizing store image with
  | ind bound induction =>
      subst isBound
      obtain ⟨sameCode, after⟩ := likeness.step isPaired
      have sameCode : (backend.engine.step other image).1 = (backend.engine.step name store).1 :=
        sameCode
      by_cases isRow : (backend.engine.step name store).1 = Status.row
      · have rest : backend.execution parts.image other (backend.engine.step other image).2 =
            backend.execution parts.database name (backend.engine.step name store).2 :=
          induction _ (Store.remaining_step isRow) after rfl
        have sameRow : backend.engine.row other (backend.engine.step other image).2 =
            backend.engine.row name (backend.engine.step name store).2 := after.row isPaired
        have sameNames : backend.engine.columnNames other (backend.engine.step other image).2 =
            backend.engine.columnNames name (backend.engine.step name store).2 :=
          after.columnNames_eq isPaired (Store.step_row isRow)
        have sameCount : backend.engine.columnCount other (backend.engine.step other image).2 =
            backend.engine.columnCount name (backend.engine.step name store).2 := by
          rw [Engine.columnCount, sameNames, Engine.columnCount]
        rw [Backend.execution_of_row isRow, Backend.execution_of_row (sameCode.trans isRow)]
        dsimp only
        rw [sameRow, sameCount, rest]
      · have isOtherEnd : (backend.engine.step other image).1 ≠ Status.row := sameCode ▸ isRow
        rw [Backend.execution_of_end isRow, Backend.execution_of_end isOtherEnd, sameCode]
        exact congrArg _ after.errorMessage_eq

end

end Likeness

/-! ## Statements of one text -/

def Entry.IsOf (sql : Text) (entry : Entry) : Prop :=
  Store.parse sql = .ok entry.parsed ∧
    entry.parsed.statement = some entry.body

namespace Store

variable {sql : Text} {store after : Store} {name : StatementHandle}

def IsOf (sql : Text) (store : Store) (name : StatementHandle) : Prop :=
  ∃ entry, store.entryAt? name = some entry ∧ entry.IsOf sql

theorem isOf_iff {statement : Statement} (isFound : store.statement? name = some statement) :
    store.IsOf sql name ↔ (statement.entry none).IsOf sql := by
  rw [IsOf, entryAt?, isFound, Option.map_some]
  exact ⟨fun ⟨_, isIt, isOf⟩ => Option.some.inj isIt ▸ isOf, fun isOf => ⟨_, rfl, isOf⟩⟩

theorem isOf_of_sketch {hidden : Option StatementHandle}
    (same : after.sketch hidden = store.sketch hidden) (isOf : store.IsOf sql name) :
    after.IsOf sql name := by
  obtain ⟨entry, isThere, isOf⟩ := isOf
  obtain ⟨statement, isFound, rfl⟩ := Option.map_eq_some_iff.mp isThere
  obtain ⟨later, isLater, sameEntry⟩ := statement?_of_sketch same isFound
  have sameParsed : later.parsed = statement.parsed := congrArg Entry.parsed sameEntry
  have sameBody : later.body = statement.body := congrArg Entry.body sameEntry
  rw [isOf_iff isLater, Entry.IsOf, Statement.entry, sameParsed, sameBody]
  exact isOf

theorem isOf_updateStatement (bindings : Array Value → Array Value) (isOf : store.IsOf sql name) :
    (store.updateStatement name fun statement =>
      { statement with bindings := bindings statement.bindings }).IsOf sql name := by
  obtain ⟨entry, isThere, isOf⟩ := isOf
  refine ⟨{ entry with bindings := bindings entry.bindings }, ?_, isOf⟩
  have changes : (store.updateStatement name fun statement =>
      { statement with bindings := bindings statement.bindings }).entryAt? name =
        (store.entryAt? name).map fun entry => { entry with bindings := bindings entry.bindings } :=
    entryAt?_updateStatement_self (fun _ => rfl) fun _ => rfl
  rw [changes, isThere, Option.map_some]

theorem bind_isOf (index : Int) (argument : Argument) (isOf : store.IsOf sql name) :
    (store.bind name index argument).2.IsOf sql name := by
  rcases store.bind_cases name index argument with same | ⟨value, same⟩ <;> rw [same]
  · exact isOf
  · exact isOf_updateStatement (·.setIfInBounds (index.toNat - 1) value) isOf

section
variable {image : Store} {otherName : StatementHandle} {statement imageStatement : Statement}
  (isFound : store.statement? name = some statement)
  (isFoundImage : image.statement? otherName = some imageStatement)
  (isFitted : IsFitted store) (isFittedImage : IsFitted image)
  (sameSlots : image.slots otherName = store.slots name)
include isFound isFoundImage isFitted isFittedImage sameSlots

theorem bindings_eq (sameParsed : imageStatement.parsed = statement.parsed) :
    imageStatement.bindings = statement.bindings := by
  have fits : statement.bindings.size = statement.parsed.parameters.count :=
    isFitted statement (List.mem_of_find?_eq_some isFound)
  have fitsImage : imageStatement.bindings.size = imageStatement.parsed.parameters.count :=
    isFittedImage imageStatement (List.mem_of_find?_eq_some isFoundImage)
  refine eq_of_slotsOf (by rw [fits, fitsImage, sameParsed]) ?_
  have isEntry : store.entryAt? name = some (statement.entry none) := by
    rw [entryAt?, isFound, Option.map_some]
  have isEntryImage : image.entryAt? otherName = some (imageStatement.entry none) := by
    rw [entryAt?, isFoundImage, Option.map_some]
  rwa [slots_of_entry isEntry, slots_of_entry isEntryImage] at sameSlots

theorem under_of_isOf (isReset : store.IsReset name) (isResetImage : image.IsReset otherName)
    (isOf : store.IsOf sql name) (isOfImage : image.IsOf sql otherName) :
    imageStatement =
      statement.under otherName imageStatement.client imageStatement.program := by
  obtain ⟨isParsed, isBody⟩ := (isOf_iff isFound).mp isOf
  obtain ⟨isParsedImage, isBodyImage⟩ := (isOf_iff isFoundImage).mp isOfImage
  have sameParsed : imageStatement.parsed = statement.parsed :=
    Except.ok.inj (isParsedImage.symm.trans isParsed)
  have isBodyHere : imageStatement.parsed.statement = some statement.body := sameParsed ▸ isBody
  have sameBody : imageStatement.body = statement.body :=
    Option.some.inj (isBodyImage.symm.trans isBodyHere)
  have sameBindings := bindings_eq isFound isFoundImage isFitted isFittedImage sameSlots sameParsed
  have samePhase : imageStatement.phase = statement.phase :=
    ((isReset_iff isFoundImage).mp isResetImage).trans ((isReset_iff isFound).mp isReset).symm
  have isNamed := handle_of_statement? isFoundImage
  rw [Statement.under, ← isNamed, ← sameParsed, ← sameBody, ← sameBindings, ← samePhase]

end

end Store

/-! ## The law -/

theorem custody_isOrderly :
    binding.toCustody.Keeps fun store => store.outline.ListsOnce ∧ IsCompiled store :=
  (custody_listsOnce.both custody_isCompiled).within custody_isFitted

theorem execution_of_view {sql : Text} (isRecompiled : isTextRecompiled sql = true)
    {store image : Store} {database other : DatabaseHandle} {name otherName : StatementHandle}
    (valid : (binding.within custody_isOrderly).Valid store)
    (validImage : (binding.within custody_isOrderly).Valid image)
    (isOwner : (custody.handles store).owner? name = some database)
    (isOwnerImage : (custody.handles image).owner? otherName = some other)
    (isReset : store.IsReset name) (isResetImage : image.IsReset otherName)
    (isOf : store.IsOf sql name) (isOfImage : image.IsOf sql otherName)
    (sameSlots : image.slots otherName = store.slots name)
    (sameView : image.view? other = store.view? database) :
    backend.execution other otherName image = backend.execution database name store := by
  obtain ⟨valid, listsOnce, isCompiled⟩ := valid
  obtain ⟨validImage, listsOnceImage, isCompiledImage⟩ := validImage
  obtain ⟨statement, client, isFound, isOwned, isClient⟩ :=
    statement?_of_owner isOwner (custody.isOpen_of_owner valid.1 isOwner)
  obtain ⟨imageStatement, -, isFoundImage, rfl, -⟩ :=
    statement?_of_owner isOwnerImage (custody.isOpen_of_owner validImage.1 isOwnerImage)
  have isUnder := Store.under_of_isOf isFound isFoundImage valid.2 validImage.2 sameSlots isReset
    isResetImage isOf isOfImage
  obtain ⟨isParsed, isBody⟩ := (Store.isOf_iff isFound).mp isOf
  have isTextOf : Storage.isRecompiled statement.parsed = true := by
    have isParsed : Store.parse sql = .ok statement.parsed := isParsed
    rwa [isTextRecompiled, isParsed] at isRecompiled
  have isStill : statement.running? = none := by
    rw [Statement.running?, (Store.isReset_iff isFound).mp isReset]
  have isCompiledHere := isCompiled statement (List.mem_of_find?_eq_some isFound)
  have isCompiledTo : { statement with program := imageStatement.program }.IsCompiled := by
    have compiles := isCompiledImage imageStatement (List.mem_of_find?_eq_some isFoundImage)
    rw [isUnder] at compiles
    exact compiles
  -- Either was compiled when it was last run, so that the programs may differ until they start.
  have standsIn := standsIn_of_compiled isTextOf isBody isCompiledHere isCompiledTo
    (congrArg Option.isSome isStill)
  have likeness := Likeness.ofViews isClient sameView listsOnce listsOnceImage isFound
    (isFoundImage.trans (congrArg some isUnder)) isOwned isStill standsIn
  exact likeness.execution_eq List.mem_cons_self

/-- What a statement of such a text does is up to its values and to what its client sees. -/
def repeating (sql : Text) (isRecompiled : isTextRecompiled sql = true) :
    Repeating backend sql where
  toBinding := binding.within custody_isOrderly
  IsOf := Store.IsOf sql
  Snapshot := Option View
  snapshot := Store.view?
  spares_isOf := ((custody_spares (·.IsOf sql)).within custody_isFitted).within custody_isOrderly
  endures_isOf := {
    step := fun {store name} _ _ => Store.isOf_of_sketch (store.step_sketch name)
    reset := fun {store name} _ _ => Store.isOf_of_sketch (store.reset_sketch name)
    bind := fun _ _ => Store.bind_isOf _ _
    clearBindings := fun _ _ => Store.isOf_updateStatement (·.map fun _ => .null) }
  prepared_isOf valid _ isPrepared := by
    obtain ⟨-, parsed, body, -, program, -, isParsed, isBody, -, isFound⟩ :=
      Store.prepare_new valid.1.1 isPrepared
    exact (Store.isOf_iff isFound).mpr ⟨isParsed, isBody⟩
  repeats := execution_of_view isRecompiled

theorem repeating_empty (sql : Text) (isRecompiled : isTextRecompiled sql = true) :
    (repeating sql isRecompiled).Shows {} .none :=
  ⟨⟨binding_empty.1, List.nodup_nil, fun _ isThere => absurd isThere List.not_mem_nil⟩,
    binding_empty.2⟩

end EmbeddedSql.Storage
