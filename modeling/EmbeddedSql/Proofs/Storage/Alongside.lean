import EmbeddedSql.Proofs.Storage.Likeness

/-! What two stores that cannot be told apart make of the same statement: the same, and they
still cannot be told apart. -/

namespace EmbeddedSql.Storage

open Plan (Fault)

/-- Both go wrong for the same reason, or come to related ends. -/
inductive EndsAlike {ε α β : Type} (R : α → β → Prop) : Except ε α → Except ε β → Prop
  | ok {answer : α} {other : β} : R answer other → EndsAlike R (.ok answer) (.ok other)
  | error (error : ε) : EndsAlike R (.error error) (.error error)

namespace Likeness

abbrev Goes {α : Type} (precision : Precision) (base : Store) (parts : Counterparts)
    (outcome image : Store × α) : Prop :=
  image.2 = outcome.2 ∧ Likeness precision base parts outcome.1 image.1

inductive StartsAlike (precision : Precision) (base : Store) (parts : Counterparts) :
    Except (Int × Store) Store → Except (Int × Store) Store → Prop
  | error (code : Int) {after afterImage : Store} :
      Likeness precision base parts after afterImage →
        StartsAlike precision base parts (.error (code, after)) (.error (code, afterImage))
  | ok {after afterImage : Store} : Likeness precision base parts after afterImage →
      StartsAlike precision base parts (.ok after) (.ok afterImage)

/-- A statement and its counterpart that have been compiled again. -/
structure Recompiled (precision : Precision) (base : Store) (parts : Counterparts)
    (name other : StatementHandle) (ready readyImage : Store × Statement) : Prop where
  likeness : Likeness (precision.knowing name) base parts ready.1 readyImage.1
  same : readyImage.2 = ready.2.under other parts.image ready.2.program
  handle : ready.2.handle = name
  client : ready.2.client = parts.database

variable {precision : Precision} {base store image : Store} {parts : Counterparts}
  (likeness : Likeness precision base parts store image)
include likeness

/-! ## Locks -/

theorem toRead :
    EndsAlike (fun after afterImage => Likeness precision base parts after afterImage ∧
        ∀ client other, client.handle = parts.database → other.handle = parts.image →
          SeenAlike store image client other → SeenAlike after afterImage client other)
      (store.toRead parts.database) (image.toRead parts.image) := by
  obtain ⟨client, file, schema, isClient, isImage, -, seen⟩ := likeness.client
  unfold Store.toRead
  rw [isClient, isImage]
  dsimp only
  rw [seen.canRead_eq]
  split
  · exact .ok ⟨likeness, fun _ _ _ _ => id⟩
  split
  · refine .ok ⟨likeness.updateBoth ⟨fun _ => rfl, fun _ => rfl⟩ (fun _ _ _ _ => rfl) fun _ => rfl, ?_⟩
    intro client other isHere isHereImage seen
    rw [← isHere, ← isHereImage]
    exact seen.updateClient ⟨fun _ => rfl, fun _ => rfl⟩ ⟨fun _ => rfl, fun _ => rfl⟩
  · exact .error _

theorem toWrite :
    EndsAlike (Likeness precision base parts) (store.toWrite parts.database)
      (image.toWrite parts.image) := by
  obtain ⟨client, file, schema, isClient, isImage, -, seen⟩ := likeness.client
  have reads := likeness.toRead
  unfold Store.toWrite
  rw [isClient, isImage]
  dsimp only
  split
  · exact .error _
  generalize store.toRead parts.database = reading at reads ⊢
  generalize image.toRead parts.image = readingImage at reads ⊢
  cases reads with
  | error fault => exact .error fault
  | @ok reading readingImage reads =>
      obtain ⟨likeness, sees⟩ := reads
      have isNamed : client.handle = parts.database := by simpa using List.find?_some isClient
      dsimp only
      rw [(sees _ _ isNamed rfl seen).canReserve_eq]
      split
      · refine .ok (likeness.updateClient ⟨fun _ => rfl, fun _ => rfl⟩ ⟨fun _ => rfl, fun _ => rfl⟩
          fun client file schema _ seen same => ⟨schema, ?_, same⟩)
        rw [seen.content_eq]
      · exact .error _

theorem toExclusive :
    EndsAlike (Likeness precision base parts) (store.toExclusive parts.database)
      (image.toExclusive parts.image) := by
  have writes := likeness.toWrite
  unfold Store.toExclusive
  generalize store.toWrite parts.database = writing at writes ⊢
  generalize image.toWrite parts.image = writingImage at writes ⊢
  cases writes with
  | error fault => exact .error fault
  | @ok writing writingImage likeness =>
      obtain ⟨client, file, schema, isClient, isImage, -, seen⟩ := likeness.client
      dsimp only
      rw [isClient, isImage]
      dsimp only
      rw [seen.isAlone_eq]
      split
      · exact .ok (likeness.updateBoth ⟨fun _ => rfl, fun _ => rfl⟩ (fun _ _ _ _ => rfl) fun _ => rfl)
      · exact .error _

theorem settleLock :
    Likeness precision base parts (store.settleLock parts.database) (image.settleLock parts.image) := by
  unfold Store.settleLock
  rw [likeness.isReading_eq]
  refine likeness.updateBoth ⟨fun client => ?_, fun client => ?_⟩ (fun client handle file schema => ?_)
    fun client => ?_
  all_goals split <;> rfl

/-! ## The end of a transaction -/

theorem commit :
    Goes precision base parts (store.commit parts.database) (image.commit parts.image) := by
  obtain ⟨client, file, schema, isClient, isImage, -, seen⟩ := likeness.client
  unfold Store.commit
  rw [isClient, isImage]
  dsimp only
  cases client.working with
  | none => exact ⟨rfl, likeness⟩
  | some database =>
      dsimp only
      rw [seen.committed_eq, seen.isAlone_eq]
      split
      · exact ⟨rfl, likeness⟩
      split
      · exact ⟨rfl, (likeness.setCommitted isClient isImage database).updateBoth
          ⟨fun _ => rfl, fun _ => rfl⟩ (fun _ _ _ _ => rfl) fun _ => rfl⟩
      · exact ⟨rfl, likeness.updateBoth ⟨fun _ => rfl, fun _ => rfl⟩ (fun _ _ _ _ => rfl)
          fun _ => rfl⟩

theorem rollback :
    Likeness precision base parts (store.rollback parts.database) (image.rollback parts.image) := by
  unfold Store.rollback
  rw [likeness.any_client (·.hasNewSchema) fun _ _ _ => rfl]
  dsimp only
  refine settleLock (updateBoth ?_ ⟨fun _ => rfl, fun _ => rfl⟩ (fun _ _ _ _ => rfl) fun _ => rfl)
  split
  · exact likeness.forgetSchema
  · exact likeness

theorem endTransaction :
    Goes precision base parts (store.endTransaction parts.database)
      (image.endTransaction parts.image) := by
  have commits := likeness.commit
  unfold Store.endTransaction
  generalize store.commit parts.database = outcome at commits ⊢
  generalize image.commit parts.image = outcomeImage at commits ⊢
  rcases outcome with ⟨after, _⟩
  rcases outcomeImage with ⟨afterImage, fault⟩
  obtain ⟨rfl, likeness⟩ := commits
  cases fault with
  | some fault => exact ⟨rfl, likeness⟩
  | none =>
      dsimp only
      exact ⟨rfl, settleLock (updateBoth likeness ⟨fun _ => rfl, fun _ => rfl⟩
        (fun _ _ _ _ => rfl) fun _ => rfl)⟩

/-! ## Statements about transactions -/

theorem beginTransaction (kind : Sql.TransactionKind) :
    Goes precision base parts (store.beginTransaction parts.database kind)
      (image.beginTransaction parts.image kind) := by
  have reads : EndsAlike (Likeness precision base parts) (store.toRead parts.database)
      (image.toRead parts.image) := by
    have reads := likeness.toRead
    generalize store.toRead parts.database = reading at reads ⊢
    generalize image.toRead parts.image = readingImage at reads ⊢
    cases reads with
    | error fault => exact .error fault
    | ok reads => exact .ok reads.1
  unfold Store.beginTransaction
  rw [likeness.any_client (·.isReadOnly) fun _ _ _ => rfl]
  extract_lets isReadOnly prepared isReadOnlyImage preparedImage
  have ends : EndsAlike (Likeness precision base parts) prepared preparedImage := by
    cases kind with
    | deferred => exact .ok likeness
    | immediate =>
        dsimp only [prepared, preparedImage]
        split
        · exact reads
        · exact likeness.toWrite
    | exclusive =>
        dsimp only [prepared, preparedImage]
        split
        · exact reads
        · exact likeness.toExclusive
  clear_value prepared preparedImage
  cases ends with
  | error fault => exact ⟨rfl, likeness⟩
  | ok likeness =>
      dsimp only
      rw [likeness.any_client (·.isAutomatic) fun _ _ _ => rfl]
      split
      · exact ⟨rfl, likeness.updateBoth ⟨fun _ => rfl, fun _ => rfl⟩ (fun _ _ _ _ => rfl)
          fun _ => rfl⟩
      · exact ⟨rfl, likeness⟩

theorem commitTransaction :
    Goes precision base parts (store.commitTransaction parts.database)
      (image.commitTransaction parts.image) := by
  unfold Store.commitTransaction
  rw [likeness.any_client (·.isAutomatic) fun _ _ _ => rfl, likeness.isWriting_eq]
  split
  · exact ⟨rfl, likeness⟩
  split
  · exact ⟨rfl, likeness⟩
  · exact likeness.endTransaction

theorem rollbackTransaction :
    Goes precision base parts (store.rollbackTransaction parts.database)
      (image.rollbackTransaction parts.image) := by
  unfold Store.rollbackTransaction
  rw [likeness.any_client (·.isAutomatic) fun _ _ _ => rfl]
  split
  · exact ⟨rfl, likeness⟩
  · exact ⟨rfl, likeness.rollback⟩

theorem vacuum :
    Goes precision base parts (store.vacuum parts.database) (image.vacuum parts.image) := by
  unfold Store.vacuum
  rw [likeness.any_client (·.isAutomatic) fun _ _ _ => rfl, likeness.isEmpty_runningOf]
  split
  · exact ⟨rfl, likeness⟩
  split
  · exact ⟨rfl, likeness⟩
  · have excludes := likeness.toExclusive
    generalize store.toExclusive parts.database = outcome at excludes ⊢
    generalize image.toExclusive parts.image = outcomeImage at excludes ⊢
    cases excludes with
    | error fault => exact ⟨rfl, likeness⟩
    | ok _ => exact ⟨rfl, likeness⟩

theorem setSavepoint (name : Bytes) :
    Goes precision base parts (store.setSavepoint parts.database name)
      (image.setSavepoint parts.image name) := by
  unfold Store.setSavepoint
  rw [likeness.isWriting_eq]
  split
  · exact ⟨rfl, likeness⟩
  · exact ⟨rfl, likeness.updateBoth ⟨fun _ => rfl, fun _ => rfl⟩ (fun _ _ _ _ => rfl) fun _ => rfl⟩

theorem releaseSavepoint (name : Bytes) :
    Goes precision base parts (store.releaseSavepoint parts.database name)
      (image.releaseSavepoint parts.image name) := by
  obtain ⟨client, file, schema, isClient, isImage, -, seen⟩ := likeness.client
  unfold Store.releaseSavepoint
  rw [isClient, isImage, likeness.isWriting_eq]
  dsimp only
  rw [show Store.savepointsFrom (client.under parts.image file schema) name =
    Store.savepointsFrom client name from rfl]
  split
  · exact ⟨rfl, likeness⟩
  split
  · exact ⟨rfl, likeness⟩
  split
  · exact likeness.endTransaction
  · exact ⟨rfl, likeness.updateBoth ⟨fun _ => rfl, fun _ => rfl⟩ (fun _ _ _ _ => rfl) fun _ => rfl⟩

theorem rollbackToSavepoint (name : Bytes) :
    Goes precision base parts (store.rollbackToSavepoint parts.database name)
      (image.rollbackToSavepoint parts.image name) := by
  obtain ⟨client, file, schema, isClient, isImage, -, seen⟩ := likeness.client
  unfold Store.rollbackToSavepoint
  rw [isClient, isImage]
  dsimp only
  rw [show Store.savepointsFrom (client.under parts.image file schema) name =
    Store.savepointsFrom client name from rfl]
  split
  · exact ⟨rfl, likeness⟩
  · refine ⟨rfl, updateClient ?_ ⟨fun _ => rfl, fun _ => rfl⟩ ⟨fun _ => rfl, fun _ => rfl⟩
      fun client file schema _ seen same => ⟨schema, ?_, same⟩⟩
    · split
      · exact likeness.forgetSchema
      · exact likeness
    · rw [seen.committed_eq]

/-! ## The end of a statement -/

theorem count (changed : Option Nat) :
    Likeness precision base parts (store.count parts.database changed)
      (image.count parts.image changed) := by
  cases changed with
  | none => exact likeness
  | some changed =>
      exact likeness.updateBoth ⟨fun _ => rfl, fun _ => rfl⟩ (fun _ _ _ _ => rfl) fun _ => rfl

theorem settle (changed : Option Nat) :
    Goes precision base parts (store.settle parts.database changed)
      (image.settle parts.image changed) := by
  have commits := likeness.commit
  unfold Store.settle
  rw [likeness.any_client (·.isAutomatic) fun _ _ _ => rfl, likeness.isWriting_eq]
  split
  · generalize store.commit parts.database = outcome at commits ⊢
    generalize image.commit parts.image = outcomeImage at commits ⊢
    rcases outcome with ⟨after, _⟩
    rcases outcomeImage with ⟨afterImage, fault⟩
    obtain ⟨rfl, likeness⟩ := commits
    cases fault with
    | none => exact ⟨rfl, count (settleLock likeness) changed⟩
    | some fault => exact ⟨rfl, count (rollback likeness) _⟩
  · exact ⟨rfl, likeness.count changed⟩

theorem report (fault : Fault) :
    Likeness precision base parts (store.report parts.database fault)
      (image.report parts.image fault) :=
  likeness.updateBoth ⟨fun _ => rfl, fun _ => rfl⟩ (fun _ _ _ _ => rfl) fun _ => rfl

section
variable {statement : Statement} {other : StatementHandle} {program : Plan.Program}
  (isPaired : (statement.handle, other) ∈ parts.statements)
  (isOwned : statement.client = parts.database)
include isPaired isOwned

theorem finish (running : Running) :
    Goes precision base parts (store.finish statement running)
      (image.finish (statement.under other parts.image program) running) := by
  have halts := (likeness.setPhase isPaired (.halted Status.ok) nofun).settle running.changed
  unfold Store.finish
  rw [isOwned]
  dsimp only
  generalize (store.setPhase statement.handle (.halted Status.ok)).settle parts.database
    running.changed = outcome at halts ⊢
  generalize (image.setPhase other (.halted Status.ok)).settle parts.image running.changed =
    outcomeImage at halts ⊢
  rcases outcome with ⟨after, _⟩
  rcases outcomeImage with ⟨afterImage, fault⟩
  obtain ⟨rfl, likeness⟩ := halts
  cases fault with
  | none => exact ⟨rfl, likeness⟩
  | some fault => exact ⟨rfl, report (setPhase likeness isPaired (.halted (faultCode fault)) nofun) fault⟩

theorem fail (changed : Option Nat) (fault : Fault) :
    Likeness precision base parts (store.fail statement changed fault)
      (image.fail (statement.under other parts.image program) changed fault) := by
  have halts := likeness.setPhase isPaired (.halted (faultCode fault)) nofun
  unfold Store.fail
  rw [isOwned]
  dsimp only
  rw [halts.any_client (·.isAutomatic) fun _ _ _ => rfl, halts.isWriting_eq]
  refine report ?_ fault
  split
  · exact (halts.settle _).2
  split
  · exact halts.rollback.count _
  · exact halts.count _

end

/-! ## The beginning of a statement -/

theorem acquire (need : Store.Need) :
    EndsAlike (Likeness precision base parts) (store.acquire parts.database need)
      (image.acquire parts.image need) := by
  cases need with
  | nothing => exact .ok likeness
  | reading =>
      have reads := likeness.toRead
      unfold Store.acquire
      dsimp only
      generalize store.toRead parts.database = reading at reads ⊢
      generalize image.toRead parts.image = readingImage at reads ⊢
      cases reads with
      | error fault => exact .error fault
      | ok reads => exact .ok reads.1
  | writing => exact likeness.toWrite

theorem recompile {statement : Statement} {other : StatementHandle} {program : Plan.Program}
    (isPaired : (statement.handle, other) ∈ parts.statements)
    (isStatement : store.statement? statement.handle = some statement)
    (isImage : image.statement? other = some (statement.under other parts.image program))
    (isOwned : statement.client = parts.database)
    (standsIn : StandsIn (precision.program statement.handle) statement program) :
    EndsAlike (Recompiled precision base parts statement.handle other) (store.recompile statement)
      (image.recompile (statement.under other parts.image program)) := by
  unfold Store.recompile
  dsimp only
  rw [standsIn.need, isOwned]
  by_cases isPlain : Store.needOf statement.program = .nothing
  · rw [isPlain]
    unfold Store.acquire
    dsimp only
    rw [if_pos rfl]
    obtain rfl : program = statement.program := standsIn.same (.inr (.inl isPlain))
    refine .ok ⟨likeness.withPrecision id fun _ isFound isFoundImage isKnown => ?_, rfl, rfl, isOwned⟩
    rcases isKnown with rfl | isKnown
    · obtain rfl := likeness.other_unique isPaired ‹_›
      cases isStatement.symm.trans isFound
      exact .inr (congrArg Statement.program (Option.some.inj (isFoundImage.symm.trans isImage)))
    · exact .inl isKnown
  · have acquires := likeness.acquire (Store.needOf statement.program)
    generalize store.acquire parts.database (Store.needOf statement.program) = ready at acquires ⊢
    generalize image.acquire parts.image (Store.needOf statement.program) = readyImage
      at acquires ⊢
    cases acquires with
    | error fault => exact .error fault
    | @ok ready readyImage likeness =>
        obtain ⟨client, file, schema, isClient, isClientImage, -, seen⟩ := likeness.client
        dsimp only
        rw [if_neg isPlain, if_neg isPlain, isClient, isClientImage]
        dsimp only
        rw [seen.content_eq, seen.compile_eq]
        generalize ready.content client = database
        cases ready.compile client database statement.parsed statement.body with
        | error failure => exact .error _
        | ok outcome =>
            rcases outcome with ⟨program, setting⟩
            let load (client : Client) : Client := { client with schema := some database }
            have loads : KeepsSeat load := ⟨fun _ => rfl, fun _ => rfl⟩
            have loaded := likeness.updateClient loads loads fun _ _ _ _ _ _ =>
              ⟨some database, rfl, fun _ => rfl⟩
            have acquires := (loaded.compiled isPaired program).acquire (Store.needOf program)
            dsimp only
            generalize Store.acquire _ parts.database (Store.needOf program) = last at acquires ⊢
            generalize Store.acquire _ parts.image (Store.needOf program) = lastImage at acquires ⊢
            cases acquires with
            | error fault => exact .error fault
            | ok likeness => exact .ok ⟨likeness, rfl, rfl, rfl⟩

/-! ## Running -/

theorem keepWork (work : Plan.Work) :
    Likeness precision base parts (store.keepWork parts.database work)
      (image.keepWork parts.image work) := by
  refine likeness.updateClient ⟨fun _ => rfl, fun _ => rfl⟩ ⟨fun _ => rfl, fun _ => rfl⟩
    fun client file schema _ seen same => ?_
  rw [seen.content_eq]
  generalize decide ((store.content client).schemaVersion ≠ work.database.schemaVersion) = isNew
  refine ⟨if isNew then some work.database else schema, rfl, fun isKnown => ?_⟩
  rw [same isKnown]

omit likeness in
theorem runEffect_eq {client : Client} {file : Option Nat} {schema : Option Database}
    (seen : SeenAlike store image client (client.under parts.image file schema))
    (statement : Statement) (other : StatementHandle) (program : Plan.Program)
    (effect : Plan.Effect Unit) :
    image.runEffect (client.under parts.image file schema)
        (statement.under other parts.image program) effect =
      store.runEffect client statement effect := by
  rw [Store.runEffect, Store.runEffect, seen.content_eq]

section
variable {client : Client} {file : Option Nat} {schema : Option Database}
  (seen : SeenAlike store image client (client.under parts.image file schema))
  (statement : Statement) (other : StatementHandle) (program : Plan.Program)
include seen

omit likeness in
theorem runQuery_eq (selection : Plan.Selection) (reads : Bool) :
    image.runQuery (client.under parts.image file schema)
        (statement.under other parts.image program) selection reads =
      store.runQuery client statement selection reads := by
  rw [Store.runQuery, Store.runQuery, seen.environment_eq]

variable {statement} (isOwned : statement.client = parts.database)
include isOwned

theorem runChange (change : Plan.Change) :
    Goes precision base parts (store.runChange client statement change)
      (image.runChange (client.under parts.image file schema)
        (statement.under other parts.image program) change) := by
  unfold Store.runChange
  rw [runEffect_eq seen, isOwned]
  rcases store.runEffect client statement (change.run []) with ⟨result, work⟩
  let count (client : Client) : Client :=
    { client with counters := { work.counters with changes := client.counters.changes } }
  have keeps : KeepsSeat count := ⟨fun _ => rfl, fun _ => rfl⟩
  have counts := likeness.updateBoth keeps (fun _ _ _ _ => rfl) fun _ => rfl
  cases result with
  | ok _ => exact ⟨rfl, counts.keepWork work⟩
  | error fault =>
      refine ⟨rfl, ?_⟩
      dsimp only
      split
      · exact counts.keepWork work
      · exact counts

theorem runDefinition (effect : Plan.Effect Unit) (drops : Bool) :
    Goes precision base parts (store.runDefinition client statement effect drops)
      (image.runDefinition (client.under parts.image file schema)
        (statement.under other parts.image program) effect drops) := by
  unfold Store.runDefinition
  rw [runEffect_eq seen, isOwned]
  dsimp only
  rw [likeness.isReading_eq]
  split
  · exact ⟨rfl, likeness⟩
  · rcases store.runEffect client statement effect with ⟨_ | _, work⟩
    · exact ⟨rfl, likeness⟩
    · exact ⟨rfl, likeness.keepWork work⟩

omit likeness seen isOwned in
theorem Goes.withoutRows {outcome outcomeImage : Store × Option Fault}
    (goes : Goes precision base parts outcome outcomeImage) :
    Goes precision base parts (Store.withoutRows outcome) (Store.withoutRows outcomeImage) := by
  rcases outcome with ⟨after, _⟩
  rcases outcomeImage with ⟨afterImage, fault⟩
  obtain ⟨rfl, likeness⟩ := goes
  cases fault <;> exact ⟨rfl, likeness⟩

theorem execute :
    Goes precision base parts (store.execute client statement)
      (image.execute (client.under parts.image file schema)
        (statement.under other parts.image statement.program)) := by
  unfold Store.execute
  rw [isOwned]
  dsimp only
  cases isProgram : statement.program with
  | query selection reads => exact ⟨runQuery_eq seen .., likeness⟩
  | change change => exact likeness.runChange seen other _ isOwned change
  | define effect drops => exact likeness.runDefinition seen other _ isOwned effect drops
  | begin kind => exact (likeness.beginTransaction kind).withoutRows
  | commit => exact likeness.commitTransaction.withoutRows
  | rollback => exact likeness.rollbackTransaction.withoutRows
  | savepoint name => exact (likeness.setSavepoint name).withoutRows
  | release name => exact (likeness.releaseSavepoint name).withoutRows
  | rollbackTo name => exact (likeness.rollbackToSavepoint name).withoutRows
  | vacuum => exact likeness.vacuum.withoutRows
  | nothing => exact Goes.withoutRows ⟨rfl, likeness⟩

end

/-! ## Steps -/

theorem start {statement : Statement} {other : StatementHandle} {program : Plan.Program}
    (isPaired : (statement.handle, other) ∈ parts.statements)
    (isStatement : store.statement? statement.handle = some statement)
    (isImage : image.statement? other = some (statement.under other parts.image program))
    (isOwned : statement.client = parts.database)
    (standsIn : StandsIn (precision.program statement.handle) statement program) :
    StartsAlike precision base parts (store.start statement)
      (image.start (statement.under other parts.image program)) := by
  have recompiles := likeness.recompile isPaired isStatement isImage isOwned standsIn
  unfold Store.start
  dsimp only
  generalize store.recompile statement = ready at recompiles ⊢
  generalize image.recompile (statement.under other parts.image program) = readyImage
    at recompiles ⊢
  cases recompiles with
  | error fault =>
      rw [show Store.isCounting (statement.under other parts.image program) =
        Store.isCounting statement from standsIn.counting]
      exact .error _ (likeness.fail isPaired isOwned _ fault)
  | @ok ready readyImage recompiled =>
      rcases ready with ⟨ready, again⟩
      rcases readyImage with ⟨readyImage, _⟩
      obtain ⟨likeness, rfl, isNamed, isOwnedAgain⟩ := recompiled
      obtain ⟨client, file, schema, isClient, isClientImage, -, seen⟩ := likeness.client
      have executes := likeness.execute seen other isOwnedAgain
      dsimp only
      rw [isOwnedAgain, isClient, isClientImage, isNamed]
      dsimp only
      generalize ready.execute client again = outcome at executes ⊢
      generalize readyImage.execute _ _ = outcomeImage at executes ⊢
      rcases outcome with ⟨after, _⟩
      rcases outcomeImage with ⟨afterImage, outcome⟩
      obtain ⟨rfl, likeness⟩ := executes
      rcases outcome with ⟨changed, fault⟩ | running
      · exact .error _ (likeness.fail isPaired isOwned changed fault).forget
      · exact .ok (likeness.run isPaired running fun _ _ => .inl (.inl rfl)).forget

theorem advance {name other : StatementHandle} (isPaired : (name, other) ∈ parts.statements) :
    Agree (Likeness precision base parts) (store.advance name) (image.advance other) := by
  obtain ⟨statement, program, isStatement, isImage, isOwned, standsIn⟩ :=
    likeness.statement isPaired
  obtain ⟨client, file, schema, isClient, isClientImage, -, seen⟩ := likeness.client
  obtain rfl := Store.handle_of_statement? isStatement
  unfold Store.advance
  rw [isStatement, isImage]
  dsimp only
  rw [isOwned, isClient, isClientImage]
  cases isPhase : statement.phase with
  | ready => exact ⟨rfl, likeness⟩
  | halted code => exact ⟨rfl, likeness⟩
  | running running =>
      dsimp only
      rw [seen.environment_eq, seen.content_eq]
      cases running.remainder.next (store.environment client statement) with
      | row row remainder =>
          refine ⟨rfl, likeness.run isPaired _ fun found isFound => .inr ?_⟩
          cases isStatement.symm.trans isFound
          simp [Statement.running?, isPhase]
      | done =>
          have finishes : Goes precision base parts _
              (image.finish (statement.under other parts.image program) running) :=
            likeness.finish isPaired isOwned running
          dsimp only
          generalize store.finish statement running = outcome at finishes ⊢
          generalize image.finish _ running = outcomeImage at finishes ⊢
          rcases outcome with ⟨after, _⟩
          rcases outcomeImage with ⟨afterImage, fault⟩
          obtain ⟨rfl, likeness⟩ := finishes
          cases fault <;> exact ⟨rfl, likeness⟩
      | failed fault => exact ⟨rfl, likeness.fail isPaired isOwned _ fault⟩

theorem step {name other : StatementHandle} (isPaired : (name, other) ∈ parts.statements) :
    Agree (Likeness precision base parts) (store.step name) (image.step other) := by
  obtain ⟨statement, program, isStatement, isImage, isOwned, standsIn⟩ :=
    likeness.statement isPaired
  obtain rfl := Store.handle_of_statement? isStatement
  have starts := likeness.start isPaired isStatement isImage isOwned standsIn
  unfold Store.step
  rw [isStatement, isImage]
  dsimp only
  generalize store.start statement = started at starts ⊢
  generalize image.start _ = startedImage at starts ⊢
  cases statement.phase with
  | running running => exact likeness.advance isPaired
  | ready | halted code =>
      cases starts with
      | error code likeness => exact ⟨rfl, likeness⟩
      | ok likeness => exact likeness.advance isPaired

/-! ## Between steps -/

theorem reset {name other : StatementHandle} (isPaired : (name, other) ∈ parts.statements) :
    Agree (Likeness precision base parts) (store.reset name) (image.reset other) := by
  obtain ⟨statement, program, isStatement, isImage, isOwned, standsIn⟩ :=
    likeness.statement isPaired
  obtain rfl := Store.handle_of_statement? isStatement
  unfold Store.reset
  rw [isStatement, isImage]
  dsimp only
  cases statement.phase with
  | ready => exact ⟨rfl, likeness⟩
  | halted code => exact ⟨rfl, likeness.setPhase isPaired .ready nofun⟩
  | running running =>
      have finishes : Goes precision base parts _
          (image.finish (statement.under other parts.image program) running) :=
        likeness.finish isPaired isOwned running
      dsimp only
      generalize store.finish statement running = outcome at finishes ⊢
      generalize image.finish _ running = outcomeImage at finishes ⊢
      rcases outcome with ⟨after, _⟩
      rcases outcomeImage with ⟨afterImage, fault⟩
      obtain ⟨rfl, likeness⟩ := finishes
      cases fault <;> exact ⟨rfl, setPhase likeness isPaired .ready nofun⟩

theorem changeBindings {name other : StatementHandle} (isPaired : (name, other) ∈ parts.statements)
    (change : Array Value → Array Value) :
    Likeness precision base parts
      (store.updateStatement name fun statement =>
        { statement with bindings := change statement.bindings })
      (image.updateStatement other fun statement =>
        { statement with bindings := change statement.bindings }) :=
  likeness.updateStatement isPaired ⟨fun _ => rfl, fun _ => rfl⟩ ⟨fun _ => rfl, fun _ => rfl⟩ id
    (fun _ _ => id) fun _ program _ _ standsIn =>
      ⟨program, rfl, standsIn.need, standsIn.counting, standsIn.same⟩

theorem bind {name other : StatementHandle} (isPaired : (name, other) ∈ parts.statements)
    (index : Int) (argument : Argument) :
    Agree (Likeness precision base parts) (store.bind name index argument)
      (image.bind other index argument) := by
  obtain ⟨statement, program, isStatement, isImage, isOwned, standsIn⟩ :=
    likeness.statement isPaired
  unfold Store.bind
  rw [isStatement, isImage]
  dsimp only
  cases statement.phase with
  | running running => exact ⟨rfl, likeness⟩
  | halted code => exact ⟨rfl, likeness⟩
  | ready =>
      dsimp only
      have holds (value : Value) := likeness.changeBindings isPaired
        (·.setIfInBounds (index.toNat - 1) value)
      split
      · exact ⟨rfl, likeness⟩
      split
      · exact ⟨rfl, holds .null⟩
      · exact ⟨rfl, holds (Store.valueOf argument)⟩

theorem clearBindings {name other : StatementHandle} (isPaired : (name, other) ∈ parts.statements) :
    Likeness precision base parts (store.clearBindings name) (image.clearBindings other) :=
  likeness.changeBindings isPaired (·.map fun _ => .null)

/-! ## What is seen of rows -/

theorem row {name other : StatementHandle} (isPaired : (name, other) ∈ parts.statements) :
    image.row other = store.row name := by
  obtain ⟨statement, program, isStatement, isImage, isOwned, -⟩ := likeness.statement isPaired
  unfold Store.row
  rw [isStatement, isImage]
  rfl

end Likeness

end EmbeddedSql.Storage
