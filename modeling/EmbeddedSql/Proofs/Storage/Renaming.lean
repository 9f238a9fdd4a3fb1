import EmbeddedSql.Proofs.Storage.Custody
import Mathlib.Logic.Embedding.Basic

/-! Other numbers for the databases of a store. Whatever is asked of the databases and of their
statements commutes with it, and what was last reported to them makes no difference. -/

namespace EmbeddedSql.Storage

open Plan (Fault)

variable (rename : DatabaseHandle ↪ DatabaseHandle)

/-- The client under its other number, to whom nothing has been reported. -/
def Client.renamed (client : Client) : Client :=
  { client with handle := rename client.handle, message := [] }

def Statement.renamed (statement : Statement) : Statement :=
  { statement with client := rename statement.client }

namespace Store

def renamed (store : Store) : Store :=
  { store with
    clients := store.clients.map (·.renamed rename)
    statements := store.statements.map (·.renamed rename)
    nextClient := (rename ⟨store.nextClient⟩).number }

abbrev muted (store : Store) : Store :=
  store.renamed (.refl _)

/-- The same store with other numbers, as long as nobody looks at what was reported. -/
abbrev LooksLike (store image : Store) : Prop :=
  image.muted = store.renamed rename

variable (store : Store) (client : Client) (handle : DatabaseHandle)

@[simp] theorem renamed_muted : (store.renamed rename).muted = store.renamed rename := by
  simp [renamed, Client.renamed, Statement.renamed, Function.comp_def]

/-! ## Looking things up -/

@[simp] theorem client?_renamed :
    (store.renamed rename).client? (rename handle) =
      (store.client? handle).map (·.renamed rename) := by
  rw [client?, client?, renamed, List.find?_map]
  refine congrArg (Option.map _) (congrArg (List.find? · store.clients) (funext fun client => ?_))
  simp [Client.renamed]

@[simp] theorem statement?_renamed (name : StatementHandle) :
    (store.renamed rename).statement? name = (store.statement? name).map (·.renamed rename) := by
  rw [statement?, statement?, renamed, List.find?_map]
  rfl

@[simp] theorem statementsOf_renamed :
    (store.renamed rename).statementsOf (rename handle) =
      (store.statementsOf handle).map (·.renamed rename) := by
  simp [statementsOf, renamed, List.filter_map, Function.comp_def, Statement.renamed]

@[simp] theorem runningOf_renamed :
    (store.renamed rename).runningOf (rename handle) = store.runningOf handle := by
  rw [runningOf, statementsOf_renamed, List.filterMap_map]
  rfl

@[simp] theorem isReading_renamed :
    (store.renamed rename).isReading (rename handle) = store.isReading handle := by
  rw [isReading, isReading, runningOf_renamed]

@[simp] theorem isWriting_renamed :
    (store.renamed rename).isWriting (rename handle) = store.isWriting handle := by
  rw [isWriting, isWriting, runningOf_renamed]

@[simp] theorem committed_renamed :
    (store.renamed rename).committed (client.renamed rename) = store.committed client := rfl

@[simp] theorem content_renamed :
    (store.renamed rename).content (client.renamed rename) = store.content client := rfl

@[simp] theorem others_renamed :
    (store.renamed rename).others (client.renamed rename) =
      (store.others client).map (·.renamed rename) := by
  simp only [others, renamed, List.filter_map]
  refine congrArg (List.map _) (List.filter_congr fun other _ => ?_)
  have sameHandle : (other.renamed rename).handle ≠ (client.renamed rename).handle ↔
      other.handle ≠ client.handle := not_congr (rename.apply_eq_iff_eq _ _)
  rw [Function.comp_apply, decide_eq_decide.mpr sameHandle]
  rfl

@[simp] theorem canRead_renamed :
    (store.renamed rename).canRead (client.renamed rename) = store.canRead client := by
  rw [canRead, others_renamed, List.all_map]
  rfl

@[simp] theorem canReserve_renamed :
    (store.renamed rename).canReserve (client.renamed rename) = store.canReserve client := by
  rw [canReserve, others_renamed, List.all_map]
  rfl

@[simp] theorem isAlone_renamed :
    (store.renamed rename).isAlone (client.renamed rename) = store.isAlone client := by
  rw [isAlone, others_renamed, List.all_map]
  rfl

@[simp] theorem circumstances_renamed :
    (store.renamed rename).circumstances (client.renamed rename) = store.circumstances client :=
  rfl

@[simp] theorem any_client_renamed (holds : Client → Bool)
    (same : ∀ client, holds (client.renamed rename) = holds client) :
    ((store.renamed rename).client? (rename handle)).any holds =
      (store.client? handle).any holds := by
  rw [client?_renamed]
  cases store.client? handle with
  | none => rfl
  | some client => exact same client

/-! ## Changes -/

variable {rename store handle}

theorem updateClient_muted {change changeImage : Client → Client}
    (agrees : ∀ client, (changeImage (client.renamed rename)).renamed (.refl _) =
      (change client).renamed rename) :
    LooksLike rename (store.updateClient handle change)
      ((store.renamed rename).updateClient (rename handle) changeImage) := by
  simp only [LooksLike, muted, updateClient, renamed, List.map_map, Statement.renamed,
    Function.comp_def, Function.Embedding.refl_apply]
  congr 1
  refine List.map_congr_left fun client _ => ?_
  by_cases isNamed : client.handle = handle
  · simpa [isNamed, Client.renamed] using agrees client
  · simp [isNamed, Client.renamed]

theorem updateClient_renamed {change changeImage : Client → Client}
    (agrees : ∀ client, changeImage (client.renamed rename) = (change client).renamed rename) :
    (store.renamed rename).updateClient (rename handle) changeImage =
      (store.updateClient handle change).renamed rename := by
  simp only [updateClient, renamed, List.map_map]
  congr 1
  refine List.map_congr_left fun client _ => ?_
  by_cases isNamed : client.handle = handle
  · simpa [isNamed, Client.renamed] using agrees client
  · simp [isNamed, Client.renamed]

theorem updateClient_plain {change : Client → Client}
    (isPlain : ∀ client, change (client.renamed rename) = (change client).renamed rename) :
    (store.renamed rename).updateClient (rename handle) change =
      (store.updateClient handle change).renamed rename :=
  updateClient_renamed isPlain

theorem updateStatement_renamed {name : StatementHandle} {change : Statement → Statement}
    (isPlain : ∀ statement, change (statement.renamed rename) = (change statement).renamed rename) :
    (store.renamed rename).updateStatement name change =
      (store.updateStatement name change).renamed rename := by
  simp only [updateStatement, renamed, List.map_map]
  congr 1
  refine List.map_congr_left fun statement _ => ?_
  by_cases isNamed : statement.handle = name
  · simpa [isNamed, Statement.renamed] using isPlain statement
  · simp [isNamed, Statement.renamed]

@[simp] theorem setPhase_renamed (name : StatementHandle) (phase : Phase) :
    (store.renamed rename).setPhase name phase = (store.setPhase name phase).renamed rename :=
  updateStatement_renamed fun _ => rfl

@[simp] theorem setCommitted_renamed (database : Database) :
    (store.renamed rename).setCommitted (client.renamed rename) database =
      (store.setCommitted client database).renamed rename := rfl

/-! ## Locks -/

variable (store handle)

@[simp] theorem toRead_renamed :
    (store.renamed rename).toRead (rename handle) =
      (store.toRead handle).map (·.renamed rename) := by
  unfold toRead
  rw [client?_renamed]
  cases store.client? handle with
  | none => rfl
  | some client =>
      dsimp only [Option.map_some]
      rw [canRead_renamed, apply_ite (Except.map _), apply_ite (Except.map _)]
      refine if_congr Iff.rfl rfl (if_congr Iff.rfl ?_ rfl)
      exact congrArg Except.ok (updateClient_renamed fun _ => rfl)

@[simp] theorem toWrite_renamed :
    (store.renamed rename).toWrite (rename handle) =
      (store.toWrite handle).map (·.renamed rename) := by
  unfold toWrite
  rw [client?_renamed, toRead_renamed]
  cases store.client? handle with
  | none => rfl
  | some client =>
      dsimp only [Option.map_some]
      rw [apply_ite (Except.map _)]
      refine if_congr Iff.rfl rfl ?_
      cases store.toRead handle with
      | error fault => rfl
      | ok next =>
          dsimp only [Except.map]
          rw [canReserve_renamed]
          split
          · exact congrArg Except.ok (updateClient_renamed fun _ => rfl)
          · rfl

@[simp] theorem toExclusive_renamed :
    (store.renamed rename).toExclusive (rename handle) =
      (store.toExclusive handle).map (·.renamed rename) := by
  unfold toExclusive
  rw [toWrite_renamed]
  cases store.toWrite handle with
  | error fault => rfl
  | ok next =>
      dsimp only [Except.map]
      rw [client?_renamed]
      cases next.client? handle with
      | none => rfl
      | some client =>
          dsimp only [Option.map_some]
          rw [isAlone_renamed]
          split
          · exact congrArg Except.ok (updateClient_renamed fun _ => rfl)
          · rfl

@[simp] theorem settleLock_renamed :
    (store.renamed rename).settleLock (rename handle) =
      (store.settleLock handle).renamed rename := by
  unfold settleLock
  rw [isReading_renamed]
  refine updateClient_renamed fun client => ?_
  rw [apply_ite (Client.renamed rename)]
  exact if_congr Iff.rfl rfl rfl

/-! ## The end of a transaction -/

@[simp] theorem commit_renamed :
    (store.renamed rename).commit (rename handle) =
      (store.commit handle).map (·.renamed rename) id := by
  unfold commit
  rw [client?_renamed]
  cases store.client? handle with
  | none => rfl
  | some client =>
      dsimp only [Option.map_some]
      have sameWorking : (client.renamed rename).working = client.working := rfl
      rw [sameWorking, committed_renamed, isAlone_renamed]
      cases client.working with
      | none => rfl
      | some database =>
          dsimp only
          rw [apply_ite (Prod.map _ _), apply_ite (Prod.map _ _)]
          refine if_congr Iff.rfl rfl (if_congr Iff.rfl ?_ ?_)
          · rw [setCommitted_renamed]
            exact Prod.ext (updateClient_renamed fun _ => rfl) rfl
          · exact Prod.ext (updateClient_renamed fun _ => rfl) rfl

theorem loseScans_renamed (statement : Statement) :
    loseScans (statement.renamed rename) = (loseScans statement).renamed rename := by
  rcases statement with ⟨_, _, _, _, _, _, phase⟩
  cases phase with
  | running running =>
      rcases running with ⟨remainder, _, _, _, _⟩
      cases remainder <;> rfl
  | _ => rfl

@[simp] theorem forgetSchema_renamed :
    (store.renamed rename).forgetSchema (rename handle) =
      (store.forgetSchema handle).renamed rename := by
  unfold forgetSchema
  rw [updateClient_plain (by exact fun _ => rfl)]
  simp only [renamed, List.map_map]
  congr 1
  refine List.map_congr_left fun statement _ => ?_
  by_cases isOwned : statement.client = handle
  · simpa [isOwned, Statement.renamed] using loseScans_renamed statement
  · simp [isOwned, Statement.renamed]

@[simp] theorem rollback_renamed :
    (store.renamed rename).rollback (rename handle) = (store.rollback handle).renamed rename := by
  unfold rollback
  rw [any_client_renamed rename store handle _ fun _ => rfl, forgetSchema_renamed]
  dsimp only
  rw [← apply_ite (renamed rename), updateClient_plain (by exact fun _ => rfl), settleLock_renamed]

@[simp] theorem endTransaction_renamed :
    (store.renamed rename).endTransaction (rename handle) =
      (store.endTransaction handle).map (·.renamed rename) id := by
  unfold endTransaction
  rw [commit_renamed]
  rcases store.commit handle with ⟨after, _ | fault⟩
  · dsimp only [Prod.map, id]
    rw [updateClient_plain (by exact fun _ => rfl), settleLock_renamed]
  · rfl

/-! ## Statements about transactions -/

@[simp] theorem beginTransaction_renamed (kind : Sql.TransactionKind) :
    (store.renamed rename).beginTransaction (rename handle) kind =
      (store.beginTransaction handle kind).map (·.renamed rename) id := by
  have begins (next : Store) :
      (if ((next.renamed rename).client? (rename handle)).any (·.isAutomatic) then
          ((next.renamed rename).updateClient (rename handle) fun client =>
            { client with isAutomatic := false }, none)
        else (next.renamed rename,
          some (.ofText "cannot start a transaction within a transaction"))) =
        Prod.map (·.renamed rename) id
          (if (next.client? handle).any (·.isAutomatic) then
            (next.updateClient handle fun client => { client with isAutomatic := false }, none)
          else (next,
            some (Fault.ofText "cannot start a transaction within a transaction"))) := by
    rw [any_client_renamed rename next handle _ fun _ => rfl, apply_ite (Prod.map _ _)]
    exact if_congr Iff.rfl (Prod.ext (updateClient_renamed fun _ => rfl) rfl) rfl
  unfold beginTransaction
  dsimp only
  rw [any_client_renamed rename store handle _ fun _ => rfl]
  cases kind with
  | deferred => exact begins store
  | immediate =>
      dsimp only
      rw [toRead_renamed, toWrite_renamed]
      by_cases refuses : (store.client? handle).any (·.isReadOnly) = true
      · rw [if_pos refuses, if_pos refuses]
        cases store.toRead handle with
        | error fault => rfl
        | ok next => exact begins next
      · rw [if_neg refuses, if_neg refuses]
        cases store.toWrite handle with
        | error fault => rfl
        | ok next => exact begins next
  | exclusive =>
      dsimp only
      rw [toRead_renamed, toExclusive_renamed]
      by_cases refuses : (store.client? handle).any (·.isReadOnly) = true
      · rw [if_pos refuses, if_pos refuses]
        cases store.toRead handle with
        | error fault => rfl
        | ok next => exact begins next
      · rw [if_neg refuses, if_neg refuses]
        cases store.toExclusive handle with
        | error fault => rfl
        | ok next => exact begins next

@[simp] theorem commitTransaction_renamed :
    (store.renamed rename).commitTransaction (rename handle) =
      (store.commitTransaction handle).map (·.renamed rename) id := by
  unfold commitTransaction
  rw [any_client_renamed rename store handle _ fun _ => rfl, isWriting_renamed,
    endTransaction_renamed]
  split
  · rfl
  split <;> rfl

@[simp] theorem rollbackTransaction_renamed :
    (store.renamed rename).rollbackTransaction (rename handle) =
      (store.rollbackTransaction handle).map (·.renamed rename) id := by
  unfold rollbackTransaction
  rw [any_client_renamed rename store handle _ fun _ => rfl, rollback_renamed]
  split <;> rfl

@[simp] theorem vacuum_renamed :
    (store.renamed rename).vacuum (rename handle) =
      (store.vacuum handle).map (·.renamed rename) id := by
  unfold vacuum
  rw [any_client_renamed rename store handle _ fun _ => rfl, runningOf_renamed,
    toExclusive_renamed]
  split
  · rfl
  split
  · rfl
  · cases store.toExclusive handle <;> rfl

@[simp] theorem setSavepoint_renamed (name : Bytes) :
    (store.renamed rename).setSavepoint (rename handle) name =
      (store.setSavepoint handle name).map (·.renamed rename) id := by
  unfold setSavepoint
  rw [isWriting_renamed]
  split
  · rfl
  · exact Prod.ext (updateClient_renamed fun _ => rfl) rfl

@[simp] theorem releaseSavepoint_renamed (name : Bytes) :
    (store.renamed rename).releaseSavepoint (rename handle) name =
      (store.releaseSavepoint handle name).map (·.renamed rename) id := by
  unfold releaseSavepoint
  rw [client?_renamed, isWriting_renamed, endTransaction_renamed]
  cases store.client? handle with
  | none => rfl
  | some client =>
      have sameSavepoints : savepointsFrom (client.renamed rename) name =
          savepointsFrom client name := rfl
      dsimp only [Option.map_some]
      rw [sameSavepoints]
      split
      · rfl
      split
      · rfl
      rw [apply_ite (Prod.map _ _)]
      exact if_congr Iff.rfl rfl (Prod.ext (updateClient_renamed fun _ => rfl) rfl)

@[simp] theorem rollbackToSavepoint_renamed (name : Bytes) :
    (store.renamed rename).rollbackToSavepoint (rename handle) name =
      (store.rollbackToSavepoint handle name).map (·.renamed rename) id := by
  unfold rollbackToSavepoint
  rw [client?_renamed, forgetSchema_renamed]
  cases store.client? handle with
  | none => rfl
  | some client =>
      have sameSavepoints : savepointsFrom (client.renamed rename) name =
          savepointsFrom client name := rfl
      dsimp only [Option.map_some]
      rw [sameSavepoints]
      split
      · rfl
      · have forgets : (if (client.renamed rename).hasNewSchema then
            (store.forgetSchema handle).renamed rename else store.renamed rename) =
            (if client.hasNewSchema then store.forgetSchema handle else store).renamed rename :=
          (apply_ite (renamed rename) _ _ _).symm
        rw [forgets]
        exact Prod.ext (updateClient_renamed fun _ => rfl) rfl

/-! ## The end of a statement -/

@[simp] theorem count_renamed (changed : Option Nat) :
    (store.renamed rename).count (rename handle) changed =
      (store.count handle changed).renamed rename := by
  cases changed with
  | none => rfl
  | some changed => exact updateClient_renamed fun _ => rfl

@[simp] theorem settle_renamed (changed : Option Nat) :
    (store.renamed rename).settle (rename handle) changed =
      (store.settle handle changed).map (·.renamed rename) id := by
  unfold settle
  rw [any_client_renamed rename store handle _ fun _ => rfl, isWriting_renamed, commit_renamed,
    count_renamed]
  split
  · rcases store.commit handle with ⟨after, _ | fault⟩
    · dsimp only [Prod.map, id]
      rw [settleLock_renamed, count_renamed]
    · dsimp only [Prod.map, id]
      rw [rollback_renamed, count_renamed]
  · rfl

theorem report_muted (fault : Fault) :
    LooksLike rename (store.report handle fault)
      ((store.renamed rename).report (rename handle) fault) :=
  updateClient_muted fun _ => rfl

theorem finish_muted (statement : Statement) (running : Running) :
    let outcome := store.finish statement running
    let image := (store.renamed rename).finish (statement.renamed rename) running
    image.2 = outcome.2 ∧ LooksLike rename outcome.1 image.1 := by
  intro outcome image
  simp only [outcome, image]
  unfold finish
  dsimp only [Statement.renamed]
  rw [setPhase_renamed, settle_renamed]
  rcases (store.setPhase statement.handle (.halted Status.ok)).settle statement.client
    running.changed with ⟨after, _ | fault⟩
  · exact ⟨rfl, renamed_muted rename after⟩
  · dsimp only [Prod.map, id]
    rw [setPhase_renamed]
    exact ⟨rfl, report_muted _ _ fault⟩

theorem fail_muted (statement : Statement) (changed : Option Nat) (fault : Fault) :
    LooksLike rename (store.fail statement changed fault)
      ((store.renamed rename).fail (statement.renamed rename) changed fault) := by
  unfold fail
  dsimp only [Statement.renamed]
  rw [setPhase_renamed, any_client_renamed rename _ _ _ fun _ => rfl, isWriting_renamed,
    settle_renamed, rollback_renamed, count_renamed, count_renamed]
  dsimp only [Prod.map]
  rw [← apply_ite (renamed rename), ← apply_ite (renamed rename)]
  exact report_muted _ _ fault

/-! ## The beginning of a statement -/

@[simp] theorem acquire_renamed (need : Need) :
    (store.renamed rename).acquire (rename handle) need =
      (store.acquire handle need).map (·.renamed rename) := by
  cases need with
  | nothing => rfl
  | reading => exact toRead_renamed store handle
  | writing => exact toWrite_renamed store handle

@[simp] theorem compile_renamed (database : Database) (parsed : Sql.Parsed)
    (body : Sql.Statement) :
    (store.renamed rename).compile (client.renamed rename) database parsed body =
      store.compile client database parsed body := rfl

@[simp] theorem recompile_renamed (statement : Statement) :
    (store.renamed rename).recompile (statement.renamed rename) =
      (store.recompile statement).map (Prod.map (·.renamed rename) (·.renamed rename)) := by
  unfold recompile
  dsimp only [Statement.renamed]
  rw [acquire_renamed]
  cases store.acquire statement.client (needOf statement.program) with
  | error fault => rfl
  | ok ready =>
      dsimp only [Except.map]
      split
      · rfl
      rw [client?_renamed]
      cases ready.client? statement.client with
      | none => rfl
      | some client =>
          dsimp only [Option.map_some]
          rw [content_renamed, compile_renamed]
          cases ready.compile client (ready.content client) statement.parsed statement.body with
          | error failure => rfl
          | ok compiled =>
              dsimp only
              rw [updateClient_plain (by exact fun _ => rfl),
                updateStatement_renamed (by exact fun _ => rfl), acquire_renamed]
              generalize acquire _ _ _ = last
              cases last <;> rfl

/-! ## Running -/

@[simp] theorem runQuery_renamed (statement : Statement) (selection : Plan.Selection)
    (reads : Bool) :
    (store.renamed rename).runQuery (client.renamed rename) (statement.renamed rename) selection
      reads = store.runQuery client statement selection reads := rfl

@[simp] theorem runEffect_renamed (statement : Statement) (effect : Plan.Effect Unit) :
    (store.renamed rename).runEffect (client.renamed rename) (statement.renamed rename) effect =
      store.runEffect client statement effect := rfl

@[simp] theorem keepWork_renamed (work : Plan.Work) :
    (store.renamed rename).keepWork (rename handle) work =
      (store.keepWork handle work).renamed rename :=
  updateClient_renamed fun _ => rfl

@[simp] theorem runChange_renamed (statement : Statement) (change : Plan.Change) :
    (store.renamed rename).runChange (client.renamed rename) (statement.renamed rename) change =
      (store.runChange client statement change).map (·.renamed rename) id := by
  unfold runChange
  dsimp only
  rw [runEffect_renamed]
  rcases store.runEffect client statement (change.run []) with ⟨result, work⟩
  dsimp only [Statement.renamed]
  rw [updateClient_plain (by exact fun _ => rfl), keepWork_renamed]
  cases result with
  | ok _ => rfl
  | error fault =>
      dsimp only
      rw [← apply_ite (renamed rename)]
      rfl

@[simp] theorem runDefinition_renamed (statement : Statement) (effect : Plan.Effect Unit)
    (drops : Bool) :
    (store.renamed rename).runDefinition (client.renamed rename) (statement.renamed rename) effect
      drops = (store.runDefinition client statement effect drops).map (·.renamed rename) id := by
  have isOwned : (statement.renamed rename).client = rename statement.client := rfl
  unfold runDefinition
  rw [runEffect_renamed, isOwned, isReading_renamed]
  split
  · rfl
  · rcases store.runEffect client statement effect with ⟨_ | _, work⟩
    · rfl
    · dsimp only
      rw [keepWork_renamed]
      rfl

theorem withoutRows_renamed (outcome : Store × Option Fault) :
    withoutRows (outcome.map (·.renamed rename) id) =
      (withoutRows outcome).map (·.renamed rename) id := by
  rcases outcome with ⟨after, _ | fault⟩ <;> rfl

@[simp] theorem execute_renamed (statement : Statement) :
    (store.renamed rename).execute (client.renamed rename) (statement.renamed rename) =
      (store.execute client statement).map (·.renamed rename) id := by
  have sameProgram : (statement.renamed rename).program = statement.program := rfl
  have isOwned : (statement.renamed rename).client = rename statement.client := rfl
  unfold execute
  dsimp only
  rw [sameProgram, isOwned]
  cases statement.program with
  | query selection reads => rfl
  | change change => exact runChange_renamed store client statement change
  | define effect drops => exact runDefinition_renamed store client statement effect drops
  | begin kind =>
      dsimp only
      rw [beginTransaction_renamed, withoutRows_renamed]
  | commit =>
      dsimp only
      rw [commitTransaction_renamed, withoutRows_renamed]
  | rollback =>
      dsimp only
      rw [rollbackTransaction_renamed, withoutRows_renamed]
  | savepoint name =>
      dsimp only
      rw [setSavepoint_renamed, withoutRows_renamed]
  | release name =>
      dsimp only
      rw [releaseSavepoint_renamed, withoutRows_renamed]
  | rollbackTo name =>
      dsimp only
      rw [rollbackToSavepoint_renamed, withoutRows_renamed]
  | vacuum =>
      dsimp only
      rw [vacuum_renamed, withoutRows_renamed]
  | nothing => rfl

/-! ## Steps -/

inductive StartsLike (rename : DatabaseHandle ↪ DatabaseHandle) :
    Except (Int × Store) Store → Except (Int × Store) Store → Prop
  | error (code : Int) {after image : Store} : LooksLike rename after image →
      StartsLike rename (.error (code, after)) (.error (code, image))
  | ok (after : Store) : StartsLike rename (.ok after) (.ok (after.renamed rename))

theorem start_muted (statement : Statement) :
    StartsLike rename (store.start statement)
      ((store.renamed rename).start (statement.renamed rename)) := by
  have sameCount : isCounting (statement.renamed rename) = isCounting statement := rfl
  unfold start
  dsimp only
  rw [recompile_renamed, sameCount]
  cases store.recompile statement with
  | error fault => exact .error _ (fail_muted store statement _ fault)
  | ok ready =>
      rcases ready with ⟨ready, again⟩
      dsimp only [Except.map, Prod.map]
      have isOwned : (again.renamed rename).client = rename again.client := rfl
      rw [isOwned, client?_renamed]
      cases ready.client? again.client with
      | none => exact .error _ (fail_muted ready statement _ _)
      | some client =>
          dsimp only [Option.map_some]
          rw [execute_renamed]
          rcases ready.execute client again with ⟨after, ⟨changed, fault⟩ | running⟩
          · exact .error _ (fail_muted after statement changed fault)
          · have starts : StartsLike rename _ _ :=
              .ok (after.setPhase again.handle (.running running))
            rwa [← setPhase_renamed] at starts

theorem advance_muted (name : StatementHandle) :
    Agree (LooksLike rename) (store.advance name) ((store.renamed rename).advance name) := by
  unfold advance
  rw [statement?_renamed]
  cases store.statement? name with
  | none => exact ⟨rfl, renamed_muted rename store⟩
  | some statement =>
      have isOwned : (statement.renamed rename).client = rename statement.client := rfl
      have samePhase : (statement.renamed rename).phase = statement.phase := rfl
      dsimp only [Option.map_some]
      rw [isOwned, samePhase, client?_renamed]
      cases statement.phase with
      | ready => exact ⟨rfl, renamed_muted rename store⟩
      | halted code => exact ⟨rfl, renamed_muted rename store⟩
      | running running =>
          cases store.client? statement.client with
          | none => exact ⟨rfl, renamed_muted rename store⟩
          | some client =>
              have sameEnvironment : (store.renamed rename).environment (client.renamed rename)
                  (statement.renamed rename) = store.environment client statement := rfl
              dsimp only [Option.map_some]
              rw [sameEnvironment]
              cases running.remainder.next (store.environment client statement) with
              | row row remainder =>
                  dsimp only
                  rw [setPhase_renamed]
                  exact ⟨rfl, renamed_muted rename _⟩
              | done =>
                  have finishes := @finish_muted rename store statement running
                  dsimp only at finishes ⊢
                  generalize store.finish statement running = outcome at finishes ⊢
                  generalize (store.renamed rename).finish _ running = image at finishes ⊢
                  rcases outcome with ⟨after, _⟩
                  rcases image with ⟨afterImage, fault⟩
                  obtain ⟨rfl, looksLike⟩ := finishes
                  cases fault <;> exact ⟨rfl, looksLike⟩
              | failed fault => exact ⟨rfl, fail_muted store statement _ fault⟩

theorem step_muted (name : StatementHandle) :
    Agree (LooksLike rename) (store.step name) ((store.renamed rename).step name) := by
  have advances := @advance_muted rename store name
  unfold step
  rw [statement?_renamed]
  cases store.statement? name with
  | none => exact ⟨rfl, renamed_muted rename store⟩
  | some statement =>
      have samePhase : (statement.renamed rename).phase = statement.phase := rfl
      dsimp only [Option.map_some]
      rw [samePhase]
      cases statement.phase with
      | running running => exact advances
      | ready | halted code =>
          have starts := @start_muted rename store statement
          dsimp only
          generalize store.start statement = started at starts ⊢
          generalize (store.renamed rename).start _ = startedImage at starts ⊢
          cases starts with
          | error code looksLike => exact ⟨rfl, looksLike⟩
          | ok after => exact advance_muted after name

/-! ## Between steps -/

theorem reset_muted (name : StatementHandle) :
    Agree (LooksLike rename) (store.reset name) ((store.renamed rename).reset name) := by
  unfold reset
  rw [statement?_renamed]
  cases store.statement? name with
  | none => exact ⟨rfl, renamed_muted rename store⟩
  | some statement =>
      have samePhase : (statement.renamed rename).phase = statement.phase := rfl
      dsimp only [Option.map_some]
      rw [samePhase]
      cases statement.phase with
      | ready => exact ⟨rfl, renamed_muted rename store⟩
      | halted code =>
          dsimp only
          rw [setPhase_renamed]
          exact ⟨rfl, renamed_muted rename _⟩
      | running running =>
          have finishes := @finish_muted rename store statement running
          dsimp only at finishes ⊢
          generalize store.finish statement running = outcome at finishes ⊢
          generalize (store.renamed rename).finish _ running = image at finishes ⊢
          rcases outcome with ⟨after, _⟩
          rcases image with ⟨afterImage, fault⟩
          obtain ⟨rfl, looksLike⟩ := finishes
          dsimp only at looksLike
          have resets : LooksLike rename (after.setPhase name .ready)
              (afterImage.setPhase name .ready) := by
            rw [LooksLike, muted, ← setPhase_renamed, ← muted, looksLike, setPhase_renamed]
          cases fault <;> exact ⟨rfl, resets⟩

theorem finalize_muted (name : StatementHandle) :
    Agree (LooksLike rename) (store.finalize name) ((store.renamed rename).finalize name) := by
  have resets := @reset_muted rename store name
  have without {store image : Store} (looksLike : LooksLike rename store image) :
      LooksLike rename { store with statements := store.statements.filter (·.handle ≠ name) }
        { image with statements := image.statements.filter (·.handle ≠ name) } := by
    have filters (rename : DatabaseHandle ↪ DatabaseHandle) (store : Store) :
        ({ store with statements := store.statements.filter (·.handle ≠ name) } : Store).renamed
            rename =
          { store.renamed rename with
            statements := (store.renamed rename).statements.filter (·.handle ≠ name) } := by
      simp [renamed, List.filter_map, Function.comp_def, Statement.renamed]
    rw [LooksLike, muted, filters, filters, ← muted, looksLike]
  exact ⟨resets.1, without resets.2⟩

theorem bind_muted (name : StatementHandle) (index : Int) (argument : Argument) :
    Agree (LooksLike rename) (store.bind name index argument)
      ((store.renamed rename).bind name index argument) := by
  unfold bind
  rw [statement?_renamed]
  cases store.statement? name with
  | none => exact ⟨rfl, renamed_muted rename store⟩
  | some statement =>
      have samePhase : (statement.renamed rename).phase = statement.phase := rfl
      have sameBindings : (statement.renamed rename).bindings = statement.bindings := rfl
      dsimp only [Option.map_some]
      rw [samePhase, sameBindings]
      cases statement.phase with
      | running running => exact ⟨rfl, renamed_muted rename store⟩
      | halted code => exact ⟨rfl, renamed_muted rename store⟩
      | ready =>
          dsimp only
          rw [updateStatement_renamed (by exact fun _ => rfl),
            updateStatement_renamed (by exact fun _ => rfl)]
          split
          · exact ⟨rfl, renamed_muted rename store⟩
          split
          · exact ⟨rfl, renamed_muted rename _⟩
          · exact ⟨rfl, renamed_muted rename _⟩

theorem clearBindings_muted (name : StatementHandle) :
    LooksLike rename (store.clearBindings name) ((store.renamed rename).clearBindings name) := by
  have clears : (store.renamed rename).clearBindings name =
      (store.clearBindings name).renamed rename := updateStatement_renamed fun _ => rfl
  rw [clears]
  exact renamed_muted rename _

theorem row_renamed (name : StatementHandle) :
    (store.renamed rename).row name = store.row name := by
  have sameRunning : ((store.renamed rename).statement? name).bind (·.running?) =
      (store.statement? name).bind (·.running?) := by
    rw [statement?_renamed, Option.bind_map]
    rfl
  unfold row
  rw [sameRunning]

/-! ## Compiling -/

theorem loadSchema_renamed :
    (store.renamed rename).loadSchema (client.renamed rename) = store.loadSchema client := by
  rw [loadSchema, loadSchema, canRead_renamed, content_renamed]

theorem compileFor_renamed (parsed : Sql.Parsed) (body : Sql.Statement) :
    (store.renamed rename).compileFor (client.renamed rename) parsed body =
      store.compileFor client parsed body := by
  have sameSchema : (store.renamed rename).schemaFor (client.renamed rename) parsed =
      store.schemaFor client parsed := by
    unfold schemaFor
    rw [loadSchema_renamed]
    rfl
  unfold compileFor
  rw [sameSchema, content_renamed, canRead_renamed]
  rfl

theorem applySetting_renamed (setting : Option Plan.Setting) :
    (store.renamed rename).applySetting (client.renamed rename) setting =
      (store.applySetting client setting).renamed rename := by
  cases setting with
  | none => rfl
  | some setting =>
      cases setting with
      | foreignKeys isOn => exact updateClient_renamed fun _ => rfl
      | encoding encoding =>
          dsimp only [applySetting]
          rw [committed_renamed, apply_ite (renamed rename)]
          exact if_congr Iff.rfl rfl rfl

theorem leadingSetting_renamed (leading : Option Sql.Statement) :
    (store.renamed rename).leadingSetting (client.renamed rename) leading =
      store.leadingSetting client leading := by
  unfold leadingSetting
  split <;> rfl

theorem refuse_muted (code : Int) (message : Bytes) :
    Agree (LooksLike rename) (store.refuse handle code message)
      ((store.renamed rename).refuse (rename handle) code message) :=
  ⟨rfl, updateClient_muted fun _ => rfl⟩

theorem prepare_muted (sql : Text) :
    Agree (LooksLike rename) (store.prepare handle sql)
      ((store.renamed rename).prepare (rename handle) sql) := by
  unfold prepare
  rw [client?_renamed]
  cases store.client? handle with
  | none => exact ⟨rfl, renamed_muted rename store⟩
  | some client =>
      dsimp only [Option.map_some]
      cases parse sql with
      | error error =>
          dsimp only
          rw [leadingSetting_renamed, applySetting_renamed]
          exact refuse_muted _ handle _ _
      | ok parsed =>
          dsimp only
          cases parsed.statement with
          | none => exact ⟨rfl, renamed_muted rename store⟩
          | some body =>
              dsimp only
              rw [compileFor_renamed]
              cases store.compileFor client parsed body with
              | error failure => exact refuse_muted store handle _ _
              | ok compiled =>
                  rcases compiled with ⟨schema, program, setting⟩
                  dsimp only
                  rw [applySetting_renamed, updateClient_plain (by exact fun _ => rfl)]
                  generalize updateClient _ _ _ = loaded
                  have adds : (loaded.renamed rename).addStatement (rename handle) parsed body
                      program = (loaded.addStatement handle parsed body program).map
                        (·.renamed rename) id := by
                    simp [addStatement, renamed, Statement.renamed]
                  rw [adds]
                  exact ⟨rfl, renamed_muted rename _⟩

theorem leadingSetting_of_noPragma {leading : Option Sql.Statement}
    (isNoPragma : leading.any isPragma = false) :
    store.leadingSetting client leading = none := by
  unfold leadingSetting
  split
  · cases isNoPragma
  · rfl

/-- Nothing is left of what has no statement but what was reported, unless it begins with a
pragma. -/
theorem prepare_of_none (sql : Text) (isNone : (store.prepare handle sql).1.2 = none)
    (isNoPragma : textIsPragma sql = false) :
    (store.prepare handle sql).2.muted = store.muted := by
  have refuses (code : Int) (message : Bytes) :
      (store.refuse handle code message).2.muted = store.muted := by
    unfold refuse
    simp only [muted, updateClient, renamed, List.map_map]
    congr 1
    refine List.map_congr_left fun client _ => ?_
    by_cases isNamed : client.handle = handle
    · simp [isNamed, Client.renamed]
    · simp [isNamed]
  unfold prepare at isNone ⊢
  split at isNone
  · rfl
  · rename_i isRefused
    rw [textIsPragma, isRefused] at isNoPragma
    rw [leadingSetting_of_noPragma _ _ isNoPragma]
    exact refuses _ _
  dsimp only at isNone ⊢
  split at isNone
  · rfl
  split at isNone
  · exact refuses _ _
  · cases isNone

/-! ## Opening and closing -/

theorem outlives_renamed (file : StoredFile) :
    (store.renamed rename).outlives file = store.outlives file := by
  unfold outlives renamed
  rw [List.any_map]
  rfl

theorem closeDatabase_renamed :
    (store.renamed rename).closeDatabase (rename handle) =
      (store.closeDatabase handle).renamed rename := by
  have clients : (store.clients.map (·.renamed rename)).filter (·.handle ≠ rename handle) =
      (store.clients.filter (·.handle ≠ handle)).map (·.renamed rename) := by
    simp [List.filter_map, Function.comp_def, Client.renamed]
  have statements : (store.statements.map (·.renamed rename)).filter (·.client ≠ rename handle) =
      (store.statements.filter (·.client ≠ handle)).map (·.renamed rename) := by
    simp [List.filter_map, Function.comp_def, Statement.renamed]
  unfold closeDatabase
  dsimp only [renamed]
  rw [clients, statements]
  congr 1
  exact List.filter_congr fun file _ => outlives_renamed
    { store with
      clients := store.clients.filter (·.handle ≠ handle)
      statements := store.statements.filter (·.client ≠ handle) } file

theorem fileFor_renamed (location : Location) :
    (store.renamed rename).fileFor location =
      (store.fileFor location).map (Prod.map (·.renamed rename) id) := by
  have finds (place : Place) : (store.renamed rename).findOrAdd place =
      Prod.map (·.renamed rename) id (store.findOrAdd place) := by
    have sameFile : (store.renamed rename).fileAt? place = store.fileAt? place := rfl
    unfold findOrAdd
    rw [sameFile]
    cases store.fileAt? place <;> rfl
  unfold fileFor
  cases location.place with
  | unnamed => rfl
  | sharedMemory name => exact congrArg Except.ok (finds _)
  | file name =>
      have sameFile : (store.renamed rename).fileAt? (.file name) = store.fileAt? (.file name) :=
        rfl
      dsimp only
      rw [sameFile, finds]
      split
      · rfl
      · cases store.fileAt? (.file name) <;> rfl
  | directory =>
      dsimp only
      split <;> rfl
  | unreachable => rfl

/-- From a number on, the next database has the next number under its other number, too. -/
def IsSteady (rename : DatabaseHandle ↪ DatabaseHandle) (next : Nat) : Prop :=
  ∀ number, next ≤ number → (rename ⟨number + 1⟩).number = (rename ⟨number⟩).number + 1

theorem addClient_muted {client clientImage : DatabaseHandle → Client}
    (isSteady : IsSteady rename store.nextClient)
    (agrees : (clientImage (rename ⟨store.nextClient⟩)).renamed (.refl _) =
      (client ⟨store.nextClient⟩).renamed rename) :
    LooksLike rename (store.addClient client).1
      ((store.renamed rename).addClient clientImage).1 := by
  have before := renamed_muted rename store
  have clients := congrArg Store.clients before
  have statements := congrArg Store.statements before
  have nextImage := isSteady store.nextClient (Nat.le_refl _)
  simp only [LooksLike, muted, addClient, renamed, List.map_append, List.map_cons, List.map_nil,
    Function.Embedding.refl_apply] at clients statements ⊢
  rw [clients, statements, nextImage, agrees]

theorem openDatabase_muted (path : Bytes) (mode : OpenMode)
    (isSteady : IsSteady rename store.nextClient) :
    let first := store.openDatabase path mode
    let second := (store.renamed rename).openDatabase path mode
    second.1 = (first.1.1.map rename, first.1.2) ∧ LooksLike rename first.2 second.2 := by
  intro first second
  unfold first second openDatabase
  dsimp only
  cases Location.ofPath path mode with
  | error refusal =>
      dsimp only
      exact ⟨rfl, addClient_muted store isSteady rfl⟩
  | ok location =>
      dsimp only
      rw [fileFor_renamed]
      cases isFile : store.fileFor location with
      | error refusal =>
          dsimp only [Except.map]
          exact ⟨rfl, addClient_muted store isSteady rfl⟩
      | ok found =>
          rcases found with ⟨after, file⟩
          have sameNext : after.nextClient = store.nextClient :=
            congrArg Outline.nextClient (fileFor_outline isFile)
          rw [← sameNext] at isSteady
          dsimp only [Except.map, Prod.map, id]
          exact ⟨rfl, addClient_muted after isSteady rfl⟩

/-! ## States that look alike -/

section
variable {store} {image : Store}

/-- What is done to one store and to the other under its other numbers. -/
theorem LooksLike.agrees {α : Type} {action actionImage : StateM Store α}
    (looksLike : LooksLike rename store image)
    (first : Agree (LooksLike rename) (action store) (actionImage (store.renamed rename)))
    (second : Agree (LooksLike (.refl _)) (actionImage image)
      (actionImage (image.renamed (.refl _)))) :
    Agree (LooksLike rename) (action store) (actionImage image) := by
  have same : image.renamed (.refl _) = store.renamed rename := looksLike
  rw [same] at second
  exact ⟨second.1.symm.trans first.1, second.2.symm.trans first.2⟩

theorem LooksLike.client_eq {α : Type} (looksLike : LooksLike rename store image)
    (view : Client → α) (isPlain : ∀ rename client, view (client.renamed rename) = view client)
    (handle : DatabaseHandle) :
    (image.client? (rename handle)).map view = (store.client? handle).map view := by
  have before := congrArg (·.map view) (client?_renamed rename store handle)
  have after := congrArg (·.map view) (client?_renamed (.refl _) image (rename handle))
  simp only [Option.map_map, Function.comp_def, isPlain, Function.Embedding.refl_apply]
    at before after
  rw [← after, ← before, ← looksLike]

theorem LooksLike.statement_eq {α : Type} (looksLike : LooksLike rename store image)
    (view : Statement → α)
    (isPlain : ∀ rename statement, view (Statement.renamed rename statement) = view statement)
    (name : StatementHandle) :
    (image.statement? name).map view = (store.statement? name).map view := by
  have before := congrArg (·.map view) (statement?_renamed rename store name)
  have after := congrArg (·.map view) (statement?_renamed (.refl _) image name)
  simp only [Option.map_map, Function.comp_def, isPlain] at before after
  rw [← after, ← before, ← looksLike]

theorem LooksLike.statements_eq (looksLike : LooksLike rename store image)
    (handle : DatabaseHandle) :
    (image.statementsOf (rename handle)).map (·.handle) =
      (store.statementsOf handle).map (·.handle) := by
  have before := congrArg (·.map Statement.handle) (statementsOf_renamed rename store handle)
  have after := congrArg (·.map Statement.handle)
    (statementsOf_renamed (.refl _) image (rename handle))
  simp only [List.map_map, Function.comp_def, Statement.renamed, Function.Embedding.refl_apply]
    at before after
  rw [← after, ← before, ← looksLike]

theorem LooksLike.row_eq (looksLike : LooksLike rename store image) (name : StatementHandle) :
    image.row name = store.row name := by
  calc image.row name = image.muted.row name := (row_renamed image name).symm
    _ = (store.renamed rename).row name := congrArg (Store.row name) looksLike
    _ = store.row name := row_renamed store name

end

end Store

end EmbeddedSql.Storage
