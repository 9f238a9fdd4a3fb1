import EmbeddedSql.Proofs.Engine.Transactions
import EmbeddedSql.Proofs.Storage.Rewinding

/-! How the database of a client stands for it, and what becomes of that while a statement
of the client runs. -/

namespace EmbeddedSql.Storage

open Plan (Fault)

/-- A database apart from how it encodes text, which is settled before there is any. -/
def bare (database : Database) : Database :=
  { database with encoding := .utf8 }

variable {store after : Store} {handle : DatabaseHandle}

namespace Store

def standingOf (store : Store) (client : Client) : Standing Database :=
  match client.file.bind store.file? with
  | none => ⟨!client.isAutomatic, {}, {}⟩
  | some file =>
      ⟨!client.isAutomatic, bare (client.working.getD file.database), bare file.database⟩

def standing (store : Store) (handle : DatabaseHandle) : Standing Database :=
  (store.client? handle).elim ⟨false, {}, {}⟩ store.standingOf

theorem standing_of_client {client : Client} (isClient : store.client? handle = some client) :
    store.standing handle = store.standingOf client := by
  rw [standing, isClient, Option.elim_some]

theorem isExplicit_eq :
    (store.standing handle).isExplicit =
      (store.client? handle).any fun client => !client.isAutomatic := by
  cases isClient : store.client? handle with
  | none => rw [standing, isClient, Option.elim_none, Option.any_none]
  | some client =>
      rw [standing_of_client isClient, Option.any_some, standingOf]
      split <;> rfl

/-! ## Changes of clients -/

theorem client?_updateClient {change : Client → Client}
    (keeps : ∀ client, (change client).handle = client.handle) :
    (store.updateClient handle change).client? handle = (store.client? handle).map change := by
  have same : (fun client : Client => decide (client.handle = handle)) ∘
      (fun client => if client.handle = handle then change client else client) =
        fun client : Client => decide (client.handle = handle) := by
    funext client
    dsimp only [Function.comp]
    split
    · rw [keeps]
    · rfl
  rw [client?, updateClient, List.find?_map, same]
  refine Option.map_congr fun client isThere => ?_
  have isNamed : client.handle = handle := by simpa using List.find?_some isThere
  rw [if_pos isNamed]

theorem standing_updateClient {client : Client} {change : Client → Client}
    (isClient : store.client? handle = some client)
    (keeps : ∀ client, (change client).handle = client.handle) :
    (store.updateClient handle change).standing handle = store.standingOf (change client) := by
  rw [standing, client?_updateClient keeps, isClient]
  rfl

theorem updateClient_standing_map {change : Client → Client}
    (changed : Standing Database → Standing Database)
    (keeps : ∀ client, (change client).handle = client.handle)
    (changes : ∀ client, store.standingOf (change client) = changed (store.standingOf client))
    (nobody : changed ⟨false, {}, {}⟩ = ⟨false, {}, {}⟩) :
    (store.updateClient handle change).standing handle = changed (store.standing handle) := by
  rw [standing, client?_updateClient keeps, standing]
  cases store.client? handle with
  | none => exact nobody.symm
  | some client => exact changes client

theorem updateClient_standing {change : Client → Client}
    (keeps : ∀ client, (change client).handle = client.handle)
    (same : ∀ client, store.standingOf (change client) = store.standingOf client) :
    (store.updateClient handle change).standing handle = store.standing handle :=
  updateClient_standing_map id keeps same rfl

theorem updateClient_standing_of_seat {change : Client → Client}
    (keeps : ∀ client, (change client).handle = client.handle)
    (same : ∀ client, ((change client).file, (change client).working, (change client).isAutomatic) =
      (client.file, client.working, client.isAutomatic)) :
    (store.updateClient handle change).standing handle = store.standing handle := by
  refine updateClient_standing keeps fun client => ?_
  have isSame := same client
  simp only [Prod.mk.injEq] at isSame
  rw [standingOf, standingOf, isSame.1, isSame.2.1, isSame.2.2]

/-! ## Locks -/

theorem toRead_standing (isOk : store.toRead handle = .ok after) :
    after.standing handle = store.standing handle := by
  unfold toRead at isOk
  repeat' split at isOk
  all_goals cases isOk
  · rfl
  · exact updateClient_standing_of_seat (fun _ => rfl) fun _ => rfl

theorem toWrite_standing (isOk : store.toWrite handle = .ok after) :
    after.standing handle = store.standing handle := by
  unfold toWrite at isOk
  repeat' split at isOk
  all_goals cases isOk
  rename_i reading isRead _
  refine Eq.trans ?_ (toRead_standing isRead)
  refine updateClient_standing (fun _ => rfl) fun client => ?_
  unfold standingOf content committed
  dsimp only
  cases client.file.bind reading.file? <;> rfl

theorem toExclusive_standing (isOk : store.toExclusive handle = .ok after) :
    after.standing handle = store.standing handle := by
  unfold toExclusive at isOk
  repeat' split at isOk
  all_goals cases isOk
  rename_i isWritten _ _ _ _
  refine Eq.trans ?_ (toWrite_standing isWritten)
  exact updateClient_standing_of_seat (fun _ => rfl) fun _ => rfl

@[simp] theorem settleLock_standing :
    (store.settleLock handle).standing handle = store.standing handle := by
  refine updateClient_standing_of_seat (fun client => ?_) fun client => ?_
  · split <;> rfl
  · split <;> rfl

/-! ## The end of a transaction -/

def IsClean (store : Store) (handle : DatabaseHandle) : Prop :=
  ∀ client, store.client? handle = some client → client.working = none

theorem isClean_of_all
    (isClean : (store.client? handle).all (·.working.isNone) = true) : store.IsClean handle := by
  intro client isClient
  simpa [isClient] using isClean

theorem IsClean.content_eq (isClean : store.IsClean handle) :
    (store.standing handle).content = (store.standing handle).committed := by
  cases isClient : store.client? handle with
  | none => rw [standing, isClient, Option.elim_none]
  | some client =>
      rw [standing_of_client isClient, standingOf, isClean client isClient]
      cases client.file.bind store.file? <;> rfl

theorem updateClient_isClean {change : Client → Client}
    (keeps : ∀ client, (change client).handle = client.handle)
    (cleans : ∀ client, (change client).working = none) :
    (store.updateClient handle change).IsClean handle := by
  intro client isClient
  rw [client?_updateClient keeps] at isClient
  obtain ⟨before, -, rfl⟩ := Option.map_eq_some_iff.mp isClient
  exact cleans before

theorem setCommitted_file? (client : Client) (database : Database) (number : Nat) :
    (store.setCommitted client database).file? number = (store.file? number).map fun file =>
      if some number = client.file then { file with database } else file := by
  have same : (fun file : StoredFile => decide (file.number = number)) ∘
      (fun file => if some file.number = client.file then { file with database } else file) =
        fun file : StoredFile => decide (file.number = number) := by
    funext file
    dsimp only [Function.comp]
    split <;> rfl
  rw [file?, setCommitted, List.find?_map, same]
  refine Option.map_congr fun file isThere => ?_
  have isNamed : file.number = number := by simpa using List.find?_some isThere
  rw [isNamed]

theorem setCommitted_standingOf {client : Client} {database : Database}
    (isWorking : client.working = some database) :
    (store.setCommitted client database).standingOf
        { client with working := none, hasNewSchema := false } =
      { store.standingOf client with committed := (store.standingOf client).content } := by
  unfold standingOf
  rw [isWorking]
  cases isFile : client.file with
  | none => rfl
  | some number =>
      dsimp only [Option.bind_some]
      rw [setCommitted_file?, isFile]
      cases store.file? number with
      | none => rfl
      | some file => simp

theorem commit_standing_of_ok (commits : store.commit handle = (after, none)) :
    after.IsClean handle ∧ after.standing handle =
      { store.standing handle with committed := (store.standing handle).content } := by
  unfold commit at commits
  dsimp only at commits
  split at commits
  · cases commits
  rename_i client isClient
  split at commits
  · rename_i isClean
    cases commits
    refine ⟨fun other isOther => ?_, ?_⟩
    · rw [isClient] at isOther
      cases isOther
      exact isClean
    · rw [standing_of_client isClient, standingOf, isClean]
      cases client.file.bind store.file? <;> rfl
  rename_i database isWorking
  split at commits
  · cases commits
  split at commits
  · cases commits
    refine ⟨updateClient_isClean (fun _ => rfl) fun _ => rfl, ?_⟩
    have isCommitted : (store.setCommitted client database).client? handle = some client := isClient
    rw [standing_of_client isClient, ← setCommitted_standingOf isWorking]
    exact standing_updateClient isCommitted fun _ => rfl
  · cases commits

theorem commit_standing_of_error {fault : Fault}
    (commits : store.commit handle = (after, some fault)) :
    after.standing handle = store.standing handle := by
  unfold commit at commits
  dsimp only at commits
  repeat' split at commits
  all_goals cases commits
  · rfl
  · rfl
  · exact updateClient_standing_of_seat (fun _ => rfl) fun _ => rfl

@[simp] theorem forgetSchema_standing :
    (store.forgetSchema handle).standing handle = store.standing handle := by
  have same : (store.updateClient handle fun client =>
      { client with schema := none, hasNewSchema := false }).standing handle =
        store.standing handle :=
    updateClient_standing_of_seat (fun _ => rfl) fun _ => rfl
  exact same

theorem IsClean.updateClient (isClean : store.IsClean handle) {change : Client → Client}
    (keeps : ∀ client, (change client).handle = client.handle)
    (same : ∀ client, (change client).working = client.working) :
    (store.updateClient handle change).IsClean handle := by
  intro client isClient
  rw [client?_updateClient keeps] at isClient
  obtain ⟨before, wasThere, rfl⟩ := Option.map_eq_some_iff.mp isClient
  exact (same before).trans (isClean before wasThere)

theorem IsClean.settleLock (isClean : store.IsClean handle) :
    (store.settleLock handle).IsClean handle := by
  refine isClean.updateClient (fun client => ?_) fun client => ?_
  · split <;> rfl
  · split <;> rfl

theorem rollback_standing :
    (store.rollback handle).IsClean handle ∧
      (store.rollback handle).standing handle = (store.standing handle).undone := by
  let forgets := if (store.client? handle).any (·.hasNewSchema) then store.forgetSchema handle
    else store
  let undoes := forgets.updateClient handle fun client =>
    { client with
      working := none, isAutomatic := true, savepoints := [], startsWithSavepoint := false }
  have same : forgets.standing handle = store.standing handle := by
    simp only [forgets]
    split
    · exact forgetSchema_standing
    · rfl
  have isClean : undoes.IsClean handle := updateClient_isClean (fun _ => rfl) fun _ => rfl
  have isUndone : undoes.standing handle = (forgets.standing handle).undone := by
    refine updateClient_standing_map Standing.undone (fun _ => rfl) (fun client => ?_) rfl
    unfold standingOf
    dsimp only
    cases client.file.bind forgets.file? <;> rfl
  refine ⟨isClean.settleLock, ?_⟩
  rw [← same, ← isUndone]
  exact settleLock_standing

theorem endTransaction_standing_of_ok (ends : store.endTransaction handle = (after, none)) :
    after.IsClean handle ∧ after.standing handle = (store.standing handle).kept := by
  unfold endTransaction at ends
  split at ends
  · cases ends
  rename_i committed commits
  obtain ⟨isClean, same⟩ := commit_standing_of_ok commits
  cases ends
  let freed := committed.updateClient handle fun client =>
    { client with isAutomatic := true, savepoints := [], startsWithSavepoint := false }
  have isFreed : freed.standing handle =
      { committed.standing handle with isExplicit := false } := by
    refine updateClient_standing_map (fun standing => { standing with isExplicit := false })
      (fun _ => rfl) (fun client => ?_) rfl
    unfold standingOf
    dsimp only
    cases client.file.bind committed.file? <;> rfl
  have isCleanFreed : freed.IsClean handle := isClean.updateClient (fun _ => rfl) fun _ => rfl
  refine ⟨isCleanFreed.settleLock, ?_⟩
  refine settleLock_standing.trans ?_
  rw [isFreed, same]
  rfl

theorem endTransaction_standing_of_error {fault : Fault}
    (ends : store.endTransaction handle = (after, some fault)) :
    after.standing handle = store.standing handle := by
  unfold endTransaction at ends
  split at ends
  · rename_i commits
    cases ends
    exact commit_standing_of_error commits
  · cases ends

/-! ## Statements that begin and end transactions

A fault that stops one of them leaves the rest of the transaction to the statement. -/

theorem toRead_aborts {fault : Fault} (stops : store.toRead handle = .error fault) :
    fault.resolution = .abort := by
  unfold toRead at stops
  repeat' split at stops
  all_goals cases stops
  all_goals rfl

theorem toWrite_aborts {fault : Fault} (stops : store.toWrite handle = .error fault) :
    fault.resolution = .abort := by
  unfold toWrite at stops
  repeat' split at stops
  all_goals cases stops
  · rfl
  · rfl
  · rename_i isStopped
    exact toRead_aborts isStopped
  · rfl

theorem toExclusive_aborts {fault : Fault} (stops : store.toExclusive handle = .error fault) :
    fault.resolution = .abort := by
  unfold toExclusive at stops
  repeat' split at stops
  all_goals cases stops
  · rename_i isStopped
    exact toWrite_aborts isStopped
  · rfl
  · rfl

theorem commit_aborts {fault : Fault} (commits : store.commit handle = (after, some fault)) :
    fault.resolution = .abort := by
  unfold commit at commits
  dsimp only at commits
  repeat' split at commits
  all_goals cases commits
  all_goals rfl

theorem isExplicit_of_client {client : Client} (isClient : store.client? handle = some client) :
    (store.standing handle).isExplicit = !client.isAutomatic := by
  rw [isExplicit_eq, isClient, Option.any_some]

theorem beginTransaction_standing_of_ok {kind : Sql.TransactionKind}
    (begins : store.beginTransaction handle kind = (after, none)) :
    (store.standing handle).isExplicit = false ∧
      after.standing handle = (store.standing handle).begun := by
  unfold beginTransaction at begins
  dsimp only at begins
  split at begins
  · cases begins
  rename_i prepared isPrepared
  have same : prepared.standing handle = store.standing handle := by
    split at isPrepared
    · cases isPrepared
      rfl
    · split at isPrepared
      · exact toRead_standing isPrepared
      · exact toWrite_standing isPrepared
    · split at isPrepared
      · exact toRead_standing isPrepared
      · exact toExclusive_standing isPrepared
  split at begins
  · rename_i isAutomatic
    cases begins
    obtain ⟨client, isClient, isFree⟩ := (Option.any_eq_true ..).mp isAutomatic
    rw [← same]
    refine ⟨by rw [isExplicit_of_client isClient, isFree]; rfl, ?_⟩
    have begun : prepared.standingOf { client with isAutomatic := false } =
        (prepared.standingOf client).begun := by
      unfold standingOf
      dsimp only
      cases client.file.bind prepared.file? <;> rfl
    rw [standing_of_client isClient, ← begun]
    exact standing_updateClient isClient fun _ => rfl
  · cases begins

theorem beginTransaction_standing_of_error {kind : Sql.TransactionKind} {fault : Fault}
    (begins : store.beginTransaction handle kind = (after, some fault)) :
    after.standing handle = store.standing handle ∧ fault.resolution = .abort := by
  unfold beginTransaction at begins
  dsimp only at begins
  split at begins
  · rename_i stops
    cases begins
    refine ⟨rfl, ?_⟩
    split at stops
    · cases stops
    · split at stops
      · exact toRead_aborts stops
      · exact toWrite_aborts stops
    · split at stops
      · exact toRead_aborts stops
      · exact toExclusive_aborts stops
  rename_i prepared isPrepared
  split at begins
  · cases begins
  · cases begins
    refine ⟨?_, rfl⟩
    split at isPrepared
    · cases isPrepared
      rfl
    · split at isPrepared
      · exact toRead_standing isPrepared
      · exact toWrite_standing isPrepared
    · split at isPrepared
      · exact toRead_standing isPrepared
      · exact toExclusive_standing isPrepared

section
variable {client : Client} (isClient : store.client? handle = some client)
include isClient

theorem commitTransaction_standing_of_ok
    (commits : store.commitTransaction handle = (after, none)) :
    (store.standing handle).isExplicit = true ∧ after.IsClean handle ∧
      after.standing handle = (store.standing handle).kept := by
  unfold commitTransaction at commits
  rw [isClient, Option.any_some] at commits
  split at commits
  · cases commits
  rename_i isNotAutomatic
  split at commits
  · cases commits
  · refine ⟨?_, endTransaction_standing_of_ok commits⟩
    simpa [isExplicit_of_client isClient] using isNotAutomatic

theorem commitTransaction_standing_of_error {fault : Fault}
    (commits : store.commitTransaction handle = (after, some fault)) :
    after.standing handle = store.standing handle ∧ fault.resolution = .abort ∧
      ((store.standing handle).isExplicit = false → fault.code = Status.error) := by
  unfold commitTransaction at commits
  rw [isClient, Option.any_some] at commits
  split at commits
  · cases commits
    exact ⟨rfl, rfl, fun _ => rfl⟩
  rename_i isNotAutomatic
  have isExplicit : (store.standing handle).isExplicit = true := by
    simpa [isExplicit_of_client isClient] using isNotAutomatic
  split at commits
  · cases commits
    exact ⟨rfl, rfl, fun isOutside => nomatch isExplicit.symm.trans isOutside⟩
  · have same := endTransaction_standing_of_error commits
    refine ⟨same, ?_, fun isOutside => nomatch isExplicit.symm.trans isOutside⟩
    unfold endTransaction at commits
    split at commits
    · rename_i stops
      cases commits
      exact commit_aborts stops
    · cases commits

theorem rollbackTransaction_standing_of_ok
    (undoes : store.rollbackTransaction handle = (after, none)) :
    (store.standing handle).isExplicit = true ∧ after.IsClean handle ∧
      after.standing handle = (store.standing handle).undone := by
  unfold rollbackTransaction at undoes
  rw [isClient, Option.any_some] at undoes
  split at undoes
  · cases undoes
  rename_i isNotAutomatic
  cases undoes
  exact ⟨by simpa [isExplicit_of_client isClient] using isNotAutomatic, rollback_standing⟩

theorem rollbackTransaction_standing_of_error {fault : Fault}
    (undoes : store.rollbackTransaction handle = (after, some fault)) :
    after = store ∧ fault.resolution = .abort ∧ fault.code = Status.error ∧
      (store.standing handle).isExplicit = false := by
  unfold rollbackTransaction at undoes
  rw [isClient, Option.any_some] at undoes
  split at undoes
  · rename_i isAutomatic
    cases undoes
    exact ⟨rfl, rfl, rfl, by simpa [isExplicit_of_client isClient] using isAutomatic⟩
  · cases undoes

end

/-! ## The end of a statement -/

@[simp] theorem count_standing (changed : Option Nat) :
    (store.count handle changed).standing handle = store.standing handle := by
  unfold count
  split
  · rfl
  · exact updateClient_standing_of_seat (fun _ => rfl) fun _ => rfl

@[simp] theorem report_standing (fault : Fault) :
    (store.report handle fault).standing handle = store.standing handle :=
  updateClient_standing_of_seat (fun _ => rfl) fun _ => rfl

theorem isNotAutomatic_of_explicit (isExplicit : (store.standing handle).isExplicit = true) :
    (store.client? handle).any (·.isAutomatic) = false := by
  rw [isExplicit_eq] at isExplicit
  cases isClient : store.client? handle with
  | none => rfl
  | some client => simpa [isClient] using isExplicit

section
variable (store : Store) (changed : Option Nat)

theorem settle_of_explicit (isExplicit : (store.standing handle).isExplicit = true) :
    store.settle handle changed = (store.count handle changed, none) := by
  rw [settle, isNotAutomatic_of_explicit isExplicit, Bool.false_and, if_neg (by simp)]

theorem settle_outside (isOutside : (store.standing handle).isExplicit = false) :
    ((store.settle handle changed).1.standing handle).isExplicit = false := by
  unfold settle
  split
  · split
    · rename_i committed commits
      rw [count_standing, settleLock_standing, (commit_standing_of_ok commits).2]
      exact isOutside
    · rename_i committed fault commits
      rw [count_standing, rollback_standing.2]
      rfl
  · rw [count_standing]
    exact isOutside

theorem settle_of_clean (isClean : store.IsClean handle) :
    (store.settle handle changed).2 = none ∧
      (store.settle handle changed).1.standing handle = store.standing handle := by
  unfold settle
  split
  · rename_i isDue
    obtain ⟨client, isClient, -⟩ :=
      (Option.any_eq_true ..).mp ((Bool.and_eq_true ..).mp isDue).1
    have commits : store.commit handle = (store, none) := by
      rw [commit, isClient]
      dsimp only
      rw [isClean client isClient]
    rw [commits]
    simp
  · simp

end

section
variable (statement : Statement) (running : Running)

theorem finish_of_explicit (isExplicit : (store.standing statement.client).isExplicit = true) :
    (store.finish statement running).2 = none ∧
      (store.finish statement running).1.standing statement.client =
        store.standing statement.client := by
  have settles := settle_of_explicit
    (store.setPhase statement.handle (.halted Status.ok)) running.changed isExplicit
  rw [finish, settles]
  exact ⟨rfl, count_standing _⟩

theorem finish_outside (isOutside : (store.standing statement.client).isExplicit = false) :
    ((store.finish statement running).1.standing statement.client).isExplicit = false := by
  have settles := settle_outside
    (store.setPhase statement.handle (.halted Status.ok)) running.changed isOutside
  unfold finish
  dsimp only
  split <;> rename_i settled <;> rw [settled] at settles
  · exact settles
  · rw [report_standing]
    exact settles

theorem finish_of_clean (isClean : store.IsClean statement.client) :
    (store.finish statement running).2 = none ∧
      (store.finish statement running).1.standing statement.client =
        store.standing statement.client := by
  have settles := settle_of_clean
    (store.setPhase statement.handle (.halted Status.ok)) running.changed isClean
  unfold finish
  dsimp only
  split <;> rename_i settled <;> rw [settled] at settles
  · exact settles
  · cases settles.1

theorem finish_proceeds :
    (store.standing statement.client).Proceeds
      ((store.finish statement running).1.standing statement.client) := by
  cases isExplicit : (store.standing statement.client).isExplicit with
  | true => exact (finish_of_explicit statement running isExplicit).2 ▸ .refl _
  | false => exact .of_outside isExplicit (finish_outside statement running isExplicit)

end

section
variable (statement : Statement) (changed : Option Nat) (fault : Fault)

theorem fail_of_explicit (isExplicit : (store.standing statement.client).isExplicit = true) :
    (store.fail statement changed fault).standing statement.client =
      if fault.resolution = .rollback then (store.standing statement.client).undone
      else store.standing statement.client := by
  have staysExplicit : ((store.setPhase statement.handle
      (.halted (faultCode fault))).standing statement.client).isExplicit = true := isExplicit
  unfold fail
  dsimp only
  rw [report_standing, isNotAutomatic_of_explicit staysExplicit, Bool.false_and, Bool.false_or]
  by_cases isFailing : fault.resolution = .fail
  · rw [if_pos isFailing, settle_of_explicit _ _ staysExplicit, count_standing, isFailing]
    rfl
  rw [if_neg isFailing]
  by_cases rollsBack : fault.resolution = .rollback
  · rw [if_pos (by simp [rollsBack]), if_pos rollsBack, count_standing, rollback_standing.2]
    rfl
  · rw [if_neg (by simp [rollsBack]), if_neg rollsBack, count_standing]
    rfl

theorem fail_outside (isOutside : (store.standing statement.client).isExplicit = false) :
    ((store.fail statement changed fault).standing statement.client).isExplicit = false := by
  unfold fail
  dsimp only
  rw [report_standing]
  split
  · exact settle_outside _ _ isOutside
  split
  · rw [count_standing, rollback_standing.2]
    rfl
  · rw [count_standing]
    exact isOutside

theorem fail_of_abort (aborts : fault.resolution = .abort) :
    (store.fail statement changed fault).standing statement.client =
        store.standing statement.client ∨
      (store.standing statement.client).isExplicit = false ∧
        (store.fail statement changed fault).standing statement.client =
          (store.standing statement.client).undone := by
  cases isExplicit : (store.standing statement.client).isExplicit with
  | true =>
      refine .inl ?_
      rw [fail_of_explicit statement changed fault isExplicit, aborts]
      rfl
  | false =>
      unfold fail
      dsimp only
      rw [report_standing, aborts, if_neg nofun]
      split
      · rw [count_standing, rollback_standing.2]
        exact .inr ⟨rfl, rfl⟩
      · rw [count_standing]
        exact .inl rfl

theorem fail_steps {before : Standing Database}
    (proceeds : before.Proceeds (store.standing statement.client)) :
    before.Steps (faultCode fault)
      ((store.fail statement changed fault).standing statement.client) .ordinary := by
  cases isExplicit : before.isExplicit with
  | false =>
      rw [Standing.Proceeds, if_neg (by simp [isExplicit])] at proceeds
      exact .inl (.of_outside isExplicit (fail_outside statement changed fault proceeds))
  | true =>
      have isWithin := proceeds
      rw [Standing.Proceeds, if_pos isExplicit] at isWithin
      have fails := fail_of_explicit statement changed fault isWithin.1
      split at fails
      · refine .inr ⟨isExplicit, faultCode_ne_row _, faultCode_ne_done _, ?_⟩
        exact fails.trans isWithin.undone_eq
      · exact .inl (fails ▸ proceeds)

end

/-! ## The beginning of a statement -/

theorem acquire_standing {need : Need} (isOk : store.acquire handle need = .ok after) :
    after.standing handle = store.standing handle := by
  cases need with
  | nothing =>
      cases isOk
      rfl
  | reading => exact toRead_standing isOk
  | writing => exact toWrite_standing isOk

theorem recompile_standing {statement recompiled : Statement}
    (isOk : store.recompile statement = .ok (after, recompiled)) :
    after.standing statement.client = store.standing statement.client := by
  unfold recompile at isOk
  dsimp only at isOk
  split at isOk
  · cases isOk
  rename_i acquired isAcquired
  rw [← acquire_standing isAcquired]
  repeat' split at isOk
  all_goals cases isOk
  · rfl
  · rename_i isAgain
    refine (acquire_standing isAgain).trans ?_
    exact updateClient_standing_of_seat (fun _ => rfl) fun _ => rfl

theorem updateClient_proceeds {change : Client → Client}
    (keeps : ∀ client, (change client).handle = client.handle)
    (same : ∀ client, ((change client).file, (change client).isAutomatic) =
      (client.file, client.isAutomatic)) :
    (store.standing handle).Proceeds ((store.updateClient handle change).standing handle) := by
  cases isClient : store.client? handle with
  | none =>
      have isNobody : (store.updateClient handle change).standing handle = ⟨false, {}, {}⟩ := by
        rw [standing, client?_updateClient keeps, isClient]
        rfl
      rw [isNobody, standing, isClient]
      exact .refl _
  | some client =>
      have isSame := same client
      simp only [Prod.mk.injEq] at isSame
      rw [standing_updateClient isClient keeps, standing_of_client isClient, standingOf, standingOf,
        isSame.1, isSame.2]
      cases client.file.bind store.file? with
      | none => exact .refl _
      | some file =>
          cases isAutomatic : client.isAutomatic with
          | true => exact .of_outside rfl rfl
          | false => exact ⟨rfl, rfl⟩

theorem keepWork_proceeds (work : Plan.Work) :
    (store.standing handle).Proceeds ((store.keepWork handle work).standing handle) :=
  updateClient_proceeds (fun _ => rfl) fun _ => rfl

theorem runChange_proceeds (client : Client) (statement : Statement) (change : Plan.Change) :
    (store.standing statement.client).Proceeds
      ((store.runChange client statement change).1.standing statement.client) := by
  have counts (counters : Client → Plan.Counters) :
      (store.updateClient statement.client fun client =>
        { client with counters := counters client }).standing statement.client =
          store.standing statement.client :=
    updateClient_standing_of_seat (fun _ => rfl) fun _ => rfl
  unfold runChange
  dsimp only
  split
  · exact counts _ ▸ keepWork_proceeds _
  split
  · exact counts _ ▸ keepWork_proceeds _
  · exact counts _ ▸ .refl _

theorem runDefinition_proceeds (client : Client) (statement : Statement)
    (effect : Plan.Effect Unit) (drops : Bool) :
    (store.standing statement.client).Proceeds
      ((store.runDefinition client statement effect drops).1.standing statement.client) := by
  unfold runDefinition
  split
  · exact .refl _
  split
  · exact keepWork_proceeds _
  · exact .refl _

theorem vacuum_eq : (store.vacuum handle).1 = store := by
  unfold vacuum
  repeat' split
  all_goals rfl

theorem withoutRows_eq (outcome : Store × Option Fault) : (withoutRows outcome).1 = outcome.1 := by
  rcases outcome with ⟨_, _ | _⟩ <;> rfl

end Store

/-! ## Kinds of statements -/

def programKind : Plan.Program → StatementKind
  | .begin _ => .begin
  | .commit => .commit
  | .rollback => .rollback
  | .savepoint _ | .release _ | .rollbackTo _ => .savepoint
  | .query _ _ | .change _ | .define _ _ | .vacuum | .nothing => .ordinary

def statementKind : Sql.Statement → StatementKind
  | .begin _ => .begin
  | .commit => .commit
  | .rollback => .rollback
  | .savepoint _ | .release _ | .rollbackTo _ => .savepoint
  | _ => .ordinary

theorem bind_eq_ok {ε α β : Type} {first : Except ε α} {next : α → Except ε β} {value : β}
    (isOk : first >>= next = .ok value) : ∃ between, first = .ok between ∧ next between = .ok value := by
  cases first with
  | error _ => cases isOk
  | ok between => exact ⟨between, rfl, isOk⟩

theorem compile_kind {context : Plan.Context} {circumstances : Plan.Circumstances}
    {parsed : Sql.Parsed} {statement : Sql.Statement} {program : Plan.Program}
    {setting : Option Plan.Setting}
    (compiles : Plan.Program.compile context circumstances parsed statement = .ok (program, setting)) :
    programKind program = statementKind statement := by
  cases statement with
  | begin _ | commit | rollback | savepoint _ | release _ | rollbackTo _ | vacuum | maintain =>
      cases compiles
      rfl
  | select _ | insert _ | update _ | delete _ | alter _ _ =>
      obtain ⟨_, -, isProgram⟩ := bind_eq_ok compiles
      cases isProgram
      rfl
  | createTable _ | createIndex _ | createView _ | createTrigger _ | drop _ _ _ =>
      obtain ⟨definition, -, isProgram⟩ := bind_eq_ok compiles
      cases isProgram
      cases definition <;> rfl
  | pragma _ _ _ =>
      obtain ⟨pragma, -, isProgram⟩ := bind_eq_ok compiles
      cases isProgram
      cases pragma <;> rfl

theorem Store.compileFor_compiles {store : Store} {client : Client} {parsed : Sql.Parsed}
    {body : Sql.Statement} {schema : Option Database} {program : Plan.Program}
    {setting : Option Plan.Setting}
    (compiles : store.compileFor client parsed body = .ok (schema, program, setting)) :
    ∃ database, store.compile client database parsed body = .ok (program, setting) := by
  unfold compileFor at compiles
  split at compiles
  · cases compiles
  split at compiles
  · rename_i isCompiled
    cases compiles
    exact ⟨_, isCompiled⟩
  · cases compiles
  dsimp only at compiles
  split at compiles
  · cases isCompiled : store.compile client (store.content client) parsed body with
    | error _ =>
        rw [isCompiled] at compiles
        cases compiles
    | ok compiled =>
        rw [isCompiled] at compiles
        cases compiles
        exact ⟨_, isCompiled⟩
  · cases compiles

end EmbeddedSql.Storage
