import EmbeddedSql.Storage.Access

/-! Views of a store that stay the same whatever becomes of transactions, and so while statements
run. -/

namespace EmbeddedSql.Storage

open Plan (Fault)

namespace Store

variable {α : Type}

/-- A view that shows of clients no more than who they are and the rows that they have counted,
and that shows no remainders of statements. -/
structure Frame (view : Store → α) : Prop where
  updateClient : ∀ {store : Store} {handle : DatabaseHandle} {change : Client → Client},
    (∀ client, (change client).handle = client.handle) →
      (∀ client, (change client).counters.changes = client.counters.changes) →
        view (store.updateClient handle change) = view store
  setCommitted : ∀ {store : Store} {client : Client} {database : Database},
    view (store.setCommitted client database) = view store
  loseScans : ∀ {store : Store} {handle : DatabaseHandle},
    view { store with
      statements := store.statements.map fun statement =>
        if statement.client = handle then Store.loseScans statement else statement } = view store

namespace Frame

variable {view : Store → α} (frame : Frame view) {store after : Store} {handle : DatabaseHandle}
include frame

theorem update {change : Client → Client} (same : view after = view store)
    (keeps : ∀ client, (change client).handle = client.handle)
    (counted : ∀ client, (change client).counters.changes = client.counters.changes) :
    view (after.updateClient handle change) = view store :=
  (frame.updateClient keeps counted).trans same

/-! ## Transactions -/

theorem settleLock : view (store.settleLock handle) = view store := by
  refine frame.updateClient (fun client => ?_) fun client => ?_
  · split <;> rfl
  · split <;> rfl

theorem toRead (isOk : store.toRead handle = .ok after) : view after = view store := by
  unfold Store.toRead at isOk
  repeat' split at isOk
  all_goals cases isOk
  · rfl
  · exact frame.updateClient (fun _ => rfl) fun _ => rfl

theorem toWrite (isOk : store.toWrite handle = .ok after) : view after = view store := by
  unfold Store.toWrite at isOk
  repeat' split at isOk
  all_goals cases isOk
  rename_i isRead _
  exact frame.update (frame.toRead isRead) (fun _ => rfl) fun _ => rfl

theorem toExclusive (isOk : store.toExclusive handle = .ok after) : view after = view store := by
  unfold Store.toExclusive at isOk
  repeat' split at isOk
  all_goals cases isOk
  rename_i isWritten _ _ _ _
  exact frame.update (frame.toWrite isWritten) (fun _ => rfl) fun _ => rfl

theorem commit : view (store.commit handle).1 = view store := by
  unfold Store.commit
  dsimp only
  repeat' split
  · rfl
  · rfl
  · rfl
  · exact frame.update frame.setCommitted (fun _ => rfl) fun _ => rfl
  · exact frame.updateClient (fun _ => rfl) fun _ => rfl

theorem forgetSchema : view (store.forgetSchema handle) = view store :=
  frame.update frame.loseScans (fun _ => rfl) fun _ => rfl

theorem rollback : view (store.rollback handle) = view store := by
  unfold Store.rollback
  dsimp only
  refine frame.settleLock.trans (frame.update ?_ (fun _ => rfl) fun _ => rfl)
  split
  · exact frame.forgetSchema
  · rfl

theorem endTransaction : view (store.endTransaction handle).1 = view store := by
  have commits : view (store.commit handle).1 = view store := frame.commit
  unfold Store.endTransaction
  split <;> rename_i committed <;> rw [committed] at commits
  · exact commits
  · exact frame.settleLock.trans (frame.update commits (fun _ => rfl) fun _ => rfl)

theorem beginTransaction (kind : Sql.TransactionKind) :
    view (store.beginTransaction handle kind).1 = view store := by
  unfold Store.beginTransaction
  dsimp only
  split
  · rfl
  · rename_i prepared isPrepared
    have keeps : view prepared = view store := by
      split at isPrepared
      · cases isPrepared
        rfl
      · split at isPrepared
        · exact frame.toRead isPrepared
        · exact frame.toWrite isPrepared
      · split at isPrepared
        · exact frame.toRead isPrepared
        · exact frame.toExclusive isPrepared
    split
    · exact frame.update keeps (fun _ => rfl) fun _ => rfl
    · exact keeps

theorem commitTransaction : view (store.commitTransaction handle).1 = view store := by
  unfold Store.commitTransaction
  split
  · rfl
  split
  · rfl
  · exact frame.endTransaction

theorem rollbackTransaction : view (store.rollbackTransaction handle).1 = view store := by
  unfold Store.rollbackTransaction
  split
  · rfl
  · exact frame.rollback

omit frame in
theorem vacuum : view (store.vacuum handle).1 = view store := by
  unfold Store.vacuum
  repeat' split
  all_goals rfl

theorem setSavepoint (name : Bytes) : view (store.setSavepoint handle name).1 = view store := by
  unfold Store.setSavepoint
  split
  · rfl
  · exact frame.updateClient (fun _ => rfl) fun _ => rfl

theorem releaseSavepoint (name : Bytes) :
    view (store.releaseSavepoint handle name).1 = view store := by
  unfold Store.releaseSavepoint
  repeat' split
  · rfl
  · rfl
  · rfl
  · exact frame.endTransaction
  · exact frame.updateClient (fun _ => rfl) fun _ => rfl

theorem rollbackToSavepoint (name : Bytes) :
    view (store.rollbackToSavepoint handle name).1 = view store := by
  unfold Store.rollbackToSavepoint
  dsimp only
  repeat' split
  · rfl
  · rfl
  · exact frame.update frame.forgetSchema (fun _ => rfl) fun _ => rfl
  · exact frame.updateClient (fun _ => rfl) fun _ => rfl

/-! ## Counting -/

theorem report {fault : Fault} (same : view after = view store) :
    view (after.report handle fault) = view store :=
  frame.update same (fun _ => rfl) fun _ => rfl

end Frame

/-- Either there is nothing to count, or the view does not show it. -/
def Overlooks (view : Store → α) (changed : Option Nat) : Prop :=
  changed = none ∨ ∀ (store : Store) (handle : DatabaseHandle) (changed : Option Nat),
    view (store.count handle changed) = view store

section
variable {view : Store → α} {changed : Option Nat} {store after : Store} {handle : DatabaseHandle}

theorem Overlooks.map (overlooks : Overlooks view changed) (kept : Nat → Nat) :
    Overlooks view (changed.map kept) :=
  overlooks.imp_left fun isNone => by rw [isNone, Option.map_none]

theorem Overlooks.count (overlooks : Overlooks view changed) (same : view after = view store) :
    view (after.count handle changed) = view store := by
  rcases overlooks with rfl | overlooks
  · exact same
  · exact (overlooks ..).trans same

namespace Frame

variable (frame : Frame view) (overlooks : Overlooks view changed)
include frame overlooks

theorem settle : view (store.settle handle changed).1 = view store := by
  have commits : view (store.commit handle).1 = view store := frame.commit
  unfold Store.settle
  split
  · split <;> rename_i committed <;> rw [committed] at commits
    · exact overlooks.count (frame.settleLock.trans commits)
    · exact (overlooks.map _).count (frame.rollback.trans commits)
  · exact overlooks.count rfl

theorem finish {statement : Statement} {running : Running} (isChanged : running.changed = changed)
    (phases : ∀ (store : Store) (phase : Phase),
      view (store.setPhase statement.handle phase) = view store) :
    view (store.finish statement running).1 = view store := by
  have settles : view ((store.setPhase statement.handle (.halted Status.ok)).settle statement.client
      running.changed).1 = view store :=
    (frame.settle (isChanged ▸ overlooks)).trans (phases ..)
  unfold Store.finish
  dsimp only
  split <;> rename_i settled <;> rw [settled] at settles
  · exact settles
  · exact frame.report ((phases ..).trans settles)

theorem fail {statement : Statement} {fault : Fault}
    (phases : ∀ (store : Store) (phase : Phase),
      view (store.setPhase statement.handle phase) = view store) :
    view (store.fail statement changed fault) = view store := by
  unfold Store.fail
  dsimp only
  refine frame.report ?_
  split
  · exact (frame.settle (overlooks.map _)).trans (phases ..)
  split
  · exact (overlooks.map _).count (frame.rollback.trans (phases ..))
  · exact (overlooks.map _).count (phases ..)

end Frame

end

/-! ## Running statements -/

namespace Frame

variable {view : Store → α} (frame : Frame view) {store after : Store} {handle : DatabaseHandle}
include frame

theorem acquire {need : Need} (isOk : store.acquire handle need = .ok after) :
    view after = view store := by
  cases need with
  | nothing =>
      cases isOk
      rfl
  | reading => exact frame.toRead isOk
  | writing => exact frame.toWrite isOk

theorem recompile {statement recompiled : Statement}
    (programs : ∀ (store : Store) (name : StatementHandle) (program : Plan.Program),
      view (store.updateStatement name fun statement => { statement with program }) = view store)
    (isOk : store.recompile statement = .ok (after, recompiled)) : view after = view store := by
  unfold Store.recompile at isOk
  dsimp only at isOk
  split at isOk
  · cases isOk
  rename_i acquired isAcquired
  rw [← frame.acquire isAcquired]
  repeat' split at isOk
  all_goals cases isOk
  · rfl
  · rename_i isAgain
    exact (frame.acquire isAgain).trans
      ((programs ..).trans (frame.updateClient (fun _ => rfl) fun _ => rfl))

theorem keepWork {work : Plan.Work} (same : view after = view store) :
    view (after.keepWork handle work) = view store :=
  frame.update same (fun _ => rfl) fun _ => rfl

theorem runChange (client : Client) (statement : Statement) (change : Plan.Change) :
    view (store.runChange client statement change).1 = view store := by
  -- What a change has counted is not reported before the statement ends.
  have counts (work : Plan.Work) : view (store.updateClient statement.client fun client =>
      { client with
        counters := { work.counters with changes := client.counters.changes } }) = view store :=
    frame.updateClient (fun _ => rfl) fun _ => rfl
  unfold Store.runChange
  dsimp only
  split
  · exact frame.keepWork (counts _)
  · dsimp only
    split
    · exact frame.keepWork (counts _)
    · exact counts _

theorem runDefinition (client : Client) (statement : Statement) (effect : Plan.Effect Unit)
    (drops : Bool) : view (store.runDefinition client statement effect drops).1 = view store := by
  unfold Store.runDefinition
  split
  · rfl
  split
  · exact frame.keepWork rfl
  · rfl

omit frame in
theorem withoutRows (outcome : Store × Option Fault) :
    view (Store.withoutRows outcome).1 = view outcome.1 := by
  rcases outcome with ⟨_, _ | _⟩ <;> rfl

theorem execute (client : Client) (statement : Statement) :
    view (store.execute client statement).1 = view store := by
  unfold Store.execute
  dsimp only
  split
  · rfl
  · exact frame.runChange ..
  · exact frame.runDefinition ..
  · exact (withoutRows _).trans (frame.beginTransaction _)
  · exact (withoutRows _).trans frame.commitTransaction
  · exact (withoutRows _).trans frame.rollbackTransaction
  · exact (withoutRows _).trans (frame.setSavepoint _)
  · exact (withoutRows _).trans (frame.releaseSavepoint _)
  · exact (withoutRows _).trans (frame.rollbackToSavepoint _)
  · exact (withoutRows _).trans vacuum
  · exact withoutRows _

theorem applySetting (client : Client) (setting : Option Plan.Setting) :
    view (store.applySetting client setting) = view store := by
  unfold Store.applySetting
  dsimp only
  split
  · rfl
  · exact frame.updateClient (fun _ => rfl) fun _ => rfl
  split
  · exact frame.setCommitted
  · rfl

end Frame

end Store

end EmbeddedSql.Storage
