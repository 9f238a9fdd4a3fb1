import EmbeddedSql.Proofs.Engine.Recording
import EmbeddedSql.Proofs.Session.Custody.Run
import EmbeddedSql.Proofs.Storage.Custody

/-! Main result: whatever a session is asked and whatever its engine answers, no handle is
used but those in use, and in the end every handle has been taken back once. -/

namespace EmbeddedSql.Session

variable {σ τ : Type} {backend : Backend σ} {image : Backend τ}

theorem sound_of_nothing {ledger : Ledger σ} {state : σ} (valid : ledger.Valid state)
    (isFresh : ledger.handles state = .none) : Sound ledger { engine := state } where
  valid := valid
  accounts :=
    { isOpen := nofun
      isOpened := fun {database} isOpen => by
        have isClosed : (ledger.handles state).isOpen database = false := by rw [isFresh]; rfl
        cases isClosed.symm.trans isOpen
      separate := nofun
      holds := fun {holder} => by cases holder <;> exact nofun
      distinct := fun {holder} => by cases holder <;> exact nofun
      lent := fun {holder} => by cases holder <;> exact nofun
      owned := fun {statement database} isOwner => by
        have isFree : (ledger.handles state).owner? statement = none := by rw [isFresh]; rfl
        cases isFree.symm.trans isOwner }
  releases := nofun

/-- Once there is no connection left, every handle has been taken back. -/
theorem Sound.isSettled {custody : Custody backend.engine} {session : Session (Recorded σ)}
    (sound : Sound custody.recordLedger session) (noConnections : session.connections = []) :
    session.engine.record.IsSettled := by
  rcases sound.valid with ⟨valid, isProper, isRecorded⟩
  refine EngineRecord.isSettled_of_unused isProper (isRecorded.trans ?_)
  have isClosed (database : DatabaseHandle) :
      (custody.handles session.engine.state).isOpen database = false := by
    refine sound.accounts.isClosed_of_empty (fun name => ?_) database
    simp [books, noConnections, Registry.get?]
  refine Handles.ext (funext isClosed) (funext fun statement => ?_)
  cases isOwner : (custody.handles session.engine.state).owner? statement with
  | none => rfl
  | some database =>
      have isOpen := custody.isOpen_of_owner valid isOwner
      cases (isClosed database).symm.trans isOpen

/-- A run on an engine whose handles can be relied on, with its record. The answers are
those without the record. They are the same on every engine that differs only in what it
does with handles that are not in use, so not even a question is asked about such a
handle. -/
theorem handles_released_once (custody : Custody backend.engine) {state : σ}
    (valid : custody.Valid state) (isFresh : custody.handles state = .none)
    (requests : List Request) :
    let recorded := run backend.recording { engine := { state } } requests
    let closed := close backend.recording recorded.2
    recorded.2.engine.record.IsProper ∧
      (recorded.2.connections = [] → recorded.2.engine.record.IsSettled) ∧
        closed.engine.record.IsProper ∧ closed.engine.record.IsSettled ∧
          run backend { engine := state } requests =
              (recorded.1, recorded.2.withEngine recorded.2.engine.state) ∧
            ∀ {τ : Type} {image : Backend τ} (mirror : Mirror backend.engine image.engine)
              (imageState : τ), mirror.Valid state → mirror.handles state = .none →
                mirror.Same state imageState → image.growth = backend.growth →
                  (run image { engine := imageState } requests).1 = recorded.1 := by
  dsimp only
  let start : Session (Recorded σ) := { engine := { state } }
  let recording : Mirror backend.recording.engine backend.engine := custody.unrecorded
  have sound : Sound recording.toLedger start :=
    sound_of_nothing ⟨valid, .nothing, isFresh.symm⟩ isFresh
  have sameGrowth : backend.growth = backend.recording.growth := rfl
  have runs : Performs recording (run backend.recording start requests)
      (run backend (start.withEngine state) requests) :=
    run_performs sameGrowth requests start state sound rfl
  rcases runs with ⟨next, images, isNext, soundAfter⟩
  have closes : Performs recording _ ((), close backend _) ∧ _ :=
    close_performs soundAfter isNext sameGrowth
  rcases closes with ⟨⟨_, -, -, soundClosed⟩, noConnections⟩
  refine ⟨soundAfter.valid.2.1, soundAfter.isSettled, soundClosed.valid.2.1,
    soundClosed.isSettled noConnections, ?_, ?_⟩
  · rw [← show next = (run backend.recording start requests).2.engine.state from isNext]
    exact images
  · intro τ image mirror imageState validImage freshImage same sameGrowth
    have plainRuns : Performs mirror (run backend { engine := state } requests) _ :=
      run_performs sameGrowth requests _ imageState (sound_of_nothing validImage freshImage) same
    rcases plainRuns with ⟨_, sameAnswers, -, -⟩
    exact (congrArg Prod.fst sameAnswers).trans (congrArg Prod.fst images)

/-- A connection that is disposed of under a reader, which is released later. -/
def disposedUnderReader : List Request :=
  [.connection "c" (.connect none none none),
    .connection "c" (.createCommand "k" (.ofString "SELECT 1")),
    .command "k" (.executeReader "r"),
    .reader "r" .read,
    .connection "c" .dispose,
    .reader "r" .dispose,
    .command "k" .drop]

theorem handles_released_once_under_reader :
    Storage.custody.Valid {} ∧ Storage.custody.handles {} = .none ∧
      let recorded :=
        run Storage.backend.recording { engine := { state := {} } } disposedUnderReader
      recorded.2.engine.record =
          [.closed ⟨0⟩, .finalized ⟨0⟩, .stepped ⟨0⟩ Status.row, .prepared ⟨0⟩ (some ⟨0⟩),
            .opened (some ⟨0⟩)] ∧
        recorded.2.engine.record.IsProper ∧
          (close Storage.backend.recording recorded.2).engine.record.IsSettled := by
  have valid := Storage.custody_empty.1
  have isFresh := Storage.custody_empty.2
  have released := handles_released_once Storage.custody valid isFresh
    disposedUnderReader
  exact ⟨valid, isFresh, by decide +kernel, released.1, released.2.2.2.1⟩

end EmbeddedSql.Session
