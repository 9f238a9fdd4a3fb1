import EmbeddedSql.Proofs.Query.Fetching
import EmbeddedSql.Proofs.Session.Rewinding
import EmbeddedSql.Proofs.Storage.Rewinding

/-! Main result: asking for one row is answered with what asking for all rows would have come
to, unless two rows come first. -/

namespace EmbeddedSql.Session

variable {σ : Type} {backend : Backend σ}

def rowsGiven (backend : Backend σ) (session : Session (Recorded σ)) (request : Request) : Nat :=
  (perform backend.recording session request).2.engine.record.rows - session.engine.record.rows

/-- What is answered to the demand for all rows, before the end or failure of which `given` rows
come, and to the demand for one of them. -/
structure Narrows (given : Nat) (all one : Response) : Prop where
  answered : (∃ rows, all = .query (.ok (.rows rows)) ∧ rows.length = given) ∨
    ∃ refusal, all = .query (.error refusal)
  nothing : one = .query (.ok (.row none)) ↔ all = .query (.ok (.rows []))
  single : ∀ row, one = .query (.ok (.row (some row))) ↔ all = .query (.ok (.rows [row]))
  several : ∀ rows, all = .query (.ok (.rows rows)) → 2 ≤ rows.length →
    one = .query (.error (.failed (.multipleRowsReturned 2)))
  refused : ∀ refusal, all = .query (.error refusal) →
    one = .query (.error (if 2 ≤ given then .failed (.multipleRowsReturned 2) else refusal))

theorem narrows_of_head? {given : Nat} {all : Except (Refusal Query.Error) (List Query.Row)}
    {one : Except (Refusal Query.Error) (Option Query.Row)}
    (counts : ∀ rows, all = .ok rows → rows.length = given)
    (isOne : one =
      if 2 ≤ given then .error (.failed (.multipleRowsReturned 2)) else all.map List.head?) :
    Narrows given (.query (all.map .rows)) (.query (one.map .row)) := by
  subst isOne
  rcases all with refusal | rows
  · by_cases isTwo : 2 ≤ given
    · rw [if_pos isTwo]
      exact ⟨.inr ⟨_, rfl⟩, by simp [Except.map], by simp [Except.map], nofun,
        fun _ _ => by rw [if_pos isTwo]; rfl⟩
    · rw [if_neg isTwo]
      refine ⟨.inr ⟨_, rfl⟩, by simp [Except.map], by simp [Except.map], nofun, ?_⟩
      rintro _ ⟨⟩
      rw [if_neg isTwo]
      rfl
  · obtain rfl := counts rows rfl
    rcases rows with _ | ⟨row, _ | ⟨other, rest⟩⟩ <;>
      exact ⟨.inl ⟨_, rfl, rfl⟩, by simp [Except.map], by simp [Except.map],
        by simp [Except.map], nofun⟩

theorem onConnection_fetches {laws : Rewinding backend.engine} {session : Session (Recorded σ)}
    (sound : Sound laws.recording.toLedger session) (connection : String) (sql : Text)
    (values : List Json) :
    let before := session.engine.record.rows
    let all := session.onConnection connection (Query.fetchAll backend.recording sql values)
    let one := session.onConnection connection (Query.fetchOne backend.recording sql values)
    ∃ count, all.2.engine.record.rows = before + count ∧
      (∀ rows, all.1 = .ok rows → rows.length = count) ∧
        one.1 = (if 2 ≤ count then .error (.failed (.multipleRowsReturned 2))
          else all.1.map List.head?) ∧
        one.2.engine.record.rows ≤ before + 2 := by
  dsimp only
  cases isLink : session.link? connection with
  | none =>
      rw [onConnection_of_missing isLink, onConnection_of_missing isLink]
      exact ⟨0, rfl, nofun, rfl, Nat.le_add_right _ 2⟩
  | some link =>
      have sits := sits_of_link sound (.nothing sound.valid) isLink
      obtain ⟨count, given, counts, isOne, atMostTwo⟩ := sits.fetchOne_of_fetchAll sql values
      rw [onConnection_of_link isLink, onConnection_of_link isLink, setLink_engine, setLink_engine,
        ← engine_of_link isLink, isOne]
      refine ⟨count, given, fun rows isOk => ?_, ?_, atMostTwo⟩
      · rcases isAll : (Query.fetchAll backend.recording sql values link).1 with error | others <;>
          rw [isAll] at isOk <;> cases isOk
        exact counts _ isAll
      · by_cases isTwo : 2 ≤ count
        · rw [if_pos isTwo, if_pos isTwo]
          rfl
        · rw [if_neg isTwo, if_neg isTwo]
          rcases (Query.fetchAll backend.recording sql values link).1 with error | rows <;> rfl

/-- Asking for one row asks the engine for two at most. As far as those go it is answered, or
refused, just as asking for all of them is. -/
theorem fetchOne_narrows_fetchAll (laws : Rewinding backend.engine) {state : σ}
    (valid : laws.Valid state) (isFresh : laws.handles state = .none) (requests : List Request)
    (connection : String) (sql : Text) (values : List Json) :
    let session := (run backend.recording { engine := { state } } requests).2
    let fetchAll : Request := .query (.fetchAll connection sql values)
    let fetchOne : Request := .query (.fetchOne connection sql values)
    Narrows (rowsGiven backend session fetchAll) (perform backend.recording session fetchAll).1
        (perform backend.recording session fetchOne).1 ∧
      rowsGiven backend session fetchOne ≤ 2 := by
  intro session fetchAll fetchOne
  have start : Sound laws.recording.toLedger { engine := { state } } :=
    sound_of_nothing ⟨valid, .nothing, isFresh.symm⟩ isFresh
  obtain ⟨count, given, counts, isOne, atMostTwo⟩ :=
    onConnection_fetches (run_sound start requests) connection sql values
  have sameCount : rowsGiven backend session fetchAll = count :=
    (congrArg (· - session.engine.record.rows) given).trans (Nat.add_sub_cancel_left ..)
  rw [sameCount]
  exact ⟨narrows_of_head? counts isOne, Nat.sub_le_of_le_add (Nat.add_comm _ 2 ▸ atMostTwo)⟩

def Response.refusal? : Response → Option (Refusal Query.Error)
  | .query (.error refusal) => some refusal
  | _ => none

theorem Response.of_refusal? {response : Response} {refusal : Refusal Query.Error}
    (isRefused : response.refusal? = some refusal) : response = .query (.error refusal) := by
  unfold Response.refusal? at isRefused
  split at isRefused
  · rw [Option.some.inj isRefused]
  · cases isRefused

def magnitudes : Text :=
  .ofString "SELECT abs(column1) FROM (VALUES (?1), (?2), (?3))"

theorem fetchOne_narrows_fetchAll_overflowing :
    let session := (run Storage.backend.recording { engine := { state := {} } }
      [.connection "c" (.connect none none none)]).2
    let overflow : Refusal Query.Error :=
      .failed (.connection (.stepFailed Status.error "integer overflow"))
    let respond (request : QueryRequest) : Response :=
      (perform Storage.backend.recording session (.query request)).1
    let late : List Json := [.integer 1, .integer 2, .integer (-0x8000000000000000)]
    let early : List Json := [.integer 1, .integer (-0x8000000000000000), .integer 2]
    respond (.fetchAll "c" magnitudes late) = .query (.error overflow) ∧
      respond (.fetchOne "c" magnitudes late) =
        .query (.error (.failed (.multipleRowsReturned 2))) ∧
      respond (.fetchAll "c" magnitudes early) = .query (.error overflow) ∧
      respond (.fetchOne "c" magnitudes early) = .query (.error overflow) := by
  intro session overflow respond late early
  have isFresh : Storage.custody.Shows {} .none := Storage.custody_empty
  have narrows := fetchOne_narrows_fetchAll Storage.rewinding isFresh.1 isFresh.2
    [.connection "c" (.connect none none none)] "c" magnitudes
  have allLate : respond (.fetchAll "c" magnitudes late) = .query (.error overflow) :=
    Response.of_refusal? (by decide +kernel)
  have allEarly : respond (.fetchAll "c" magnitudes early) = .query (.error overflow) :=
    Response.of_refusal? (by decide +kernel)
  have givenLate :
      rowsGiven Storage.backend session (.query (.fetchAll "c" magnitudes late)) = 2 := by
    decide +kernel
  have givenEarly :
      rowsGiven Storage.backend session (.query (.fetchAll "c" magnitudes early)) = 1 := by
    decide +kernel
  have isLate := (narrows late).1.refused overflow allLate
  have isEarly := (narrows early).1.refused overflow allEarly
  rw [givenLate] at isLate
  rw [givenEarly] at isEarly
  exact ⟨allLate, isLate, allEarly, isEarly⟩

end EmbeddedSql.Session
