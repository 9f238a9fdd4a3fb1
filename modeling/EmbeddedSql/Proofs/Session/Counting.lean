import EmbeddedSql.Proofs.Query.Counting
import EmbeddedSql.Proofs.Session.Observing
import EmbeddedSql.Proofs.Session.Rewinding
import EmbeddedSql.Proofs.Storage.Counting

/-! Main result: the rows that are reported of a statement are those that its connection has counted
last. They are its own only if it changes rows. -/

namespace EmbeddedSql.Session

variable {σ : Type} {backend : Backend σ} {session : Session σ} {connection : String}

/-! ## Counts that are asked for -/

def Tells (backend : Backend σ) (connection : String) (count : Nat) (session : Session σ) : Prop :=
  (perform backend session (.connection connection .changes)).1 = .plain (.ok (.number count))

theorem Tells.unique {first second : Nat} (tellsFirst : Tells backend connection first session)
    (tellsSecond : Tells backend connection second session) : first = second := by
  unfold Tells at tellsFirst tellsSecond
  rw [tellsFirst] at tellsSecond
  cases tellsSecond
  rfl

section
variable {link last : Link σ} {count : Nat} (isLink : session.link? connection = some link)
include isLink

theorem tells_of_link
    (counts : (Connection.changes backend.engine backend.growth link).1 = .ok count) :
    Tells backend connection count session := by
  rw [Tells, perform, performConnection, onConnection_of_link isLink, counts]
  rfl

theorem tells_setLink (hasCounted : HasCounted backend.engine count last) :
    Tells backend connection count (session.setLink connection last) := by
  obtain ⟨pool, isThere⟩ := link?_setLink isLink last
  have inPool : HasCounted backend.engine count { last with pool } := hasCounted
  exact tells_of_link isThere (congrArg Prod.fst (inPool.changes backend.growth))

end

/-! ## Reports -/

/-- Each result reports the count that its statement leaves, from what the connection has counted
before all of them to what it has counted after them. -/
def Reports (laws : Counting backend.engine) (connection : String)
    (statements : List (Text × List Json)) (begun : Link σ) (results : List Query.WriteResult)
    (session next : Session σ) : Prop :=
  ∃ before after ended, laws.Tallies statements begun before results ended after ∧
    Tells backend connection before session ∧ Tells backend connection after next

section
variable {laws : Counting backend.engine} {link : Link σ}
  (sits : laws.Sits (.nothing laws.toRewinding) link)
  (isLink : session.link? connection = some link)
include sits isLink

theorem reports_of_execute {sql : Text} {values : List Json} {result : Query.WriteResult}
    (executes : (perform backend session (.query (.execute connection sql values))).1 =
      .query (.ok (.written result))) :
    Reports laws connection [(sql, values)] link [result] session
      (perform backend session (.query (.execute connection sql values))).2 := by
  rw [perform_query, performQuery, onConnection_of_link isLink] at executes ⊢
  rcases outcome : Query.execute backend sql values link with ⟨error | answer, last⟩ <;>
    rw [outcome] at executes <;> cases executes
  obtain ⟨before, after, counts, reports⟩ := Counting.execute_counts sits outcome
  exact ⟨before, after, last, .cons counts reports .nil, tells_of_link isLink counts.isBefore,
    tells_setLink isLink counts.isAfter⟩

theorem reports_of_executeTransaction {statements : List (Text × List Json)}
    {results : List Query.WriteResult}
    (isOk : (perform backend session (.query (.executeTransaction connection statements))).1 =
      .query (.ok (.writtenEach results))) :
    ∃ begun, Query.control backend "BEGIN IMMEDIATE" link = (.ok (), begun) ∧
      Reports laws connection statements begun results session
        (perform backend session (.query (.executeTransaction connection statements))).2 := by
  rw [perform_query, performQuery, onConnection_of_link isLink] at isOk ⊢
  rcases outcome : Query.executeTransaction backend statements link with ⟨error | answer, last⟩ <;>
    rw [outcome] at isOk <;> cases isOk
  obtain ⟨before, after, begun, ended, counts, begins, tallies, hasCounted⟩ :=
    Counting.executeTransaction_tallies sits outcome
  exact ⟨begun, begins, before, after, ended, tallies, tells_of_link isLink counts,
    tells_setLink isLink hasCounted⟩

end

/-! ## Runs -/

/-- A statement that changes rows reports how many once it is done. Any other reports what its
connection has counted before, alone as well as in a transaction. -/
theorem rows_counted (laws : Counting backend.engine) {state : σ} (valid : laws.Valid state)
    (isFresh : laws.handles state = .none) (requests : List Request) :
    let session := (run backend { engine := state } requests).2
    ∀ {connection link}, session.link? connection = some link →
      (∀ {sql values result},
        let outcome := perform backend session (.query (.execute connection sql values))
        outcome.1 = .query (.ok (.written result)) →
          Reports laws connection [(sql, values)] link [result] session outcome.2) ∧
      ∀ {statements results},
        let outcome := perform backend session (.query (.executeTransaction connection statements))
        outcome.1 = .query (.ok (.writtenEach results)) →
          ∃ begun, Query.control backend "BEGIN IMMEDIATE" link = (.ok (), begun) ∧
            Reports laws connection statements begun results session outcome.2 := by
  intro session connection link isLink
  have start : Sound laws.toLedger { engine := state } := sound_of_nothing valid isFresh
  have sound : Sound laws.toLedger session := run_sound start requests
  have sits : laws.Sits (.nothing laws.toRewinding) link :=
    sits_of_link sound (.nothing sound.valid) isLink
  exact ⟨reports_of_execute sits isLink, reports_of_executeTransaction sits isLink⟩

def threeInserted : List Request :=
  [.connection "c" (.connect none none none),
    .query (.execute "c" (.ofString "CREATE TABLE t(a)") []),
    .query (.execute "c" (.ofString "INSERT INTO t VALUES(1), (2), (3)") [])]

def Response.written? : Response → Option Query.WriteResult
  | .query (.ok (.written result)) => some result
  | _ => none

theorem Response.of_written? {response : Response} {result : Query.WriteResult}
    (isWritten : response.written? = some result) : response = .query (.ok (.written result)) := by
  unfold Response.written? at isWritten
  split at isWritten
  · rw [Option.some.inj isWritten]
  · cases isWritten

def Response.writtenEach? : Response → Option (List Query.WriteResult)
  | .query (.ok (.writtenEach results)) => some results
  | _ => none

theorem Response.of_writtenEach? {response : Response} {results : List Query.WriteResult}
    (areWritten : response.writtenEach? = some results) :
    response = .query (.ok (.writtenEach results)) := by
  unfold Response.writtenEach? at areWritten
  split at areWritten
  · rw [Option.some.inj areWritten]
  · cases areWritten

theorem rows_counted_leftOver :
    let session := (run Storage.backend { engine := {} } threeInserted).2
    let insert : Text := .ofString "INSERT INTO t VALUES(4), (5)"
    let create : Text := .ofString "CREATE TABLE u(a)"
    let alone := perform Storage.backend session (.query (.execute "c" create []))
    let together := perform Storage.backend session
      (.query (.executeTransaction "c" [(insert, []), (create, [])]))
    Storage.counting.changesRows create = false ∧
      (∃ result, alone.1 = .query (.ok (.written result)) ∧ result.rowsAffected = 3) ∧
        ∃ first second begun, together.1 = .query (.ok (.writtenEach [first, second])) ∧
          Reports Storage.counting "c" [(insert, []), (create, [])] begun [first, second] session
              together.2 ∧
            first.rowsAffected = 2 ∧ second.rowsAffected = 2 := by
  intro session insert create alone together
  have isFresh : Storage.counting.Shows {} .none := Storage.counting_empty
  have changesNone : Storage.counting.changesRows create = false := by decide +kernel
  have isThere : (session.link? "c").isSome = true := by decide +kernel
  obtain ⟨link, isLink⟩ := Option.isSome_iff_exists.mp isThere
  have isThree : Tells Storage.backend "c" 3 session := Response.of_answer? (by decide +kernel)
  have isWritten : alone.1.written?.isSome = true := by decide +kernel
  have areTwo : together.1.writtenEach?.map (·.map (·.rowsAffected)) = some [2, 2] := by
    decide +kernel
  obtain ⟨execute, transact⟩ :=
    rows_counted Storage.counting isFresh.1 isFresh.2 threeInserted isLink
  refine ⟨changesNone, ?_, ?_⟩
  · obtain ⟨result, isResult⟩ := Option.isSome_iff_exists.mp isWritten
    have answers := Response.of_written? isResult
    obtain ⟨before, after, ended, tallies, tells, -⟩ := execute answers
    obtain rfl := tells.unique isThree
    refine ⟨result, answers, ?_⟩
    exact tallies.leftOver (by simpa using changesNone) result List.mem_cons_self
  · obtain ⟨results, areResults, areCounts⟩ := Option.map_eq_some_iff.mp areTwo
    obtain ⟨first, rest, rfl, isFirst, areRest⟩ := List.map_eq_cons_iff.mp areCounts
    obtain ⟨second, others, rfl, isSecond, isNone⟩ := List.map_eq_cons_iff.mp areRest
    obtain rfl := List.map_eq_nil_iff.mp isNone
    have answers := Response.of_writtenEach? areResults
    obtain ⟨begun, -, reports⟩ := transact answers
    exact ⟨first, second, begun, answers, reports, isFirst, isSecond⟩

end EmbeddedSql.Session
