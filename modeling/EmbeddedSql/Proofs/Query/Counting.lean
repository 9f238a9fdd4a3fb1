import EmbeddedSql.Proofs.Engine.Counting
import EmbeddedSql.Proofs.Query.Leniency
import EmbeddedSql.Proofs.Query.Positions

/-! What queries make of the count of changed rows, and what they report of it: the count as it is
when their statement is gone, whichever statement it comes from. -/

namespace EmbeddedSql

open Query

variable {σ : Type} {backend : Backend σ}

/-! ## Queries and their report -/

namespace Query

def conclude (backend : Backend σ) (sql : Text) (values : List Json) : Call σ Unit := do
  let command ← prepare backend sql values
  let _ ← command.dropOnError backend (Call.ofConnection (command.executeNonQuery backend))
  Call.ofConnection (command.finalize backend)

def counters (backend : Backend σ) : Call σ WriteResult :=
  Call.ofConnection do
    let changes ← Connection.changes backend.engine backend.growth
    let rowid ← Connection.lastInsertRowid backend.engine backend.growth
    pure ⟨changes.toUInt64, rowid⟩

theorem execute_eq_conclude (backend : Backend σ) (sql : Text) (values : List Json) :
    execute backend sql values = conclude backend sql values >>= fun _ => counters backend := by
  unfold execute conclude counters
  simp only [Call.ofConnection_bind, bind_assoc]

theorem conclude_of_opens {link opened : Link σ} (sql : Text) (values : List Json)
    (opens : Connection.ensureOpen backend.engine backend.growth link = (.ok (), opened))
    (again : Connection.ensureOpen backend.engine backend.growth opened = (.ok (), opened)) :
    conclude backend sql values link = conclude backend sql values opened := by
  unfold conclude
  rw [EmbeddedSql.Call.bind_apply, EmbeddedSql.Call.bind_apply, prepare_of_opens sql values opens again]

theorem conclude_of_unopened {error : EmbeddedSql.Error} {link failed : Link σ} (sql : Text)
    (values : List Json)
    (fails : Connection.ensureOpen backend.engine backend.growth link = (.error error, failed)) :
    conclude backend sql values link = (.error (.connection error), failed) :=
  EmbeddedSql.Call.bind_of_error _ (prepare_of_unopened sql values fails)

end Query

def HasCounted (engine : Engine σ) (count : Nat) (link : Link σ) : Prop :=
  ∃ database, link.connection.lifecycle = .opened database ∧
    engine.changes database link.engine = count

namespace HasCounted

variable {count : Nat} {link : Link σ}

theorem changes {engine : Engine σ} (hasCounted : HasCounted engine count link)
    (growth : Scratch.Growth) : Connection.changes engine growth link = (.ok count, link) := by
  obtain ⟨database, isOpened, isCount⟩ := hasCounted
  rw [Connection.changes, Call.bind_of_ok _ (Connection.database_of_opened engine growth isOpened),
    Call.observe_apply, isCount]

theorem counters (hasCounted : HasCounted backend.engine count link) :
    ∃ rowid, Query.counters backend link = (.ok ⟨count.toUInt64, rowid⟩, link) := by
  have counts := hasCounted.changes backend.growth
  obtain ⟨database, isOpened, -⟩ := hasCounted
  refine ⟨backend.engine.lastInsertRowid database link.engine, ?_⟩
  unfold Query.counters Call.ofConnection Connection.lastInsertRowid
  rw [EmbeddedSql.Call.bind_of_ok _ counts, bind_assoc,
    EmbeddedSql.Call.bind_of_ok _ (Connection.database_of_opened _ _ isOpened),
    EmbeddedSql.Call.bind_of_ok _ (EmbeddedSql.Call.observe_apply ..)]
  rfl

end HasCounted

theorem changes_of_opens {engine : Engine σ} {growth : Scratch.Growth} {link opened : Link σ}
    (opens : Connection.ensureOpen engine growth link = (.ok (), opened))
    (again : Connection.ensureOpen engine growth opened = (.ok (), opened)) :
    Connection.changes engine growth link = Connection.changes engine growth opened := by
  unfold Connection.changes Connection.database
  rw [bind_assoc, Call.bind_of_ok _ opens, Call.bind_of_ok _ again]

theorem createCommand_link (backend : Backend σ) {link : Link σ} {database : DatabaseHandle}
    (isOpened : link.connection.lifecycle = .opened database) (sql : Text) :
    Call.Ends (Connection.createCommand backend sql link) (fun _ _ => True) fun _ created =>
      created = { link with engine := (backend.engine.prepare database sql link.engine).2 } := by
  unfold Connection.createCommand Connection.prepare
  rw [bind_assoc, Call.bind_of_ok _ (Connection.database_of_opened _ _ isOpened), bind_assoc]
  refine Connection.ensureFits_ends backend.engine trivial ?_
  rw [bind_assoc, Call.bind_apply, Call.request_apply]
  rcases backend.engine.prepare database sql link.engine with ⟨⟨code, made⟩, state⟩
  dsimp only
  by_cases isOk : code = Status.ok
  · rw [if_neg (not_not.mpr isOk)]
    cases made
    · trivial
    · rfl
  · rw [if_pos isOk]
    trivial

namespace Counting

variable {laws : Counting backend.engine} {link last : Link σ} {sql : Text} {values : List Json}
  {statement : StatementHandle} {database : DatabaseHandle} {count : Nat}

/-! ## Statements that are to be run -/

/-- A new statement of the text, and how many rows its database has counted before. -/
structure Awaits (laws : Counting backend.engine) (database : DatabaseHandle) (sql : Text)
    (count : Nat) (statement : StatementHandle) (link : Link σ) :
    Prop extends laws.Rests (.nothing laws.toRewinding) statement link where
  isOpened : link.connection.lifecycle = .opened database
  counts : laws.counts link.engine statement = laws.changesRows sql
  changes : backend.engine.changes database link.engine = count

theorem awaits_createCommand (sits : laws.Sits (.nothing laws.toRewinding) link)
    (isOpened : link.connection.lifecycle = .opened database) (sql : Text) :
    Call.Ends (Connection.createCommand backend sql link) (fun _ _ => True) fun command =>
      laws.Awaits database sql (backend.engine.changes database link.engine) command.statement := by
  have made := sits.createCommand sql
  have counts := sits.createCommand_holds sql
    (fun state statement => laws.counts state statement = laws.changesRows sql) laws.prepared_counts
  have same := createCommand_link backend isOpened sql
  rcases outcome : Connection.createCommand backend sql link with ⟨error | command, created⟩ <;>
    rw [outcome] at made counts same
  · trivial
  · obtain rfl : created = _ := same
    exact ⟨made.1, isOpened, counts, laws.prepared_changes sits.valid (sits.isOpen isOpened)⟩

theorem Awaits.bindValue (awaits : laws.Awaits database sql count statement link) (index : Int32)
    (value : Json) :
    Call.Ends (Query.bindValue backend.engine backend.growth statement index value link)
      (fun _ => laws.Awaits database sql count statement)
      fun _ => laws.Awaits database sql count statement := by
  obtain ⟨pool, binds⟩ := Parameter.bind_eq backend.engine backend.growth statement (.index index)
    (argumentOf value) awaits.isLive
  refine .ofConnection ?_
  rw [binds]
  have bound : laws.Awaits database sql count statement
      { link with
        pool
        engine :=
          (backend.engine.give statement index.toInt (argumentOf value) link.engine).2 } := by
    refine ⟨(awaits.toRests.give _ _).withPool pool, awaits.isOpened, ?_, ?_⟩
    · unfold Engine.give
      split
      · exact awaits.counts
      · exact (laws.bound_counts awaits.valid awaits.inUse).trans awaits.counts
    · unfold Engine.give
      split
      · exact awaits.changes
      · exact (laws.bound_changes awaits.valid awaits.inUse).trans awaits.changes
  dsimp only [Parameter.position]
  cases Parameter.result (backend.engine.give statement index.toInt (argumentOf value) link.engine).1
  · exact bound
  · exact bound

theorem Awaits.bindFrom (awaits : laws.Awaits database sql count statement link)
    (total position : Nat) (values : List Json) :
    Call.Ends (Query.bindFrom backend.engine backend.growth statement total position values link)
      (fun _ => laws.Awaits database sql count statement)
      fun _ => laws.Awaits database sql count statement := by
  induction values generalizing position link with
  | nil => exact awaits
  | cons value rest induction =>
      unfold Query.bindFrom
      split
      · exact awaits
      · exact (awaits.bindValue _ value).bind fun _ _ awaits => induction awaits _

theorem awaits_prepareQuery (sits : laws.Sits (.nothing laws.toRewinding) link)
    (isOpened : link.connection.lifecycle = .opened database) (sql : Text) (values : List Json) :
    Call.Ends (Query.prepare backend sql values link) (fun _ _ => True) fun command =>
      laws.Awaits database sql (backend.engine.changes database link.engine) command.statement := by
  refine (Call.Ends.ofConnection (awaits_createCommand sits isOpened sql)).bind
    fun command between awaits => ?_
  refine Call.Ends.bind (.dropOnError (awaits.bindFrom _ _ values) fun _ _ _ => trivial)
    fun _ _ awaits => awaits

theorem Awaits.concludes {command : Command}
    (awaits : laws.Awaits database sql count command.statement link)
    (concludes : (do
        let _ ← command.dropOnError backend (Query.Call.ofConnection (command.executeNonQuery backend))
        Query.Call.ofConnection (command.finalize backend)) link = (.ok (), last)) :
    ∃ code state, backend.engine.Runs command.statement link.engine code state ∧
      link.connection.config.Accepts code ∧
        HasCounted backend.engine (backend.engine.changes database state) last := by
  obtain ⟨code, state, runs, executes, accepts⟩ :=
    command.executeNonQuery_runs backend awaits.isLive
  have rests := awaits.executeNonQuery
  rw [Call.bind_apply] at concludes
  unfold Command.dropOnError Query.Call.ofConnection at concludes
  rcases outcome : command.executeNonQuery backend link with ⟨error | rows, executed⟩ <;>
    rw [outcome] at concludes executes accepts rests
  · cases concludes
  obtain rfl : executed = _ := executes
  have rests : laws.Rests (.nothing laws.toRewinding) command.statement _ := rests
  dsimp only at concludes
  rw [rests.finalizeCommand_eq] at concludes
  cases concludes
  refine ⟨code, state, runs, accepts.mp rfl, database, awaits.isOpened, ?_⟩
  exact (laws.finalized_changes rests.valid rests.inUse rests.isReset).trans
    (laws.reset_of_runs awaits.valid awaits.inUse runs database)

/-! ## Counts before and after -/

/-- What a query that has come to its end leaves of the count. A statement that changes rows has
them counted once it is done; with any other, what was counted before is still there. -/
structure Counts (laws : Counting backend.engine) (sql : Text) (values : List Json)
    (link last : Link σ) (before after : Nat) : Prop where
  isBefore : (Connection.changes backend.engine backend.growth link).1 = .ok before
  isAfter : HasCounted backend.engine after last
  kept : laws.changesRows sql = false → after = before
  counted : laws.changesRows sql = true → ∃ command bound code state,
    Query.prepare backend sql values link = (.ok command, bound) ∧
      backend.engine.Runs command.statement bound.engine code state ∧
        link.connection.config.Accepts code ∧
          (code = Status.done → after = laws.affected bound.engine command.statement)

theorem counts_of_opened (sits : laws.Sits (.nothing laws.toRewinding) link)
    (isOpened : link.connection.lifecycle = .opened database)
    (concludes : Query.conclude backend sql values link = (.ok (), last)) :
    ∃ after,
      laws.Counts sql values link last (backend.engine.changes database link.engine) after := by
  have prepares := awaits_prepareQuery sits isOpened sql values
  rw [conclude] at concludes
  rcases prepared : Query.prepare backend sql values link with ⟨error | command, bound⟩ <;>
    rw [prepared] at prepares
  · cases (Call.bind_of_error _ prepared).symm.trans concludes
  have awaits : laws.Awaits database sql _ command.statement bound := prepares
  rw [Call.bind_of_ok _ prepared] at concludes
  obtain ⟨code, state, runs, accepts, hasCounted⟩ := awaits.concludes concludes
  have continues := Query.prepare_advances backend sql values link
  rw [prepared] at continues
  have before : HasCounted backend.engine _ link := ⟨database, isOpened, rfl⟩
  refine ⟨backend.engine.changes database state, congrArg Prod.fst (before.changes backend.growth),
    hasCounted, fun changesNone => ?_, fun changesRows =>
      ⟨command, bound, code, state, prepared, runs, continues.config ▸ accepts, ?_⟩⟩
  · exact (laws.runs_changes awaits.valid awaits.inUse awaits.isReset
      (awaits.counts.trans changesNone) runs).trans awaits.changes
  · rintro rfl
    obtain ⟨owner, isOpened, isOwner⟩ := awaits.isUsed
    obtain rfl : owner = database := Lifecycle.opened.inj (isOpened.symm.trans awaits.isOpened)
    exact laws.done_changes awaits.valid isOwner awaits.isReset (awaits.counts.trans changesRows) runs

theorem Counts.of_opens {opened : Link σ} {before after : Nat}
    (counts : laws.Counts sql values opened last before after)
    (opens : Connection.ensureOpen backend.engine backend.growth link = (.ok (), opened))
    (again : Connection.ensureOpen backend.engine backend.growth opened = (.ok (), opened)) :
    laws.Counts sql values link last before after where
  isBefore := by rw [changes_of_opens opens again, counts.isBefore]
  isAfter := counts.isAfter
  kept := counts.kept
  counted changesRows := by
    have continues := Connection.ensureOpen_advances backend.engine backend.growth link
    rw [opens] at continues
    rw [Query.prepare_of_opens sql values opens again, ← continues.config]
    exact counts.counted changesRows

theorem counts_of_concludes (sits : laws.Sits (.nothing laws.toRewinding) link)
    (concludes : Query.conclude backend sql values link = (.ok (), last)) :
    ∃ before after, laws.Counts sql values link last before after := by
  have opening := sits.ensureOpen backend.growth
  rcases opens : Connection.ensureOpen backend.engine backend.growth link with
    ⟨error | ⟨⟩, opened⟩ <;> rw [opens] at opening
  · cases (conclude_of_unopened sql values opens).symm.trans concludes
  obtain ⟨sits, database, isOpened⟩ := opening
  have again := Connection.ensureOpen_of_opened backend.engine backend.growth isOpened
  rw [conclude_of_opens sql values opens again] at concludes
  obtain ⟨after, counts⟩ := counts_of_opened sits isOpened concludes
  exact ⟨_, after, counts.of_opens opens again⟩

/-! ## Reports -/

/-- Results of statements that are executed one after the other. Each reports the count as its own
statement leaves it. -/
inductive Tallies (laws : Counting backend.engine) :
    List (Text × List Json) → Link σ → Nat → List WriteResult → Link σ → Nat → Prop
  | nil {link : Link σ} {count : Nat} : Tallies laws [] link count [] link count
  | cons {sql : Text} {values : List Json} {rest : List (Text × List Json)}
      {link between last : Link σ} {before after final : Nat} {result : WriteResult}
      {results : List WriteResult} :
      laws.Counts sql values link between before after →
        result.rowsAffected = after.toUInt64 →
          Tallies laws rest between after results last final →
            Tallies laws ((sql, values) :: rest) link before (result :: results) last final

theorem execute_counts {result : WriteResult} (sits : laws.Sits (.nothing laws.toRewinding) link)
    (executes : Query.execute backend sql values link = (.ok result, last)) :
    ∃ before after, laws.Counts sql values link last before after ∧
      result.rowsAffected = after.toUInt64 := by
  rw [execute_eq_conclude, Call.bind_apply] at executes
  rcases concludes : conclude backend sql values link with ⟨error | ⟨⟩, between⟩ <;>
    rw [concludes] at executes
  · cases executes
  obtain ⟨before, after, counts⟩ := counts_of_concludes sits concludes
  obtain ⟨rowid, counters⟩ := counts.isAfter.counters
  cases counters.symm.trans executes
  exact ⟨before, after, counts, rfl⟩

theorem executes_tallies {statements : List (Text × List Json)} {results : List WriteResult}
    (executes : Executes backend statements link results last)
    (sits : laws.Sits (.nothing laws.toRewinding) link)
    (hasCounted : HasCounted backend.engine count link) :
    laws.Sits (.nothing laws.toRewinding) last ∧
      ∃ final, laws.Tallies statements link count results last final ∧
        HasCounted backend.engine final last := by
  induction executes generalizing count with
  | nil => exact ⟨sits, count, .nil, hasCounted⟩
  | @cons sql values _ _ _ _ _ _ executed _ induction =>
      obtain ⟨before, after, counts, reports⟩ := execute_counts sits executed
      obtain rfl : before = count := Except.ok.inj
        (counts.isBefore.symm.trans (congrArg Prod.fst (hasCounted.changes backend.growth)))
      have sitsAfter := sits.execute sql values
      rw [executed] at sitsAfter
      obtain ⟨sits, final, tallies, hasCounted⟩ := induction sitsAfter counts.isAfter
      exact ⟨sits, final, .cons counts reports tallies, hasCounted⟩

theorem executeTransaction_tallies {statements : List (Text × List Json)}
    {results : List WriteResult} (sits : laws.Sits (.nothing laws.toRewinding) link)
    (isOk : Query.executeTransaction backend statements link = (.ok results, last)) :
    ∃ before after begun ended,
      (Connection.changes backend.engine backend.growth link).1 = .ok before ∧
        Query.control backend "BEGIN IMMEDIATE" link = (.ok (), begun) ∧
          laws.Tallies statements begun before results ended after ∧
            HasCounted backend.engine after last := by
  have transacts := @executeTransaction_transacts _ backend statements link
  rw [isOk] at transacts
  obtain ⟨begun, ended, begins, executes, commits⟩ := transacts.of_ok
  have sitsBegun := sits.control "BEGIN IMMEDIATE"
  rw [begins] at sitsBegun
  obtain ⟨before, again, countsBegin⟩ := counts_of_concludes sits (control_eq backend _ ▸ begins)
  obtain rfl := countsBegin.kept laws.begin_changesNone
  obtain ⟨sitsEnded, after, tallies, hasCounted⟩ :=
    executes_tallies executes sitsBegun countsBegin.isAfter
  obtain ⟨count, last, counts⟩ := counts_of_concludes sitsEnded (control_eq backend _ ▸ commits)
  obtain rfl := counts.kept laws.commit_changesNone
  obtain rfl := Except.ok.inj
    (counts.isBefore.symm.trans (congrArg Prod.fst (hasCounted.changes backend.growth)))
  exact ⟨_, _, begun, ended, countsBegin.isBefore, begins, tallies, counts.isAfter⟩

theorem Tallies.leftOver {statements : List (Text × List Json)} {results : List WriteResult}
    {before after : Nat} (tallies : laws.Tallies statements link before results last after)
    (changeNone : ∀ statement ∈ statements, laws.changesRows statement.1 = false) :
    ∀ result ∈ results, result.rowsAffected = before.toUInt64 := by
  induction tallies with
  | nil => exact nofun
  | cons counts reports _ induction =>
      obtain rfl := counts.kept (changeNone _ List.mem_cons_self)
      intro result isResult
      rcases List.mem_cons.mp isResult with rfl | isLater
      · exact reports
      · exact induction (fun statement isRest =>
          changeNone statement (List.mem_cons_of_mem _ isRest)) result isLater

end Counting

end EmbeddedSql
