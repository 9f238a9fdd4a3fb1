import EmbeddedSql.Proofs.Connection.Rewinding
import EmbeddedSql.Proofs.Query.Transactions
import EmbeddedSql.Proofs.Storage.Transactions
import EmbeddedSql.Query.Transaction

/-! Statements that take effect together or not at all. -/

namespace EmbeddedSql

open Query

variable {σ C : Type} {backend : Backend σ}

/-! ## What is executed -/

namespace Query

/-- Statements are executed one after the other, each with a result. -/
inductive Executes (backend : Backend σ) :
    List (Text × List Json) → Link σ → List WriteResult → Link σ → Prop
  | nil {link : Link σ} : Executes backend [] link [] link
  | cons {sql : Text} {values : List Json} {rest : List (Text × List Json)} {link between last : Link σ}
      {result : WriteResult} {results : List WriteResult} :
      execute backend sql values link = (.ok result, between) →
        Executes backend rest between results last →
          Executes backend ((sql, values) :: rest) link (result :: results) last

/-- The first statement that fails is the last that is executed. -/
inductive Fails (backend : Backend σ) :
    List (Text × List Json) → Link σ → Error → Link σ → Prop
  | first {sql : Text} {values : List Json} {rest : List (Text × List Json)} {link failed : Link σ}
      {error : Error} :
      execute backend sql values link = (.error error, failed) →
        Fails backend ((sql, values) :: rest) link error failed
  | later {sql : Text} {values : List Json} {rest : List (Text × List Json)}
      {link between failed : Link σ} {result : WriteResult} {error : Error} :
      execute backend sql values link = (.ok result, between) →
        Fails backend rest between error failed →
          Fails backend ((sql, values) :: rest) link error failed

variable {statements : List (Text × List Json)} {link last : Link σ} {results : List WriteResult}

theorem Executes.length_eq (executes : Executes backend statements link results last) :
    results.length = statements.length := by
  induction executes with
  | nil => rfl
  | cons _ _ induction => exact congrArg (· + 1) induction

theorem executeEach_cases (statements : List (Text × List Json)) (link : Link σ) :
    (∃ results last, executeEach backend statements link = (.ok results, last) ∧
        Executes backend statements link results last) ∨
      ∃ error failed, executeEach backend statements link = (.error error, failed) ∧
        Fails backend statements link error failed := by
  induction statements generalizing link with
  | nil => exact .inl ⟨[], link, rfl, .nil⟩
  | cons statement rest induction =>
      obtain ⟨sql, values⟩ := statement
      unfold executeEach
      rcases executed : execute backend sql values link with ⟨error | result, between⟩
      · refine .inr ⟨error, between, ?_, .first executed⟩
        exact Call.bind_of_error _ executed
      · rw [Call.bind_of_ok _ executed]
        rcases induction between with ⟨results, last, isOk, executes⟩ | ⟨error, failed, isError, fails⟩
        · refine .inl ⟨result :: results, last, ?_, .cons executed executes⟩
          exact Call.bind_of_ok _ isOk
        · refine .inr ⟨error, failed, ?_, .later executed fails⟩
          exact Call.bind_of_error _ isError

/-- The ways in which a call for several statements comes to its end. -/
inductive Transacts (backend : Backend σ) (statements : List (Text × List Json)) (link : Link σ) :
    Except Error (List WriteResult) × Link σ → Prop
  /-- Nothing has been issued but the statement that was to begin the transaction. -/
  | refused {error : Error} {last : Link σ} :
      control backend "BEGIN IMMEDIATE" link = (.error error, last) →
        Transacts backend statements link (.error error, last)
  | finished {begun ended last : Link σ} {results : List WriteResult} :
      control backend "BEGIN IMMEDIATE" link = (.ok (), begun) →
        Executes backend statements begun results ended →
          control backend "COMMIT" ended = (.ok (), last) →
            Transacts backend statements link (.ok results, last)
  | broken {begun failed : Link σ} {error : Error} :
      control backend "BEGIN IMMEDIATE" link = (.ok (), begun) →
        Fails backend statements begun error failed →
          Transacts backend statements link (rollback backend error failed)
  | unfinished {begun ended failed : Link σ} {results : List WriteResult} {error : Error} :
      control backend "BEGIN IMMEDIATE" link = (.ok (), begun) →
        Executes backend statements begun results ended →
          control backend "COMMIT" ended = (.error error, failed) →
            Transacts backend statements link (rollback backend error failed)

theorem executeTransaction_transacts (statements : List (Text × List Json)) (link : Link σ) :
    Transacts backend statements link (executeTransaction backend statements link) := by
  unfold executeTransaction
  rcases begins : control backend "BEGIN IMMEDIATE" link with ⟨error | ⟨⟩, begun⟩
  · rw [Call.bind_of_error _ begins]
    exact .refused begins
  rw [Call.bind_of_ok _ begins, Call.tryCatch_apply]
  rcases @executeEach_cases _ backend statements begun with
    ⟨results, ended, isOk, executes⟩ | ⟨error, failed, isError, fails⟩
  · rw [Call.bind_of_ok _ isOk]
    rcases commits : control backend "COMMIT" ended with ⟨error | ⟨⟩, last⟩
    · rw [Call.bind_of_error _ commits]
      exact .unfinished begins executes commits
    · rw [Call.bind_of_ok _ commits]
      exact .finished begins executes commits
  · rw [Call.bind_of_error _ isError]
    exact .broken begins fails

/-- Whatever the statement that undoes a transaction comes to, it is the last one, and the
call has failed. -/
theorem rollback_eq (error : Error) (link : Link σ) :
    ∃ shown, rollback backend error link = (.error shown, (control backend "ROLLBACK" link).2) := by
  unfold rollback
  rcases control backend "ROLLBACK" link with ⟨failure | ⟨⟩, last⟩
  · exact ⟨_, rfl⟩
  · exact ⟨_, rfl⟩

end Query

/-! ## What becomes of the database -/

namespace Transactions

variable {laws : Transactions backend.engine C} {position : Position C} {link last : Link σ}
  {statements : List (Text × List Json)}

section
variable {α : Type} {sql : Text} {values : List Json} {result : Except Query.Error α}

theorem Issues.placed (issues : laws.Issues position sql values link (result, last)) :
    ∃ standing, laws.Placed (position.reaching standing) last := by
  cases issues with
  | refused _ _ placed => exact ⟨_, placed⟩
  | ran _ _ _ placed _ => exact ⟨_, placed⟩

theorem Issues.ran_of_ok {answer : α}
    (issues : laws.Issues position sql values link (.ok answer, last)) :
    ∃ code compiled standing, EndsWith backend sql values link code ∧
      position.connection.config.Accepts code ∧
        laws.Compiles sql position.standing compiled ∧
          compiled.Runs (laws.kind sql) code standing ∧
            laws.Placed (position.reaching standing) last := by
  cases issues with
  | ran endsWith compiles runs placed answers =>
      exact ⟨_, _, _, endsWith, answers.mp rfl, compiles, runs, placed⟩

end

theorem Placed.executes (placed : laws.Placed position link) {results : List WriteResult}
    (executes : Executes backend statements link results last) :
    ∃ standing, laws.Placed (position.reaching standing) last := by
  induction executes generalizing position with
  | nil => exact ⟨position.standing, placed⟩
  | @cons sql values _ _ _ _ _ _ executed _ induction =>
      have issues := placed.execute sql values
      rw [executed] at issues
      obtain ⟨_, between⟩ := issues.placed
      obtain ⟨standing, placed⟩ := induction between
      exact ⟨standing, placed⟩

theorem Placed.fails (placed : laws.Placed position link) {error : Query.Error}
    (fails : Fails backend statements link error last) :
    ∃ standing, laws.Placed (position.reaching standing) last := by
  induction fails generalizing position with
  | @first sql values _ _ _ _ executed =>
      have issues := placed.execute sql values
      rw [executed] at issues
      exact issues.placed
  | @later sql values _ _ _ _ _ _ executed _ induction =>
      have issues := placed.execute sql values
      rw [executed] at issues
      obtain ⟨_, between⟩ := issues.placed
      obtain ⟨standing, placed⟩ := induction between
      exact ⟨standing, placed⟩

theorem Placed.reached {standing : Standing C}
    (placed : laws.Placed (position.reaching standing) link) :
    laws.standing link.engine position.database = standing :=
  placed.standing

/-- Undoing leads out of every transaction, and loses all that is not committed unless
there has been none. -/
theorem Placed.undo (placed : laws.Placed position link) :
    ∃ standing, laws.Placed (position.reaching standing) (Query.control backend "ROLLBACK" link).2 ∧
      standing.isExplicit = false ∧
        (standing = position.standing.undone ∨
          position.standing.isExplicit = false ∧ standing = position.standing) := by
  obtain ⟨code, standing, -, runs, placed, -⟩ := placed.rollback
  refine ⟨standing, placed, ?_⟩
  rcases runs.steps nofun nofun with ⟨-, -, rfl⟩ | ⟨-, isOutside, rfl | rfl⟩
  · exact ⟨rfl, .inl rfl⟩
  · exact ⟨isOutside, .inr ⟨isOutside, rfl⟩⟩
  · exact ⟨rfl, .inl rfl⟩

/-! ## Strict connections -/

theorem Placed.begins_error (placed : laws.Placed position link) {error : Query.Error}
    (begins : Query.control backend "BEGIN IMMEDIATE" link = (.error error, last)) :
    ∃ standing, laws.Placed (position.reaching standing) last ∧
      (standing = position.standing ∨
        position.standing.isExplicit = false ∧ standing = position.standing.undone) := by
  have issues := placed.control "BEGIN IMMEDIATE"
  rw [begins] at issues
  cases issues with
  | refused _ compiles placed =>
      rw [compiles.of_control (by simp [laws.kind_begin])] at placed
      exact ⟨position.standing, placed, .inl rfl⟩
  | ran _ compiles runs placed answers =>
      rw [laws.kind_begin, compiles.of_control (by simp [laws.kind_begin])] at runs
      refine ⟨_, placed, ?_⟩
      rcases runs.steps nofun nofun with ⟨isDone, -⟩ | ⟨-, -, same⟩
      · cases answers.mpr (.inl isDone)
      · exact same

theorem Placed.commits_error (placed : laws.Placed position link) {error : Query.Error}
    (commits : Query.control backend "COMMIT" link = (.error error, last)) :
    ∃ standing, laws.Placed (position.reaching standing) last ∧
      (standing = position.standing ∨ standing = position.standing.undone) := by
  have issues := placed.control "COMMIT"
  rw [commits] at issues
  cases issues with
  | refused _ compiles placed =>
      rw [compiles.of_control (by simp [laws.kind_commit])] at placed
      exact ⟨position.standing, placed, .inl rfl⟩
  | ran _ compiles runs placed answers =>
      rw [laws.kind_commit, compiles.of_control (by simp [laws.kind_commit])] at runs
      refine ⟨_, placed, ?_⟩
      rcases runs.steps nofun nofun with ⟨isDone, -⟩ | ⟨-, -, same, -⟩
      · cases answers.mpr (.inl isDone)
      · exact same

section
variable (placed : laws.Placed position link)
  (isStrict : position.connection.config.lenientStepStatus = false)
include placed isStrict

theorem Placed.begins
    (begins : Query.control backend "BEGIN IMMEDIATE" link = (.ok (), last)) :
    position.standing.isExplicit = false ∧
      laws.Placed (position.reaching position.standing.begun) last := by
  have issues := placed.control "BEGIN IMMEDIATE"
  rw [begins] at issues
  obtain ⟨code, _, standing, -, accepts, compiles, runs, placed⟩ := issues.ran_of_ok
  rw [laws.kind_begin, compiles.of_control (by simp [laws.kind_begin])] at runs
  rcases runs.steps nofun nofun with ⟨-, isOutside, rfl⟩ | ⟨isNotDone, -⟩
  · exact ⟨isOutside, placed⟩
  · exact absurd (accepts.isDone isStrict) isNotDone

theorem Placed.commits
    (commits : Query.control backend "COMMIT" link = (.ok (), last)) :
    laws.Placed (position.reaching position.standing.kept) last := by
  have issues := placed.control "COMMIT"
  rw [commits] at issues
  obtain ⟨code, _, standing, -, accepts, compiles, runs, placed⟩ := issues.ran_of_ok
  rw [laws.kind_commit, compiles.of_control (by simp [laws.kind_commit])] at runs
  rcases runs.steps nofun nofun with ⟨-, -, rfl⟩ | ⟨isNotDone, -⟩
  · exact placed
  · exact absurd (accepts.isDone isStrict) isNotDone

variable {before : Standing C} (isWithin : position.standing.IsWithin before)
include isWithin

theorem Placed.executeWithin {sql : Text} {values : List Json} {result : WriteResult}
    (isOrdinary : laws.kind sql = .ordinary)
    (executed : Query.execute backend sql values link = (.ok result, last)) :
    ∃ standing, laws.Placed (position.reaching standing) last ∧ standing.IsWithin before := by
  have issues := placed.execute sql values
  rw [executed] at issues
  obtain ⟨code, _, standing, -, accepts, compiles, runs, placed⟩ := issues.ran_of_ok
  rw [isOrdinary, compiles.of_explicit isWithin.1] at runs
  rcases runs.inTransaction isWithin.1 with stays | ⟨isNotDone, -⟩
  · exact ⟨standing, placed, stays.1, stays.2.trans isWithin.2⟩
  · exact absurd (accepts.isDone isStrict) isNotDone

theorem Placed.executesWithin
    (areOrdinary : ∀ statement ∈ statements, laws.kind statement.1 = .ordinary)
    {results : List WriteResult} (executes : Executes backend statements link results last) :
    ∃ standing, laws.Placed (position.reaching standing) last ∧ standing.IsWithin before := by
  induction executes generalizing position with
  | nil => exact ⟨position.standing, placed, isWithin⟩
  | cons executed _ induction =>
      obtain ⟨between, placed, isBetween⟩ := placed.executeWithin isStrict isWithin
        (areOrdinary _ List.mem_cons_self) executed
      have areRestOrdinary := fun statement isLater =>
        areOrdinary statement (List.mem_cons_of_mem _ isLater)
      obtain ⟨standing, placed, isLast⟩ := induction placed isStrict isBetween areRestOrdinary
      exact ⟨standing, placed, isLast⟩

theorem Placed.failsWithin
    (areOrdinary : ∀ statement ∈ statements, laws.kind statement.1 = .ordinary)
    {error : Query.Error} (fails : Fails backend statements link error last) :
    ∃ standing, laws.Placed (position.reaching standing) last ∧
      (standing.IsWithin before ∨ standing = before.undone) := by
  induction fails generalizing position with
  | @first sql values _ _ _ _ executed =>
      have issues := placed.execute sql values
      rw [executed] at issues
      cases issues with
      | refused _ compiles placed =>
          rw [compiles.of_explicit isWithin.1] at placed
          exact ⟨position.standing, placed, .inl isWithin⟩
      | ran _ compiles runs placed _ =>
          rw [areOrdinary _ List.mem_cons_self, compiles.of_explicit isWithin.1] at runs
          refine ⟨_, placed, ?_⟩
          rcases runs.inTransaction isWithin.1 with stays | ⟨-, isUndone⟩
          · exact .inl ⟨stays.1, stays.2.trans isWithin.2⟩
          · exact .inr (isUndone.trans isWithin.undone_eq)
  | later executed _ induction =>
      obtain ⟨between, placed, isBetween⟩ := placed.executeWithin isStrict isWithin
        (areOrdinary _ List.mem_cons_self) executed
      have areRestOrdinary := fun statement isLater =>
        areOrdinary statement (List.mem_cons_of_mem _ isLater)
      obtain ⟨standing, placed, isLast⟩ := induction placed isStrict isBetween areRestOrdinary
      exact ⟨standing, placed, isLast⟩

end

/-- Nothing is left of a transaction that is undone, even if the engine has undone it
before. -/
theorem Placed.undoWithin {before : Standing C} (placed : laws.Placed position link)
    (isWithin : position.standing.IsWithin before ∨ position.standing = before.undone) :
    laws.Placed (position.reaching before.undone)
      (Query.control backend "ROLLBACK" link).2 := by
  obtain ⟨standing, undone, -, rfl | ⟨isOutside, rfl⟩⟩ := placed.undo
  · have sameCommitted : position.standing.committed = before.committed := by
      rcases isWithin with isWithin | isUndone
      · exact isWithin.2
      · rw [isUndone, Standing.undone]
    rwa [Standing.undone, sameCommitted] at undone
  · rcases isWithin with isWithin | isUndone
    · cases isOutside.symm.trans isWithin.1
    · rwa [isUndone] at undone

/-! ## All or nothing -/

/-- Either all statements have taken effect, in their order, or none has. -/
structure AllOrNothing (laws : Transactions backend.engine C) (database : DatabaseHandle)
    (statements : List (Text × List Json)) (link : Link σ)
    (outcome : Except Query.Error (List WriteResult) × Link σ) : Prop where
  /-- Each statement is issued after the ones before it, and none after one that fails. -/
  transacts : Transacts backend statements link outcome
  all : ∀ {results last}, outcome = (.ok results, last) →
    results.length = statements.length ∧ ∃ begun ended,
    Query.control backend "BEGIN IMMEDIATE" link = (.ok (), begun) ∧
      Executes backend statements begun results ended ∧
        Query.control backend "COMMIT" ended = (.ok (), last) ∧
          laws.standing last.engine database = (laws.standing ended.engine database).kept
  /-- Changes that were not committed before the call may be lost with the transaction. -/
  nothing : ∀ {error last}, outcome = (.error error, last) →
    laws.standing last.engine database = laws.standing link.engine database ∨
      laws.standing last.engine database = (laws.standing link.engine database).undone
  untouched : ∀ {error last}, outcome = (.error error, last) →
    (laws.standing link.engine database).content =
        (laws.standing link.engine database).committed →
      laws.standing last.engine database = laws.standing link.engine database

theorem AllOrNothing.ofError {database : DatabaseHandle} {error : Query.Error} {last : Link σ}
    (transacts : Transacts backend statements link (.error error, last))
    (isOutside : (laws.standing link.engine database).isExplicit = false)
    (undone : laws.standing last.engine database = laws.standing link.engine database ∨
      laws.standing last.engine database = (laws.standing link.engine database).undone) :
    laws.AllOrNothing database statements link (.error error, last) where
  transacts := transacts
  all := nofun
  nothing := by
    rintro _ _ ⟨⟩
    exact undone
  untouched := by
    rintro _ _ ⟨⟩ isCommitted
    rw [Standing.undone_eq isOutside isCommitted] at undone
    exact undone.elim id id

theorem Placed.transacts (placed : laws.Placed position link)
    (isStrict : position.connection.config.lenientStepStatus = false)
    (isOutside : position.standing.isExplicit = false)
    {outcome : Except Query.Error (List WriteResult) × Link σ}
    (transacts : Transacts backend statements link outcome) :
    ∃ standing, laws.Placed (position.reaching standing) outcome.2 ∧ standing.isExplicit = false ∧
      ((∀ statement ∈ statements, laws.kind statement.1 = .ordinary) →
        laws.AllOrNothing position.database statements link outcome) := by
  have before : laws.standing link.engine position.database = position.standing := placed.standing
  have isBegun : position.standing.begun.IsWithin position.standing := ⟨rfl, rfl⟩
  have comes := transacts
  cases transacts with
  | refused begins =>
      obtain ⟨standing, after, isStanding⟩ := placed.begins_error begins
      refine ⟨standing, after, ?_, fun _ => .ofError comes (before ▸ isOutside) ?_⟩
      · rcases isStanding with rfl | ⟨-, rfl⟩
        · exact isOutside
        · rfl
      · rw [before, after.reached]
        exact isStanding.imp id And.right
  | @finished begun ended last results begins executes commits =>
      obtain ⟨-, inside⟩ := placed.begins isStrict begins
      obtain ⟨standing, atEnd⟩ := inside.executes executes
      have after := atEnd.commits isStrict commits
      refine ⟨_, after, rfl, fun _ => ⟨comes, ?_, nofun, nofun⟩⟩
      rintro _ _ ⟨⟩
      refine ⟨executes.length_eq, begun, ended, begins, executes, commits, ?_⟩
      exact after.reached.trans (congrArg Standing.kept atEnd.reached.symm)
  | @broken begun failed error begins fails =>
      obtain ⟨-, inside⟩ := placed.begins isStrict begins
      obtain ⟨shown, rollsBack⟩ := rollback_eq error failed
      obtain ⟨standing, atFailure⟩ := inside.fails fails
      obtain ⟨last, after, isOutsideAgain, -⟩ := atFailure.undo
      rw [rollsBack] at comes ⊢
      refine ⟨last, after, isOutsideAgain,
        fun areOrdinary => .ofError comes (before ▸ isOutside) ?_⟩
      obtain ⟨standing, atFailure, isWithin⟩ :=
        inside.failsWithin isStrict isBegun areOrdinary fails
      have undone := atFailure.undoWithin isWithin
      rw [before]
      exact .inr undone.standing
  | @unfinished begun ended failed results error begins executes commits =>
      obtain ⟨-, inside⟩ := placed.begins isStrict begins
      obtain ⟨shown, rollsBack⟩ := rollback_eq error failed
      obtain ⟨standing, atEnd⟩ := inside.executes executes
      obtain ⟨standing, atFailure, -⟩ := atEnd.commits_error commits
      obtain ⟨last, after, isOutsideAgain, -⟩ := atFailure.undo
      rw [rollsBack] at comes ⊢
      refine ⟨last, after, isOutsideAgain,
        fun areOrdinary => .ofError comes (before ▸ isOutside) ?_⟩
      obtain ⟨standing, atEnd, isWithin⟩ :=
        inside.executesWithin isStrict isBegun areOrdinary executes
      obtain ⟨standing, atFailure, same⟩ := atEnd.commits_error commits
      have undone := atFailure.undoWithin
        (same.imp (· ▸ isWithin) fun isUndone => isUndone.trans isWithin.undone_eq)
      rw [before]
      exact .inr undone.standing

theorem Placed.transacts_inside (placed : laws.Placed position link)
    (isStrict : position.connection.config.lenientStepStatus = false)
    (isExplicit : position.standing.isExplicit = true)
    {outcome : Except Query.Error (List WriteResult) × Link σ}
    (transacts : Transacts backend statements link outcome) :
    ∃ standing, laws.Placed (position.reaching standing) outcome.2 ∧ standing = position.standing ∧
      ∃ error, Query.control backend "BEGIN IMMEDIATE" link = (.error error, outcome.2) ∧
        outcome.1 = .error error := by
  have isInside {begun : Link σ}
      (begins : Query.control backend "BEGIN IMMEDIATE" link = (.ok (), begun)) : False := by
    cases (placed.begins isStrict begins).1.symm.trans isExplicit
  cases transacts with
  | refused begins =>
      obtain ⟨standing, after, same | ⟨isOutside, -⟩⟩ := placed.begins_error begins
      · exact ⟨standing, after, same, _, begins, rfl⟩
      · cases isOutside.symm.trans isExplicit
  | finished begins => exact (isInside begins).elim
  | broken begins => exact (isInside begins).elim
  | unfinished begins => exact (isInside begins).elim

end Transactions

/-! ## Main result -/

section
variable {link opened : Link σ}

/-- A call for several statements begins by opening the database. -/
theorem executeTransaction_of_opens
    (opens : Connection.ensureOpen backend.engine backend.growth link = (.ok (), opened))
    (again : Connection.ensureOpen backend.engine backend.growth opened = (.ok (), opened))
    (statements : List (Text × List Json)) :
    Query.executeTransaction backend statements link =
      Query.executeTransaction backend statements opened := by
  have begins : Query.control backend "BEGIN IMMEDIATE" link =
      Query.control backend "BEGIN IMMEDIATE" opened := by
    rw [Query.control_eq, Call.bind_apply, Call.bind_apply, Query.prepare_of_opens _ _ opens again]
  unfold Query.executeTransaction
  rw [Call.bind_apply, Call.bind_apply, begins]

theorem executeTransaction_of_unopened {error : EmbeddedSql.Error} {failed : Link σ}
    (fails : Connection.ensureOpen backend.engine backend.growth link = (.error error, failed))
    (statements : List (Text × List Json)) :
    Query.executeTransaction backend statements link = (.error (.connection error), failed) := by
  have begins : Query.control backend "BEGIN IMMEDIATE" link =
      (.error (.connection error), failed) := by
    rw [Query.control_eq]
    exact Call.bind_of_error _ (Query.prepare_of_unopened _ _ fails)
  exact Call.bind_of_error _ begins

end

/-- Where no transaction is open, none is open afterwards, and ordinary statements take
effect together or not at all. Where one is open, it stays as it is. -/
theorem executeTransaction_atomic (laws : Transactions backend.engine C) {link : Link σ}
    (valid : laws.Valid link.engine)
    (isOpen : ∀ {database}, link.connection.lifecycle = .opened database →
      (laws.handles link.engine).isOpen database = true)
    (isStrict : link.connection.config.lenientStepStatus = false)
    (statements : List (Text × List Json)) :
    match Connection.ensureOpen backend.engine backend.growth link with
    | (.error error, failed) =>
        Query.executeTransaction backend statements link = (.error (.connection error), failed)
    | (.ok (), opened) => ∃ database, opened.connection.lifecycle = .opened database ∧
        let outcome := Query.executeTransaction backend statements link
        let before := laws.standing opened.engine database
        let after := laws.standing outcome.2.engine database
        (link.connection.lifecycle = .unopened → before.isExplicit = false) ∧
          outcome.2.connection = opened.connection ∧
            (before.isExplicit = true → after = before ∧ ∃ error,
              Query.control backend "BEGIN IMMEDIATE" opened = (.error error, outcome.2) ∧
                outcome.1 = .error error) ∧
              (before.isExplicit = false → after.isExplicit = false ∧
                ((∀ statement ∈ statements, laws.kind statement.1 = .ordinary) →
                  laws.AllOrNothing database statements opened outcome)) := by
  have opens := Transactions.ensureOpen_placed backend.growth valid isOpen
  rcases isOpened : Connection.ensureOpen backend.engine backend.growth link with
    ⟨error | ⟨⟩, opened⟩ <;> rw [isOpened] at opens
  · exact executeTransaction_of_unopened isOpened statements
  obtain ⟨position, placed, sameConfig, isOutside⟩ := opens
  dsimp only
  rw [← sameConfig] at isStrict
  rw [executeTransaction_of_opens isOpened (placed.ensureOpen backend.growth) statements,
    placed.connection]
  have transacts := @executeTransaction_transacts _ backend statements opened
  refine ⟨position.database, placed.isOpened, ?_⟩
  rw [show laws.standing opened.engine position.database = position.standing from placed.standing]
  refine ⟨isOutside, ?_⟩
  cases isExplicit : position.standing.isExplicit with
  | false =>
      obtain ⟨standing, after, isOutsideAgain, isAtomic⟩ :=
        placed.transacts isStrict isExplicit transacts
      refine ⟨after.connection, fun isInside => ?_, fun _ => ⟨after.reached ▸ isOutsideAgain, isAtomic⟩⟩
      cases isInside
  | true =>
      obtain ⟨standing, after, same, refused⟩ := placed.transacts_inside isStrict isExplicit transacts
      refine ⟨after.connection, fun _ => ⟨after.reached.trans same, refused⟩, fun isOutside => ?_⟩
      cases isOutside

def brokenAtLast : List (Text × List Json) :=
  [(.ofString "CREATE TABLE t(a INTEGER PRIMARY KEY)", []),
    (.ofString "INSERT INTO t VALUES(?1)", [.integer 1]),
    (.ofString "INSERT INTO t VALUES(?1)", [.integer 1])]

theorem brokenAtLast_areOrdinary : ∀ statement ∈ brokenAtLast,
    Storage.transactions.kind statement.1 = .ordinary := by
  decide +kernel

theorem executeTransaction_atomic_broken :
    let link : Link Storage.Store := ⟨{}, {}, {}⟩
    let opened := (Connection.ensureOpen Storage.backend.engine Storage.backend.growth link).2
    let outcome := Query.executeTransaction Storage.backend brokenAtLast link
    (∃ error, outcome.1 = .error error ∧ error.code = "SQLITE_19") ∧
      Storage.transactions.AllOrNothing ⟨0⟩ brokenAtLast opened outcome ∧
        Storage.transactions.standing outcome.2.engine ⟨0⟩ =
          Storage.transactions.standing opened.engine ⟨0⟩ := by
  intro link opened outcome
  have valid : Storage.transactions.Valid link.engine := Storage.custody_empty.1
  have isStrict : link.connection.config.lenientStepStatus = false := rfl
  have atomic := executeTransaction_atomic Storage.transactions valid nofun isStrict brokenAtLast
  have isOpened : (Connection.ensureOpen Storage.backend.engine Storage.backend.growth
      link).1.toOption = some () := by
    decide +kernel
  have isDatabase : opened.connection.lifecycle = .opened ⟨0⟩ := by
    decide +kernel
  have isClean : opened.engine.IsClean ⟨0⟩ := Storage.Store.isClean_of_all (by decide +kernel)
  have fails : (match outcome.1 with
      | .error error => error.code
      | .ok _ => "") = "SQLITE_19" := by
    decide +kernel
  rcases opens : Connection.ensureOpen Storage.backend.engine Storage.backend.growth link with
    ⟨error | ⟨⟩, reached⟩ <;> rw [opens] at isOpened atomic
  · cases isOpened
  obtain rfl : opened = reached := congrArg Prod.snd opens
  obtain ⟨database, isOther, isOutside, -, -, whole⟩ := atomic
  obtain rfl : (⟨0⟩ : DatabaseHandle) = database :=
    Lifecycle.opened.inj (isDatabase.symm.trans isOther)
  have isAtomic := (whole (isOutside rfl)).2 brokenAtLast_areOrdinary
  cases isAnswer : outcome.1 with
  | ok results =>
      rw [isAnswer] at fails
      exact absurd fails (show "" ≠ "SQLITE_19" by decide)
  | error error =>
      rw [isAnswer] at fails
      have isOutcome : outcome = (.error error, outcome.2) := Prod.ext isAnswer rfl
      exact ⟨⟨error, rfl, fails⟩, isAtomic, isAtomic.untouched isOutcome isClean.content_eq⟩

end EmbeddedSql
