import EmbeddedSql.Proofs.Query.Atomicity

/-! What it means that statements are executed with success by a connection that may hide
failures: the transaction was begun and was still open when it was to be committed. -/

namespace EmbeddedSql

open Query

variable {σ C : Type} {backend : Backend σ}

/-! ## Statements and the codes that they end with -/

/-- Each statement ends with a code of some kind before the next one is run. -/
def Query.EachEnds (backend : Backend σ) (Passes : Int → Prop) :
    List (Text × List Json) → Link σ → Prop
  | [], _ => True
  | (sql, values) :: rest, link =>
      (∃ code, EndsWith backend sql values link code ∧ Passes code) ∧
        EachEnds backend Passes rest (execute backend sql values link).2

namespace Standing

variable {before after origin : Standing C} {code : Int}

theorem Runs.outside (runs : Runs .ordinary before code after)
    (isOutside : before.isExplicit = false) : after.isExplicit = false := by
  have stays {before after : Standing C} {code : Int}
      (steps : before.Steps code after .ordinary) (isOutside : before.isExplicit = false) :
      after.isExplicit = false := by
    rcases steps with proceeds | ⟨isExplicit, -⟩
    · rwa [Proceeds, if_neg (by simp [isOutside])] at proceeds
    · cases isOutside.symm.trans isExplicit
  generalize isOrdinary : StatementKind.ordinary = kind at runs
  induction runs with
  | last _ steps =>
      subst isOrdinary
      exact stays steps isOutside
  | more first _ induction =>
      subst isOrdinary
      exact induction (stays first isOutside) rfl

/-- A transaction goes on until it is undone, and then there is none. -/
def Lasts (origin standing : Standing C) : Prop :=
  standing.IsWithin origin ∨ standing.isExplicit = false

theorem Lasts.run (lasts : origin.Lasts before) (runs : Runs .ordinary before code after) :
    origin.Lasts after := by
  rcases lasts with isWithin | isOutside
  · rcases runs.inTransaction isWithin.1 with stays | ⟨-, rfl⟩
    · exact .inl ⟨stays.1, stays.2.trans isWithin.2⟩
    · exact .inr rfl
  · exact .inr (runs.outside isOutside)

end Standing

namespace Transactions

variable {laws : Transactions backend.engine C} {position : Position C} {link last : Link σ}
  {statements : List (Text × List Json)}

theorem Compiles.lasts {sql : Text} {origin before compiled : Standing C}
    (lasts : origin.Lasts before) (compiles : laws.Compiles sql before compiled) :
    origin.Lasts compiled := by
  rcases lasts with isWithin | isOutside
  · rw [compiles.of_explicit isWithin.1]
    exact .inl isWithin
  · exact .inr (compiles.outside isOutside)

theorem Placed.executesKeeping {Keeps : Standing C → Prop}
    (keepsCompiled : ∀ {sql : Text} {before compiled : Standing C}, Keeps before →
      laws.Compiles sql before compiled → Keeps compiled)
    (keeps : ∀ {before after : Standing C} {code : Int}, Keeps before →
      before.Runs .ordinary code after → Keeps after)
    (placed : laws.Placed position link) (isKept : Keeps position.standing)
    (areOrdinary : ∀ statement ∈ statements, laws.kind statement.1 = .ordinary)
    {results : List WriteResult} (executes : Executes backend statements link results last) :
    EachEnds backend position.connection.config.Accepts statements link ∧
      ∃ standing, laws.Placed (position.reaching standing) last ∧ Keeps standing := by
  induction executes generalizing position with
  | nil => exact ⟨trivial, position.standing, placed, isKept⟩
  | @cons sql values _ _ _ _ _ _ executed _ induction =>
      have issues := placed.execute sql values
      rw [executed] at issues
      obtain ⟨code, compiled, between, endsWith, accepts, compiles, runs, placed⟩ :=
        issues.ran_of_ok
      rw [areOrdinary _ List.mem_cons_self] at runs
      have areRestOrdinary := fun statement isLater =>
        areOrdinary statement (List.mem_cons_of_mem _ isLater)
      have isKept := keeps (keepsCompiled isKept compiles) runs
      obtain ⟨rest, standing, placed, isKept⟩ := induction placed isKept areRestOrdinary
      refine ⟨⟨⟨code, endsWith, accepts⟩, ?_⟩, standing, placed, isKept⟩
      rw [executed]
      exact rest

theorem Placed.commitsAny (placed : laws.Placed position link)
    (commits : Query.control backend "COMMIT" link = (.ok (), last)) :
    position.standing.isExplicit = true ∧ ∃ code standing,
      EndsWith backend (.ofString "COMMIT") [] link code ∧
        position.connection.config.Accepts code ∧
          laws.Placed (position.reaching standing) last ∧
            (code = Status.done → standing = position.standing.kept) := by
  have issues := placed.control "COMMIT"
  rw [commits] at issues
  obtain ⟨code, _, standing, endsWith, accepts, compiles, runs, placed⟩ := issues.ran_of_ok
  rw [laws.kind_commit, compiles.of_control (by simp [laws.kind_commit])] at runs
  rcases runs.steps (by simp) (by simp) with ⟨-, isExplicit, same⟩ | ⟨isNotDone, -, -, isError⟩
  · exact ⟨isExplicit, code, standing, endsWith, accepts, placed, fun _ => same⟩
  · refine ⟨?_, code, standing, endsWith, accepts, placed, fun isDone => absurd isDone isNotDone⟩
    cases isExplicit : position.standing.isExplicit with
    | true => rfl
    | false => exact absurd (isError isExplicit) accepts.ne_error

theorem Placed.beginsAny (placed : laws.Placed position link)
    (isOutside : position.standing.isExplicit = false)
    (begins : Query.control backend "BEGIN IMMEDIATE" link = (.ok (), last)) :
    ∃ code standing, EndsWith backend (.ofString "BEGIN IMMEDIATE") [] link code ∧
      laws.Placed (position.reaching standing) last ∧
        (code = Status.done ∧ standing = position.standing.begun ∨ standing.isExplicit = false) := by
  have issues := placed.control "BEGIN IMMEDIATE"
  rw [begins] at issues
  obtain ⟨code, _, standing, endsWith, -, compiles, runs, placed⟩ := issues.ran_of_ok
  rw [laws.kind_begin, compiles.of_control (by simp [laws.kind_begin])] at runs
  refine ⟨code, standing, endsWith, placed, ?_⟩
  rcases runs.steps (by simp) (by simp) with ⟨isDone, -, same⟩ | ⟨-, -, rfl | ⟨-, rfl⟩⟩
  · exact .inl ⟨isDone, same⟩
  · exact .inr isOutside
  · exact .inr rfl

end Transactions

/-! ## Main result -/

theorem Query.Transacts.of_ok {statements : List (Text × List Json)} {link last : Link σ}
    {results : List WriteResult}
    (transacts : Transacts backend statements link (.ok results, last)) :
    ∃ begun ended, Query.control backend "BEGIN IMMEDIATE" link = (.ok (), begun) ∧
      Executes backend statements begun results ended ∧
        Query.control backend "COMMIT" ended = (.ok (), last) := by
  generalize isOutcome : (Except.ok results, last) = outcome at transacts
  cases transacts with
  | refused _ => cases isOutcome
  | broken _ _ =>
      obtain ⟨shown, rollsBack⟩ := rollback_eq _ _
      cases isOutcome.trans rollsBack
  | unfinished _ _ _ =>
      obtain ⟨shown, rollsBack⟩ := rollback_eq _ _
      cases isOutcome.trans rollsBack
  | finished begins executes commits =>
      cases isOutcome
      exact ⟨_, _, begins, executes, commits⟩

/-- What stands behind the success of a call for several statements. -/
structure Transactions.Committed (laws : Transactions backend.engine C) (config : ConnectionConfig)
    (database : DatabaseHandle) (statements : List (Text × List Json))
    (opened begun ended last : Link σ) : Prop where
  begins : EndsWith backend (.ofString "BEGIN IMMEDIATE") [] opened Status.done
  isBegun : laws.standing begun.engine database = (laws.standing opened.engine database).begun
  /-- Each statement has come to its end, or has failed with a code that is hidden. -/
  ends : EachEnds backend config.Accepts statements begun
  isWithin : (laws.standing ended.engine database).IsWithin (laws.standing opened.engine database)
  commits : ∃ code, EndsWith backend (.ofString "COMMIT") [] ended code ∧ config.Accepts code ∧
    (code = Status.done →
      laws.standing last.engine database = (laws.standing ended.engine database).kept)

theorem Transactions.Placed.committed {laws : Transactions backend.engine C} {position : Position C}
    {statements : List (Text × List Json)} {opened begun ended last : Link σ}
    (placed : laws.Placed position opened) (isOutside : position.standing.isExplicit = false)
    (areOrdinary : ∀ statement ∈ statements, laws.kind statement.1 = .ordinary)
    {results : List WriteResult}
    (begins : Query.control backend "BEGIN IMMEDIATE" opened = (.ok (), begun))
    (executes : Executes backend statements begun results ended)
    (commits : Query.control backend "COMMIT" ended = (.ok (), last)) :
    laws.Committed position.connection.config position.database statements opened begun ended
      last := by
  have before : laws.standing opened.engine position.database = position.standing := placed.standing
  obtain ⟨code, standing, endsBegin, inside, ⟨rfl, rfl⟩ | isOutside⟩ :=
    placed.beginsAny isOutside begins
  · have lasts : position.standing.Lasts position.standing.begun := .inl ⟨rfl, rfl⟩
    obtain ⟨ends, standing, atEnd, isWithin | isOutside⟩ :=
      inside.executesKeeping Compiles.lasts Standing.Lasts.run lasts areOrdinary executes
    · obtain ⟨-, code, standing, endsCommit, accepts, after, isKept⟩ := atEnd.commitsAny commits
      have isLast : laws.standing ended.engine position.database = _ := atEnd.reached
      refine ⟨endsBegin, ?_, ends, ?_, code, endsCommit, accepts, fun isDone => ?_⟩
      · rw [before]
        exact inside.reached
      · rwa [before, isLast]
      · rw [isLast]
        exact after.reached.trans (isKept isDone)
    · have isExplicit := (atEnd.commitsAny commits).1
      cases isOutside.symm.trans isExplicit
  · -- Nothing has been begun, so that there is nothing to commit.
    obtain ⟨-, standing, atEnd, isOutside⟩ :=
      inside.executesKeeping (fun isOutside compiles => compiles.outside isOutside)
        (fun isOutside runs => runs.outside isOutside) isOutside areOrdinary executes
    have isExplicit := (atEnd.commitsAny commits).1
    cases isOutside.symm.trans isExplicit

/-- Even if failures are hidden, success means that the transaction was begun, and that it
was open until the commit. Every statement, and the commit, has come to its end or has
failed with a code that is hidden. If the commit has come to its end, the changes are
permanent and no transaction is open. -/
theorem executeTransaction_committed (laws : Transactions backend.engine C) {link : Link σ}
    (valid : laws.Valid link.engine)
    (isOpen : ∀ {database}, link.connection.lifecycle = .opened database →
      (laws.handles link.engine).isOpen database = true)
    {statements : List (Text × List Json)}
    (areOrdinary : ∀ statement ∈ statements, laws.kind statement.1 = .ordinary)
    {results : List WriteResult} {last : Link σ}
    (isOk : Query.executeTransaction backend statements link = (.ok results, last)) :
    ∃ opened begun ended database,
      Connection.ensureOpen backend.engine backend.growth link = (.ok (), opened) ∧
        opened.connection.lifecycle = .opened database ∧
          Query.control backend "BEGIN IMMEDIATE" opened = (.ok (), begun) ∧
            Executes backend statements begun results ended ∧
              Query.control backend "COMMIT" ended = (.ok (), last) ∧
                (link.connection.lifecycle = .unopened →
                  (laws.standing opened.engine database).isExplicit = false) ∧
                  ((laws.standing opened.engine database).isExplicit = false →
                    laws.Committed link.connection.config database statements opened begun ended
                      last) := by
  have opens := Transactions.ensureOpen_placed backend.growth valid isOpen
  rcases isOpened : Connection.ensureOpen backend.engine backend.growth link with
    ⟨error | ⟨⟩, opened⟩ <;> rw [isOpened] at opens
  · cases (executeTransaction_of_unopened isOpened statements).symm.trans isOk
  obtain ⟨position, placed, sameConfig, isOutside⟩ := opens
  have before : laws.standing opened.engine position.database = position.standing := placed.standing
  rw [executeTransaction_of_opens isOpened (placed.ensureOpen backend.growth) statements] at isOk
  have transacts := @executeTransaction_transacts _ backend statements opened
  rw [isOk] at transacts
  obtain ⟨begun, ended, begins, executes, commits⟩ := transacts.of_ok
  refine ⟨opened, begun, ended, position.database, rfl, placed.connection ▸ placed.isOpened,
    begins, executes, commits, ?_, fun isOutside => ?_⟩
  · rw [before]
    exact isOutside
  · rw [before] at isOutside
    rw [← sameConfig]
    exact placed.committed isOutside areOrdinary begins executes commits

/-! ## Hidden failures -/

def hidingLink : Link Storage.Store :=
  ⟨{ config := { lenientStepStatus := true } }, {}, {}⟩

theorem executeTransaction_committed_hiding :
    let opened :=
      (Connection.ensureOpen Storage.backend.engine Storage.backend.growth hidingLink).2
    let outcome := Query.executeTransaction Storage.backend brokenAtLast hidingLink
    outcome.1.isOk = true ∧ ∃ begun ended, Storage.transactions.Committed hidingLink.connection.config
      ⟨0⟩ brokenAtLast opened begun ended outcome.2 := by
  intro opened outcome
  have valid : Storage.transactions.Valid hidingLink.engine := Storage.custody_empty.1
  have runs : outcome.1.isOk = true ∧ opened.connection.lifecycle = .opened ⟨0⟩ := by
    decide +kernel
  obtain ⟨isOk, isDatabase⟩ := runs
  refine ⟨isOk, ?_⟩
  rcases isOutcome : outcome with ⟨error | results, last⟩
  · rw [isOutcome] at isOk
    cases isOk
  obtain ⟨reached, begun, ended, database, opens, isOther, -, -, -, isOutside, committed⟩ :=
    executeTransaction_committed Storage.transactions valid nofun brokenAtLast_areOrdinary
      isOutcome
  obtain rfl : opened = reached := congrArg Prod.snd opens
  obtain rfl : (⟨0⟩ : DatabaseHandle) = database :=
    Lifecycle.opened.inj (isDatabase.symm.trans isOther)
  exact ⟨begun, ended, committed (isOutside rfl)⟩

/-- The code of the first step of a query that comes to running its statement. -/
def Query.firstCode? (backend : Backend σ) (sql : Text) (values : List Json) (link : Link σ) :
    Option Int :=
  match Query.prepare backend sql values link with
  | (.ok command, bound) => some (backend.engine.step command.statement bound.engine).1
  | (.error _, _) => none

theorem Query.EndsWith.eq_of_first {sql : Text} {values : List Json} {link : Link σ}
    {code first : Int} (endsWith : EndsWith backend sql values link code)
    (isFirst : firstCode? backend sql values link = some first) (isNoRow : first ≠ Status.row) :
    code = first := by
  obtain ⟨command, bound, state, isPrepared, runs⟩ := endsWith
  rw [firstCode?, isPrepared] at isFirst
  cases isFirst
  cases runs with
  | last _ => rfl
  | more isRow _ => exact absurd isRow isNoRow

def orphanTables : List (Text × List Json) :=
  [(.ofString "CREATE TABLE p(a PRIMARY KEY)", []),
    (.ofString "CREATE TABLE c(a NOT NULL REFERENCES p DEFERRABLE INITIALLY DEFERRED)", [])]

def orphans : List (Text × List Json) :=
  [(.ofString "INSERT INTO c VALUES(NULL)", []), (.ofString "INSERT INTO c VALUES(1)", [])]

/-- With its failures hidden, a call may have success although a statement breaks a
constraint, and although the transaction cannot be committed and is still open. -/
theorem executeTransaction_of_orphans :
    let link := (executeEach Storage.backend orphanTables hidingLink).2
    let begun := (Query.control Storage.backend "BEGIN IMMEDIATE" link).2
    let outcome := Query.executeTransaction Storage.backend orphans link
    link.connection.config.lenientStepStatus = true ∧
      link.connection.lifecycle = .opened ⟨0⟩ ∧
        (Storage.transactions.standing link.engine ⟨0⟩).isExplicit = false ∧
          (∀ statement ∈ orphans, Storage.transactions.kind statement.1 = .ordinary) ∧
            outcome.1.isOk = true ∧
              ¬EachEnds Storage.backend (· = Status.done) orphans begun ∧
                (Storage.transactions.standing outcome.2.engine ⟨0⟩).isExplicit = true := by
  intro link begun outcome
  have runs : link.connection.config.lenientStepStatus = true ∧
      link.connection.lifecycle = .opened ⟨0⟩ ∧
        (Storage.transactions.standing link.engine ⟨0⟩).isExplicit = false ∧
          firstCode? Storage.backend (.ofString "INSERT INTO c VALUES(NULL)") [] begun = some 19 ∧
            outcome.1.isOk = true ∧
              (Storage.transactions.standing outcome.2.engine ⟨0⟩).isExplicit = true := by
    decide +kernel
  have areOrdinary : ∀ statement ∈ orphans,
      Storage.transactions.kind statement.1 = .ordinary := by
    decide +kernel
  obtain ⟨isLenient, isOpened, isOutside, isFirst, isOk, isStillOpen⟩ := runs
  refine ⟨isLenient, isOpened, isOutside, areOrdinary, isOk, ?_, isStillOpen⟩
  rintro ⟨⟨code, endsWith, isDone⟩, -⟩
  have isBroken : code = 19 := endsWith.eq_of_first isFirst (by decide)
  cases isBroken.symm.trans isDone

end EmbeddedSql
