import EmbeddedSql.Proofs.Connection.Lifecycle
import EmbeddedSql.Proofs.Mirror

/-! The books of a session: which connections there are, and which statements are used by
whom. They account for every handle that is in use. -/

namespace EmbeddedSql.Session

inductive Holder where
  | command (name : String)
  | reader (name : String)
deriving DecidableEq

/-- A statement is the holder's own, or that of a command that lends it. -/
structure Use where
  connection : String
  statement : StatementHandle
  lender? : Option String

structure Books where
  connection? : String → Option Connection
  use? : Holder → Option Use

namespace Books

def withConnection (books : Books) (name : String) (connection : Option Connection) : Books :=
  { books with connection? := Function.update books.connection? name connection }

def withUse (books : Books) (holder : Holder) (use : Option Use) : Books :=
  { books with use? := Function.update books.use? holder use }

@[simp] theorem withConnection_self (books : Books) (name : String)
    (connection : Option Connection) :
    (books.withConnection name connection).connection? name = connection := by
  simp [withConnection]

theorem withConnection_other (books : Books) {name other : String}
    (connection : Option Connection) (isOther : other ≠ name) :
    (books.withConnection name connection).connection? other = books.connection? other := by
  simp [withConnection, isOther]

theorem withConnection_same {books : Books} {name : String} {connection : Connection}
    (isThere : books.connection? name = some connection) :
    books.withConnection name (some connection) = books := by
  rw [withConnection, ← isThere, Function.update_eq_self]

theorem withUse_same {books : Books} {holder : Holder} {use : Use}
    (isUsed : books.use? holder = some use) : books.withUse holder (some use) = books := by
  rw [withUse, ← isUsed, Function.update_eq_self]

@[simp] theorem withConnection_use? (books : Books) (name : String)
    (connection : Option Connection) :
    (books.withConnection name connection).use? = books.use? := rfl

@[simp] theorem withUse_self (books : Books) (holder : Holder) (use : Option Use) :
    (books.withUse holder use).use? holder = use := by
  simp [withUse]

theorem withUse_other (books : Books) {holder other : Holder} (use : Option Use)
    (isOther : other ≠ holder) : (books.withUse holder use).use? other = books.use? other := by
  simp [withUse, isOther]

@[simp] theorem withUse_connection? (books : Books) (holder : Holder) (use : Option Use) :
    (books.withUse holder use).connection? = books.connection? := rfl

end Books

/-- The books account for the handles in use. What is left of a disposed connection holds
on to nothing. -/
structure Accounts (handles : Handles) (books : Books) : Prop where
  isOpen : ∀ {name connection database}, books.connection? name = some connection →
    connection.lifecycle = .opened database → handles.isOpen database = true
  /-- No database is left without a connection. -/
  isOpened : ∀ {database}, handles.isOpen database = true →
    ∃ name connection, books.connection? name = some connection ∧
      connection.lifecycle = .opened database
  /-- No two connections share a database. -/
  separate : ∀ {name other connection otherConnection database},
    books.connection? name = some connection → connection.lifecycle = .opened database →
      books.connection? other = some otherConnection →
        otherConnection.lifecycle = .opened database → name = other
  holds : ∀ {holder use}, books.use? holder = some use →
    ∃ connection, books.connection? use.connection = some connection ∧
      Situation.Holds ⟨connection, handles⟩ use.statement
  /-- No statement is owned twice. -/
  distinct : ∀ {holder other use connection}, books.use? holder = some use →
    books.use? other = some use → use.lender? = none →
      books.connection? use.connection = some connection →
        connection.lifecycle ≠ .disposed → holder = other
  lent : ∀ {holder use command}, books.use? holder = some use → use.lender? = some command →
    books.use? (.command command) = some { use with lender? := none }
  /-- No statement is left without an owner on the books. -/
  owned : ∀ {statement database}, handles.owner? statement = some database →
    ∃ holder use connection, books.use? holder = some use ∧ use.lender? = none ∧
      use.statement = statement ∧ books.connection? use.connection = some connection ∧
        connection.lifecycle = .opened database

namespace Accounts

variable {handles : Handles} {books : Books} {name : String} {connection : Connection}

theorem isSound (accounts : Accounts handles books)
    (isThere : books.connection? name = some connection) :
    Situation.IsSound ⟨connection, handles⟩ :=
  fun _ isOpened => accounts.isOpen isThere isOpened

theorem holds_of (accounts : Accounts handles books) {holder : Holder} {use : Use}
    (isUsed : books.use? holder = some use)
    (isThere : books.connection? use.connection = some connection) :
    Situation.Holds ⟨connection, handles⟩ use.statement := by
  rcases accounts.holds isUsed with ⟨found, isFound, holds⟩
  rw [isThere] at isFound
  rwa [Option.some.inj isFound]

/-! ## Connections -/

/-- What a change of one connection and of the handles must see to. -/
structure Replaces (books : Books) (name : String) (before next : Situation) : Prop where
  isOpen : next.IsSound
  isOpened : ∀ {database}, next.handles.isOpen database = true →
    next.connection.lifecycle = .opened database ∨
      before.handles.isOpen database = true ∧
        before.connection.lifecycle ≠ .opened database
  holds : ∀ {statement}, before.Holds statement → next.Holds statement
  /-- No statement comes into use, and the connection of one that stays does not change. -/
  owned : ∀ {statement database}, next.handles.owner? statement = some database →
    before.handles.owner? statement = some database ∧
      (before.connection.lifecycle = .opened database →
        next.connection.lifecycle = .opened database)
  stays : before.connection.lifecycle = .disposed → next.connection.lifecycle = .disposed
  /-- Nothing changes for the databases of other connections. -/
  elsewhere : ∀ {other connection database}, other ≠ name →
    books.connection? other = some connection → connection.lifecycle = .opened database →
      next.connection.lifecycle ≠ .opened database ∧ next.handles.isOpen database = true ∧
        ∀ statement, before.handles.owner? statement = some database →
          next.handles.owner? statement = some database

theorem replace (accounts : Accounts handles books) {next : Situation}
    (isThere : books.connection? name = some connection)
    (replaces : Replaces books name ⟨connection, handles⟩ next) :
    Accounts next.handles (books.withConnection name (some next.connection)) where
  isOpen {other otherConnection database} isOther isOpened := by
    by_cases isHere : other = name
    · subst isHere
      rw [Books.withConnection_self, Option.some.injEq] at isOther
      subst isOther
      exact replaces.isOpen database isOpened
    · rw [Books.withConnection_other _ _ isHere] at isOther
      exact (replaces.elsewhere isHere isOther isOpened).2.1
  isOpened {database} isOpen := by
    rcases replaces.isOpened isOpen with isNext | ⟨wasOpen, isNotHere⟩
    · exact ⟨name, next.connection, Books.withConnection_self .., isNext⟩
    · rcases accounts.isOpened wasOpen with ⟨other, otherConnection, isOther, isOpened⟩
      have isElsewhere : other ≠ name := by
        rintro rfl
        rw [isThere, Option.some.injEq] at isOther
        subst isOther
        exact isNotHere isOpened
      exact ⟨other, otherConnection, by rwa [Books.withConnection_other _ _ isElsewhere], isOpened⟩
  separate {first second firstConnection secondConnection database}
      isFirst firstOpened isSecond secondOpened := by
    by_cases firstHere : first = name <;> by_cases secondHere : second = name
    · rw [firstHere, secondHere]
    · subst firstHere
      rw [Books.withConnection_self, Option.some.injEq] at isFirst
      rw [Books.withConnection_other _ _ secondHere] at isSecond
      subst isFirst
      exact absurd firstOpened (replaces.elsewhere secondHere isSecond secondOpened).1
    · subst secondHere
      rw [Books.withConnection_self, Option.some.injEq] at isSecond
      rw [Books.withConnection_other _ _ firstHere] at isFirst
      subst isSecond
      exact absurd secondOpened (replaces.elsewhere firstHere isFirst firstOpened).1
    · rw [Books.withConnection_other _ _ firstHere] at isFirst
      rw [Books.withConnection_other _ _ secondHere] at isSecond
      exact accounts.separate isFirst firstOpened isSecond secondOpened
  holds {holder use} isUsed := by
    rcases accounts.holds isUsed with ⟨found, isFound, holds⟩
    by_cases isHere : use.connection = name
    · rw [isHere, isThere, Option.some.injEq] at isFound
      subst isFound
      exact ⟨next.connection, by rw [isHere, Books.withConnection_self], replaces.holds holds⟩
    · refine ⟨found, by rwa [Books.withConnection_other _ _ isHere], ?_⟩
      rcases holds with isDisposed | ⟨database, isOpened, isOwner, isOpen⟩
      · exact .inl isDisposed
      · rcases replaces.elsewhere isHere isFound isOpened with ⟨-, staysOpen, staysOwner⟩
        exact .inr ⟨database, isOpened, staysOwner _ isOwner, staysOpen⟩
  distinct {first second use found} isFirst isSecond isOwn isFound isLive := by
    by_cases isHere : use.connection = name
    · rw [isHere, Books.withConnection_self, Option.some.injEq] at isFound
      subst isFound
      exact accounts.distinct isFirst isSecond isOwn (isHere ▸ isThere)
        fun isDisposed => isLive (replaces.stays isDisposed)
    · rw [Books.withConnection_other _ _ isHere] at isFound
      exact accounts.distinct isFirst isSecond isOwn isFound isLive
  lent isUsed isLent := accounts.lent isUsed isLent
  owned {statement database} isOwner := by
    rcases replaces.owned isOwner with ⟨wasOwner, staysOpened⟩
    rcases accounts.owned wasOwner with ⟨holder, use, found, isUsed, isOwn, isIt, isFound, isOpened⟩
    by_cases isHere : use.connection = name
    · rw [isHere, isThere, Option.some.injEq] at isFound
      subst isFound
      exact ⟨holder, use, next.connection, isUsed, isOwn, isIt,
        by rw [isHere, Books.withConnection_self], staysOpened isOpened⟩
    · exact ⟨holder, use, found, isUsed, isOwn, isIt,
        by rwa [Books.withConnection_other _ _ isHere], isOpened⟩

theorem continues (accounts : Accounts handles books) {next : Situation}
    (isThere : books.connection? name = some connection)
    (continues : Situation.Continues ⟨connection, handles⟩ next) :
    Accounts next.handles (books.withConnection name (some next.connection)) := by
  refine accounts.replace isThere ?_
  have isSound := accounts.isSound isThere
  cases continues with
  | refl =>
      refine ⟨isSound, fun {database} isOpen => ?_, id, fun isOwner => ⟨isOwner, id⟩, id, ?_⟩
      · by_cases isHere : connection.lifecycle = .opened database
        · exact .inl isHere
        · exact .inr ⟨isOpen, isHere⟩
      · intro other otherConnection database isElsewhere isOther isOpened
        refine ⟨fun isHere => ?_, accounts.isOpen isOther isOpened, fun _ isOwner => isOwner⟩
        exact isElsewhere (accounts.separate isOther isOpened isThere isHere)
  | opening database isUnopened isClosed =>
      have isUnopened : connection.lifecycle = .unopened := isUnopened
      have isClosed : handles.isOpen database = false := isClosed
      refine ⟨?_, fun {opened} isOpen => ?_, fun holds => ?_, fun isOwner => ⟨isOwner, fun isOpened => by
        cases isUnopened.symm.trans isOpened⟩, fun isDisposed => ?_, ?_⟩
      · rintro _ ⟨⟩
        exact handles.opening_isOpen_self database
      · by_cases isNew : opened = database
        · exact .inl (by rw [isNew])
        · refine .inr ⟨?_, by simp [isUnopened]⟩
          simpa [Handles.opening, isNew] using isOpen
      · rcases holds with isDisposed | ⟨_, isOpened, -⟩
        · cases isUnopened.symm.trans isDisposed
        · cases isUnopened.symm.trans isOpened
      · cases isUnopened.symm.trans isDisposed
      · intro other otherConnection opened isElsewhere isOther isOpened
        have isOpen := accounts.isOpen isOther isOpened
        have isOld : opened ≠ database := by
          rintro rfl
          rw [isClosed] at isOpen
          cases isOpen
        refine ⟨fun isNew => isOld (Lifecycle.opened.inj isNew).symm, ?_, fun _ isOwner => isOwner⟩
        simpa [Handles.opening, isOld] using isOpen

theorem disposing (accounts : Accounts handles books)
    (isThere : books.connection? name = some connection) :
    Accounts (Situation.disposed ⟨connection, handles⟩).handles
      (books.withConnection name (some { connection with lifecycle := .disposed })) := by
  have replaces : Replaces books name ⟨connection, handles⟩
      (Situation.disposed ⟨connection, handles⟩) := by
    refine ⟨by rintro _ ⟨⟩, fun {database} isOpen => .inr ?_, fun _ => .inl rfl,
      fun {statement database} isOwner => ?_, fun _ => rfl, ?_⟩
    · dsimp only [Situation.disposed] at isOpen
      cases isLifecycle : connection.lifecycle with
      | disposed => exact ⟨by simpa [isLifecycle] using isOpen, by simp⟩
      | unopened => exact ⟨by simpa [isLifecycle] using isOpen, by simp⟩
      | opened gone =>
          rw [isLifecycle] at isOpen
          by_cases isGone : database = gone
          · simp [Handles.closing, isGone] at isOpen
          · have isOther : gone ≠ database := Ne.symm isGone
            exact ⟨by simpa [Handles.closing, isGone] using isOpen, by simpa using isOther⟩
    · dsimp only [Situation.disposed] at isOwner
      cases isLifecycle : connection.lifecycle with
      | disposed => exact ⟨by simpa [isLifecycle] using isOwner, by simp⟩
      | unopened => exact ⟨by simpa [isLifecycle] using isOwner, by simp⟩
      | opened gone =>
          rw [isLifecycle, Handles.closing_owner?] at isOwner
          dsimp only [Handles.sweeping] at isOwner
          split at isOwner
          · cases isOwner
          · rename_i isElsewhere
            refine ⟨isOwner, fun isGone => ?_⟩
            cases isGone
            exact absurd isOwner isElsewhere
    · intro other otherConnection database isElsewhere isOther isOpened
      have isOpen := accounts.isOpen isOther isOpened
      refine ⟨by rintro ⟨⟩, ?_⟩
      dsimp only [Situation.disposed]
      cases isLifecycle : connection.lifecycle with
      | disposed => exact ⟨isOpen, fun _ isOwner => isOwner⟩
      | unopened => exact ⟨isOpen, fun _ isOwner => isOwner⟩
      | opened gone =>
          have isKept : database ≠ gone := by
            rintro rfl
            exact isElsewhere (accounts.separate isOther isOpened isThere isLifecycle)
          refine ⟨by simpa [Handles.closing, isKept] using isOpen, fun statement isOwner => ?_⟩
          simp [Handles.sweeping, isOwner, isKept]
  exact accounts.replace isThere replaces

theorem connecting (accounts : Accounts handles books) (isNew : books.connection? name = none)
    (isUnopened : connection.lifecycle = .unopened) :
    Accounts handles (books.withConnection name (some connection)) := by
  have elsewhere {other : String} {otherConnection : Connection}
      (isOther : books.connection? other = some otherConnection) : other ≠ name := by
    rintro rfl
    rw [isNew] at isOther
    cases isOther
  have earlier {other : String} {otherConnection : Connection} {database : DatabaseHandle}
      (isOther : (books.withConnection name (some connection)).connection? other =
        some otherConnection)
      (isOpened : otherConnection.lifecycle = .opened database) :
      books.connection? other = some otherConnection := by
    by_cases isHere : other = name
    · subst isHere
      rw [Books.withConnection_self, Option.some.injEq] at isOther
      subst isOther
      cases isUnopened.symm.trans isOpened
    · rwa [Books.withConnection_other _ _ isHere] at isOther
  have later {other : String} {otherConnection : Connection}
      (isOther : books.connection? other = some otherConnection) :
      (books.withConnection name (some connection)).connection? other = some otherConnection := by
    rwa [Books.withConnection_other _ _ (elsewhere isOther)]
  exact {
    isOpen := fun isOther isOpened => accounts.isOpen (earlier isOther isOpened) isOpened
    isOpened := fun isOpen => by
      rcases accounts.isOpened isOpen with ⟨other, otherConnection, isOther, isOpened⟩
      exact ⟨other, otherConnection, later isOther, isOpened⟩
    separate := fun isFirst firstOpened isSecond secondOpened =>
      accounts.separate (earlier isFirst firstOpened) firstOpened (earlier isSecond secondOpened)
        secondOpened
    holds := fun isUsed => by
      rcases accounts.holds isUsed with ⟨found, isFound, holds⟩
      exact ⟨found, later isFound, holds⟩
    distinct := fun isFirst isSecond isOwn isFound isLive => by
      rcases accounts.holds isFirst with ⟨found, isThere, -⟩
      rw [later isThere, Option.some.injEq] at isFound
      subst isFound
      exact accounts.distinct isFirst isSecond isOwn isThere isLive
    lent := accounts.lent
    owned := fun isOwner => by
      rcases accounts.owned isOwner with ⟨holder, use, found, isUsed, isOwn, isIt, isFound, isOpened⟩
      exact ⟨holder, use, found, isUsed, isOwn, isIt, later isFound, isOpened⟩ }

theorem disconnecting (accounts : Accounts handles books)
    (isThere : books.connection? name = some connection)
    (isClosed : ∀ database, connection.lifecycle ≠ .opened database)
    (isUnused : ∀ holder use, books.use? holder = some use → use.connection ≠ name) :
    Accounts handles (books.withConnection name none) := by
  have earlier {other : String} {otherConnection : Connection}
      (isOther : (books.withConnection name none).connection? other = some otherConnection) :
      other ≠ name ∧ books.connection? other = some otherConnection := by
    by_cases isHere : other = name
    · subst isHere
      rw [Books.withConnection_self] at isOther
      cases isOther
    · exact ⟨isHere, by rwa [Books.withConnection_other _ _ isHere] at isOther⟩
  exact {
    isOpen := fun isOther isOpened => accounts.isOpen (earlier isOther).2 isOpened
    isOpened := fun {database} isOpen => by
      rcases accounts.isOpened isOpen with ⟨other, otherConnection, isOther, isOpened⟩
      have isElsewhere : other ≠ name := by
        rintro rfl
        rw [isThere, Option.some.injEq] at isOther
        subst isOther
        exact isClosed database isOpened
      exact ⟨other, otherConnection, by rwa [Books.withConnection_other _ _ isElsewhere], isOpened⟩
    separate := fun isFirst firstOpened isSecond secondOpened =>
      accounts.separate (earlier isFirst).2 firstOpened (earlier isSecond).2 secondOpened
    holds := fun isUsed => by
      rcases accounts.holds isUsed with ⟨found, isFound, holds⟩
      exact ⟨found, by rwa [Books.withConnection_other _ _ (isUnused _ _ isUsed)], holds⟩
    distinct := fun isFirst isSecond isOwn isFound isLive =>
      accounts.distinct isFirst isSecond isOwn (earlier isFound).2 isLive
    lent := accounts.lent
    owned := fun isOwner => by
      rcases accounts.owned isOwner with ⟨holder, use, found, isUsed, isOwn, isIt, isFound, isOpened⟩
      exact ⟨holder, use, found, isUsed, isOwn, isIt,
        by rwa [Books.withConnection_other _ _ (isUnused _ _ isUsed)], isOpened⟩ }

theorem isClosed_of_empty (accounts : Accounts handles books)
    (isEmpty : ∀ name, books.connection? name = none) (database : DatabaseHandle) :
    handles.isOpen database = false := by
  cases isOpen : handles.isOpen database with
  | false => rfl
  | true =>
      rcases accounts.isOpened isOpen with ⟨name, connection, isThere, -⟩
      rw [isEmpty name] at isThere
      cases isThere

/-! ## Statements -/

section
variable {holder : Holder} {use : Use}

theorem use_of_withUse {other : Holder} {otherUse : Use}
    (isUsed : (books.withUse holder (some use)).use? other = some otherUse) :
    other = holder ∧ otherUse = use ∨ other ≠ holder ∧ books.use? other = some otherUse := by
  by_cases isHere : other = holder
  · subst isHere
    rw [Books.withUse_self, Option.some.injEq] at isUsed
    exact .inl ⟨rfl, isUsed.symm⟩
  · rw [Books.withUse_other _ _ isHere] at isUsed
    exact .inr ⟨isHere, isUsed⟩

theorem withUse_of_use (isNew : books.use? holder = none) {other : Holder} {otherUse : Use}
    (isUsed : books.use? other = some otherUse) :
    (books.withUse holder (some use)).use? other = some otherUse := by
  have isElsewhere : other ≠ holder := by
    rintro rfl
    rw [isNew] at isUsed
    cases isUsed
  rwa [Books.withUse_other _ _ isElsewhere]

theorem preparing (accounts : Accounts handles books)
    (isThere : books.connection? name = some connection) {database : DatabaseHandle}
    (isOpened : connection.lifecycle = .opened database) {statement : StatementHandle}
    (isFree : handles.owner? statement = none) (isNew : books.use? holder = none) :
    Accounts (handles.preparing statement database)
      (books.withUse holder (some ⟨name, statement, none⟩)) where
  isOpen := accounts.isOpen
  isOpened := accounts.isOpened
  separate := accounts.separate
  holds {other otherUse} isUsed := by
    rcases use_of_withUse isUsed with ⟨-, rfl⟩ | ⟨-, isUsed⟩
    · exact ⟨connection, isThere, .inr ⟨database, isOpened,
        handles.preparing_owner?_self statement database, accounts.isOpen isThere isOpened⟩⟩
    · rcases accounts.holds isUsed with ⟨found, isFound, holds⟩
      refine ⟨found, isFound, ?_⟩
      rcases holds with isDisposed | ⟨other, isOpened, isOwner, isOpen⟩
      · exact .inl isDisposed
      · have isOld : otherUse.statement ≠ statement := by
          intro isSame
          rw [isSame, isFree] at isOwner
          cases isOwner
        exact .inr ⟨other, isOpened, by simpa [Handles.preparing, isOld] using isOwner, isOpen⟩
  distinct {first second firstUse found} isFirst isSecond isOwn isFound isLive := by
    -- whoever held the new statement before held it of a disposed connection
    have isStale {other : Holder} (isUsed : books.use? other = some ⟨name, statement, none⟩) :
        False := by
      rcases accounts.holds_of isUsed isThere with isDisposed | ⟨_, -, isOwner, -⟩
      · cases isOpened.symm.trans isDisposed
      · cases isFree.symm.trans isOwner
    rcases use_of_withUse isFirst with ⟨rfl, rfl⟩ | ⟨-, wasFirst⟩ <;>
      rcases use_of_withUse isSecond with ⟨rfl, isSame⟩ | ⟨-, wasSecond⟩
    · rfl
    · exact (isStale wasSecond).elim
    · exact (isStale (isSame ▸ wasFirst)).elim
    · exact accounts.distinct wasFirst wasSecond isOwn isFound isLive
  lent {other otherUse command} isUsed isLent := by
    rcases use_of_withUse isUsed with ⟨-, rfl⟩ | ⟨-, isUsed⟩
    · cases isLent
    · exact withUse_of_use isNew (accounts.lent isUsed isLent)
  owned {other owner} isOwner := by
    by_cases isHere : other = statement
    · subst isHere
      rw [handles.preparing_owner?_self, Option.some.injEq] at isOwner
      subst isOwner
      exact ⟨holder, _, connection, Books.withUse_self .., rfl, rfl, isThere, isOpened⟩
    · have wasOwner : handles.owner? other = some owner := by
        simpa [Handles.preparing, isHere] using isOwner
      rcases accounts.owned wasOwner with ⟨_, use, found, isUsed, isOwn, isIt, isFound, isOpened⟩
      exact ⟨_, use, found, withUse_of_use isNew isUsed, isOwn, isIt, isFound, isOpened⟩

theorem lends {ε α : Type} (accounts : Accounts handles books) {next : Situation}
    (statementOf : α → StatementHandle) {answer : α}
    (isThere : books.connection? name = some connection)
    (lends : Situation.Lends (ε := ε) ⟨connection, handles⟩ statementOf (.ok answer) next)
    (isNew : books.use? holder = none) :
    Accounts next.handles
      ((books.withConnection name (some next.connection)).withUse holder
        (some ⟨name, statementOf answer, none⟩)) := by
  rcases lends with ⟨base, database, continues, isOpened, -, isFree, rfl⟩
  exact (accounts.continues isThere continues).preparing (Books.withConnection_self ..) isOpened
    isFree isNew

theorem lending (accounts : Accounts handles books) {command : String}
    (isOwned : books.use? (.command command) = some use) (isOwn : use.lender? = none)
    (isNew : books.use? holder = none) :
    Accounts handles
      (books.withUse holder (some { use with lender? := some command })) where
  isOpen := accounts.isOpen
  isOpened := accounts.isOpened
  separate := accounts.separate
  holds {other otherUse} isUsed := by
    rcases use_of_withUse isUsed with ⟨-, rfl⟩ | ⟨-, isUsed⟩
    · have held := accounts.holds isOwned
      exact held
    · exact accounts.holds isUsed
  distinct {first second firstUse found} isFirst isSecond isFirstOwn isFound isLive := by
    rcases use_of_withUse isFirst with ⟨-, rfl⟩ | ⟨-, isFirst⟩
    · cases isFirstOwn
    rcases use_of_withUse isSecond with ⟨-, rfl⟩ | ⟨-, isSecond⟩
    · cases isFirstOwn
    · exact accounts.distinct isFirst isSecond isFirstOwn isFound isLive
  lent {other otherUse lender} isUsed isLent := by
    rcases use_of_withUse isUsed with ⟨-, rfl⟩ | ⟨-, isUsed⟩
    · obtain rfl := Option.some.inj isLent
      refine withUse_of_use isNew ?_
      rw [isOwned, ← isOwn]
    · exact withUse_of_use isNew (accounts.lent isUsed isLent)
  owned isOwner := by
    rcases accounts.owned isOwner with ⟨_, use, found, isUsed, isOwn, isIt, isFound, isOpened⟩
    exact ⟨_, use, found, withUse_of_use isNew isUsed, isOwn, isIt, isFound, isOpened⟩

theorem use_of_removed {other : Holder} {otherUse : Use}
    (isUsed : (books.withUse holder none).use? other = some otherUse) :
    other ≠ holder ∧ books.use? other = some otherUse := by
  by_cases isHere : other = holder
  · subst isHere
    rw [Books.withUse_self] at isUsed
    cases isUsed
  · exact ⟨isHere, by rwa [Books.withUse_other _ _ isHere] at isUsed⟩

/-- Who else holds a statement that its owner has lent to nobody holds it of a connection
that is disposed. -/
theorem disposed_of_other (accounts : Accounts handles books)
    (isUsed : books.use? holder = some use) (isOwn : use.lender? = none)
    (isUnlent : ∀ command, holder = .command command → ∀ other otherUse,
      books.use? other = some otherUse → otherUse.lender? ≠ some command)
    (isThere : books.connection? use.connection = some connection)
    (isLive : connection.lifecycle ≠ .disposed) {other : Holder} {otherUse : Use}
    (isElsewhere : other ≠ holder) (isOther : books.use? other = some otherUse)
    (isSame : otherUse.statement = use.statement) {found : Connection}
    (isFound : books.connection? otherUse.connection = some found) :
    found.lifecycle = .disposed := by
  rcases accounts.holds_of isUsed isThere with isDisposed | ⟨database, isOpened, isOwner, -⟩
  · exact absurd isDisposed isLive
  rcases accounts.holds_of isOther isFound with
    isDisposed | ⟨otherDatabase, otherOpened, otherOwner, -⟩
  · exact isDisposed
  rw [isSame] at otherOwner
  obtain rfl := Option.some.inj (otherOwner.symm.trans isOwner)
  have sameConnection := accounts.separate isFound otherOpened isThere isOpened
  cases lender : otherUse.lender? with
  | none =>
      have sameUse : otherUse = use := by
        cases otherUse
        cases use
        simp_all
      exact absurd (accounts.distinct (sameUse ▸ isOther) isUsed isOwn isThere isLive) isElsewhere
  | some command =>
      have isLent := accounts.lent isOther lender
      have sameUse : { otherUse with lender? := none } = use := by
        cases use
        simp_all
      rw [sameUse] at isLent
      exact absurd lender (isUnlent command
        (accounts.distinct isUsed isLent isOwn isThere isLive) other otherUse isOther)

theorem finalizing (accounts : Accounts handles books) (isUsed : books.use? holder = some use)
    (isOwn : use.lender? = none)
    (isUnlent : ∀ command, holder = .command command → ∀ other otherUse,
      books.use? other = some otherUse → otherUse.lender? ≠ some command)
    (isThere : books.connection? use.connection = some connection) :
    Accounts (Situation.without ⟨connection, handles⟩ use.statement).handles
      (books.withUse holder none) := by
  refine {
    isOpen := fun isFound isOpened => ?_
    isOpened := fun isOpen => ?_
    separate := accounts.separate
    holds := fun {other otherUse} isOther => ?_
    distinct := fun isFirst isSecond isFirstOwn isFound isLive =>
      accounts.distinct (use_of_removed isFirst).2 (use_of_removed isSecond).2 isFirstOwn isFound
        isLive
    lent := fun {other otherUse command} isOther isLent => ?_
    owned := fun {other database} isOwner => ?_ }
  · rw [Situation.without_isOpen]
    exact accounts.isOpen isFound isOpened
  · rw [Situation.without_isOpen] at isOpen
    exact accounts.isOpened isOpen
  · rcases use_of_removed isOther with ⟨isElsewhere, isOther⟩
    rcases accounts.holds isOther with ⟨found, isFound, holds⟩
    refine ⟨found, isFound, ?_⟩
    dsimp only [Situation.without]
    split
    · exact holds
    · rename_i isLive
      have isLive : connection.lifecycle ≠ .disposed :=
        fun isDisposed => isLive ((Connection.isDisposed_iff _).mpr isDisposed)
      by_cases isSame : otherUse.statement = use.statement
      · exact .inl (accounts.disposed_of_other isUsed isOwn isUnlent isThere isLive isElsewhere
          isOther isSame isFound)
      · rcases holds with isDisposed | ⟨database, isOpened, isOwner, isOpen⟩
        · exact .inl isDisposed
        · refine .inr ⟨database, isOpened, ?_, isOpen⟩
          simpa [Handles.finalizing, isSame] using isOwner
  · rcases use_of_removed isOther with ⟨-, isOther⟩
    have isLender : Holder.command command ≠ holder := fun isHolder =>
      isUnlent command isHolder.symm other otherUse isOther isLent
    rw [Books.withUse_other _ _ isLender]
    exact accounts.lent isOther isLent
  · -- the statement that is let go of is the only one that the holder owns
    have stays : handles.owner? other = some database ∧
        (other = use.statement → connection.lifecycle = .disposed) := by
      dsimp only [Situation.without] at isOwner
      split at isOwner
      · rename_i isDisposed
        exact ⟨isOwner, fun _ => (Connection.isDisposed_iff _).mp isDisposed⟩
      · by_cases isIt : other = use.statement
        · simp [Handles.finalizing, isIt] at isOwner
        · exact ⟨by simpa [Handles.finalizing, isIt] using isOwner, fun isIt' => absurd isIt' isIt⟩
    rcases accounts.owned stays.1 with
      ⟨owner, otherUse, found, isOther, isOtherOwn, isIt, isFound, isOpened⟩
    have isElsewhere : owner ≠ holder := by
      rintro rfl
      obtain rfl := Option.some.inj (isUsed.symm.trans isOther)
      obtain rfl := Option.some.inj (isThere.symm.trans isFound)
      cases isOpened.symm.trans (stays.2 isIt.symm)
    exact ⟨owner, otherUse, found, by rwa [Books.withUse_other _ _ isElsewhere], isOtherOwn, isIt,
      isFound, isOpened⟩

theorem returning (accounts : Accounts handles books) {reader : String}
    (isBorrowed : ∀ use, books.use? (.reader reader) = some use → use.lender? ≠ none) :
    Accounts handles (books.withUse (.reader reader) none) where
  isOpen := accounts.isOpen
  isOpened := accounts.isOpened
  separate := accounts.separate
  holds isUsed := accounts.holds (use_of_removed isUsed).2
  distinct isFirst isSecond isOwn isFound isLive :=
    accounts.distinct (use_of_removed isFirst).2 (use_of_removed isSecond).2 isOwn isFound isLive
  lent {other otherUse command} isUsed isLent := by
    have isElsewhere : Holder.command command ≠ .reader reader := nofun
    rw [Books.withUse_other _ _ isElsewhere]
    exact accounts.lent (use_of_removed isUsed).2 isLent
  owned isOwner := by
    rcases accounts.owned isOwner with ⟨owner, use, found, isUsed, isOwn, isIt, isFound, isOpened⟩
    have isElsewhere : owner ≠ .reader reader := by
      rintro rfl
      exact isBorrowed use isUsed isOwn
    exact ⟨owner, use, found, by rwa [Books.withUse_other _ _ isElsewhere], isOwn, isIt, isFound,
      isOpened⟩

end

end Accounts

end EmbeddedSql.Session
