import EmbeddedSql.Proofs.Connection.Lending
import EmbeddedSql.Proofs.Session.Accessors
import EmbeddedSql.Proofs.Session.Pools

/-! Main result: whatever is asked of connections, and however it ends, the buffers that it has
rented are in their pool again, and no two of them have been out at a time. So a pool that keeps
one buffer and lends nothing else never has to make a second one. -/

namespace EmbeddedSql.Session

open Call (LeavesPool)
open Scratch (Growth Pool)

variable {σ ε α : Type} {backend : Backend σ} {growth : Growth} {session before after : Session σ}
  {name : String} {number : Nat}

/-! ## What a request rents -/

/-- What a call on a connection rents of a pool: nothing, unless the pool is its own. -/
def roomsOn (session : Session σ) (name : String) (rooms : Connection → List Nat) (number : Nat) :
    List Nat :=
  match session.connections.get? name with
  | some held => if held.pool = number then rooms held.connection else []
  | none => []

theorem roomsOn_nothing (session : Session σ) (name : String) :
    session.roomsOn name (fun _ => []) = fun _ => [] := by
  funext number
  simp only [roomsOn]
  repeat' split
  all_goals rfl

/-- What a call on a command rents, which the connection of the command pays for. -/
def roomsOfCommand (session : Session σ) (command : String) (rooms : List Nat) (number : Nat) :
    List Nat :=
  match session.freeCommand (ε := Error) command with
  | .ok held => session.roomsOn held.connection (Connection.roomsWhileLive rooms) number
  | .error _ => []

/-- The buffers of a pool that a request needs, one after the other: for the path of a connection
that it opens, for the name of a parameter and for a wide value. -/
def Request.rooms (session : Session σ) (number : Nat) : Request → List Nat
  | .connection name .ensureOpen | .connection name .changes
  | .connection name .lastInsertRowid | .connection name (.executeNonQuery _)
  | .query (.execute name _ _) | .query (.fetchAll name _ _) | .query (.fetchOne name _ _)
  | .query (.executeTransaction name _) => session.roomsOn name Connection.pathRooms number
  | .connection name (.executeReader made _) =>
      if session.readers.contains made then []
      else session.roomsOn name Connection.pathRooms number
  | .connection name (.createCommand made _) =>
      if session.commands.contains made then []
      else session.roomsOn name Connection.pathRooms number
  | .command name (.indexOf text) =>
      session.roomsOfCommand name (Parameter.name text).rooms number
  | .command name (.bind parameter _) => session.roomsOfCommand name parameter.rooms number
  | .command name (.bindText parameter text) =>
      session.roomsOfCommand name (parameter.rooms ++ text.valueRooms) number
  | _ => []

def Request.isDriven : Request → Bool
  | .pool _ => false
  | _ => true

/-! ## Calls -/

/-- The pools have lent buffers for these rooms, and nothing else has happened to them. -/
structure Lends (growth : Growth) (rooms : Nat → List Nat) (before after : Session σ) : Prop where
  pools : ∀ number, number < before.pools.length →
    Pool.Lends growth (rooms number) (before.pool number) (after.pool number)
  length : after.pools.length = before.pools.length
  poolNames : after.poolNames = before.poolNames
  buffers : after.buffers = before.buffers

namespace Lends

theorem nothing (session : Session σ) : Lends growth (fun _ => []) session session where
  pools _ _ := .nothing _
  length := rfl
  poolNames := rfl
  buffers := rfl

theorem congr {rooms : Nat → List Nat} {same : Session σ} (lends : Lends growth rooms before after)
    (pools : same.pools = after.pools) (poolNames : same.poolNames = after.poolNames)
    (buffers : same.buffers = after.buffers) : Lends growth rooms before same where
  pools number isNumber := by
    have samePool : same.pool number = after.pool number := by simp [Session.pool, pools]
    rw [samePool]
    exact lends.pools number isNumber
  length := by rw [pools, lends.length]
  poolNames := by rw [poolNames, lends.poolNames]
  buffers := by rw [buffers, lends.buffers]

theorem setLink {rooms : Connection → List Nat} {link last : Link σ}
    (isLink : session.link? name = some link)
    (lends : Pool.Lends growth (rooms link.connection) link.pool last.pool) :
    Lends growth (session.roomsOn name rooms) session (session.setLink name last) := by
  rcases held_of_link? isLink with ⟨held, isHeld, rfl⟩
  constructor
  case pools =>
    intro number isNumber
    have isLast : (session.setLink name last).pool number =
        (session.setPool held.pool last.pool).pool number := by
      simp [Session.setLink, Session.pool, setPool, isHeld]
    simp only [roomsOn, isHeld, isLast]
    split
    case isTrue isPool =>
      subst isPool
      rw [setPool_pool last.pool isNumber, if_pos rfl]
      exact lends
    case isFalse isOther =>
      have same : (session.setPool held.pool last.pool).pool number = session.pool number := by
        simp [Session.pool, setPool, isOther]
      rw [same]
      exact .nothing _
  case length => simp [Session.setLink, isHeld, setPool]
  case poolNames => simp [Session.setLink, isHeld, setPool]
  case buffers => simp [Session.setLink, isHeld, setPool]

theorem onConnection {rooms : Connection → List Nat} {call : ExceptT ε (StateM (Link σ)) α}
    (rents : Call.Rents growth rooms call) (session : Session σ) (name : String) :
    Lends growth (session.roomsOn name rooms) session (session.onConnection name call).2 := by
  cases isLink : session.link? name with
  | none =>
      have isMissing := link?_eq_none.mp isLink
      have noRooms : session.roomsOn name rooms = fun _ => [] := by
        funext number
        simp [roomsOn, isMissing]
      rw [onConnection_of_missing isLink, noRooms]
      exact .nothing session
  | some link =>
      rw [onConnection_of_link isLink]
      exact .setLink isLink (rents link)

theorem ofLeaves {call : ExceptT ε (StateM (Link σ)) α}
    (leaves : LeavesPool (fun _ => True) call) (session : Session σ) (name : String) :
    Lends growth (fun _ => []) session (session.onConnection name call).2 := by
  have lends : Lends growth (session.roomsOn name fun _ => []) session
      (session.onConnection name call).2 :=
    Lends.onConnection leaves.rents session name
  rwa [roomsOn_nothing] at lends

end Lends

/-! ## Requests -/

section
variable (backend session)

theorem keeping_lends {rooms : Nat → List Nat} {outcome : Except (Refusal Error) α × Session σ}
    {put : Session σ → α → Session σ} (lends : Lends growth rooms session outcome.2)
    (puts : ∀ {after} made, Lends growth rooms session after →
      Lends growth rooms session (put after made)) :
    Lends growth rooms session (keeping put outcome).2 := by
  rcases outcome with ⟨refusal | made, after⟩
  · exact lends
  · exact puts made lends

theorem performConnection_lends (name : String) (request : ConnectionRequest) :
    Lends backend.growth ((Request.connection name request).rooms session) session
      (performConnection backend session name request).2 := by
  cases request with
  | connect path config pool =>
      apply commit_keeps (.nothing session)
      intro answer after isOk
      simp only [bind, Except.bind, pure, Except.pure] at isOk
      repeat' split at isOk
      all_goals cases isOk
      exact (Lends.nothing session).congr rfl rfl rfl
  | state =>
      apply commit_keeps (.nothing session)
      intro answer after isOk
      split at isOk <;> cases isOk
      exact .nothing session
  | ensureOpen =>
      exact .onConnection ((Call.NeedsDatabase.ensureOpen backend).rents
        (Connection.ensureOpen_leaves backend.engine backend.growth)) session name
  | dispose => exact .ofLeaves (Connection.dispose_leaves backend.engine) session name
  | drop =>
      have disposes : LeavesPool (fun _ => True) (disposeQuietly backend) := by
        apply LeavesPool.get
        intro link
        split
        · exact .pure _
        · exact Connection.dispose_leaves backend.engine
      simp only [performConnection]
      repeat' split
      · exact .nothing session
      · exact .nothing session
      · exact (Lends.ofLeaves disposes session name).congr rfl rfl rfl
  | changes =>
      exact .onConnection ((Call.NeedsDatabase.changes backend).rents
        (Connection.changes_leaves backend.engine backend.growth)) session name
  | pendingStatements =>
      exact .ofLeaves (Connection.pendingStatements_leaves backend.engine) session name
  | lastInsertRowid =>
      exact .onConnection ((Call.NeedsDatabase.lastInsertRowid backend).rents
        (Connection.lastInsertRowid_leaves backend.engine backend.growth)) session name
  | executeNonQuery sql =>
      exact .onConnection ((Call.NeedsDatabase.executeNonQuery backend sql).rents
        (Connection.executeNonQuery_leaves backend sql)) session name
  | executeReader made sql =>
      have lends := Lends.onConnection ((Call.NeedsDatabase.executeReader backend sql).rents
        (Connection.executeReader_leaves backend sql)) session name
      cases isTaken : session.readers.contains made with
      | true =>
          simp only [performConnection, newName, Request.rooms, isTaken, if_true]
          exact .nothing session
      | false =>
          simp only [performConnection, newName, Request.rooms, isTaken]
          exact keeping_lends session lends fun _ after => after.congr rfl rfl rfl
  | createCommand made sql =>
      have lends := Lends.onConnection ((Call.NeedsDatabase.createCommand backend sql).rents
        (Connection.createCommand_leaves backend sql)) session name
      cases isTaken : session.commands.contains made with
      | true =>
          simp only [performConnection, newName, Request.rooms, isTaken, if_true]
          exact .nothing session
      | false =>
          simp only [performConnection, newName, Request.rooms, isTaken]
          exact keeping_lends session lends fun _ after => after.congr rfl rfl rfl

theorem performCommand_lends (name : String) (request : CommandRequest) :
    Lends backend.growth ((Request.command name request).rooms session) session
      (performCommand backend session name request).2 := by
  cases isFree : session.freeCommand (ε := Error) name with
  | error refusal =>
      cases request
      case executeReader made =>
        simp only [performCommand, Request.rooms, isFree]
        split
        · exact .nothing session
        · exact .nothing session
      all_goals
        simp only [performCommand, Request.rooms, roomsOfCommand, isFree]
        exact .nothing session
  | ok held =>
      cases request
      case executeReader made =>
        simp only [performCommand, Request.rooms, isFree]
        split
        · exact .nothing session
        · exact keeping_lends session
            (.ofLeaves held.command.executeReader_leaves session held.connection)
            fun _ after => after.congr rfl rfl rfl
      all_goals simp only [performCommand, Request.rooms, roomsOfCommand, isFree]
      case indexOf text => exact .onConnection (Parameter.resolve_rents _ _ _ _) session _
      case bind parameter argument =>
        exact .onConnection (Parameter.bind_rents _ _ _ _ argument) session _
      case bindText parameter text =>
        exact .onConnection (Parameter.bindText_rents _ _ _ _ text) session _
      case sql => exact .ofLeaves (held.command.sql_leaves backend) session _
      case executeNonQuery =>
        exact .ofLeaves (held.command.executeNonQuery_leaves backend) session _
      case parameterCount => exact .ofLeaves (Parameter.count_leaves backend.engine _) session _
      case clear => exact .ofLeaves (Parameter.clear_leaves backend.engine _) session _
      case nameOf index =>
        exact .ofLeaves (Parameter.nameOf_leaves backend.engine _ index) session _
      case finalize =>
        exact (Lends.ofLeaves (held.command.finalize_leaves backend) session _).congr rfl rfl rfl
      case drop =>
        exact (Lends.ofLeaves (held.command.drop_leaves backend) session _).congr rfl rfl rfl

theorem performReader_lends (name : String) (request : ReaderRequest) :
    Lends backend.growth (fun _ => []) session
      (performReader backend session name request).2 := by
  simp only [performReader]
  split
  · exact .nothing session
  rename_i held isHeld
  have goesOn {link : Link σ} (isLink : session.link? held.connection = some link) {last : Link σ}
      (samePool : last.pool = link.pool) :
      Lends backend.growth (fun _ => []) session (session.setLink held.connection last) := by
    have lends : Lends backend.growth (session.roomsOn held.connection fun _ => []) session
        (session.setLink held.connection last) :=
      .setLink isLink (by rw [samePool]; exact .nothing _)
    rwa [roomsOn_nothing] at lends
  cases request
  case cursor => exact .nothing session
  case read =>
    simp only [useReader]
    split
    · exact .nothing session
    · rename_i link isLink
      have same := goesOn isLink (held.reader.read_pool backend.engine link)
      generalize held.reader.read backend.engine link = outcome at same
      rcases outcome with ⟨⟨error | found, reader⟩, last⟩
      · exact same.congr rfl rfl rfl
      · exact same.congr rfl rfl rfl
  case dispose =>
    simp only [useReader]
    split
    · exact .nothing session
    · rename_i link isLink
      have same := goesOn isLink (held.reader.dispose_pool backend.engine link)
      exact same.congr rfl rfl rfl
  all_goals
    rw [useReader_accessor backend _ _ _ rfl]
    cases isLink : session.link? held.connection with
    | none =>
        rw [access, isLink]
        exact .nothing session
    | some link =>
        rw [access_of_link isLink]
        exact (Lends.nothing session).congr rfl rfl rfl

theorem performQuery_lends (request : QueryRequest) :
    Lends backend.growth ((Request.query request).rooms session) session
      (performQuery backend session request).2 := by
  cases request with
  | execute name sql values =>
      exact .onConnection ((Call.NeedsDatabase.execute backend sql values).rents
        (Query.execute_leaves backend sql values)) session name
  | fetchAll name sql values =>
      exact .onConnection ((Call.NeedsDatabase.fetchAll backend sql values).rents
        (Query.fetch_leaves backend sql values none)) session name
  | fetchOne name sql values =>
      exact .onConnection ((Call.NeedsDatabase.fetchOne backend sql values).rents
        (Query.fetchOne_leaves backend sql values)) session name
  | executeTransaction name statements =>
      exact .onConnection ((Call.NeedsDatabase.executeTransaction backend statements).rents
        (Query.executeTransaction_leaves backend statements)) session name
  | bindValue name index value =>
      simp only [performQuery, onCommand]
      split
      · exact .nothing session
      · exact .ofLeaves (LeavesPool.ofConnection (Parameter.bindIndex_leaves _ _ _ _ _)) session _
  | bindValues name values =>
      simp only [performQuery, onCommand]
      split
      · exact .nothing session
      · exact .ofLeaves (Query.bindFrom_leaves _ _ _ _ _ _) session _
  | columnJson name column =>
      obtain ⟨readers, same⟩ := onReader_session session name _
      rw [performQuery, same]
      exact (Lends.nothing session).congr rfl rfl rfl
  | decodeRow name =>
      obtain ⟨readers, same⟩ := onReader_session session name _
      rw [performQuery, same]
      exact (Lends.nothing session).congr rfl rfl rfl

theorem perform_lends (request : Request) (isDriven : request.isDriven = true) :
    Lends backend.growth (request.rooms session) session (perform backend session request).2 := by
  cases request with
  | pool request => cases isDriven
  | connection name request => exact performConnection_lends backend session name request
  | command name request => exact performCommand_lends backend session name request
  | reader name request => exact performReader_lends backend session name request
  | query request => exact performQuery_lends backend session request

end

/-! ## Runs -/

theorem PoolsBalance.lends {rooms : Nat → List Nat} (balance : session.PoolsBalance)
    (lends : Lends growth rooms session after) : after.PoolsBalance where
  handles := by
    rw [lends.buffers]
    exact balance.handles
  areNumbered name number isNamed := by
    rw [lends.poolNames] at isNamed
    rw [lends.length]
    exact balance.areNumbered name number isNamed
  areHeld name held isHeld := by
    rw [lends.buffers] at isHeld
    rw [lends.length]
    exact balance.areHeld name held isHeld
  balanced number pool isThere := by
    have isAfter : number < after.pools.length := (List.getElem?_eq_some_iff.mp isThere).1
    have isBefore : number < session.pools.length := lends.length ▸ isAfter
    rw [getElem?_pool isAfter, Option.some.injEq] at isThere
    have sameSerials : after.heldSerials number = session.heldSerials number := by
      simp [heldSerials, lends.buffers]
    rw [← isThere, sameSerials]
    exact (lends.pools number isBefore).balanced
      (balance.balanced number _ (getElem?_pool isBefore))

theorem perform_balance (balance : session.PoolsBalance) (request : Request) :
    (perform backend session request).2.PoolsBalance := by
  cases request with
  | pool request => exact (performPool_steps backend session request).balance balance
  | _ => exact balance.lends (perform_lends backend session _ rfl)

theorem run_balance (balance : session.PoolsBalance) (requests : List Request) :
    (run backend session requests).2.PoolsBalance := by
  induction requests generalizing session with
  | nil => exact balance
  | cons request rest induction => exact induction (perform_balance balance request)

def Fits (backend : Backend σ) (number : Nat) : Session σ → List Request → Prop
  | _, [] => True
  | session, request :: rest =>
      (∀ room ∈ request.rooms session number,
        room ≤ (session.pool number).config.maxBufferLength.toNat) ∧
      Fits backend number (perform backend session request).2 rest

/-- A pool that keeps buffers never has fewer of them, and makes no second one. -/
theorem run_available (balance : session.PoolsBalance)
    (isExact : ∀ capacity needed, backend.growth.next capacity needed = needed)
    (isNumber : number < session.pools.length)
    (keeps : 1 ≤ (session.pool number).config.maxRetained.toNat) {requests : List Request}
    (areDriven : ∀ request ∈ requests, request.isDriven = true)
    (fits : Fits backend number session requests) :
    let final := (run backend session requests).2
    (session.pool number).available ≤ (final.pool number).available ∧
      (final.pool number).available ≤ max (session.pool number).available 1 := by
  induction requests generalizing session with
  | nil => exact ⟨Nat.le_refl _, Nat.le_max_left _ _⟩
  | cons request rest induction =>
      have isDriven := areDriven request List.mem_cons_self
      have lends := perform_lends backend session request isDriven
      have here := lends.pools number isNumber
      have bounds := here.available_bounds (balance.balanced number _ (getElem?_pool isNumber))
        isExact fits.1 keeps
      have later := induction (balance.lends lends) (lends.length ▸ isNumber)
        (here.config_eq ▸ keeps) (fun other isThere =>
          areDriven other (List.mem_cons_of_mem _ isThere)) fits.2
      simp only [run] at later ⊢
      omega

/-- Whatever has been asked before, a call rents one buffer at a time and gives it back however it
ends. If buffers grow no further than they have to, a pool ends up with one idle buffer, and keeps
it. -/
theorem buffers_given_back (backend : Backend σ) {start : Session σ} (isNew : start.HasNewPools)
    (requests : List Request) :
    let session := (run backend start requests).2
    (∀ request : Request, request.isDriven = true →
      let after := (perform backend session request).2
      Lends backend.growth (request.rooms session) session after ∧
        ∀ number, number < session.pools.length →
          (after.pool number).rented = (session.pool number).rented ∧
            (after.pool number).mostRented ≤
              max (session.pool number).mostRented ((session.pool number).rented + 1)) ∧
    ((∀ capacity needed, backend.growth.next capacity needed = needed) →
      ∀ number, number < session.pools.length →
        1 ≤ (session.pool number).config.maxRetained.toNat →
          ∀ calls : List Request, (∀ call ∈ calls, call.isDriven = true) →
            Fits backend number session calls →
              let final := (run backend session calls).2
              (session.pool number).available ≤ (final.pool number).available ∧
                (final.pool number).available ≤ max (session.pool number).available 1) := by
  intro session
  have balance : session.PoolsBalance := run_balance isNew.balance requests
  constructor
  · intro request isDriven after
    have lends := perform_lends backend session request isDriven
    refine ⟨lends, ?_⟩
    intro number isNumber
    have here := lends.pools number isNumber
    exact ⟨here.rented_eq, here.mostRented_le⟩
  · intro isExact number isNumber keeps calls areDriven fits
    exact run_available balance isExact isNumber keeps areDriven fits

def privatePool : Session Storage.Store where
  engine := {}
  pools := [{}, { config := { maxRetained := 1, maxBufferLength := 24 } }]
  poolNames := [("p", 1)]

def oneParameter : List Request :=
  [.connection "c" (.connect none none (some "p")),
    .connection "c" (.createCommand "k" (.ofString "SELECT :wide"))]

/-- A wide value is bound by a wide name, and then to a parameter that there is none of. -/
def wideValues : List Request :=
  [.command "k" (.bindText (.name (.utf16 (Utf16.ofString ":wide"))) (.utf16 [0x20AC, 0xD800])),
    .command "k" (.bindText (.name (.utf16 (Utf16.ofString ":none"))) (.utf16 [0x20AC]))]

theorem buffers_given_back_wideValues :
    privatePool.HasNewPools ∧
      let session := (run Storage.backend privatePool oneParameter).2
      let final := (run Storage.backend session wideValues).2
      (∀ request ∈ wideValues, ((perform Storage.backend session request).2.pool 1).rented =
          (session.pool 1).rented) ∧
        (session.pool 1).available ≤ (final.pool 1).available ∧
          (final.pool 1).available ≤ max (session.pool 1).available 1 := by
  have isNew : privatePool.HasNewPools := by
    refine ⟨?_, ?_, rfl⟩
    · simp [privatePool]
    · intro name number isThere
      have isPool := List.mem_singleton.mp (Registry.mem_of_get? isThere)
      rw [(Prod.mk.inj isPool).2]
      decide
  have areDriven : ∀ call ∈ wideValues, call.isDriven = true := by
    simp [wideValues, Request.isDriven]
  have fits : Fits Storage.backend 1 (run Storage.backend privatePool oneParameter).2
      wideValues := by
    refine ⟨?_, ?_, trivial⟩
    · decide +kernel
    · decide +kernel
  rcases buffers_given_back Storage.backend isNew oneParameter with ⟨givesBack, keepsOne⟩
  refine ⟨isNew, ?_, keepsOne (fun _ _ => rfl) 1 (by decide +kernel) (by decide +kernel) wideValues
    areDriven fits⟩
  intro request isThere
  exact ((givesBack request (areDriven request isThere)).2 1 (by decide +kernel)).1

end EmbeddedSql.Session
