import EmbeddedSql.Proofs.Scratch.Pool
import EmbeddedSql.Proofs.Session.Link
import EmbeddedSql.Storage.Backend

/-! Scratch pools over whole runs. Whatever is rented, filled, encoded and released
through any of its names, a pool stays within its configuration and every buffer
that it still knows is idle once or held under one name. -/

namespace EmbeddedSql.Session

open Scratch

variable {σ : Type}

/-! ## Balance -/

def heldSerials (session : Session σ) (number : Nat) : List Nat :=
  session.buffers.filterMap fun entry =>
    if entry.2.pool = number then some entry.2.holding.buffer.serial else none

/-- Each name holds one buffer, and each pool is balanced while they are out. -/
structure PoolsBalance (session : Session σ) : Prop where
  handles : session.buffers.names.Nodup
  areNumbered : ∀ name number, session.poolNames.get? name = some number →
    number < session.pools.length
  areHeld : ∀ name held, session.buffers.get? name = some held →
    held.pool < session.pools.length
  balanced : ∀ (number : Nat) (pool : Pool), session.pools[number]? = some pool →
    pool.Balanced (session.heldSerials number)

structure HasNewPools (session : Session σ) : Prop where
  pools : ∀ pool ∈ session.pools, pool = { config := pool.config }
  areNumbered : ∀ name number, session.poolNames.get? name = some number →
    number < session.pools.length
  buffers : session.buffers = []

/-- Pools keep their configurations, and names the pools they stand for. -/
structure PoolsContinue (before after : Session σ) : Prop where
  configs : ∀ (number : Nat) (pool : Pool), before.pools[number]? = some pool →
    ∃ later : Pool, after.pools[number]? = some later ∧ later.config = pool.config
  names : ∀ name number, before.poolNames.get? name = some number →
    after.poolNames.get? name = some number

variable {session before after start : Session σ}

theorem HasNewPools.balance (isNew : session.HasNewPools) : session.PoolsBalance where
  handles := by rw [isNew.buffers]; exact .nil
  areNumbered := isNew.areNumbered
  areHeld name held isHeld := by rw [isNew.buffers] at isHeld; cases isHeld
  balanced number pool isThere := by
    rw [heldSerials, isNew.buffers, isNew.pools pool (List.mem_of_getElem? isThere)]
    exact .new pool.config

theorem PoolsContinue.refl (session : Session σ) : PoolsContinue session session :=
  ⟨fun _ pool isThere => ⟨pool, isThere, rfl⟩, fun _ _ isThere => isThere⟩

theorem PoolsContinue.trans (first : PoolsContinue start before)
    (second : PoolsContinue before after) : PoolsContinue start after where
  configs number pool isThere := by
    obtain ⟨middle, isMiddle, same⟩ := first.configs number pool isThere
    obtain ⟨later, isLater, stillSame⟩ := second.configs number middle isMiddle
    exact ⟨later, isLater, stillSame.trans same⟩
  names name number isThere := second.names name number (first.names name number isThere)

/-! ## Handles -/

variable {name : String} {number other : Nat} {held : HeldBuffer} {pool : Pool}

theorem getElem?_pool (isNumber : number < session.pools.length) :
    session.pools[number]? = some (session.pool number) := by
  simp [Session.pool, isNumber]

theorem setPool_getElem? (pool : Pool) (isNumber : number < session.pools.length) :
    (session.setPool number pool).pools[other]? =
      if other = number then some pool else session.pools[other]? := by
  by_cases isSame : other = number
  · subst isSame
    simp [setPool, isNumber]
  · simp [setPool, isSame, Ne.symm isSame]

def HeldBuffer.serialIn (held : HeldBuffer) (number : Nat) : List Nat :=
  if held.pool = number then [held.holding.buffer.serial] else []

theorem heldSerials_cons (buffers : Registry HeldBuffer) :
    heldSerials { session with buffers := (name, held) :: buffers } number =
      held.serialIn number ++ heldSerials { session with buffers } number := by
  unfold heldSerials HeldBuffer.serialIn
  rw [List.filterMap_cons]
  split <;> simp_all

theorem heldSerials_of_held (handles : session.buffers.names.Nodup)
    (isHeld : session.buffers.get? name = some held) :
    (session.heldSerials number).Perm (held.serialIn number ++
      heldSerials { session with buffers := session.buffers.erase name } number) := by
  have splits : held.serialIn number ++
      heldSerials { session with buffers := session.buffers.erase name } number =
        heldSerials { session with buffers := (name, held) :: session.buffers.erase name } number :=
    (heldSerials_cons _).symm
  rw [splits]
  exact (Registry.perm_of_get? handles isHeld).filterMap _

theorem heldSerials_insert (held : HeldBuffer) :
    heldSerials { session with buffers := session.buffers.insert name held } number =
      held.serialIn number ++
        heldSerials { session with buffers := session.buffers.erase name } number :=
  heldSerials_cons _

/-! ## One request -/

inductive PoolStep (growth : Growth) (session : Session σ) : Session σ → Prop
  | unchanged : PoolStep growth session session
  | created (name : String) (config : PoolConfig)
      (isNew : session.poolNames.get? name = none) :
      PoolStep growth session
        { session with
          pools := session.pools ++ [{ config }]
          poolNames := session.poolNames.insert name session.pools.length }
  | shared (name source : String) (number : Nat)
      (isNew : session.poolNames.get? name = none)
      (isSource : session.poolNames.get? source = some number) :
      PoolStep growth session
        { session with poolNames := session.poolNames.insert name number }
  | rented (name source : String) (number minimum : Nat) (holding : Holding)
      (isNew : session.buffers.get? name = none)
      (isSource : session.poolNames.get? source = some number)
      (isRented : holding.buffer.serial =
        ((session.pool number).rent growth minimum).1.serial) :
      PoolStep growth session
        { session.setPool number ((session.pool number).rent growth minimum).2 with
          buffers := session.buffers.insert name ⟨number, holding⟩ }
  | filled (name : String) (held : HeldBuffer) (holding : Holding)
      (isHeld : session.buffers.get? name = some held)
      (isSame : holding.buffer.serial = held.holding.buffer.serial) :
      PoolStep growth session
        { session with buffers := session.buffers.insert name { held with holding } }
  | released (name : String) (held : HeldBuffer)
      (isHeld : session.buffers.get? name = some held) :
      PoolStep growth session
        { session.setPool held.pool ((session.pool held.pool).giveBack held.holding.buffer) with
          buffers := session.buffers.erase name }

section

variable {α β : Type} {Keeps : Session σ → Prop} (unchanged : Keeps session)
include unchanged

theorem commit_newName {registry : Registry β} {rest : Except (Refusal Error) (α × Session σ)}
    (ifNew : registry.get? name = none → Keeps (commit session rest).2) :
    Keeps (commit session (newName registry name >>= fun _ => rest)).2 := by
  cases isNew : newName (ε := Error) registry name with
  | error refusal => exact unchanged
  | ok _ => exact ifNew (get?_eq_none_of_newName isNew)

theorem commit_poolNumber {rest : Nat → Except (Refusal Error) (α × Session σ)}
    (ifNamed : ∀ number, session.poolNames.get? name = some number →
      Keeps (commit session (rest number)).2) :
    Keeps (commit session (poolNumber session name >>= rest)).2 := by
  unfold poolNumber
  cases isNamed : session.poolNames.get? name with
  | none => exact unchanged
  | some number => exact ifNamed number isNamed

theorem commit_findBuffer {rest : HeldBuffer → Except (Refusal Error) (α × Session σ)}
    (ifHeld : ∀ held, session.buffers.get? name = some held →
      Keeps (commit session (rest held)).2) :
    Keeps (commit session (findBuffer session name >>= rest)).2 := by
  unfold findBuffer
  cases isHeld : session.buffers.get? name with
  | none => exact unchanged
  | some held => exact ifHeld held isHeld

end

theorem performPool_steps (backend : Backend σ) (session : Session σ) (request : PoolRequest) :
    PoolStep backend.growth session (performPool backend session request).2 := by
  cases request with
  | create pool config =>
      refine commit_newName .unchanged fun isNew => ?_
      cases readConfig (ε := Error) PoolConfig.format {} config with
      | error refusal => exact .unchanged
      | ok config => exact .created pool config isNew
  | share pool source =>
      refine commit_newName .unchanged fun isNew => ?_
      exact commit_poolNumber .unchanged fun number => .shared pool source number isNew
  | available pool => exact commit_poolNumber .unchanged fun _ _ => .unchanged
  | rent pool buffer minimum =>
      refine commit_newName .unchanged fun isNew => ?_
      refine commit_poolNumber .unchanged fun number isSource => ?_
      exact .rented buffer pool number minimum _ isNew isSource rfl
  | append buffer bytes =>
      refine commit_findBuffer .unchanged fun held isHeld => ?_
      rcases held with ⟨number, rented | text⟩
      · exact .filled buffer ⟨number, .rented rented⟩ (.rented _) isHeld
          (Buffer.append_serial ..)
      · exact .unchanged
  | encode pool buffer encoding =>
      refine commit_newName .unchanged fun isNew => ?_
      refine commit_poolNumber .unchanged fun number isSource => ?_
      obtain ⟨minimum, isRented, isLeft⟩ :=
        encoding.encode_rents backend.growth (session.pool number)
      have rented : PoolStep backend.growth session _ :=
        .rented buffer pool number minimum
          (.encoded (encoding.encode backend.growth (session.pool number)).1)
          isNew isSource isRented
      rwa [← isLeft] at rented
  | contents buffer => exact commit_findBuffer .unchanged fun _ _ => .unchanged
  | release buffer =>
      exact commit_findBuffer .unchanged fun held isHeld => .released buffer held isHeld

/-! ## Balance is kept -/

variable {growth : Growth}

theorem setPool_continues (isNumber : number < session.pools.length)
    (sameConfig : pool.config = (session.pool number).config) (buffers : Registry HeldBuffer) :
    PoolsContinue session { session.setPool number pool with buffers } where
  configs other before isThere := by
    rw [setPool_getElem? pool isNumber]
    split
    · rename_i isSame
      rw [isSame, getElem?_pool isNumber] at isThere
      exact ⟨pool, rfl, sameConfig.trans (congrArg Pool.config (Option.some.inj isThere))⟩
    · exact ⟨before, isThere, rfl⟩
  names _ _ isThere := isThere

theorem addName_continues (isNew : session.poolNames.get? name = none) (number : Nat)
    (added : List Pool) :
    PoolsContinue session
      { session with
        pools := session.pools ++ added
        poolNames := session.poolNames.insert name number } where
  configs other pool isThere :=
    ⟨pool, by rw [List.getElem?_append_left (List.getElem?_eq_some_iff.mp isThere).1, isThere],
      rfl⟩
  names other _ isThere := by
    have isOther : other ≠ name := by
      rintro rfl
      cases isNew.symm.trans isThere
    rw [Registry.get?_insert_of_ne _ _ isOther, isThere]

theorem PoolStep.continues (balance : session.PoolsBalance)
    (step : PoolStep growth session after) : PoolsContinue session after := by
  cases step with
  | unchanged => exact .refl session
  | created name config isNew => exact addName_continues isNew _ [_]
  | shared name source number isNew _ =>
      simpa using addName_continues isNew number []
  | rented name source number minimum holding _ isSource _ =>
      exact setPool_continues (balance.areNumbered _ _ isSource) (Pool.rent_config ..) _
  | filled name held holding _ _ =>
      exact ⟨fun _ pool isThere => ⟨pool, isThere, rfl⟩, fun _ _ isThere => isThere⟩
  | released name held isHeld =>
      exact setPool_continues (balance.areHeld _ _ isHeld) (Pool.giveBack_config ..) _

theorem PoolsBalance.heldSerials_of_new (balance : session.PoolsBalance)
    (isNew : session.pools.length ≤ number) : session.heldSerials number = [] := by
  refine List.filterMap_eq_nil_iff.mpr fun entry isThere => if_neg ?_
  rintro rfl
  have isHeld := Registry.get?_of_mem balance.handles isThere
  exact Nat.lt_irrefl _ (Nat.lt_of_lt_of_le (balance.areHeld _ _ isHeld) isNew)

theorem PoolsBalance.areNumbered_insert (balance : session.PoolsBalance) {bound : Nat}
    (isBound : session.pools.length ≤ bound) (isNumber : number < bound) (other : String)
    (found : Nat) (isThere : (session.poolNames.insert name number).get? other = some found) :
    found < bound := by
  rw [Registry.get?_insert] at isThere
  split at isThere
  · cases isThere
    exact isNumber
  · exact Nat.lt_of_lt_of_le (balance.areNumbered other found isThere) isBound

theorem PoolsBalance.areHeld_insert (balance : session.PoolsBalance)
    (isNumber : held.pool < session.pools.length) (other : String) (found : HeldBuffer)
    (isThere : (session.buffers.insert name held).get? other = some found) :
    found.pool < session.pools.length := by
  rw [Registry.get?_insert] at isThere
  split at isThere
  · cases isThere
    exact isNumber
  · exact balance.areHeld other found isThere

theorem PoolsBalance.created (balance : session.PoolsBalance) (config : PoolConfig)
    (name : String) :
    PoolsBalance { session with
      pools := session.pools ++ [{ config }]
      poolNames := session.poolNames.insert name session.pools.length } where
  handles := balance.handles
  areNumbered := by
    simpa using balance.areNumbered_insert (Nat.le_succ _) (Nat.lt_succ_self _)
  areHeld other held isHeld := by
    simpa using Nat.lt_succ_of_lt (balance.areHeld other held isHeld)
  balanced number pool isThere := by
    change pool.Balanced (session.heldSerials number)
    rcases Nat.lt_or_ge number session.pools.length with isOld | isNew
    · rw [List.getElem?_append_left isOld] at isThere
      exact balance.balanced number pool isThere
    · rw [List.getElem?_append_right isNew, List.getElem?_singleton] at isThere
      split at isThere
      · cases isThere
        rw [balance.heldSerials_of_new isNew]
        exact .new config
      · cases isThere

theorem PoolsBalance.shared (balance : session.PoolsBalance)
    (isNumber : number < session.pools.length) (name : String) :
    PoolsBalance { session with poolNames := session.poolNames.insert name number } where
  handles := balance.handles
  areNumbered := balance.areNumbered_insert (Nat.le_refl _) isNumber
  areHeld := balance.areHeld
  balanced := balance.balanced

theorem PoolsBalance.rented (balance : session.PoolsBalance) {minimum : Nat} {holding : Holding}
    (isNumber : number < session.pools.length) (isNew : session.buffers.get? name = none)
    (isRented : holding.buffer.serial = ((session.pool number).rent growth minimum).1.serial) :
    PoolsBalance
      { session.setPool number ((session.pool number).rent growth minimum).2 with
        buffers := session.buffers.insert name ⟨number, holding⟩ } where
  handles := Registry.names_insert_nodup balance.handles name _
  areNumbered := by simpa [setPool] using balance.areNumbered
  areHeld := by simpa [setPool] using balance.areHeld_insert isNumber
  balanced other pool isThere := by
    have serials : heldSerials { session with
        buffers := session.buffers.insert name ⟨number, holding⟩ } other =
          HeldBuffer.serialIn ⟨number, holding⟩ other ++ session.heldSerials other := by
      rw [heldSerials_insert, Registry.erase_of_missing isNew]
    change pool.Balanced (heldSerials { session with buffers := _ } other)
    rw [serials]
    rw [setPool_getElem? _ isNumber] at isThere
    split at isThere
    · rename_i isSame
      subst isSame
      cases isThere
      simpa [HeldBuffer.serialIn, isRented] using
        (balance.balanced other _ (getElem?_pool isNumber)).rent
    · rename_i isOther
      simpa [HeldBuffer.serialIn, Ne.symm isOther] using balance.balanced other pool isThere

theorem PoolsBalance.filled (balance : session.PoolsBalance) {holding : Holding}
    (isHeld : session.buffers.get? name = some held)
    (isSame : holding.buffer.serial = held.holding.buffer.serial) :
    PoolsBalance
      { session with buffers := session.buffers.insert name { held with holding } } where
  handles := Registry.names_insert_nodup balance.handles name _
  areNumbered := balance.areNumbered
  areHeld := by
    have isNumber : ({ held with holding } : HeldBuffer).pool < session.pools.length :=
      balance.areHeld name held isHeld
    exact balance.areHeld_insert isNumber
  balanced number pool isThere := by
    refine (balance.balanced number pool isThere).ofPerm ?_
    rw [heldSerials_insert]
    simpa [HeldBuffer.serialIn, isSame] using heldSerials_of_held balance.handles isHeld

theorem PoolsBalance.released (balance : session.PoolsBalance)
    (isHeld : session.buffers.get? name = some held) :
    PoolsBalance
      { session.setPool held.pool ((session.pool held.pool).giveBack held.holding.buffer) with
        buffers := session.buffers.erase name } where
  handles := Registry.names_erase_nodup balance.handles name
  areNumbered := by simpa [setPool] using balance.areNumbered
  areHeld other found isThere := by
    rw [Registry.get?_erase] at isThere
    split at isThere
    · cases isThere
    · simpa [setPool] using balance.areHeld other found isThere
  balanced other pool isThere := by
    have isNumber := balance.areHeld _ _ isHeld
    have serials : (session.heldSerials other).Perm _ :=
      heldSerials_of_held balance.handles isHeld
    change pool.Balanced (heldSerials { session with buffers := _ } other)
    rw [setPool_getElem? _ isNumber] at isThere
    split at isThere
    · rename_i isSame
      subst isSame
      cases isThere
      simp only [HeldBuffer.serialIn, if_true] at serials
      exact ((balance.balanced _ _ (getElem?_pool isNumber)).ofPerm serials).giveBack
    · rename_i isOther
      simp only [HeldBuffer.serialIn, if_neg (Ne.symm isOther), List.nil_append] at serials
      exact (balance.balanced other pool isThere).ofPerm serials

theorem PoolStep.balance (balance : session.PoolsBalance)
    (step : PoolStep growth session after) : after.PoolsBalance := by
  cases step with
  | unchanged => exact balance
  | created name config _ => exact balance.created config name
  | shared name source number _ isSource =>
      exact balance.shared (balance.areNumbered _ _ isSource) name
  | rented name source number minimum holding isNew isSource isRented =>
      exact balance.rented (balance.areNumbered _ _ isSource) isNew isRented
  | filled name held holding isHeld isSame => exact balance.filled isHeld isSame
  | released name held isHeld => exact balance.released isHeld

theorem run_pools (backend : Backend σ) (balance : session.PoolsBalance)
    (requests : List PoolRequest) :
    (run backend session (requests.map .pool)).2.PoolsBalance ∧
      PoolsContinue session (run backend session (requests.map .pool)).2 := by
  induction requests generalizing session with
  | nil => exact ⟨balance, .refl session⟩
  | cons request rest induction =>
      have step := performPool_steps backend session request
      obtain ⟨balanceAfter, continues⟩ := induction (step.balance balance)
      exact ⟨balanceAfter, (step.continues balance).trans continues⟩

/-! ## Answers -/

/-- What lends a buffer of a pool to a handle leaves one idle buffer less, if there
are any. -/
structure Rents (before after : Session σ) (number : Nat) (name : String)
    (holding : Holding) : Prop where
  isHeld : after.buffers.get? name = some ⟨number, holding⟩
  available : (after.pool number).available = (before.pool number).available - 1
  others : ∀ other, other ≠ number → after.pool other = before.pool other

/-- A released buffer is idle again if it is not too large and not too many. -/
structure Returns (before after : Session σ) (name : String) (held : HeldBuffer) : Prop where
  isReleased : after.buffers.get? name = none
  available : (after.pool held.pool).available =
    if held.holding.buffer.capacity ≤ (before.pool held.pool).config.maxBufferLength.toNat ∧
        (before.pool held.pool).available < (before.pool held.pool).config.maxRetained.toNat
    then (before.pool held.pool).available + 1
    else (before.pool held.pool).available
  others : ∀ other, other ≠ held.pool → after.pool other = before.pool other

theorem setPool_pool (pool : Pool) (isNumber : number < session.pools.length) (other : Nat) :
    (session.setPool number pool).pool other =
      if other = number then pool else session.pool other := by
  rw [Session.pool, setPool_getElem? pool isNumber]
  split <;> rfl

theorem setPool_rents {minimum : Nat} {holding : Holding}
    (isNumber : number < session.pools.length)
    (isLeft : pool = ((session.pool number).rent growth minimum).2) :
    Rents session
      { session.setPool number pool with
        buffers := session.buffers.insert name ⟨number, holding⟩ } number name holding where
  isHeld := Registry.get?_insert_self ..
  available := by
    change ((session.setPool number pool).pool number).available = _
    rw [setPool_pool pool isNumber, if_pos rfl, isLeft, Pool.rent_available]
  others other isOther := by
    change (session.setPool number pool).pool other = _
    rw [setPool_pool pool isNumber, if_neg isOther]

theorem setPool_returns (isNumber : held.pool < session.pools.length) :
    Returns session
      { session.setPool held.pool ((session.pool held.pool).giveBack held.holding.buffer) with
        buffers := session.buffers.erase name } name held where
  isReleased := Registry.get?_erase_self ..
  available := by
    change ((session.setPool _ _).pool held.pool).available = _
    rw [setPool_pool _ isNumber, if_pos rfl, Pool.giveBack_available]
  others other isOther := by
    change (session.setPool _ _).pool other = _
    rw [setPool_pool _ isNumber, if_neg isOther]

theorem performPool_rent (backend : Backend σ) {source : String} (minimum : Nat)
    (isNew : session.buffers.get? name = none)
    (isSource : session.poolNames.get? source = some number) :
    performPool backend session (.rent source name minimum) =
      (.ok (.rented 0 true),
        { session.setPool number ((session.pool number).rent backend.growth minimum).2 with
          buffers := session.buffers.insert name
            ⟨number, .rented ((session.pool number).rent backend.growth minimum).1⟩ }) := by
  have isEmpty : ((session.pool number).rent backend.growth minimum).1.length = 0 := by
    rw [Buffer.length, Pool.rent_contents, List.length_nil]
  have isEnough := Pool.le_rent_capacity backend.growth minimum (session.pool number)
  unfold performPool
  simp only [newName_of_missing isNew, poolNumber, isSource, bind, Except.bind, pure,
    Except.pure, commit, isEmpty, isEnough, decide_true]

theorem performPool_encode (backend : Backend σ) {source : String} (encoding : Encoding)
    (isNew : session.buffers.get? name = none)
    (isSource : session.poolNames.get? source = some number) :
    performPool backend session (.encode source name encoding) =
      (.ok (.encoded (encoding.encode backend.growth (session.pool number)).1),
        { session.setPool number (encoding.encode backend.growth (session.pool number)).2 with
          buffers := session.buffers.insert name
            ⟨number, .encoded (encoding.encode backend.growth (session.pool number)).1⟩ }) := by
  unfold performPool
  simp only [newName_of_missing isNew, poolNumber, isSource, bind, Except.bind, pure,
    Except.pure, commit]

theorem performPool_release (backend : Backend σ)
    (isHeld : session.buffers.get? name = some held) :
    performPool backend session (.release name) =
      (.ok .nothing,
        { session.setPool held.pool ((session.pool held.pool).giveBack held.holding.buffer) with
          buffers := session.buffers.erase name }) := by
  unfold performPool
  simp only [findBuffer, isHeld, bind, Except.bind, pure, Except.pure, commit]

theorem performPool_available (backend : Backend σ)
    (isNamed : session.poolNames.get? name = some number) :
    performPool backend session (.available name) =
      (.ok (.number (session.pool number).available), session) := by
  unfold performPool
  simp only [poolNumber, isNamed, bind, Except.bind, pure, Except.pure, commit]


theorem shares_of_ok {backend : Backend σ} {source : String} {answer : Answer}
    (isShared : performPool backend session (.share name source) = (.ok answer, after)) :
    ∃ number, after.poolNames.get? name = some number ∧
      after.poolNames.get? source = some number := by
  unfold performPool at isShared
  dsimp only at isShared
  cases isNew : newName (ε := Error) session.poolNames name with
  | error refusal => simp [commit, isNew, bind, Except.bind] at isShared
  | ok _ =>
      cases isSource : session.poolNames.get? source with
      | none => simp [commit, isNew, isSource, poolNumber, bind, Except.bind] at isShared
      | some number =>
          simp only [commit, isNew, isSource, poolNumber, bind, Except.bind, pure, Except.pure,
            Prod.mk.injEq] at isShared
          obtain ⟨-, rfl⟩ := isShared
          have isOther : source ≠ name := by
            rintro rfl
            cases (get?_eq_none_of_newName isNew).symm.trans isSource
          exact ⟨number, Registry.get?_insert_self ..,
            (Registry.get?_insert_of_ne _ _ isOther).trans isSource⟩

/-- Pools whose buffers have not been used stay balanced over every run of requests,
under any growth of buffers: at its end too, all names of a pool report the same idle
buffers, renting and encoding take one of them, and releasing gives one back. -/
theorem scratch_pools_balance (backend : Backend σ) (isNew : start.HasNewPools)
    (requests : List PoolRequest) :
    let session := (run backend start (requests.map .pool)).2
    session.PoolsBalance ∧ PoolsContinue start session ∧
      (∀ name source answer shared,
        performPool backend session (.share name source) = (.ok answer, shared) →
          ∀ later : List PoolRequest,
            let final := (run backend shared (later.map .pool)).2
            ∃ number, ∀ handle ∈ [name, source],
              performPool backend final (.available handle) =
                (.ok (.number (final.pool number).available), final)) ∧
      (∀ source number name, session.poolNames.get? source = some number →
        session.buffers.get? name = none →
          (∀ minimum, ∃ buffer after,
            performPool backend session (.rent source name minimum) =
                (.ok (.rented 0 true), after) ∧
              Rents session after number name (.rented buffer) ∧
                buffer.contents = [] ∧ minimum ≤ buffer.capacity) ∧
          (∀ encoding, ∃ text after,
            performPool backend session (.encode source name encoding) =
                (.ok (.encoded text), after) ∧
              Rents session after number name (.encoded text))) ∧
      (∀ name held, session.buffers.get? name = some held →
        ∃ after, performPool backend session (.release name) = (.ok .nothing, after) ∧
          Returns session after name held) := by
  intro session
  have ⟨balance, continues⟩ := run_pools backend isNew.balance requests
  refine ⟨balance, continues, ?_, ?_, ?_⟩
  · intro name source answer shared isShared later final
    have balanceShared : shared.PoolsBalance := by
      have step := performPool_steps backend session (.share name source)
      rw [isShared] at step
      exact step.balance balance
    obtain ⟨number, isName, isSource⟩ := shares_of_ok isShared
    have ⟨_, continuesShared⟩ := run_pools backend balanceShared later
    refine ⟨number, fun handle isHandle => ?_⟩
    rcases List.mem_pair.mp isHandle with rfl | rfl
    · exact performPool_available backend (continuesShared.names _ _ isName)
    · exact performPool_available backend (continuesShared.names _ _ isSource)
  · intro source number name isSource isFree
    have isNumber := balance.areNumbered source number isSource
    refine ⟨fun minimum => ?_, fun encoding => ?_⟩
    · exact ⟨_, _, performPool_rent backend minimum isFree isSource,
        setPool_rents isNumber rfl, Pool.rent_contents .., Pool.le_rent_capacity ..⟩
    · obtain ⟨minimum, _, isLeft⟩ :=
        encoding.encode_rents backend.growth (session.pool number)
      exact ⟨_, _, performPool_encode backend encoding isFree isSource,
        setPool_rents isNumber isLeft⟩
  · intro name held isHeld
    exact ⟨_, performPool_release backend isHeld, setPool_returns (balance.areHeld _ _ isHeld)⟩

def smallPool : Session Storage.Store where
  engine := {}
  pools := [{ config := { maxRetained := 1, maxBufferLength := 4 } }]
  poolNames := [("p", 0)]

/-- Two buffers are rented under two names of a pool, and one of them grows too large
to be kept. -/
def outgrown : List PoolRequest :=
  [.share "q" "p", .rent "q" "a" 2, .rent "p" "b" 2, .append "a" [1, 2, 3, 4, 5],
    .release "b", .release "a"]

theorem scratch_pools_balance_outgrown :
    smallPool.HasNewPools ∧
      let session := (run Storage.backend smallPool (outgrown.map .pool)).2
      session.PoolsBalance ∧ (session.pool 0).available = 1 ∧
        ∃ buffer after, performPool Storage.backend session (.rent "q" "c" 3) =
            (.ok (.rented 0 true), after) ∧
          Rents session after 0 "c" (.rented buffer) ∧ (after.pool 0).available = 0 := by
  have isNew : smallPool.HasNewPools := by
    refine ⟨fun pool isThere => ?_, fun name number isThere => ?_, rfl⟩
    · rw [List.mem_singleton.mp isThere]
    · have isPool := List.mem_singleton.mp (Registry.mem_of_get? isThere)
      rw [(Prod.mk.inj isPool).2]
      decide
  obtain ⟨balance, -, -, rents, -⟩ := scratch_pools_balance Storage.backend isNew outgrown
  have isIdle : ((run Storage.backend smallPool (outgrown.map .pool)).2.pool 0).available = 1 := by
    decide +kernel
  obtain ⟨buffer, after, isAnswer, isRented, -⟩ :=
    (rents "q" 0 "c" (by decide +kernel) (by decide +kernel)).1 3
  exact ⟨isNew, balance, isIdle, buffer, after, isAnswer, isRented,
    by rw [isRented.available, isIdle]⟩

end EmbeddedSql.Session
