import EmbeddedSql.Connection.Command

/-! A session: named pools, buffers, connections, commands and readers over one
engine. -/

namespace EmbeddedSql

abbrev Registry (α : Type) := List (String × α)

namespace Registry

variable {α : Type}

def get? (registry : Registry α) (name : String) : Option α :=
  List.lookup name registry

def contains (registry : Registry α) (name : String) : Bool :=
  (registry.get? name).isSome

def erase (registry : Registry α) (name : String) : Registry α :=
  registry.filter (·.1 ≠ name)

/-- Puts a value under a name, in place of one that is there. -/
def insert (registry : Registry α) (name : String) (value : α) : Registry α :=
  (name, value) :: registry.erase name

/-! What is found under a name depends on the last change under that name. -/

@[simp] theorem get?_erase_self (registry : Registry α) (name : String) :
    (registry.erase name).get? name = none := by
  rw [get?, List.lookup_eq_none_iff]
  intro entry isThere
  have isOther := (List.mem_filter.mp isThere).2
  simp only [ne_eq, decide_not, Bool.not_eq_true', decide_eq_false_iff_not] at isOther
  simpa using Ne.symm isOther

theorem get?_erase_of_ne (registry : Registry α) {name other : String} (isOther : other ≠ name) :
    (registry.erase name).get? other = registry.get? other := by
  unfold get? erase
  induction registry with
  | nil => rfl
  | cons entry rest induction =>
      rcases entry with ⟨key, value⟩
      rw [List.filter_cons, List.lookup_cons]
      by_cases isName : key = name
      · subst isName
        have isSkipped : (other == key) = false := by simp [isOther]
        simpa [isSkipped] using induction
      · simp only [ne_eq, isName, not_false_eq_true, decide_true, if_true, List.lookup_cons]
        rw [induction]

@[simp] theorem get?_insert_self (registry : Registry α) (name : String) (value : α) :
    (registry.insert name value).get? name = some value := by
  simp [get?, insert]

theorem get?_insert_of_ne (registry : Registry α) {name other : String} (value : α)
    (isOther : other ≠ name) :
    (registry.insert name value).get? other = registry.get? other := by
  have isSkipped : (other == name) = false := by simp [isOther]
  rw [← get?_erase_of_ne registry isOther]
  simp [get?, insert, List.lookup_cons, isSkipped]

theorem get?_insert (registry : Registry α) (name other : String) (value : α) :
    (registry.insert name value).get? other =
      if other = name then some value else registry.get? other := by
  split
  · rename_i isName
    rw [isName, get?_insert_self]
  · rename_i isOther
    exact get?_insert_of_ne registry value isOther

theorem get?_erase (registry : Registry α) (name other : String) :
    (registry.erase name).get? other = if other = name then none else registry.get? other := by
  split
  · rename_i isName
    rw [isName, get?_erase_self]
  · rename_i isOther
    exact get?_erase_of_ne registry isOther

theorem erase_of_missing {registry : Registry α} {name : String}
    (isMissing : registry.get? name = none) : registry.erase name = registry := by
  refine List.filter_eq_self.mpr fun entry isThere => ?_
  have isOther := List.lookup_eq_none_iff.mp isMissing entry isThere
  simpa using Ne.symm (by simpa using isOther)

theorem erase_insert (registry : Registry α) (name : String) (value : α) :
    (registry.insert name value).erase name = registry.erase name := by
  simp [insert, erase, List.filter_filter]

theorem insert_insert (registry : Registry α) (name : String) (first second : α) :
    (registry.insert name first).insert name second = registry.insert name second :=
  congrArg (List.cons (name, second)) (erase_insert registry name first)

theorem mem_of_get? {registry : Registry α} {name : String} {value : α}
    (isThere : registry.get? name = some value) : (name, value) ∈ registry := by
  unfold get? at isThere
  induction registry with
  | nil => exact nomatch isThere
  | cons entry rest induction =>
      rcases entry with ⟨key, other⟩
      rw [List.lookup_cons] at isThere
      cases isFound : name == key with
      | false => exact List.mem_cons_of_mem _ (induction (by simpa [isFound] using isThere))
      | true =>
          rw [isFound] at isThere
          rw [eq_of_beq isFound, Option.some.inj isThere]
          exact List.mem_cons_self

end Registry

namespace Session

/-- A buffer in use: rented as it is, or holding an encoded text. -/
inductive Holding where
  | rented (buffer : Scratch.Buffer)
  | encoded (text : Scratch.Encoded)
deriving DecidableEq, Repr

def Holding.buffer : Holding → Scratch.Buffer
  | .rented buffer => buffer
  | .encoded text => text.buffer

/-! Commands belong to a connection, and readers to a connection and perhaps to
one of its commands. Pools are numbered, since several names may stand for one. -/

structure HeldBuffer where
  pool : Nat
  holding : Holding
deriving DecidableEq, Repr

structure HeldConnection where
  pool : Nat
  connection : Connection
deriving DecidableEq, Repr

structure HeldCommand where
  connection : String
  command : Command
deriving DecidableEq, Repr

structure HeldReader where
  connection : String
  command : Option String
  reader : Reader
deriving DecidableEq, Repr

end Session

structure Session (σ : Type) where
  engine : σ
  /-- The first pool serves the connections that name none. -/
  pools : List Scratch.Pool := [{}]
  poolNames : Registry Nat := []
  buffers : Registry Session.HeldBuffer := []
  connections : Registry Session.HeldConnection := []
  commands : Registry Session.HeldCommand := []
  readers : Registry Session.HeldReader := []

inductive Refusal (ε : Type) where
  | noSuchHandle
  | handleInUse
  | badConfig
  | failed (error : ε)
deriving DecidableEq, Repr

namespace Session

variable {σ ε α : Type}

/-! ## Pools -/

def pool (session : Session σ) (number : Nat) : Scratch.Pool :=
  session.pools[number]?.getD {}

def setPool (session : Session σ) (number : Nat) (pool : Scratch.Pool) : Session σ :=
  { session with pools := session.pools.set number pool }

/-! ## Handles in use -/

def commandIsRead (session : Session σ) (command : String) : Bool :=
  session.readers.any (·.2.command = some command)

def connectionIsUsed (session : Session σ) (connection : String) : Bool :=
  session.commands.any (·.2.connection = connection) ||
    session.readers.any (·.2.connection = connection)

def freeCommand (session : Session σ) (name : String) : Except (Refusal ε) HeldCommand :=
  match session.commands.get? name with
  | none => .error .noSuchHandle
  | some command =>
      if session.commandIsRead name then .error .handleInUse else .ok command

def findReader (session : Session σ) (name : String) : Except (Refusal ε) HeldReader :=
  match session.readers.get? name with
  | none => .error .noSuchHandle
  | some reader => .ok reader

def newName {β : Type} (registry : Registry β) (name : String) : Except (Refusal ε) Unit :=
  if registry.contains name then .error .handleInUse else .ok ()

/-! ## Links -/

def link? (session : Session σ) (connection : String) : Option (Link σ) :=
  (session.connections.get? connection).map fun held =>
    { connection := held.connection, pool := session.pool held.pool,
      engine := session.engine }

/-- Takes over what a call has done to a connection, its pool and the engine. -/
def setLink (session : Session σ) (connection : String) (link : Link σ) : Session σ :=
  match session.connections.get? connection with
  | none => { session with engine := link.engine }
  | some held =>
      { session.setPool held.pool link.pool with
        engine := link.engine
        connections :=
          session.connections.insert connection { held with connection := link.connection } }

def onConnection (session : Session σ) (connection : String)
    (call : ExceptT ε (StateM (Link σ)) α) : Except (Refusal ε) α × Session σ :=
  match session.link? connection with
  | none => (.error .noSuchHandle, session)
  | some link =>
      match call link with
      | (.ok answer, link) => (.ok answer, session.setLink connection link)
      | (.error error, link) => (.error (.failed error), session.setLink connection link)

end Session

end EmbeddedSql
