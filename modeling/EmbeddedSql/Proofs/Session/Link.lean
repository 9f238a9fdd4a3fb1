import Mathlib.Data.List.Nodup
import EmbeddedSql.Session.Perform

/-! What a call on one connection leaves of the session around it. -/

/-! ## Registries

If its names are each used once, a registry holds exactly what is found in it. -/

namespace EmbeddedSql.Registry

variable {α : Type} {registry : Registry α} {name : String} {value : α}

def names (registry : Registry α) : List String :=
  registry.map (·.1)

theorem names_erase_nodup (isUnique : registry.names.Nodup) (name : String) :
    (registry.erase name).names.Nodup :=
  isUnique.sublist (List.filter_sublist.map _)

theorem not_mem_names_erase (registry : Registry α) (name : String) :
    name ∉ (registry.erase name).names := by
  simp [names, erase]

theorem names_insert_nodup (isUnique : registry.names.Nodup) (name : String) (value : α) :
    (registry.insert name value).names.Nodup :=
  List.nodup_cons.mpr ⟨not_mem_names_erase registry name, names_erase_nodup isUnique name⟩

theorem get?_eq_none_of_not_mem (isMissing : name ∉ registry.names) :
    registry.get? name = none := by
  refine List.lookup_eq_none_iff.mpr fun entry isThere => ?_
  simp only [bne_iff_ne]
  rintro rfl
  exact isMissing (List.mem_map.mpr ⟨_, isThere, rfl⟩)

theorem get?_of_mem (isUnique : registry.names.Nodup) (isThere : (name, value) ∈ registry) :
    registry.get? name = some value := by
  induction registry with
  | nil => cases isThere
  | cons entry rest induction =>
      rcases entry with ⟨key, other⟩
      obtain ⟨isFirst, isUnique⟩ := List.nodup_cons.mp isUnique
      rcases List.mem_cons.mp isThere with isEntry | isLater
      · cases isEntry
        simp [get?]
      · have isOther : (name == key) = false := by
          simp only [beq_eq_false_iff_ne]
          rintro rfl
          exact isFirst (List.mem_map.mpr ⟨_, isLater, rfl⟩)
        rw [get?, List.lookup_cons, isOther]
        exact induction isUnique isLater

theorem mem_iff_get? (isUnique : registry.names.Nodup) :
    (name, value) ∈ registry ↔ registry.get? name = some value :=
  ⟨get?_of_mem isUnique, mem_of_get?⟩

/-- A value that is found is one of the entries, and the others are what is left
without it. -/
theorem perm_of_get? (isUnique : registry.names.Nodup)
    (isThere : registry.get? name = some value) :
    registry.Perm ((name, value) :: registry.erase name) := by
  induction registry with
  | nil => cases isThere
  | cons entry rest induction =>
      rcases entry with ⟨key, other⟩
      obtain ⟨isFirst, isUnique⟩ := List.nodup_cons.mp isUnique
      by_cases isName : key = name
      · subst isName
        have isValue : other = value := by simpa [get?] using isThere
        have isMissing : erase rest key = rest :=
          erase_of_missing (get?_eq_none_of_not_mem isFirst)
        have isErased : erase ((key, other) :: rest) key = rest := by
          rw [erase, List.filter_cons_of_neg (by simp)]
          exact isMissing
        rw [isErased, isValue]
      · have isOther : (name == key) = false := by simpa using Ne.symm isName
        have isErased : erase ((key, other) :: rest) name = (key, other) :: erase rest name := by
          rw [erase, List.filter_cons_of_pos (by simpa using isName), erase]
        rw [get?, List.lookup_cons, isOther] at isThere
        rw [isErased]
        exact ((induction isUnique isThere).cons (key, other)).trans (.swap ..)

end EmbeddedSql.Registry

namespace EmbeddedSql.Session

variable {σ ε α : Type} (session : Session σ) (name : String) (link : Link σ)

/-! ## Putting a link back -/

@[simp] theorem setLink_engine : (session.setLink name link).engine = link.engine := by
  unfold setLink
  split <;> rfl

@[simp] theorem setLink_commands : (session.setLink name link).commands = session.commands := by
  unfold setLink
  split <;> rfl

@[simp] theorem setLink_readers : (session.setLink name link).readers = session.readers := by
  unfold setLink
  split <;> rfl

theorem setLink_withReaders (readers : Registry HeldReader) :
    { session with readers }.setLink name link =
      { session.setLink name link with readers } := by
  unfold setLink
  dsimp only
  cases session.connections.get? name <;> rfl

variable {session name}

theorem link?_of_held {held : HeldConnection}
    (isHeld : session.connections.get? name = some held) :
    session.link? name = some
      { connection := held.connection, pool := session.pool held.pool
        engine := session.engine } := by
  rw [link?, isHeld]
  rfl

theorem held_of_link? {link : Link σ} (isLink : session.link? name = some link) :
    ∃ held, session.connections.get? name = some held ∧
      link = { connection := held.connection, pool := session.pool held.pool
               engine := session.engine } := by
  cases isHeld : session.connections.get? name with
  | none => simp [link?, isHeld] at isLink
  | some held =>
      rw [link?_of_held isHeld] at isLink
      exact ⟨held, rfl, (Option.some.inj isLink).symm⟩

theorem link?_eq_none : session.link? name = none ↔ session.connections.get? name = none := by
  rw [link?, Option.map_eq_none_iff]

theorem setLink_connections_of_held {held : HeldConnection}
    (isHeld : session.connections.get? name = some held) :
    (session.setLink name link).connections =
      session.connections.insert name { held with connection := link.connection } := by
  simp [setLink, isHeld, setPool]

theorem setLink_connections_other {other : String} (isOther : other ≠ name) :
    (session.setLink name link).connections.get? other = session.connections.get? other := by
  cases isHeld : session.connections.get? name with
  | none => simp [setLink, isHeld]
  | some held =>
      rw [setLink_connections_of_held link isHeld, Registry.get?_insert_of_ne _ _ isOther]

theorem link?_setLink {link : Link σ} (isLink : session.link? name = some link) (next : Link σ) :
    ∃ pool, (session.setLink name next).link? name = some { next with pool } := by
  obtain ⟨held, isHeld, -⟩ := held_of_link? isLink
  have isThere : (session.setLink name next).connections.get? name =
      some { held with connection := next.connection } := by
    rw [setLink_connections_of_held next isHeld, Registry.get?_insert_self]
  rw [link?_of_held isThere, setLink_engine]
  exact ⟨_, rfl⟩

/-! ## Names -/

theorem newName_of_missing {registry : Registry α} (isMissing : registry.get? name = none) :
    newName (ε := ε) registry name = .ok () := by
  simp [newName, Registry.contains, isMissing]

theorem get?_eq_none_of_newName {registry : Registry α}
    (isNew : newName (ε := ε) registry name = .ok ()) : registry.get? name = none := by
  unfold newName at isNew
  split at isNew
  · cases isNew
  · rename_i isFree
    simpa [Registry.contains] using isFree

theorem of_findReader {reader : String} {held : HeldReader}
    (isFound : session.findReader (ε := ε) reader = .ok held) :
    session.readers.get? reader = some held := by
  unfold findReader at isFound
  split at isFound
  · cases isFound
  · rename_i isHeld
    rw [isHeld, Except.ok.inj isFound]

/-! ## Calls -/

variable {link}

theorem onConnection_of_link (isLink : session.link? name = some link)
    (call : ExceptT ε (StateM (Link σ)) α) :
    session.onConnection name call =
      ((call link).1.mapError .failed, session.setLink name (call link).2) := by
  unfold onConnection
  rw [isLink]
  dsimp only
  rcases call link with ⟨error | answer, after⟩ <;> rfl

theorem onConnection_of_missing (isMissing : session.link? name = none)
    (call : ExceptT ε (StateM (Link σ)) α) :
    session.onConnection name call = (.error .noSuchHandle, session) := by
  rw [onConnection, isMissing]

theorem onConnection_commands {ε : Type} (name : String) (call : ExceptT ε (StateM (Link σ)) α) :
    (session.onConnection name call).2.commands = session.commands := by
  cases isLink : session.link? name with
  | none => rw [onConnection_of_missing isLink]
  | some link => rw [onConnection_of_link isLink, setLink_commands]

theorem onConnection_readers {ε : Type} (name : String) (call : ExceptT ε (StateM (Link σ)) α) :
    (session.onConnection name call).2.readers = session.readers := by
  cases isLink : session.link? name with
  | none => rw [onConnection_of_missing isLink]
  | some link => rw [onConnection_of_link isLink, setLink_readers]

theorem onConnection_withCommands {ε : Type} (name : String)
    (call : ExceptT ε (StateM (Link σ)) α) (commands : Registry HeldCommand) :
    { session with commands }.onConnection name call =
      ((session.onConnection name call).1,
        { (session.onConnection name call).2 with commands }) := by
  have sameLink : ({ session with commands } : Session σ).link? name = session.link? name := rfl
  unfold onConnection setLink
  rw [sameLink]
  cases session.link? name with
  | none => rfl
  | some link =>
      dsimp only
      rcases call link with ⟨error | answer, last⟩ <;>
        cases session.connections.get? name <;> rfl

theorem access_of_link {held : HeldReader} (isLink : session.link? held.connection = some link)
    (accessor : Reader → Link σ → Except ε α × Reader) :
    access session name held accessor =
      ((accessor held.reader link).1.mapError .failed,
        { session with
          readers :=
            session.readers.insert name { held with reader := (accessor held.reader link).2 } }) := by
  rw [access, isLink]
  dsimp only
  rcases accessor held.reader link with ⟨error | answer, reader⟩ <;> rfl

theorem access_session (session : Session σ) (name : String) (held : HeldReader)
    (accessor : Reader → Link σ → Except ε α × Reader) :
    ∃ readers, (access session name held accessor).2 = { session with readers } := by
  cases isLink : session.link? held.connection with
  | none => exact ⟨session.readers, by rw [access, isLink]⟩
  | some link => exact ⟨_, by rw [access_of_link isLink]⟩

theorem takeOut_cells (answer : α → QueryAnswer) (view : Reader → Link σ → Except ε α)
    (leave : List Cell → List Cell) (reader : Reader) (link : Link σ) :
    ∃ cells, (takeOut answer view leave reader link).2 = { reader with cells } := by
  unfold takeOut
  split
  · exact ⟨_, rfl⟩
  · exact ⟨reader.cells, rfl⟩

def withReader (session : Session σ) (name : String) (held : HeldReader) (cells : List Cell) :
    Session σ :=
  { session with
    readers := session.readers.insert name { held with reader := { held.reader with cells } } }

section
variable {held : HeldReader} (isLink : session.link? held.connection = some link)
  {answer : α → QueryAnswer} {view : Reader → Link σ → Except ε α} {leave : List Cell → List Cell}
include isLink

theorem access_takeOut_of_ok {value : α} (isOk : view held.reader link = .ok value) :
    access session name held (takeOut answer view leave) =
      (.ok (answer value), session.withReader name held (leave held.reader.cells)) := by
  rw [access_of_link isLink, takeOut, isOk]
  rfl

theorem access_takeOut_of_error {error : ε} (isError : view held.reader link = .error error) :
    access session name held (takeOut answer view leave) =
      (.error (.failed error), session.withReader name held held.reader.cells) := by
  rw [access_of_link isLink, takeOut, isError]
  rfl

end

theorem onReader_session (session : Session σ) (reader : String)
    (accessor : Reader → Link σ → Except Query.Error QueryAnswer × Reader) :
    ∃ readers, (onReader session reader accessor).2 = { session with readers } := by
  unfold onReader
  split
  · exact ⟨session.readers, rfl⟩
  · exact access_session ..

theorem onReader_of_held {reader : String} {held : HeldReader}
    (isHeld : session.findReader (ε := Query.Error) reader = .ok held)
    (accessor : Reader → Link σ → Except Query.Error QueryAnswer × Reader) :
    onReader session reader accessor = access session reader held accessor := by
  rw [onReader, isHeld]

theorem perform_query (backend : Backend σ) (asked : QueryRequest) :
    perform backend session (.query asked) =
      (.query (performQuery backend session asked).1, (performQuery backend session asked).2) := rfl

/-! ## Pools -/

structure SameObjects (before after : Session σ) : Prop where
  engine : after.engine = before.engine
  connections : after.connections = before.connections
  commands : after.commands = before.commands
  readers : after.readers = before.readers

theorem commit_keeps {outcome : Except (Refusal ε) (α × Session σ)} {Keeps : Session σ → Prop}
    (unchanged : Keeps session)
    (changed : ∀ answer after, outcome = .ok (answer, after) → Keeps after) :
    Keeps (commit session outcome).2 := by
  rcases outcome with _ | ⟨answer, after⟩
  · exact unchanged
  · exact changed answer after rfl

theorem performPool_objects (backend : Backend σ) (request : PoolRequest) :
    SameObjects session (performPool backend session request).2 := by
  cases request
  all_goals
    refine commit_keeps ⟨rfl, rfl, rfl, rfl⟩ fun answer after isOk => ?_
    simp only [bind, Except.bind, pure, Except.pure, throw, throwThe, MonadExceptOf.throw] at isOk
    repeat' split at isOk
    all_goals cases isOk <;> exact ⟨rfl, rfl, rfl, rfl⟩

theorem performPool_eq {τ : Type} {backend : Backend σ} {image : Backend τ} {other : Session τ}
    (sameGrowth : image.growth = backend.growth) (pools : other.pools = session.pools)
    (poolNames : other.poolNames = session.poolNames) (buffers : other.buffers = session.buffers)
    (request : PoolRequest) :
    performPool image other request =
      ((performPool backend session request).1,
        { other with
          pools := (performPool backend session request).2.pools
          poolNames := (performPool backend session request).2.poolNames
          buffers := (performPool backend session request).2.buffers }) := by
  have sameNumber : poolNumber (ε := Error) other = poolNumber session := by
    funext name
    rw [poolNumber, poolNumber, poolNames]
  have sameFound : findBuffer (ε := Error) other = findBuffer session := by
    funext name
    rw [findBuffer, findBuffer, buffers]
  unfold performPool
  rw [sameGrowth, sameNumber, sameFound, buffers, poolNames]
  rcases other with ⟨state, otherPools, otherNames, otherBuffers, connections, commands, readers⟩
  obtain rfl : otherPools = session.pools := pools
  obtain rfl : otherNames = session.poolNames := poolNames
  obtain rfl : otherBuffers = session.buffers := buffers
  cases request <;> dsimp only
  case create pool config =>
    cases newName (ε := Error) session.poolNames pool with
    | error refusal => rfl
    | ok _ => cases readConfig (ε := Error) Scratch.PoolConfig.format {} config <;> rfl
  case share pool source =>
    cases newName (ε := Error) session.poolNames pool with
    | error refusal => rfl
    | ok _ => cases poolNumber (ε := Error) session source <;> rfl
  case available pool => cases poolNumber (ε := Error) session pool <;> rfl
  case rent pool buffer minimum =>
    cases newName (ε := Error) session.buffers buffer with
    | error refusal => rfl
    | ok _ => cases poolNumber (ε := Error) session pool <;> rfl
  case append buffer bytes =>
    rcases findBuffer (ε := Error) session buffer with refusal | ⟨number, rented | text⟩ <;> rfl
  case encode pool buffer encoding =>
    cases newName (ε := Error) session.buffers buffer with
    | error refusal => rfl
    | ok _ => cases poolNumber (ε := Error) session pool <;> rfl
  case contents buffer => cases findBuffer (ε := Error) session buffer <;> rfl
  case release buffer => cases findBuffer (ε := Error) session buffer <;> rfl

def Response.answer? : Response → Option Answer
  | .plain (.ok answer) => some answer
  | _ => none

theorem Response.of_answer? {response : Response} {answer : Answer}
    (isAnswer : response.answer? = some answer) : response = .plain (.ok answer) := by
  unfold Response.answer? at isAnswer
  split at isAnswer
  · rw [Option.some.inj isAnswer]
  · cases isAnswer

end EmbeddedSql.Session
