import EmbeddedSql.Proofs.Session.Custody.Command

/-! Sessions whose names are divided: a request that keeps to one share of them does not
notice the rest, and leaves it as it is. -/

namespace EmbeddedSql

/-! ## Registries -/

namespace Registry

variable {α : Type}

def only (registry : Registry α) (keeps : String → Bool) : Registry α :=
  registry.filter (keeps ·.1)

variable (registry : Registry α) {keeps : String → Bool} {name : String}

theorem get?_only (isKept : keeps name = true) :
    (registry.only keeps).get? name = registry.get? name := by
  induction registry with
  | nil => rfl
  | cons entry rest induction =>
      rcases entry with ⟨key, value⟩
      unfold only get? at induction ⊢
      rw [List.filter_cons, List.lookup_cons]
      by_cases isKey : name = key
      · subst isKey
        simp [isKept]
      · have isSkipped : (name == key) = false := by simp [isKey]
        split
        · rw [List.lookup_cons, isSkipped]
          exact induction
        · rw [isSkipped]
          exact induction

theorem get?_only_eq_some {value : α} :
    (registry.only keeps).get? name = some value ↔
      keeps name = true ∧ registry.get? name = some value := by
  cases isKept : keeps name with
  | true => simp [registry.get?_only isKept]
  | false =>
      simp only [Bool.false_eq_true, false_and, iff_false]
      intro isFound
      have isThere := (List.mem_filter.mp (mem_of_get? isFound)).2
      cases isKept.symm.trans isThere

theorem contains_only (isKept : keeps name = true) :
    (registry.only keeps).contains name = registry.contains name := by
  rw [contains, contains, registry.get?_only isKept]

theorem any_only {has : String × α → Bool}
    (areKept : ∀ {name value}, (name, value) ∈ registry → has (name, value) = true →
      keeps name = true) : (registry.only keeps).any has = registry.any has := by
  rw [Bool.eq_iff_iff, List.any_eq_true, List.any_eq_true]
  constructor
  · rintro ⟨entry, isThere, isIt⟩
    exact ⟨entry, (List.mem_filter.mp isThere).1, isIt⟩
  · rintro ⟨entry, isThere, isIt⟩
    exact ⟨entry, List.mem_filter.mpr ⟨isThere, areKept isThere isIt⟩, isIt⟩

theorem mem_insert {entry : String × α} {value : α}
    (isThere : entry ∈ registry.insert name value) :
    entry = (name, value) ∨ entry ∈ registry :=
  (List.mem_cons.mp isThere).imp_right fun isThere => (List.mem_filter.mp isThere).1

theorem only_erase : (registry.erase name).only keeps = (registry.only keeps).erase name := by
  unfold only erase
  rw [List.filter_filter, List.filter_filter]
  exact List.filter_congr fun entry _ => Bool.and_comm ..

theorem only_erase_of_other (isOther : keeps name = false) :
    (registry.erase name).only keeps = registry.only keeps := by
  unfold only erase
  rw [List.filter_filter]
  refine List.filter_congr fun entry _ => ?_
  by_cases isName : entry.1 = name
  · simp [isName, isOther]
  · simp [isName]

theorem only_insert (isKept : keeps name = true) (value : α) :
    (registry.insert name value).only keeps = (registry.only keeps).insert name value := by
  rw [insert, insert, ← only_erase]
  exact List.filter_cons_of_pos isKept

theorem only_insert_of_other (isOther : keeps name = false) (value : α) :
    (registry.insert name value).only keeps = registry.only keeps := by
  rw [insert, only, List.filter_cons_of_neg (by simp [isOther])]
  exact registry.only_erase_of_other isOther

end Registry

namespace Session

variable {σ ε α β : Type}

structure Share where
  connections : String → Bool
  commands : String → Bool
  readers : String → Bool

namespace Share

def others (share : Share) : Share where
  connections name := !share.connections name
  commands name := !share.commands name
  readers name := !share.readers name

theorem others_others (share : Share) : share.others.others = share := by
  simp [others]

/-- The request has no other names. New connections are not part of it. -/
def covers (share : Share) : Request → Bool
  | .pool _ => true
  | .connection _ (.connect ..) => false
  | .connection name (.executeReader reader _) => share.connections name && share.readers reader
  | .connection name (.createCommand command _) => share.connections name && share.commands command
  | .connection name _ => share.connections name
  | .command name (.executeReader reader) => share.commands name && share.readers reader
  | .command name _ => share.commands name
  | .reader name _ => share.readers name
  | .query (.execute name ..) => share.connections name
  | .query (.fetchAll name ..) => share.connections name
  | .query (.fetchOne name ..) => share.connections name
  | .query (.executeTransaction name _) => share.connections name
  | .query (.bindValue name ..) => share.commands name
  | .query (.bindValues name _) => share.commands name
  | .query (.columnJson name _) => share.readers name
  | .query (.decodeRow name) => share.readers name

def owns (share : Share) : Request → Bool
  | .pool _ => false
  | request => share.covers request

theorem covers_of_owns {share : Share} {request : Request} (isOwned : share.owns request = true) :
    share.covers request = true := by
  cases request with
  | pool request => rfl
  | _ => exact isOwned

structure Within (share whole : Share) : Prop where
  connections : ∀ name, share.connections name = true → whole.connections name = true
  commands : ∀ name, share.commands name = true → whole.commands name = true
  readers : ∀ name, share.readers name = true → whole.readers name = true

theorem Within.symm {share other : Share} (areApart : share.Within other.others) :
    other.Within share.others := by
  have swap {first second : String → Bool}
      (areApart : ∀ name, first name = true → (!second name) = true) (name : String)
      (isSecond : second name = true) : (!first name) = true := by
    cases isFirst : first name with
    | false => rfl
    | true => simpa [isSecond] using areApart name isFirst
  exact ⟨swap areApart.connections, swap areApart.commands, swap areApart.readers⟩

theorem Within.covers {share whole : Share} (within : share.Within whole) {request : Request}
    (isCovered : share.covers request = true) : whole.covers request = true := by
  obtain ⟨connections, commands, readers⟩ := within
  cases request with
  | pool request => rfl
  | connection name request =>
      cases request with
      | connect => cases isCovered
      | executeReader reader sql =>
          obtain ⟨isConnection, isReader⟩ := Bool.and_eq_true_iff.mp isCovered
          exact Bool.and_eq_true_iff.mpr ⟨connections _ isConnection, readers _ isReader⟩
      | createCommand command sql =>
          obtain ⟨isConnection, isCommand⟩ := Bool.and_eq_true_iff.mp isCovered
          exact Bool.and_eq_true_iff.mpr ⟨connections _ isConnection, commands _ isCommand⟩
      | _ => exact connections _ isCovered
  | command name request =>
      cases request with
      | executeReader reader =>
          obtain ⟨isCommand, isReader⟩ := Bool.and_eq_true_iff.mp isCovered
          exact Bool.and_eq_true_iff.mpr ⟨commands _ isCommand, readers _ isReader⟩
      | _ => exact commands _ isCovered
  | reader name request => exact readers _ isCovered
  | query request =>
      cases request with
      | bindValue => exact commands _ isCovered
      | bindValues => exact commands _ isCovered
      | columnJson => exact readers _ isCovered
      | decodeRow => exact readers _ isCovered
      | _ => exact connections _ isCovered

end Share

def only (session : Session σ) (share : Share) : Session σ :=
  { session with
    connections := session.connections.only share.connections
    commands := session.commands.only share.commands
    readers := session.readers.only share.readers }

/-- Nothing is made of what has a name in the share and of what has not. -/
structure IsDivided (share : Share) (session : Session σ) : Prop where
  commands : ∀ {name held}, (name, held) ∈ session.commands →
    share.commands name = share.connections held.connection
  readers : ∀ {name held}, (name, held) ∈ session.readers →
    share.readers name = share.connections held.connection
  lenders : ∀ {name held command}, (name, held) ∈ session.readers →
    held.command = some command → share.commands command = share.readers name

theorem IsDivided.others {share : Share} {session : Session σ}
    (isDivided : session.IsDivided share) : session.IsDivided share.others where
  commands isThere := congrArg (! ·) (isDivided.commands isThere)
  readers isThere := congrArg (! ·) (isDivided.readers isThere)
  lenders isThere isLent := congrArg (! ·) (isDivided.lenders isThere isLent)

/-- The names that are not in the share have what they had. -/
structure SameBeyond (share : Share) (before after : Session σ) : Prop where
  connections : after.connections.only share.others.connections =
    before.connections.only share.others.connections
  commands : after.commands.only share.others.commands =
    before.commands.only share.others.commands
  readers : after.readers.only share.others.readers = before.readers.only share.others.readers

/-- Without the other names the same happens, and they do not take part in it. -/
structure Divides (share : Share) (session : Session σ) (outcome : α × Session σ)
    (part : α × Session σ) : Prop where
  isPart : part = (outcome.1, outcome.2.only share)
  beyond : SameBeyond share session outcome.2
  isDivided : outcome.2.IsDivided share

namespace Divides

variable {share : Share} {session : Session σ}

theorem map {outcome part : α × Session σ} (divides : Divides share session outcome part)
    (answer : α → β) :
    Divides share session (answer outcome.1, outcome.2) (answer part.1, part.2) := by
  obtain ⟨rfl, beyond, isDivided⟩ := divides
  exact ⟨rfl, beyond, isDivided⟩

theorem next {outcome part : α × Session σ} (divides : Divides share session outcome part)
    {further : β × Session σ} {furtherPart : β × Session σ}
    (continues : outcome.2.IsDivided share → part = (outcome.1, outcome.2.only share) →
      Divides share outcome.2 further furtherPart) :
    Divides share session further furtherPart := by
  obtain ⟨isPart, beyond, isDivided⟩ := continues divides.isDivided divides.isPart
  exact ⟨isPart, ⟨beyond.connections.trans divides.beyond.connections,
    beyond.commands.trans divides.beyond.commands, beyond.readers.trans divides.beyond.readers⟩,
    isDivided⟩

theorem unchanged (isDivided : session.IsDivided share) (answer : α) :
    Divides share session (answer, session) (answer, session.only share) :=
  ⟨rfl, ⟨rfl, rfl, rfl⟩, isDivided⟩

end Divides

section
variable {share : Share} {session : Session σ} {name : String}

/-! ## What is found -/

theorem link?_only (isKept : share.connections name = true) :
    (session.only share).link? name = session.link? name := by
  unfold link? only
  rw [session.connections.get?_only isKept]
  rfl

theorem findReader_only (isKept : share.readers name = true) :
    (session.only share).findReader (ε := ε) name = session.findReader name := by
  unfold findReader only
  rw [session.readers.get?_only isKept]

theorem newName_only {registry : Registry α} {keeps : String → Bool} (isKept : keeps name = true) :
    newName (ε := ε) (registry.only keeps) name = newName registry name := by
  rw [newName, newName, registry.contains_only isKept]

variable (isDivided : session.IsDivided share)
include isDivided

theorem freeCommand_only (isKept : share.commands name = true) :
    (session.only share).freeCommand (ε := ε) name = session.freeCommand name := by
  have sameReaders : (session.only share).commandIsRead name = session.commandIsRead name := by
    refine session.readers.any_only fun isThere isLent => ?_
    exact (isDivided.lenders isThere (of_decide_eq_true isLent)).symm.trans isKept
  unfold freeCommand
  rw [sameReaders]
  unfold only
  rw [session.commands.get?_only isKept]

theorem connectionIsUsed_only (isKept : share.connections name = true) :
    (session.only share).connectionIsUsed name = session.connectionIsUsed name := by
  have sameCommands : (session.only share).commands.any (·.2.connection = name) =
      session.commands.any (·.2.connection = name) :=
    session.commands.any_only fun isThere isHere =>
      (isDivided.commands isThere).trans (of_decide_eq_true isHere ▸ isKept)
  have sameReaders : (session.only share).readers.any (·.2.connection = name) =
      session.readers.any (·.2.connection = name) :=
    session.readers.any_only fun isThere isHere =>
      (isDivided.readers isThere).trans (of_decide_eq_true isHere ▸ isKept)
  rw [connectionIsUsed, connectionIsUsed, sameCommands, sameReaders]

theorem ofCommand {held : HeldCommand} (isKept : share.commands name = true)
    (isHeld : session.commands.get? name = some held) :
    share.connections held.connection = true :=
  (isDivided.commands (Registry.mem_of_get? isHeld)).symm.trans isKept

theorem ofReader {held : HeldReader} (isKept : share.readers name = true)
    (isHeld : session.readers.get? name = some held) :
    share.connections held.connection = true :=
  (isDivided.readers (Registry.mem_of_get? isHeld)).symm.trans isKept

/-! ## Entries come and go -/

omit isDivided in
theorem others_eq_false {keeps : String → Bool} (isKept : keeps name = true) :
    (!keeps name) = false := by
  rw [isKept]
  rfl

theorem Divides.insertCommand (held : HeldCommand) (isKept : share.commands name = true)
    (isConnected : share.connections held.connection = true) (answer : α) :
    Divides share session
      (answer, { session with commands := session.commands.insert name held })
      (answer, { session.only share with
        commands := (session.only share).commands.insert name held }) where
  isPart := by
    unfold only
    dsimp only
    rw [session.commands.only_insert isKept]
  beyond := ⟨rfl, session.commands.only_insert_of_other (others_eq_false isKept) held, rfl⟩
  isDivided :=
    { isDivided with
      commands := fun isThere => by
        rcases Registry.mem_insert _ isThere with isNew | isThere
        · cases isNew
          exact isKept.trans isConnected.symm
        · exact isDivided.commands isThere }

theorem Divides.insertReader (held : HeldReader) (isKept : share.readers name = true)
    (isConnected : share.connections held.connection = true)
    (isLent : ∀ {command}, held.command = some command → share.commands command = true)
    (answer : α) :
    Divides share session
      (answer, { session with readers := session.readers.insert name held })
      (answer, { session.only share with
        readers := (session.only share).readers.insert name held }) where
  isPart := by
    unfold only
    dsimp only
    rw [session.readers.only_insert isKept]
  beyond := ⟨rfl, rfl, session.readers.only_insert_of_other (others_eq_false isKept) held⟩
  isDivided :=
    { isDivided with
      readers := fun isThere => by
        rcases Registry.mem_insert _ isThere with isNew | isThere
        · cases isNew
          exact isKept.trans isConnected.symm
        · exact isDivided.readers isThere
      lenders := fun isThere isFrom => by
        rcases Registry.mem_insert _ isThere with isNew | isThere
        · cases isNew
          exact (isLent isFrom).trans isKept.symm
        · exact isDivided.lenders isThere isFrom }

theorem Divides.eraseConnection (isKept : share.connections name = true) (answer : α) :
    Divides share session
      (answer, { session with connections := session.connections.erase name })
      (answer, { session.only share with
        connections := (session.only share).connections.erase name }) where
  isPart := by
    unfold only
    dsimp only
    rw [session.connections.only_erase]
  beyond := ⟨session.connections.only_erase_of_other (others_eq_false isKept), rfl, rfl⟩
  isDivided := { isDivided with }

theorem Divides.eraseCommand (isKept : share.commands name = true) (answer : α) :
    Divides share session
      (answer, { session with commands := session.commands.erase name })
      (answer, { session.only share with
        commands := (session.only share).commands.erase name }) where
  isPart := by
    unfold only
    dsimp only
    rw [session.commands.only_erase]
  beyond := ⟨rfl, session.commands.only_erase_of_other (others_eq_false isKept), rfl⟩
  isDivided :=
    { isDivided with
      commands := fun isThere => isDivided.commands ((List.mem_filter.mp isThere).1) }

theorem Divides.eraseReader (isKept : share.readers name = true) (answer : α) :
    Divides share session
      (answer, { session with readers := session.readers.erase name })
      (answer, { session.only share with
        readers := (session.only share).readers.erase name }) where
  isPart := by
    unfold only
    dsimp only
    rw [session.readers.only_erase]
  beyond := ⟨rfl, rfl, session.readers.only_erase_of_other (others_eq_false isKept)⟩
  isDivided :=
    { isDivided with
      readers := fun isThere => isDivided.readers ((List.mem_filter.mp isThere).1)
      lenders := fun isThere => isDivided.lenders ((List.mem_filter.mp isThere).1) }

/-! ## Calls -/

theorem Divides.setLink (isKept : share.connections name = true) (link : Link σ) (answer : α) :
    Divides share session (answer, session.setLink name link)
      (answer, (session.only share).setLink name link) := by
  cases isHeld : session.connections.get? name with
  | none =>
      have isMissing : (session.only share).connections.get? name = none :=
        (session.connections.get?_only isKept).trans isHeld
      rw [Session.setLink, Session.setLink, isHeld, isMissing]
      exact ⟨rfl, ⟨rfl, rfl, rfl⟩, { isDivided with }⟩
  | some held =>
      have isThere : (session.only share).connections.get? name = some held :=
        (session.connections.get?_only isKept).trans isHeld
      rw [Session.setLink, Session.setLink, isHeld, isThere]
      refine ⟨?_, ⟨?_, rfl, rfl⟩, { isDivided with }⟩
      · unfold only setPool
        dsimp only
        rw [session.connections.only_insert isKept]
      · exact session.connections.only_insert_of_other (others_eq_false isKept) _

theorem Divides.onConnection (isKept : share.connections name = true)
    (call : ExceptT ε (StateM (Link σ)) α) :
    Divides share session (session.onConnection name call)
      ((session.only share).onConnection name call) := by
  cases isLink : session.link? name with
  | none =>
      rw [onConnection_of_missing isLink, onConnection_of_missing ((link?_only isKept).trans isLink)]
      exact .unchanged isDivided _
  | some link =>
      rw [onConnection_of_link isLink, onConnection_of_link ((link?_only isKept).trans isLink)]
      exact .setLink isDivided isKept _ _

theorem Divides.keeping {call : Call σ α} {put : Session σ → α → Session σ}
    (isKept : share.connections name = true)
    (puts : ∀ {after : Session σ} made (answer : Result), after.IsDivided share →
      Divides share after (answer, put after made) (answer, put (after.only share) made)) :
    Divides share session (keeping put (session.onConnection name call))
      (keeping put ((session.only share).onConnection name call)) := by
  refine (Divides.onConnection isDivided isKept call).next fun isDivided isPart => ?_
  rw [isPart]
  rcases outcome : session.onConnection name call with ⟨refusal | made, after⟩ <;>
    rw [outcome] at isDivided
  · exact .unchanged isDivided _
  · exact puts made _ isDivided

variable {backend : Backend σ}

/-! ## Connections -/

theorem performConnection_divides (request : ConnectionRequest)
    (isCovered : share.covers (.connection name request) = true) :
    Divides share session (performConnection backend session name request)
      (performConnection backend (session.only share) name request) := by
  cases request with
  | connect => cases isCovered
  | state =>
      unfold performConnection commit only
      dsimp only
      rw [session.connections.get?_only isCovered]
      cases session.connections.get? name with
      | none => exact .unchanged isDivided _
      | some held => exact .unchanged isDivided _
  | drop =>
      unfold performConnection
      have sameNames : (session.only share).connections.contains name =
          session.connections.contains name := session.connections.contains_only isCovered
      dsimp only
      rw [sameNames, connectionIsUsed_only isDivided isCovered]
      split
      · exact .unchanged isDivided _
      split
      · exact .unchanged isDivided _
      · have disposes := Divides.onConnection isDivided isCovered (disposeQuietly backend)
        refine disposes.next fun isDivided isPart => ?_
        rw [isPart]
        exact .eraseConnection isDivided isCovered _
  | executeReader reader sql =>
      obtain ⟨isConnection, isReader⟩ := Bool.and_eq_true_iff.mp isCovered
      unfold performConnection
      have sameName : newName (ε := Error) (session.only share).readers reader =
          newName session.readers reader := newName_only isReader
      dsimp only
      rw [sameName]
      cases newName (ε := Error) session.readers reader with
      | error refusal => exact .unchanged isDivided _
      | ok _ =>
          exact .keeping isDivided isConnection fun made answer isDivided =>
            .insertReader isDivided ⟨name, none, made⟩ isReader isConnection nofun answer
  | createCommand command sql =>
      obtain ⟨isConnection, isCommand⟩ := Bool.and_eq_true_iff.mp isCovered
      unfold performConnection
      have sameName : newName (ε := Error) (session.only share).commands command =
          newName session.commands command := newName_only isCommand
      dsimp only
      rw [sameName]
      cases newName (ε := Error) session.commands command with
      | error refusal => exact .unchanged isDivided _
      | ok _ =>
          exact .keeping isDivided isConnection fun made answer isDivided =>
            .insertCommand isDivided _ isCommand isConnection answer
  | _ => exact (Divides.onConnection isDivided isCovered _).map _

/-! ## Commands -/

theorem useCommand_divides {held : HeldCommand} (isKept : share.connections held.connection = true)
    (request : CommandRequest) :
    Divides share session (useCommand backend session held request)
      (useCommand backend (session.only share) held request) := by
  cases request with
  | executeReader reader => exact .unchanged isDivided _
  | finalize => exact .unchanged isDivided _
  | drop => exact .unchanged isDivided _
  | _ => exact (Divides.onConnection isDivided isKept _).map _

theorem performCommand_divides (request : CommandRequest)
    (isCovered : share.covers (.command name request) = true) :
    Divides share session (performCommand backend session name request)
      (performCommand backend (session.only share) name request) := by
  have isCommand : share.commands name = true := by
    cases request with
    | executeReader reader => exact (Bool.and_eq_true_iff.mp isCovered).1
    | _ => exact isCovered
  have sameCommand := freeCommand_only (ε := Error) isDivided isCommand
  have isConnected {held : HeldCommand} (isFree : session.freeCommand (ε := Error) name = .ok held) :
      share.connections held.connection = true :=
    ofCommand isDivided isCommand (of_freeCommand isFree).1
  unfold performCommand
  cases request
  case executeReader reader =>
    have isReader := (Bool.and_eq_true_iff.mp isCovered).2
    have sameName : newName (ε := Error) (session.only share).readers reader =
        newName session.readers reader := newName_only isReader
    dsimp only
    rw [sameCommand, sameName]
    cases newName (ε := Error) session.readers reader with
    | error refusal => exact .unchanged isDivided _
    | ok _ =>
        cases isFree : session.freeCommand (ε := Error) name with
        | error refusal => exact .unchanged isDivided _
        | ok held =>
            refine .keeping isDivided (isConnected isFree) fun made answer isDivided =>
              .insertReader isDivided _ isReader (isConnected isFree) ?_ answer
            rintro _ ⟨⟩
            exact isCommand
  all_goals
    dsimp only
    rw [sameCommand]
    cases isFree : session.freeCommand (ε := Error) name
    case error refusal => exact .unchanged isDivided _
  case finalize.ok held =>
    have finalizes := Divides.onConnection isDivided (isConnected isFree)
      (held.command.finalize backend)
    refine finalizes.next fun isDivided isPart => ?_
    dsimp only
    rw [isPart]
    exact .eraseCommand isDivided isCommand _
  case drop.ok held =>
    have drops := Divides.onConnection isDivided (isConnected isFree)
      (ε := Error) fun link => (.ok (), held.command.drop backend link)
    refine drops.next fun isDivided isPart => ?_
    dsimp only
    rw [isPart]
    exact .eraseCommand isDivided isCommand _
  all_goals exact useCommand_divides isDivided (isConnected isFree) _

/-! ## Readers -/

theorem access_divides {held : HeldReader} (isReader : share.readers name = true)
    (isHeld : session.readers.get? name = some held)
    (accessor : Reader → Link σ → Except ε α × Reader) :
    Divides share session (access session name held accessor)
      (access (session.only share) name held accessor) := by
  have isConnected := ofReader isDivided isReader isHeld
  have isLent {command : String} (isFrom : held.command = some command) :
      share.commands command = true :=
    (isDivided.lenders (Registry.mem_of_get? isHeld) isFrom).trans isReader
  unfold access
  rw [link?_only isConnected]
  cases session.link? held.connection with
  | none => exact .unchanged isDivided _
  | some link =>
      dsimp only
      rcases accessor held.reader link with ⟨error | answer, reader⟩
      · exact .insertReader isDivided { held with reader } isReader isConnected isLent _
      · exact .insertReader isDivided { held with reader } isReader isConnected isLent _

theorem useReader_divides {held : HeldReader} (isReader : share.readers name = true)
    (isHeld : session.readers.get? name = some held) (request : ReaderRequest) :
    Divides share session (useReader backend session name held request)
      (useReader backend (session.only share) name held request) := by
  have isConnected := ofReader isDivided isReader isHeld
  have isLent {command : String} (isFrom : held.command = some command) :
      share.commands command = true :=
    (isDivided.lenders (Registry.mem_of_get? isHeld) isFrom).trans isReader
  unfold useReader
  cases request
  case read =>
    dsimp only
    rw [link?_only isConnected]
    cases session.link? held.connection with
    | none => exact .unchanged isDivided _
    | some link =>
        dsimp only
        rcases held.reader.read backend.engine link with ⟨⟨result, reader⟩, last⟩
        have reads := Divides.setLink isDivided isConnected last result
        refine reads.next fun isDivided isPart => ?_
        have samePart : (session.only share).setLink held.connection last =
            (session.setLink held.connection last).only share := (Prod.mk.inj isPart).2
        dsimp only
        rw [← setLink_readers session held.connection last,
          ← setLink_readers (session.only share) held.connection last, samePart]
        cases result with
        | ok found => exact .insertReader isDivided { held with reader } isReader isConnected isLent _
        | error error => exact .insertReader isDivided { held with reader } isReader isConnected isLent _
  case dispose =>
    dsimp only
    rw [link?_only isConnected]
    cases session.link? held.connection with
    | none => exact .unchanged isDivided _
    | some link =>
        have disposes := Divides.setLink isDivided isConnected
          (held.reader.dispose backend.engine link) (Except.ok Answer.nothing : Result)
        refine disposes.next fun isDivided isPart => ?_
        dsimp only
        rw [(Prod.mk.inj isPart).2]
        exact .eraseReader isDivided isReader _
  case cursor => exact .unchanged isDivided _
  all_goals exact access_divides isDivided isReader isHeld _

theorem performReader_divides (request : ReaderRequest)
    (isCovered : share.covers (.reader name request) = true) :
    Divides share session (performReader backend session name request)
      (performReader backend (session.only share) name request) := by
  have isReader : share.readers name = true := isCovered
  unfold performReader
  rw [findReader_only isReader]
  cases isFound : session.findReader (ε := Error) name with
  | error refusal => exact .unchanged isDivided _
  | ok held => exact useReader_divides isDivided isReader (of_findReader isFound) request

/-! ## Queries -/

theorem onCommand_divides (isCommand : share.commands name = true)
    (call : StatementHandle → Query.Call σ Unit) :
    Divides share session (onCommand session name call)
      (onCommand (session.only share) name call) := by
  unfold onCommand
  rw [freeCommand_only isDivided isCommand]
  cases isFree : session.freeCommand (ε := Query.Error) name with
  | error refusal => exact .unchanged isDivided _
  | ok held =>
      have isConnected := ofCommand isDivided isCommand (of_freeCommand isFree).1
      exact (Divides.onConnection isDivided isConnected _).map _

theorem onReader_divides (isReader : share.readers name = true)
    (accessor : Reader → Link σ → Except Query.Error QueryAnswer × Reader) :
    Divides share session (onReader session name accessor)
      (onReader (session.only share) name accessor) := by
  unfold onReader
  rw [findReader_only isReader]
  cases isFound : session.findReader (ε := Query.Error) name with
  | error refusal => exact .unchanged isDivided _
  | ok held => exact access_divides isDivided isReader (of_findReader isFound) accessor

theorem performQuery_divides (request : QueryRequest)
    (isCovered : share.covers (.query request) = true) :
    Divides share session (performQuery backend session request)
      (performQuery backend (session.only share) request) := by
  unfold performQuery
  cases request with
  | bindValue command index value => exact onCommand_divides isDivided isCovered _
  | bindValues command values => exact onCommand_divides isDivided isCovered _
  | columnJson reader column => exact onReader_divides isDivided isCovered _
  | decodeRow reader => exact onReader_divides isDivided isCovered _
  | _ => exact (Divides.onConnection isDivided isCovered _).map _

/-! ## Pools

Nothing about pools and buffers depends on names of other things. -/

theorem performPool_divides (request : PoolRequest) :
    Divides share session (performPool backend session request)
      (performPool backend (session.only share) request) := by
  have objects : SameObjects session _ := performPool_objects backend request
  refine ⟨?_, ⟨?_, ?_, ?_⟩, ⟨?_, ?_, ?_⟩⟩
  · rw [@performPool_eq _ session _ backend _ (session.only share) rfl rfl rfl rfl request]
    refine Prod.ext rfl ?_
    simp only [only, objects.engine, objects.connections, objects.commands, objects.readers]
  · rw [objects.connections]
  · rw [objects.commands]
  · rw [objects.readers]
  · rw [objects.commands]
    exact isDivided.commands
  · rw [objects.readers]
    exact isDivided.readers
  · rw [objects.readers]
    exact isDivided.lenders

/-! ## Sessions as a whole -/

theorem perform_divides (request : Request) (isCovered : share.covers request = true) :
    Divides share session (perform backend session request)
      (perform backend (session.only share) request) := by
  cases request with
  | pool request => exact (performPool_divides isDivided request).map _
  | connection name request => exact (performConnection_divides isDivided request isCovered).map _
  | command name request => exact (performCommand_divides isDivided request isCovered).map _
  | reader name request => exact (performReader_divides isDivided request isCovered).map _
  | query request => exact (performQuery_divides isDivided request isCovered).map _

end

end Session

end EmbeddedSql
