import EmbeddedSql.Proofs.Query.Binding
import EmbeddedSql.Proofs.Session.Readers
import EmbeddedSql.Proofs.Session.Rewinding
import EmbeddedSql.Proofs.Storage.Binding

/-! Main result: a slot of a command has the value that it was last bound to since the values
were cleared, whatever else the session is asked in between. -/

namespace EmbeddedSql.Session

variable {σ : Type} {backend : Backend σ}

/-! ## The history of the slots -/

/-- What a request to a command changes in its slots, unless it fails. -/
def CommandRequest.change? (laws : Binding backend.engine) (statement : StatementHandle)
    (state : σ) : CommandRequest → Option Slots.Change
  | .bind parameter argument =>
      some (.set (parameter.position backend.engine statement state) (argument.kept laws.ofWide))
  | .bindText parameter text =>
      some (.set (parameter.position backend.engine statement state) (.text text.toUtf8))
  | .clear => some .clear
  | _ => none

def CommandRequest.fits : CommandRequest → Bool
  | .bind _ argument => argument.fits
  | .bindText _ text => (Argument.text (.utf8 text.toUtf8)).fits
  | _ => true

def Request.fits : Request → Bool
  | .command _ asked => asked.fits
  | .query (.bindValue _ _ value) => (Query.argumentOf value).fits
  | .query (.bindValues _ values) => values.all fun value => (Query.argumentOf value).fits
  | _ => true

def Response.isOk : Response → Bool
  | .plain (.ok _) => true
  | .query (.ok _) => true
  | _ => false

/-- What a request changes in the slots of a command. Of values that are bound at once some
are taken even if there are too many. -/
def slotChanges (laws : Binding backend.engine) (name : String) (statement : StatementHandle)
    (session : Session σ) (response : Response) : Request → List Slots.Change
  | .command other asked =>
      if other = name ∧ response.isOk then
        (asked.change? laws statement session.engine).toList
      else []
  | .query (.bindValue other index value) =>
      if other = name ∧ response.isOk then
        [.set index.toInt ((Query.argumentOf value).kept laws.ofWide)]
      else []
  | .query (.bindValues other values) =>
      if other = name ∧ session.commandIsRead name = false then
        laws.filled (Binding.capacity backend statement session.engine) 1 values
      else []
  | _ => []

/-- The changes in the slots of a command in the course of a run, the last one first. As long
as there is no command there are none. -/
def slotHistory (laws : Binding backend.engine) (name : String) :
    Session σ → List Request → List Slots.Change → List Slots.Change
  | _, [], history => history
  | session, request :: rest, history =>
      let (response, after) := perform backend session request
      let history :=
        match session.commands.get? name with
        | none => []
        | some held =>
            slotChanges laws name held.command.statement session response request ++ history
      slotHistory laws name after rest history

variable {laws : Binding backend.engine} {session : Session σ} {name : String}
  {held : HeldCommand} {request : Request}

/-! ## Requests to a command -/

/-- A command takes a value for a position that it has. Others are out of range, and nothing
comes of it. -/
inductive Takes (laws : Binding backend.engine) (statement : StatementHandle) (session : Session σ)
    (position : Int) (value : Value) : Result × Session σ → Prop
  | taken {after : Session σ} : 1 ≤ position →
      position ≤ backend.engine.parameterCount statement session.engine →
        laws.slots after.engine statement =
            Function.update (laws.slots session.engine statement) position value →
          Takes laws statement session position value (.ok .nothing, after)
  | refused {after : Session σ} :
      ¬(1 ≤ position ∧ position ≤ backend.engine.parameterCount statement session.engine) →
        laws.slots after.engine statement = laws.slots session.engine statement →
          Takes laws statement session position value
            (.error (.failed (.bindFailed Status.range)), after)

section
variable {link : Link σ} (isLink : session.link? held.connection = some link)
include isLink

theorem takes_of_assigns {statement : StatementHandle} {position : Int} {argument : Argument}
    {call : Call σ Unit} (assigns : laws.Assigns statement position argument link (call link)) :
    Takes laws statement session position (argument.kept laws.ofWide)
      (done (session.onConnection held.connection call)) := by
  rw [done, answering, onConnection_of_link isLink]
  rcases outcome : call link with ⟨refusal, last⟩
  rw [outcome] at assigns
  have sameEngine : link.engine = session.engine := engine_of_link isLink
  cases assigns with
  | taken isPosition inRange sets =>
      rw [sameEngine] at inRange sets
      exact .taken isPosition inRange ((congrArg (laws.slots · statement) (setLink_engine ..)).trans sets)
  | refused isOutside keeps =>
      rw [sameEngine] at isOutside keeps
      exact .refused isOutside ((congrArg (laws.slots · statement) (setLink_engine ..)).trans keeps)

theorem onConnection_slots {ε α : Type} {statement : StatementHandle}
    (call : ExceptT ε (StateM (Link σ)) α) :
    laws.slots (session.onConnection held.connection call).2.engine statement =
      laws.slots (call link).2.engine statement := by
  rw [onConnection_of_link isLink, setLink_engine]

variable (rests : laws.Rests (.nothing laws.toRewinding) held.command.statement link)
include rests

theorem useCommand_takes {asked : CommandRequest} (fits : asked.fits = true) {position : Int}
    {value : Value} (isChange : asked.change? laws held.command.statement session.engine =
      some (.set position value)) :
    Takes laws held.command.statement session position value
      (useCommand backend session held asked) := by
  have sameEngine : link.engine = session.engine := engine_of_link isLink
  cases asked with
  | bind parameter argument =>
      cases isChange
      exact sameEngine ▸ takes_of_assigns isLink (Binding.bind_assigns rests _ parameter fits)
  | bindText parameter text =>
      cases isChange
      exact sameEngine ▸ takes_of_assigns isLink (Binding.bindText_assigns rests _ parameter fits)
  | _ => cases isChange

theorem useCommand_clears :
    ∃ after, useCommand backend session held .clear = (.ok .nothing, after) ∧
      laws.slots after.engine held.command.statement = .empty := by
  obtain ⟨last, clears, isEmpty⟩ := Binding.clear_slots rests
  refine ⟨session.setLink held.connection last, ?_, ?_⟩
  · show done (session.onConnection held.connection _) = _
    rw [onConnection_of_link isLink, clears]
    rfl
  · rw [setLink_engine, isEmpty]

theorem useCommand_keeps {asked : CommandRequest}
    (isNoChange : asked.change? laws held.command.statement session.engine = none) :
    laws.slots (useCommand backend session held asked).2.engine held.command.statement =
      laws.slots session.engine held.command.statement := by
  rw [← engine_of_link isLink]
  have looks {α : Type} {call : Call σ α} (same : (call link).2.engine = link.engine)
      (answer : α → Answer) :
      laws.slots (answering answer (session.onConnection held.connection call)).2.engine
        held.command.statement = laws.slots link.engine held.command.statement :=
    (onConnection_slots isLink call).trans (congrArg (laws.slots · _) same)
  cases asked with
  | sql =>
      refine looks ?_ _
      unfold Command.sql
      rw [Call.bind_of_ok _ rests.ensureNotDisposed]
      rfl
  | executeNonQuery =>
      exact (onConnection_slots isLink _).trans (Binding.executeNonQuery_slots rests)
  | parameterCount =>
      refine looks ?_ _
      unfold Parameter.count
      rw [Call.bind_of_ok _ rests.ensureNotDisposed]
      rfl
  | nameOf index =>
      refine looks ?_ _
      unfold Parameter.nameOf
      rw [Call.bind_of_ok _ rests.ensureNotDisposed]
      rfl
  | indexOf name =>
      refine looks ?_ _
      obtain ⟨pool, resolves⟩ := Parameter.resolve_eq backend.engine backend.growth
        held.command.statement (.name name) rests.isLive
      rw [resolves]
  | clear | bind _ _ | bindText _ _ => cases isNoChange
  | executeReader _ | finalize | drop => exact congrArg (laws.slots · _) (engine_of_link isLink).symm

end

theorem performCommand_of_kept (isFree : session.freeCommand (ε := Error) name = .ok held)
    {asked : CommandRequest} (isNoReader : ∀ reader, asked ≠ .executeReader reader)
    (isAfter : (performCommand backend session name asked).2.commands.get? name = some held) :
    performCommand backend session name asked = useCommand backend session held asked := by
  unfold performCommand at isAfter ⊢
  cases asked
  case executeReader reader => exact absurd rfl (isNoReader reader)
  all_goals
    dsimp only at isAfter ⊢
    rw [isFree] at isAfter ⊢
  case finalize | drop => cases (Registry.get?_erase_self ..).symm.trans isAfter

theorem performCommand_of_change (isFree : session.freeCommand (ε := Error) name = .ok held)
    {asked : CommandRequest} {change : Slots.Change}
    (isChange : asked.change? laws held.command.statement session.engine = some change) :
    performCommand backend session name asked = useCommand backend session held asked := by
  unfold performCommand
  cases asked with
  | bind _ _ | bindText _ _ | clear =>
      dsimp only
      rw [isFree]
  | _ => cases isChange

/-! ## One request -/

/-- What a request does to the slots of a command that is still there after it. -/
def ChangesSlots (laws : Binding backend.engine) (name : String) (statement : StatementHandle)
    (session : Session σ) (request : Request) : Prop :=
  laws.slots (perform backend session request).2.engine statement =
    (slotChanges laws name statement session (perform backend session request).1 request).foldr
      Slots.Change.apply (laws.slots session.engine statement)

theorem link_of_opened {connection : String} (isOpened : session.IsOpened connection) :
    ∃ link, session.link? connection = some link ∧ link.connection.lifecycle ≠ .disposed := by
  obtain ⟨database, isOpened⟩ := isOpened
  obtain ⟨found, isFound, isLifecycle⟩ := Option.map_eq_some_iff.mp isOpened
  refine ⟨_, link?_of_held isFound, ?_⟩
  rw [isLifecycle]
  exact nofun

theorem onCommand_of_refused {refusal : Refusal Query.Error}
    (isFree : session.freeCommand (ε := Query.Error) name = .error refusal)
    (call : StatementHandle → Query.Call σ Unit) :
    onCommand session name call = (.error refusal, session) := by
  rw [onCommand, isFree]

theorem onCommand_of_free (isFree : session.freeCommand (ε := Query.Error) name = .ok held)
    {link : Link σ} (isLink : session.link? held.connection = some link)
    (call : StatementHandle → Query.Call σ Unit) :
    onCommand session name call =
      (((call held.command.statement link).1.mapError .failed).map fun _ => .nothing,
        session.setLink held.connection (call held.command.statement link).2) := by
  rw [onCommand, isFree]
  dsimp only [replying]
  rw [onConnection_of_link isLink]

section
variable (sound : Sound laws.toLedger session) (rested : Rested laws.toRewinding session)
  (isHeld : session.commands.get? name = some held) (isOpened : session.IsOpened held.connection)
include sound rested isHeld isOpened

theorem command_changesSlots {asked : CommandRequest} (fits : asked.fits = true)
    (isAfter : (performCommand backend session name asked).2.commands.get? name = some held) :
    ChangesSlots laws name held.command.statement session (.command name asked) := by
  unfold ChangesSlots slotChanges
  simp only [perform]
  cases isFree : session.freeCommand (ε := Error) name with
  | error refusal =>
      obtain ⟨reason, isRefused⟩ : ∃ reason,
          performCommand backend session name asked = (.error reason, session) :=
        performCommand_of_refused isFree asked
      rw [isRefused]
      rfl
  | ok found =>
      obtain rfl := Option.some.inj (isHeld.symm.trans (of_freeCommand isFree).1)
      obtain ⟨link, isLink, rests⟩ := rests_of_free sound isFree isOpened rested
      cases isChange : asked.change? laws held.command.statement session.engine with
      | none =>
          have same : laws.slots (performCommand backend session name asked).2.engine
              held.command.statement = laws.slots session.engine held.command.statement := by
            by_cases isReader : ∃ reader, asked = .executeReader reader
            · obtain ⟨reader, rfl⟩ := isReader
              rw [lend_engine isFree reader]
            · rw [performCommand_of_kept isFree (not_exists.mp isReader) isAfter]
              exact useCommand_keeps isLink rests isChange
          rw [same, Option.toList_none, ite_self]
          rfl
      | some change =>
          rw [performCommand_of_change isFree isChange]
          cases change with
          | set position value =>
              have takes := useCommand_takes isLink rests fits isChange
              generalize useCommand backend session held asked = outcome at takes
              cases takes with
              | taken _ _ sets => exact sets
              | refused _ keeps => exact keeps
          | clear =>
              obtain rfl : asked = .clear := by cases asked <;> first | rfl | cases isChange
              obtain ⟨after, clears, isEmpty⟩ := useCommand_clears isLink rests
              rw [clears]
              exact isEmpty

theorem bindValue_changesSlots (index : Int32) {value : Json}
    (fits : (Query.argumentOf value).fits = true) :
    ChangesSlots laws name held.command.statement session
      (.query (.bindValue name index value)) := by
  unfold ChangesSlots
  rw [perform_query, performQuery]
  cases isFree : session.freeCommand (ε := Query.Error) name with
  | error refusal =>
      rw [onCommand_of_refused isFree]
      simp [slotChanges, Response.isOk]
  | ok found =>
      obtain rfl := Option.some.inj (isHeld.symm.trans (of_freeCommand isFree).1)
      obtain ⟨link, isLink, rests⟩ := rests_of_free sound (free_of_free isFree) isOpened rested
      have assigns := Binding.bind_assigns rests backend.growth (.index index) fits
      rw [onCommand_of_free isFree isLink, Query.bindValue, Query.Call.ofConnection]
      rcases outcome : Parameter.bind backend.engine backend.growth held.command.statement
        (.index index) (Query.argumentOf value) link with ⟨refusal, last⟩
      rw [outcome] at assigns
      rw [← engine_of_link isLink]
      have sameLast : laws.slots (session.setLink held.connection last).engine
          held.command.statement = laws.slots last.engine held.command.statement :=
        congrArg (laws.slots · _) (setLink_engine ..)
      cases assigns with
      | taken _ _ sets =>
          refine sameLast.trans (sets.trans ?_)
          simp [slotChanges, Response.isOk, Except.map, Except.mapError, Slots.Change.apply,
            Parameter.position]
      | refused _ keeps =>
          refine sameLast.trans (keeps.trans ?_)
          simp [slotChanges, Response.isOk, Except.map, Except.mapError]

theorem bindValues_changesSlots {values : List Json}
    (fit : ∀ value ∈ values, (Query.argumentOf value).fits = true) :
    ChangesSlots laws name held.command.statement session (.query (.bindValues name values)) := by
  unfold ChangesSlots
  rw [perform_query, performQuery]
  cases isFree : session.freeCommand (ε := Query.Error) name with
  | error refusal =>
      have isRead : session.commandIsRead name = true := by
        rw [freeCommand, isHeld] at isFree
        by_contra isUnread
        simp [isUnread] at isFree
      rw [onCommand_of_refused isFree]
      simp [slotChanges, isRead]
  | ok found =>
      obtain ⟨isFound, isUnread⟩ := of_freeCommand isFree
      obtain rfl := Option.some.inj (isHeld.symm.trans isFound)
      obtain ⟨link, isLink, rests⟩ := rests_of_free sound (free_of_free isFree) isOpened rested
      rw [onCommand_of_free isFree isLink]
      simp only [slotChanges, isUnread, and_self, if_true, setLink_engine]
      rw [Binding.bindValues_slots rests fit, engine_of_link isLink]

omit rested in
theorem reader_changesSlots {reader : String} {found : HeldReader}
    (isFound : session.readers.get? reader = some found)
    (isFoundOpened : session.IsOpened found.connection)
    (isSame : found.reader.statement = held.command.statement) (asked : ReaderRequest) :
    ChangesSlots laws name held.command.statement session (.reader reader asked) := by
  show laws.slots (perform backend session (.reader reader asked)).2.engine _ =
    laws.slots session.engine _
  have isLender := lender_of_statement sound isHeld isOpened isFound isFoundOpened isSame
  obtain ⟨link, isLink, isLive⟩ := link_of_opened isFoundOpened
  have sameEngine : link.engine = session.engine := engine_of_link isLink
  have uses : session.IsOpened found.connection ∧
      laws.Uses (.nothing laws.toRewinding) found.reader.statement link :=
    uses_of_holder sound (.nothing sound.valid) (use_of_reader isFound) isLink isLive
      fun _ => False.elim
  rw [← isSame]
  cases asked
  case read =>
    rw [perform_read isFound isLink]
    dsimp only
    rw [setLink_engine, Binding.read_slots uses.2, sameEngine]
  case dispose =>
    have isRelease := sound.releases isFound
    rw [isLender] at isRelease
    rw [performReader_of_held isFound]
    unfold useReader
    dsimp only
    rw [isLink]
    dsimp only
    rw [setLink_engine, Binding.dispose_slots uses.2 isRelease, sameEngine]
  case cursor => rw [performReader_of_held isFound]; rfl
  all_goals
    rw [performReader_of_held isFound, useReader_accessor backend _ _ _ rfl]
    obtain ⟨readers, same⟩ := access_session session reader found (accessor backend _)
    rw [same]

omit sound rested in
theorem slotChanges_of_not_about (isAbout : ¬session.IsAbout held.command.statement request) :
    slotChanges laws name held.command.statement session (perform backend session request).1
      request = [] := by
  have isOther {other : String} (has : session.HasCommand other held.command.statement → False) :
      other ≠ name := by
    rintro rfl
    exact has ⟨held, isHeld, isOpened, rfl⟩
  cases request with
  | command other asked => simp [slotChanges, isOther isAbout]
  | query asked =>
      cases asked with
      | bindValue other index value => simp [slotChanges, isOther isAbout]
      | bindValues other values => simp [slotChanges, isOther isAbout]
      | _ => rfl
  | _ => rfl

theorem perform_changesSlots (fits : request.fits = true)
    (isAfter : (perform backend session request).2.commands.get? name = some held)
    (isOpenedAfter : (perform backend session request).2.IsOpened held.connection) :
    ChangesSlots laws name held.command.statement session request := by
  by_cases isAbout : session.IsAbout held.command.statement request
  case pos =>
    have isCommand {command : String} (has : session.HasCommand command held.command.statement) :
        command = name := name_of_statement sound isHeld isOpened has
    cases request with
    | pool request => exact isAbout.elim
    | connection connection request => exact isAbout.elim
    | command command asked =>
        obtain rfl := isCommand isAbout
        exact command_changesSlots sound rested isHeld isOpened fits isAfter
    | reader reader asked =>
        obtain ⟨found, isFound, isFoundOpened, isSame⟩ := isAbout
        exact reader_changesSlots sound isHeld isOpened isFound isFoundOpened isSame asked
    | query request =>
        cases request with
        | bindValue command index value =>
            obtain rfl := isCommand isAbout
            exact bindValue_changesSlots sound rested isHeld isOpened index fits
        | bindValues command values =>
            obtain rfl := isCommand isAbout
            exact bindValues_changesSlots sound rested isHeld isOpened (List.all_eq_true.mp fits)
        | _ => exact isAbout.elim
  let watch : Watch laws.toCustody :=
    ⟨_, laws.spares_slots (laws.slots session.engine held.command.statement),
      fun statement => statement = held.command.statement⟩
  have guards : watch.Guards session.engine := by
    refine ⟨sound.valid, ?_, ?_⟩
    · rintro _ rfl
      exact inUse_of_command sound isHeld isOpened
    · rintro _ rfl
      rfl
  unfold ChangesSlots
  rw [slotChanges_of_not_about isHeld isOpened isAbout]
  refine (perform_guards sound guards rested request ?_ ?_).areKept rfl
  · rintro _ isAboutIt rfl
    exact absurd isAboutIt isAbout
  · rintro _ rfl
    exact stays_of_not_about sound isHeld isOpened isOpenedAfter isAbout

end

/-! ## Runs -/

/-- What is in the slots of the command is what its history has come to. -/
def Recounts (laws : Binding backend.engine) (name : String) (session : Session σ)
    (history : List Slots.Change) : Prop :=
  ∀ {held}, session.commands.get? name = some held → session.IsOpened held.connection →
    laws.slots session.engine held.command.statement = .after history

section
variable (sound : Sound laws.toLedger session) (rested : Rested laws.toRewinding session)
include sound rested

theorem perform_recounts {request : Request} (fits : request.fits = true)
    {history : List Slots.Change}
    (recounts : Recounts laws name session history) :
    Recounts laws name (perform backend session request).2
      (match session.commands.get? name with
        | none => []
        | some held =>
            slotChanges laws name held.command.statement session
              (perform backend session request).1 request ++ history) := by
  intro held isAfter isOpenedAfter
  have changes : HoldersChange request session _ := perform_holders backend request
  rcases changes.commands.of_after isAfter with isHeld | ⟨isNew, connection, sql, isRequest⟩
  case inr =>
    subst isRequest
    obtain ⟨link, last, isLink, creates, sameEngine⟩ := createCommand_made isNew isAfter
    have sits : laws.Sits (.nothing laws.toRewinding) link :=
      sits_of_link sound (.nothing sound.valid) isLink
    have ended := sits.createCommand_holds sql
      (fun state statement => laws.slots state statement = .empty) laws.prepared_slots
    rw [creates] at ended
    rw [isNew]
    exact (congrArg (laws.slots · _) sameEngine).trans ended
  have isOpened := opened_before sound isHeld isOpenedAfter
  rw [isHeld, perform_changesSlots sound rested isHeld isOpened fits isAfter isOpenedAfter,
    recounts isHeld isOpened]
  exact (Slots.after_append _ _).symm

theorem run_recounts {requests : List Request}
    (fit : ∀ request ∈ requests, request.fits = true) {history : List Slots.Change}
    (recounts : Recounts laws name session history) :
    Recounts laws name (run backend session requests).2
      (slotHistory laws name session requests history) := by
  induction requests generalizing session history with
  | nil => exact recounts
  | cons request rest induction =>
      have fits := fit request List.mem_cons_self
      have restFit := fun later isThere => fit later (List.mem_cons_of_mem request isThere)
      intro held isHeld
      exact induction (perform_sound sound request) (perform_rested sound rested request) restFit
        (perform_recounts sound rested fits recounts) isHeld

end

/-- In every slot of a command is what it was last bound to since the values were cleared, and
null if it was not. Nothing but a bind that is answered and a clear changes any of them, and a
bind is answered exactly if the command has the position that it resolves to. -/
theorem slots_lastSet (laws : Binding backend.engine) {state : σ} (valid : laws.Valid state)
    (isFresh : laws.handles state = .none) {requests : List Request}
    (fit : ∀ request ∈ requests, request.fits = true) :
    let start : Session σ := { engine := state }
    let session := (run backend start requests).2
    ∀ {name held}, session.commands.get? name = some held →
      session.lifecycle? held.connection ≠ some .disposed →
        (∀ position, laws.slots session.engine held.command.statement position =
          (Slots.lastSet position (slotHistory laws name start requests [])).getD .null) ∧
        (session.freeCommand (ε := Error) name = .ok held →
          ∀ {asked : CommandRequest} {position value}, asked.fits = true →
            asked.change? laws held.command.statement session.engine =
                some (.set position value) →
              (perform backend session (.command name asked)).1 =
                .plain (if 1 ≤ position ∧
                    position ≤
                      backend.engine.parameterCount held.command.statement session.engine
                  then .ok .nothing else .error (.failed (.bindFailed Status.range)))) := by
  intro start session name held isHeld isLive
  have isSound : Sound laws.toLedger start := sound_of_nothing valid isFresh
  have fresh : Rested laws.toRewinding start := fun isHeld => nomatch isHeld
  have sound : Sound laws.toLedger session := run_sound isSound requests
  have rested : Rested laws.toRewinding session := run_rested isSound fresh requests
  have isOpened : session.IsOpened held.connection := opened_of_live sound isHeld isLive
  have recounts : Recounts laws name session (slotHistory laws name start requests []) :=
    run_recounts isSound fresh fit fun isHeld => nomatch isHeld
  refine ⟨fun position => ?_, fun isFree {asked position value} fits isChange => ?_⟩
  · rw [recounts isHeld isOpened, Slots.after_eq_lastSet]
  · obtain ⟨link, isLink, rests⟩ := rests_of_free sound isFree isOpened rested
    have takes := useCommand_takes isLink rests fits isChange
    simp only [perform, performCommand_of_change isFree isChange]
    generalize useCommand backend session held asked = outcome at takes
    cases takes with
    | taken isPosition inRange _ => rw [if_pos ⟨isPosition, inRange⟩]
    | refused isOutside _ => rw [if_neg isOutside]

/-- Values bound by position and by name, some of them refused, around an execution that
fails. -/
def boundAgain : List Request :=
  [.connection "c" (.connect none none none),
    .connection "c" (.executeNonQuery (.ofString "CREATE TABLE t(a INTEGER PRIMARY KEY)")),
    .connection "c" (.executeNonQuery (.ofString "INSERT INTO t VALUES(1)")),
    .connection "c" (.createCommand "k" (.ofString "INSERT INTO t VALUES(?1 + :n)")),
    .command "k" (.bind (.index 2) (.integer 9)),
    .command "k" .clear,
    .command "k" (.bind (.index 1) (.integer 0)),
    .command "k" (.bind (.name (.ofString ":n")) (.integer 1)),
    .command "k" (.bind (.name (.ofString ":m")) (.integer 7)),
    .command "k" .executeNonQuery,
    .query (.bindValues "k" [.integer 5]),
    .command "k" (.bind (.index 0) (.integer 7))]

theorem slots_lastSet_boundAgain :
    let session := (run Storage.backend { engine := {} } boundAgain).2
    ∃ held, session.freeCommand (ε := Error) "k" = .ok held ∧
      session.engine.slots held.command.statement 1 = .integer 5 ∧
      session.engine.slots held.command.statement 2 = .integer 1 ∧
      (perform Storage.backend session (.command "k" (.bind (.index 3) .null))).1 =
        .plain (.error (.failed (.bindFailed Status.range))) := by
  intro session
  have isFresh : Storage.binding.Shows {} .none := Storage.binding_empty
  have fit : ∀ request ∈ boundAgain, request.fits = true := by decide +kernel
  have isFree : (session.freeCommand (ε := Error) "k").toOption.any (fun held =>
      session.commands.get? "k" = some held ∧
        session.lifecycle? held.connection ≠ some .disposed ∧
          Storage.engine.parameterCount held.command.statement session.engine = 2) = true := by
    decide +kernel
  have history : slotHistory Storage.binding "k" { engine := {} } boundAgain [] =
      [.set 1 (.integer 5), .set 2 (.integer 1), .set 1 (.integer 0), .clear,
        .set 2 (.integer 9)] := by
    decide +kernel
  cases found : session.freeCommand (ε := Error) "k" with
  | error refusal => simp [found, Except.toOption] at isFree
  | ok held =>
      rw [found, Except.toOption, Option.any_some, decide_eq_true_iff] at isFree
      obtain ⟨isHeld, isLive, count⟩ := isFree
      obtain ⟨slots, answers⟩ :=
        slots_lastSet Storage.binding isFresh.1 isFresh.2 fit isHeld isLive
      refine ⟨held, rfl, (slots 1).trans ?_, (slots 2).trans ?_, ?_⟩
      · rw [history]
        rfl
      · rw [history]
        rfl
      · have fits : (CommandRequest.bind (.index 3) .null).fits = true := rfl
        have isChange : (CommandRequest.bind (.index 3) .null).change? Storage.binding
            held.command.statement session.engine = some (.set 3 .null) := rfl
        exact (answers found fits isChange).trans (by rw [if_neg]; exact count ▸ by decide)

end EmbeddedSql.Session
