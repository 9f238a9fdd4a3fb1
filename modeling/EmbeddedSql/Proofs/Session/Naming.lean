import EmbeddedSql.Proofs.Session.Encoding
import EmbeddedSql.Proofs.Session.Observing
import EmbeddedSql.Proofs.Session.Slots
import EmbeddedSql.Proofs.Storage.Binding

/-! Main result: the name of a parameter stands for that parameter, in both encodings, and a
text that is not the name of one binds nothing. -/

namespace EmbeddedSql.Session

variable {σ : Type} {backend : Backend σ} {session : Session σ} {name : String}
  {held : HeldCommand}

/-! ## Requests to bind -/

def CommandRequest.binding (parameter : Parameter) : Argument ⊕ Text → CommandRequest
  | .inl argument => .bind parameter argument
  | .inr text => .bindText parameter text

def given : Argument ⊕ Text → Argument
  | .inl argument => argument
  | .inr text => .text (.utf8 text.toUtf8)

/-- The commands of open connections have the values that they had. -/
def KeepsSlots (laws : Binding backend.engine) (before after : Session σ) : Prop :=
  ∀ {name held}, before.commands.get? name = some held → before.IsOpened held.connection →
    laws.slots after.engine held.command.statement =
      laws.slots before.engine held.command.statement

section
variable (backend) {link : Link σ} (isFree : session.freeCommand (ε := Error) name = .ok held)
  (isLink : session.link? held.connection = some link)
  (isLive : link.connection.isDisposed = false)
include isFree isLink isLive

theorem perform_binding (parameter : Parameter) (value : Argument ⊕ Text) :
    ∃ pool,
      let bound := backend.engine.give held.command.statement
        (parameter.position backend.engine held.command.statement link.engine) (given value)
        link.engine
      perform backend session (.command name (.binding parameter value)) =
        (.plain (((Parameter.result bound.1).mapError .failed).map fun _ => .nothing),
          session.setLink held.connection { link with pool, engine := bound.2 }) := by
  cases value with
  | inl argument =>
      obtain ⟨pool, binds⟩ := Parameter.bind_eq backend.engine backend.growth
        held.command.statement parameter argument isLive
      refine ⟨pool, ?_⟩
      simp only [CommandRequest.binding, perform, performCommand, isFree, useCommand, done,
        answering, onConnection_of_link isLink, binds, given]
  | inr text =>
      obtain ⟨pool, binds⟩ := Parameter.bindText_eq backend.engine backend.growth
        held.command.statement parameter text isLive
      refine ⟨pool, ?_⟩
      simp only [CommandRequest.binding, perform, performCommand, isFree, useCommand, done,
        answering, onConnection_of_link isLink, binds, given]

theorem binding_answersAs (parameter other : Parameter) (value otherValue : Argument ⊕ Text)
    (sameBound : backend.engine.give held.command.statement
        (other.position backend.engine held.command.statement link.engine) (given otherValue)
        link.engine =
      backend.engine.give held.command.statement
        (parameter.position backend.engine held.command.statement link.engine) (given value)
        link.engine) :
    AnswersAs (perform backend session (.command name (.binding parameter value)))
      (perform backend session (.command name (.binding other otherValue))) := by
  obtain ⟨pool, first⟩ := perform_binding backend isFree isLink isLive parameter value
  obtain ⟨otherPool, second⟩ := perform_binding backend isFree isLink isLive other otherValue
  rw [sameBound] at second
  let bound := backend.engine.give held.command.statement
    (parameter.position backend.engine held.command.statement link.engine) (given value) link.engine
  obtain ⟨pools, same⟩ :=
    setLink_pool session held.connection { link with pool, engine := bound.2 } otherPool
  rw [first, second]
  exact ⟨pools, Prod.ext rfl same⟩

theorem perform_indexOf (text : Text) :
    (perform backend session (.command name (.indexOf text))).1 =
      .plain (.ok (.number (Parameter.positionOf backend.engine held.command.statement text.toUtf8
        link.engine))) := by
  obtain ⟨pool, resolves⟩ := Parameter.resolve_eq backend.engine backend.growth
    held.command.statement (.name text) isLive
  simp only [perform, performCommand, isFree, useCommand, answering,
    onConnection_of_link isLink, resolves]
  rfl

theorem perform_nameOf (index : Int32) :
    (perform backend session (.command name (.nameOf index))).1 =
      .plain (.ok (.string ((backend.engine.parameterName? held.command.statement index.toInt
        link.engine).map Utf8.toString))) := by
  have answers : Parameter.nameOf backend.engine held.command.statement index link =
      (.ok ((backend.engine.parameterName? held.command.statement index.toInt link.engine).map
        Utf8.toString), link) := by
    unfold Parameter.nameOf
    rw [Call.bind_of_ok _ (Connection.ensureNotDisposed_of_live isLive)]
    rfl
  simp only [perform, performCommand, isFree, useCommand, answering,
    onConnection_of_link isLink, answers]
  rfl

end

/-- There is no position zero, and the engine is not asked for one if it cannot be told how long
the value is. -/
theorem give_nowhere {laws : Binding backend.engine} {watch : Watch laws.toCustody}
    {statement : StatementHandle} {link : Link σ} (rests : laws.Rests watch statement link)
    (argument : Argument) :
    let given := backend.engine.give statement 0 argument link.engine
    given.1 = (if Engine.maxLength < argument.byteLength then Status.tooBig else Status.range) ∧
      ∀ {other}, (laws.handles link.engine).InUse other →
        laws.slots given.2 other = laws.slots link.engine other := by
  intro given
  by_cases isLong : Engine.maxLength < argument.byteLength
  · have isGiven : given = (Status.tooBig, link.engine) :=
      congrFun (Engine.give_of_long isLong) link.engine
    rw [isGiven, if_pos isLong]
    exact ⟨rfl, fun _ => rfl⟩
  · have isGiven : given = backend.engine.bind statement 0 argument link.engine :=
      congrFun (Engine.give_of_le (Nat.le_of_not_lt isLong)) link.engine
    have isOutside : ¬(1 ≤ (0 : Int) ∧
        (0 : Int) ≤ backend.engine.parameterCount statement link.engine) := by omega
    rw [isGiven, if_neg isLong]
    obtain ⟨isRange, keeps⟩ := laws.bound_outside rests.valid rests.inUse rests.isReset isOutside
    refine ⟨isRange, fun {other} inUse => ?_⟩
    by_cases isSame : other = statement
    · rw [isSame, keeps]
    · exact (laws.spares_slots _).bind rests.valid rests.inUse inUse isSame rfl

section
variable {laws : Binding backend.engine} (sound : Sound laws.toLedger session)
  (rested : Rested laws.toRewinding session)
  (isFree : session.freeCommand (ε := Error) name = .ok held)
  (isOpened : session.IsOpened held.connection)
include sound rested isFree isOpened

theorem binding_refused (parameter : Parameter)
    (isNone : parameter.position backend.engine held.command.statement session.engine = 0)
    (value : Argument ⊕ Text) :
    let outcome := perform backend session (.command name (.binding parameter value))
    outcome.1 = .plain (.error (.failed (.bindFailed
        (if Engine.maxLength < (given value).byteLength then Status.tooBig else Status.range)))) ∧
      KeepsSlots laws session outcome.2 := by
  intro outcome
  obtain ⟨link, isLink, rests⟩ := rests_of_free sound isFree isOpened rested
  have sameEngine : link.engine = session.engine := engine_of_link isLink
  obtain ⟨pool, binds⟩ := perform_binding backend isFree isLink rests.isLive parameter value
  obtain ⟨isCode, keeps⟩ := give_nowhere rests (given value)
  rw [sameEngine, isNone, ← sameEngine] at binds
  refine ⟨?_, fun {other found} isHeld isOtherOpened => ?_⟩
  · show (perform backend session _).1 = _
    rw [binds, isCode]
    split <;> rfl
  · have inUse : (laws.handles link.engine).InUse found.command.statement :=
      sameEngine ▸ inUse_of_command sound isHeld isOtherOpened
    show laws.slots (perform backend session _).2.engine _ = _
    rw [binds, setLink_engine, ← sameEngine]
    exact keeps inUse

end

/-! ## Names -/

/-- The name of a parameter stands for its position, in whichever encoding, and binding by it
is binding by the position. Any other text stands for no position, with a zero in it even if a
name ends there, and a call that binds by it fails and changes no slot. It fails for the name,
unless the value is too long by itself. -/
theorem parameters_named (laws : Naming backend.engine) {state : σ} (valid : laws.Valid state)
    (isFresh : laws.handles state = .none) (requests : List Request) :
    let session := (run backend { engine := state } requests).2
    ∀ {name held}, session.freeCommand (ε := Error) name = .ok held →
      session.lifecycle? held.connection ≠ some .disposed →
        let names := laws.names session.engine held.command.statement
        let asked (request : CommandRequest) := perform backend session (.command name request)
        (names.IsProper → ∀ {index parameter},
          (asked (.nameOf index)).1 = .plain (.ok (.string (some parameter))) →
            ∀ {text : Text}, text.toUtf8 = Utf8.ofString parameter →
              (asked (.indexOf text)).1 = .plain (.ok (.number index.toInt)) ∧
                ∀ value, AnswersAs (asked (.binding (.index index) value))
                  (asked (.binding (.name text) value))) ∧
        ∀ {text}, names.IsUnknown text →
          (asked (.indexOf text)).1 = .plain (.ok (.number 0)) ∧
            ∀ value,
              let outcome := asked (.binding (.name text) value)
              outcome.1 = .plain (.error (.failed (.bindFailed
                  (if Engine.maxLength < (given value).byteLength then Status.tooBig
                  else Status.range)))) ∧
                KeepsSlots laws.toBinding session outcome.2 := by
  intro session name held isFree isLive names asked
  obtain ⟨sound, rested⟩ : Sound laws.toLedger session ∧ Rested laws.toRewinding session :=
    sound_and_rested valid isFresh requests
  have isOpened : session.IsOpened held.connection :=
    opened_of_live sound (of_freeCommand isFree).1 isLive
  obtain ⟨link, isLink, rests⟩ := rests_of_free sound isFree isOpened rested
  have sameEngine : link.engine = session.engine := engine_of_link isLink
  have inUse : (laws.handles session.engine).InUse held.command.statement :=
    sameEngine ▸ rests.inUse
  refine ⟨fun isProper {index parameter} isNamed {text} isText => ?_, fun {text} isUnknown => ?_⟩
  · rw [perform_nameOf backend isFree isLink rests.isLive, sameEngine] at isNamed
    obtain ⟨bytes, isName, rfl⟩ : ∃ bytes, backend.engine.parameterName? held.command.statement
        index.toInt session.engine = some bytes ∧ Utf8.toString bytes = parameter := by
      simpa using isNamed
    obtain ⟨isPosition, reads⟩ := laws.positionOf_name sound.valid inUse isProper isName
    have samePosition : Parameter.positionOf backend.engine held.command.statement text.toUtf8
        link.engine = index.toInt := by
      rw [isText, reads, sameEngine, isPosition]
    refine ⟨?_, fun value => binding_answersAs backend isFree isLink rests.isLive (.index index)
      (.name text) value value ?_⟩
    · rw [perform_indexOf backend isFree isLink rests.isLive, samePosition]
    · exact congrArg (fun position => backend.engine.give _ position (given value) link.engine)
        samePosition
  · have isNone : Parameter.positionOf backend.engine held.command.statement text.toUtf8
        session.engine = 0 := laws.positionOf_unknown sound.valid inUse isUnknown
    refine ⟨?_, binding_refused sound rested isFree isOpened (.name text) isNone⟩
    rw [perform_indexOf backend isFree isLink rests.isLive, sameEngine, isNone]

/-- A command with named parameters before and after a numbered one. -/
def mixedParameters : List Request :=
  [.connection "c" (.connect none none none),
    .connection "c" (.createCommand "k" (.ofString "SELECT $a, :größe, ?5, @a"))]

theorem parameters_named_mixedParameters :
    let session := (run Storage.backend { engine := {} } mixedParameters).2
    let asked (request : CommandRequest) := perform Storage.backend session (.command "k" request)
    (asked (.nameOf 2)).1 = .plain (.ok (.string (some ":größe"))) ∧
      (asked (.indexOf (.wideOfString ":größe"))).1 = .plain (.ok (.number 2)) ∧
      AnswersAs (asked (.bind (.index 2) (.integer 7)))
        (asked (.bind (.name (.wideOfString ":größe")) (.integer 7))) ∧
      (asked (.indexOf (.ofString ":größe\x00"))).1 = .plain (.ok (.number 0)) ∧
      (asked (.bindText (.name (.wideOfString "$a\x00b")) (.ofString "x"))).1 =
        .plain (.error (.failed (.bindFailed Status.range))) ∧
      (asked (.bind (.name (.ofString ":gr")) .null)).1 =
        .plain (.error (.failed (.bindFailed Status.range))) := by
  intro session asked
  have isFresh : Storage.naming.Shows {} .none := Storage.binding_empty
  let table : Names := (["$a", ":größe", "?5", "@a"].map Utf8.ofString).zip [1, 2, 5, 6]
  have isFree : (session.freeCommand (ε := Error) "k").toOption.any (fun held =>
      session.lifecycle? held.connection ≠ some .disposed ∧
        session.engine.names held.command.statement = table) = true := by
    decide +kernel
  have isNamed : (asked (.nameOf 2)).1 = .plain (.ok (.string (some ":größe"))) :=
    Response.of_answer? (by decide +kernel)
  have isProper : table.IsProper := by
    refine ⟨by decide +kernel, List.forall_mem_cons.mpr ⟨⟨by decide +kernel, _, rfl⟩, ?_⟩⟩
    refine List.forall_mem_cons.mpr ⟨⟨by decide +kernel, _, rfl⟩, ?_⟩
    refine List.forall_mem_cons.mpr ⟨⟨by decide +kernel, _, rfl⟩, ?_⟩
    exact List.forall_mem_singleton.mpr ⟨by decide +kernel, _, rfl⟩
  have isOther : (Text.ofString ":gr").toUtf8 ∉ table.map (·.1) := by decide +kernel
  cases found : session.freeCommand (ε := Error) "k" with
  | error refusal => simp [found, Except.toOption] at isFree
  | ok held =>
      rw [found, Except.toOption, Option.any_some, decide_eq_true_iff] at isFree
      obtain ⟨isLive, isTable⟩ := isFree
      have named :=
        parameters_named Storage.naming isFresh.1 isFresh.2 mixedParameters found isLive
      rw [← Storage.naming_names] at isTable
      dsimp only at named
      rw [isTable] at named
      obtain ⟨ofName, ofUnknown⟩ := named
      have longer : Text.HasZero (.ofString ":größe\x00") := by
        show 0 ∈ Utf8.ofString ":größe\x00"
        decide +kernel
      have wide : Text.HasZero (.wideOfString "$a\x00b") := by
        show 0 ∈ Utf16.ofString "$a\x00b"
        decide +kernel
      obtain ⟨isIndex, binds⟩ := ofName isProper isNamed (Text.toUtf8_wideOfString ":größe")
      exact ⟨isNamed, isIndex, binds (.inl (.integer 7)), (ofUnknown (.inl longer)).1,
        ((ofUnknown (.inl wide)).2 (.inr (.ofString "x"))).1,
        ((ofUnknown (.inr isOther)).2 (.inl .null)).1⟩

end EmbeddedSql.Session
