import EmbeddedSql.Proofs.Connection.Lifecycle
import EmbeddedSql.Proofs.Connection.Rewinding
import EmbeddedSql.Proofs.Engine.Binding
import EmbeddedSql.Proofs.Scratch.Encoded
import EmbeddedSql.Text.Basic

/-! What calls on parameters come to. Scratch buffers hold the names and values that they
pass on, and nothing but the pool shows it afterwards. A call that binds sets the slot that it finds
and no other, and running the statement sets none. -/

namespace EmbeddedSql

/-- The bytes of a text in UTF-8, with replacements for what is not well-formed. -/
def Text.toUtf8 : Text → Bytes
  | .utf8 bytes => bytes
  | .utf16 units => Utf16.toUtf8 units

namespace Parameter

variable {σ : Type} (engine : Engine σ) (growth : Scratch.Growth) (statement : StatementHandle)

/-! ## Positions -/

def positionOf (name : Bytes) (state : σ) : Int :=
  if name.contains 0 then 0 else engine.parameterIndex statement name state

def position (state : σ) : Parameter → Int
  | .index position => position.toInt
  | .name text => positionOf engine statement text.toUtf8 state

theorem lookUp_eq {encoded : Scratch.Encoded} {name : Bytes} (isTerminated : encoded.terminated)
    (isName : encoded.bytes = name) (link : Link σ) :
    lookUp engine statement encoded link =
      (.ok (positionOf engine statement name link.engine), link) := by
  rw [lookUp, Scratch.Encoded.cString?_of_bytes isTerminated isName, positionOf]
  cases name.contains 0 <;> rfl

theorem resolve_eq (parameter : Parameter) {link : Link σ}
    (isLive : link.connection.isDisposed = false) :
    ∃ pool, resolve engine growth statement parameter link =
      (.ok (position engine statement link.engine parameter), { link with pool }) := by
  unfold resolve
  rw [Call.bind_of_ok _ (Connection.ensureNotDisposed_of_live isLive)]
  rcases parameter with index | ⟨bytes | units⟩
  · exact ⟨link.pool, rfl⟩
  · unfold Call.withScratch
    dsimp only
    rw [lookUp_eq engine statement rfl (Scratch.Encoded.ofUtf8Terminated_bytes ..)]
    exact ⟨_, rfl⟩
  · unfold Call.withScratch
    dsimp only
    rw [lookUp_eq engine statement rfl (Scratch.Encoded.ofUtf16Terminated_bytes ..)]
    exact ⟨_, rfl⟩

/-! ## Bindings -/

def result (code : Int) : Except Error Unit :=
  if code = Status.ok then .ok () else .error (.bindFailed code)

theorem check_request (action : StateM σ Int) (link : Link σ) :
    (Call.request action >>= check) link =
      (result (action link.engine).1, { link with engine := (action link.engine).2 }) := by
  rw [Call.bind_of_ok _ (Call.request_apply action link), check, result]
  split <;> rfl

theorem bind_eq (parameter : Parameter) (argument : Argument) {link : Link σ}
    (isLive : link.connection.isDisposed = false) :
    ∃ pool,
      let bound := engine.give statement (position engine statement link.engine parameter) argument
        link.engine
      bind engine growth statement parameter argument link =
        (result bound.1, { link with pool, engine := bound.2 }) := by
  obtain ⟨pool, resolves⟩ := resolve_eq engine growth statement parameter isLive
  refine ⟨pool, ?_⟩
  unfold bind
  rw [Call.bind_of_ok _ resolves, check_request]

theorem bindText_eq (parameter : Parameter) (text : Text) {link : Link σ}
    (isLive : link.connection.isDisposed = false) :
    ∃ pool,
      let bound := engine.give statement (position engine statement link.engine parameter)
        (.text (.utf8 text.toUtf8)) link.engine
      bindText engine growth statement parameter text link =
        (result bound.1, { link with pool, engine := bound.2 }) := by
  obtain ⟨pool, resolves⟩ := resolve_eq engine growth statement parameter isLive
  unfold bindText
  rw [Call.bind_of_ok _ resolves]
  cases text with
  | utf8 bytes =>
      refine ⟨pool, ?_⟩
      dsimp only
      rw [check_request]
      rfl
  | utf16 units =>
      unfold Call.withScratch
      dsimp only
      rw [check_request, Scratch.Encoded.ofUtf16_bytes]
      exact ⟨_, rfl⟩

end Parameter

end EmbeddedSql

/-! ## Slots -/

namespace EmbeddedSql

variable {σ ε β : Type}

namespace Binding

variable {engine : Engine σ} (laws : Binding engine) {watch : Watch laws.toCustody}
  {link : Link σ} {statement : StatementHandle}

/-! ## Values -/

/-- A position of the statement takes a value. Others are out of range, and nothing comes
of it. -/
inductive Assigns (statement : StatementHandle) (index : Int) (argument : Argument)
    (link : Link σ) : Except Error Unit × Link σ → Prop
  | taken {last : Link σ} : 1 ≤ index → index ≤ engine.parameterCount statement link.engine →
      laws.slots last.engine statement =
          Function.update (laws.slots link.engine statement) index (argument.kept laws.ofWide) →
        Assigns statement index argument link (.ok (), last)
  | refused {last : Link σ} :
      ¬(1 ≤ index ∧ index ≤ engine.parameterCount statement link.engine) →
        laws.slots last.engine statement = laws.slots link.engine statement →
          Assigns statement index argument link (.error (.bindFailed Status.range), last)

variable {laws}

section
variable (rests : laws.Rests watch statement link)
include rests

theorem assigns (index : Int) {argument : Argument} (fits : argument.fits = true) {last : Link σ}
    (isAfter : last.engine = (engine.give statement index argument link.engine).2) :
    laws.Assigns statement index argument link
      (Parameter.result (engine.give statement index argument link.engine).1, last) := by
  rw [engine.give_of_fits fits] at isAfter ⊢
  by_cases inRange : 1 ≤ index ∧ index ≤ engine.parameterCount statement link.engine
  · obtain ⟨isOk, sets⟩ :=
      laws.bound_slots fits rests.valid rests.inUse rests.isReset inRange.1 inRange.2
    rw [Parameter.result, if_pos isOk]
    exact .taken inRange.1 inRange.2 (isAfter ▸ sets)
  · obtain ⟨isRange, keeps⟩ :=
      laws.bound_outside rests.valid rests.inUse rests.isReset inRange
    rw [Parameter.result, if_neg (by rw [isRange]; decide), isRange]
    exact .refused inRange (isAfter ▸ keeps)

variable (growth : Scratch.Growth)

theorem bind_assigns (parameter : Parameter) {argument : Argument}
    (fits : argument.fits = true) :
    laws.Assigns statement (Parameter.position engine statement link.engine parameter) argument
      link (Parameter.bind engine growth statement parameter argument link) := by
  obtain ⟨pool, binds⟩ := Parameter.bind_eq engine growth statement parameter argument rests.isLive
  rw [binds]
  exact assigns rests _ fits rfl

theorem bindText_assigns (parameter : Parameter) {text : Text}
    (fits : (Argument.text (.utf8 text.toUtf8)).fits = true) :
    laws.Assigns statement (Parameter.position engine statement link.engine parameter)
      (.text (.utf8 text.toUtf8)) link
      (Parameter.bindText engine growth statement parameter text link) := by
  obtain ⟨pool, binds⟩ := Parameter.bindText_eq engine growth statement parameter text rests.isLive
  rw [binds]
  exact assigns rests _ fits rfl

theorem bind_count (parameter : Parameter) (argument : Argument) :
    engine.parameterCount statement
        (Parameter.bind engine growth statement parameter argument link).2.engine =
      engine.parameterCount statement link.engine := by
  obtain ⟨pool, binds⟩ := Parameter.bind_eq engine growth statement parameter argument rests.isLive
  rw [binds]
  dsimp only
  rcases Nat.lt_or_ge Engine.maxLength argument.byteLength with isLong | fits
  · rw [Engine.give_of_long isLong]
  · rw [Engine.give_of_le fits]
    exact laws.bound_count rests.valid rests.inUse

theorem clear_slots :
    ∃ last, Parameter.clear engine statement link = (.ok (), last) ∧
      laws.slots last.engine statement = .empty := by
  obtain ⟨isOk, clears⟩ := laws.cleared_slots rests.valid rests.inUse
  refine ⟨{ link with engine := (engine.clearBindings statement link.engine).2 }, ?_, clears⟩
  unfold Parameter.clear
  rw [Call.bind_of_ok _ rests.ensureNotDisposed, Parameter.check_request, Parameter.result,
    if_pos isOk]

end

/-! ## Runs -/

variable {reader : Reader}

theorem read_slots (uses : laws.Uses watch reader.statement link) :
    laws.slots (reader.read engine link).2.engine reader.statement =
      laws.slots link.engine reader.statement := by
  unfold Reader.read
  rw [if_neg (by simp [uses.isLive])]
  split
  · rfl
  · exact laws.stepped_slots uses.valid uses.inUse

theorem dispose_slots (uses : laws.Uses watch reader.statement link)
    (isReset : reader.release = .reset) :
    laws.slots (reader.dispose engine link).engine reader.statement =
      laws.slots link.engine reader.statement := by
  rw [Reader.dispose, if_neg (by simp [uses.isLive]), isReset]
  exact laws.reset_slots uses.valid uses.inUse

end Binding

namespace Binding

variable {backend : Backend σ} {laws : Binding backend.engine} {watch : Watch laws.toCustody}
  {link : Link σ} {command : Command}

theorem executeNonQuery_slots (rests : laws.Rests watch command.statement link) :
    laws.slots (command.executeNonQuery backend link).2.engine command.statement =
      laws.slots link.engine command.statement := by
  let IsOurs (reader : Reader) (last : Link σ) : Prop :=
    laws.Uses watch reader.statement last ∧ reader.statement = command.statement ∧
      reader.release = .reset ∧
        laws.slots last.engine reader.statement = laws.slots link.engine reader.statement
  have start : IsOurs command.reader link := ⟨rests.toUses, rfl, rfl, rfl⟩
  have reads (reader : Reader) (last : Link σ) (isOurs : IsOurs reader last) :
      IsOurs (reader.read backend.engine last).1.2 (reader.read backend.engine last).2 := by
    obtain ⟨uses, isCommand, isReset, keeps⟩ := isOurs
    refine ⟨uses.read, (reader.read_statement ..).trans isCommand,
      (reader.read_release ..).trans isReset, ?_⟩
    rw [reader.read_statement]
    exact (read_slots uses).trans keeps
  unfold Command.executeNonQuery Command.executeReader
  rw [Call.bind_apply, Call.bind_of_ok _ rests.ensureNotDisposed, Call.pure_apply]
  dsimp only
  let gathered := command.reader.gather backend (fun _ => true)
    (fun _ _ count => Except.ok (count + 1)) id 0 link
  obtain ⟨uses, isCommand, isReset, keeps⟩ : IsOurs gathered.1.2 gathered.2 :=
    Reader.gather_keeps reads start
  have disposes := dispose_slots uses isReset
  rw [isCommand] at disposes keeps
  exact disposes.trans keeps

end Binding

end EmbeddedSql
