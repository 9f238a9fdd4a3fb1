import EmbeddedSql.Proofs.Connection.Binding
import EmbeddedSql.Proofs.Connection.Lifecycle
import EmbeddedSql.Proofs.Number.Binary64
import EmbeddedSql.Proofs.Storage.Echoing
import EmbeddedSql.Proofs.Text.Utf8

/-! JSON values that are bound and read back. What comes back is the normal form of the value,
and a normal form comes back unchanged. -/

namespace EmbeddedSql

/-! ## Normal forms -/

namespace Json

/-- Integers are those of 64 bits, signed or unsigned, and reals are finite. -/
def isProper : Json → Bool
  | .integer value => -0x8000000000000000 ≤ value && value ≤ 0xFFFFFFFFFFFFFFFF
  | .real value => value.isFinite
  | _ => true

/-- What a database makes of a value: truth values are numbers, integers above the signed
range are the reals that they convert to, arrays and objects are their text. -/
def normal : Json → Json
  | .null => .null
  | .boolean value => .integer (if value then 1 else 0)
  | .integer value =>
      if value ≤ 0x7FFFFFFFFFFFFFFF then .integer value
      else .real (.ofUInt64 value.toNat.toUInt64)
  | .real value => .real value
  | .string value => .string value
  | .array elements => .string (Json.array elements).toText
  | .object members => .string (Json.object members).toText

theorem normal_of_signed {value : Int} (isSigned : value ≤ 0x7FFFFFFFFFFFFFFF) :
    (integer value).normal = .integer value :=
  if_pos isSigned

theorem normal_of_unsigned {value : Int} (isUnsigned : ¬value ≤ 0x7FFFFFFFFFFFFFFF) :
    (integer value).normal = .real (.ofUInt64 value.toNat.toUInt64) :=
  if_neg isUnsigned

theorem normal_normal (value : Json) : value.normal.normal = value.normal := by
  cases value with
  | boolean value => cases value <;> rfl
  | integer value =>
      by_cases isSigned : value ≤ 0x7FFFFFFFFFFFFFFF
      · rw [normal_of_signed isSigned, normal_of_signed isSigned]
      · rw [normal_of_unsigned isSigned]
        rfl
  | _ => rfl

theorem isProper_normal {value : Json} (isProper : value.isProper) : value.normal.isProper := by
  cases value with
  | boolean value => cases value <;> rfl
  | integer value =>
      by_cases isSigned : value ≤ 0x7FFFFFFFFFFFFFFF
      · rw [normal_of_signed isSigned]
        exact isProper
      · rw [normal_of_unsigned isSigned]
        exact Binary64.isFinite_ofUInt64 _
  | real value => exact isProper
  | _ => rfl

end Json

namespace Query

/-! ## There and back -/

theorem toInt_ofInt {value : Int} (isLarge : -0x8000000000000000 ≤ value)
    (isSmall : value ≤ 0x7FFFFFFFFFFFFFFF) : (Int64.ofInt value).toInt = value :=
  Int64.toInt_ofInt_of_le isLarge (by omega)

theorem argumentOf_signed {value : Int}
    (isSigned : -0x8000000000000000 ≤ value ∧ value ≤ 0x7FFFFFFFFFFFFFFF) :
    argumentOf (.integer value) = .integer (Int64.ofInt value) :=
  if_pos isSigned

theorem argumentOf_unsigned {value : Int} (isUnsigned : ¬value ≤ 0x7FFFFFFFFFFFFFFF) :
    argumentOf (.integer value) = .real (.ofUInt64 value.toNat.toUInt64) :=
  if_neg fun isSigned => isUnsigned isSigned.2

/-- Binding and reading meet: the argument for a value stands for its normal form. -/
theorem argumentOf_exact {value : Json} (isProper : value.isProper) :
    (argumentOf value).isExact ∧ jsonOf (argumentOf value).value = value.normal := by
  cases value with
  | null => exact ⟨rfl, rfl⟩
  | boolean value => cases value <;> exact ⟨rfl, rfl⟩
  | integer value =>
      rw [Json.isProper, Bool.and_eq_true, decide_eq_true_iff, decide_eq_true_iff] at isProper
      by_cases isSigned : value ≤ 0x7FFFFFFFFFFFFFFF
      · rw [argumentOf_signed ⟨isProper.1, isSigned⟩, Json.normal_of_signed isSigned]
        exact ⟨rfl, congrArg Json.integer (toInt_ofInt isProper.1 isSigned)⟩
      · have isFinite := Binary64.isFinite_ofUInt64 value.toNat.toUInt64
        rw [argumentOf_unsigned isSigned, Json.normal_of_unsigned isSigned]
        exact ⟨isFinite, if_pos isFinite⟩
  | real value => exact ⟨isProper, if_pos isProper⟩
  | string value => exact ⟨rfl, congrArg Json.string (Utf8.toString_ofString value)⟩
  | array elements => exact ⟨rfl, congrArg Json.string (Utf8.toString_ofString _)⟩
  | object members => exact ⟨rfl, congrArg Json.string (Utf8.toString_ofString _)⟩

/-! ## Through a database -/

section
variable {σ : Type} (backend : Backend σ)

/-- Binds a value to the first parameter of a command, runs the command and reads back the
first column of its first row. -/
def echo (command : Command) (value : Json) : Call σ Json := do
  bindValue backend.engine backend.growth command.statement 1 value
  let reader ← Call.ofConnection command.executeReader
  fun link =>
    let ((_, reader), link) := reader.read backend.engine link
    (columnJson backend.engine reader 0 link, reader.dispose backend.engine link)

def echoEach (command : Command) : List Json → Call σ (List Json)
  | [] => pure []
  | value :: rest => do
      let answer ← echo backend command value
      let answers ← echoEach command rest
      pure (answer :: answers)

def echoAll (values : List Json) : Call σ (List Json) := do
  let command ← Call.ofConnection (Connection.createCommand backend echoSql)
  echoEach backend command values

end

variable {σ : Type} {backend : Backend σ} (laws : Echoing backend.engine)

/-- A command of the query on a live connection, between two runs. -/
structure Echoes (command : Command) (held : Value) (link : Link σ) : Prop where
  isLive : link.connection.isDisposed = false
  holds : laws.Holds command.statement held link.engine

variable {laws} {command : Command} {held : Value} {link : Link σ}

theorem bindValue_first (engine : Engine σ) (growth : Scratch.Growth)
    {statement : StatementHandle} (value : Json) (isLive : link.connection.isDisposed = false) :
    let given := engine.give statement 1 (argumentOf value) link.engine
    Query.bindValue engine growth statement 1 value link =
      ((Parameter.result given.1).mapError .connection, { link with engine := given.2 }) := by
  intro given
  have resolves : Parameter.resolve engine growth statement (.index 1) link = (.ok 1, link) := by
    unfold Parameter.resolve
    rw [EmbeddedSql.Call.bind_of_ok _ (Connection.ensureNotDisposed_of_live isLive)]
    rfl
  unfold Query.bindValue Call.ofConnection Parameter.bind
  rw [EmbeddedSql.Call.bind_of_ok _ resolves, Parameter.check_request]
  dsimp only [given]
  cases Parameter.result _ <;> rfl

theorem Echoes.reads (echoes : Echoes laws command held link) :
    command.reader.read backend.engine link =
      ((.ok true, { command.reader with cursor := .onRow, cells := [.ofValue held] }),
        { link with engine := (backend.engine.step command.statement link.engine).2 }) := by
  obtain ⟨isRow, row, -⟩ := laws.stepped echoes.holds
  unfold Reader.read
  rw [if_neg (by simp [echoes.isLive]), if_neg nofun]
  dsimp only [Command.reader]
  rw [Reader.settle, if_pos isRow, row]

theorem Echoes.isColumn (echoes : Echoes laws command held link) {reader : Reader}
    (isOurs : reader.statement = command.statement) :
    0 < reader.count backend.engine
      { link with engine := (backend.engine.step command.statement link.engine).2 } := by
  obtain ⟨-, -, columns⟩ := laws.stepped echoes.holds
  rw [Reader.count, Engine.columnCount, isOurs, columns]
  decide

theorem Echoes.disposes (echoes : Echoes laws command held link) {reader : Reader}
    (isOurs : reader.statement = command.statement) (isReset : reader.release = .reset) :
    Echoes laws command held (reader.dispose backend.engine
      { link with engine := (backend.engine.step command.statement link.engine).2 }) := by
  unfold Reader.dispose
  rw [if_neg (by simp [echoes.isLive]), isReset, isOurs]
  exact ⟨echoes.isLive, laws.rewound echoes.holds⟩

theorem Echoes.read (echoes : Echoes laws command held link) :
    (columnJson backend.engine (command.reader.read backend.engine link).1.2 0
        (command.reader.read backend.engine link).2) = .ok (jsonOf held) ∧
      Echoes laws command held ((command.reader.read backend.engine link).1.2.dispose
        backend.engine (command.reader.read backend.engine link).2) := by
  have sameValue : (Cell.ofValue held).toValue = held := by cases held <;> rfl
  rw [echoes.reads]
  refine ⟨?_, echoes.disposes rfl rfl⟩
  rw [columnJson, Reader.cell_of_row (by simp [echoes.isLive]) rfl (echoes.isColumn rfl)]
  simp [sameValue]

theorem Echoes.bindValue (echoes : Echoes laws command held link) {value : Json}
    (isProper : value.isProper) (fits : (argumentOf value).fits = true) :
    ∃ state, Query.bindValue backend.engine backend.growth command.statement 1 value link =
        (.ok (), { link with engine := state }) ∧
      Echoes laws command (argumentOf value).value { link with engine := state } := by
  obtain ⟨isOk, holds⟩ := laws.bound echoes.holds (argumentOf_exact isProper).1 fits
  rw [← backend.engine.give_of_fits fits] at isOk holds
  refine ⟨(backend.engine.give command.statement 1 (argumentOf value) link.engine).2, ?_,
    echoes.isLive, holds⟩
  rw [bindValue_first backend.engine backend.growth value echoes.isLive, Parameter.result,
    if_pos isOk]
  rfl

/-- The driver does not ask about a value whose length it cannot tell, and SQLite refuses the other
values that are too long. -/
theorem Echoes.give_long (echoes : Echoes laws command held link) {argument : Argument}
    (isLong : argument.fits = false) :
    (backend.engine.give command.statement 1 argument link.engine).1 = Status.tooBig := by
  by_cases isTold : argument.byteLength ≤ Engine.maxLength
  · rw [Engine.give_of_le isTold]
    exact laws.boundLong echoes.holds isLong
  · rw [Engine.give_of_long (Nat.lt_of_not_le isTold)]

theorem Echoes.refuses (echoes : Echoes laws command held link) {value : Json}
    (isLong : (argumentOf value).fits = false) :
    ∃ after, Query.bindValue backend.engine backend.growth command.statement 1 value link =
      (.error (.connection (.bindFailed Status.tooBig)), after) := by
  rw [bindValue_first backend.engine backend.growth value echoes.isLive, echoes.give_long isLong]
  exact ⟨_, rfl⟩

theorem Echoes.executes (echoes : Echoes laws command held link) :
    Call.ofConnection command.executeReader link = (.ok command.reader, link) := by
  unfold Call.ofConnection Command.executeReader
  rw [EmbeddedSql.Call.bind_of_ok _ (Connection.ensureNotDisposed_of_live echoes.isLive)]
  rfl

theorem Echoes.echo (echoes : Echoes laws command held link) {value : Json}
    (isProper : value.isProper) (fits : (argumentOf value).fits = true) :
    ∃ after, Query.echo backend command value link = (.ok value.normal, after) ∧
      Echoes laws command (argumentOf value).value after := by
  obtain ⟨-, isNormal⟩ := argumentOf_exact isProper
  obtain ⟨state, binds, isBound⟩ := echoes.bindValue isProper fits
  refine ⟨_, ?_, isBound.read.2⟩
  unfold Query.echo
  rw [EmbeddedSql.Call.bind_of_ok _ binds, EmbeddedSql.Call.bind_of_ok _ isBound.executes,
    ← isNormal, ← isBound.read.1]

/-- What comes back of values: their normal forms, unless one of them is too long to be bound. -/
def echoed (values : List Json) : Except Error (List Json) :=
  if values.all fun value => (argumentOf value).fits then .ok (values.map Json.normal)
  else .error (.connection (.bindFailed Status.tooBig))

theorem echoed_cons_of_fits {value : Json} (fits : (argumentOf value).fits = true)
    (rest : List Json) :
    echoed (value :: rest) = (echoed rest).map (value.normal :: ·) := by
  rw [echoed, echoed, List.all_cons, fits, Bool.true_and]
  split <;> rfl

theorem echoed_cons_of_long {value : Json} (isLong : (argumentOf value).fits = false)
    (rest : List Json) :
    echoed (value :: rest) = .error (.connection (.bindFailed Status.tooBig)) := by
  rw [echoed, List.all_cons, isLong]
  rfl

theorem Echoes.echoEach (echoes : Echoes laws command held link) {values : List Json}
    (areProper : ∀ value ∈ values, value.isProper) :
    ∃ after, Query.echoEach backend command values link = (echoed values, after) := by
  induction values generalizing held link with
  | nil => exact ⟨link, rfl⟩
  | cons value rest ih =>
      rw [Query.echoEach]
      cases fits : (argumentOf value).fits with
      | false =>
          obtain ⟨after, refuses⟩ := echoes.refuses fits
          have ends : Query.echo backend command value link =
              (.error (.connection (.bindFailed Status.tooBig)), after) := by
            unfold Query.echo
            rw [EmbeddedSql.Call.bind_of_error _ refuses]
          rw [EmbeddedSql.Call.bind_of_error _ ends, echoed_cons_of_long fits]
          exact ⟨after, rfl⟩
      | true =>
          obtain ⟨between, answers, echoesOn⟩ :=
            echoes.echo (areProper value List.mem_cons_self) fits
          obtain ⟨after, answersRest⟩ :=
            ih echoesOn fun value isThere => areProper value (List.mem_cons_of_mem _ isThere)
          rw [EmbeddedSql.Call.bind_of_ok _ answers, EmbeddedSql.Call.bind_apply, answersRest,
            echoed_cons_of_fits fits]
          cases echoed rest <;> exact ⟨after, rfl⟩

theorem echoes_createCommand {database : DatabaseHandle}
    (isOpened : link.connection.lifecycle = .opened database)
    (keeps : laws.Keeps database link.engine) :
    ∃ command after, Connection.createCommand backend echoSql link = (.ok command, after) ∧
      Echoes laws command .null after := by
  obtain ⟨statement, isPrepared, holds⟩ := laws.prepared keeps
  let created : Link σ := { link with
    engine := (backend.engine.prepare database echoSql link.engine).2 }
  have prepares : Connection.prepare backend.engine backend.growth echoSql link =
      (.ok statement, created) := by
    have fits : echoSql.byteLength ≤ Engine.maxLength := by decide
    unfold Connection.prepare
    rw [EmbeddedSql.Call.bind_of_ok _ (Connection.database_of_opened _ _ isOpened),
      EmbeddedSql.Call.bind_of_ok _ (Connection.ensureFits_of_le _ fits link),
      EmbeddedSql.Call.bind_apply, EmbeddedSql.Call.request_apply, isPrepared]
    rfl
  have isLive : link.connection.isDisposed = false := by
    simp [Connection.isDisposed, isOpened]
  refine ⟨⟨statement⟩, created, ?_, ⟨isLive, holds⟩⟩
  unfold Connection.createCommand
  rw [EmbeddedSql.Call.bind_of_ok _ prepares]
  rfl

theorem echoes_create {database : DatabaseHandle}
    (isOpened : link.connection.lifecycle = .opened database)
    (keeps : laws.Keeps database link.engine) :
    ∃ command after, Call.ofConnection (Connection.createCommand backend echoSql) link =
      (.ok command, after) ∧ Echoes laws command .null after := by
  obtain ⟨command, after, creates, echoes⟩ := echoes_createCommand isOpened keeps
  refine ⟨command, after, ?_, echoes⟩
  unfold Call.ofConnection
  rw [creates]

theorem echoAll_of_proper {database : DatabaseHandle}
    (isOpened : link.connection.lifecycle = .opened database)
    (keeps : laws.Keeps database link.engine) {values : List Json}
    (areProper : ∀ value ∈ values, value.isProper) :
    (echoAll backend values link).1 = echoed values := by
  obtain ⟨command, created, creates, echoes⟩ := echoes_create isOpened keeps
  obtain ⟨after, answers⟩ := echoes.echoEach areProper
  rw [echoAll, EmbeddedSql.Call.bind_of_ok _ creates, answers]

theorem fits_argumentOf_normal (value : Json) :
    (argumentOf value.normal).fits = (argumentOf value).fits := by
  cases value with
  | boolean value => cases value <;> rfl
  | integer value =>
      by_cases isSigned : value ≤ 0x7FFFFFFFFFFFFFFF
      · rw [Json.normal_of_signed isSigned]
      · rw [Json.normal_of_unsigned isSigned, argumentOf_unsigned isSigned]
        rfl
  | _ => rfl

/-- Whatever is bound and read back comes back in its normal form, and so does the normal form
itself, which stays what it is. A value that is too long is refused when it is bound. -/
theorem echoAll_eq (laws : Echoing backend.engine) {link : Link σ} {database : DatabaseHandle}
    (isOpened : link.connection.lifecycle = .opened database)
    (keeps : laws.Keeps database link.engine) {values : List Json}
    (areProper : ∀ value ∈ values, value.isProper) :
    let answers (normals : List Json) : Except Error (List Json) :=
      if values.all fun value => (argumentOf value).fits then .ok normals
      else .error (.connection (.bindFailed Status.tooBig))
    (echoAll backend values link).1 = answers (values.map Json.normal) ∧
      (echoAll backend (values ++ values.map Json.normal) link).1 =
        answers (values.map Json.normal ++ values.map Json.normal) := by
  intro answers
  refine ⟨echoAll_of_proper isOpened keeps areProper, ?_⟩
  have allProper : ∀ value ∈ values ++ values.map Json.normal, value.isProper := by
    intro value isThere
    rcases List.mem_append.mp isThere with isFirst | isAgain
    · exact areProper value isFirst
    · obtain ⟨first, isFirst, rfl⟩ := List.mem_map.mp isAgain
      exact Json.isProper_normal (areProper first isFirst)
  have stays : (values.map Json.normal).map Json.normal = values.map Json.normal := by
    rw [List.map_map]
    exact List.map_congr_left fun value _ => value.normal_normal
  have fitAlike : ((values.map Json.normal).all fun value => (argumentOf value).fits) =
      values.all fun value => (argumentOf value).fits := by
    rw [List.all_map]
    exact congrArg values.all (funext fits_argumentOf_normal)
  rw [echoAll_of_proper isOpened keeps allProper, echoed, List.map_append, stays, List.all_append,
    fitAlike, Bool.and_self]

def everyKind : List Json :=
  [.null, .boolean true, .integer (-0x8000000000000000), .integer 0x7FFFFFFFFFFFFFFF,
    .integer 0x8000000000000000, .integer 0xFFFFFFFFFFFFFFFF, .real .largest, .string "",
    .string "\x00€", .array [.integer 1, .null], .object [("key", .string "value")]]

theorem echoAll_everyKind :
    let connection : Connection := { lifecycle := .opened ⟨0⟩ }
    let opened :=
      Storage.engine.openDatabase (Bytes.ofAscii ":memory:") connection.config.openMode {}
    let link : Link Storage.Store := { connection, pool := {}, engine := opened.2 }
    opened.1 = (some ⟨0⟩, Status.ok) ∧
    (echoAll Storage.backend everyKind link).1 = .ok
      [.null, .integer 1, .integer (-0x8000000000000000), .integer 0x7FFFFFFFFFFFFFFF,
        .real ⟨0x43E0000000000000⟩, .real ⟨0x43F0000000000000⟩, .real .largest, .string "",
        .string "\x00€", .string "[1,null]", .string "\x7b\"key\":\"value\"\x7d"] := by
  intro connection opened link
  have isOpened : opened.1 = (some ⟨0⟩, Status.ok) := by decide +kernel
  refine ⟨isOpened, ?_⟩
  have valid : Storage.custody.Valid opened.2 :=
    (Storage.custody.opened Storage.custody_empty.1 (congrArg Prod.fst isOpened)).2.1
  have keeps : Storage.echoing.Keeps ⟨0⟩ link.engine := ⟨valid, _, rfl, rfl, rfl⟩
  have areProper : ∀ value ∈ everyKind, value.isProper :=
    List.all_eq_true.mp (show everyKind.all Json.isProper = true by decide +kernel)
  have fit : (everyKind.all fun value => (argumentOf value).fits) = true := by decide +kernel
  have isLinkOpened : link.connection.lifecycle = .opened ⟨0⟩ := rfl
  have comesBack := (echoAll_eq Storage.echoing isLinkOpened keeps areProper).1
  rw [fit] at comesBack
  exact comesBack

end Query

end EmbeddedSql
