import EmbeddedSql.Proofs.Connection.Columns
import EmbeddedSql.Proofs.Session.Observing
import EmbeddedSql.Proofs.Text.Base64
import EmbeddedSql.Proofs.Text.Utf8
import EmbeddedSql.Query.Row

/-! Main result: a column is answered with JSON that has all of its value, as far as JSON can have
it, and from which the value can be told within its storage class. -/

namespace EmbeddedSql

namespace Utf8

/-- Well-formed bytes are decoded to the string that they are kept as in the core library. -/
theorem toByteArray_toString {bytes : Bytes} (isValid : bytes.toByteArray.IsValidUTF8) :
    (toString bytes).toByteArray = bytes.toByteArray := by
  obtain ⟨characters, same⟩ := isValid
  have isEncoded : bytes = encode characters := by
    rw [← toByteArray_encode] at same
    simpa using same
  rw [toString, isEncoded, decode_encode, toByteArray_encode]
  exact String.toByteArray_ofList

end Utf8

namespace Query

variable {σ : Type}

/-! ## Accessors -/

/-- A value is taken by the accessor of its own storage class, which does not convert it. -/
theorem columnJson_eq (engine : Engine σ) (reader : Reader) (column : Nat) (link : Link σ) :
    columnJson engine reader column link =
      match reader.storageClass engine column link with
      | .error error => .error (.connection error)
      | .ok storageClass => .mapError .connection <|
          match storageClass with
          | .null => .ok .null
          | .integer => (reader.int64 engine column link).map fun number => .integer number.toInt
          | .real => (reader.real engine column link).map fun number =>
              if number.isFinite then .real number else .null
          | .text => (reader.string engine column link).1.map .string
          | .blob => (reader.bytes engine column link).map fun bytes =>
              .string (String.ofList (Base64.encode bytes)) := by
  unfold columnJson Reader.storageClass Reader.int64 Reader.real Reader.string Reader.utf8
    Reader.bytes
  rw [Reader.take_eq]
  cases reader.cell engine column link with
  | error error => rfl
  | ok cell =>
      cases cell with
      | text form =>
          have isText : (Cell.text form).utf8.1 = form.toUtf8 := Cell.utf8_of_held rfl
          show Except.ok (Json.string (Utf8.toString form.toUtf8)) =
            .ok (.string (Utf8.toString (Cell.text form).utf8.1))
          rw [isText]
      | _ => rfl

theorem toValue_leave (cell : Cell) : (leave cell).toValue = cell.toValue := by
  cases cell with
  | text form => exact congrArg (fun texts => Value.text texts.1) (TextForm.texts_into .utf8 form)
  | _ => rfl

/-! ## What JSON has of a value -/

structure Represents (json : Json) (value : Value) : Prop where
  null : value = .null → json = .null
  integer : ∀ {number}, value = .integer number → json = .integer number.toInt
  real : ∀ {number}, value = .real number →
    json = if number.isFinite then .real number else .null
  text : ∀ {bytes}, value = .text bytes → bytes.toByteArray.IsValidUTF8 →
    ∃ text : String, json = .string text ∧ text.toByteArray = bytes.toByteArray
  blob : ∀ {bytes}, value = .blob bytes →
    ∃ text : String, json = .string text ∧ Base64.decode? text.toList = some bytes

theorem jsonOf_represents (value : Value) : Represents (jsonOf value) value where
  null isNull := by rw [isNull]; rfl
  integer isInteger := by rw [isInteger]; rfl
  real isReal := by rw [isReal]; rfl
  text isText isValid := by
    rw [isText]
    exact ⟨_, rfl, Utf8.toByteArray_toString isValid⟩
  blob {bytes} isBlob := by
    rw [isBlob]
    refine ⟨_, rfl, ?_⟩
    rw [String.toList_ofList]
    exact Base64.decode?_encode bytes

def IsKept : Value → Prop
  | .text bytes => bytes.toByteArray.IsValidUTF8
  | .real number => number.isFinite = true
  | _ => True

theorem Represents.unique {json : Json} {value other : Value} (represents : Represents json value)
    (alsoRepresents : Represents json other) (sameClass : value.storageClass = other.storageClass)
    (isKept : IsKept value) (isOtherKept : IsKept other) : value = other := by
  cases value with
  | null =>
      cases other with
      | null => rfl
      | _ => cases sameClass
  | integer number =>
      cases other with
      | integer another =>
          have same := (represents.integer rfl).symm.trans (alsoRepresents.integer rfl)
          exact congrArg Value.integer (Int64.toInt_inj.mp (Json.integer.inj same))
      | _ => cases sameClass
  | real number =>
      cases other with
      | real another =>
          have isFinite : number.isFinite = true := isKept
          have isOtherFinite : another.isFinite = true := isOtherKept
          have isReal := represents.real rfl
          have isOther := alsoRepresents.real rfl
          rw [if_pos isFinite] at isReal
          rw [if_pos isOtherFinite] at isOther
          exact congrArg Value.real (Json.real.inj (isReal.symm.trans isOther))
      | _ => cases sameClass
  | text bytes =>
      cases other with
      | text more =>
          obtain ⟨text, isText, same⟩ := represents.text rfl isKept
          obtain ⟨another, isAnother, sameOther⟩ := alsoRepresents.text rfl isOtherKept
          have sameText := Json.string.inj (isText.symm.trans isAnother)
          rw [← sameText, same] at sameOther
          simpa using sameOther
      | _ => cases sameClass
  | blob bytes =>
      cases other with
      | blob more =>
          obtain ⟨text, isText, decodes⟩ := represents.blob rfl
          obtain ⟨another, isAnother, decodesOther⟩ := alsoRepresents.blob rfl
          have sameText := Json.string.inj (isText.symm.trans isAnother)
          rw [← sameText, decodes] at decodesOther
          exact congrArg Value.blob (Option.some.inj decodesOther)
      | _ => cases sameClass

end Query

end EmbeddedSql

namespace EmbeddedSql.Session

open Query

variable {σ : Type} {backend : Backend σ} {session other : Session σ}

/-- A reader is on a row with this value in the column. Beyond what the engine has given there is
null. -/
def Shows (backend : Backend σ) (session : Session σ) (name : String) (column : Nat)
    (value : Value) : Prop :=
  ∃ held link, session.readers.get? name = some held ∧
    session.link? held.connection = some link ∧ link.connection.isDisposed = false ∧
      held.reader.cursor = .onRow ∧ column < held.reader.count backend.engine link ∧
        (session.cellAt name (some column)).toValue = value

def columnAnswer (backend : Backend σ) (session : Session σ) (name : String) (column : Nat) :
    Response :=
  (perform backend session (.query (.columnJson name column))).1

theorem Shows.perform_columnJson {name : String} {column : Nat} {value : Value}
    (shows : Shows backend session name column value) :
    ∃ held, session.readers.get? name = some held ∧
      let after := session.withReader name held (held.reader.cells.modify column leave)
      perform backend session (.query (.columnJson name column)) =
          (.query (.ok (.value (jsonOf value))), after) ∧
        Shows backend after name column value := by
  obtain ⟨held, link, isHeld, isLink, isLive, isOnRow, isBelow, rfl⟩ := shows
  have isFound : session.findReader (ε := Query.Error) name = .ok held := by
    rw [findReader, isHeld]
  let left : HeldReader :=
    { held with reader := { held.reader with cells := held.reader.cells.modify column leave } }
  have isLeft : (session.withReader name held (held.reader.cells.modify column leave)).readers.get?
      name = some left := Registry.get?_insert_self ..
  refine ⟨held, isHeld, ?_, left, link, isLeft, isLink, isLive, isOnRow, isBelow, ?_⟩
  · have isJson : columnJson backend.engine held.reader column link =
        .ok (jsonOf (session.cellAt name (some column)).toValue) := by
      rw [columnJson, Reader.cell_of_row (by simp [isLive]) isOnRow isBelow,
        cellAt_of_held isHeld column]
    rw [perform_query, performQuery, onReader_of_held isFound, access_takeOut_of_ok isLink isJson]
  · rw [cellAt_of_held isLeft, cellAt_of_held isHeld]
    show ((held.reader.cells.modify column leave)[column]?.getD .null).toValue = _
    rw [List.getElem?_modify_eq]
    cases held.reader.cells[column]? with
    | none => rfl
    | some cell => exact toValue_leave cell

theorem Shows.columnAnswer {name : String} {column : Nat} {value : Value}
    (shows : Shows backend session name column value) :
    columnAnswer backend session name column = .query (.ok (.value (jsonOf value))) := by
  obtain ⟨held, -, answers, -⟩ := shows.perform_columnJson
  exact congrArg Prod.fst answers

/-- A row that has just been read shows what the engine gives. -/
theorem shows_of_read {name : String}
    (isRow : (perform backend session (.reader name .read)).1 = .plain (.ok (.boolean true))) :
    let after := (perform backend session (.reader name .read)).2
    ∃ held link, after.readers.get? name = some held ∧
      after.link? held.connection = some link ∧
        ∀ column < held.reader.count backend.engine link,
          Shows backend after name column
            ((backend.engine.row held.reader.statement link.engine)[column]?.getD .null).toValue := by
  intro after
  obtain ⟨held, link, isHeld, isLink, isTrue⟩ := read_of_row isRow
  obtain ⟨pool, isNext⟩ := link?_setLink isLink (held.reader.read backend.engine link).2
  have wasLive := Reader.isLive_of_row isTrue
  have isOnRow := (Reader.read_onRow wasLive).mpr isTrue
  have areCells := Reader.cells_of_read backend.engine isTrue
  have isAfter : after = _ := congrArg Prod.snd (perform_read isHeld isLink)
  have isKept : after.readers.get? name =
      some { held with reader := (held.reader.read backend.engine link).1.2 } := by
    rw [isAfter]
    exact Registry.get?_insert_self ..
  have isLinkNext : after.link? held.connection =
      some { (held.reader.read backend.engine link).2 with pool } := by
    rw [isAfter]
    exact isNext
  refine ⟨_, _, isKept, isLinkNext, ?_⟩
  intro column isBelow
  refine ⟨_, _, isKept, isLinkNext, ?_, isOnRow, isBelow, ?_⟩
  · rw [Connection.isDisposed, Reader.read_connection]
    exact wasLive
  · rw [cellAt_of_held isKept, Reader.read_statement]
    exact congrArg (fun cells => (cells[column]?.getD .null).toValue) areCells

/-- A column of a row is answered with JSON that has its value, and is left with this value, at most
in another encoding. Two columns with the same answer have the same value, if they are of one
storage class and their texts are well-formed and their reals finite. What a row shows once it has
been read are the values that the engine gives. -/
theorem column_kept_in_json (backend : Backend σ) :
    (∀ {session : Session σ} {name},
      (perform backend session (.reader name .read)).1 = .plain (.ok (.boolean true)) →
        let after := (perform backend session (.reader name .read)).2
        ∃ held link, after.readers.get? name = some held ∧
          after.link? held.connection = some link ∧
            ∀ column < held.reader.count backend.engine link,
              Shows backend after name column
                ((backend.engine.row held.reader.statement
                  link.engine)[column]?.getD .null).toValue) ∧
    (∀ {session name column value}, Shows backend session name column value →
      ∃ json held, session.readers.get? name = some held ∧ Represents json value ∧
        let after := session.withReader name held (held.reader.cells.modify column leave)
        perform backend session (.query (.columnJson name column)) =
            (.query (.ok (.value json)), after) ∧
          Shows backend after name column value) ∧
    (∀ {session name column value other otherName otherColumn otherValue},
      Shows backend session name column value →
        Shows backend other otherName otherColumn otherValue →
          value.storageClass = otherValue.storageClass → IsKept value → IsKept otherValue →
            columnAnswer backend session name column =
                columnAnswer backend other otherName otherColumn →
              value = otherValue) := by
  refine ⟨shows_of_read, ?represents, ?unique⟩
  case represents =>
    intro session name column value shows
    obtain ⟨held, isHeld, answers⟩ := shows.perform_columnJson
    exact ⟨_, held, isHeld, jsonOf_represents value, answers⟩
  case unique =>
    intro session name column value other otherName otherColumn otherValue shows showsOther
      sameClass isKept isOtherKept sameAnswer
    rw [shows.columnAnswer, showsOther.columnAnswer] at sameAnswer
    have sameJson : jsonOf value = jsonOf otherValue := by
      simpa using sameAnswer
    have represents := jsonOf_represents value
    rw [sameJson] at represents
    exact represents.unique (jsonOf_represents otherValue) sameClass isKept isOtherKept

theorem column_kept_in_json_eachClass :
    let before := querying "SELECT 9007199254740993, X'00FF10', 'é', 'é'"
    let session := (perform Storage.backend before (.reader "r" .read)).2
    columnAnswer Storage.backend session "r" 0 =
        .query (.ok (.value (.integer 9007199254740993))) ∧
      (∃ text : String, columnAnswer Storage.backend session "r" 1 =
          .query (.ok (.value (.string text))) ∧
        Base64.decode? text.toList = some [0x00, 0xFF, 0x10]) ∧
      (session.cellAt "r" (some 2)).toValue = (session.cellAt "r" (some 3)).toValue := by
  intro before session
  have isRow : (perform Storage.backend before (.reader "r" .read)).1 =
      .plain (.ok (.boolean true)) :=
    Response.of_answer? (by decide +kernel)
  obtain ⟨shown, answered, told⟩ := column_kept_in_json Storage.backend
  obtain ⟨held, link, isHeld, isLink, shows⟩ := shown isRow
  have isThere : (session.readers.get? "r").any (fun held =>
      (session.link? held.connection).any fun link =>
        held.reader.count Storage.backend.engine link = 4 ∧
          Storage.backend.engine.row held.reader.statement link.engine =
            [.ofValue (.integer 9007199254740993), .ofValue (.blob [0x00, 0xFF, 0x10]),
              .ofValue (.text (Utf8.encode ['é'])), .ofValue (.text (Utf8.encode ['é']))]) =
                true := by
    decide +kernel
  rw [isHeld, Option.any_some, isLink, Option.any_some, decide_eq_true_iff] at isThere
  obtain ⟨isFour, areValues⟩ := isThere
  rw [isFour, areValues] at shows
  have isInteger := shows 0 (by decide)
  have isBlob := shows 1 (by decide)
  have isText := shows 2 (by decide)
  have isTextAgain := shows 3 (by decide)
  have sameAnswer : columnAnswer Storage.backend session "r" 2 =
      columnAnswer Storage.backend session "r" 3 := by
    rw [isText.columnAnswer, isTextAgain.columnAnswer]
    rfl
  have isValid : IsKept (.text (Utf8.encode ['é'])) := Utf8.isValidUTF8_encode _
  refine ⟨?integer, ?blob, ?text⟩
  case integer =>
    obtain ⟨json, held, -, represents, answers, -⟩ := answered isInteger
    rw [columnAnswer, answers, represents.integer rfl]
    rfl
  case blob =>
    obtain ⟨json, held, -, represents, answers, -⟩ := answered isBlob
    obtain ⟨text, rfl, decodes⟩ := represents.blob rfl
    exact ⟨text, congrArg Prod.fst answers, decodes⟩
  case text =>
    have same := told isText isTextAgain rfl isValid isValid sameAnswer
    obtain ⟨-, -, -, -, -, -, -, isValue⟩ := isText
    obtain ⟨-, -, -, -, -, -, -, isValueAgain⟩ := isTextAgain
    exact isValue.trans (same.trans isValueAgain.symm)

end EmbeddedSql.Session
