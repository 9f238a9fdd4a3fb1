import EmbeddedSql.Plan.Select
import EmbeddedSql.Plan.Effect

/-! Settings, and what can be asked about a database. -/

namespace EmbeddedSql.Plan

/-- What a connection is like at the moment when a statement is compiled. -/
structure Circumstances where
  isMemory : Bool := true
  path : Bytes := []
  foreignKeys : Bool := true
  isAutomatic : Bool := true
deriving DecidableEq, Repr

inductive Setting where
  | foreignKeys (isOn : Bool)
  | encoding (encoding : TextEncoding)
deriving DecidableEq, Repr

inductive Pragma where
  | nothing
  | set (setting : Setting)
  | answer (columns : List String) (rows : List (List Value))
  | report (columns : List String) (rows : Database → List (List Value))
  | store (effect : Effect Unit)

namespace Pragma

private def text (value : String) : Value :=
  .text (Utf8.ofString value)

private def number (value : Int) : Value :=
  .integer (Int64.ofInt value)

/-! ## Values of settings -/

private def isOn (value : Bytes) : Bool :=
  let isWord (word : String) := Bytes.sameName value (Bytes.ofAscii word)
  match value with
  | byte :: _ =>
      if Bytes.isDigit byte then Numeral.ofDigits (value.takeWhile Bytes.isDigit) % 256 ≠ 0
      else ["on", "yes", "true", "full", "extra"].any isWord
  | [] => false

private def smallNumber (value : Bytes) : Int :=
  let (negative, digits) :=
    match value with
    | 0x2D :: digits => (true, digits)
    | 0x2B :: digits => (false, digits)
    | digits => (false, digits)
  let magnitude : Int := Numeral.ofDigits (digits.takeWhile Bytes.isDigit)
  let value := if negative then -magnitude else magnitude
  if value < -2147483648 ∨ 2147483647 < value then 0 else value

private def encodingName : TextEncoding → String
  | .utf8 => "UTF-8"
  | .utf16LittleEndian => "UTF-16le"
  | .utf16BigEndian => "UTF-16be"

private def encodingNamed? (name : Bytes) : Option TextEncoding :=
  let encodings : List (String × TextEncoding) :=
    [("UTF8", .utf8), ("UTF-8", .utf8), ("UTF-16le", .utf16LittleEndian),
      ("UTF-16be", .utf16BigEndian), ("UTF16le", .utf16LittleEndian),
      ("UTF16be", .utf16BigEndian), ("UTF-16", .utf16LittleEndian),
      ("UTF16", .utf16LittleEndian)]
  (encodings.find? fun (known, _) => Bytes.sameName name (Bytes.ofAscii known)).map (·.2)

/-! ## Tables -/

private def tableInfo (name : Bytes) (database : Database) : List (List Value) :=
  match database.table? name with
  | none => []
  | some table =>
      table.columns.zipIdx.map fun (column, place) =>
        let key := (table.primaryColumns.findIdx? (· = place)).elim 0 (· + 1)
        [number place, .text column.name, .text column.type,
          .ofBool column.notNull.isSome, (column.defaultText.map Value.text).getD .null,
          number key]

private def tableColumns : List String :=
  ["cid", "name", "type", "notnull", "dflt_value", "pk"]

/-! ## Pragmas by name -/

private def cookie (name : String) (value : Option Bytes) (read : Database → Int)
    (write : Int → Database → Database) : Pragma :=
  match value with
  | none => .report [name] fun database => [[number (read database)]]
  | some value =>
      .store <| modify fun work =>
        { work with database := write (smallNumber value) work.database }

private def constant (name : String) (value : Option Bytes) (answer : Value) : Pragma :=
  match value with
  | none => .answer [name] [[answer]]
  | some _ => .nothing

private def encoding (value : Option Bytes) : Except Failure Pragma :=
  match value with
  | none =>
      .ok <| .report ["encoding"] fun database => [[text (encodingName database.encoding)]]
  | some name =>
      match encodingNamed? name with
      | some encoding => .ok (.set (.encoding encoding))
      | none => failNamed "unsupported encoding: " name ""

private def foreignKeys (circumstances : Circumstances) : Option Bytes → Pragma
  | none => .answer ["foreign_keys"] [[.ofBool circumstances.foreignKeys]]
  | some value =>
      if circumstances.isAutomatic then .set (.foreignKeys (isOn value)) else .nothing

def compile (circumstances : Circumstances) (name : Bytes) (value : Option Bytes) :
    Except Failure Pragma := do
  match Utf8.toString (Bytes.fold name) with
  | "user_version" =>
      return cookie "user_version" value (·.userVersion) fun version database =>
        { database with userVersion := version }
  | "application_id" =>
      return cookie "application_id" value (·.applicationId) fun id database =>
        { database with applicationId := id }
  | "schema_version" =>
      return .report ["schema_version"] fun database => [[number database.schemaVersion]]
  | "encoding" => encoding value
  | "foreign_keys" => return foreignKeys circumstances value
  | "table_info" =>
      return (value.map fun table => .report tableColumns (tableInfo table)).getD .nothing
  | "journal_mode" =>
      return .answer ["journal_mode"]
        [[text (if circumstances.isMemory then "memory" else "delete")]]
  | "database_list" =>
      let file := if circumstances.isMemory then [] else circumstances.path
      return .answer ["seq", "name", "file"] [[number 0, text "main", .text file]]
  | "integrity_check" => return .report ["integrity_check"] fun _ => [[text "ok"]]
  | "quick_check" => return .report ["quick_check"] fun _ => [[text "ok"]]
  | "busy_timeout" =>
      return .answer ["timeout"] [[number ((value.map smallNumber).getD 0)]]
  | "synchronous" => return constant "synchronous" value (number 2)
  | "cache_size" => return constant "cache_size" value (number (-2000))
  | "page_size" => return constant "page_size" value (number 4096)
  | "recursive_triggers" => return constant "recursive_triggers" value (number 0)
  | _ => return .nothing

end Pragma

end EmbeddedSql.Plan
