import EmbeddedSql.Json.Tree

/-! Records read from JSON text. Members come in any order, unknown ones are passed
over, and a field given twice is an error. An array gives the fields in the order
they are declared. -/

namespace EmbeddedSql.Json

/-- A field of the record `ρ`: its key, and how a value is put into it. -/
structure Field (ρ : Type) where
  key : String
  read : Tree → ρ → Option ρ

/-- The fields in declaration order, and the record they start from. A record with
defaults may leave fields out. -/
structure RecordFormat (ρ : Type) where
  fields : List (Field ρ)
  initial : ρ
  hasDefaults : Bool

namespace RecordFormat

variable {ρ : Type} (format : RecordFormat ρ)

/-- Takes the members one by one; `seen` are the keys of the fields met so far. -/
def readMembers : (seen : List String) → ρ → List (List Char × Tree) → Option (List String × ρ)
  | seen, record, [] => some (seen, record)
  | seen, record, (raw, value) :: rest =>
      match Tree.unescape? raw with
      | none => none
      | some key =>
          match format.fields.find? (fun field => field.key.toList = key) with
          | none => readMembers seen record rest
          | some field =>
              if seen.contains field.key then none
              else
                match field.read value record with
                | none => none
                | some record => readMembers (field.key :: seen) record rest

/-- Takes the fields by position; those left over stay as they are. -/
def readElements : List (Field ρ) → ρ → List Tree → Option (Nat × ρ)
  | fields, record, [] => some (fields.length, record)
  | [], _, _ :: _ => none
  | field :: fields, record, value :: rest =>
      match field.read value record with
      | none => none
      | some record => readElements fields record rest

def ofTree? : Tree → Option ρ
  | .object members =>
      match format.readMembers [] format.initial members with
      | some (seen, record) =>
          if format.hasDefaults || seen.length = format.fields.length then some record else none
      | none => none
  | .array elements =>
      match readElements format.fields format.initial elements with
      | some (missing, record) =>
          if format.hasDefaults || missing = 0 then some record else none
      | none => none
  | _ => none

def ofText? (text : List Char) : Option ρ :=
  (Tree.ofText? text).bind format.ofTree?

end RecordFormat

end EmbeddedSql.Json
