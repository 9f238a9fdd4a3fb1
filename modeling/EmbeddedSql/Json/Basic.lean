import EmbeddedSql.Number.Binary64

/-! JSON values. Numbers are integers or reals, and the two stay apart: `1` and
`1.0` are different values. -/

namespace EmbeddedSql

inductive Json where
  | null
  | boolean (value : Bool)
  | integer (value : Int)
  | real (value : Binary64)
  | string (value : String)
  | array (elements : List Json)
  | object (members : List (String × Json))
deriving Repr, Inhabited

namespace Json

def insert (key : String) (value : Json) : List (String × Json) → List (String × Json)
  | [] => [(key, value)]
  | (other, current) :: rest =>
      if key < other then (key, value) :: (other, current) :: rest
      else if key = other then (key, value) :: rest
      else (other, current) :: insert key value rest

def ofMembers (members : List (String × Json)) : Json :=
  .object (members.foldl (fun sorted member => insert member.1 member.2 sorted) [])

end Json

end EmbeddedSql
