import EmbeddedSql.Plan.Environment
import EmbeddedSql.Value.Order

/-! How rows are put in order, and which of them count as the same. -/

namespace EmbeddedSql.Plan

structure Direction where
  collation : Collation := .binary
  descending : Bool := false
  nullsFirst : Bool := true
deriving DecidableEq, Repr

namespace Direction

def compare (encoding : TextEncoding) (direction : Direction) (left right : Value) : Ordering :=
  match left, right with
  | .null, .null => .eq
  | .null, _ => if direction.nullsFirst then .lt else .gt
  | _, .null => if direction.nullsFirst then .gt else .lt
  | _, _ =>
      let order := Value.compare encoding direction.collation left right
      if direction.descending then order.swap else order

def compareAll (encoding : TextEncoding) :
    List Direction → List Value → List Value → Ordering
  | direction :: directions, left :: lefts, right :: rights =>
      (direction.compare encoding left right).then
        (compareAll encoding directions lefts rights)
  | _, _, _ => .eq

end Direction

variable {α : Type}

def sortByKeys (encoding : TextEncoding) (directions : List Direction)
    (keys : α → List Value) (items : List α) : List α :=
  items.mergeSort fun left right =>
    Direction.compareAll encoding directions (keys left) (keys right) != .gt

def distinctByKeys (encoding : TextEncoding) (directions : List Direction)
    (keys : α → List Value) (items : List α) : List α :=
  (items.foldl (fun kept item =>
    if kept.any fun other =>
        Direction.compareAll encoding directions (keys other) (keys item) == .eq then kept
    else item :: kept) []).reverse

def groupByKeys (encoding : TextEncoding) (directions : List Direction)
    (keys : α → List Value) (items : List α) : List (List α) :=
  items.foldr (fun item groups =>
    match groups with
    | (other :: others) :: rest =>
        if Direction.compareAll encoding directions (keys item) (keys other) == .eq then
          (item :: other :: others) :: rest
        else [item] :: (other :: others) :: rest
    | groups => [item] :: groups) []

end EmbeddedSql.Plan
