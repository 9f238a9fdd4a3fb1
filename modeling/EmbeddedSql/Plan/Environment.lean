import EmbeddedSql.Database.Basic
import EmbeddedSql.Error

/-! What expressions and queries are evaluated in, and how evaluation fails. -/

namespace EmbeddedSql.Plan

/-! ## Failures -/

structure Failure where
  code : Int := Status.error
  message : Bytes
deriving DecidableEq, Repr

def Failure.ofText (message : String) : Failure where
  message := Utf8.ofString message

def failNamed {α : Type} (before : String) (name : Bytes) (after : String) :
    Except Failure α :=
  .error { message := Bytes.ofAscii before ++ name ++ Bytes.ofAscii after }

/-- Why a statement that runs has to stop, and what becomes of its work. -/
structure Fault where
  code : Int := Status.error
  message : Bytes
  resolution : Sql.Resolution := .abort
deriving DecidableEq, Repr

def Fault.ofText (message : String) : Fault where
  message := Utf8.ofString message

def Fault.tooBig : Fault where
  code := Status.tooBig
  message := Bytes.ofAscii "string or blob too big"

def Fault.mismatch : Fault where
  code := Status.mismatch
  message := Bytes.ofAscii "datatype mismatch"

/-! ## Environments -/

structure Tuple where
  rowid : Value := .null
  values : List Value
deriving DecidableEq, Repr, Inhabited

namespace Tuple

def ofRow (row : Row) : Tuple where
  rowid := .integer row.rowid
  values := row.values

def value (tuple : Tuple) (column : Nat) : Value :=
  tuple.values[column]?.getD .null

end Tuple

structure Counters where
  changes : Nat := 0
  totalChanges : Nat := 0
  lastInsertRowid : Int64 := 0
deriving DecidableEq, Repr, Inhabited

structure Environment where
  parameters : Array Value := #[]
  frames : List (List Tuple) := []
  database : Database := {}
  counters : Counters := {}
  aggregates : List Value := []
  /-- The rows that recursive common tables stand for at the moment, outermost
  first. -/
  recursion : List (List (List Value)) := []

namespace Environment

def parameter (environment : Environment) (number : Nat) : Value :=
  environment.parameters[number - 1]?.getD .null

def tuple (environment : Environment) (depth source : Nat) : Tuple :=
  ((environment.frames[depth]?.getD [])[source]?).getD { values := [] }

def push (environment : Environment) (frame : List Tuple) : Environment :=
  { environment with frames := frame :: environment.frames }

end Environment

/-! ## Streams

Items that come one after the other until there are no more, or until a fault. -/

structure Stream (α : Type) where
  items : List α
  fault : Option Fault := none

namespace Stream

variable {α β : Type}

def empty : Stream α where
  items := []

def ofList (items : List α) : Stream α where
  items := items

def failed (fault : Fault) : Stream α where
  items := []
  fault := some fault

def append (first second : Stream α) : Stream α :=
  match first.fault with
  | some _ => first
  | none => { items := first.items ++ second.items, fault := second.fault }

private def bindList (next : α → Stream β) (ending : Option Fault) : List α → Stream β
  | [] => { items := [], fault := ending }
  | item :: items => (next item).append (bindList next ending items)

def bind (stream : Stream α) (next : α → Stream β) : Stream β :=
  bindList next stream.fault stream.items

def ofExcept : Except Fault α → Stream α
  | .ok item => ofList [item]
  | .error fault => failed fault

def mapExcept (stream : Stream α) (next : α → Except Fault β) : Stream β :=
  stream.bind fun item => ofExcept (next item)

def filterExcept (stream : Stream α) (keep : α → Except Fault Bool) : Stream α :=
  stream.bind fun item =>
    match keep item with
    | .ok true => ofList [item]
    | .ok false => empty
    | .error fault => failed fault

def toExcept (stream : Stream α) : Except Fault (List α) :=
  match stream.fault with
  | some fault => .error fault
  | none => .ok stream.items

def first? (stream : Stream α) : Except Fault (Option α) :=
  match stream.items, stream.fault with
  | item :: _, _ => .ok (some item)
  | [], some fault => .error fault
  | [], none => .ok none

def take (stream : Stream α) (count : Nat) : Stream α :=
  if count ≤ stream.items.length then { items := stream.items.take count }
  else stream

def drop (stream : Stream α) (count : Nat) : Stream α :=
  { stream with items := stream.items.drop count }

end Stream

end EmbeddedSql.Plan
