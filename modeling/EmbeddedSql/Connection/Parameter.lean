import EmbeddedSql.Connection.Basic

/-! The parameters of a statement, found by position or by name, and what they are
bound to. -/

namespace EmbeddedSql

inductive Parameter where
  | index (position : Int32)
  | name (text : Text)
deriving DecidableEq, Repr

namespace Parameter

variable {σ : Type} (engine : Engine σ) (growth : Scratch.Growth) (statement : StatementHandle)

def count : Call σ Nat := do
  Connection.ensureNotDisposed
  Call.observe (engine.parameterCount statement)

def check (code : Int) : Call σ Unit :=
  if code = Status.ok then pure () else throw (.bindFailed code)

def clear : Call σ Unit := do
  Connection.ensureNotDisposed
  check (← Call.request (engine.clearBindings statement))

def nameOf (index : Int32) : Call σ (Option String) := do
  Connection.ensureNotDisposed
  let name ← Call.observe (engine.parameterName? statement index.toInt)
  pure (name.map Utf8.toString)

/-- A text with a zero in it is the name of no parameter. -/
def lookUp (name : Scratch.Encoded) : Call σ Int :=
  match name.cString? with
  | some bytes => Call.observe (engine.parameterIndex statement bytes)
  | none => pure 0

/-- The position of a parameter, or zero for an unknown name. -/
def resolve (parameter : Parameter) : Call σ Int := do
  Connection.ensureNotDisposed
  match parameter with
  | .index position => pure position.toInt
  | .name (.utf8 bytes) =>
      Call.withScratch (Scratch.Encoded.ofUtf8Terminated growth bytes)
        (lookUp engine statement)
  | .name (.utf16 units) =>
      Call.withScratch (Scratch.Encoded.ofUtf16Terminated growth units)
        (lookUp engine statement)

def bind (parameter : Parameter) (argument : Argument) : Call σ Unit := do
  let index ← resolve engine growth statement parameter
  check (← Call.request (engine.give statement index argument))

def bindText (parameter : Parameter) (text : Text) : Call σ Unit := do
  let index ← resolve engine growth statement parameter
  match text with
  | .utf8 _ => check (← Call.request (engine.give statement index (.text text)))
  | .utf16 units =>
      Call.withScratch (Scratch.Encoded.ofUtf16 growth units) fun encoded => do
        check (← Call.request (engine.give statement index (.text (.utf8 encoded.bytes))))

end Parameter

end EmbeddedSql
