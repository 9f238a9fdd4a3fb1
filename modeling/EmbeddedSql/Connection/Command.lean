import EmbeddedSql.Connection.Reader

/-! Compiled statements that can be run again and again, and the ways of running
one to its end. -/

namespace EmbeddedSql

structure Command where
  statement : StatementHandle
deriving DecidableEq, Repr

/-- An engine with a bound on its rows, and the growth of scratch buffers. -/
structure Backend (σ : Type) where
  engine : Engine σ
  rows : RowBound engine
  growth : Scratch.Growth := .exact

namespace Reader

variable {σ β ε : Type} (backend : Backend σ)

/-- Reads rows as long as more are wanted and there are any; `take` adds the
current row to what was gathered so far. -/
def gather (wanted : β → Bool) (take : Reader → Link σ → β → Except ε β)
    (lift : Error → ε) (reader : Reader) (gathered : β) (link : Link σ) :
    (Except ε β × Reader) × Link σ :=
  if wanted gathered then
    match _outcome : reader.read backend.engine link with
    | ((.error error, reader), link) => ((.error (lift error), reader), link)
    | ((.ok false, reader), link) => ((.ok gathered, reader), link)
    | ((.ok true, next), nextLink) =>
        match take next nextLink gathered with
        | .error error => ((.error error, next), nextLink)
        | .ok gathered => gather wanted take lift next gathered nextLink
  else ((.ok gathered, reader), link)
termination_by backend.rows.remaining reader.statement link.engine
decreasing_by
  have isRow : (reader.read backend.engine link).1.1 = .ok true := by rw [_outcome]
  have same := read_statement backend.engine reader link
  have stepped := step_of_read backend.engine isRow
  rw [_outcome] at same stepped
  rw [same, stepped.2]
  exact backend.rows.remaining_step reader.statement link.engine stepped.1

section
variable {backend} {wanted : β → Bool} {take : Reader → Link σ → β → Except ε β}
  {lift : Error → ε} {reader next : Reader} {gathered : β} {link after : Link σ}

theorem gather_of_error {error : Error} (isWanted : wanted gathered = true)
    (outcome : reader.read backend.engine link = ((.error error, next), after)) :
    reader.gather backend wanted take lift gathered link =
      ((.error (lift error), next), after) := by
  rw [gather, if_pos isWanted]
  split <;> rename_i read <;> rw [outcome] at read <;> cases read
  rfl

theorem gather_of_end (isWanted : wanted gathered = true)
    (outcome : reader.read backend.engine link = ((.ok false, next), after)) :
    reader.gather backend wanted take lift gathered link = ((.ok gathered, next), after) := by
  rw [gather, if_pos isWanted]
  split <;> rename_i read <;> rw [outcome] at read <;> cases read
  rfl

theorem gather_of_row (isWanted : wanted gathered = true)
    (outcome : reader.read backend.engine link = ((.ok true, next), after)) :
    reader.gather backend wanted take lift gathered link =
      match take next after gathered with
      | .error error => ((.error error, next), after)
      | .ok gathered => next.gather backend wanted take lift gathered after := by
  rw [gather, if_pos isWanted]
  split <;> rename_i read <;> rw [outcome] at read <;> cases read
  rfl

end

end Reader

namespace Command

variable {σ : Type} (backend : Backend σ)

def reader (command : Command) : Reader where
  statement := command.statement
  release := .reset

def executeReader (command : Command) : Call σ Reader := do
  Connection.ensureNotDisposed
  pure command.reader

/-- Runs the statement to its end and counts the rows it gives. -/
def executeNonQuery (command : Command) : Call σ Nat := do
  let reader ← command.executeReader
  fun link =>
    let ((result, reader), link) :=
      reader.gather backend (fun _ => true) (fun _ _ count => .ok (count + 1)) id 0 link
    (result, reader.dispose backend.engine link)

def sql (command : Command) : Call σ String := do
  Connection.ensureNotDisposed
  let text ← Call.observe (backend.engine.sqlText command.statement)
  pure (Utf8.toString text)

/-- The command is used up even if its statement reports a failure. -/
def finalize (command : Command) : Call σ Unit := do
  Connection.ensureNotDisposed
  let code ← Call.request (backend.engine.finalize command.statement)
  if code ≠ Status.ok then throw (.finalizeFailed code)

/-- Lets go of the statement, unless the connection already has. -/
def drop (command : Command) (link : Link σ) : Link σ :=
  if link.connection.isDisposed then link
  else { link with engine := (backend.engine.finalize command.statement link.engine).2 }

/-- Runs `use` on the command and drops the command if that fails. -/
def dropOnError {ε α : Type} (command : Command) (use : ExceptT ε (StateM (Link σ)) α) :
    ExceptT ε (StateM (Link σ)) α := fun link =>
  match use link with
  | (.ok answer, link) => (.ok answer, link)
  | (.error error, link) => (.error error, command.drop backend link)

end Command

namespace Connection

variable {σ : Type} (backend : Backend σ)

def createCommand (sql : Text) : Call σ Command := do
  let statement ← prepare backend.engine backend.growth sql
  pure ⟨statement⟩

def executeNonQuery (sql : Text) : Call σ Nat := do
  let command ← createCommand backend sql
  let rows ← command.dropOnError backend (command.executeNonQuery backend)
  command.finalize backend
  pure rows

def executeReader (sql : Text) : Call σ Reader := do
  let statement ← prepare backend.engine backend.growth sql
  pure { statement, release := .finalize }

end Connection

end EmbeddedSql
