import EmbeddedSql.Plan.Term

/-! Effects of statements on a database. What was done before a fault remains, so that
whoever runs the statement can still choose to keep it. -/

namespace EmbeddedSql.Plan

structure Work where
  parameters : Array Value := #[]
  database : Database := {}
  counters : Counters := {}
  changed : Nat := 0
  results : List (List Value) := []

abbrev Effect := ExceptT Fault (StateM Work)

/-- The rows that expressions are evaluated for, those of the innermost query first. -/
abbrev Frames := List (List Tuple)

namespace Work

def environment (work : Work) (frames : Frames) : Environment where
  parameters := work.parameters
  frames := frames
  database := work.database
  counters := work.counters

end Work

namespace Effect

def read {α : Type} (view : Work → Except Fault α) : Effect α := do
  MonadExcept.ofExcept (view (← get))

def evaluate (frames : Frames) (term : Term) : Effect Value :=
  read fun work => term.evaluate (work.environment frames)

def evaluateAll (frames : Frames) (terms : List Term) : Effect (List Value) :=
  terms.mapM (evaluate frames)

def holds (frames : Frames) (condition : Option Term) : Effect Bool :=
  match condition with
  | some condition => read fun work => condition.isTrue (work.environment frames)
  | none => pure true

def table? (name : Bytes) : Effect (Option Table) := do
  return (← get).database.table? name

def setTable (table : Table) : Effect Unit :=
  modify fun work => { work with database := work.database.setTable table }

def violate {α : Type} (resolution : Sql.Resolution) (message : Bytes) : Effect α :=
  throw { code := Status.constraint, message, resolution }

def ignore {α : Type} : Effect α :=
  violate .ignore []

def unlessIgnored (action : Effect Unit) : Effect Unit :=
  tryCatch action fun fault =>
    if fault.resolution = .ignore then pure () else throw fault

def give (values : List Value) : Effect Unit :=
  modify fun work => { work with results := values :: work.results }

def countChange : Effect Unit :=
  modify fun work => { work with changed := work.changed + 1 }

end Effect

end EmbeddedSql.Plan
