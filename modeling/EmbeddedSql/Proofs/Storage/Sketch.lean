import EmbeddedSql.Proofs.Storage.Frame

/-! What running a statement leaves as it is: all other statements but for their rows, and
of the statement itself all but how far it has come. -/

namespace EmbeddedSql.Storage

open Plan (Fault)

inductive Stage where
  | ready
  | running
  | halted
deriving DecidableEq, Repr

def Phase.stage : Phase → Stage
  | .ready => .ready
  | .running _ => .running
  | .halted _ => .halted

@[ext]
structure Entry where
  handle : StatementHandle
  client : DatabaseHandle
  parsed : Sql.Parsed
  body : Sql.Statement
  bindings : Array Value
  stage : Stage

def Statement.entry (hidden : Option StatementHandle) (statement : Statement) : Entry where
  handle := statement.handle
  client := statement.client
  parsed := statement.parsed
  body := statement.body
  bindings := statement.bindings
  stage := if hidden = some statement.handle then .ready else statement.phase.stage

@[ext]
structure Sketch where
  clients : List DatabaseHandle
  statements : List Entry
  nextClient : Nat
  nextStatement : Nat

@[ext]
structure Detail where
  clients : List DatabaseHandle
  statements : List (Entry × Plan.Program)
  nextClient : Nat
  nextStatement : Nat

namespace Store

def sketch (hidden : Option StatementHandle) (store : Store) : Sketch where
  clients := store.clients.map (·.handle)
  statements := store.statements.map (·.entry hidden)
  nextClient := store.nextClient
  nextStatement := store.nextStatement

def detail (hidden : Option StatementHandle) (store : Store) : Detail where
  clients := store.clients.map (·.handle)
  statements := store.statements.map fun statement => (statement.entry hidden, statement.program)
  nextClient := store.nextClient
  nextStatement := store.nextStatement

theorem sketch_of_detail {store after : Store} {hidden : Option StatementHandle}
    (same : after.detail hidden = store.detail hidden) : after.sketch hidden = store.sketch hidden := by
  have sketches (store : Store) :
      (store.sketch hidden).statements = (store.detail hidden).statements.map Prod.fst := by
    rw [detail, sketch, List.map_map]
    rfl
  refine Sketch.ext (congrArg Detail.clients same) ?_ (congrArg Detail.nextClient same)
    (congrArg Detail.nextStatement same)
  rw [sketches, sketches, same]

variable (store : Store) (handle : DatabaseHandle) {hidden : Option StatementHandle}

/-! ## Changes of a client or a statement -/

@[simp] theorem updateClient_detail {change : Client → Client}
    (keeps : ∀ client, (change client).handle = client.handle) :
    (store.updateClient handle change).detail hidden = store.detail hidden := by
  unfold detail updateClient
  congr 1
  rw [List.map_map]
  refine List.map_congr_left fun client _ => ?_
  dsimp only [Function.comp]
  split
  · exact keeps client
  · rfl

@[simp] theorem updateStatement_detail {statement : StatementHandle}
    {change : Statement → Statement}
    (keeps : ∀ other, other.handle = statement →
      ((change other).entry hidden, (change other).program) = (other.entry hidden, other.program)) :
    (store.updateStatement statement change).detail hidden = store.detail hidden := by
  unfold detail updateStatement
  congr 1
  rw [List.map_map]
  refine List.map_congr_left fun other _ => ?_
  dsimp only [Function.comp]
  split
  · rename_i isNamed
    exact keeps other isNamed
  · rfl

@[simp] theorem setPhase_detail (statement : StatementHandle) (phase : Phase) :
    (store.setPhase statement phase).detail (some statement) = store.detail (some statement) :=
  store.updateStatement_detail fun other isNamed => by simp [Statement.entry, isNamed]

theorem setProgram_sketch (statement : StatementHandle) (program : Plan.Program) :
    (store.updateStatement statement fun other => { other with program }).sketch hidden =
      store.sketch hidden := by
  unfold sketch updateStatement
  congr 1
  rw [List.map_map]
  refine List.map_congr_left fun other _ => ?_
  dsimp only [Function.comp]
  split <;> rfl

theorem loseScans_detail :
    ({ store with
      statements := store.statements.map fun statement =>
        if statement.client = handle then loseScans statement else statement } : Store).detail
      hidden = store.detail hidden := by
  have keeps (statement : Statement) :
      ((loseScans statement).entry hidden, (loseScans statement).program) =
        (statement.entry hidden, statement.program) := by
    unfold loseScans
    split
    · rename_i isRunning
      split
      · simp [Statement.entry, isRunning, Phase.stage]
      · rfl
    · rfl
  unfold detail
  congr 1
  rw [List.map_map]
  refine List.map_congr_left fun statement _ => ?_
  dsimp only [Function.comp]
  split
  · exact keeps statement
  · rfl

/-! ## Frames -/

theorem detail_frame (hidden : Option StatementHandle) : Frame (detail hidden) where
  updateClient keeps _ := updateClient_detail _ _ keeps
  setCommitted := rfl
  loseScans := loseScans_detail _ _

theorem sketch_frame (hidden : Option StatementHandle) : Frame (sketch hidden) where
  updateClient keeps counted := sketch_of_detail ((detail_frame hidden).updateClient keeps counted)
  setCommitted := rfl
  loseScans := sketch_of_detail (detail_frame hidden).loseScans

@[simp] theorem count_detail (changed : Option Nat) :
    (store.count handle changed).detail hidden = store.detail hidden := by
  unfold count
  split
  · rfl
  · exact updateClient_detail _ _ fun _ => rfl

theorem overlooks_detail (changed : Option Nat) : Overlooks (detail hidden) changed :=
  .inr fun store handle changed => store.count_detail handle changed

@[simp] theorem rollback_detail : (store.rollback handle).detail hidden = store.detail hidden :=
  (detail_frame hidden).rollback

@[simp] theorem settle_detail (changed : Option Nat) :
    (store.settle handle changed).1.detail hidden = store.detail hidden :=
  (detail_frame hidden).settle (overlooks_detail changed)

@[simp] theorem report_detail (fault : Fault) :
    (store.report handle fault).detail hidden = store.detail hidden :=
  (detail_frame hidden).report rfl

theorem finish_detail (statement : Statement) (running : Running) :
    (store.finish statement running).1.detail (some statement.handle) =
      store.detail (some statement.handle) :=
  (detail_frame _).finish (overlooks_detail _) rfl fun _ _ => setPhase_detail ..

@[simp] theorem fail_detail (statement : Statement) (changed : Option Nat) (fault : Fault) :
    (store.fail statement changed fault).detail (some statement.handle) =
      store.detail (some statement.handle) :=
  (detail_frame _).fail (overlooks_detail _) fun _ _ => setPhase_detail ..

/-! ## Steps -/

variable {store handle} {after : Store}

theorem acquire_detail {need : Need} (isOk : store.acquire handle need = .ok after) :
    after.detail hidden = store.detail hidden :=
  (detail_frame hidden).acquire isOk

theorem recompile_sketch {statement recompiled : Statement}
    (isOk : store.recompile statement = .ok (after, recompiled)) :
    after.sketch hidden = store.sketch hidden :=
  (sketch_frame hidden).recompile (fun _ _ _ => setProgram_sketch ..) isOk

theorem recompile_handle {statement recompiled : Statement}
    (isOk : store.recompile statement = .ok (after, recompiled)) :
    recompiled.handle = statement.handle := by
  unfold recompile at isOk
  dsimp only at isOk
  repeat' split at isOk
  all_goals cases isOk
  all_goals rfl

variable (store handle)

@[simp] theorem execute_detail (client : Client) (statement : Statement) :
    (store.execute client statement).1.detail hidden = store.detail hidden :=
  (detail_frame hidden).execute client statement

variable {store}

/-- What is left of a store by a statement that starts, or is stopped. -/
def started : Except (Int × Store) Store → Store
  | .error (_, stopped) => stopped
  | .ok store => store

theorem start_sketch (statement : Statement) :
    (started (store.start statement)).sketch (some statement.handle) =
      store.sketch (some statement.handle) := by
  unfold start
  dsimp only
  split
  · exact sketch_of_detail (store.fail_detail statement _ _)
  rename_i ready recompiled isRecompiled
  have recompiles : ready.sketch (some statement.handle) = store.sketch (some statement.handle) :=
    recompile_sketch isRecompiled
  refine Eq.trans (sketch_of_detail ?_) recompiles
  rw [recompile_handle isRecompiled]
  split
  · simp [started]
  · rename_i client _
    have executes : (ready.execute client recompiled).1.detail (some statement.handle) =
        ready.detail (some statement.handle) := by
      simp
    split <;> rename_i executed <;> rw [executed] at executes <;> simpa [started] using executes

theorem handle_of_statement? {name : StatementHandle} {statement : Statement}
    (isThere : store.statement? name = some statement) : statement.handle = name := by
  simpa using List.find?_some isThere

theorem advance_detail (statement : StatementHandle) :
    (store.advance statement).2.detail (some statement) = store.detail (some statement) := by
  unfold advance
  split
  · rfl
  rename_i found isFound
  cases handle_of_statement? isFound
  split
  · rename_i running client _ _
    split
    · simp
    · have finishes := store.finish_detail found running
      split <;> rename_i finished <;> rw [finished] at finishes <;> exact finishes
    · simp
  · rfl

theorem step_sketch (statement : StatementHandle) :
    (store.step statement).2.sketch (some statement) = store.sketch (some statement) := by
  unfold step
  split
  · rfl
  rename_i found isFound
  cases handle_of_statement? isFound
  split
  · exact sketch_of_detail (advance_detail _)
  · have starts := store.start_sketch found
    split <;> rename_i start <;> rw [start] at starts
    · exact starts
    · exact (sketch_of_detail (advance_detail _)).trans starts

/-! ## Between steps -/

theorem reset_detail (statement : StatementHandle) :
    (store.reset statement).2.detail (some statement) = store.detail (some statement) := by
  unfold reset
  split
  · rfl
  rename_i found isFound
  cases handle_of_statement? isFound
  split
  · rfl
  · simp
  · rename_i running _
    have finishes := store.finish_detail found running
    split <;> rename_i finished <;> rw [finished] at finishes <;> simpa using finishes

theorem reset_sketch (statement : StatementHandle) :
    (store.reset statement).2.sketch (some statement) = store.sketch (some statement) :=
  sketch_of_detail (reset_detail statement)

theorem bind_cases (statement : StatementHandle) (index : Int) (argument : Argument) :
    (store.bind statement index argument).2 = store ∨
      ∃ value, (store.bind statement index argument).2 =
        store.updateStatement statement fun statement =>
          { statement with bindings := statement.bindings.setIfInBounds (index.toNat - 1) value } := by
  unfold bind
  split
  · exact .inl rfl
  split
  · dsimp only
    split
    · exact .inl rfl
    split
    · exact .inr ⟨_, rfl⟩
    · exact .inr ⟨_, rfl⟩
  · exact .inl rfl

theorem applySetting_detail (client : Client) (setting : Option Plan.Setting) :
    (store.applySetting client setting).detail hidden = store.detail hidden :=
  (detail_frame hidden).applySetting client setting

end Store

end EmbeddedSql.Storage
