import EmbeddedSql.Proofs.Engine.Binding
import EmbeddedSql.Proofs.Engine.Recording
import EmbeddedSql.Proofs.Engine.Transactions

/-! The steps that an engine takes and the rows that it gives, as its record tells them. -/

namespace EmbeddedSql

variable {σ C : Type}

/-! ## Steps and rows -/

def EngineCall.isStep : EngineCall → Bool
  | .stepped _ _ => true
  | _ => false

def EngineCall.givesRow : EngineCall → Bool
  | .stepped _ code => code = Status.row
  | _ => false

namespace EngineRecord

def steps (record : EngineRecord) : EngineRecord :=
  record.filter EngineCall.isStep

def rows (record : EngineRecord) : Nat :=
  record.countP EngineCall.givesRow

theorem rows_eq (record : EngineRecord) : record.rows = record.steps.countP EngineCall.givesRow := by
  rw [rows, steps, List.countP_filter]
  refine List.countP_congr fun call _ => ?_
  cases call <;> simp [EngineCall.givesRow, EngineCall.isStep]

end EngineRecord

theorem Backend.step_rows (backend : Backend σ) (statement : StatementHandle)
    (recorded : Recorded σ) :
    (backend.recording.engine.step statement recorded).2.record.rows =
      recorded.record.rows +
        if (backend.recording.engine.step statement recorded).1 = Status.row then 1 else 0 := by
  show EngineRecord.rows (.stepped statement _ :: recorded.record) = _
  rw [EngineRecord.rows, List.countP_cons]
  simp only [EngineCall.givesRow, decide_eq_true_eq]
  rfl

/-! ## Promises of a recording engine

Recording changes nothing about statements and what is made of them. -/

theorem Custody.Spares.recording {engine : Engine σ} {custody : Custody engine}
    {Keeps : σ → StatementHandle → Prop} (spares : custody.Spares Keeps) :
    custody.recording.Spares fun recorded => Keeps recorded.state where
  openDatabase valid := spares.openDatabase valid.1
  closeDatabase valid := spares.closeDatabase valid.1
  prepare valid := spares.prepare valid.1
  step valid := spares.step valid.1
  reset valid := spares.reset valid.1
  finalize valid := spares.finalize valid.1
  bind valid := spares.bind valid.1
  clearBindings valid := spares.clearBindings valid.1

def Rewinding.recording {backend : Backend σ} (laws : Rewinding backend.engine) :
    Rewinding backend.recording.engine where
  toCustody := laws.toCustody.recording
  IsReset recorded := laws.IsReset recorded.state
  spares := laws.spares.recording
  prepared_isReset valid := laws.prepared_isReset valid.1
  stepped_isNotReset valid := laws.stepped_isNotReset valid.1
  reset_isReset valid := laws.reset_isReset valid.1
  bound_isReset valid := laws.bound_isReset valid.1
  cleared_isReset valid := laws.cleared_isReset valid.1
  bound_misuse valid := laws.bound_misuse valid.1
  finalized_ok valid := laws.finalized_ok valid.1

def Binding.recording {backend : Backend σ} (laws : Binding backend.engine) :
    Binding backend.recording.engine where
  toRewinding := laws.toRewinding.recording
  slots recorded := laws.slots recorded.state
  ofWide := laws.ofWide
  spares_slots held := (laws.spares_slots held).recording
  prepared_slots valid := laws.prepared_slots valid.1
  stepped_slots valid := laws.stepped_slots valid.1
  reset_slots valid := laws.reset_slots valid.1
  bound_slots fits valid := laws.bound_slots fits valid.1
  bound_outside valid := laws.bound_outside valid.1
  bound_count valid := laws.bound_count valid.1
  cleared_slots valid := laws.cleared_slots valid.1

def Transactions.recording {backend : Backend σ} (laws : Transactions backend.engine C) :
    Transactions backend.recording.engine C where
  toRewinding := laws.toRewinding.recording
  standing recorded := laws.standing recorded.state
  kindOf recorded := laws.kindOf recorded.state
  kind := laws.kind
  kind_begin := laws.kind_begin
  kind_commit := laws.kind_commit
  kind_rollback := laws.kind_rollback
  isPragma := laws.isPragma
  ordinary_pragma := laws.ordinary_pragma
  opened_outside valid := laws.opened_outside valid.1
  prepared_standing valid := laws.prepared_standing valid.1
  prepared_outside valid := laws.prepared_outside valid.1
  prepared_kind valid := laws.prepared_kind valid.1
  compiles_rollback valid := laws.compiles_rollback valid.1
  bound_standing valid := laws.bound_standing valid.1
  bound_kind valid := laws.bound_kind valid.1
  stepped_first valid := laws.stepped_first valid.1
  stepped_again valid := laws.stepped_again valid.1
  reset_standing valid := laws.reset_standing valid.1
  finalized_standing valid := laws.finalized_standing valid.1

end EmbeddedSql
