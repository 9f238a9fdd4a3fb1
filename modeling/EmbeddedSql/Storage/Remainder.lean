import EmbeddedSql.Storage.Transaction

/-! The rows that a running statement still gives. Main statement: whatever the rows are,
giving one leaves fewer. -/

namespace EmbeddedSql.Storage

open Plan (Environment Fault Scan Window)

inductive Next where
  | row (values : List Value) (remainder : Remainder)
  | done
  | failed (fault : Fault)

/-! ## Scans -/

namespace Remainder

def rowsAfter (database : Database) (scan : Scan) (position : Option Int64) : List Row :=
  let rows := ((database.table? scan.table).map (·.rows)).getD []
  if scan.descending then
    rows.reverse.filter fun row => position.all fun position => decide (row.rowid < position)
  else rows.filter fun row => position.all fun position => decide (position < row.rowid)

private def nextOf (environment : Environment) (scan : Scan) : Window → List Row → Next
  | _, [] => .done
  | window, row :: rows =>
      match scan.pick environment row with
      | .error fault => .failed fault
      | .ok none => nextOf environment scan window rows
      | .ok (some values) =>
          match window.skip with
          | skip + 1 => nextOf environment scan { window with skip } rows
          | 0 =>
              .row values
                (.scanning scan (some row.rowid) { window with take := window.take.map (· - 1) })

def next (environment : Environment) : Remainder → Next
  | .computed (row :: rest) fault => .row row (.computed rest fault)
  | .computed [] (some fault) => .failed fault
  | .computed [] none => .done
  | .scanning scan position window =>
      if window.take = some 0 then .done
      else nextOf environment scan window (rowsAfter environment.database scan position)
  | .lost => .failed lostByRollback

def bound (database : Database) : Remainder → Nat
  | .computed rows _ => rows.length
  | .scanning scan position _ => (rowsAfter database scan position).length
  | .lost => 0

/-! ## Giving a row leaves fewer -/

private theorem length_filter_lt {α : Type} (fewer more : α → Bool) (items : List α)
    (implies : ∀ item, fewer item = true → more item = true) (item : α)
    (member : item ∈ items) (isMore : more item = true) (notFewer : fewer item = false) :
    (items.filter fewer).length < (items.filter more).length := by
  induction items with
  | nil => cases member
  | cons head tail induction =>
      have notLonger : (tail.filter fewer).length ≤ (tail.filter more).length := by
        clear induction member
        induction tail with
        | nil => simp
        | cons next rest shorter =>
            by_cases isFewer : fewer next = true
            · simp [isFewer, implies next isFewer, shorter]
            · by_cases isAlsoMore : more next = true
              · simp [isFewer, isAlsoMore]; omega
              · simp [isFewer, isAlsoMore, shorter]
      rcases List.mem_cons.mp member with equal | member
      · subst equal
        simp [isMore, notFewer]; omega
      · have shorter := induction member
        by_cases isFewer : fewer head = true
        · simp [isFewer, implies head isFewer, shorter]
        · by_cases isAlsoMore : more head = true
          · simp [isFewer, isAlsoMore]; omega
          · simp [isFewer, isAlsoMore, shorter]

private theorem nextOf_eq_row {environment : Environment} {scan : Scan} {window : Window}
    {rows : List Row} {values : List Value} {remainder : Remainder}
    (found : nextOf environment scan window rows = .row values remainder) :
    ∃ row ∈ rows, ∃ window, remainder = .scanning scan (some row.rowid) window := by
  induction rows generalizing window with
  | nil => simp [nextOf] at found
  | cons row rows induction =>
      rw [nextOf] at found
      split at found
      · cases found
      · obtain ⟨other, member, result⟩ := induction found
        exact ⟨other, List.mem_cons_of_mem _ member, result⟩
      · split at found
        · obtain ⟨other, member, result⟩ := induction found
          exact ⟨other, List.mem_cons_of_mem _ member, result⟩
        · injection found with _ same
          exact ⟨row, List.mem_cons_self, _, same.symm⟩

private theorem rowsAfter_length_lt (database : Database) (scan : Scan)
    (position : Option Int64) (row : Row) (member : row ∈ rowsAfter database scan position) :
    (rowsAfter database scan (some row.rowid)).length <
      (rowsAfter database scan position).length := by
  unfold rowsAfter at member ⊢
  split at member <;> rename_i isDescending <;> simp only [isDescending, if_true]
  · obtain ⟨isRow, isAfter⟩ := List.mem_filter.mp member
    refine length_filter_lt _ _ _ (fun other later => ?_) row isRow isAfter ?_
    · cases position with
      | none => rfl
      | some position =>
          simp only [Option.all_some, decide_eq_true_eq] at *
          exact Int64.lt_trans later isAfter
    · simp [Int64.lt_irrefl]
  · obtain ⟨isRow, isAfter⟩ := List.mem_filter.mp member
    refine length_filter_lt _ _ _ (fun other later => ?_) row isRow isAfter ?_
    · cases position with
      | none => rfl
      | some position =>
          simp only [Option.all_some, decide_eq_true_eq] at *
          exact Int64.lt_trans isAfter later
    · simp [Int64.lt_irrefl]

theorem bound_next_lt {environment : Environment} {remainder : Remainder}
    {values : List Value} {rest : Remainder}
    (found : remainder.next environment = .row values rest) :
    rest.bound environment.database < remainder.bound environment.database := by
  cases remainder with
  | computed rows fault =>
      cases rows with
      | nil => cases fault <;> cases found
      | cons row rows =>
          injection found with _ same
          subst same
          simp [bound]
  | scanning scan position window =>
      rw [next] at found
      split at found
      · cases found
      · obtain ⟨row, member, window, same⟩ := nextOf_eq_row found
        subst same
        exact rowsAfter_length_lt environment.database scan position row member
  | lost => cases found

end Remainder

end EmbeddedSql.Storage
