import ForeignData.Import.Basic
import ForeignData.Proofs.Action

/-!
# Imports step by step

What the next statement of an import comes to on any engine, by what comes of one step of the
listing and of the columns of the table that it names. The listing is held no longer than it goes
on, so that it is not stepped after its end or after a failure.
-/

namespace ForeignData.SchemaImport

variable {σ κ τ : Type} {e : Engine σ κ τ} {c : κ} {request : ImportRequest} {t t' : τ}
  {s s' s'' : σ}

/-! ### The listing -/

lemma run_nextTable {result : StepResult} (hstep : e.step.run (t, s) = (.ok result, (t', s'))) :
    (nextTable e t).run s
      = (.ok (if result = .row then (((e.row t').value 0).asText, some t') else (none, none)),
        s') := by
  have hheld : (Action.holding t e.step).run s = (.ok (result, t'), s') := by
    rw [Action.run_holding, hstep]
  rw [nextTable, Action.run_bind_of_ok _ hheld]
  cases result <;> rfl

lemma run_nextTable_of_fault {fault : Fault}
    (hstep : e.step.run (t, s) = (.error fault, (t', s'))) :
    (nextTable e t).run s = (.error fault, s') := by
  have hheld : (Action.holding t e.step).run s = (.error fault, s') := by
    rw [Action.run_holding, hstep]
  rw [nextTable, Action.run_bind_of_error _ hheld]

/-! ### The next statement -/

lemma run_next : (next e).run (⟨c, some t, request⟩, s)
    = match (advance e c request t).run s with
      | (.ok (statement, tables), s) => (.ok statement, (⟨c, tables, request⟩, s))
      | (.error fault, s) => (.error fault, (⟨c, none, request⟩, s)) := rfl

lemma run_next_of_ok {statement : Option String} {tables : Option τ}
    (h : (advance e c request t).run s = (.ok (statement, tables), s')) :
    (next e).run (⟨c, some t, request⟩, s) = (.ok statement, (⟨c, tables, request⟩, s')) := by
  rw [run_next, h]

lemma run_next_of_error {fault : Fault}
    (h : (advance e c request t).run s = (.error fault, s')) :
    (next e).run (⟨c, some t, request⟩, s) = (.error fault, (⟨c, none, request⟩, s')) := by
  rw [run_next, h]

/-- The next statement is the one for the table that the listing names. The listing goes on unless
that statement fails. -/
lemma run_next_of_row {name : String} {result : Except Fault String}
    (hstep : e.step.run (t, s) = (.ok .row, (t', s')))
    (hname : ((e.row t').value 0).asText = some name)
    (hstatement : (tableStatement e c request name).run s' = (result, s'')) :
    (next e).run (⟨c, some t, request⟩, s)
      = (result.map some, (⟨c, result.toOption.map fun _ => t', request⟩, s'')) := by
  have htable : (nextTable e t).run s = (.ok (some name, some t'), s') := by
    rw [run_nextTable hstep, hname]
    rfl
  have hadvance : (advance e c request t).run s
      = (result.map fun statement => (some statement, some t'), s'') := by
    rw [advance, Action.run_bind_of_ok _ htable]
    change (tableStatement e c request name >>= fun statement =>
      pure (some statement, some t')).run s' = _
    rw [Action.run_bind_pure, hstatement]
  cases result with
  | ok statement => exact run_next_of_ok hadvance
  | error fault => exact run_next_of_error hadvance

/-- The import ends with the listing. -/
lemma run_next_of_done (hstep : e.step.run (t, s) = (.ok .done, (t', s'))) :
    (next e).run (⟨c, some t, request⟩, s) = (.ok none, (⟨c, none, request⟩, s')) := by
  apply run_next_of_ok
  rw [advance, Action.run_bind_of_ok _ (run_nextTable hstep)]
  rfl

lemma run_next_of_fault {fault : Fault} (hstep : e.step.run (t, s) = (.error fault, (t', s'))) :
    (next e).run (⟨c, some t, request⟩, s) = (.error fault, (⟨c, none, request⟩, s')) := by
  apply run_next_of_error
  rw [advance, Action.run_bind_of_error _ (run_nextTable_of_fault hstep)]

/-! ### The end -/

/-- There is nothing to be had of an import that has ended, and nothing is done for it. -/
lemma run_next_of_ended {run : SchemaImport κ τ} (h : run.tables = none) (s : σ) :
    (next e).run (run, s) = (.ok none, (run, s)) := by
  obtain ⟨c, tables, request⟩ := run
  obtain rfl : tables = none := h
  rfl

end ForeignData.SchemaImport
