import ForeignData.Proofs.Action
import ForeignData.Scan.Basic

/-!
# Steps of a scan

What each call on a scan does, on any engine: what the phase of the scan makes of it, and what a
call that has succeeded says of the engine.
-/

namespace ForeignData

def RowShape.scanRow (shape : RowShape) (rowWidth : Nat) (row : ResultRow) :
    Except Fault ScanRow := do
  let values ← shape.hostRow row rowWidth
  let rowid ← shape.rowid row
  return { values, rowid }

namespace ForeignScan

variable {σ κ τ : Type} {e : Engine σ κ τ} {scan : ForeignScan τ} {running : RunningScan τ}
  {params : Option (Evaluator σ)} {w w' : σ}

/-! ### Phases -/

lemma phase_eq_planned_iff : scan.phase = .planned ↔ scan.state = .planned := by
  unfold phase
  cases scan.state <;> simp [ScanState.phase]

lemma phase_eq_ended_iff : scan.phase = .ended ↔ scan.state = .ended := by
  unfold phase
  cases scan.state <;> simp [ScanState.phase]

lemma running?_eq_none_iff :
    scan.state.running? = none ↔ scan.phase = .planned ∨ scan.phase = .ended := by
  unfold phase
  cases scan.state <;> simp [ScanState.phase, ScanState.running?]

/-- There are parameters that are bound as long as the scan runs. -/
lemma isSome_boundParams_iff :
    scan.boundParams.isSome = true ↔ scan.phase = .began ∨ scan.phase = .iterating := by
  unfold boundParams phase
  cases scan.state <;> simp [ScanState.phase, ScanState.running?]

/-! ### Moving -/

/-- The state that a move leads to, and what it responds. -/
lemma moving_run {α : Type} (action : Action σ (α × ScanState τ)) (scan : ForeignScan τ) (w : σ) :
    (moving action).run (scan, w) = match action.run w with
      | (.ok (a, state), w) => (.ok a, ({ scan with state }, w))
      | (.error fault, w) => (.error fault, ({ scan with state := .ended }, w)) := rfl

lemma moving_run_of_ok {α : Type} {action : Action σ (α × ScanState τ)} {a : α}
    {state : ScanState τ} (h : action.run w = (.ok (a, state), w')) :
    (moving action).run (scan, w) = (.ok a, ({ scan with state }, w')) := by
  rw [moving_run, h]

lemma moving_run_of_error {α : Type} {action : Action σ (α × ScanState τ)} {fault : Fault}
    (h : action.run w = (.error fault, w')) :
    (moving action).run (scan, w) = (.error fault, ({ scan with state := .ended }, w')) := by
  rw [moving_run, h]

lemma moving_run_eq_ok {α : Type} {action : Action σ (α × ScanState τ)} {a : α}
    {s : ForeignScan τ × σ} (h : (moving action).run (scan, w) = (.ok a, s)) :
    ∃ state w', action.run w = (.ok (a, state), w') ∧ s = ({ scan with state }, w') := by
  rw [moving_run] at h
  split at h
  case h_1 haction =>
    cases h
    exact ⟨_, _, haction, rfl⟩
  case h_2 => cases h

lemma moving_run_eq_error {α : Type} {action : Action σ (α × ScanState τ)} {fault : Fault}
    {s : ForeignScan τ × σ} (h : (moving action).run (scan, w) = (.error fault, s)) :
    ∃ w', s = ({ scan with state := .ended }, w') := by
  rw [moving_run] at h
  split at h
  case h_1 => cases h
  case h_2 =>
    cases h
    exact ⟨_, rfl⟩

lemma phase_of_moving_run {α : Type} {action : Action σ (α × ScanState τ)} {w : σ} {fault : Fault}
    {s : ForeignScan τ × σ} (h : (moving action).run (scan, w) = (.error fault, s)) :
    s.1.phase = .ended := by
  obtain ⟨w', rfl⟩ := moving_run_eq_error h
  rfl

/-! ### The phases of a call -/

lemma begin_run_of_planned (h : scan.state = .planned) :
    (begin e params false).run (scan, w) = (moving (scan.start e params)).run (scan, w) := by
  rw [begin, Action.run_get_bind]
  simp only [h]
  rfl

lemma begin_run_of_explainOnly (h : scan.state = .planned) :
    (begin e params true).run (scan, w) = (.ok (), (scan, w)) := by
  rw [begin, Action.run_get_bind]
  simp only [h]
  rfl

lemma begin_run_of_not_planned (h : scan.phase ≠ .planned) (explainOnly : Bool) :
    (begin e params explainOnly).run (scan, w)
      = (.error (.misuse (.beginInPhase scan.phase)), (scan, w)) := by
  rw [begin, Action.run_get_bind]
  cases hstate : scan.state with
  | planned => exact absurd (congrArg ScanState.phase hstate) h
  | began r | iterating r | ended =>
    simp only [phase, hstate]
    rfl

lemma iterate_run_of_planned (h : scan.state = .planned) :
    (iterate e).run (scan, w) = (.error (.misuse .iterateBeforeBegin), (scan, w)) := by
  rw [iterate, Action.run_get_bind]
  simp only [h]
  rfl

lemma iterate_run_of_running (h : scan.state.running? = some running) :
    (iterate e).run (scan, w) = (moving (advance e scan.shape running)).run (scan, w) := by
  rw [iterate, Action.run_get_bind]
  cases hstate : scan.state with
  | began r | iterating r =>
    rw [hstate] at h
    cases h
    simp only [hstate]
  | planned | ended =>
    rw [hstate] at h
    cases h

lemma iterate_run_of_ended (h : scan.state = .ended) :
    (iterate e).run (scan, w) = (.ok none, (scan, w)) := by
  rw [iterate, Action.run_get_bind]
  simp only [h]
  rfl

lemma rescan_run_of_running (h : scan.state.running? = some running) :
    (rescan e params).run (scan, w)
      = (moving (restart e scan.plan params running)).run (scan, w) := by
  rw [rescan, Action.run_get_bind]
  cases hstate : scan.state with
  | began r | iterating r =>
    rw [hstate] at h
    cases h
    simp only [hstate]
  | planned | ended =>
    rw [hstate] at h
    cases h

lemma rescan_run_of_not_running (h : scan.state.running? = none) :
    (rescan e params).run (scan, w) = (.error (.misuse .rescanNotRunning), (scan, w)) := by
  rw [rescan, Action.run_get_bind]
  cases hstate : scan.state with
  | began r | iterating r =>
    rw [hstate] at h
    cases h
  | planned | ended =>
    simp only [hstate]
    rfl

lemma rescan_run_of_ended (h : scan.state = .ended) :
    (rescan e params).run (scan, w) = (.error (.misuse .rescanNotRunning), (scan, w)) :=
  rescan_run_of_not_running (by rw [h]; rfl)

/-! ### The beginning -/

/-- Open the database of a scan and prepare its query. -/
def opened (e : Engine σ κ τ) (scan : ForeignScan τ) : Action σ τ := do
  let connection ← e.connect .readOnly scan.source.database
  e.prepare connection scan.plan.query

/-- A scan has begun if its parameters have been evaluated and bound on its statement. -/
lemma start_run_eq_ok {state : ScanState τ}
    (h : (scan.start e params).run w = (.ok ((), state), w')) :
    ∃ t w₁ ps w₂ t', (scan.opened e).run w = (.ok t, w₁)
      ∧ (evaluate scan.plan params).run w₁ = (.ok ps, w₂)
      ∧ (bindParams e.bind ps).run (t, w₂) = (.ok (), (t', w'))
      ∧ state = .began { statement := t', params := ps, exhausted := false } := by
  obtain ⟨connection, w₀, hconnect, h⟩ := Action.run_bind_eq_ok h
  obtain ⟨t, w₁, hprepare, h⟩ := Action.run_bind_eq_ok h
  obtain ⟨ps, w₂, hevaluate, h⟩ := Action.run_bind_eq_ok h
  obtain ⟨⟨_, t'⟩, w₃, hbind, h⟩ := Action.run_bind_eq_ok h
  cases h
  refine ⟨t, w₁, ps, w₂, t', ?_, hevaluate, Action.run_holding_eq_ok hbind, rfl⟩
  rw [opened, Action.run_bind_of_ok _ hconnect]
  exact hprepare

/-- A scan without parameters has begun as soon as its statement is opened. -/
lemma begin_run_of_opened {t : τ} (hplanned : scan.state = .planned)
    (hcount : scan.plan.paramCount = 0) (h : (scan.opened e).run w = (.ok t, w')) :
    (begin e none false).run (scan, w)
      = (.ok (), ({ scan with state := .began ⟨t, [], false⟩ }, w')) := by
  obtain ⟨connection, w₁, hconnect, hprepare⟩ := Action.run_bind_eq_ok h
  have hevaluate : (evaluate scan.plan none).run w' = (.ok [], w') := by
    rw [evaluate, hcount]
    rfl
  have hstart : (scan.start e none).run w = (.ok ((), .began ⟨t, [], false⟩), w') := by
    rw [start, Action.run_bind_of_ok _ hconnect, Action.run_bind_of_ok _ hprepare,
      Action.run_bind_of_ok _ hevaluate]
    rfl
  rw [begin_run_of_planned hplanned, moving_run_of_ok hstart]

/-! ### Iterating -/

/-- An exhausted scan is left as it is, without a step of its statement. -/
lemma advance_run_of_exhausted (shape : RowShape) (h : running.exhausted = true) :
    (advance e shape running).run w = (.ok (none, .iterating running), w) := by
  rw [advance, if_pos h]
  rfl

/-- A scan that is not exhausted takes a step of its statement, and is so at its end. -/
lemma advance_run_of_done (shape : RowShape) (h : running.exhausted = false) {t : τ}
    (hstep : e.step.run (running.statement, w) = (.ok .done, (t, w'))) :
    (advance e shape running).run w
      = (.ok (none, .iterating { running with statement := t, exhausted := true }), w') := by
  have hholding : (Action.holding running.statement e.step).run w = (.ok (.done, t), w') := by
    rw [Action.run_holding, hstep]
  rw [advance, if_neg (by simp [h]), Action.run_bind_of_ok _ hholding]
  rfl

lemma advance_run_of_row (shape : RowShape) (h : running.exhausted = false) {t : τ}
    (hstep : e.step.run (running.statement, w) = (.ok .row, (t, w'))) :
    (advance e shape running).run w
      = ((shape.scanRow (e.width t) (e.row t)).map fun row =>
          (some row, .iterating { running with statement := t }), w') := by
  have hholding : (Action.holding running.statement e.step).run w = (.ok (.row, t), w') := by
    rw [Action.run_holding, hstep]
  rw [advance, if_neg (by simp [h]), Action.run_bind_of_ok _ hholding]
  unfold RowShape.scanRow
  cases hvalues : shape.hostRow (e.row t) (e.width t) with
  | error fault =>
    simp only [hvalues]
    rfl
  | ok values =>
    cases hrowid : shape.rowid (e.row t) with
    | error fault =>
      simp only [hvalues, hrowid]
      rfl
    | ok rowid =>
      simp only [hvalues, hrowid]
      rfl

lemma advance_run_of_fault (shape : RowShape) (h : running.exhausted = false) {fault : Fault}
    {t : τ} (hstep : e.step.run (running.statement, w) = (.error fault, (t, w'))) :
    (advance e shape running).run w = (.error fault, w') := by
  have hholding : (Action.holding running.statement e.step).run w = (.error fault, w') := by
    rw [Action.run_holding, hstep]
  rw [advance, if_neg (by simp [h]), Action.run_bind_of_error _ hholding]

/-- What a running scan may come to in one step: it stays at its end, comes to its end, or makes a
row of what its statement has come to. -/
inductive Advances (e : Engine σ κ τ) (shape : RowShape) (running : RunningScan τ) (w : σ) :
    Option ScanRow → RunningScan τ → σ → Prop
  | exhausted (h : running.exhausted = true) : Advances e shape running w none running w
  | done {t : τ} {w' : σ} (hstep : e.step.run (running.statement, w) = (.ok .done, (t, w'))) :
      Advances e shape running w none { running with statement := t, exhausted := true } w'
  | row {t : τ} {w' : σ} {row : ScanRow}
      (hstep : e.step.run (running.statement, w) = (.ok .row, (t, w')))
      (hrow : shape.scanRow (e.width t) (e.row t) = .ok row) :
      Advances e shape running w (some row) { running with statement := t } w'

/-- A step that succeeds leads to iterating. -/
lemma advances_of_run {shape : RowShape} {row : Option ScanRow} {state : ScanState τ}
    (h : (advance e shape running).run w = (.ok (row, state), w')) :
    ∃ running', state = .iterating running' ∧ Advances e shape running w row running' w' := by
  cases hexhausted : running.exhausted with
  | true =>
    rw [advance_run_of_exhausted shape hexhausted] at h
    cases h
    exact ⟨running, rfl, .exhausted hexhausted⟩
  | false =>
    rcases hstep : e.step.run (running.statement, w) with ⟨fault | (_ | _), t, w₁⟩
    · rw [advance_run_of_fault shape hexhausted hstep] at h
      cases h
    · rw [advance_run_of_row shape hexhausted hstep] at h
      cases hrow : shape.scanRow (e.width t) (e.row t) with
      | error fault =>
        rw [hrow] at h
        cases h
      | ok made =>
        rw [hrow] at h
        cases h
        exact ⟨_, rfl, .row hstep hrow⟩
    · rw [advance_run_of_done shape hexhausted hstep] at h
      cases h
      exact ⟨_, rfl, .done hstep⟩

/-! ### Scanning anew -/

lemma restart_none_run {plan : ScanPlan} {t : τ}
    (hreset : e.reset.run (running.statement, w) = (.ok (), (t, w'))) :
    (restart e plan none running).run w
      = (.ok ((), .began { running with statement := t, exhausted := false }), w') := by
  have hholding : (Action.holding running.statement e.reset).run w = (.ok ((), t), w') := by
    rw [Action.run_holding, hreset]
  rw [restart, Action.run_bind_of_ok _ hholding]
  rfl

/-- A scan goes on from the rewound statement with the parameters that it has. -/
lemma restart_none_run_eq_ok {plan : ScanPlan} {state : ScanState τ}
    (h : (restart e plan none running).run w = (.ok ((), state), w')) :
    ∃ t, e.reset.run (running.statement, w) = (.ok (), (t, w'))
      ∧ state = .began { running with statement := t, exhausted := false } := by
  obtain ⟨⟨_, t⟩, w₁, hreset, h⟩ := Action.run_bind_eq_ok h
  cases h
  exact ⟨t, Action.run_holding_eq_ok hreset, rfl⟩

/-- Other parameters have been put in the place of the old ones if they have been evaluated behind
the rewinding, and bound on the cleared statement. -/
lemma restart_some_run_eq_ok {plan : ScanPlan} {evaluator : Evaluator σ} {state : ScanState τ}
    (h : (restart e plan (some evaluator) running).run w = (.ok ((), state), w')) :
    ∃ t w₁ ps w₂ t₁ w₃ t', e.reset.run (running.statement, w) = (.ok (), (t, w₁))
      ∧ (evaluate plan (some evaluator)).run w₁ = (.ok ps, w₂)
      ∧ e.clearBindings.run (t, w₂) = (.ok (), (t₁, w₃))
      ∧ (bindParams e.bind ps).run (t₁, w₃) = (.ok (), (t', w'))
      ∧ state = .began { statement := t', params := ps, exhausted := false } := by
  obtain ⟨⟨_, t⟩, w₁, hreset, h⟩ := Action.run_bind_eq_ok h
  obtain ⟨running', w₄, hrebind, h⟩ := Action.run_bind_eq_ok h
  cases h
  obtain ⟨ps, w₂, hevaluate, hrebind⟩ := Action.run_bind_eq_ok hrebind
  obtain ⟨⟨_, t'⟩, w₅, hholding, hrebind⟩ := Action.run_bind_eq_ok hrebind
  cases hrebind
  obtain ⟨_, ⟨t₁, w₃⟩, hclear, hbind⟩ :=
    Action.run_bind_eq_ok (Action.run_holding_eq_ok hholding)
  exact ⟨t, w₁, ps, w₂, t₁, w₃, t', Action.run_holding_eq_ok hreset, hevaluate, hclear, hbind, rfl⟩

/-- A rescan that succeeds leads to the beginning. -/
lemma exists_began_of_restart {plan : ScanPlan} {params : Option (Evaluator σ)}
    {running : RunningScan τ} {w w' : σ} {state : ScanState τ}
    (h : (restart e plan params running).run w = (.ok ((), state), w')) :
    ∃ running', state = .began running' := by
  cases params with
  | none =>
    obtain ⟨t, -, rfl⟩ := restart_none_run_eq_ok h
    exact ⟨_, rfl⟩
  | some evaluator =>
    obtain ⟨t, w₁, ps, w₂, t₁, w₃, t', -, -, -, -, rfl⟩ := restart_some_run_eq_ok h
    exact ⟨_, rfl⟩

end ForeignScan

end ForeignData
