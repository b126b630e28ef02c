import ForeignData.Change.Basic
import ForeignData.Proofs.Action
import ForeignData.Proofs.Change.Targets
import ForeignData.Proofs.Stored.Parameter

/-!
# Steps of a change

What each call on a change does, on any engine. Between its calls a change holds the statement that
it has opened at its beginning, as the runs have left it, or has ended. So what each run keeps of a
statement is kept in all calls on the change.
-/

namespace ForeignData

namespace ForeignChange

variable {σ κ τ : Type} {e : Engine σ κ τ} {change : ForeignChange τ} {t t' : τ} {w w' : σ}
  {params : List Param}

/-! ### Making -/

lemma new_eq_ok {plan : ChangePlan} {table : HostTable} {source : TableSource}
    (h : new plan table source = .ok change) :
    ∃ targets, targetsOf table plan.mutation.targets = .ok targets
      ∧ change = ⟨plan, source, targets, .planned⟩ := by
  rw [new] at h
  cases htargets : targetsOf table plan.mutation.targets with
  | error fault =>
    rw [htargets] at h
    cases h
  | ok targets =>
    rw [htargets] at h
    cases h
    exact ⟨targets, rfl, rfl⟩

lemma targetParams_eq_error {row : HostRow} {index : Nat} {targets : List (Nat × HostType)}
    {fault : Fault} (h : targetParams row index targets = .error fault) :
    ∃ place, fault = .misuse (.missingValue place) := by
  induction targets generalizing index with
  | nil => cases h
  | cons target targets ih =>
    obtain ⟨place, type⟩ := target
    rw [targetParams] at h
    cases hvalue : row[place]? with
    | none =>
      rw [hvalue] at h
      cases h
      exact ⟨place, rfl⟩
    | some value =>
      simp only [hvalue] at h
      cases hrest : targetParams row (index + 1) targets with
      | error fault' =>
        rw [hrest] at h
        cases h
        exact ih hrest
      | ok rest =>
        rw [hrest] at h
        cases h

/-! ### Moving -/

lemma moving_run {α : Type} (action : Action σ (α × τ)) (change : ForeignChange τ) (w : σ) :
    (moving action).run (change, w) = match action.run w with
      | (.ok (a, statement), w) => (.ok a, ({ change with state := .began statement }, w))
      | (.error fault, w) => (.error fault, ({ change with state := .ended }, w)) := rfl

lemma executeRow_run_of_ok (h : change.state = .began t) {count : Nat}
    (hrun : (runOnce e params).run (t, w) = (.ok count, (t', w'))) (row : HostRow) :
    (executeRow e params row).run (change, w)
      = (.ok (if count > 0 then some row else none), ({ change with state := .began t' }, w')) := by
  have hheld : (Action.holding t (runOnce e params)).run w = (.ok (count, t'), w') := by
    rw [Action.run_holding, hrun]
  have hexecute : (execute e params).run (change, w)
      = (.ok count, ({ change with state := .began t' }, w')) := by
    rw [execute, Action.run_get_bind]
    simp only [h]
    rw [moving_run, hheld]
  rw [executeRow, Action.run_bind_of_ok _ hexecute]
  rfl

lemma executeRow_run_of_error (h : change.state = .began t) {fault : Fault}
    (hrun : (runOnce e params).run (t, w) = (.error fault, (t', w'))) (row : HostRow) :
    (executeRow e params row).run (change, w)
      = (.error fault, ({ change with state := .ended }, w')) := by
  have hheld : (Action.holding t (runOnce e params)).run w = (.error fault, w') := by
    rw [Action.run_holding, hrun]
  have hexecute : (execute e params).run (change, w)
      = (.error fault, ({ change with state := .ended }, w')) := by
    rw [execute, Action.run_get_bind]
    simp only [h]
    rw [moving_run, hheld]
  rw [executeRow, Action.run_bind_of_error _ hexecute]

/-- A change that holds no statement refuses to run, and stays as it is. -/
lemma executeRow_run_of_not_began (h : ∀ t, change.state ≠ .began t) (row : HostRow) :
    (executeRow e params row).run (change, w)
      = (.error (.misuse .changeNotRunning), (change, w)) := by
  have hexecute : (execute e params).run (change, w)
      = (.error (.misuse .changeNotRunning), (change, w)) := by
    rw [execute, Action.run_get_bind]
    cases hstate : change.state with
    | began t => exact absurd hstate (h t)
    | planned | ended => rfl
  rw [executeRow, Action.run_bind_of_error _ hexecute]

/-- A run has succeeded if it has bound its parameters, has stepped to the end and has rewound. It
gives the number of rows that the engine says are changed by then. -/
lemma runOnce_run_eq_ok {count : Nat} (h : (runOnce e params).run (t, w) = (.ok count, (t', w'))) :
    ∃ bound rows t₁ w₁, BindsAll e.bind (t, w) params bound ∧ e.StepsToEnd bound rows (t₁, w₁)
      ∧ e.reset.run (t₁, w₁) = (.ok (), (t', w')) ∧ count = e.changes t₁ := by
  obtain ⟨_, bound, hbind, h⟩ := Action.run_bind_eq_ok h
  obtain ⟨rows, ⟨t₁, w₁⟩, hrows, h⟩ := Action.run_bind_eq_ok h
  rw [Action.run_get_bind] at h
  obtain ⟨_, s', hreset, h⟩ := Action.run_bind_eq_ok h
  cases h
  rw [Engine.allRows, Action.run_get_bind] at hrows
  exact ⟨bound, rows, t₁, w₁, bindsAll_of_bindParams hbind, Engine.stepsToEnd_of_takeRows hrows,
    hreset, rfl⟩

/-- The statement has been run for a row if the change holds it, and the change holds what the run
has left of it. -/
lemma executeRow_run_eq_ok {row : HostRow} {result : Option HostRow} {s : ForeignChange τ × σ}
    (h : (executeRow e params row).run (change, w) = (.ok result, s)) :
    ∃ t t' count, change.state = .began t
      ∧ (runOnce e params).run (t, w) = (.ok count, (t', s.2))
      ∧ s.1 = { change with state := .began t' }
      ∧ result = if count > 0 then some row else none := by
  by_cases hbegan : ∃ t, change.state = .began t
  · obtain ⟨t, hstate⟩ := hbegan
    rcases hrun : (runOnce e params).run (t, w) with ⟨fault | count, t', w'⟩
    · rw [executeRow_run_of_error hstate hrun] at h
      cases h
    · rw [executeRow_run_of_ok hstate hrun] at h
      cases h
      exact ⟨t, t', count, hstate, hrun, rfl, rfl⟩
  · rw [executeRow_run_of_not_began (fun t hstate => hbegan ⟨t, hstate⟩)] at h
    cases h

lemma executeRow_run_eq_error {row : HostRow} {fault : Fault} {s : ForeignChange τ × σ}
    (hactive : change.isActive = true)
    (h : (executeRow e params row).run (change, w) = (.error fault, s)) :
    s.1 = { change with state := .ended } := by
  obtain ⟨t, hstate⟩ : ∃ t, change.state = .began t := by
    cases hstate : change.state with
    | began t => exact ⟨t, rfl⟩
    | planned | ended =>
      rw [isActive, statement?, hstate] at hactive
      cases hactive
  rcases hrun : (runOnce e params).run (t, w) with ⟨fault' | count, t', w'⟩
  · rw [executeRow_run_of_error hstate hrun] at h
    cases h
    rfl
  · rw [executeRow_run_of_ok hstate hrun] at h
    cases h

/-! ### The beginning -/

def opened (e : Engine σ κ τ) (change : ForeignChange τ) : Action σ τ := do
  let connection ← e.connect .readWrite change.source.database
  e.prepare connection change.plan.query

lemma begin_run_of_planned (h : change.state = .planned) :
    (begin e false).run (change, w) = (moving do
      let connection ← e.connect .readWrite change.source.database
      return ((), ← e.prepare connection change.plan.query)).run (change, w) := by
  rw [begin, Action.run_get_bind]
  simp only [h]
  rfl

lemma begin_run_of_explainOnly (h : change.state = .planned) :
    (begin e true).run (change, w) = (.ok (), (change, w)) := by
  rw [begin, Action.run_get_bind]
  simp only [h]
  rfl

lemma begin_run_of_not_planned (h : change.state ≠ .planned) (explainOnly : Bool) :
    (begin e explainOnly).run (change, w)
      = (.error (.misuse .changeAlreadyBegan), (change, w)) := by
  rw [begin, Action.run_get_bind]
  cases hstate : change.state with
  | planned => exact absurd hstate h
  | began t | ended =>
    simp only [hstate]
    rfl

/-- A change whose statement has been opened has begun, and holds it. -/
lemma begin_run_of_opened (hplanned : change.state = .planned)
    (h : (opened e change).run w = (.ok t, w')) :
    (begin e false).run (change, w) = (.ok (), ({ change with state := .began t }, w')) := by
  obtain ⟨connection, w₁, hconnect, hprepare⟩ := Action.run_bind_eq_ok h
  have haction : (do
      let connection ← e.connect .readWrite change.source.database
      return ((), ← e.prepare connection change.plan.query)).run w = (.ok ((), t), w') := by
    rw [Action.run_bind_of_ok _ hconnect, Action.run_bind_of_ok _ hprepare]
    rfl
  rw [begin_run_of_planned hplanned, moving_run, haction]

/-! ### Operations -/

/-- An operation runs the statement with some parameters, or fails with nothing done. -/
lemma operation_run_cases (e : Engine σ κ τ) (m : Mutation) (rowid : Int64) (row : HostRow)
    (change : ForeignChange τ) (w : σ) :
    (∃ params, (m.operation e rowid row).run (change, w)
        = (executeRow e params row).run (change, w))
      ∨ ∃ fault, (m.operation e rowid row).run (change, w) = (.error fault, (change, w)) := by
  cases m with
  | insert _ =>
    change (∃ params, (insert e row).run (change, w) = _) ∨ ∃ fault, (insert e row).run _ = _
    rw [insert, Action.run_get_bind]
    cases hmutation : change.plan.mutation with
    | insert _ =>
      simp only [hmutation]
      rw [Action.run_bind, Action.run_ofExcept]
      cases targetParams row 1 change.targets with
      | error fault => exact .inr ⟨fault, rfl⟩
      | ok params => exact .inl ⟨params, rfl⟩
    | update _ | delete =>
      simp only [hmutation]
      exact .inr ⟨_, rfl⟩
  | update _ =>
    change (∃ params, (update e rowid row).run (change, w) = _)
      ∨ ∃ fault, (update e rowid row).run _ = _
    rw [update, Action.run_get_bind]
    cases hmutation : change.plan.mutation with
    | update _ =>
      simp only [hmutation]
      rw [Action.run_bind, Action.run_ofExcept]
      cases targetParams row 1 change.targets with
      | error fault => exact .inr ⟨fault, rfl⟩
      | ok params => exact .inl ⟨params ++ [rowidParam (params.length + 1) rowid], rfl⟩
    | insert _ | delete =>
      simp only [hmutation]
      exact .inr ⟨_, rfl⟩
  | delete =>
    change (∃ params, (delete e rowid row).run (change, w) = _)
      ∨ ∃ fault, (delete e rowid row).run _ = _
    rw [delete, Action.run_get_bind]
    cases hmutation : change.plan.mutation with
    | delete => exact .inl ⟨[rowidParam 1 rowid], rfl⟩
    | insert _ | update _ => exact .inr ⟨_, rfl⟩

/-! ### Runs -/

variable {P : τ → Prop} {w₀ : σ}

/-- What a change may come to through any calls, once it has opened a statement in some world.
Between the calls the world may change. -/
inductive Runs (e : Engine σ κ τ) (change : ForeignChange τ) (t : τ) (w₀ : σ) :
    ForeignChange τ × σ → Prop
  | begin {w : σ} (hplanned : change.state = .planned)
      (hopened : (opened e change).run w = (.ok t, w₀)) :
      Runs e change t w₀ ((begin e false).run (change, w)).2
  | operate {s : ForeignChange τ × σ} (m : Mutation) (rowid : Int64) (row : HostRow)
      (h : Runs e change t w₀ s) : Runs e change t w₀ ((m.operation e rowid row).run s).2
  | finish {change' : ForeignChange τ} {w : σ} (h : Runs e change t w₀ (change', w)) :
      Runs e change t w₀ (change'.finish, w)
  | elsewhere {change' : ForeignChange τ} {w w' : σ} (h : Runs e change t w₀ (change', w)) :
      Runs e change t w₀ (change', w')

/-- A change that differs from another in its state only, and holds a statement of which something
holds, if it holds one. -/
structure Holds (P : τ → Prop) (change change' : ForeignChange τ) : Prop where
  same : change' = { change with state := change'.state }
  statement : ∀ t, change'.statement? = some t → P t

/-- What holds of a statement holds of it still when a run of it has succeeded. -/
def RunsKeep (e : Engine σ κ τ) (P : τ → Prop) : Prop :=
  ∀ params t w count t' w', P t → (runOnce e params).run (t, w) = (.ok count, (t', w')) → P t'

lemma Holds.executeRow {change' : ForeignChange τ} (h : Holds P change change')
    (hP : RunsKeep e P) (params : List Param) (row : HostRow) (w : σ) :
    Holds P change ((ForeignChange.executeRow e params row).run (change', w)).2.1 := by
  by_cases hbegan : ∃ t, change'.state = .began t
  · obtain ⟨t, hstate⟩ := hbegan
    have ht : P t := h.statement t (by rw [statement?, hstate])
    match hrun : (runOnce e params).run (t, w) with
    | (.ok count, (t', w')) =>
      rw [executeRow_run_of_ok hstate hrun row]
      refine ⟨by rw [h.same], ?_⟩
      rintro t ⟨⟩
      exact hP params _ w count _ w' ht hrun
    | (.error fault, (t', w')) =>
      rw [executeRow_run_of_error hstate hrun row]
      exact ⟨by rw [h.same], nofun⟩
  · rw [executeRow_run_of_not_began (fun t hstate => hbegan ⟨t, hstate⟩) row]
    exact h

/-- Whatever calls are made on a change, what runs keep is true of the statement that it holds. -/
lemma holds_of_runs {s : ForeignChange τ × σ} (hP : RunsKeep e P) (ht : P t)
    (h : Runs e change t w₀ s) : Holds P change s.1 := by
  induction h with
  | begin hplanned hopened =>
    rw [begin_run_of_opened hplanned hopened]
    refine ⟨rfl, ?_⟩
    rintro t ⟨⟩
    exact ht
  | @operate s m rowid row _ ih =>
    obtain ⟨change', w⟩ := s
    rcases operation_run_cases e m rowid row change' w with ⟨params, hrun⟩ | ⟨fault, hrun⟩
    · rw [hrun]
      exact ih.executeRow hP params row w
    · rw [hrun]
      exact ih
  | finish _ ih => exact ⟨(congrArg ForeignChange.finish ih.same :), nofun⟩
  | elsewhere _ ih => exact ih

lemma exists_opened_of_runs {s : ForeignChange τ × σ} (h : Runs e change t w₀ s) :
    ∃ w, (opened e change).run w = (.ok t, w₀) := by
  induction h with
  | begin _ hopened => exact ⟨_, hopened⟩
  | operate _ _ _ _ ih => exact ih
  | finish _ ih => exact ih
  | elsewhere _ ih => exact ih

end ForeignChange

end ForeignData
