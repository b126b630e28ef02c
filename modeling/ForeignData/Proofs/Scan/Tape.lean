import ForeignData.Proofs.Stored.Parameter

/-!
# Statements with fixed rows

An engine whose statements give, for each choice of values for their placeholders, rows that are
fixed beforehand, possibly broken off by a fault. A statement starts over if it is stepped past its
end, keeps its values when it is rewound, and takes no other values while it stands on a row.
-/

namespace ForeignData

/-- The rows that a statement gives, and the fault that breaks them off if there is one. -/
structure Answer where
  rows : List ResultRow
  fault : Option Fault

/-- An engine with fixed rows. Opening and preparing may fail, and do what they like to the
world. -/
structure Tape (σ : Type) where
  connect : OpenMode → (path : String) → Action σ Unit
  prepare : (path query : String) → Action σ Unit
  placeholders : (path query : String) → Nat
  width : (path query : String) → Nat
  answer : (path query : String) → (Nat → BoundValue) → Answer

namespace Tape

/-- A statement of an engine with fixed rows. -/
structure Statement where
  path : String
  query : String
  bindings : Nat → BoundValue
  /-- What is still to come, from the first step on. -/
  rest : Option Answer
  row : ResultRow
  /-- The number of steps since the statement was last rewound. -/
  steps : Nat

/-- A statement that has not been stepped and has no values yet. -/
def Statement.fresh (path query : String) : Statement :=
  { path, query, bindings := fun _ => .null, rest := none, row := [], steps := 0 }

/-- Give a placeholder its value. -/
def Statement.bind (t : Statement) (call : BindCall) : Statement :=
  { t with bindings := fun i => if i = call.index then call.value else t.bindings i }

/-- Put a statement on a row, with what comes behind it. -/
def Statement.stand (t : Statement) (row : ResultRow) (rest : Answer) : Statement :=
  { t with rest := some rest, row, steps := t.steps + 1 }

/-- Step a statement past its end. -/
def Statement.pass (t : Statement) : Statement :=
  { t with rest := none, row := [], steps := t.steps + 1 }

/-- Rewind a statement. It keeps its values. -/
def Statement.rewind (t : Statement) : Statement :=
  { t with rest := none, row := [], steps := 0 }

variable {σ : Type} (tape : Tape σ)

/-- What is still to come of a statement. -/
def remaining (t : Statement) : Answer :=
  t.rest.getD (tape.answer t.path t.query t.bindings)

def step (t : Statement) : Except Fault StepResult × Statement :=
  match tape.remaining t with
  | ⟨row :: rows, fault⟩ => (.ok .row, t.stand row ⟨rows, fault⟩)
  | ⟨[], none⟩ => (.ok .done, t.pass)
  | ⟨[], some fault⟩ => (.error fault, t.pass)

def engine : Engine σ String Statement where
  connect mode path := do
    tape.connect mode path
    return path
  prepare path query := do
    tape.prepare path query
    return .fresh path query
  bind call := fun (t, s) =>
    if t.steps = 0 ∧ 0 < call.index ∧ call.index ≤ tape.placeholders t.path t.query then
      (.ok (), (t.bind call, s))
    else
      (.error (.bindFailed (natString call.index)), (t, s))
  clearBindings := fun (t, s) => (.ok (), ({ t with bindings := fun _ => .null }, s))
  step := fun (t, s) => ((tape.step t).1, ((tape.step t).2, s))
  reset := fun (t, s) => (.ok (), (t.rewind, s))
  width t := tape.width t.path t.query
  row t := t.row
  changes _ := 0
  estimate t := .error (.noEstimate t.query)
  rowsLeft := fun (t, _) => (tape.remaining t).rows.length
  besides _ s := s

/-! ### Stepping a tape -/

section Step

variable {tape} {t : Statement} {rows : List ResultRow} {row : ResultRow}

lemma step_row {fault : Option Fault} (h : tape.remaining t = ⟨row :: rows, fault⟩) (s : σ) :
    tape.engine.step.run (t, s) = (.ok .row, (t.stand row ⟨rows, fault⟩, s)) := by
  change ((tape.step t).1, ((tape.step t).2, s)) = _
  rw [step, h]

lemma step_done (h : tape.remaining t = ⟨[], none⟩) (s : σ) :
    tape.engine.step.run (t, s) = (.ok .done, (t.pass, s)) := by
  change ((tape.step t).1, ((tape.step t).2, s)) = _
  rw [step, h]

lemma step_fault {fault : Fault} (h : tape.remaining t = ⟨[], some fault⟩) (s : σ) :
    tape.engine.step.run (t, s) = (.error fault, (t.pass, s)) := by
  change ((tape.step t).1, ((tape.step t).2, s)) = _
  rw [step, h]

end Step

/-! ### Binding on a tape -/

lemma bind_run_eq_ok {call : BindCall} {t t' : Statement} {s s' : σ}
    (h : (tape.engine.bind call).run (t, s) = (.ok (), (t', s'))) : t' = t.bind call ∧ s' = s := by
  change (if t.steps = 0 ∧ 0 < call.index ∧ call.index ≤ tape.placeholders t.path t.query then
    (Except.ok (), (t.bind call, s)) else _) = _ at h
  split at h
  · cases h
    exact ⟨rfl, rfl⟩
  · cases h

/-- Binding parameters changes the values of their placeholders, and nothing else. -/
lemma bindParams_run_eq_ok {params : List Param} (hindex : (params.map Param.index).Nodup)
    {t t' : Statement} {s s' : σ}
    (h : (bindParams tape.engine.bind params).run (t, s) = (.ok (), (t', s'))) :
    s' = s ∧ t' = { t with bindings := t'.bindings }
      ∧ (∀ p ∈ params, p.call = .ok ⟨p.index, t'.bindings p.index⟩)
      ∧ ∀ i, i ∉ params.map Param.index → t'.bindings i = t.bindings i := by
  induction params generalizing t s with
  | nil =>
    cases h
    exact ⟨rfl, rfl, by simp, by simp⟩
  | cons p params ih =>
    obtain ⟨_, ⟨t₁, s₁⟩, hp, hps⟩ := Action.run_bind_eq_ok h
    obtain ⟨value, hcall, hbind⟩ := bindParam_run_eq_ok hp
    obtain ⟨rfl, rfl⟩ := tape.bind_run_eq_ok hbind
    rw [List.map_cons, List.nodup_cons] at hindex
    obtain ⟨rfl, hframe, hbound, hunbound⟩ := ih hindex.2 hps
    -- the indices differ, so that what is bound later leaves this value alone
    have hself : t'.bindings p.index = value := by
      rw [hunbound p.index hindex.1]
      exact if_pos rfl
    refine ⟨rfl, hframe, ?_, fun i hi => ?_⟩
    · intro q hq
      rcases List.mem_cons.1 hq with rfl | hq
      · rw [hcall, hself]
      · exact hbound q hq
    · rw [List.map_cons, List.mem_cons, not_or] at hi
      rw [hunbound i hi.2]
      exact if_neg hi.1

/-- Parameters that are bound on a statement without values are its values. -/
lemma binds_of_bindParams {params : List Param} {n : Nat}
    (hindex : params.map Param.index = List.range' 1 n) {t t' : Statement}
    (hbindings : t.bindings = fun _ => .null) {s s' : σ}
    (h : (bindParams tape.engine.bind params).run (t, s) = (.ok (), (t', s'))) :
    s' = s ∧ t' = { t with bindings := t'.bindings } ∧ Binds t'.bindings params := by
  have hnodup : (params.map Param.index).Nodup := by
    rw [hindex]
    exact List.nodup_range'
  obtain ⟨hs, hframe, hbound, hunbound⟩ := tape.bindParams_run_eq_ok hnodup h
  refine ⟨hs, hframe, hbound, fun i hi => ?_⟩
  rw [hunbound i hi, hbindings]

end Tape

end ForeignData
