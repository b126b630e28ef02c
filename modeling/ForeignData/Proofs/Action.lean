import ForeignData.Engine
import Mathlib.Tactic.Lemma

/-!
# Runs of actions

How actions run one after the other, and what a successful run says of the steps that it is made of.
-/

namespace ForeignData

namespace Action

variable {σ τ α β : Type}

/-! ### One action after the other -/

@[simp] lemma run_ofExcept (result : Except Fault α) (s : σ) :
    (ofExcept result).run s = (result, s) := rfl

/-- The state is what the rest of an action gets to see. -/
lemma run_get_bind (f : σ → Action σ β) (s : σ) :
    ((get : Action σ σ) >>= f).run s = (f s).run s := rfl

lemma run_bind (x : Action σ α) (f : α → Action σ β) (s : σ) :
    (x >>= f).run s = match x.run s with
      | (.ok a, s) => (f a).run s
      | (.error fault, s) => (.error fault, s) := by
  change ExceptT.run (ExceptT.bind x f) s = match ExceptT.run x s with
    | (.ok a, s) => ExceptT.run (f a) s
    | (.error fault, s) => (.error fault, s)
  simp only [ExceptT.run, ExceptT.bind, ExceptT.mk, bind, StateT.bind]
  cases x s with
  | mk result s => cases result <;> rfl

lemma run_bind_of_ok {x : Action σ α} (f : α → Action σ β) {s s₁ : σ} {a : α}
    (h : x.run s = (.ok a, s₁)) : (x >>= f).run s = (f a).run s₁ := by
  rw [run_bind, h]

lemma run_bind_of_error {x : Action σ α} (f : α → Action σ β) {s s₁ : σ} {fault : Fault}
    (h : x.run s = (.error fault, s₁)) : (x >>= f).run s = (.error fault, s₁) := by
  rw [run_bind, h]

lemma run_bind_pure (x : Action σ α) (f : α → β) (s : σ) :
    (x >>= fun a => pure (f a)).run s = ((x.run s).1.map f, (x.run s).2) := by
  rw [run_bind]
  rcases x.run s with ⟨_ | _, _⟩ <;> rfl

/-- An action with another behind it has succeeded if both have. -/
lemma run_bind_eq_ok {x : Action σ α} {f : α → Action σ β} {s s' : σ} {b : β}
    (h : (x >>= f).run s = (.ok b, s')) :
    ∃ a s₁, x.run s = (.ok a, s₁) ∧ (f a).run s₁ = (.ok b, s') := by
  match hx : x.run s with
  | (.ok a, s₁) =>
    rw [run_bind_of_ok f hx] at h
    exact ⟨a, s₁, rfl, h⟩
  | (.error fault, s₁) =>
    rw [run_bind_of_error f hx] at h
    cases h

/-- An action with another behind it has failed if one of them has. -/
lemma run_bind_eq_error {x : Action σ α} {f : α → Action σ β} {s s' : σ} {fault : Fault}
    (h : (x >>= f).run s = (.error fault, s')) :
    x.run s = (.error fault, s')
      ∨ ∃ a s₁, x.run s = (.ok a, s₁) ∧ (f a).run s₁ = (.error fault, s') := by
  match hx : x.run s with
  | (.ok a, s₁) =>
    rw [run_bind_of_ok f hx] at h
    exact .inr ⟨a, s₁, rfl, h⟩
  | (.error fault', s₁) =>
    rw [run_bind_of_error f hx] at h
    cases h
    exact .inl rfl

/-! ### Traces -/

/-- Do what an action does, and list what it is asked for behind its result. -/
def traced (asked : β) (action : Action σ α) : Action (σ × List (Except Fault α × β)) α :=
  fun (s, trace) =>
    let (result, s) := action.run s
    (result, (s, trace ++ [(result, asked)]))

/-! ### Held statements -/

lemma run_holding (t : τ) (action : Action (τ × σ) α) (s : σ) :
    (holding t action).run s = match action.run (t, s) with
      | (.ok a, (t, s)) => (.ok (a, t), s)
      | (.error fault, (_, s)) => (.error fault, s) := rfl

/-- An action on a held statement has succeeded if it has on the statement. -/
lemma run_holding_eq_ok {action : Action (τ × σ) α} {t t' : τ} {s s' : σ} {a : α}
    (h : (holding t action).run s = (.ok (a, t'), s')) :
    action.run (t, s) = (.ok a, (t', s')) := by
  rw [run_holding] at h
  split at h
  case h_1 heq =>
    cases h
    exact heq
  case h_2 => cases h

end Action

/-! ### Rows -/

namespace Engine

/-- A statement is stepped over some rows to the end. -/
inductive StepsToEnd {σ κ τ : Type} (e : Engine σ κ τ) :
    τ × σ → List ResultRow → τ × σ → Prop
  | done {s s' : τ × σ} (hstep : e.step.run s = (.ok .done, s')) : StepsToEnd e s [] s'
  | row {s s' s'' : τ × σ} {rows : List ResultRow} (hstep : e.step.run s = (.ok .row, s'))
    (hrest : StepsToEnd e s' rows s'') : StepsToEnd e s (e.row s'.1 :: rows) s''

variable {σ κ τ : Type} {e : Engine σ κ τ} {s s' : τ × σ}

lemma run_takeRows_of_row (hstep : e.step.run s = (.ok .row, s')) (n : Nat) :
    (e.takeRows (n + 1)).run s
      = (((e.takeRows n).run s').1.map (e.row s'.1 :: ·), ((e.takeRows n).run s').2) := by
  rw [takeRows, Action.run_bind_of_ok _ hstep]
  change (get >>= fun s => e.takeRows n >>= fun rows => pure (e.row s.1 :: rows)
    : Action _ _).run s' = _
  rw [Action.run_get_bind, Action.run_bind_pure]

lemma run_takeRows_of_done (hstep : e.step.run s = (.ok .done, s')) (n : Nat) :
    (e.takeRows (n + 1)).run s = (.ok [], s') := by
  rw [takeRows, Action.run_bind_of_ok _ hstep]
  rfl

lemma run_takeRows_of_fault {fault : Fault} (hstep : e.step.run s = (.error fault, s'))
    (n : Nat) : (e.takeRows (n + 1)).run s = (.error fault, s') := by
  rw [takeRows, Action.run_bind_of_error _ hstep]

lemma stepsToEnd_of_takeRows {n : Nat} {rows : List ResultRow}
    (h : (e.takeRows n).run s = (.ok rows, s')) : e.StepsToEnd s rows s' := by
  induction n generalizing s rows with
  | zero => cases h
  | succ n ih =>
    rcases hstep : e.step.run s with ⟨fault | _ | _, s₁⟩
    · cases (run_takeRows_of_fault hstep n).symm.trans h
    · rw [run_takeRows_of_row hstep] at h
      rcases hrest : (e.takeRows n).run s₁ with ⟨fault | rest, s₂⟩ <;> rw [hrest] at h <;> cases h
      exact .row hstep (ih hrest)
    · cases (run_takeRows_of_done hstep n).symm.trans h
      exact .done hstep

end Engine
end ForeignData
