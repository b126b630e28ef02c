import ForeignData.Proofs.Scan.Parameters
import ForeignData.Proofs.Scan.Steps
import ForeignData.Proofs.Stored.Parameter

/-!
# What a scan keeps of its statement

A scan holds one statement from its beginning to its end. What an engine keeps of a statement in all
that it does with it, a scan keeps of its statement in all calls on the scan.
-/

namespace ForeignData

namespace Engine

variable {σ κ τ : Type} {e : Engine σ κ τ} {P : τ → Prop}

/-- What holds of a statement holds of it still, whatever the engine has done with it. -/
structure Keeps (e : Engine σ κ τ) (P : τ → Prop) : Prop where
  bind : ∀ call t w, P t → P ((e.bind call).run (t, w)).2.1
  clearBindings : ∀ t w, P t → P (e.clearBindings.run (t, w)).2.1
  step : ∀ t w, P t → P (e.step.run (t, w)).2.1
  reset : ∀ t w, P t → P (e.reset.run (t, w)).2.1

lemma Keeps.bindParams (h : e.Keeps P) (params : List Param) {t : τ} (ht : P t) (w : σ) :
    P ((ForeignData.bindParams e.bind params).run (t, w)).2.1 :=
  bindParams_keeps (P := fun s : τ × σ => P s.1) (fun call s => h.bind call s.1 s.2) params ht

end Engine

namespace ForeignScan

variable {σ κ τ : Type} {e : Engine σ κ τ} {scan scan' : ForeignScan τ} {P : τ → Prop} {t : τ}
  {w w₀ : σ}

/-- What a scan may come to through any calls, once it has opened a statement in some world. Between
the calls the world may change. -/
inductive Runs (e : Engine σ κ τ) (scan : ForeignScan τ) (t : τ) (w₀ : σ) :
    ForeignScan τ × σ → Prop
  | begin {params : Option (Evaluator σ)} {w : σ} (hplanned : scan.state = .planned)
      (hopened : (scan.opened e).run w = (.ok t, w₀)) :
      Runs e scan t w₀ ((begin e params false).run (scan, w)).2
  | iterate {s : ForeignScan τ × σ} (h : Runs e scan t w₀ s) :
      Runs e scan t w₀ ((iterate e).run s).2
  | rescan {params : Option (Evaluator σ)} {s : ForeignScan τ × σ} (h : Runs e scan t w₀ s) :
      Runs e scan t w₀ ((rescan e params).run s).2
  | elsewhere {scan' : ForeignScan τ} {w w' : σ} (h : Runs e scan t w₀ (scan', w)) :
      Runs e scan t w₀ (scan', w')

/-- A scan that differs from another in its state only, and holds a statement of which something
holds, if it holds one. -/
structure Holds (P : τ → Prop) (scan scan' : ForeignScan τ) : Prop where
  same : scan' = { scan with state := scan'.state }
  statement : ∀ t, scan'.statement? = some t → P t

lemma holds_of_running? (hsame : scan' = { scan with state := scan'.state }) {state : ScanState τ}
    (hstate : ∀ running, state.running? = some running → P running.statement) :
    Holds P scan { scan' with state } := by
  constructor
  · rw [hsame]
  · intro t ht
    obtain ⟨running, hrunning, rfl⟩ := Option.map_eq_some_iff.1 ht
    exact hstate running hrunning

/-- A move leads to a state that its action has come to, or to the end. -/
lemma holds_moving {α : Type} (hsame : scan' = { scan with state := scan'.state })
    {action : Action σ (α × ScanState τ)} (haction : ∀ a state w',
      action.run w = (.ok (a, state), w') →
        ∀ running, state.running? = some running → P running.statement) :
    Holds P scan ((moving action).run (scan', w)).2.1 := by
  rw [moving_run]
  match h : action.run w with
  | (.ok (a, state), w') => exact holds_of_running? hsame (haction a state w' h)
  | (.error fault, w') => exact holds_of_running? hsame nofun

lemma holds_begin (hP : e.Keeps P) (ht : P t) (hplanned : scan.state = .planned)
    (hopened : (scan.opened e).run w = (.ok t, w₀)) (params : Option (Evaluator σ)) :
    Holds P scan ((begin e params false).run (scan, w)).2.1 := by
  rw [begin_run_of_planned hplanned]
  refine holds_moving rfl fun _ state w' hstart => ?_
  obtain ⟨t', w₁, ps, w₂, t'', hopened', -, hbind, rfl⟩ := start_run_eq_ok hstart
  rw [hopened] at hopened'
  cases hopened'
  have hbound := hP.bindParams ps ht w₂
  rw [hbind] at hbound
  rintro running ⟨⟩
  exact hbound

namespace Holds

variable (h : Holds P scan scan')

include h

lemma iterate (hP : e.Keeps P) (w : σ) :
    Holds P scan ((ForeignScan.iterate e).run (scan', w)).2.1 := by
  cases hrunning : scan'.state.running? with
  | none =>
    cases hstate : scan'.state with
    | began running | iterating running =>
      rw [hstate] at hrunning
      cases hrunning
    | ended =>
      rw [iterate_run_of_ended hstate]
      exact h
    | planned =>
      rw [iterate_run_of_planned hstate]
      exact h
  | some running =>
    have ht : P running.statement :=
      h.statement _ (by rw [statement?, hrunning, Option.map_some])
    rw [iterate_run_of_running hrunning]
    refine holds_moving h.same fun result state w' hadvance => ?_
    obtain ⟨running', rfl, hadvances⟩ := advances_of_run hadvance
    rintro _ ⟨⟩
    cases hadvances with
    | exhausted => exact ht
    | done hstep | row hstep hrow =>
      have hkept := hP.step running.statement w ht
      rw [hstep] at hkept
      exact hkept

lemma rescan (hP : e.Keeps P) (params : Option (Evaluator σ)) (w : σ) :
    Holds P scan ((ForeignScan.rescan e params).run (scan', w)).2.1 := by
  cases hrunning : scan'.state.running? with
  | none =>
    rw [rescan_run_of_not_running hrunning]
    exact h
  | some running =>
    have ht : P running.statement :=
      h.statement _ (by rw [statement?, hrunning, Option.map_some])
    rw [rescan_run_of_running hrunning]
    refine holds_moving h.same fun _ state w' hrestart => ?_
    have hreset := hP.reset running.statement w ht
    cases params with
    | none =>
      obtain ⟨t', hrun, rfl⟩ := restart_none_run_eq_ok hrestart
      rw [hrun] at hreset
      rintro running ⟨⟩
      exact hreset
    | some evaluator =>
      obtain ⟨t', w₁, ps, w₂, t₁, w₃, t'', hrun, -, hclear, hbind, rfl⟩ :=
        restart_some_run_eq_ok hrestart
      rw [hrun] at hreset
      have hcleared := hP.clearBindings t' w₂ hreset
      rw [hclear] at hcleared
      have hbound := hP.bindParams ps hcleared w₃
      rw [hbind] at hbound
      rintro running ⟨⟩
      exact hbound

end Holds

/-- Whatever calls are made on a scan, it holds a statement of which that holds which the engine
keeps. -/
lemma holds_of_runs {s : ForeignScan τ × σ} (hP : e.Keeps P) (ht : P t)
    (h : Runs e scan t w₀ s) : Holds P scan s.1 := by
  induction h with
  | begin hplanned hopened => exact holds_begin hP ht hplanned hopened _
  | iterate _ ih => exact ih.iterate hP _
  | rescan _ ih => exact ih.rescan hP _ _
  | elsewhere _ ih => exact ih

end ForeignScan

end ForeignData
