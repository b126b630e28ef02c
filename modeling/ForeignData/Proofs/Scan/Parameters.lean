import ForeignData.Proofs.Action
import ForeignData.Scan.Basic

/-!
# Parameters of a scan

The parameters that an evaluation gives are numbered as the placeholders are, from one to the number
that the plan expects.
-/

namespace ForeignData

variable {σ : Type}

lemma index_paramsFrom {evaluate : Nat → Action σ HostValue} {i : Nat} {types : List HostType}
    {params : List Param} {s s' : σ}
    (h : (Evaluator.paramsFrom evaluate i types).run s = (.ok params, s')) :
    params.map Param.index = List.range' (i + 1) types.length := by
  induction types generalizing i params s with
  | nil =>
    cases h
    rfl
  | cons ty types ih =>
    obtain ⟨value, s₁, -, h⟩ := Action.run_bind_eq_ok h
    obtain ⟨rest, s₂, hrest, h⟩ := Action.run_bind_eq_ok h
    cases h
    rw [List.map_cons, ih hrest, List.length_cons, List.range'_succ]

/-- As many parameters are evaluated as the plan has placeholders, in their order. -/
lemma index_evaluate {plan : ScanPlan} {source : Option (Evaluator σ)} {params : List Param}
    {s s' : σ} (h : (ForeignScan.evaluate plan source).run s = (.ok params, s')) :
    params.map Param.index = List.range' 1 plan.paramCount.toNat := by
  cases source with
  | none =>
    rw [ForeignScan.evaluate] at h
    split at h
    · rename_i hcount
      cases h
      rw [hcount]
      rfl
    · cases h
  | some evaluator =>
    obtain ⟨values, s₁, hvalues, h⟩ := Action.run_bind_eq_ok h
    have hindex := index_paramsFrom hvalues
    split at h
    · rename_i hcount
      cases h
      have hlength := congrArg List.length hindex
      rw [List.length_map, List.length_range', hcount] at hlength
      rw [hindex, ← hlength]
    · cases h

end ForeignData
