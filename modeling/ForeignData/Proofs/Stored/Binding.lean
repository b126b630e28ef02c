import ForeignData.Proofs.Stored.Conversion
import ForeignData.Proofs.Stored.Parameter

/-!
# Bound values converted back

A scalar that is bound by its type and handed back by the engine as it was bound converts to the
same scalar of that type. Words widen and narrow again without loss; decimals, dates and times go
through their texts.
-/

namespace ForeignData

/-- The value that a placeholder hands back if nothing is done to what was bound. -/
def BoundValue.carried : BoundValue → StoredValue
  | null => .null
  | int v => .integer v.toInt64
  | int64 v => .integer v
  | double v => .real v
  | text v => .text v
  | blob v => .blob v

/-! ### Converting back -/

/-- What is bound as its text converts back as that text reads back. -/
lemma convert_write {ty : HostType} {v : Scalar} (h : v.isOfType ty = true)
    (htext : ty.isText = false) (hnative : ty.isNative = true)
    (hbinary : ty ≠ .float4 ∧ ty ≠ .float8) :
    ∃ w, convert (.text v.write) ty = some (some w) ∧ w.SameAs v := by
  obtain ⟨w, hread, hsame⟩ := Scalar.read?_write_of_isOfType h hbinary
  refine ⟨w, ?_, hsame⟩
  rw [convert_text htext hnative, hread, Option.map_some]

lemma convert_carried_of_boundValue? {ty : HostType} {v : Scalar} (h : v.isOfType ty = true)
    (hnative : ty.isNative = true) (hbinary : ty ≠ .float4) :
    ∃ bound, boundValue? ty v = some bound
      ∧ ∃ w, convert bound.carried ty = some (some w) ∧ w.SameAs v := by
  cases v with
  | bool v =>
    obtain rfl : ty = .bool := by simpa [Scalar.isOfType] using h
    refine ⟨_, rfl, .bool v, ?_, .refl _⟩
    cases v <;> decide
  | int2 v =>
    obtain rfl : ty = .int2 := by simpa [Scalar.isOfType] using h
    refine ⟨_, rfl, .int2 v, ?_, .refl _⟩
    rw [BoundValue.carried, convert_integer rfl rfl, convertInteger]
    simp
  | int4 v =>
    obtain rfl : ty = .int4 := by simpa [Scalar.isOfType] using h
    refine ⟨_, rfl, .int4 v, ?_, .refl _⟩
    rw [BoundValue.carried, convert_integer rfl rfl, convertInteger]
    simp
  | int8 v =>
    obtain rfl : ty = .int8 := by simpa [Scalar.isOfType] using h
    exact ⟨_, rfl, .int8 v, rfl, .refl _⟩
  | float4 v => exact absurd (by simpa [Scalar.isOfType] using h) hbinary
  | float8 v =>
    obtain rfl : ty = .float8 := by simpa [Scalar.isOfType] using h
    exact ⟨_, rfl, .float8 v, rfl, .refl _⟩
  | numeric d =>
    obtain rfl : ty = .numeric := by simpa [Scalar.isOfType] using h
    exact ⟨_, rfl, convert_write h rfl rfl (by decide)⟩
  | text v =>
    cases ty
    case text | varchar | bpchar | name => exact ⟨_, rfl, .text v, rfl, .refl _⟩
    all_goals simp [Scalar.isOfType, HostType.isText] at h
  | bytea v =>
    obtain rfl : ty = .bytea := by simpa [Scalar.isOfType] using h
    exact ⟨_, rfl, .bytea v, rfl, .refl _⟩
  | date d =>
    obtain rfl : ty = .date := by simpa [Scalar.isOfType] using h
    exact ⟨_, rfl, convert_write h rfl rfl (by decide)⟩
  | time t =>
    obtain rfl : ty = .time := by simpa [Scalar.isOfType] using h
    exact ⟨_, rfl, convert_write h rfl rfl (by decide)⟩
  | timestamp t =>
    obtain rfl : ty = .timestamp := by simpa [Scalar.isOfType] using h
    exact ⟨_, rfl, convert_write h rfl rfl (by decide)⟩
  | timestamptz t =>
    obtain rfl : ty = .timestamptz := by simpa [Scalar.isOfType] using h
    exact ⟨_, rfl, convert_write h rfl rfl (by decide)⟩
  | other v =>
    rw [Scalar.isOfType, hnative] at h
    cases h

/-- Binding a parameter is one call on the target if there is a form to bind its value in. -/
lemma bindParam_of_boundValue? {σ : Type} (target : BindCall → Action σ Unit) (index : Nat)
    {ty : HostType} {v : Scalar} {bound : BoundValue} (h : boundValue? ty v = some bound) :
    bindParam target ⟨index, ty, some v⟩ = target ⟨index, bound⟩ := by
  rw [bindParam, Param.call_eq]
  simp only [h]
  rfl

end ForeignData
