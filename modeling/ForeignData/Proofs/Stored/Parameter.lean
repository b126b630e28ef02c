import ForeignData.Proofs.Action
import ForeignData.Stored.Binding

/-!
# Parameters and their calls

There is one call for a parameter at most, for the placeholder of its index. To bind the parameter
is this call, and to bind some parameters sets each of their placeholders to the value of its
parameter.
-/

namespace ForeignData

variable {σ : Type}

/-- The form in which a scalar of a declared type is bound, if it is of that type. -/
def boundValue? (ty : HostType) (s : Scalar) : Option BoundValue :=
  match ty, s with
  | .bool, .bool v => some (.int (if v then 1 else 0))
  | .int2, .int2 v => some (.int v.toInt32)
  | .int4, .int4 v => some (.int v)
  | .int8, .int8 v => some (.int64 v)
  | .float4, .float4 v => some (.double v.widen)
  | .float8, .float8 v => some (.double v)
  | .numeric, .numeric v => some (.text (Scalar.numeric v).write)
  | .bytea, .bytea v => some (.blob v)
  | .date, .date v => some (.text (Scalar.date v).write)
  | .time, .time v => some (.text (Scalar.time v).write)
  | .timestamp, .timestamp v => some (.text (Scalar.timestamp v).write)
  | .timestamptz, .timestamptz v => some (.text (Scalar.timestamptz v).write)
  | .text, .text v | .varchar, .text v | .bpchar, .text v | .name, .text v => some (.text v)
  | _, _ => none

/-- A scalar is bound in its form if it has one. If it has none that is the fault of the scalar or,
for a type without a form of its own, of the type. -/
lemma boundForm_eq (index : Nat) (ty : HostType) (s : Scalar) :
    boundForm index ty s = match boundValue? ty s with
      | some v => .ok v
      | none => .error (if ty.isNative then .parameterMismatch index ty s.form
        else .unsupportedParameter ty) := by
  cases ty <;> cases s <;> rfl

lemma Param.call_eq (p : Param) :
    p.call = match p.value with
      | none => .ok ⟨p.index, .null⟩
      | some s =>
        match boundValue? p.type s with
        | some v => .ok ⟨p.index, v⟩
        | none => .error (if p.type.isNative then .parameterMismatch p.index p.type s.form
          else .unsupportedParameter p.type) := by
  rw [call]
  cases p.value with
  | none => rfl
  | some s =>
    simp only [boundForm_eq]
    cases boundValue? p.type s <;> rfl

lemma Param.index_of_call {p : Param} {call : BindCall} (h : p.call = .ok call) :
    call.index = p.index := by
  rw [Param.call_eq] at h
  split at h
  · cases h
    rfl
  · split at h
    · cases h
      rfl
    · cases h

/-! ### Runs -/

lemma bindParam_run_of_ok {p : Param} (target : BindCall → Action σ Unit) {call : BindCall}
    (h : p.call = .ok call) (s : σ) : (bindParam target p).run s = (target call).run s := by
  rw [bindParam, Action.run_bind, Action.run_ofExcept, h]

lemma bindParam_run_of_error {p : Param} (target : BindCall → Action σ Unit) {fault : Fault}
    (h : p.call = .error fault) (s : σ) : (bindParam target p).run s = (.error fault, s) := by
  rw [bindParam, Action.run_bind, Action.run_ofExcept, h]

/-- A parameter has been bound if there is a call for it and this call has succeeded. -/
lemma bindParam_run_eq_ok {τ : Type} {target : BindCall → Action τ Unit} {p : Param} {t t' : τ}
    (h : (bindParam target p).run t = (.ok (), t')) :
    ∃ value, p.call = .ok ⟨p.index, value⟩ ∧ (target ⟨p.index, value⟩).run t = (.ok (), t') := by
  obtain ⟨call, t₁, hrun, h⟩ := Action.run_bind_eq_ok h
  rw [Action.run_ofExcept] at hrun
  obtain ⟨hcall, rfl⟩ := Prod.mk.inj hrun
  have hindex := Param.index_of_call hcall
  obtain ⟨index, value⟩ := call
  obtain rfl : index = p.index := hindex
  exact ⟨value, hcall, h⟩

/-- Parameters are bound one after the other, each by its call. -/
inductive BindsAll (target : BindCall → Action σ Unit) : σ → List Param → σ → Prop
  | nil (s : σ) : BindsAll target s [] s
  | cons {s s' s'' : σ} {p : Param} {params : List Param} {call : BindCall}
      (hcall : p.call = .ok call) (hbind : (target call).run s = (.ok (), s'))
      (hrest : BindsAll target s' params s'') : BindsAll target s (p :: params) s''

lemma bindsAll_of_bindParams {target : BindCall → Action σ Unit} {params : List Param} {s s' : σ}
    (h : (bindParams target params).run s = (.ok (), s')) : BindsAll target s params s' := by
  induction params generalizing s with
  | nil =>
    cases h
    exact .nil _
  | cons p params ih =>
    obtain ⟨_, s₁, hp, hrest⟩ := Action.run_bind_eq_ok h
    obtain ⟨value, hcall, hbind⟩ := bindParam_run_eq_ok hp
    exact .cons hcall hbind (ih hrest)

lemma bindParam_keeps {target : BindCall → Action σ Unit} {P : σ → Prop}
    (h : ∀ call s, P s → P ((target call).run s).2) (p : Param) {s : σ} (hs : P s) :
    P ((bindParam target p).run s).2 := by
  rw [bindParam, Action.run_bind, Action.run_ofExcept]
  cases p.call with
  | error fault => exact hs
  | ok call => exact h call s hs

/-- What no call for a placeholder changes, no binding of parameters does, whether it fails or
not. -/
lemma bindParams_keeps {target : BindCall → Action σ Unit} {P : σ → Prop}
    (h : ∀ call s, P s → P ((target call).run s).2) (params : List Param) {s : σ} (hs : P s) :
    P ((bindParams target params).run s).2 := by
  induction params generalizing s with
  | nil => exact hs
  | cons p params ih =>
    rw [bindParams, Action.run_bind]
    have hp := bindParam_keeps h p hs
    generalize (bindParam target p).run s = result at hp
    obtain ⟨result, s'⟩ := result
    cases result with
    | error fault => exact hp
    | ok _ => exact ih hp

/-- The values that placeholders have are those of the parameters. The others have none. -/
structure Binds (bindings : Nat → BoundValue) (params : List Param) : Prop where
  bound : ∀ p ∈ params, p.call = .ok ⟨p.index, bindings p.index⟩
  unbound : ∀ i, i ∉ params.map Param.index → bindings i = .null

end ForeignData
