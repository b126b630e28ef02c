import ForeignData.Fault
import ForeignData.Host.ScalarText

/-!
# Binding of parameters

A host value is bound to a placeholder of a statement by its declared type, as one of the storage
forms that a statement takes. A value that is not of its declared type is not bound, nor is a value
of a type without a form of its own.
-/

namespace ForeignData

/-- A value in a form that a statement takes. -/
inductive BoundValue where
  | null
  | int (v : Int32)
  | int64 (v : Int64)
  | double (v : Binary64)
  | text (v : String)
  | blob (v : ByteArray)
  deriving DecidableEq

/-- One call on a statement: a value for the placeholder of an index, counted from one. -/
structure BindCall where
  index : Nat
  value : BoundValue
  deriving DecidableEq

/-- A parameter with its value. -/
structure Param where
  index : Nat
  type : HostType
  value : HostValue
  deriving DecidableEq

/-- The form in which a scalar is bound for the placeholder of an index, by the declared type, or
why it is not bound. -/
def boundForm (index : Nat) (ty : HostType) (s : Scalar) : Except Fault BoundValue :=
  let mismatch := .error (.parameterMismatch index ty s.form)
  match ty with
  | .bool =>
    match s with
    | .bool v => .ok (.int (if v then 1 else 0))
    | _ => mismatch
  | .int2 =>
    match s with
    | .int2 v => .ok (.int v.toInt32)
    | _ => mismatch
  | .int4 =>
    match s with
    | .int4 v => .ok (.int v)
    | _ => mismatch
  | .int8 =>
    match s with
    | .int8 v => .ok (.int64 v)
    | _ => mismatch
  | .float4 =>
    match s with
    | .float4 v => .ok (.double v.widen)
    | _ => mismatch
  | .float8 =>
    match s with
    | .float8 v => .ok (.double v)
    | _ => mismatch
  | .bytea =>
    match s with
    | .bytea v => .ok (.blob v)
    | _ => mismatch
  -- A number in binary would lose digits of a decimal.
  | .numeric =>
    match s with
    | .numeric v => .ok (.text (Scalar.numeric v).write)
    | _ => mismatch
  | .date | .time | .timestamp | .timestamptz =>
    if s.isOfType ty then .ok (.text s.write) else mismatch
  | .text | .varchar | .bpchar | .name =>
    match s with
    | .text v => .ok (.text v)
    | _ => mismatch
  | .other .. => .error (.unsupportedParameter ty)

/-- The call that binds a parameter, or why there is none. -/
def Param.call (p : Param) : Except Fault BindCall :=
  match p.value with
  | none => .ok ⟨p.index, .null⟩
  | some s => (boundForm p.index p.type s).map (⟨p.index, ·⟩)

variable {σ : Type}

def bindParam (target : BindCall → Action σ Unit) (p : Param) : Action σ Unit := do
  let call ← Action.ofExcept p.call
  target call

/-- Bind parameters in order, up to the first that fails. -/
def bindParams (target : BindCall → Action σ Unit) : List Param → Action σ Unit
  | [] => pure ()
  | p :: ps => do
    bindParam target p
    bindParams target ps

/-! ### Evaluation -/

/-- What gives the runtime parameters of a scan their values: the declared types in the order of the
placeholders, and the value at each place, counted from zero. -/
structure Evaluator (σ : Type) where
  types : List HostType
  evaluate : Nat → Action σ HostValue

/-- Evaluate the places from `i` on, up to the first that fails. -/
def Evaluator.paramsFrom (evaluate : Nat → Action σ HostValue) :
    Nat → List HostType → Action σ (List Param)
  | _, [] => pure []
  | i, ty :: types => do
    let value ← evaluate i
    let rest ← paramsFrom evaluate (i + 1) types
    return ⟨i + 1, ty, value⟩ :: rest

/-- The parameters with their values, in the order of the placeholders. -/
def Evaluator.params (e : Evaluator σ) : Action σ (List Param) :=
  paramsFrom e.evaluate 0 e.types

def Evaluator.ofList (values : List (HostType × HostValue)) : Evaluator σ where
  types := values.map Prod.fst
  evaluate i :=
    match values[i]? with
    | some (_, value) => pure value
    | none => throw (.misuse (.noParameter i))

end ForeignData
