import ForeignData.Engine
import ForeignData.Option.Source
import ForeignData.Plan.Change
import ForeignData.Scan.Explain

/-!
# Changes

A change runs a mutation row by row. It holds a statement from its beginning to its end; a failure
of the statement ends it. A row that is too short, or an operation that was not planned, leaves it
as it was.
-/

namespace ForeignData

inductive ChangeState (τ : Type) where
  | planned
  | began (statement : τ)
  | ended

structure ForeignChange (τ : Type) where
  plan : ChangePlan
  source : TableSource
  /-- For each column that is given a value, its place in a row and its type. -/
  targets : List (Nat × HostType)
  state : ChangeState τ

namespace ForeignChange

variable {σ κ τ : Type} (e : Engine σ κ τ)

/-- The places and types of attributes, in order; the first unknown one is a fault. -/
def targetsOf (table : HostTable) : List AttrNumber → Except Fault (List (Nat × HostType))
  | [] => .ok []
  | n :: ns =>
    match table.position? n with
    | none => .error (.unknownAttribute n)
    | some i => (targetsOf table ns).map ((i.val, table.columns[i].type) :: ·)

theorem targetsOf_cons (table : HostTable) (n : AttrNumber) (ns : List AttrNumber) :
    targetsOf table (n :: ns) = match table.position? n with
      | none => .error (.unknownAttribute n)
      | some i => (targetsOf table ns).map ((i.val, (table.columns.get i).type) :: ·) := by
  rfl

def new (plan : ChangePlan) (table : HostTable) (source : TableSource) :
    Except Fault (ForeignChange τ) :=
  (targetsOf table plan.mutation.targets).map fun targets =>
    { plan, source, targets, state := .planned }

def statement? (change : ForeignChange τ) : Option τ :=
  match change.state with
  | .began statement => some statement
  | .planned | .ended => none

/-- Whether the change holds a statement. -/
def isActive (change : ForeignChange τ) : Bool :=
  change.statement?.isSome

def isEnded (change : ForeignChange τ) : Bool :=
  match change.state with
  | .ended => true
  | _ => false

/-- Move to holding a statement. The change ends if that fails. -/
def moving {α : Type} (action : Action σ (α × τ)) : Action (ForeignChange τ × σ) α :=
  fun (change, s) =>
    match action.run s with
    | (.ok (a, statement), s) => (.ok a, ({ change with state := .began statement }, s))
    | (.error fault, s) => (.error fault, ({ change with state := .ended }, s))

/-- Begin a change. If it is only to be explained nothing is opened. -/
def begin (explainOnly : Bool) : Action (ForeignChange τ × σ) Unit := do
  let change := (← get).1
  match change.state with
  | .planned =>
    if explainOnly then
      pure ()
    else
      moving do
        let connection ← e.connect .readWrite change.source.database
        return ((), ← e.prepare connection change.plan.query)
  | _ => throw (.misuse .changeAlreadyBegan)

/-! ### Rows -/

/-- The parameters of targets, counted on from `index`; a row that is too short is a fault. -/
def targetParams (row : HostRow) : Nat → List (Nat × HostType) → Except Fault (List Param)
  | _, [] => .ok []
  | index, (place, type) :: targets =>
    match row[place]? with
    | none => .error (.misuse (.missingValue place))
    | some value => (targetParams row (index + 1) targets).map (⟨index, type, value⟩ :: ·)

/-- The parameter that names an existing row by its key. -/
def rowidParam (index : Nat) (rowid : Int64) : Param :=
  ⟨index, .int8, some (.int8 rowid)⟩

/-- Run a statement once, with its parameters bound. Gives the number of rows that it has
changed. -/
def runOnce (params : List Param) : Action (τ × σ) Nat := do
  bindParams e.bind params
  let _ ← e.allRows
  let changed := e.changes (← get).1
  e.reset
  return changed

/-- Run the statement of a change once. -/
def execute (params : List Param) : Action (ForeignChange τ × σ) Nat := do
  match (← get).1.state with
  | .began statement => moving (Action.holding statement (runOnce e params))
  | _ => throw (.misuse .changeNotRunning)

/-- Run the statement for a row, and give the row back if anything was changed. -/
def executeRow (params : List Param) (row : HostRow) :
    Action (ForeignChange τ × σ) (Option HostRow) := do
  let changed ← execute e params
  return if changed > 0 then some row else none

def insert (row : HostRow) : Action (ForeignChange τ × σ) (Option HostRow) := do
  let change := (← get).1
  match change.plan.mutation with
  | .insert _ =>
    let params ← Action.ofExcept (targetParams row 1 change.targets)
    executeRow e params row
  | planned => throw (.misuse (.mutationMismatch planned))

/-- Give new values to the row of a key. -/
def update (rowid : Int64) (row : HostRow) :
    Action (ForeignChange τ × σ) (Option HostRow) := do
  let change := (← get).1
  match change.plan.mutation with
  | .update _ =>
    let params ← Action.ofExcept (targetParams row 1 change.targets)
    executeRow e (params ++ [rowidParam (params.length + 1) rowid]) row
  | planned => throw (.misuse (.mutationMismatch planned))

def delete (rowid : Int64) (row : HostRow) :
    Action (ForeignChange τ × σ) (Option HostRow) := do
  match (← get).1.plan.mutation with
  | .delete => executeRow e [rowidParam 1 rowid] row
  | planned => throw (.misuse (.mutationMismatch planned))

/-- End a change, in whatever state it is. -/
def finish (change : ForeignChange τ) : ForeignChange τ :=
  { change with state := .ended }

/-- Explain a change: the statement, if it is wanted. -/
def explain (change : ForeignChange τ) (verbose : Bool) : List Property :=
  if verbose then [("sqlite statement", change.plan.query)] else []

end ForeignChange

end ForeignData
