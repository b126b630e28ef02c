import ForeignData.Option.Source
import ForeignData.Plan.Query
import ForeignData.Scan.Explain

/-!
# Scans

A scan runs a plan. It holds a statement from its beginning to its end; a failure ends it. Once it
has come to the end of its rows it gives no more until it is scanned anew, with the same parameters
or with other ones.
-/

namespace ForeignData

/-- A row of a scan, with the key of the row if it is fetched. -/
structure ScanRow where
  values : HostRow
  rowid : Option Int64
  deriving DecidableEq

structure RunningScan (τ : Type) where
  statement : τ
  /-- The parameters that are bound. -/
  params : List Param
  /-- All rows have been given. -/
  exhausted : Bool

inductive ScanState (τ : Type) where
  | planned
  | began (running : RunningScan τ)
  | iterating (running : RunningScan τ)
  | ended

def ScanState.phase {τ : Type} : ScanState τ → ScanPhase
  | planned => .planned
  | began _ => .began
  | iterating _ => .iterating
  | ended => .ended

/-- What a state holds while the scan runs. -/
def ScanState.running? {τ : Type} : ScanState τ → Option (RunningScan τ)
  | began running | iterating running => some running
  | planned | ended => none

structure ForeignScan (τ : Type) where
  plan : ScanPlan
  source : TableSource
  shape : RowShape
  state : ScanState τ

namespace ForeignScan

variable {σ κ τ : Type} (e : Engine σ κ τ)

def new (plan : ScanPlan) (table : HostTable) (source : TableSource) :
    Except Fault (ForeignScan τ) :=
  (plan.shape table source.policy).map fun shape => { plan, source, shape, state := .planned }

def ofPrivate (decode : String → Except Fault ScanPlan) (text : String) (table : HostTable)
    (source : TableSource) : Except Fault (ForeignScan τ) := do
  new (← decode text) table source

def phase (scan : ForeignScan τ) : ScanPhase :=
  scan.state.phase

def statement? (scan : ForeignScan τ) : Option τ :=
  scan.state.running?.map RunningScan.statement

/-- The parameters that are bound, while the scan runs. -/
def boundParams (scan : ForeignScan τ) : Option (List Param) :=
  scan.state.running?.map RunningScan.params

/-- Move to a new state. The scan ends if that fails. -/
def moving {α : Type} (action : Action σ (α × ScanState τ)) : Action (ForeignScan τ × σ) α :=
  fun (scan, s) =>
    match action.run s with
    | (.ok (a, state), s) => (.ok a, ({ scan with state }, s))
    | (.error fault, s) => (.error fault, ({ scan with state := .ended }, s))

/-- Evaluate the parameters of a plan; there have to be as many as the plan has placeholders. -/
def evaluate (plan : ScanPlan) (params : Option (Evaluator σ)) : Action σ (List Param) := do
  let expected := plan.paramCount.toNat
  match params with
  | some evaluator =>
    let params ← evaluator.params
    if params.length = expected then
      return params
    else
      throw (.misuse (.parameterCount expected (some params.length)))
  | none =>
    if expected = 0 then
      return []
    else
      throw (.misuse (.parameterCount expected none))

/-- Open the database and bind the query to its parameters. -/
def start (scan : ForeignScan τ) (params : Option (Evaluator σ)) :
    Action σ (Unit × ScanState τ) := do
  let connection ← e.connect .readOnly scan.source.database
  let statement ← e.prepare connection scan.plan.query
  let params ← evaluate scan.plan params
  let (_, statement) ← Action.holding statement (bindParams e.bind params)
  return ((), .began { statement, params, exhausted := false })

/-- Begin a scan. If it is only to be explained nothing is opened. -/
def begin (params : Option (Evaluator σ)) (explainOnly : Bool) :
    Action (ForeignScan τ × σ) Unit := do
  let scan := (← get).1
  match scan.state with
  | .planned => if explainOnly then pure () else moving (scan.start e params)
  | state => throw (.misuse (.beginInPhase state.phase))

def advance (shape : RowShape) (running : RunningScan τ) :
    Action σ (Option ScanRow × ScanState τ) := do
  if running.exhausted then
    return (none, .iterating running)
  let (result, statement) ← Action.holding running.statement e.step
  match result with
  | .done => return (none, .iterating { running with statement, exhausted := true })
  | .row =>
    let row := e.row statement
    let values ← Action.ofExcept (shape.hostRow row (e.width statement))
    let rowid ← Action.ofExcept (shape.rowid row)
    return (some { values, rowid }, .iterating { running with statement })

/-- The next row of a scan, if there is one left. -/
def iterate : Action (ForeignScan τ × σ) (Option ScanRow) := do
  let scan := (← get).1
  match scan.state with
  | .began running | .iterating running => moving (advance e scan.shape running)
  | .ended => pure none
  | .planned => throw (.misuse .iterateBeforeBegin)

/-- Put other parameters in the place of those that are bound. -/
def rebind (plan : ScanPlan) (evaluator : Evaluator σ) (running : RunningScan τ) :
    Action σ (RunningScan τ) := do
  let params ← evaluate plan (some evaluator)
  let (_, statement) ← Action.holding running.statement do
    e.clearBindings
    bindParams e.bind params
  return { running with statement, params }

def restart (plan : ScanPlan) (params : Option (Evaluator σ)) (running : RunningScan τ) :
    Action σ (Unit × ScanState τ) := do
  let (_, statement) ← Action.holding running.statement e.reset
  let running := { running with statement, exhausted := false }
  match params with
  | none => return ((), .began running)
  | some evaluator => return ((), .began (← rebind e plan evaluator running))

/-- Scan anew, with other parameters if some are given. -/
def rescan (params : Option (Evaluator σ)) : Action (ForeignScan τ × σ) Unit := do
  let scan := (← get).1
  match scan.state with
  | .began running | .iterating running => moving (restart e scan.plan params running)
  | .planned | .ended => throw (.misuse .rescanNotRunning)

/-- End a scan, in whatever phase it is. -/
def finish (scan : ForeignScan τ) : ForeignScan τ :=
  { scan with state := .ended }

def explain (scan : ForeignScan τ) (verbose : Bool) : Action σ (List Property) :=
  explainQuery e scan.source.database scan.plan.query verbose

def rowsLeft (scan : ForeignScan τ) (s : σ) : Nat :=
  match scan.state.running? with
  | none => 0
  | some running => e.rowsLeft (running.statement, s)

/-- Iterate to the end, where there have to be fewer rows than a number. Gives the rows that came,
and the fault that put an end to them. -/
def takeRows : Nat → ForeignScan τ × σ → List ScanRow × Except Fault Unit × (ForeignScan τ × σ)
  | 0, s => ([], .error .rowsPastBound, s)
  | fuel + 1, s =>
    match (iterate e).run s with
    | (.error fault, s) => ([], .error fault, s)
    | (.ok none, s) => ([], .ok (), s)
    | (.ok (some row), s) =>
      let (rows, result, s) := takeRows fuel s
      (row :: rows, result, s)

def drain (s : ForeignScan τ × σ) : List ScanRow × Except Fault Unit × (ForeignScan τ × σ) :=
  takeRows e (s.1.rowsLeft e s.2 + 1) s

end ForeignScan

end ForeignData
