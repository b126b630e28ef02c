import ForeignData.Option.Source
import ForeignData.Plan.Query

/-!
# Planning of a foreign table

A table is first sized: its filters are sorted, and SQLite says how many rows it expects of the
query that would be sent. From the size follows the cost, and the columns that the host needs are
fixed with it. Then the table is planned: the clauses of the scan are sorted too, and the query is
made for those columns.
-/

namespace ForeignData

/-! ### Cost -/

/-- The cost of a scan of a foreign table. -/
structure PathCost where
  rows : Binary64
  startup : Binary64
  total : Binary64
  deriving DecidableEq

def startupCost : Binary64 :=
  .ofInt 10

def PathCost.ofRows (rows : Binary64) : PathCost where
  rows
  startup := startupCost
  total := startupCost.add rows

/-! ### Size -/

/-- What is known of a foreign table once it is sized. -/
structure SizedTable where
  source : TableSource
  policy : ShippingPolicy
  clauses : SortedClauses
  /-- The columns that the host needs. -/
  attrs : AttrSet
  rows : Binary64
  fetchRowid : Bool

namespace SizedTable

/-- The columns that the host needs: its targets and what its own clauses look at. -/
def neededAttrs (targets : List AttrNumber) (clauses : SortedClauses) : AttrSet :=
  (AttrSet.ofList targets).union clauses.recheckAttrs

/-- A table whose filters are sorted and whose size is known. -/
def ofClauses (source : TableSource) (policy : ShippingPolicy) (targets : List AttrNumber)
    (clauses : SortedClauses) (rows : Binary64) : SizedTable where
  source
  policy
  clauses
  attrs := neededAttrs targets clauses
  rows
  fetchRowid := false

def sizingQuery (table : HostTable) (source : TableSource) (targets : List AttrNumber)
    (clauses : SortedClauses) : RemoteQuery :=
  .ofAttrs table (neededAttrs targets clauses) source.table false clauses.remote

/-- Size a table, given the rows that SQLite expects of a query on a database. -/
def ofEstimate {σ : Type} (table : HostTable) (source : TableSource) (policy : ShippingPolicy)
    (targets : List AttrNumber) (restrictions : List Clause) (safe : SafetyTest σ)
    (estimate : (database query : String) → Except Fault Int64) : Action σ SizedTable := do
  let clauses ← sortClauses safe restrictions
  let query := sizingQuery table source targets clauses
  let rows ← Action.ofExcept (estimate source.database query.text)
  return ofClauses source policy targets clauses (.ofInt rows.toInt)

/-- The table as the target of a change: the key of each row is needed too. -/
def asTarget (t : SizedTable) : SizedTable :=
  { t with fetchRowid := true }

def cost (t : SizedTable) : PathCost :=
  .ofRows t.rows

end SizedTable

/-! ### Plan -/

/-- A planned scan, with the clauses on either side and the parameters in the order of their
placeholders. -/
structure TablePlan where
  plan : ScanPlan
  clauses : SortedClauses
  params : List QueryParam

def SizedTable.plan {σ : Type} (t : SizedTable) (table : HostTable) (scanClauses : List Clause)
    (safe : SafetyTest σ) : StateM σ TablePlan := do
  let clauses ← sortScanClauses t.clauses safe scanClauses
  let query := RemoteQuery.ofAttrs table t.attrs t.source.table t.fetchRowid clauses.remote
  return { plan := query.plan, clauses, params := query.params }

end ForeignData
