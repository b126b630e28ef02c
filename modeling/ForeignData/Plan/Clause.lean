import ForeignData.Shipping
import ForeignData.Stored.Binding

/-!
# Clauses

The host filters a table by clauses. Those that SQLite can safely evaluate are sent to it; the host
checks all others itself. Clauses that were sorted when the table was sized keep their side when it
is planned, by identity and not by looks; clauses that depend on no row are left to the host.
-/

namespace ForeignData

/-- What the safety of a clause hangs on. -/
inductive ClauseSafety where
  | verdict (safe : Bool)
  /-- The clause calls a function, which may be shipped or not. -/
  | function (oid : Oid)
  deriving DecidableEq

/-- A filter clause. Two clauses are the same only if they have one identity. -/
structure Clause where
  id : Nat
  /-- The columns that the clause looks at. -/
  attrs : List AttrNumber
  pseudoconstant : Bool
  safety : ClauseSafety
  /-- The text of the clause for SQLite, up to its parameter. -/
  sql : String
  param : Option (HostType × HostValue)
  deriving DecidableEq

/-- A test of clauses that may keep a state. -/
abbrev SafetyTest (σ : Type) := Clause → StateM σ Bool

/-- Clauses by who evaluates them. -/
structure SortedClauses where
  /-- The clauses that SQLite evaluates. -/
  remote : List Clause
  /-- The clauses that the host checks on every row. -/
  recheck : List Clause

namespace SortedClauses

/-- The columns that the host's own clauses look at. -/
def recheckAttrs (c : SortedClauses) : AttrSet :=
  AttrSet.ofList (c.recheck.flatMap Clause.attrs)

def put (safe : Bool) (clause : Clause) (c : SortedClauses) : SortedClauses :=
  if safe then { c with remote := clause :: c.remote }
  else { c with recheck := clause :: c.recheck }

def side? (c : SortedClauses) (clause : Clause) : Option Bool :=
  if c.remote.any (·.id == clause.id) then some true
  else if c.recheck.any (·.id == clause.id) then some false
  else none

end SortedClauses

variable {σ : Type}

def sortClauses (safe : SafetyTest σ) : List Clause → StateM σ SortedClauses
  | [] => pure ⟨[], []⟩
  | clause :: clauses => do
    let isSafe ← safe clause
    let rest ← sortClauses safe clauses
    return rest.put isSafe clause

/-- Sort the clauses of a scan: those already sorted stay on their side, new ones are tested. -/
def sortScanClauses (earlier : SortedClauses) (safe : SafetyTest σ) :
    List Clause → StateM σ SortedClauses
  | [] => pure ⟨[], []⟩
  | clause :: clauses =>
    if clause.pseudoconstant then
      sortScanClauses earlier safe clauses
    else do
      let isSafe ←
        match earlier.side? clause with
        | some side => pure side
        | none => safe clause
      let rest ← sortScanClauses earlier safe clauses
      return rest.put isSafe clause

/-! ### The test by shipping -/

/-- The cache of a test and the number of clauses tested. -/
structure SafetyState where
  cache : ShippingCache
  calls : Nat

def testClause (catalog : Catalog) (policy : ShippingPolicy) : SafetyTest SafetyState :=
  fun clause s =>
    let s := { s with calls := s.calls + 1 }
    match clause.safety with
    | .verdict safe => (safe, s)
    | .function oid =>
      let (decision, cache) := s.cache.decide catalog policy ⟨.function, oid⟩
      (decision, { s with cache })

end ForeignData
