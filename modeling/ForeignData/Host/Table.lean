import ForeignData.Host.HostType

/-!
# Foreign tables as the host describes them

A foreign table has an identifier, a name and columns. Attribute numbers name columns in plans; a
set of them is kept as an ascending list.
-/

namespace ForeignData

/-- The identifier of an object of the host. -/
abbrev Oid := UInt32

abbrev AttrNumber := Int16

/-- A column of a foreign table. -/
structure HostColumn where
  name : String
  number : AttrNumber
  type : HostType
  notNull : Bool
  deriving DecidableEq

structure HostTable where
  oid : Oid
  name : String
  columns : List HostColumn
  deriving DecidableEq

namespace HostTable

def display (t : HostTable) : String :=
  s!"{t.name} ({t.oid.toNat})"

def column? (t : HostTable) (n : AttrNumber) : Option HostColumn :=
  t.columns.find? (·.number == n)

def position? (t : HostTable) (n : AttrNumber) : Option (Fin t.columns.length) :=
  t.columns.findFinIdx? (·.number == n)

end HostTable

/-! ### Sets of attributes -/

/-- A set of attribute numbers, in ascending order without repetition. -/
abbrev AttrSet := List AttrNumber

namespace AttrSet

def insert (n : AttrNumber) : AttrSet → AttrSet
  | [] => [n]
  | m :: s => if n < m then n :: m :: s else if n = m then m :: s else m :: insert n s

def ofList (ns : List AttrNumber) : AttrSet :=
  ns.foldl (fun s n => insert n s) []

def union (s t : AttrSet) : AttrSet :=
  t.foldl (fun s n => insert n s) s

end AttrSet

end ForeignData
