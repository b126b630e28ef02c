import ForeignData.Host.Table

/-!
# The catalog of the host

What is asked of the host's catalog: which extension owns an object, the qualified names of
functions and operators, and the identifier of an extension.
-/

namespace ForeignData

/-- The kinds of objects that a query may refer to. -/
inductive ObjectKind where
  | function
  | operator
  | type
  deriving DecidableEq

namespace ObjectKind

def display : ObjectKind → String
  | function => "function"
  | operator => "operator"
  | type => "type"

/-- The identifier of the catalog that holds the objects of a kind. -/
def classOid : ObjectKind → Oid
  | function => 1255
  | operator => 2617
  | type => 1247

end ObjectKind

structure CatalogObject where
  kind : ObjectKind
  oid : Oid
  deriving DecidableEq

/-- A name with the identifier of its schema. -/
structure QualifiedName where
  schema : Oid
  name : String
  deriving DecidableEq

/-- A catalog, by the answers that it gives. -/
structure Catalog where
  owner : CatalogObject → Option Oid
  functionName : Oid → Option QualifiedName
  operatorName : Oid → Option QualifiedName
  extensionOid : String → Option Oid

namespace Catalog

def empty : Catalog where
  owner _ := none
  functionName _ := none
  operatorName _ := none
  extensionOid _ := none

def setOwner (c : Catalog) (object : CatalogObject) (extension : Option Oid) : Catalog :=
  { c with owner := fun o => if o = object then extension else c.owner o }

def addFunction (c : Catalog) (oid : Oid) (name : QualifiedName) : Catalog :=
  { c with functionName := fun o => if o = oid then some name else c.functionName o }

def addOperator (c : Catalog) (oid : Oid) (name : QualifiedName) : Catalog :=
  { c with operatorName := fun o => if o = oid then some name else c.operatorName o }

/-- Add an extension; one that has the name already stays. -/
def addExtension (c : Catalog) (name : String) (oid : Oid) : Catalog :=
  { c with extensionOid := fun s =>
      match c.extensionOid s with
      | some o => some o
      | none => if s = name then some oid else none }

end Catalog

end ForeignData
