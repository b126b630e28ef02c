import ForeignData.Fault
import ForeignData.Host.Catalog

/-!
# Shipping

Which objects of the host SQLite may evaluate. An object that the host itself defines may be
shipped; any other only if it belongs to an extension that its server trusts. Such decisions are
remembered for each object and server until some server changes: then every cache on the hub forgets
all of them. The walk through the catalog that a decision takes may itself set off such a change or
ask for further decisions; what is remembered for an object at its end stays.
-/

namespace ForeignData

/-- Objects with smaller identifiers are defined by the host itself. -/
def firstUserOid : Oid := 10000

/-- Whether the host itself defines an object. -/
def isBuiltin (oid : Oid) : Bool :=
  oid < firstUserOid

/-- What a server trusts. -/
structure ShippingPolicy where
  server : Oid
  extensions : List Oid

/-- What a decision is remembered for. -/
structure ShippingKey where
  object : CatalogObject
  server : Oid
  deriving DecidableEq

/-- Remembered decisions, at most one for each key. -/
abbrev ShippingCache := List (ShippingKey × Bool)

namespace ShippingCache

/-- The decision for an object, if it takes no walk through the catalog. -/
def known? (cache : ShippingCache) (policy : ShippingPolicy) (object : CatalogObject) :
    Option Bool :=
  if isBuiltin object.oid then some true
  else if policy.extensions = [] then some false
  else cache.lookup ⟨object, policy.server⟩

def remember (cache : ShippingCache) (key : ShippingKey) (decision : Bool) : ShippingCache :=
  match cache.lookup key with
  | some _ => cache
  | none => (key, decision) :: cache

/-- The decision remembered for a key, or else the one given. -/
def recalled (cache : ShippingCache) (key : ShippingKey) (decision : Bool) : Bool :=
  (cache.lookup key).getD decision

end ShippingCache

def Catalog.trusts (catalog : Catalog) (policy : ShippingPolicy) (object : CatalogObject) : Bool :=
  match catalog.owner object with
  | none => false
  | some extension => extension ∈ policy.extensions

/-- Decide on an object, with a walk through the catalog if the decision is not known. -/
def ShippingCache.decide (catalog : Catalog) (policy : ShippingPolicy) (object : CatalogObject)
    (cache : ShippingCache) : Bool × ShippingCache :=
  match cache.known? policy object with
  | some decision => (decision, cache)
  | none =>
    let decision := catalog.trusts policy object
    (decision, cache.remember ⟨object, policy.server⟩ decision)

/-! ### Caches on a hub -/

/-- A cache under its name. Only caches on the hub learn of changes. -/
structure NamedCache where
  name : String
  onHub : Bool
  entries : ShippingCache

/-- The catalog, the caches, and the number of walks through the catalog so far. -/
structure ShippingState where
  catalog : Catalog
  caches : List NamedCache
  walks : Nat

namespace ShippingState

def entries (s : ShippingState) (name : String) : ShippingCache :=
  match s.caches.find? (·.name == name) with
  | none => []
  | some cache => cache.entries

/-- Change what the caches of a name remember. -/
def modifyCache (s : ShippingState) (name : String) (f : ShippingCache → ShippingCache) :
    ShippingState :=
  { s with caches := s.caches.map fun cache =>
      if cache.name = name then { cache with entries := f cache.entries } else cache }

/-- Take a cache away. -/
def drop (s : ShippingState) (name : String) : ShippingState :=
  { s with caches := s.caches.filter (·.name != name) }

/-- Make an empty cache, in place of one of its name. -/
def create (s : ShippingState) (name : String) (onHub : Bool) : ShippingState :=
  { s with caches := (s.drop name).caches ++ [{ name, onHub, entries := [] }] }

/-- Empty every cache on the hub. -/
def fire (s : ShippingState) : ShippingState :=
  { s with caches := s.caches.map fun cache =>
      if cache.onHub then { cache with entries := [] } else cache }

def flush (s : ShippingState) (name : String) : ShippingState :=
  s.modifyCache name fun _ => []

/-- Decide on an object. What happens during the walk happens after the catalog has settled its
answer and before that is remembered. -/
def ask (s : ShippingState) (name : String) (policy : ShippingPolicy) (object : CatalogObject)
    (during : ShippingState → ShippingState) : Bool × ShippingState :=
  match (s.entries name).known? policy object with
  | some decision => (decision, s)
  | none =>
    let decision := s.catalog.trusts policy object
    let key : ShippingKey := ⟨object, policy.server⟩
    let s := during { s with walks := s.walks + 1 }
    ((s.entries name).recalled key decision, s.modifyCache name (·.remember key decision))

end ShippingState

/-- A step on the caches of a hub. -/
inductive ShippingStep where
  | create (name : String) (onHub : Bool)
  | drop (name : String)
  | fire
  | flush (name : String)
  | setOwner (object : CatalogObject) (extension : Option Oid)
  | ask (name : String) (policy : ShippingPolicy) (object : CatalogObject)
      (during : List ShippingStep)

mutual

/-- Take one step; a question has an answer. -/
def ShippingStep.run : ShippingStep → ShippingState → Option Bool × ShippingState
  | .create name onHub, s => (none, s.create name onHub)
  | .drop name, s => (none, s.drop name)
  | .fire, s => (none, s.fire)
  | .flush name, s => (none, s.flush name)
  | .setOwner object extension, s =>
    (none, { s with catalog := s.catalog.setOwner object extension })
  | .ask name policy object during, s =>
    let (decision, s) := s.ask name policy object (ShippingStep.runAll during)
    (some decision, s)

/-- Take steps one after the other. -/
def ShippingStep.runAll : List ShippingStep → ShippingState → ShippingState
  | [], s => s
  | step :: steps, s => ShippingStep.runAll steps (step.run s).2

end

/-! ### Functions that SQLite computes as the host does -/

/-- The schema of the objects that the host itself defines. -/
def systemSchemaOid : Oid := 11

/-- The aggregates that may be shipped by name. -/
def shippableAggregates : List String := ["avg", "average", "max", "min", "sum"]

/-- The functions that may be shipped by name. -/
def shippableFunctions : List String := ["abs", "coalesce"]

/-- The operators that may be shipped by name. -/
def shippableOperators : List String := ["=", "<>", "<", "<=", ">", ">=", "+", "-", "*", "/"]

/-- Whether an object is one of the host's own of a listed name. Every object has a name. -/
def isListed (names : List String) (object : CatalogObject) (name : Option QualifiedName) :
    Except Fault Bool :=
  match name with
  | none => .error (.lookupFailed object)
  | some q => .ok (q.schema == systemSchemaOid && names.contains q.name)

/-- Whether an aggregate may be shipped by name. -/
def isShippableAggregate (catalog : Catalog) (oid : Oid) : Except Fault Bool :=
  isListed shippableAggregates ⟨.function, oid⟩ (catalog.functionName oid)

/-- Whether a function may be shipped by name. -/
def isShippableFunction (catalog : Catalog) (oid : Oid) : Except Fault Bool :=
  isListed shippableFunctions ⟨.function, oid⟩ (catalog.functionName oid)

/-- Whether an operator may be shipped by name. -/
def isShippableOperator (catalog : Catalog) (oid : Oid) : Except Fault Bool :=
  isListed shippableOperators ⟨.operator, oid⟩ (catalog.operatorName oid)

end ForeignData
