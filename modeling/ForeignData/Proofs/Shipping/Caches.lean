import ForeignData.Shipping
import Mathlib.Data.List.Basic
import Mathlib.Tactic.Lemma

/-!
# Caches of a hub

What a cache answers without a walk and what it remembers behind one, and what each step on the
caches of a hub does to the cache of a given name: a step on one cache leaves all others alone, and
a change on the hub empties those that are on it.
-/

namespace ForeignData

/-! ### Keys -/

/-- What a decision is remembered for. Decisions on what the host itself defines are not remembered,
and neither are those for a server that trusts no extension. -/
def ShippingPolicy.key? (policy : ShippingPolicy) (object : CatalogObject) : Option ShippingKey :=
  if isBuiltin object.oid ∨ policy.extensions = [] then none
  else some ⟨object, policy.server⟩

/-- The decision on an object that an extension owns, or none. -/
def ShippingPolicy.verdict (policy : ShippingPolicy) (object : CatalogObject)
    (owner : Option Oid) : Bool :=
  if isBuiltin object.oid then true
  else if policy.extensions = [] then false
  else match owner with
    | none => false
    | some extension => extension ∈ policy.extensions

section Keys

variable {policy : ShippingPolicy} {object : CatalogObject} {key : ShippingKey}

lemma ShippingPolicy.eq_of_key? (h : policy.key? object = some key) :
    isBuiltin object.oid = false ∧ policy.extensions ≠ [] ∧ key = ⟨object, policy.server⟩ := by
  unfold ShippingPolicy.key? at h
  split at h
  · cases h
  · rename_i hnot
    obtain ⟨hoid, hextensions⟩ := not_or.1 hnot
    exact ⟨by simpa using hoid, hextensions, (Option.some.inj h).symm⟩

/-- Behind a walk the decision is what the catalog says. -/
lemma Catalog.trusts_eq_verdict (catalog : Catalog) (h : policy.key? object = some key) :
    catalog.trusts policy object = policy.verdict object (catalog.owner object) := by
  obtain ⟨hoid, hextensions, -⟩ := ShippingPolicy.eq_of_key? h
  unfold ShippingPolicy.verdict
  rw [if_neg (by simp [hoid]), if_neg hextensions]
  rfl

end Keys

/-! ### One cache -/

namespace ShippingCache

variable {cache : ShippingCache} {policy : ShippingPolicy} {object : CatalogObject}
  {key other : ShippingKey} {decision : Bool}

/-- What has no key is decided without a look at the cache or the catalog. -/
lemma known?_of_key?_eq_none (h : policy.key? object = none) (owner : Option Oid) :
    cache.known? policy object = some (policy.verdict object owner) := by
  unfold ShippingPolicy.key? at h
  unfold known? ShippingPolicy.verdict
  by_cases hoid : isBuiltin object.oid = true
  · rw [if_pos hoid, if_pos hoid]
  · by_cases hextensions : policy.extensions = []
    · rw [if_neg hoid, if_neg hoid, if_pos hextensions, if_pos hextensions]
    · rw [if_neg (not_or.2 ⟨hoid, hextensions⟩)] at h
      cases h

lemma known?_of_key? (h : policy.key? object = some key) :
    cache.known? policy object = cache.lookup key := by
  obtain ⟨hoid, hextensions, rfl⟩ := ShippingPolicy.eq_of_key? h
  rw [known?, if_neg (by simp [hoid]), if_neg hextensions]

lemma key?_of_known?_eq_none (h : cache.known? policy object = none) :
    policy.key? object = some ⟨object, policy.server⟩
      ∧ cache.lookup ⟨object, policy.server⟩ = none := by
  cases hkey : policy.key? object with
  | none =>
    rw [known?_of_key?_eq_none hkey none] at h
    cases h
  | some key =>
    rw [known?_of_key? hkey] at h
    obtain ⟨-, -, rfl⟩ := ShippingPolicy.eq_of_key? hkey
    exact ⟨rfl, h⟩

lemma lookup_remember_of_ne (h : other ≠ key) :
    (cache.remember key decision).lookup other = cache.lookup other := by
  unfold remember
  split
  · rfl
  · rw [List.lookup_cons, beq_false_of_ne h]

/-- A decision is there once it is to be remembered: itself, or the one that was there before. -/
lemma lookup_remember_self :
    (cache.remember key decision).lookup key = some (cache.recalled key decision) := by
  unfold remember recalled
  split
  · rename_i earlier hlookup
    rw [hlookup, Option.getD_some]
  · rename_i hlookup
    rw [hlookup, List.lookup_cons_self, Option.getD_none]

lemma remember_of_lookup_eq_none (h : cache.lookup key = none) :
    cache.remember key decision = (key, decision) :: cache := by
  rw [remember, h]

lemma recalled_of_lookup_eq_none (h : cache.lookup key = none) :
    cache.recalled key decision = decision := by
  rw [recalled, h, Option.getD_none]

end ShippingCache

/-! ### The caches of a hub -/

namespace ShippingState

def cache? (s : ShippingState) (name : String) : Option NamedCache :=
  s.caches.find? (·.name == name)

variable {s : ShippingState} {name other : String} {cache : NamedCache}

lemma entries_of_cache? (h : s.cache? name = some cache) : s.entries name = cache.entries := by
  rw [entries]
  rw [cache?] at h
  rw [h]

lemma name_of_cache? (h : s.cache? name = some cache) : cache.name = name := by
  simpa using List.find?_some h

lemma cache?_map (s : ShippingState) (name : String) {f : NamedCache → NamedCache}
    (hname : ∀ cache, (f cache).name = cache.name) :
    cache? { s with caches := s.caches.map f } name = (s.cache? name).map f := by
  rw [cache?, List.find?_map]
  congr 2
  funext cache
  rw [Function.comp_apply, hname]

lemma cache?_modifyCache_self (s : ShippingState) (name : String)
    (f : ShippingCache → ShippingCache) :
    (s.modifyCache name f).cache? name
      = (s.cache? name).map fun cache => { cache with entries := f cache.entries } := by
  rw [modifyCache, cache?_map s name (fun cache => by split <;> rfl)]
  refine Option.map_congr fun cache hcache => ?_
  rw [if_pos (name_of_cache? hcache)]

lemma cache?_modifyCache_of_ne (h : other ≠ name) (f : ShippingCache → ShippingCache) :
    (s.modifyCache other f).cache? name = s.cache? name := by
  rw [modifyCache, cache?_map s name (fun cache => by split <;> rfl)]
  cases hcache : s.cache? name with
  | none => rfl
  | some cache =>
    have hne : cache.name ≠ other := by
      rw [name_of_cache? hcache]
      exact h.symm
    rw [Option.map_some, if_neg hne]

/-- A change on the hub empties the caches on it, and no others. -/
lemma cache?_fire (s : ShippingState) (name : String) :
    s.fire.cache? name = (s.cache? name).map fun cache =>
      if cache.onHub then { cache with entries := [] } else cache :=
  cache?_map s name fun cache => by split <;> rfl

lemma cache?_drop_of_ne (h : other ≠ name) : (s.drop other).cache? name = s.cache? name := by
  rw [cache?, drop, List.find?_filter]
  congr 1
  funext cache
  by_cases hname : cache.name = name
  · simp [hname, h.symm]
  · simp [hname]

lemma cache?_drop_self (s : ShippingState) (name : String) : (s.drop name).cache? name = none := by
  rw [cache?, List.find?_eq_none]
  intro cache hcache
  rw [drop, List.mem_filter] at hcache
  simpa using hcache.2

lemma cache?_create_self (s : ShippingState) (name : String) (onHub : Bool) :
    (s.create name onHub).cache? name = some ⟨name, onHub, []⟩ := by
  have hdropped : (s.drop name).caches.find? (·.name == name) = none := cache?_drop_self s name
  rw [cache?, create, List.find?_append, hdropped, Option.none_or, List.find?_cons,
    beq_self_eq_true]

lemma cache?_create_of_ne (h : other ≠ name) (onHub : Bool) :
    (s.create other onHub).cache? name = s.cache? name := by
  rw [← cache?_drop_of_ne (s := s) h, cache?, create, List.find?_append]
  simp [cache?, h]

/-! ### Questions -/

variable {policy : ShippingPolicy} {object : CatalogObject}

lemma ask_of_known {decision : Bool} (h : (s.entries name).known? policy object = some decision)
    (during : ShippingState → ShippingState) : s.ask name policy object during = (decision, s) := by
  rw [ask, h]

/-- What is not known takes a walk, and is remembered at its end. -/
lemma ask_of_unknown (h : (s.entries name).known? policy object = none)
    (during : ShippingState → ShippingState) :
    s.ask name policy object during
      = (((during { s with walks := s.walks + 1 }).entries name).recalled ⟨object, policy.server⟩
            (s.catalog.trusts policy object),
          (during { s with walks := s.walks + 1 }).modifyCache name
            (·.remember ⟨object, policy.server⟩ (s.catalog.trusts policy object))) := by
  rw [ask, h]

/-- If nothing happens during a walk, what it finds is the answer. -/
lemma ask_id_of_unknown (h : (s.entries name).known? policy object = none) :
    s.ask name policy object id
      = (policy.verdict object (s.catalog.owner object),
          modifyCache { s with walks := s.walks + 1 } name
            (·.remember ⟨object, policy.server⟩
              (policy.verdict object (s.catalog.owner object)))) := by
  obtain ⟨hkey, hlookup⟩ := ShippingCache.key?_of_known?_eq_none h
  rw [ask_of_unknown h, s.catalog.trusts_eq_verdict hkey]
  exact congrArg (·, _) (ShippingCache.recalled_of_lookup_eq_none hlookup)

end ShippingState

end ForeignData
