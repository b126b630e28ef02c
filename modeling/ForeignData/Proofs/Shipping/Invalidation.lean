import ForeignData.Proofs.Shipping.Caches

/-!
# Invalidation during a walk

A walk through the catalog is long enough for anything to happen inside it, also an invalidation of
the very cache for which it is made. What such a walk finds is remembered all the same. So behind an
invalidation a cache may come to remember what walks have found that were open then, and nothing
else that is older.
-/

namespace ForeignData

/-! ### Open walks -/

/-- A walk that has begun: the cache for which it is made, and what is going to be remembered at its
end. -/
structure CatalogWalk where
  name : String
  key : ShippingKey
  decision : Bool

def ShippingState.walk (s : ShippingState) (name : String) (policy : ShippingPolicy)
    (object : CatalogObject) : CatalogWalk :=
  ⟨name, ⟨object, policy.server⟩, s.catalog.trusts policy object⟩

def ShippingState.endWalk (s : ShippingState) (walk : CatalogWalk) : ShippingState :=
  s.modifyCache walk.name (·.remember walk.key walk.decision)

def ShippingStep.IsQuestion : ShippingStep → Prop
  | .ask .. => True
  | _ => False

/-- What may come of a state in which some walks are open, the innermost first: the walks that have
begun since, those that are open, and the state. A question that takes no walk changes nothing. -/
inductive Course (opened₀ : List CatalogWalk) (s₀ : ShippingState) :
    List CatalogWalk → List CatalogWalk → ShippingState → Prop
  | start : Course opened₀ s₀ [] opened₀ s₀
  | step {begun opened : List CatalogWalk} {s : ShippingState} {step : ShippingStep}
      (h : Course opened₀ s₀ begun opened s) (hstep : ¬step.IsQuestion) :
      Course opened₀ s₀ begun opened (step.run s).2
  | beginWalk {begun opened : List CatalogWalk} {s : ShippingState} {name : String}
      {policy : ShippingPolicy} {object : CatalogObject} (h : Course opened₀ s₀ begun opened s)
      (hunknown : (s.entries name).known? policy object = none) :
      Course opened₀ s₀ (s.walk name policy object :: begun) (s.walk name policy object :: opened)
        { s with walks := s.walks + 1 }
  | endWalk {begun opened : List CatalogWalk} {s : ShippingState} {walk : CatalogWalk}
      (h : Course opened₀ s₀ begun (walk :: opened) s) :
      Course opened₀ s₀ begun opened (s.endWalk walk)

mutual

lemma Course.run {opened₀ begun opened : List CatalogWalk} {s₀ s : ShippingState}
    (h : Course opened₀ s₀ begun opened s) :
    ∀ step : ShippingStep, ∃ more, Course opened₀ s₀ (more ++ begun) opened (step.run s).2
  | .ask name policy object during => by
    change ∃ more, Course opened₀ s₀ (more ++ begun) opened
      (s.ask name policy object (ShippingStep.runAll during)).2
    cases hknown : (s.entries name).known? policy object with
    | some decision =>
      rw [ShippingState.ask_of_known hknown]
      exact ⟨[], h⟩
    | none =>
      rw [ShippingState.ask_of_unknown hknown]
      obtain ⟨more, hmore⟩ := Course.runAll (h.beginWalk hknown) during
      refine ⟨more ++ [s.walk name policy object], ?_⟩
      rw [List.append_assoc]
      exact hmore.endWalk
  | .create _ _ => ⟨[], h.step id⟩
  | .drop _ => ⟨[], h.step id⟩
  | .fire => ⟨[], h.step id⟩
  | .flush _ => ⟨[], h.step id⟩
  | .setOwner _ _ => ⟨[], h.step id⟩

lemma Course.runAll {opened₀ begun opened : List CatalogWalk} {s₀ s : ShippingState}
    (h : Course opened₀ s₀ begun opened s) :
    ∀ steps : List ShippingStep,
      ∃ more, Course opened₀ s₀ (more ++ begun) opened (ShippingStep.runAll steps s)
  | [] => ⟨[], h⟩
  | first :: steps => by
    obtain ⟨more, hmore⟩ := Course.run h first
    obtain ⟨further, hfurther⟩ := Course.runAll hmore steps
    refine ⟨further ++ more, ?_⟩
    rw [List.append_assoc]
    exact hfurther

end

/-! ### What comes to be remembered -/

section Courses

variable {opened₀ begun opened : List CatalogWalk} {s₀ s : ShippingState} {name : String}
  {before after : NamedCache}

/-- Without a question a cache stays as it is or is empty. -/
lemma ShippingStep.cache?_run_of_not_isQuestion {step : ShippingStep} (hstep : ¬step.IsQuestion)
    (hafter : (step.run s).2.cache? name = some after) :
    after.entries = [] ∨ s.cache? name = some after := by
  cases step with
  | create other onHub =>
    change (s.create other onHub).cache? name = some after at hafter
    by_cases hname : other = name
    · rw [hname, ShippingState.cache?_create_self] at hafter
      cases hafter
      exact .inl rfl
    · rw [ShippingState.cache?_create_of_ne hname] at hafter
      exact .inr hafter
  | drop other =>
    change (s.drop other).cache? name = some after at hafter
    by_cases hname : other = name
    · rw [hname, ShippingState.cache?_drop_self] at hafter
      cases hafter
    · rw [ShippingState.cache?_drop_of_ne hname] at hafter
      exact .inr hafter
  | fire =>
    change s.fire.cache? name = some after at hafter
    rw [ShippingState.cache?_fire] at hafter
    obtain ⟨before, hbefore, rfl⟩ := Option.map_eq_some_iff.1 hafter
    split
    · exact .inl rfl
    · exact .inr hbefore
  | flush other =>
    change (s.modifyCache other fun _ => []).cache? name = some after at hafter
    by_cases hname : other = name
    · rw [hname, ShippingState.cache?_modifyCache_self] at hafter
      obtain ⟨before, -, rfl⟩ := Option.map_eq_some_iff.1 hafter
      exact .inl rfl
    · rw [ShippingState.cache?_modifyCache_of_ne hname] at hafter
      exact .inr hafter
  | setOwner object extension => exact .inr hafter
  | ask other policy object during => exact absurd trivial hstep

lemma ShippingState.cache?_endWalk_self {walk : CatalogWalk}
    (hbefore : s.cache? walk.name = some before) :
    (s.endWalk walk).cache? walk.name
      = some { before with entries := before.entries.remember walk.key walk.decision } := by
  rw [endWalk, cache?_modifyCache_self, hbefore, Option.map_some]

/-- The end of a walk leaves other caches as they are, and its own one but for its key. -/
lemma ShippingState.lookup_of_endWalk {walk : CatalogWalk}
    (hafter : (s.endWalk walk).cache? name = some after) {key : ShippingKey} {decision : Bool}
    (hlookup : after.entries.lookup key = some decision) :
    walk = ⟨name, key, decision⟩
      ∨ ∃ before, s.cache? name = some before ∧ before.entries.lookup key = some decision := by
  by_cases hname : walk.name = name
  · subst hname
    rw [endWalk, cache?_modifyCache_self] at hafter
    obtain ⟨before, hbefore, rfl⟩ := Option.map_eq_some_iff.1 hafter
    by_cases hkey : key = walk.key
    · subst hkey
      change (before.entries.remember walk.key walk.decision).lookup walk.key = _ at hlookup
      rw [ShippingCache.lookup_remember_self] at hlookup
      cases hearlier : before.entries.lookup walk.key with
      | some earlier =>
        rw [ShippingCache.recalled, hearlier, Option.getD_some] at hlookup
        exact .inr ⟨before, hbefore, hearlier.trans hlookup⟩
      | none =>
        rw [ShippingCache.recalled_of_lookup_eq_none hearlier] at hlookup
        exact .inl (Option.some.inj hlookup ▸ rfl)
    · rw [ShippingCache.lookup_remember_of_ne hkey] at hlookup
      exact .inr ⟨before, hbefore, hlookup⟩
  · rw [endWalk, cache?_modifyCache_of_ne hname] at hafter
    exact .inr ⟨after, hafter, hlookup⟩

namespace Course

/-- A walk that is open has been so from the start or has begun since. -/
lemma mem_of_mem_opened (h : Course opened₀ s₀ begun opened s) :
    ∀ walk ∈ opened, walk ∈ begun ++ opened₀ := by
  induction h with
  | start => exact fun walk hwalk => hwalk
  | step _ _ ih => exact ih
  | beginWalk _ _ ih =>
    exact List.forall_mem_cons.2
      ⟨List.mem_cons_self, fun walk hwalk => List.mem_cons_of_mem _ (ih walk hwalk)⟩
  | endWalk _ ih => exact fun walk hwalk => ih walk (List.mem_cons_of_mem _ hwalk)

/-- A cache that was empty at the start remembers what walks have found that were open then or have
begun since. -/
lemma mem_of_lookup (hempty : ∀ cache, s₀.cache? name = some cache → cache.entries = [])
    (h : Course opened₀ s₀ begun opened s) (hafter : s.cache? name = some after)
    {key : ShippingKey} {decision : Bool} (hlookup : after.entries.lookup key = some decision) :
    ⟨name, key, decision⟩ ∈ begun ++ opened₀ := by
  induction h generalizing after with
  | start =>
    rw [hempty after hafter] at hlookup
    cases hlookup
  | step _ hstep ih =>
    rcases ShippingStep.cache?_run_of_not_isQuestion hstep hafter with hnil | hbefore
    · rw [hnil] at hlookup
      cases hlookup
    · exact ih hbefore hlookup
  | beginWalk _ _ ih => exact List.mem_cons_of_mem _ (ih hafter hlookup)
  | endWalk h ih =>
    rcases ShippingState.lookup_of_endWalk hafter hlookup with rfl | ⟨before, hbefore, hearlier⟩
    · exact h.mem_of_mem_opened _ List.mem_cons_self
    · exact ih hbefore hearlier

/-- If a walk for a cache is open, the cache may come to remember something without another one. -/
lemma exists_lookup_of_mem_opened {walk : CatalogWalk} (hwalk : walk ∈ opened)
    (h : Course opened₀ s₀ begun opened s) (hbefore : s.cache? walk.name = some before) :
    ∃ opened' s' after key decision, Course opened₀ s₀ begun opened' s'
      ∧ s'.cache? walk.name = some after ∧ after.entries.lookup key = some decision := by
  induction opened generalizing s before with
  | nil => cases hwalk
  | cons first opened ih =>
    by_cases hname : first.name = walk.name
    · rw [← hname] at hbefore ⊢
      exact ⟨opened, s.endWalk first, _, first.key, _, h.endWalk,
        ShippingState.cache?_endWalk_self hbefore, ShippingCache.lookup_remember_self⟩
    · have hne : walk ≠ first := fun heq => hname (heq ▸ rfl)
      have hlive := (ShippingState.cache?_modifyCache_of_ne hname
        (·.remember first.key first.decision)).trans hbefore
      exact ih ((List.mem_cons.1 hwalk).resolve_left hne) h.endWalk hlive

end Course

end Courses

/-! ### Invalidations -/

/-- Behind a state in which some walks are open, whatever a cache remembers was found by a walk that
has begun since. -/
def ShippingState.Forgets (s₀ : ShippingState) (opened₀ : List CatalogWalk) (name : String) : Prop :=
  ∀ begun opened s cache key decision, Course opened₀ s₀ begun opened s →
    s.cache? name = some cache → cache.entries.lookup key = some decision →
      ⟨name, key, decision⟩ ∈ begun

/-- A step that invalidates a cache: it is emptied, or a change on the hub empties all on it. -/
def ShippingStep.Invalidates (step : ShippingStep) (cache : NamedCache) : Prop :=
  step = .flush cache.name ∨ step = .fire ∧ cache.onHub = true

lemma ShippingStep.cache?_run_of_invalidates {step : ShippingStep} {s : ShippingState}
    {name : String} {cache : NamedCache} (hlive : s.cache? name = some cache)
    (hstep : step.Invalidates cache) :
    (step.run s).2.cache? name = some { cache with entries := [] } := by
  obtain rfl := ShippingState.name_of_cache? hlive
  rcases hstep with rfl | ⟨rfl, honHub⟩
  · change (s.modifyCache cache.name fun _ => []).cache? cache.name = _
    rw [ShippingState.cache?_modifyCache_self, hlive, Option.map_some]
  · change s.fire.cache? cache.name = _
    rw [ShippingState.cache?_fire, hlive, Option.map_some, if_pos honHub]

/-- Behind an invalidation a cache has forgotten what was decided before it exactly if no walk for
this cache was open at that time. Then each question for a key takes a walk unless one for this key
has begun since. -/
theorem ShippingState.forgets_run_iff {s : ShippingState} {name : String} {cache : NamedCache}
    (hlive : s.cache? name = some cache) {step : ShippingStep} (hstep : step.Invalidates cache)
    (opened₀ : List CatalogWalk) :
    ((step.run s).2.Forgets opened₀ name ↔ ∀ walk ∈ opened₀, walk.name ≠ name)
      ∧ ((step.run s).2.Forgets opened₀ name →
          ∀ begun opened s' cache', Course opened₀ (step.run s).2 begun opened s' →
            s'.cache? name = some cache' → ∀ policy object key,
              policy.key? object = some key → (∀ decision, ⟨name, key, decision⟩ ∉ begun) →
                cache'.entries.known? policy object = none)
      ∧ ∀ steps, ∃ begun, Course opened₀ (step.run s).2 begun opened₀
          (ShippingStep.runAll steps (step.run s).2) := by
  have hlive' := ShippingStep.cache?_run_of_invalidates hlive hstep
  have hempty : ∀ cache, (step.run s).2.cache? name = some cache → cache.entries = [] := by
    intro cache hcache
    rw [hlive'] at hcache
    cases hcache
    rfl
  refine ⟨⟨fun hforgets walk hwalk hname => ?_, fun hother => ?_⟩, ?_, fun steps => ?_⟩
  · subst hname
    obtain ⟨opened, s', after, key, decision, hcourse, hafter, hlookup⟩ :=
      Course.start.exists_lookup_of_mem_opened hwalk hlive'
    cases hforgets [] opened s' after key decision hcourse hafter hlookup
  · intro begun opened s' after key decision hcourse hafter hlookup
    refine (List.mem_append.1 (hcourse.mem_of_lookup hempty hafter hlookup)).resolve_right ?_
    exact fun hmem => hother _ hmem rfl
  · intro hforgets begun opened s' after hcourse hafter policy object key hkey hbegun
    rw [ShippingCache.known?_of_key? hkey]
    cases hlookup : after.entries.lookup key with
    | none => rfl
    | some decision =>
      exact absurd (hforgets begun opened s' after key decision hcourse hafter hlookup)
        (hbegun decision)
  · obtain ⟨begun, hcourse⟩ := Course.start.runAll steps
    exact ⟨begun, List.append_nil begun ▸ hcourse⟩

/-- A cache is emptied during a walk for another one, which makes it forget all. -/
theorem ShippingState.forgets_run_iff_flushed :
    ∃ s : ShippingState, s.cache? "a" = some ⟨"a", true, [(⟨⟨.function, 16001⟩, 40000⟩, true)]⟩
      ∧ ((ShippingStep.flush "a").run s).2.Forgets [⟨"b", ⟨⟨.function, 16001⟩, 40000⟩, true⟩] "a" := by
  have hlive : cache? ⟨.empty, [⟨"a", true, [(⟨⟨.function, 16001⟩, 40000⟩, true)]⟩,
      ⟨"b", true, []⟩], 2⟩ "a" = some ⟨"a", true, [(⟨⟨.function, 16001⟩, 40000⟩, true)]⟩ := rfl
  exact ⟨_, hlive, (forgets_run_iff hlive (.inl rfl) _).1.2 (by simp)⟩

/-- The hub fires during a walk, because the server no longer trusts the extension that owns a
function. What the walk has found is remembered behind that, so the next question takes no walk, and
the function is shipped. -/
theorem ShippingStep.outlived_fire :
    ∃ s, runAll [.create "a" true, .setOwner ⟨.function, 16001⟩ (some 30001),
        .ask "a" ⟨40000, [30001]⟩ ⟨.function, 16001⟩ [.fire]] ⟨.empty, [], 0⟩ = s
      ∧ s.walks = 1
      ∧ ((ask "a" ⟨40000, [30002]⟩ ⟨.function, 16001⟩ []).run s).1 = some true
      ∧ ((ask "a" ⟨40000, [30002]⟩ ⟨.function, 16001⟩ []).run s).2.walks = 1
      ∧ s.catalog.trusts ⟨40000, [30002]⟩ ⟨.function, 16001⟩ = false :=
  ⟨_, rfl, rfl, rfl, rfl, rfl⟩

end ForeignData
