import ForeignData.Proofs.Shipping.Caches
import Mathlib.Data.List.Dedup

/-!
# Remembering changes no answer

The questions that a cache is asked between two invalidations are noted down with their answers and
the walks that they took. As long as owners and lists of extensions stay the same for so long, each
answer is what a walk would find, and there is one walk for each key that is asked for: this is the
invariant that every step on the caches keeps, and it starts anew with every invalidation.
-/

namespace ForeignData

/-! ### What a cache is asked -/

/-- A question to a cache: what it was about, which extension owned the object at that time, the
answer, and the number of walks that it took. -/
structure Question where
  object : CatalogObject
  policy : ShippingPolicy
  owner : Option Oid
  answer : Bool
  walks : Nat

namespace Question

/-- What the answer is remembered for. -/
def key? (q : Question) : Option ShippingKey :=
  q.policy.key? q.object

/-- What a walk at the time of the question would find. -/
def verdict (q : Question) : Bool :=
  q.policy.verdict q.object q.owner

/-- Between two questions neither the owner of an object has changed nor what a server trusts. -/
def Agrees (q r : Question) : Prop :=
  (q.object = r.object → q.owner = r.owner)
    ∧ (q.policy.server = r.policy.server → q.policy.extensions = r.policy.extensions)

/-- Questions for one key have one verdict, unless something has changed between them. -/
lemma Agrees.verdict_eq {q r : Question} (h : q.Agrees r) {key : ShippingKey}
    (hq : q.key? = some key) (hr : r.key? = some key) : q.verdict = r.verdict := by
  obtain ⟨-, -, hkey⟩ := ShippingPolicy.eq_of_key? hq
  obtain ⟨-, -, hkey'⟩ := ShippingPolicy.eq_of_key? hr
  rw [hkey] at hkey'
  obtain ⟨hobject, hserver⟩ := ShippingKey.mk.inj hkey'
  unfold verdict ShippingPolicy.verdict
  rw [hobject, h.1 hobject, h.2 hserver]

end Question

/-- The number of walks that the questions for a key took. -/
def walksFor (key : ShippingKey) : List Question → Nat
  | [] => 0
  | q :: asked => (if q.key? = some key then q.walks else 0) + walksFor key asked

def ShippingState.question (s : ShippingState) (name : String) (policy : ShippingPolicy)
    (object : CatalogObject) (during : ShippingState → ShippingState) : Question where
  object
  policy
  owner := s.catalog.owner object
  answer := (s.ask name policy object during).1
  walks := (s.ask name policy object during).2.walks - s.walks

namespace ShippingStep

/-- Whether nothing happens inside a walk. -/
def IsPlain : ShippingStep → Prop
  | .ask _ _ _ during => during = []
  | _ => True

/-- The cache that a step is about, if it is about one. -/
def subject? : ShippingStep → Option String
  | .create name _ | .drop name | .flush name | .ask name .. => some name
  | .fire | .setOwner .. => none

/-- The notes on a cache after a step: a question is put in front, and an invalidation of the cache
wipes them. -/
def note (name : String) (s : ShippingState) (asked : List Question) :
    ShippingStep → List Question
  | .create other _ | .drop other | .flush other => if other = name then [] else asked
  | .fire => if (s.cache? name).any NamedCache.onHub then [] else asked
  | .setOwner .. => asked
  | .ask other policy object during =>
    if other = name then s.question name policy object (runAll during) :: asked else asked

/-- The questions that a cache has been asked since it was made or last emptied, the latest first,
when steps are taken one after the other. -/
def askedSince (name : String) : List ShippingStep → ShippingState → List Question → List Question
  | [], _, asked => asked
  | step :: steps, s, asked =>
    askedSince name steps (step.run s).2 (step.note name s asked)

/-! ### The invariant -/

/-- A cache remembers what it has been asked: one decision for each key, which is the verdict. -/
structure Remembers (entries : ShippingCache) (asked : List Question) : Prop where
  answer_eq : ∀ q ∈ asked, q.answer = q.verdict
  walks_eq_zero : ∀ q ∈ asked, q.key? = none → q.walks = 0
  walksFor_eq : ∀ key, walksFor key asked = if key ∈ asked.filterMap Question.key? then 1 else 0
  keys_eq : entries.map Prod.fst = (asked.filterMap Question.key?).dedup
  decision_eq : ∀ p ∈ entries, ∃ q ∈ asked, q.key? = some p.1 ∧ p.2 = q.verdict

lemma remembers_nil : Remembers [] [] where
  answer_eq := by simp
  walks_eq_zero := by simp
  walksFor_eq := by simp [walksFor]
  keys_eq := by simp
  decision_eq := by simp

namespace Remembers

variable {entries : ShippingCache} {asked : List Question} {q : Question}

lemma eq_verdict (h : Remembers entries asked) (hsteady : ∀ r ∈ asked, q.Agrees r)
    {key : ShippingKey} (hkey : q.key? = some key) {decision : Bool}
    (hlookup : entries.lookup key = some decision) : decision = q.verdict := by
  obtain ⟨before, behind, rfl, -⟩ := List.lookup_eq_some_iff.1 hlookup
  obtain ⟨r, hr, hrkey, rfl⟩ := h.decision_eq (key, decision) (by simp)
  exact ((hsteady r hr).verdict_eq hkey hrkey).symm

lemma mem_keys (h : Remembers entries asked) {key : ShippingKey} :
    key ∈ asked.filterMap Question.key? ↔ (entries.lookup key).isSome := by
  rw [← List.mem_dedup, ← h.keys_eq, List.lookup_isSome_iff, List.mem_map]
  constructor
  · rintro ⟨p, hp, rfl⟩
    exact ⟨p, hp, beq_self_eq_true _⟩
  · rintro ⟨p, hp, hkey⟩
    exact ⟨p, hp, (eq_of_beq hkey).symm⟩

/-- A question that is answered without a walk leaves the cache as it is. -/
lemma cons_known (h : Remembers entries asked) (hsteady : ∀ r ∈ asked, q.Agrees r)
    (hknown : entries.known? q.policy q.object = some q.answer) (hwalks : q.walks = 0) :
    Remembers entries (q :: asked) := by
  have hverdict : q.answer = q.verdict := by
    cases hkey : q.key? with
    | none =>
      rw [ShippingCache.known?_of_key?_eq_none hkey q.owner] at hknown
      exact (Option.some.inj hknown).symm
    | some key =>
      rw [ShippingCache.known?_of_key? hkey] at hknown
      exact h.eq_verdict hsteady hkey hknown
  -- the key of the question, if it has one, has been asked for before
  have hkeys : ∀ key, q.key? = some key → key ∈ asked.filterMap Question.key? := by
    intro key hkey
    rw [ShippingCache.known?_of_key? hkey] at hknown
    rw [h.mem_keys, hknown, Option.isSome_some]
  refine ⟨?_, ?_, fun key => ?_, ?_, fun p hp => ?_⟩
  · exact List.forall_mem_cons.2 ⟨hverdict, h.answer_eq⟩
  · exact List.forall_mem_cons.2 ⟨fun _ => hwalks, h.walks_eq_zero⟩
  · rw [walksFor, hwalks, ite_self, Nat.zero_add, h.walksFor_eq]
    congr 1
    rw [List.filterMap_cons]
    split
    · rfl
    · rename_i key' hkey'
      rw [List.mem_cons, eq_iff_iff, iff_or_self]
      rintro rfl
      exact hkeys key hkey'
  · rw [h.keys_eq, List.filterMap_cons]
    split
    · rfl
    · rename_i key hkey
      rw [List.dedup_cons_of_mem (hkeys key hkey)]
  · obtain ⟨r, hr, hdecision⟩ := h.decision_eq p hp
    exact ⟨r, List.mem_cons_of_mem q hr, hdecision⟩

lemma cons_unknown (h : Remembers entries asked)
    (hunknown : entries.known? q.policy q.object = none) (hanswer : q.answer = q.verdict)
    (hwalks : q.walks = 1) :
    Remembers ((⟨q.object, q.policy.server⟩, q.answer) :: entries) (q :: asked) := by
  obtain ⟨hkey, hlookup⟩ := ShippingCache.key?_of_known?_eq_none hunknown
  change q.key? = _ at hkey
  have hnew : ⟨q.object, q.policy.server⟩ ∉ asked.filterMap Question.key? := by
    rw [h.mem_keys, hlookup]
    simp
  refine ⟨?_, ?_, fun key => ?_, ?_, fun p hp => ?_⟩
  · exact List.forall_mem_cons.2 ⟨hanswer, h.answer_eq⟩
  · refine List.forall_mem_cons.2 ⟨fun hnone => ?_, h.walks_eq_zero⟩
    rw [hkey] at hnone
    cases hnone
  · rw [walksFor, h.walksFor_eq, hwalks, List.filterMap_cons_some hkey, hkey]
    by_cases hsame : key = ⟨q.object, q.policy.server⟩
    · subst hsame
      rw [if_pos rfl, if_neg hnew, if_pos List.mem_cons_self]
    · rw [if_neg (fun heq => hsame (Option.some.inj heq).symm), Nat.zero_add]
      exact if_congr (List.mem_cons.trans (or_iff_right hsame)).symm rfl rfl
  · rw [List.map_cons, h.keys_eq, List.filterMap_cons_some hkey, List.dedup_cons_of_notMem hnew]
  · rcases List.mem_cons.1 hp with rfl | hp
    · exact ⟨q, List.mem_cons_self, hkey, hanswer⟩
    · obtain ⟨r, hr, hdecision⟩ := h.decision_eq p hp
      exact ⟨r, List.mem_cons_of_mem q hr, hdecision⟩

end Remembers

/-! ### Steps -/

variable {name : String} {s : ShippingState} {asked : List Question}

lemma cache?_run_of_ne {step : ShippingStep} (hplain : step.IsPlain) {other : String}
    (hsubject : step.subject? = some other) (hne : other ≠ name) :
    (step.run s).2.cache? name = s.cache? name := by
  cases step with
  | create _ onHub =>
    cases hsubject
    exact ShippingState.cache?_create_of_ne hne onHub
  | drop _ =>
    cases hsubject
    exact ShippingState.cache?_drop_of_ne hne
  | flush _ =>
    cases hsubject
    exact ShippingState.cache?_modifyCache_of_ne hne _
  | ask _ policy object during =>
    cases hsubject
    change during = [] at hplain
    subst hplain
    change (s.ask other policy object id).2.cache? name = s.cache? name
    cases hknown : (s.entries other).known? policy object with
    | some decision => rw [ShippingState.ask_of_known hknown]
    | none =>
      rw [ShippingState.ask_id_of_unknown hknown]
      exact ShippingState.cache?_modifyCache_of_ne hne _
  | fire => cases hsubject
  | setOwner object extension => cases hsubject

/-- The notes on a cache say what it remembers, if nothing has changed between the questions. -/
def Tracks (name : String) (s : ShippingState) (asked : List Question) : Prop :=
  asked.Pairwise Question.Agrees → ∀ cache, s.cache? name = some cache →
    Remembers cache.entries asked

/-- Notes are begun anew with a cache that is empty. -/
lemma tracks_nil (h : ∀ cache, s.cache? name = some cache → cache.entries = []) :
    Tracks name s [] := by
  intro _ cache hcache
  rw [h cache hcache]
  exact remembers_nil

lemma Tracks.congr (h : Tracks name s asked) {s' : ShippingState}
    (hcache : s'.cache? name = s.cache? name) : Tracks name s' asked := by
  intro hsteady cache hcache'
  exact h hsteady cache (hcache ▸ hcache')

lemma Tracks.ask (h : Tracks name s asked) (policy : ShippingPolicy) (object : CatalogObject) :
    Tracks name (s.ask name policy object id).2 (s.question name policy object id :: asked) := by
  intro hsteady cache hcache
  obtain ⟨hagrees, hsteady⟩ := List.pairwise_cons.1 hsteady
  cases hknown : (s.entries name).known? policy object with
  | some decision =>
    have hask := ShippingState.ask_of_known hknown id
    rw [hask] at hcache
    rw [ShippingState.entries_of_cache? hcache] at hknown
    refine (h hsteady cache hcache).cons_known hagrees ?_ ?_
    · rw [ShippingState.question, hask]
      exact hknown
    · rw [ShippingState.question, hask, Nat.sub_self]
  | none =>
    have hask := ShippingState.ask_id_of_unknown hknown
    rw [hask, ShippingState.cache?_modifyCache_self] at hcache
    obtain ⟨earlier, hearlier, rfl⟩ := Option.map_eq_some_iff.1 hcache
    change s.cache? name = some earlier at hearlier
    rw [ShippingState.entries_of_cache? hearlier] at hknown
    obtain ⟨-, hlookup⟩ := ShippingCache.key?_of_known?_eq_none hknown
    have hcons := (h hsteady earlier hearlier).cons_unknown (q := s.question name policy object id)
      hknown (by rw [ShippingState.question, hask]; rfl)
      (by rw [ShippingState.question, hask]; exact Nat.add_sub_cancel_left s.walks 1)
    rw [ShippingCache.remember_of_lookup_eq_none hlookup]
    rw [ShippingState.question, hask] at hcons ⊢
    exact hcons

/-- Every step keeps the notes true. -/
lemma Tracks.step (h : Tracks name s asked) {step : ShippingStep} (hplain : step.IsPlain) :
    Tracks name (step.run s).2 (step.note name s asked) := by
  cases step with
  | create other onHub =>
    rw [note]
    split
    · subst name
      refine tracks_nil fun cache hcache => ?_
      change (s.create other onHub).cache? other = some cache at hcache
      rw [ShippingState.cache?_create_self] at hcache
      cases hcache
      rfl
    · exact h.congr (cache?_run_of_ne hplain rfl ‹_›)
  | drop other =>
    rw [note]
    split
    · subst name
      refine tracks_nil fun cache hcache => ?_
      change (s.drop other).cache? other = some cache at hcache
      rw [ShippingState.cache?_drop_self] at hcache
      cases hcache
    · exact h.congr (cache?_run_of_ne hplain rfl ‹_›)
  | flush other =>
    rw [note]
    split
    · subst name
      refine tracks_nil fun cache hcache => ?_
      change (s.flush other).cache? other = some cache at hcache
      rw [ShippingState.flush, ShippingState.cache?_modifyCache_self] at hcache
      obtain ⟨earlier, -, rfl⟩ := Option.map_eq_some_iff.1 hcache
      rfl
    · exact h.congr (cache?_run_of_ne hplain rfl ‹_›)
  | fire =>
    intro hsteady cache hcache
    change s.fire.cache? name = some cache at hcache
    rw [ShippingState.cache?_fire] at hcache
    obtain ⟨earlier, hearlier, rfl⟩ := Option.map_eq_some_iff.1 hcache
    rw [note, hearlier, Option.any_some] at hsteady ⊢
    cases honHub : earlier.onHub with
    | true => exact remembers_nil
    | false =>
      rw [honHub, if_neg Bool.false_ne_true] at hsteady
      exact h hsteady earlier hearlier
  | setOwner object extension => exact h.congr rfl
  | ask other policy object during =>
    have hduring : during = [] := hplain
    subst hduring
    rw [note]
    split
    · subst name
      exact h.ask policy object
    · exact h.congr (cache?_run_of_ne hplain rfl ‹_›)

/-- What holds of the notes before some steps holds of them behind these. -/
lemma Tracks.runAll {steps : List ShippingStep} (hplain : ∀ step ∈ steps, step.IsPlain)
    (h : Tracks name s asked) :
    Tracks name (runAll steps s) (askedSince name steps s asked) := by
  induction steps generalizing s asked with
  | nil => exact h
  | cons step steps ih =>
    obtain ⟨hstep, hsteps⟩ := List.forall_mem_cons.1 hplain
    exact ih hsteps (h.step hstep)

/-- Whatever steps are taken on the caches of a hub, with nothing happening inside a walk: if
neither owners nor lists of extensions change between two questions to a cache without an
invalidation of it, each answer is the one that the catalog gives at that time. There is one walk
for each key that the cache has been asked for since its last invalidation, and its size is their
number. An invalidation by the hub empties exactly the caches on it, and a step on one cache leaves
all others as they are. -/
theorem answers_of_runAll {steps : List ShippingStep} (hplain : ∀ step ∈ steps, step.IsPlain)
    {catalog : Catalog} {s : ShippingState}
    (hrun : ShippingStep.runAll steps ⟨catalog, [], 0⟩ = s) {name : String} {cache : NamedCache}
    (hlive : s.cache? name = some cache) {asked : List Question}
    (hasked : askedSince name steps ⟨catalog, [], 0⟩ [] = asked)
    (hsteady : asked.Pairwise Question.Agrees) :
    (∀ q ∈ asked, q.answer = q.policy.verdict q.object q.owner)
      ∧ (∀ q ∈ asked, q.key? = none → q.walks = 0)
      ∧ (∀ key, walksFor key asked = if key ∈ asked.filterMap Question.key? then 1 else 0)
      ∧ cache.entries.length = (asked.filterMap Question.key?).dedup.length
      ∧ (∀ other, s.fire.cache? other = (s.cache? other).map fun cache =>
          if cache.onHub then { cache with entries := [] } else cache)
      ∧ ∀ step : ShippingStep, step.IsPlain → ∀ other, step.subject? = some other → other ≠ name →
          (step.run s).2.cache? name = some cache := by
  subst hrun hasked
  have hstart : Tracks name ⟨catalog, [], 0⟩ [] := tracks_nil fun cache hcache => by cases hcache
  have hremembers := hstart.runAll hplain hsteady cache hlive
  refine ⟨hremembers.answer_eq, hremembers.walks_eq_zero, hremembers.walksFor_eq, ?_,
    ShippingState.cache?_fire _, fun step hstep other hother hne => ?_⟩
  · rw [← hremembers.keys_eq, List.length_map]
  · rw [cache?_run_of_ne hstep hother hne, hlive]

/-- Two caches, only one of which is on the hub, are asked for a function; then the extension that
owns it gives it away, and the cache on the hub is asked again. -/
def disowned : List ShippingStep :=
  [.create "a" true, .create "b" false, .setOwner ⟨.function, 16001⟩ (some 30001),
    .ask "a" ⟨40000, [30001]⟩ ⟨.function, 16001⟩ [], .ask "b" ⟨40000, [30001]⟩ ⟨.function, 16001⟩ [],
    .setOwner ⟨.function, 16001⟩ none, .fire, .ask "a" ⟨40000, [30001]⟩ ⟨.function, 16001⟩ [],
    .ask "a" ⟨40000, [30001]⟩ ⟨.type, 16001⟩ [], .ask "a" ⟨40000, [30001]⟩ ⟨.function, 9999⟩ [],
    .ask "a" ⟨40000, [30001]⟩ ⟨.function, 16001⟩ []]

instance (q r : Question) : Decidable (q.Agrees r) :=
  inferInstanceAs (Decidable (_ ∧ _))

theorem answers_of_runAll_disowned :
    ∃ asked, askedSince "a" disowned ⟨.empty, [], 0⟩ [] = asked
      ∧ asked.Pairwise Question.Agrees ∧ asked.map Question.answer = [false, true, false, false]
      ∧ (runAll disowned ⟨.empty, [], 0⟩).walks = 4
      ∧ (∀ q ∈ asked, q.answer = q.policy.verdict q.object q.owner)
      ∧ walksFor ⟨⟨.function, 16001⟩, 40000⟩ asked = 1 := by
  have hplain : ∀ step ∈ disowned, step.IsPlain := by simp [disowned, IsPlain]
  have hlive : (runAll disowned ⟨.empty, [], 0⟩).cache? "a"
      = some ⟨"a", true, [(⟨⟨.type, 16001⟩, 40000⟩, false), (⟨⟨.function, 16001⟩, 40000⟩, false)]⟩ :=
    rfl
  have hsteady : (askedSince "a" disowned ⟨.empty, [], 0⟩ []).Pairwise Question.Agrees := by decide
  obtain ⟨hanswer, -, hwalks, -⟩ := answers_of_runAll hplain rfl hlive rfl hsteady
  exact ⟨_, rfl, hsteady, rfl, rfl, hanswer, (hwalks _).trans (by decide)⟩

end ShippingStep

end ForeignData
