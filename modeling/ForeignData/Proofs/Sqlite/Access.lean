import Mathlib.Tactic.Lemma
import ForeignData.Sqlite.Program

/-!
# Access without indexes

A table that has no index is gone through by itself: among the ways to its rows there is none
through an index, so the one that is taken keeps the rows in the order of their key.
-/

namespace ForeignData.Sqlite

/-- A way that goes through the table itself. -/
def AccessPath.IsPlain (path : AccessPath) : Prop :=
  path.search.index = none

/-- All known ways go through the table itself. -/
def KnownPaths.ArePlain (known : KnownPaths) : Prop :=
  ∀ path ∈ known.paths, path.IsPlain

/-! ### Known ways -/

namespace AccessPath

lemma search_beside (path known : AccessPath) : (path.beside known).search = path.search := by
  unfold beside
  split
  · split
    · rfl
    · split <;> rfl
  · rfl

lemma mem_purge {path other : AccessPath} {paths : List AccessPath}
    (h : other ∈ path.purge paths) : other ∈ paths := by
  induction paths with
  | nil => exact h
  | cons known paths ih =>
    rw [purge] at h
    split at h
    · exact h
    · split at h
      · exact List.mem_cons_of_mem _ (ih h)
      · rcases List.mem_cons.1 h with rfl | h
        · exact List.mem_cons_self
        · exact List.mem_cons_of_mem _ (ih h)

lemma mem_placeIn {path other : AccessPath} {paths : List AccessPath}
    (h : other ∈ path.placeIn paths) : other = path ∨ other ∈ paths := by
  induction paths with
  | nil => exact .inl (List.mem_singleton.1 h)
  | cons known paths ih =>
    rw [placeIn] at h
    split at h
    · exact .inr h
    · split at h
      · rcases List.mem_cons.1 h with rfl | h
        · exact .inl rfl
        · exact .inr (List.mem_cons_of_mem _ (mem_purge h))
      · rcases List.mem_cons.1 h with rfl | h
        · exact .inr List.mem_cons_self
        · rcases ih h with rfl | h
          · exact .inl rfl
          · exact .inr (List.mem_cons_of_mem _ h)

end AccessPath

namespace KnownPaths.ArePlain

variable {known : KnownPaths} {path : AccessPath}

lemma add (hknown : known.ArePlain) (hpath : path.IsPlain) : (known.add path).ArePlain := by
  have hbeside : (known.paths.foldl AccessPath.beside path).IsPlain := by
    refine List.foldlRecOn known.paths AccessPath.beside hpath ?_
    intro path hpath other _
    rw [AccessPath.IsPlain, AccessPath.search_beside]
    exact hpath
  intro other hother
  unfold KnownPaths.add at hother
  dsimp only at hother
  split at hother
  · rcases List.mem_cons.1 hother with rfl | hother
    · exact hbeside
    · exact hknown other (AccessPath.mem_purge hother)
  · rcases AccessPath.mem_placeIn hother with rfl | hother
    · exact hbeside
    · exact hknown other hother

lemma best? (hknown : known.ArePlain) (h : known.best? = some path) : path.IsPlain := by
  unfold KnownPaths.best? at h
  split at h
  · cases h
  · rename_i first paths hpaths
    rw [ArePlain, hpaths] at hknown
    obtain ⟨hfirst, htail⟩ := List.forall_mem_cons.1 hknown
    obtain rfl := Option.some.inj h
    refine List.foldlRecOn paths _ hfirst ?_
    intro best hbest other hother
    split
    · exact htail other hother
    · exact hbest

end KnownPaths.ArePlain

/-! ### The way that is taken -/

namespace AccessGoal

variable {goal : AccessGoal} {range : Range} {known : KnownPaths}

lemma isPlain_pathOf (goal : AccessGoal) (hrange : range.index = none) (s : Settled)
    (lower upper : Bool) : (goal.pathOf range s lower upper).IsPlain :=
  hrange

lemma arePlain_addUpper (hrange : range.index = none) (hknown : known.ArePlain) (r : Ref)
    (s : Settled) (lower : Option (Nat × TestKind)) :
    (goal.addUpper range r s lower known).ArePlain := by
  refine List.foldlRecOn _ _ hknown ?_
  intro known hknown test _
  exact hknown.add (isPlain_pathOf goal hrange _ _ _)

lemma arePlain_addSearches (hrange : range.index = none) (refs : List Ref) (s : Settled)
    (hknown : known.ArePlain) : (goal.addSearches range refs s known).ArePlain := by
  induction refs generalizing s known with
  | nil => exact hknown
  | cons r refs ih =>
    refine List.foldlRecOn _ _ hknown ?_
    rintro known hknown ⟨number, kind⟩ _
    have hpath := fun s lower upper => isPlain_pathOf goal hrange s lower upper
    cases kind with
    | equal isCommon => exact ih _ (hknown.add (hpath _ _ _))
    | oneOf choices => exact ih _ (hknown.add (hpath _ _ _))
    | isNull => exact ih _ (hknown.add (hpath _ _ _))
    | present => exact arePlain_addUpper hrange (hknown.add (hpath _ _ _)) _ _ _
    | lower => exact arePlain_addUpper hrange (hknown.add (hpath _ _ _)) _ _ _
    | upper => exact hknown.add (hpath _ _ _)

lemma arePlain_knownPaths (hindexes : goal.table.indexes = []) : goal.knownPaths.ArePlain := by
  have hnone : ∀ isFirstOpen, (KnownPaths.mk isFirstOpen []).ArePlain := by
    intro isFirstOpen path hpath
    cases hpath
  unfold knownPaths
  dsimp only
  rw [hindexes, List.foldl_nil]
  split
  · exact arePlain_addSearches rfl _ _ ((hnone _).add rfl)
  · exact hnone _

lemma isPlain_of_single? (hindexes : goal.table.indexes = []) {path : AccessPath}
    (h : goal.single? = some path) : path.IsPlain := by
  unfold single? at h
  split at h
  · obtain rfl := Option.some.inj h
    rfl
  · dsimp only at h
    rw [hindexes] at h
    cases h

/-- Where there is no index, the way that is taken goes through the table itself. -/
lemma isPlain_best (hindexes : goal.table.indexes = []) : goal.best.IsPlain := by
  unfold best
  cases hsingle : goal.single? with
  | some path => exact isPlain_of_single? hindexes hsingle
  | none =>
    cases hbest : goal.knownPaths.best? with
    | some path => exact (arePlain_knownPaths hindexes).best? hbest
    | none => rfl

end AccessGoal

end ForeignData.Sqlite
