import ForeignData.Proofs.Action
import ForeignData.Proofs.Plan.Sorting

/-!
# Columns that the host checks

The columns of a query are fixed when its table is sized, with what the clauses look at that are
left to the host then. A clause that comes in with the scan and is left to the host too adds nothing
to them. So the host has all that it checks as long as such clauses look at nothing new.
-/

namespace ForeignData

/-! ### Sets of attributes -/

namespace AttrSet

lemma mem_insert {m n : AttrNumber} {s : AttrSet} : m ∈ insert n s ↔ m = n ∨ m ∈ s := by
  induction s with
  | nil => simp [insert]
  | cons k s ih =>
    rw [insert]
    split
    · exact List.mem_cons
    · split
      · subst k
        rw [List.mem_cons, or_self_left]
      · rw [List.mem_cons, List.mem_cons, ih, or_left_comm]

lemma mem_union {n : AttrNumber} {s t : AttrSet} : n ∈ s.union t ↔ n ∈ s ∨ n ∈ t := by
  unfold union
  induction t generalizing s with
  | nil => simp
  | cons m t ih => rw [List.foldl_cons, ih, mem_insert, List.mem_cons, or_assoc, or_left_comm]

lemma mem_ofList {n : AttrNumber} {ns : List AttrNumber} : n ∈ ofList ns ↔ n ∈ ns := by
  have hunion : n ∈ union [] ns ↔ _ := mem_union
  exact hunion.trans (or_iff_right List.not_mem_nil)

end AttrSet

lemma SortedClauses.mem_recheckAttrs {n : AttrNumber} {c : SortedClauses} :
    n ∈ c.recheckAttrs ↔ ∃ clause ∈ c.recheck, n ∈ clause.attrs := by
  rw [recheckAttrs, AttrSet.mem_ofList, List.mem_flatMap]

lemma SizedTable.mem_neededAttrs {n : AttrNumber} {targets : List AttrNumber}
    {clauses : SortedClauses} :
    n ∈ neededAttrs targets clauses
      ↔ n ∈ targets ∨ ∃ clause ∈ clauses.recheck, n ∈ clause.attrs := by
  rw [neededAttrs, AttrSet.mem_union, AttrSet.mem_ofList, SortedClauses.mem_recheckAttrs]

lemma RemoteQuery.mem_retrieved_ofAttrs {table : HostTable} {attrs : AttrSet} {remoteName : String}
    {fetchRowid : Bool} {filters : List Clause} {n : AttrNumber} :
    n ∈ (ofAttrs table attrs remoteName fetchRowid filters).retrieved
      ↔ n ∈ attrs ∧ (table.column? n).isSome := by
  rw [retrieved, ofAttrs, HostTable.column?, List.find?_isSome, List.mem_map]
  constructor
  · rintro ⟨column, hcolumn, rfl⟩
    obtain ⟨hmem, hattr⟩ := List.mem_filter.1 hcolumn
    exact ⟨List.contains_iff_mem.1 hattr, column, hmem, beq_self_eq_true _⟩
  · rintro ⟨hattr, column, hmem, hnumber⟩
    obtain rfl := eq_of_beq hnumber
    exact ⟨column, List.mem_filter.2 ⟨hmem, List.contains_iff_mem.2 hattr⟩, rfl⟩

/-! ### Sorting -/

section Sorting

variable {σ : Type} {safe : SafetyTest σ} {clause : Clause} {clauses : List Clause}
  {earlier : SortedClauses}

lemma SortedClauses.mem_put {isSafe : Bool} {other : Clause} {c : SortedClauses} :
    other ∈ (c.put isSafe clause).remote ∨ other ∈ (c.put isSafe clause).recheck
      ↔ other = clause ∨ other ∈ c.remote ∨ other ∈ c.recheck := by
  cases isSafe <;> simp [put, or_assoc, or_left_comm]

/-- Every clause stands on a side. -/
lemma mem_sortClauses (s : σ) :
    clause ∈ ((sortClauses safe clauses).run s).1.remote
        ∨ clause ∈ ((sortClauses safe clauses).run s).1.recheck ↔ clause ∈ clauses := by
  induction clauses generalizing s with
  | nil => exact or_self_iff
  | cons first clauses ih =>
    have hrun : ((sortClauses safe (first :: clauses)).run s).1
        = ((sortClauses safe clauses).run (safe first s).2).1.put (safe first s).1 first := rfl
    rw [hrun, SortedClauses.mem_put, ih, List.mem_cons]

/-- What the host is to check of the clauses of a scan was not left to SQLite before. -/
lemma mem_sortScanClauses (s : σ)
    (h : clause ∈ ((sortScanClauses earlier safe clauses).run s).1.recheck) :
    clause ∈ clauses ∧ earlier.side? clause ≠ some true := by
  obtain ⟨placement, hsorts⟩ := exists_sortsScan earlier safe clauses s
  rw [hsorts.sorted] at h
  obtain ⟨placed, hplaced, rfl⟩ := List.mem_map.1 h
  obtain ⟨hplaced, hlocal⟩ := List.mem_filter.1 hplaced
  constructor
  · have hmem : placed.1 ∈ placement.clauses := List.mem_map_of_mem hplaced
    rw [hsorts.clauses] at hmem
    exact (List.mem_filter.1 hmem).1
  · intro hside
    rw [hsorts.remote placed hplaced (SortedClauses.side?_eq_some_true.1 hside)] at hlocal
    cases hlocal

lemma SortedClauses.mem_recheck_of_side?_ne {restrictions : List Clause}
    (hsorted : ∀ other, other ∈ earlier.remote ∨ other ∈ earlier.recheck ↔ other ∈ restrictions)
    (hclause : clause ∈ restrictions) (hside : earlier.side? clause ≠ some true) :
    clause ∈ earlier.recheck := by
  have hremote : clause ∉ earlier.remote := fun hmem =>
    hside (side?_eq_some_true.2 ⟨clause, hmem, rfl⟩)
  exact ((hsorted clause).2 hclause).resolve_left hremote

end Sorting

/-! ### Plans -/

def HostTable.mentioned (table : HostTable) (clause : Clause) : List AttrNumber :=
  clause.attrs.filter fun n => (table.column? n).isSome

namespace SizedTable

variable {σ : Type} {table : HostTable} {source : TableSource} {policy : ShippingPolicy}
  {targets : List AttrNumber} {restrictions scanClauses : List Clause} {safe : SafetyTest σ}
  {estimate : (database query : String) → Except Fault Int64}

/-- Once a table is sized, every clause on it stands on a side, and the columns are fixed. -/
lemma ofEstimate_run_eq_ok {s s' : σ} {sized : SizedTable}
    (h : (ofEstimate table source policy targets restrictions safe estimate).run s
      = (.ok sized, s')) :
    (∀ clause, clause ∈ sized.clauses.remote ∨ clause ∈ sized.clauses.recheck
        ↔ clause ∈ restrictions)
      ∧ sized.attrs = neededAttrs targets sized.clauses := by
  obtain ⟨clauses, s₁, hclauses, h⟩ := Action.run_bind_eq_ok h
  obtain ⟨rows, s₂, -, h⟩ := Action.run_bind_eq_ok h
  obtain rfl := Except.ok.inj (Prod.mk.inj h).1
  have hrun : ((sortClauses safe restrictions).run s).1 = clauses :=
    Except.ok.inj (Prod.mk.inj hclauses).1
  subst hrun
  exact ⟨fun clause => mem_sortClauses s, rfl⟩

/-- However a table is sized and planned, the host has every column that it checks in a clause on
the table itself. It has all columns that it checks exactly if those clauses which have come in with
the scan look at no others than the targets and what the clauses on the table look at that are left
to the host. -/
theorem mem_retrieved_iff {s₀ s₁ s₂ s₃ : σ} {sized t : SizedTable} {planned : TablePlan}
    (hsized : (ofEstimate table source policy targets restrictions safe estimate).run s₀
      = (.ok sized, s₁))
    (ht : t = sized ∨ t = sized.asTarget)
    (hplanned : (t.plan table scanClauses safe).run s₂ = (planned, s₃)) :
    (∀ clause ∈ planned.clauses.recheck, clause ∈ restrictions →
        ∀ n ∈ table.mentioned clause, n ∈ planned.plan.retrieved)
      ∧ ((∀ clause ∈ planned.clauses.recheck, ∀ n ∈ table.mentioned clause,
            n ∈ planned.plan.retrieved)
          ↔ ∀ clause ∈ planned.clauses.recheck, clause ∉ restrictions →
              ∀ n ∈ table.mentioned clause,
                n ∈ targets ∨ ∃ other ∈ sized.clauses.recheck, n ∈ other.attrs) := by
  obtain ⟨hsides, hattrs⟩ := ofEstimate_run_eq_ok hsized
  have ht : t.clauses = sized.clauses ∧ t.attrs = sized.attrs := by
    rcases ht with rfl | rfl <;> exact ⟨rfl, rfl⟩
  have hrecheck : planned.clauses.recheck
      = ((sortScanClauses sized.clauses safe scanClauses).run s₂).1.recheck := by
    rw [← ht.1]
    exact congrArg (fun p : TablePlan × σ => p.1.clauses.recheck) hplanned.symm
  have hretrieved : ∀ n, n ∈ planned.plan.retrieved
      ↔ (n ∈ targets ∨ ∃ other ∈ sized.clauses.recheck, n ∈ other.attrs)
        ∧ (table.column? n).isSome := by
    intro n
    rw [← mem_neededAttrs, ← hattrs, ← ht.2, ← RemoteQuery.mem_retrieved_ofAttrs,
      ← congrArg (fun p : TablePlan × σ => p.1.plan.retrieved) hplanned]
    rfl
  have hbase : ∀ clause ∈ planned.clauses.recheck, clause ∈ restrictions →
      ∀ n ∈ table.mentioned clause, n ∈ planned.plan.retrieved := by
    intro clause hclause hrestriction n hn
    obtain ⟨hn, hcolumn⟩ := List.mem_filter.1 hn
    rw [hrecheck] at hclause
    have hlocal := SortedClauses.mem_recheck_of_side?_ne hsides hrestriction
      (mem_sortScanClauses s₂ hclause).2
    exact (hretrieved n).2 ⟨.inr ⟨clause, hlocal, hn⟩, hcolumn⟩
  refine ⟨hbase, fun hall clause hclause _ n hn => ((hretrieved n).1 (hall clause hclause n hn)).1,
    fun hnew clause hclause n hn => ?_⟩
  by_cases hrestriction : clause ∈ restrictions
  · exact hbase clause hclause hrestriction n hn
  · exact (hretrieved n).2 ⟨hnew clause hclause hrestriction n hn, (List.mem_filter.1 hn).2⟩

/-- A table with prices, and a clause on these that is left to the host. -/
def pricedGoods : HostTable :=
  ⟨16390, "items", [⟨"id", 1, .int8, true⟩, ⟨"name", 2, .text, false⟩, ⟨"price", 3, .float8, false⟩]⟩

def checkedPrice : Clause :=
  ⟨0, [3], false, .verdict false, "f(price)", none⟩

/-- The clause stands on the table, so the prices are retrieved. -/
theorem mem_retrieved_iff_checkedPrice :
    ∃ sized planned, (ofEstimate pricedGoods ⟨"shop.db", "items", .error⟩ ⟨40000, []⟩ [1]
        [checkedPrice] (testClause .empty ⟨40000, []⟩) fun _ _ => .ok 100).run ⟨[], 0⟩
          = (.ok sized, ⟨[], 1⟩)
      ∧ (sized.plan pricedGoods [checkedPrice] (testClause .empty ⟨40000, []⟩)).run ⟨[], 1⟩
          = (planned, ⟨[], 1⟩)
      ∧ 3 ∈ planned.plan.retrieved := by
  let sized : SizedTable :=
    ofClauses ⟨"shop.db", "items", .error⟩ ⟨40000, []⟩ [1] ⟨[], [checkedPrice]⟩
      (.ofInt (100 : Int64).toInt)
  have hsized : (ofEstimate pricedGoods ⟨"shop.db", "items", .error⟩ ⟨40000, []⟩ [1]
      [checkedPrice] (testClause .empty ⟨40000, []⟩) fun _ _ => .ok 100).run ⟨[], 0⟩
        = (.ok sized, ⟨[], 1⟩) := rfl
  obtain ⟨planned, hplanned, hrecheck⟩ : ∃ planned,
      (sized.plan pricedGoods [checkedPrice] (testClause .empty ⟨40000, []⟩)).run ⟨[], 1⟩
        = (planned, ⟨[], 1⟩) ∧ checkedPrice ∈ planned.clauses.recheck :=
    ⟨_, rfl, List.mem_cons_self⟩
  exact ⟨sized, planned, hsized, hplanned, (mem_retrieved_iff hsized (.inl rfl) hplanned).1
    checkedPrice hrecheck List.mem_cons_self 3 (by decide)⟩

/-- The clause comes in with the scan: the host is to check prices that are not retrieved. -/
theorem not_mem_retrieved_checkedPrice :
    ∃ sized planned, (ofEstimate pricedGoods ⟨"shop.db", "items", .error⟩ ⟨40000, []⟩ [1] []
        (testClause .empty ⟨40000, []⟩) fun _ _ => .ok 100).run ⟨[], 0⟩ = (.ok sized, ⟨[], 0⟩)
      ∧ (sized.plan pricedGoods [checkedPrice] (testClause .empty ⟨40000, []⟩)).run ⟨[], 0⟩
          = (planned, ⟨[], 1⟩)
      ∧ planned.clauses.recheck = [checkedPrice]
      ∧ 3 ∈ pricedGoods.mentioned checkedPrice
      ∧ planned.plan.retrieved = [1] :=
  ⟨_, _, rfl, rfl, rfl, by decide, rfl⟩

end SizedTable

end ForeignData
