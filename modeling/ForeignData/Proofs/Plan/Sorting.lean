import ForeignData.Plan.Relation
import Mathlib.Data.List.Basic
import Mathlib.Tactic.Lemma

/-!
# Sorting of clauses

Sorting splits a list of clauses in two and keeps the order of either side. When a scan is planned,
a clause that was sorted before stays on its side; the safety test is made once for every other
occurrence, and for nothing else. Whatever the sides are, SQLite and the host together keep the rows
that satisfy all clauses.
-/

namespace ForeignData

/-! ### Both sides together -/

namespace SortedClauses

/-- Each occurrence of a clause is on one of two sides, in order. -/
structure Partitions (c : SortedClauses) (clauses : List Clause) : Prop where
  remote : c.remote.Sublist clauses
  recheck : c.recheck.Sublist clauses
  perm : (c.remote ++ c.recheck).Perm clauses

/-- The rows that SQLite returns and the host keeps, for a reading of clauses. -/
def keptRows {ρ : Type} (c : SortedClauses) (holds : Clause → ρ → Bool) (rows : List ρ) : List ρ :=
  (rows.filter fun row => c.remote.all (holds · row)).filter fun row => c.recheck.all (holds · row)

variable {c : SortedClauses} {clauses : List Clause}

lemma Partitions.keptRows {ρ : Type} (h : c.Partitions clauses) (holds : Clause → ρ → Bool)
    (rows : List ρ) :
    c.keptRows holds rows = rows.filter fun row => clauses.all (holds · row) := by
  rw [SortedClauses.keptRows, List.filter_filter]
  congr 1
  funext row
  rw [← h.perm.all_eq, List.all_append, Bool.and_comm]

end SortedClauses

/-! ### Clauses with their sides -/

/-- Clauses in order, each with whether SQLite is to evaluate it. -/
abbrev Placement := List (Clause × Bool)

namespace Placement

def clauses (placement : Placement) : List Clause :=
  placement.map Prod.fst

/-- The clauses on either side. -/
def sorted (placement : Placement) : SortedClauses where
  remote := clauses (placement.filter (·.2))
  recheck := clauses (placement.filter (!·.2))

lemma sorted_cons (clause : Clause) (side : Bool) (placement : Placement) :
    sorted ((clause, side) :: placement) = placement.sorted.put side clause := by
  cases side <;> rfl

lemma partitions_sorted (placement : Placement) :
    placement.sorted.Partitions placement.clauses where
  remote := List.filter_sublist.map _
  recheck := List.filter_sublist.map _
  perm := by
    rw [sorted, clauses, clauses, ← List.map_append]
    exact (List.filter_append_perm (·.2) placement).map _

end Placement

/-! ### What is known of a clause -/

def rowClauses (clauses : List Clause) : List Clause :=
  clauses.filter (!·.pseudoconstant)

section RowClauses

variable {clause : Clause} {clauses : List Clause}

lemma rowClauses_cons (h : clause.pseudoconstant = false) :
    rowClauses (clause :: clauses) = clause :: rowClauses clauses :=
  List.filter_cons_of_pos (by simp [h])

lemma rowClauses_cons_of_pseudoconstant (h : clause.pseudoconstant = true) :
    rowClauses (clause :: clauses) = rowClauses clauses :=
  List.filter_cons_of_neg (by simp [h])

end RowClauses

/-- Clauses of one identity are one clause. -/
def SoundIdentity (clauses : List Clause) : Prop :=
  ∀ clause ∈ clauses, ∀ other ∈ clauses, clause.id = other.id → clause = other

namespace SortedClauses

variable {c : SortedClauses} {clause : Clause}

/-- A clause was left to SQLite. -/
def OnRemote (c : SortedClauses) (clause : Clause) : Prop :=
  ∃ other ∈ c.remote, other.id = clause.id

/-- A clause was left to the host. -/
def OnRecheck (c : SortedClauses) (clause : Clause) : Prop :=
  ∃ other ∈ c.recheck, other.id = clause.id

/-- A clause has not been sorted yet: no clause that has is the same, whatever it looks like. -/
def isNew (c : SortedClauses) (clause : Clause) : Bool :=
  (c.remote ++ c.recheck).all (·.id != clause.id)

lemma onRemote_iff : c.OnRemote clause ↔ c.remote.any (·.id == clause.id) = true := by
  simp only [OnRemote, List.any_eq_true, beq_iff_eq]

lemma onRecheck_iff : c.OnRecheck clause ↔ c.recheck.any (·.id == clause.id) = true := by
  simp only [OnRecheck, List.any_eq_true, beq_iff_eq]

lemma side?_eq_some_true : c.side? clause = some true ↔ c.OnRemote clause := by
  rw [onRemote_iff, side?]
  split_ifs <;> simp_all

lemma side?_eq_some_false :
    c.side? clause = some false ↔ ¬ c.OnRemote clause ∧ c.OnRecheck clause := by
  rw [onRemote_iff, onRecheck_iff, side?]
  split_ifs <;> simp_all

lemma isNew_iff : c.isNew clause = true ↔ ¬ c.OnRemote clause ∧ ¬ c.OnRecheck clause := by
  simp only [isNew, OnRemote, OnRecheck, List.all_append, Bool.and_eq_true, List.all_eq_true,
    bne_iff_ne, not_exists, not_and]

/-- The new clauses are those that stand on no side. -/
lemma isNew_eq_isNone : c.isNew clause = (c.side? clause).isNone := by
  rw [Bool.eq_iff_iff, isNew_iff, onRemote_iff, onRecheck_iff, side?]
  split_ifs <;> simp_all

end SortedClauses

namespace Placement

variable {earlier : SortedClauses} {clause : Clause}

/-- The sides of the clauses that had not been sorted before. -/
def answers (placement : Placement) (earlier : SortedClauses) : List Bool :=
  (placement.filter fun placed => earlier.isNew placed.1).map Prod.snd

lemma answers_cons_of_new (hnew : earlier.isNew clause = true) (side : Bool)
    (placement : Placement) :
    answers ((clause, side) :: placement) earlier = side :: placement.answers earlier := by
  simp [answers, hnew]

lemma answers_cons_of_not_new (hnew : earlier.isNew clause = false) (side : Bool)
    (placement : Placement) :
    answers ((clause, side) :: placement) earlier = placement.answers earlier := by
  simp [answers, hnew]

end Placement

/-! ### Runs of the sorts -/

section Sorting

variable {σ : Type}

namespace SafetyTest

/-- The test that always gives the same answer for a clause. -/
def ofFun (safe : Clause → Bool) : SafetyTest σ :=
  fun clause => pure (safe clause)

/-- A test that also writes down the clauses it is asked about. -/
def logged (safe : SafetyTest σ) : SafetyTest (List Clause × σ) :=
  fun clause s => ((safe clause s.2).1, (s.1 ++ [clause], (safe clause s.2).2))

/-- Clauses are asked about one after the other. -/
lemma run_mapM_cons (safe : SafetyTest σ) (clause : Clause) (clauses : List Clause) (s : σ) :
    ((clause :: clauses).mapM safe).run s
      = ((safe clause s).1 :: ((clauses.mapM safe).run (safe clause s).2).1,
        ((clauses.mapM safe).run (safe clause s).2).2) := by
  rw [List.mapM_cons]
  rfl

end SafetyTest

/-- Clauses are sorted by the answers of a test that does not change its mind. -/
lemma sortClauses_ofFun (safe : Clause → Bool) (clauses : List Clause) (s : σ) :
    (sortClauses (.ofFun safe) clauses).run s
      = (⟨clauses.filter safe, clauses.filter (!safe ·)⟩, s) := by
  induction clauses with
  | nil => rfl
  | cons clause clauses ih =>
    have hrun : (sortClauses (.ofFun safe) (clause :: clauses)).run s
        = (((sortClauses (.ofFun safe) clauses).run s).1.put (safe clause) clause,
          ((sortClauses (.ofFun safe) clauses).run s).2) := rfl
    rw [hrun, ih, SortedClauses.put, List.filter_cons, List.filter_cons]
    cases safe clause <;> rfl

/-- What a planned scan makes of its clauses: those that depend on a row are placed in order, known
ones where they were, and the others where the test says that is asked about them one by one. -/
structure SortsScan (earlier : SortedClauses) (safe : SafetyTest σ) (scanClauses : List Clause)
    (s : σ) (c : SortedClauses) (s' : σ) (placement : Placement) : Prop where
  sorted : c = placement.sorted
  clauses : placement.clauses = rowClauses scanClauses
  remote : ∀ placed ∈ placement, earlier.OnRemote placed.1 → placed.2 = true
  recheck : ∀ placed ∈ placement, ¬ earlier.OnRemote placed.1 → earlier.OnRecheck placed.1 →
    placed.2 = false
  asked : (((placement.clauses.filter earlier.isNew).mapM safe).run s : List Bool × σ)
    = (placement.answers earlier, s')

variable {earlier : SortedClauses} {safe : SafetyTest σ} {clause : Clause} {clauses : List Clause}

/-! One equation for each way to treat the first clause of a scan. -/

lemma sortScanClauses_of_pseudoconstant (h : clause.pseudoconstant = true) :
    sortScanClauses earlier safe (clause :: clauses) = sortScanClauses earlier safe clauses := by
  rw [sortScanClauses, if_pos h]

lemma sortScanClauses_run_of_side {side : Bool} (h : clause.pseudoconstant = false)
    (hside : earlier.side? clause = some side) (s : σ) :
    (sortScanClauses earlier safe (clause :: clauses)).run s
      = (((sortScanClauses earlier safe clauses).run s).1.put side clause,
        ((sortScanClauses earlier safe clauses).run s).2) := by
  rw [sortScanClauses, if_neg (by simp [h]), hside]
  rfl

lemma sortScanClauses_run_of_new (h : clause.pseudoconstant = false)
    (hside : earlier.side? clause = none) (s : σ) :
    (sortScanClauses earlier safe (clause :: clauses)).run s
      = (((sortScanClauses earlier safe clauses).run (safe clause s).2).1.put
          (safe clause s).1 clause,
        ((sortScanClauses earlier safe clauses).run (safe clause s).2).2) := by
  rw [sortScanClauses, if_neg (by simp [h]), hside]
  rfl

/-! How a scan that is sorted grows by one clause. -/

namespace SortsScan

variable {s s' : σ} {c : SortedClauses} {placement : Placement}

lemma nil (s : σ) : SortsScan earlier safe [] s ⟨[], []⟩ s [] where
  sorted := rfl
  clauses := rfl
  remote := List.forall_mem_nil _
  recheck := List.forall_mem_nil _
  asked := rfl

lemma pseudoconstant (h : SortsScan earlier safe clauses s c s' placement)
    (hclause : clause.pseudoconstant = true) :
    SortsScan earlier safe (clause :: clauses) s c s' placement :=
  { h with clauses := by rw [h.clauses, rowClauses_cons_of_pseudoconstant hclause] }

/-- A clause that was sorted before is not asked about. -/
lemma known {side : Bool} (h : SortsScan earlier safe clauses s c s' placement)
    (hclause : clause.pseudoconstant = false) (hside : earlier.side? clause = some side) :
    SortsScan earlier safe (clause :: clauses) s (c.put side clause) s'
      ((clause, side) :: placement) where
  sorted := by rw [h.sorted, Placement.sorted_cons]
  clauses := by
    rw [rowClauses_cons hclause, ← h.clauses]
    rfl
  remote := by
    refine List.forall_mem_cons.2 ⟨fun hremote => ?_, h.remote⟩
    exact Option.some.inj (hside.symm.trans (SortedClauses.side?_eq_some_true.2 hremote))
  recheck := by
    refine List.forall_mem_cons.2 ⟨fun hremote hrecheck => ?_, h.recheck⟩
    exact Option.some.inj
      (hside.symm.trans (SortedClauses.side?_eq_some_false.2 ⟨hremote, hrecheck⟩))
  asked := by
    have hnew : earlier.isNew clause = false := by rw [SortedClauses.isNew_eq_isNone, hside]; rfl
    rw [Placement.clauses, List.map_cons, List.filter_cons_of_neg (by simp [hnew]),
      Placement.answers_cons_of_not_new hnew]
    exact h.asked

/-- A new clause is put where the test says, which is asked about it before the rest. -/
lemma new {s₁ : σ} {side : Bool} (h : SortsScan earlier safe clauses s₁ c s' placement)
    (hclause : clause.pseudoconstant = false) (hside : earlier.side? clause = none)
    (hsafe : safe clause s = (side, s₁)) :
    SortsScan earlier safe (clause :: clauses) s (c.put side clause) s'
      ((clause, side) :: placement) where
  sorted := by rw [h.sorted, Placement.sorted_cons]
  clauses := by
    rw [rowClauses_cons hclause, ← h.clauses]
    rfl
  remote := by
    refine List.forall_mem_cons.2 ⟨fun hremote => ?_, h.remote⟩
    cases hside.symm.trans (SortedClauses.side?_eq_some_true.2 hremote)
  recheck := by
    refine List.forall_mem_cons.2 ⟨fun hremote hrecheck => ?_, h.recheck⟩
    cases hside.symm.trans (SortedClauses.side?_eq_some_false.2 ⟨hremote, hrecheck⟩)
  asked := by
    have hnew : earlier.isNew clause = true := by rw [SortedClauses.isNew_eq_isNone, hside]; rfl
    rw [Placement.clauses, List.map_cons, List.filter_cons_of_pos hnew,
      Placement.answers_cons_of_new hnew, SafetyTest.run_mapM_cons, hsafe]
    exact congrArg (fun asked : List Bool × σ => (side :: asked.1, asked.2)) h.asked

end SortsScan

/-- Every scan is sorted so, from every state. -/
lemma exists_sortsScan (earlier : SortedClauses) (safe : SafetyTest σ) (clauses : List Clause)
    (s : σ) :
    ∃ placement, SortsScan earlier safe clauses s
      ((sortScanClauses earlier safe clauses).run s).1
      ((sortScanClauses earlier safe clauses).run s).2 placement := by
  induction clauses generalizing s with
  | nil => exact ⟨[], .nil s⟩
  | cons clause clauses ih =>
    cases hclause : clause.pseudoconstant with
    | true =>
      obtain ⟨placement, h⟩ := ih s
      rw [sortScanClauses_of_pseudoconstant hclause]
      exact ⟨placement, h.pseudoconstant hclause⟩
    | false =>
      cases hside : earlier.side? clause with
      | some side =>
        obtain ⟨placement, h⟩ := ih s
        rw [sortScanClauses_run_of_side hclause hside]
        exact ⟨(clause, side) :: placement, h.known hclause hside⟩
      | none =>
        obtain ⟨placement, h⟩ := ih (safe clause s).2
        rw [sortScanClauses_run_of_new hclause hside]
        exact ⟨(clause, (safe clause s).1) :: placement, h.new hclause hside rfl⟩

/-- A test that writes down what it is asked about sorts as it would otherwise, and has written down
the new clauses. -/
lemma sortScanClauses_logged (earlier : SortedClauses) (safe : SafetyTest σ)
    (clauses log : List Clause) (s : σ) :
    (sortScanClauses earlier safe.logged clauses).run (log, s)
      = (((sortScanClauses earlier safe clauses).run s).1,
        (log ++ (rowClauses clauses).filter earlier.isNew,
          ((sortScanClauses earlier safe clauses).run s).2)) := by
  induction clauses generalizing log s with
  | nil => rw [rowClauses, List.filter_nil, List.filter_nil, List.append_nil]; rfl
  | cons clause clauses ih =>
    cases hclause : clause.pseudoconstant with
    | true =>
      rw [sortScanClauses_of_pseudoconstant hclause, sortScanClauses_of_pseudoconstant hclause,
        rowClauses_cons_of_pseudoconstant hclause]
      exact ih log s
    | false =>
      rw [rowClauses_cons hclause]
      cases hside : earlier.side? clause with
      | some side =>
        rw [sortScanClauses_run_of_side hclause hside, sortScanClauses_run_of_side hclause hside,
          ih, List.filter_cons_of_neg (by simp [SortedClauses.isNew_eq_isNone, hside])]
      | none =>
        rw [sortScanClauses_run_of_new hclause hside, sortScanClauses_run_of_new hclause hside,
          List.filter_cons_of_pos (by simp [SortedClauses.isNew_eq_isNone, hside])]
        simp only [SafetyTest.logged]
        rw [ih, List.append_assoc, List.singleton_append]

/-- A clause stays where a test that does not change its mind has put it. -/
lemma SortsScan.stays {τ : Type} {restrictions : List Clause} {known : Clause → Bool} {s s' : σ}
    {t : τ} {c : SortedClauses} {placement : Placement}
    (h : SortsScan ((sortClauses (.ofFun known) restrictions).run t).1 safe clauses s c s'
      placement)
    (hidentity : SoundIdentity restrictions) :
    ∀ placed ∈ placement, ∀ clause ∈ restrictions, clause.id = placed.1.id →
      placed.2 = known clause := by
  intro placed hplaced clause hclause hid
  rw [sortClauses_ofFun] at h
  cases hknown : known clause with
  | true => exact h.remote placed hplaced ⟨clause, List.mem_filter.2 ⟨hclause, hknown⟩, hid⟩
  | false =>
    refine h.recheck placed hplaced ?_
      ⟨clause, List.mem_filter.2 ⟨hclause, by rw [hknown]; rfl⟩, hid⟩
    -- No other clause of this identity may have been on the other side.
    rintro ⟨other, hother, hid'⟩
    obtain ⟨hother, hsafe⟩ := List.mem_filter.1 hother
    rw [hidentity other hother clause hclause (hid'.trans hid.symm), hknown] at hsafe
    cases hsafe

/-- The first sort of clauses splits them in order, by the answers of the test. So does the sort of
a scan those clauses that depend on a row; known ones stay where they are, and the test is made once
for every other occurrence. A clause that a steady test has put on a side is never moved. Hence
SQLite and the host together keep the rows that satisfy all these clauses, and a planned table is
sorted so. -/
theorem sortScanClauses_partitions_stably (steady : Clause → Bool) (restrictions : List Clause)
    (earlier : SortedClauses) (safe : SafetyTest σ) (scanClauses : List Clause) (s : σ) :
    (∃ sorted, (sortClauses (.ofFun steady) restrictions).run s = (sorted, s)
      ∧ sorted.Partitions restrictions
      ∧ sorted.remote = restrictions.filter steady
      ∧ sorted.recheck = restrictions.filter (!steady ·))
    ∧ ∃ c s' placement, (sortScanClauses earlier safe scanClauses).run s = (c, s')
      ∧ SortsScan earlier safe scanClauses s c s' placement
      ∧ c.Partitions (rowClauses scanClauses)
      ∧ (∀ log, (sortScanClauses earlier safe.logged scanClauses).run (log, s)
          = (c, (log ++ (rowClauses scanClauses).filter earlier.isNew, s')))
      ∧ (earlier = ((sortClauses (.ofFun steady) restrictions).run s).1 →
          SoundIdentity restrictions →
          ∀ placed ∈ placement, ∀ clause ∈ restrictions, clause.id = placed.1.id →
            placed.2 = steady clause)
      ∧ (∀ {ρ : Type} (holds : Clause → ρ → Bool) (rows : List ρ),
          c.keptRows holds rows
            = rows.filter fun row => scanClauses.all fun clause =>
                clause.pseudoconstant || holds clause row)
      ∧ ∀ (t : SizedTable) (table : HostTable), t.clauses = earlier →
          ∃ planned, (t.plan table scanClauses safe).run s = (planned, s')
            ∧ planned.clauses = c := by
  obtain ⟨placement, h⟩ := exists_sortsScan earlier safe scanClauses s
  have hpartitions : ((sortScanClauses earlier safe scanClauses).run s).1.Partitions
      (rowClauses scanClauses) := by
    rw [h.sorted, ← h.clauses]
    exact placement.partitions_sorted
  refine ⟨⟨_, sortClauses_ofFun steady restrictions s, ?_, rfl, rfl⟩, _, _, placement, rfl, h,
    hpartitions, fun log => sortScanClauses_logged earlier safe scanClauses log s, ?_, ?_, ?_⟩
  · exact ⟨List.filter_sublist, List.filter_sublist, List.filter_append_perm steady restrictions⟩
  · rintro rfl hidentity
    exact h.stays hidentity
  · intro ρ holds rows
    refine (hpartitions.keptRows holds rows).trans ?_
    simp only [rowClauses, List.all_filter, Bool.not_not]
  · rintro t table rfl
    exact ⟨_, rfl, rfl⟩

/-- A clause for SQLite, one for the host, one that looks like the first, and one on no row. -/
def dearItem : Clause :=
  ⟨0, [3], false, .verdict true, "price > 10", none⟩

def listedItem : Clause :=
  ⟨1, [2], false, .verdict false, "name NOT IN ('a')", none⟩

def dearJoin : Clause :=
  { dearItem with id := 2 }

def openShop : Clause :=
  ⟨3, [], true, .verdict true, "1", none⟩

/-- The first two keep their sides though the test has changed its mind; only the third is asked
about. -/
theorem sortScanClauses_partitions_stably_dearItem :
    SoundIdentity [dearItem, listedItem]
      ∧ ∃ (c : SortedClauses) (placement : Placement),
        (sortScanClauses ⟨[dearItem], [listedItem]⟩
            (SafetyTest.ofFun fun clause => clause == listedItem).logged
            [listedItem, openShop, dearItem, dearJoin]).run ([], ()) = (c, ([dearJoin], ()))
        ∧ c.remote = [dearItem]
        ∧ c.recheck = [listedItem, dearJoin]
        ∧ placement.clauses = [listedItem, dearItem, dearJoin]
        ∧ ∀ placed ∈ placement, ∀ clause ∈ [dearItem, listedItem], clause.id = placed.1.id →
            placed.2 = (clause == dearItem) := by
  have hidentity : SoundIdentity [dearItem, listedItem] := by
    unfold SoundIdentity
    decide
  obtain ⟨-, c, s', placement, hrun, hsorts, -, hlog, hstays, -⟩ :=
    sortScanClauses_partitions_stably (fun clause => clause == dearItem) [dearItem, listedItem]
      ⟨[dearItem], [listedItem]⟩ (.ofFun fun clause => clause == listedItem)
      [listedItem, openShop, dearItem, dearJoin] ()
  have hc : c = ⟨[dearItem], [listedItem, dearJoin]⟩ := (congrArg Prod.fst hrun).symm
  exact ⟨hidentity, c, placement, hlog [], congrArg _ hc, congrArg _ hc, hsorts.clauses,
    hstays rfl hidentity⟩

end Sorting

end ForeignData
