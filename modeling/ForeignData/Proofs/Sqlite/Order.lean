import Mathlib.Data.List.Find
import Mathlib.Order.Compare
import Mathlib.Tactic.Ring
import ForeignData.Proofs.Text.Order
import ForeignData.Sqlite.Prepared

/-!
# Order of cells and rows

Integers in cells are ordered by their values, and texts by their characters. Where rows stand in
the order of their rowids, the first row behind a place is the next one that passes a test.
-/

namespace ForeignData

/-! ### Integers -/

lemma BinaryValue.compare?_ofInt (i j : Int) :
    (ofInt i).compare? (ofInt j) = some (Ord.compare i j) := by
  have hsigned : ∀ i : Int, (if (decide (i < 0)) = true then -((i.natAbs : Int) * twoPow 0)
      else (i.natAbs : Int) * twoPow 0) = i := by
    intro i
    have hone : ((twoPow 0 : Nat) : Int) = 1 := rfl
    rw [hone, mul_one]
    by_cases h : i < 0
    · simp only [h, decide_true, if_true]
      omega
    · simp only [h, decide_false, Bool.false_eq_true, if_false]
      omega
  change some (Ord.compare (if (decide (i < 0)) = true then -((i.natAbs : Int) * twoPow 0)
      else (i.natAbs : Int) * twoPow 0) (if (decide (j < 0)) = true
      then -((j.natAbs : Int) * twoPow 0) else (j.natAbs : Int) * twoPow 0)) = _
  rw [hsigned, hsigned]

namespace Sqlite

lemma Cell.compare_integer (collation : Collation) (v w : Int64) :
    (Cell.integer v).compare collation (.integer w) = Ord.compare v.toInt w.toInt := by
  change ((BinaryValue.ofInt v.toInt).compare? (.ofInt w.toInt)).getD .eq = _
  rw [BinaryValue.compare?_ofInt]
  rfl

/-! ### Texts -/

lemma Cell.compareBytes_eq_compare (as bs : List UInt8) :
    compareBytes as bs = Ord.compare as bs := by
  induction as generalizing bs with
  | nil => cases bs <;> rfl
  | cons a as ih =>
    cases bs with
    | nil => rfl
    | cons b bs =>
      rw [compareBytes, ih, List.compare_cons_cons, compare_byte]
      simp only [UInt8.lt_iff_toNat_lt]
      rcases lt_trichotomy a.toNat b.toNat with h | h | h
      · rw [if_pos h, compare_lt_iff_lt.2 h]
        rfl
      · rw [if_neg (by omega), if_neg (by omega), compare_eq_iff_eq.2 h, Ordering.eq_then]
      · rw [if_neg (by omega), if_pos h, compare_gt_iff_gt.2 h]
        rfl

lemma toList_bytesOfText (s : String) :
    (bytesOfText s).data.toList = s.toList.flatMap String.utf8EncodeChar := by
  rw [bytesOfText, String.toUTF8_eq_toByteArray, ← String.utf8Encode_toList, List.utf8Encode,
    List.toList_data_toByteArray]

lemma Cell.compare_ofText (s t : String) :
    (Cell.ofText s).compare .binary (.ofText t) = Ord.compare s.toList t.toList := by
  change compareBytes (bytesOfText s).data.toList (bytesOfText t).data.toList = _
  rw [compareBytes_eq_compare, toList_bytesOfText, toList_bytesOfText,
    compare_flatMap_utf8EncodeChar]

/-! ### Rowids -/

def rowidPlace (v : Int64) : List SortCell :=
  [{ cell := .integer v }]

lemma compareLists_rowidPlace (v w : Int64) :
    SortCell.compareLists (rowidPlace v) (rowidPlace w) = Ord.compare v.toInt w.toInt := by
  have hcell : SortCell.compare { cell := .integer v } { cell := .integer w }
      = Ord.compare v.toInt w.toInt := Cell.compare_integer .binary v w
  rw [rowidPlace, rowidPlace, SortCell.compareLists, hcell]
  cases Ord.compare v.toInt w.toInt <;> rfl

lemma compareLists_rowidPlace_eq_lt (v w : Int64) :
    (SortCell.compareLists (rowidPlace v) (rowidPlace w) == .lt) = decide (v.toInt < w.toInt) := by
  rw [compareLists_rowidPlace, Bool.eq_iff_iff, beq_iff_eq, decide_eq_true_eq, compare_lt_iff_lt]

/-! ### The first row behind a place -/

/-- Rows stand in the order of their rowids. -/
def InOrder (rows : List Row) : Prop :=
  rows.Pairwise fun r r' => r.rowid.toInt < r'.rowid.toInt

section FirstBehind

variable {test : Row → Bool} {last : Option (List SortCell)} {rows : List Row}

lemma firstBehind_eq_find? (h : InOrder rows) :
    firstBehind (fun r : Row => rowidPlace r.rowid) test last rows
      = rows.find? fun r => isBehind (rowidPlace r.rowid) last && test r := by
  unfold firstBehind
  induction rows with
  | nil => rfl
  | cons r rows ih =>
    obtain ⟨hr, htail⟩ := List.pairwise_cons.1 h
    rw [List.foldl_cons]
    dsimp only
    rw [Bool.true_and]
    by_cases hpass : (isBehind (rowidPlace r.rowid) last && test r) = true
    · -- what has been found stays the first, as all others come behind it
      have hfound : (r :: rows).find? (fun r => isBehind (rowidPlace r.rowid) last && test r)
          = some r := List.find?_cons_of_pos hpass
      rw [if_pos hpass, hfound]
      refine List.foldlRecOn (motive := fun best => best = some r) rows _ rfl ?_
      rintro _ rfl r' hr'
      have hlater := hr r' hr'
      have hnot : (SortCell.compareLists (rowidPlace r'.rowid) (rowidPlace r.rowid) == .lt
          && isBehind (rowidPlace r'.rowid) last && test r') = false := by
        rw [compareLists_rowidPlace_eq_lt, decide_eq_false (by omega)]
        rfl
      exact if_neg (Bool.eq_false_iff.1 hnot)
    · have hskipped : (r :: rows).find? (fun r => isBehind (rowidPlace r.rowid) last && test r)
          = rows.find? _ := List.find?_cons_of_neg hpass
      rw [if_neg hpass, hskipped]
      exact ih htail

lemma isBehind_rowidPlace (v w : Int64) :
    isBehind (rowidPlace v) (some (rowidPlace w)) = decide (w.toInt < v.toInt) :=
  compareLists_rowidPlace_eq_lt w v

lemma find?_isBehind {seen rest : List Row} {r : Row} (h : InOrder (seen ++ r :: rest)) :
    (seen ++ r :: rest).find? (fun r' =>
        isBehind (rowidPlace r'.rowid) (some (rowidPlace r.rowid)) && test r')
      = rest.find? test := by
  obtain ⟨-, hcons, hseen⟩ := List.pairwise_append.1 h
  obtain ⟨hrest, -⟩ := List.pairwise_cons.1 hcons
  have hskip : ∀ r' ∈ seen, ¬(isBehind (rowidPlace r'.rowid) (some (rowidPlace r.rowid))
      && test r') = true := by
    intro r' hr'
    have hlt := hseen r' hr' r List.mem_cons_self
    rw [isBehind_rowidPlace, decide_eq_false (by omega)]
    simp
  have hself : (isBehind (rowidPlace r.rowid) (some (rowidPlace r.rowid)) && test r) = false := by
    rw [isBehind_rowidPlace, decide_eq_false (by omega), Bool.false_and]
  have hcons : (r :: rest).find? (fun r' =>
      isBehind (rowidPlace r'.rowid) (some (rowidPlace r.rowid)) && test r') = rest.find? _ :=
    List.find?_cons_of_neg (Bool.eq_false_iff.1 hself)
  rw [List.find?_append, List.find?_eq_none.2 hskip, Option.none_or, hcons]
  apply List.find?_congr
  intro r' hr'
  rw [isBehind_rowidPlace, decide_eq_true (hrest r' hr'), Bool.true_and]

end FirstBehind

end Sqlite

end ForeignData
