import Mathlib.Algebra.Order.Field.Rat
import Mathlib.Tactic.NormNum
import ForeignData.Proofs.Text.Order
import ForeignData.Stored.Conversion

/-!
# Exact values of numbers in binary

A finite word stands for one rational number. Whether this is a whole number, how two of them
compare and what is left of one when its fraction is cut off are facts about these rational numbers.
The integer of a word may so be found by comparisons with the bounds of a range and a cast that
saturates, although the upper bound is rounded up to a number outside of the range.
-/

namespace ForeignData

namespace BinaryValue

def toRat? : BinaryValue → Option ℚ
  | .finite negative m e => some ((if negative then -(m : ℚ) else m) * 2 ^ e)
  | _ => none

def signed (negative : Bool) (m : Nat) : Int :=
  if negative then -(m : Int) else m

lemma two_zpow_eq (e : Int) : (2 : ℚ) ^ e = (twoPow e.toNat : ℚ) / twoPow (-e).toNat := by
  rcases Int.le_total 0 e with h | h
  · obtain ⟨n, rfl⟩ := Int.eq_ofNat_of_zero_le h
    simp [twoPow]
  · obtain ⟨n, hn⟩ := Int.eq_ofNat_of_zero_le (Int.neg_nonneg_of_nonpos h)
    obtain rfl : e = -(n : Int) := by omega
    simp [twoPow]

lemma toRat?_finite (negative : Bool) (m : Nat) (e : Int) :
    (BinaryValue.finite negative m e).toRat?
      = some ((signed negative m * twoPow e.toNat : Int) / (twoPow (-e).toNat : ℚ)) := by
  have hsigned : ((signed negative m : Int) : ℚ) = if negative then -(m : ℚ) else m := by
    cases negative <;> simp [signed]
  rw [toRat?, two_zpow_eq]
  push_cast
  rw [hsigned, mul_div_assoc]

/-- A finite value is a whole number if it divides without a remainder. -/
lemma toInt?_finite (negative : Bool) (m : Nat) (e : Int) :
    (BinaryValue.finite negative m e).toInt?
      = if signed negative m * twoPow e.toNat % twoPow (-e).toNat = 0 then
          some (signed negative m * twoPow e.toNat / twoPow (-e).toNat)
        else none := by
  by_cases h : 0 ≤ e
  · have hdown : (-e).toNat = 0 := by omega
    simp [toInt?, dyadic?, signed, h, hdown]
  · have hup : e.toNat = 0 := by omega
    simp [toInt?, dyadic?, signed, h, hup]

lemma floor?_finite (negative : Bool) (m : Nat) (e : Int) :
    (BinaryValue.finite negative m e).floor?
      = some (signed negative m * twoPow e.toNat / twoPow (-e).toNat) := rfl

/-- A number is whole exactly if its rational number is. -/
lemma toInt?_eq_some_iff {x : BinaryValue} {i : Int} :
    x.toInt? = some i ↔ x.toRat? = some (i : ℚ) := by
  cases x with
  | nan => exact ⟨fun h => (by cases h), fun h => (by cases h)⟩
  | infinite negative => exact ⟨fun h => (by cases h), fun h => (by cases h)⟩
  | finite negative m e =>
    rw [toInt?_finite, toRat?_finite]
    generalize signed negative m * twoPow e.toNat = num
    have hpos := twoPow_pos (-e).toNat
    generalize twoPow (-e).toNat = den at hpos
    have hden : (den : ℚ) ≠ 0 := by exact_mod_cast hpos.ne'
    have hwhole : (num : ℚ) / den = i ↔ num = i * den := by
      rw [div_eq_iff hden]
      exact_mod_cast Iff.rfl
    rw [Option.some.injEq, hwhole]
    constructor
    · intro h
      split at h
      case isTrue hmod =>
        rw [← Option.some.inj h]
        exact (Int.ediv_mul_cancel (Int.dvd_of_emod_eq_zero hmod)).symm
      case isFalse => cases h
    · rintro rfl
      have hne : (den : Int) ≠ 0 := by exact_mod_cast hpos.ne'
      rw [if_pos (Int.mul_emod_left i den), Int.mul_ediv_cancel i hne]

/-- A significand that is counted in smaller units stands for the same number. -/
lemma scaled_eq (negative : Bool) (m : Nat) {e low : Int} (h : low ≤ e) :
    (((if negative then -((m : Int) * twoPow (e - low).toNat)
      else (m : Int) * twoPow (e - low).toNat : Int)) : ℚ) * 2 ^ low
      = (if negative then -(m : ℚ) else m) * 2 ^ e := by
  obtain ⟨k, hk⟩ := Int.eq_ofNat_of_zero_le (Int.sub_nonneg_of_le h)
  obtain rfl : e = k + low := by omega
  have hsplit : (2 : ℚ) ^ ((k : Int) + low) = 2 ^ k * 2 ^ low := by
    rw [zpow_add₀ (by norm_num), zpow_natCast]
  rw [hk, hsplit]
  cases negative <;> simp [mul_assoc]

/-- Finite values are compared as their rational numbers are. -/
lemma compare?_eq {x y : BinaryValue} {p q : ℚ} (hx : x.toRat? = some p) (hy : y.toRat? = some q) :
    x.compare? y = some (compare p q) := by
  cases x with
  | nan => cases hx
  | infinite => cases hx
  | finite a m e =>
    cases y with
    | nan => cases hy
    | infinite => cases hy
    | finite b n d =>
      obtain rfl := Option.some.inj hx
      obtain rfl := Option.some.inj hy
      have hunit : (0 : ℚ) < 2 ^ min e d := zpow_pos (by norm_num) _
      rw [← scaled_eq a m (min_le_left e d), ← scaled_eq b n (min_le_right e d)]
      refine congrArg some (compare_congr ?_ ?_)
      · rw [mul_lt_mul_iff_left₀ hunit, Int.cast_lt]
      · rw [mul_lt_mul_iff_left₀ hunit, Int.cast_lt]

/-! ### Cutting off a fraction -/

/-- The whole number of a value without its fraction, towards zero. -/
def truncated : BinaryValue → BinaryValue
  | .finite negative m e => .finite negative (m * twoPow e.toNat / twoPow (-e).toNat) 0
  | x => x

/-- Whether a value is neither an infinity nor no number. -/
def isFinite : BinaryValue → Bool
  | .finite .. => true
  | _ => false

end BinaryValue

namespace Binary64

open BinaryValue

/-- The integer of a word by comparisons: the word is finite, has no fraction and is within the
bounds of 64 bits as they are rounded to words, and is cast. -/
def boundedInt64? (v : Binary64) : Option Int64 :=
  let low := (ofInt Int64.minValue.toInt).value
  let high := (ofInt Int64.maxValue.toInt).value
  if v.value.isFinite ∧ v.value.truncated.compare? v.value = some .eq
      ∧ v.value.compare? low ∈ [some .gt, some .eq] ∧ v.value.compare? high = some .lt then
    some v.toInt64
  else
    none

lemma toRat?_low : (ofInt Int64.minValue.toInt).value.toRat? = some (-2 ^ 63 : ℚ) := by
  have hvalue : (ofInt Int64.minValue.toInt).value = .finite true (2 ^ 52) 11 := by decide +kernel
  rw [hvalue, toRat?]
  norm_num

/-- The greatest integer of 64 bits is rounded up. -/
lemma toRat?_high : (ofInt Int64.maxValue.toInt).value.toRat? = some (2 ^ 63 : ℚ) := by
  have hvalue : (ofInt Int64.maxValue.toInt).value = .finite false (2 ^ 52) 11 := by decide +kernel
  rw [hvalue, toRat?]
  norm_num

/-- The tests of a finite word are tests of its rational number. -/
lemma boundedInt64?_finite {v : Binary64} {negative : Bool} {m : Nat} {e : Int} {q : ℚ}
    (hv : v.value = .finite negative m e) (hq : v.value.toRat? = some q) :
    v.boundedInt64? =
      if (signed negative (m * twoPow e.toNat / twoPow (-e).toNat) : ℚ) = q
          ∧ (-2 ^ 63 : ℚ) ≤ q ∧ q < 2 ^ 63 then
        some (Int64.ofIntClamp (signed negative (m * twoPow e.toNat / twoPow (-e).toNat)))
      else none := by
  have htruncated : v.value.truncated.toRat?
      = some (signed negative (m * twoPow e.toNat / twoPow (-e).toNat) : ℚ) := by
    rw [hv, truncated, toRat?_finite]
    simp
  have hcast : v.toInt64
      = Int64.ofIntClamp (signed negative (m * twoPow e.toNat / twoPow (-e).toNat)) := by
    rw [toInt64, hv]
    rfl
  have hlow : v.value.compare? (ofInt Int64.minValue.toInt).value ∈ [some .gt, some .eq]
      ↔ (-2 ^ 63 : ℚ) ≤ q := by
    rw [compare?_eq hq toRat?_low, ← compare_ge_iff_ge]
    cases compare q (-2 ^ 63 : ℚ) <;> simp
  have hfinite : v.value.isFinite = true := by
    rw [hv]
    rfl
  unfold boundedInt64?
  simp only [hfinite, hlow, compare?_eq htruncated hq, compare?_eq hq toRat?_high, hcast,
    Option.some.injEq, compare_eq_iff_eq, compare_lt_iff_lt, true_and]

/-- The whole part of a whole number is that number. -/
lemma signed_of_whole {negative : Bool} {m a b : Nat} {i : Int}
    (h : signed negative m * twoPow a = i * twoPow b) :
    signed negative (m * twoPow a / twoPow b) = i := by
  have hne : (twoPow b : Int) ≠ 0 := by exact_mod_cast (twoPow_pos b).ne'
  have hquotient (j : Int) (hj : (m : Int) * twoPow a = j * twoPow b) :
      ((m * twoPow a / twoPow b : Nat) : Int) = j := by
    push_cast
    rw [hj, Int.mul_ediv_cancel j hne]
  cases negative with
  | false => exact hquotient i h
  | true =>
    have hneg : (m : Int) * twoPow a = -i * twoPow b := by
      simp only [signed, if_true, Int.neg_mul] at h ⊢
      omega
    simp only [signed, if_true]
    rw [hquotient (-i) hneg, Int.neg_neg]

/-- The comparisons find the integer of a word if it is one of 64 bits, and nothing else. -/
lemma boundedInt64?_eq (v : Binary64) : v.boundedInt64? = v.toInt64? := by
  cases hv : v.value with
  | nan =>
    simp [boundedInt64?, toInt64?, hv, isFinite, BinaryValue.toInt?, dyadic?]
  | infinite negative =>
    simp [boundedInt64?, toInt64?, hv, isFinite, BinaryValue.toInt?, dyadic?]
  | finite negative m e =>
    have hq := toRat?_finite negative m e
    rw [← hv] at hq
    rw [boundedInt64?_finite hv hq]
    cases hint : v.value.toInt? with
    | none =>
      rw [toInt64?, hint, if_neg]
      · rfl
      · rintro ⟨hwhole, -, -⟩
        have := toInt?_eq_some_iff.2 (hq.trans (congrArg some hwhole.symm))
        rw [hint] at this
        cases this
    | some i =>
      have hi : (i : ℚ) = (signed negative m * twoPow e.toNat : Int) / (twoPow (-e).toNat : ℚ) :=
        Option.some.inj ((toInt?_eq_some_iff.1 hint).symm.trans hq)
      have hwhole : signed negative (m * twoPow e.toNat / twoPow (-e).toNat) = i := by
        refine signed_of_whole ?_
        rw [eq_div_iff (by exact_mod_cast (twoPow_pos _).ne')] at hi
        exact_mod_cast hi.symm
      have hmin : Int64.minValue.toInt = -2 ^ 63 := Int64.toInt_minValue
      have hmax : Int64.maxValue.toInt = 2 ^ 63 - 1 := Int64.toInt_maxValue
      have hlow : (-2 ^ 63 : ℚ) ≤ i ↔ Int64.minValue.toInt ≤ i := by
        rw [hmin, ← Int.cast_le (R := ℚ)]
        norm_num
      have hhigh : (i : ℚ) < 2 ^ 63 ↔ i ≤ Int64.maxValue.toInt := by
        rw [hmax, Int.le_sub_one_iff, ← Int.cast_lt (R := ℚ)]
        norm_num
      rw [toInt64?, hint, hwhole, ← hi]
      show _ = ForeignData.toInt64? i
      unfold ForeignData.toInt64?
      by_cases hrange : Int64.minValue.toInt ≤ i ∧ i ≤ Int64.maxValue.toInt
      · rw [if_pos hrange, if_pos ⟨rfl, hlow.2 hrange.1, hhigh.2 hrange.2⟩, Int64.ofIntClamp,
          dif_pos hrange.1, dif_pos hrange.2]
        rfl
      · rw [if_neg hrange, if_neg]
        rintro ⟨-, hle, hlt⟩
        exact hrange ⟨hlow.1 hle, hhigh.1 hlt⟩

end Binary64

end ForeignData
