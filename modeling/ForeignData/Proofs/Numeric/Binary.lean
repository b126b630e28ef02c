import Mathlib.Tactic.Ring
import ForeignData.Numeric.Binary

/-!
# Bounds of rounded whole numbers

A whole number is rounded to a word of 64 bits whose exponent field tells how many bits the number
has, so that the value of the word is not much greater than the number.
-/

namespace ForeignData

namespace BinaryFormat

variable {n k : Nat}

lemma divHalfEven_le (num den : Nat) : divHalfEven num den ≤ num / den + 1 := by
  simp only [divHalfEven]
  split <;> omega

lemma floorLog2_one (hn : n ≠ 0) : floorLog2 n 1 = Nat.log2 n := by
  have hle : twoPow (Nat.log2 n) ≤ n := Nat.log2_self_le hn
  have hone : Nat.log2 1 = 0 := by decide
  simp only [floorLog2, hone]
  rw [if_pos]
  · simp
  · simpa using hle

/-- The significand of a rounded whole number has 53 bits, or is the power of two above them. -/
lemma divHalfEven_scaled_le (n : Nat) :
    divHalfEven (n * twoPow (-((Nat.log2 n : Int) - 52)).toNat)
      (1 * twoPow ((Nat.log2 n : Int) - 52).toNat) ≤ 2 ^ 53 := by
  have hlt : n < 2 ^ (Nat.log2 n + 1) := Nat.lt_log2_self
  refine Nat.le_trans (divHalfEven_le _ _) (Nat.succ_le_of_lt ?_)
  rw [Nat.one_mul]
  by_cases h : 52 ≤ Nat.log2 n
  · have hdown : (-((Nat.log2 n : Int) - 52)).toNat = 0 := by omega
    have hup : ((Nat.log2 n : Int) - 52).toNat = Nat.log2 n - 52 := by omega
    rw [hdown, hup]
    apply Nat.div_lt_of_lt_mul
    calc n * 2 ^ 0 = n := Nat.mul_one n
      _ < 2 ^ (Nat.log2 n + 1) := hlt
      _ = 2 ^ (Nat.log2 n - 52) * 2 ^ 53 := by rw [← Nat.pow_add]; congr 1; omega
  · have hdown : (-((Nat.log2 n : Int) - 52)).toNat = 52 - Nat.log2 n := by omega
    have hup : ((Nat.log2 n : Int) - 52).toNat = 0 := by omega
    rw [hdown, hup]
    calc n * 2 ^ (52 - Nat.log2 n) / 2 ^ 0 = n * 2 ^ (52 - Nat.log2 n) := Nat.div_one _
      _ < 2 ^ (Nat.log2 n + 1) * 2 ^ (52 - Nat.log2 n) :=
        Nat.mul_lt_mul_of_pos_right hlt (twoPow_pos _)
      _ = 2 ^ 53 := by rw [← Nat.pow_add]; congr 1; omega

/-- A whole number of `k` bits is rounded to a word with no greater exponent field than this. -/
lemma round_one_le (h : n < 2 ^ k) : binary64.round n 1 ≤ (k + 1023) * 2 ^ 52 := by
  unfold round
  by_cases hn : n = 0
  · rw [if_pos hn]
    exact Nat.zero_le _
  · have hlog : Nat.log2 n < k := (Nat.log2_lt hn).2 h
    have hmin : binary64.minExponent = -1074 := by decide
    have hbits : ((binary64.fractionBits : Nat) : Int) = 52 := rfl
    have hexponent : max (floorLog2 n 1 - binary64.fractionBits) binary64.minExponent
        = (Nat.log2 n : Int) - 52 := by
      rw [floorLog2_one hn, hmin, hbits]
      omega
    have hfield : ((Nat.log2 n : Int) - 52 - binary64.minExponent).toNat = Nat.log2 n + 1022 := by
      rw [hmin]
      omega
    have hsignificand := divHalfEven_scaled_le n
    rw [if_neg hn]
    dsimp only
    rw [hexponent, hfield]
    refine Nat.le_trans (Nat.min_le_left _ _) ?_
    have hunit : twoPow binary64.fractionBits = 2 ^ 52 := rfl
    rw [hunit]
    omega

/-- A finite value is below the power of two that its significand and its exponent tell, if it is a
whole number. -/
lemma toInt?_finite_lt (negative : Bool) {m : Nat} {x : Int} (hm : m < 2 ^ 53) (hx : x ≤ k) :
    ((BinaryValue.finite negative m x).toInt?.getD 0).toNat < 2 ^ (k + 53) := by
  have hle : ∀ e : Nat, e ≤ k → m * 2 ^ e < 2 ^ (k + 53) := by
    intro e he
    calc m * 2 ^ e < 2 ^ 53 * 2 ^ e := Nat.mul_lt_mul_of_pos_right hm (twoPow_pos _)
      _ = 2 ^ (e + 53) := by rw [← Nat.pow_add, Nat.add_comm]
      _ ≤ 2 ^ (k + 53) := Nat.pow_le_pow_right (by decide) (by omega)
  have hpos : 0 < 2 ^ (k + 53) := twoPow_pos _
  have hinteger : ∀ i : Int, i ≤ (m : Int) * 2 ^ x.toNat → i.toNat < 2 ^ (k + 53) := by
    intro i hi
    have hcast : ((m * 2 ^ x.toNat : Nat) : Int) = (m : Int) * 2 ^ x.toNat := by push_cast; rfl
    have := hle x.toNat (by omega)
    omega
  have hscale : (m : Int) ≤ m * 2 ^ x.toNat := by
    have := Nat.le_mul_of_pos_right m (twoPow_pos x.toNat)
    exact_mod_cast this
  have hsigned : (if negative then -(m : Int) else m) ≤ m := by
    split <;> omega
  simp only [BinaryValue.toInt?, BinaryValue.dyadic?, Option.bind_eq_bind, Option.bind_some]
  generalize (if negative then -(m : Int) else m) = i at hsigned
  by_cases h : 0 ≤ x
  · rw [if_pos h]
    exact hinteger _ (Int.mul_le_mul_of_nonneg_right hsigned (Int.natCast_nonneg _))
  · rw [if_neg h]
    by_cases hmod : i % twoPow (-x).toNat = 0
    · rw [if_pos hmod]
      have hdiv : i / (twoPow (-x).toNat : Nat) ≤ m := by
        refine Int.le_trans (Int.ediv_le_ediv (by exact_mod_cast twoPow_pos _) hsigned) ?_
        exact Int.ediv_le_self _ (Int.natCast_nonneg m)
      exact hinteger _ (Int.le_trans hdiv hscale)
    · rw [if_neg hmod]
      exact hpos

/-- The whole number that a word writes, or nothing, is below the power of two that its exponent
field tells. -/
lemma toInt?_decode_lt {bits : Nat} (h : bits < (k + 1076) * 2 ^ 52) :
    ((binary64.decode bits).toInt?.getD 0).toNat < 2 ^ (k + 53) := by
  have hpos : 0 < 2 ^ (k + 53) := twoPow_pos _
  have hfraction : bits % twoPow binary64.fractionBits < 2 ^ 52 :=
    Nat.mod_lt _ (twoPow_pos _)
  have hexponent : bits / twoPow binary64.fractionBits % twoPow binary64.exponentBits < k + 1076 :=
    Nat.lt_of_le_of_lt (Nat.mod_le _ _) (Nat.div_lt_of_lt_mul (by rwa [Nat.mul_comm] at h))
  have hmin : binary64.minExponent = -1074 := by decide
  have hunit : twoPow binary64.fractionBits = 2 ^ 52 := rfl
  unfold decode
  dsimp only
  split
  · split
    · simp [BinaryValue.toInt?, BinaryValue.dyadic?, hpos]
    · simp [BinaryValue.toInt?, BinaryValue.dyadic?, hpos]
  · split
    · exact toInt?_finite_lt _ (by omega) (by omega)
    · exact toInt?_finite_lt _ (by omega) (by omega)

/-- A whole number has at most one bit more when it has been rounded. -/
lemma toInt?_decode_round_lt (h : n < 2 ^ (k + 52)) :
    ((binary64.decode (binary64.round n 1)).toInt?.getD 0).toNat < 2 ^ (k + 53) := by
  have hround := round_one_le h
  exact toInt?_decode_lt (by omega)

end BinaryFormat

end ForeignData
