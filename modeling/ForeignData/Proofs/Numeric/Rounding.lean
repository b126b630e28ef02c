import Mathlib.Algebra.Order.Field.Rat
import Mathlib.Tactic.FieldSimp
import Mathlib.Tactic.Linarith
import Mathlib.Tactic.NormNum
import Mathlib.Tactic.Positivity
import ForeignData.Proofs.Numeric.Decimal

/-!
# Rounded mantissas

The digits of a number are read until one does not fit, and this one decides how the mantissa is
rounded. What is read is within half a unit of its last place, and is the number itself if any
mantissa and scale within the bounds write that number. A mantissa that was rounded has no room
left: it has all places, or no further digit fits.
-/

namespace ForeignData

namespace Decimal

/-- A number that a mantissa and a scale within the bounds write. -/
def Fits (y : ℚ) : Prop :=
  ∃ m scale : Nat, m < magnitudeBound ∧ scale ≤ maxScale ∧ (m : ℚ) / 10 ^ scale = y

/-- A mantissa and a scale that a number was rounded to. -/
structure Rounded (m scale : Nat) (y : ℚ) : Prop where
  magnitude_lt : m < magnitudeBound
  scale_le : scale ≤ maxScale
  near : |(m : ℚ) / 10 ^ scale - y| ≤ 1 / 2 / 10 ^ scale
  exact : Fits y → (m : ℚ) / 10 ^ scale = y
  full : (m : ℚ) / 10 ^ scale ≠ y → scale = maxScale ∨ magnitudeBound ≤ 10 * m

lemma pow_pos_rat (n : Nat) : (0 : ℚ) < 10 ^ n :=
  pow_pos (by norm_num) n

/-- A distance in units of some place. -/
lemma abs_div_sub_div_le {x y ε u : ℚ} (hu : 0 < u) (h : |x - y| ≤ ε) :
    |x / u - y / u| ≤ ε / u := by
  rw [← sub_div, abs_div, abs_of_pos hu]
  exact div_le_div_of_nonneg_right h hu.le

lemma Fits.lt {y : ℚ} (h : Fits y) : y < magnitudeBound := by
  obtain ⟨m, scale, hm, -, rfl⟩ := h
  calc (m : ℚ) / 10 ^ scale ≤ m := div_le_self (Nat.cast_nonneg m) (one_le_pow₀ (by norm_num))
    _ < magnitudeBound := by exact_mod_cast hm

lemma Rounded.refl {m scale : Nat} (hm : m < magnitudeBound) (hscale : scale ≤ maxScale) :
    Rounded m scale ((m : ℚ) / 10 ^ scale) := by
  have hpow := pow_pos_rat scale
  refine ⟨hm, hscale, ?_, fun _ => rfl, fun h => absurd rfl h⟩
  rw [sub_self, abs_zero]
  positivity

/-! ### The first digit that does not fit -/

section Digit

variable {m scale c : Nat} {f : ℚ}

/-- A digit rounds up from five on, which leaves out at most half a unit. -/
lemma abs_round_le (hlow : (c : ℚ) / 10 ≤ f) (hhigh : f ≤ (c + 1) / 10) (hc : c ≤ 9) :
    |((m + if 5 ≤ c then 1 else 0 : Nat) : ℚ) - (m + f)| ≤ 1 / 2 := by
  have hc' : (c : ℚ) ≤ 9 := by exact_mod_cast hc
  split
  case isTrue h =>
    have h' : (5 : ℚ) ≤ c := by exact_mod_cast h
    push_cast
    rw [abs_le]
    constructor <;> linarith
  case isFalse h =>
    have h' : (c : ℚ) ≤ 4 := by exact_mod_cast (by omega : c ≤ 4)
    push_cast
    rw [abs_le]
    constructor <;> linarith

/-- Nothing is left of a number that fits, where the places have ended or a further digit does not
fit. -/
lemma eq_zero_of_fits (hscale : scale ≤ maxScale) (hlow : (c : ℚ) / 10 ≤ f) (hhigh : f < 1)
    (hstop : scale = maxScale ∨ magnitudeBound ≤ 10 * m + c)
    (hfits : Fits ((m + f) / 10 ^ scale)) : f = 0 ∧ c = 0 := by
  suffices hzero : f = 0 by
    have : (c : ℚ) ≤ 0 := by linarith
    exact ⟨hzero, by exact_mod_cast le_antisymm this (Nat.cast_nonneg c)⟩
  obtain ⟨k, s, hk, hs, heq⟩ := hfits
  have hf : 0 ≤ f := le_trans (by positivity) hlow
  have hvalue : (k : ℚ) * 10 ^ scale = (m + f) * 10 ^ s := by
    rwa [div_eq_div_iff (pow_pos_rat s).ne' (pow_pos_rat scale).ne'] at heq
  rcases Nat.lt_or_ge scale s with hlt | hle
  · -- more places than were reached, but the next digit already makes the mantissa too great
    obtain ⟨j, rfl⟩ := Nat.exists_eq_add_of_lt hlt
    have hgreat : magnitudeBound ≤ 10 * m + c := hstop.resolve_left (by omega)
    have hunits : (k : ℚ) = (m + f) * (10 ^ j * 10) := by
      have hpow := (pow_pos_rat scale).ne'
      rw [Nat.add_assoc, pow_add, pow_succ] at hvalue
      field_simp at hvalue
      linarith
    have hfactor : (m + f) * 10 ≤ (m + f) * (10 ^ j * 10) := by
      refine mul_le_mul_of_nonneg_left ?_ (by positivity)
      exact le_mul_of_one_le_left (by norm_num) (one_le_pow₀ (by norm_num))
    have hk' : (k : ℚ) < magnitudeBound := by exact_mod_cast hk
    have hgreat' : (magnitudeBound : ℚ) ≤ 10 * m + c := by exact_mod_cast hgreat
    linarith
  · -- a whole number of units of the place that was reached
    obtain ⟨j, rfl⟩ := Nat.exists_eq_add_of_le hle
    have hunits : (k * 10 ^ j : ℚ) = m + f := by
      have hpow := (pow_pos_rat s).ne'
      rw [pow_add] at hvalue
      field_simp at hvalue
      linarith
    have hone : m ≤ k * 10 ^ j ∧ k * 10 ^ j < m + 1 := by
      constructor
      · exact_mod_cast (by linarith : (m : ℚ) ≤ k * 10 ^ j)
      · exact_mod_cast (by linarith : (k * 10 ^ j : ℚ) < m + 1)
    have hm : (k * 10 ^ j : ℚ) = m := by exact_mod_cast (by omega : k * 10 ^ j = m)
    linarith

/-- A mantissa that ends in five is rounded up to a whole number of tens, which leaves it within
half a unit of one place less. -/
lemma abs_roundTens_le {place : Nat} (hfive : (m + 5) / 10 * 10 = m + 5) (hlow : 0 ≤ f)
    (hhigh : f < 1) :
    |((m + 5) / 10 : Nat) / 10 ^ place - (m + f) / 10 ^ (place + 1)|
      ≤ (1 : ℚ) / 2 / 10 ^ place := by
  have htens : ((m + 5) / 10 : Nat) / 10 ^ place = ((m : ℚ) + 5) / 10 ^ (place + 1) := by
    have : (((m + 5) / 10 : Nat) : ℚ) * 10 = m + 5 := by exact_mod_cast hfive
    rw [pow_succ]
    field_simp
    linarith
  have hhalf : (1 : ℚ) / 2 / 10 ^ place = 5 / 10 ^ (place + 1) := by
    rw [pow_succ]
    field_simp
    norm_num
  rw [htens, hhalf]
  refine abs_div_sub_div_le (pow_pos_rat _) ?_
  rw [abs_le]
  constructor <;> linarith

/-- A mantissa that is rounded at a digit that does not fit. -/
lemma rounded_roundMantissa (hm : m < magnitudeBound) (hscale : scale ≤ maxScale) (hc : c ≤ 9)
    (hlow : (c : ℚ) / 10 ≤ f) (hhigh : f < (c + 1) / 10)
    (hstop : scale = maxScale ∨ magnitudeBound ≤ 10 * m + c) {m' scale' : Nat}
    (h : roundMantissa m scale c = some (m', scale')) :
    Rounded m' scale' ((m + f) / 10 ^ scale) := by
  have hc' : (c : ℚ) ≤ 9 := by exact_mod_cast hc
  have hone : f < 1 := by linarith
  have hpos : 0 ≤ f := le_trans (by positivity) hlow
  have hpow := pow_pos_rat scale
  have hbound : magnitudeBound = 79228162514264337593543950336 := rfl
  have hround := abs_round_le (m := m) hlow hhigh.le hc
  have hexact := eq_zero_of_fits hscale hlow hone hstop
  unfold roundMantissa at h
  split at h
  case isTrue hdown =>
    obtain ⟨rfl, rfl⟩ := Prod.mk.inj (Option.some.inj h)
    rw [if_neg (by omega), Nat.add_zero] at hround
    refine ⟨hm, hscale, abs_div_sub_div_le hpow hround, fun hfits => ?_, fun _ => ?_⟩
    · rw [(hexact hfits).1, add_zero]
    · exact hstop.imp id fun _ => by omega
  case isFalse hup =>
    rw [if_pos (by omega)] at hround
    have hnot : ¬Fits ((m + f) / 10 ^ scale) := fun hfits => by
      have := (hexact hfits).2
      omega
    split at h
    case isTrue hroom =>
      obtain ⟨rfl, rfl⟩ := Prod.mk.inj (Option.some.inj h)
      exact ⟨hroom, hscale, abs_div_sub_div_le hpow hround, fun hfits => absurd hfits hnot,
        fun _ => hstop.imp id fun _ => by omega⟩
    case isFalse hfull =>
      split at h
      case isTrue => cases h
      case isFalse hplaces =>
        obtain ⟨rfl, rfl⟩ := Prod.mk.inj (Option.some.inj h)
        obtain ⟨place, rfl⟩ := Nat.exists_eq_succ_of_ne_zero hplaces
        -- only the greatest mantissa has no room for one more, and it ends in five
        rw [Nat.succ_sub_one]
        exact ⟨by omega, by omega, abs_roundTens_le (by omega) hpos hone,
          fun hfits => absurd hfits hnot, fun _ => .inr (by omega)⟩

end Digit

/-! ### Digits behind the point -/

lemma digitValue_le_nine {c : Char} (h : c.isDigit = true) : digitValue c ≤ 9 := by
  have := (isDigit_iff_toNat c).1 h
  unfold digitValue
  omega

lemma digitsValue_lt {s : List Char} (hs : AllDigits s) : digitsValue s < 10 ^ s.length := by
  induction s with
  | nil => simp
  | cons c s ih =>
    have hc := digitValue_le_nine (hs c (by simp))
    have hrest := ih fun d hd => hs d (by simp [hd])
    have hmul : digitValue c * 10 ^ s.length ≤ 9 * 10 ^ s.length := Nat.mul_le_mul_right _ hc
    rw [digitsValue_cons, List.length_cons, pow_succ]
    omega

/-- Digits that are left over round by the first of them. -/
lemma readRounded?_digits {m scale : Nat} {c : Char} {s : List Char} (hs : AllDigits (c :: s)) :
    readRounded? m scale (c :: s) = roundMantissa m scale (digitValue c) := by
  have hc : c.isDigit = true := hs c (by simp)
  have hall : (c :: s).all isDigitOrSeparator = true := by
    rw [List.all_eq_true]
    intro d hd
    simp [isDigitOrSeparator, hs d hd]
  have hmark : (c == '_') = false := by
    rw [beq_eq_false_iff_ne]
    exact ne_of_isDigit hc (by decide)
  rw [readRounded?, if_pos hall, List.dropWhile_cons_of_neg (by simp [hmark])]

/-- The digits behind a mantissa as a part of its last unit. -/
lemma part_of_digits {c : Char} {s : List Char} (hs : AllDigits (c :: s)) :
    (digitValue c : ℚ) / 10 ≤ digitsValue (c :: s) / 10 ^ (s.length + 1)
      ∧ (digitsValue (c :: s) : ℚ) / 10 ^ (s.length + 1) < (digitValue c + 1) / 10 := by
  have hrest : digitsValue s < 10 ^ s.length := digitsValue_lt fun d hd => hs d (by simp [hd])
  have hrest' : (digitsValue s : ℚ) < 10 ^ s.length := by exact_mod_cast hrest
  have hpow := pow_pos_rat s.length
  have hvalue : (digitsValue (c :: s) : ℚ) = digitValue c * 10 ^ s.length + digitsValue s := by
    rw [digitsValue_cons]
    push_cast
    rfl
  rw [hvalue, pow_succ, ← div_div]
  constructor
  · refine div_le_div_of_nonneg_right ?_ (by norm_num)
    rw [le_div_iff₀ hpow]
    linarith [Nat.cast_nonneg (α := ℚ) (digitsValue s)]
  · refine div_lt_div_of_pos_right ?_ (by norm_num)
    rw [div_lt_iff₀ hpow]
    linarith

/-- The number of a mantissa with digits behind it. -/
def numberOf (m scale : Nat) (s : List Char) : ℚ :=
  (m * 10 ^ s.length + digitsValue s) / 10 ^ (scale + s.length)

lemma numberOf_nil (m scale : Nat) : numberOf m scale [] = m / 10 ^ scale := by
  simp [numberOf]

lemma numberOf_cons (m scale : Nat) (c : Char) (s : List Char) :
    numberOf m scale (c :: s) = numberOf (10 * m + digitValue c) (scale + 1) s := by
  rw [numberOf, numberOf, digitsValue_cons, List.length_cons]
  have hplaces : scale + (s.length + 1) = scale + 1 + s.length := by omega
  rw [hplaces]
  push_cast
  congr 1
  ring

lemma numberOf_eq_part (m scale : Nat) (s : List Char) :
    numberOf m scale s = (m + digitsValue s / 10 ^ s.length) / 10 ^ scale := by
  have hpow := (pow_pos_rat s.length).ne'
  rw [numberOf, pow_add]
  field_simp

lemma readMantissa?_stop {m scale : Nat} {c : Char} {s : List Char} (hs : AllDigits (c :: s))
    (hstop : scale = maxScale ∨ magnitudeBound ≤ 10 * m + digitValue c) (seen : Bool) :
    readMantissa? m scale true seen (c :: s) = roundMantissa m scale (digitValue c) := by
  have hc : c.isDigit = true := hs c (by simp)
  rw [readMantissa?, ← readRounded?_digits hs]
  by_cases hplaces : scale = maxScale
  · simp [hplaces]
  · have hgreat := Nat.not_lt.2 (hstop.resolve_left hplaces)
    simp [hplaces, hc, hgreat]

lemma readMantissa?_take {m scale : Nat} {c : Char} {s : List Char} (hc : c.isDigit = true)
    (hplaces : scale ≠ maxScale) (hroom : 10 * m + digitValue c < magnitudeBound) (seen : Bool) :
    readMantissa? m scale true seen (c :: s)
      = readMantissa? (10 * m + digitValue c) (scale + 1) true true s := by
  rw [readMantissa?]
  simp [hplaces, hc, hroom]

lemma rounded_of_fraction {s : List Char} (hs : AllDigits s) {m scale m' scale' : Nat}
    (hm : m < magnitudeBound) (hscale : scale ≤ maxScale) {seen : Bool}
    (h : readMantissa? m scale true seen s = some (m', scale')) :
    Rounded m' scale' (numberOf m scale s) := by
  induction s generalizing m scale seen with
  | nil =>
    rw [readMantissa?] at h
    obtain ⟨-, h⟩ := Option.ite_none_right_eq_some.1 h
    obtain ⟨rfl, rfl⟩ := Prod.mk.inj (Option.some.inj h)
    rw [numberOf_nil]
    exact .refl hm hscale
  | cons c s ih =>
    have hc : c.isDigit = true := hs c (by simp)
    by_cases hstop : scale = maxScale ∨ magnitudeBound ≤ 10 * m + digitValue c
    · rw [readMantissa?_stop hs hstop] at h
      obtain ⟨hlow, hhigh⟩ := part_of_digits hs
      rw [numberOf_eq_part]
      exact rounded_roundMantissa hm hscale (digitValue_le_nine hc) hlow hhigh hstop h
    · obtain ⟨hplaces, hroom⟩ := not_or.1 hstop
      rw [readMantissa?_take hc hplaces (Nat.lt_of_not_le hroom)] at h
      rw [numberOf_cons]
      exact ih (fun d hd => hs d (by simp [hd])) (Nat.lt_of_not_le hroom) (by omega) h

lemma exists_of_fraction {s : List Char} (hs : AllDigits s) {m scale : Nat}
    (hscale : scale ≤ maxScale) (hfits : Fits (numberOf m scale s)) {seen : Bool}
    (hseen : seen = true ∨ s ≠ []) : ∃ r, readMantissa? m scale true seen s = some r := by
  induction s generalizing m scale seen with
  | nil =>
    obtain rfl : seen = true := hseen.resolve_right (by simp)
    exact ⟨(m, scale), rfl⟩
  | cons c s ih =>
    have hc : c.isDigit = true := hs c (by simp)
    by_cases hstop : scale = maxScale ∨ magnitudeBound ≤ 10 * m + digitValue c
    · have hnine : (digitValue c : ℚ) ≤ 9 := by exact_mod_cast digitValue_le_nine hc
      obtain ⟨hlow, hhigh⟩ := part_of_digits hs
      rw [numberOf_eq_part] at hfits
      obtain ⟨-, hzero⟩ := eq_zero_of_fits hscale hlow (by linarith) hstop hfits
      have hdigit : digitValue c < 5 := by omega
      exact ⟨(m, scale), by rw [readMantissa?_stop hs hstop, roundMantissa, if_pos hdigit]⟩
    · obtain ⟨hplaces, hroom⟩ := not_or.1 hstop
      rw [numberOf_cons] at hfits
      obtain ⟨r, hr⟩ := ih (fun d hd => hs d (by simp [hd])) (by omega) hfits (.inl rfl)
      exact ⟨r, by rw [readMantissa?_take hc hplaces (Nat.lt_of_not_le hroom), hr]⟩

/-! ### Digits in front of the point -/

/-- Digits in front of the point have to fit. -/
lemma readMantissa?_whole_eq_none {s : List Char} (hs : AllDigits s) (t : List Char)
    {m scale : Nat} {seen : Bool} (hm : m < magnitudeBound)
    (hgreat : magnitudeBound ≤ m * 10 ^ s.length + digitsValue s) :
    readMantissa? m scale false seen (s ++ t) = none := by
  induction s generalizing m seen with
  | nil =>
    simp at hgreat
    omega
  | cons c s ih =>
    have hc : c.isDigit = true := hs c (by simp)
    have hvalue : m * 10 ^ (c :: s).length + digitsValue (c :: s)
        = (10 * m + digitValue c) * 10 ^ s.length + digitsValue s := by
      rw [List.length_cons, digitsValue_cons]
      ring
    rw [List.cons_append, readMantissa?]
    simp only [Bool.false_and, Bool.false_eq_true, if_false, hc, if_true]
    split
    case isTrue hroom =>
      exact ih (fun d hd => hs d (by simp [hd])) hroom (by rwa [hvalue] at hgreat)
    case isFalse => rfl

/-- A mantissa: digits, and perhaps a point and further digits, at least one in all. -/
structure Mantissa where
  whole : List Char
  fraction : Option (List Char)
  allDigits_whole : AllDigits whole
  allDigits_fraction : ∀ s ∈ fraction, AllDigits s
  ne_nil : whole ≠ [] ∨ ∃ s ∈ fraction, s ≠ []

namespace Mantissa

def text (n : Mantissa) : List Char :=
  n.whole ++ n.fraction.elim [] ('.' :: ·)

def value (n : Mantissa) : ℚ :=
  digitsValue (n.whole ++ n.fraction.getD []) / 10 ^ (n.fraction.getD []).length

lemma value_eq (n : Mantissa) :
    n.value = numberOf (digitsValue n.whole) 0 (n.fraction.getD []) := by
  rw [value, numberOf, digitsValue_append, Nat.zero_add]
  push_cast
  rfl

lemma whole_le_value (n : Mantissa) : (digitsValue n.whole : ℚ) ≤ n.value := by
  rw [value_eq, numberOf_eq_part, pow_zero, div_one]
  have : (0 : ℚ) ≤ digitsValue (n.fraction.getD []) / 10 ^ (n.fraction.getD []).length := by
    positivity
  linarith

lemma value_nonneg (n : Mantissa) : 0 ≤ n.value := by
  rw [value]
  positivity

lemma text_ne_nil (n : Mantissa) : n.text ≠ [] := by
  rw [text]
  rcases n.ne_nil with hwhole | ⟨s, hs, -⟩
  · simp [hwhole]
  · simp [Option.mem_def.1 hs]

lemma mem_text {n : Mantissa} {c : Char} (h : c ∈ n.text) :
    c.isDigit = true ∨ c = '.' := by
  rw [text] at h
  rcases List.mem_append.1 h with hwhole | hfraction
  · exact .inl (n.allDigits_whole c hwhole)
  · cases hs : n.fraction with
    | none => simp [hs] at hfraction
    | some s =>
      rw [hs] at hfraction
      rcases List.mem_cons.1 hfraction with hpoint | hmem
      · exact .inr hpoint
      · exact .inl (n.allDigits_fraction s hs c hmem)

/-- A mantissa is read by its digits in front of the point, if these fit, and those behind it. -/
lemma readMantissa?_text (n : Mantissa) (hwhole : digitsValue n.whole < magnitudeBound) :
    readMantissa? 0 0 false false n.text
      = n.fraction.elim (some (digitsValue n.whole, 0))
          (readMantissa? (digitsValue n.whole) 0 true (!n.whole.isEmpty)) := by
  rw [text, readMantissa?_whole n.allDigits_whole _ (by simpa using hwhole)]
  cases hfraction : n.fraction with
  | none =>
    have hne : n.whole ≠ [] := by simpa [hfraction] using n.ne_nil
    simp [readMantissa?, hne]
  | some s =>
    have hpoint : '.'.isDigit = false := by decide
    simp [readMantissa?, hpoint]

lemma whole_lt_of_read {n : Mantissa} {r : Nat × Nat}
    (h : readMantissa? 0 0 false false n.text = some r) : digitsValue n.whole < magnitudeBound := by
  by_contra hgreat
  rw [text, readMantissa?_whole_eq_none n.allDigits_whole _ (by decide) (by omega)] at h
  cases h

lemma rounded_of_read {n : Mantissa} {m scale : Nat}
    (h : readMantissa? 0 0 false false n.text = some (m, scale)) : Rounded m scale n.value := by
  have hwhole := whole_lt_of_read h
  rw [readMantissa?_text n hwhole] at h
  rw [value_eq]
  cases hfraction : n.fraction with
  | none =>
    rw [hfraction] at h
    obtain ⟨rfl, rfl⟩ := Prod.mk.inj (Option.some.inj h)
    rw [Option.getD_none, numberOf_nil]
    exact .refl hwhole (Nat.zero_le _)
  | some s =>
    rw [hfraction] at h
    exact rounded_of_fraction (n.allDigits_fraction s hfraction) hwhole (Nat.zero_le _) h

lemma exists_of_fits {n : Mantissa} (hfits : Fits n.value) :
    ∃ r, readMantissa? 0 0 false false n.text = some r := by
  have hwhole : digitsValue n.whole < magnitudeBound := by
    exact_mod_cast n.whole_le_value.trans_lt hfits.lt
  rw [readMantissa?_text n hwhole]
  cases hfraction : n.fraction with
  | none => exact ⟨_, rfl⟩
  | some s =>
    rw [value_eq, hfraction] at hfits
    refine exists_of_fraction (n.allDigits_fraction s hfraction) (Nat.zero_le _) hfits ?_
    obtain hne | ⟨s', hs', hne⟩ := n.ne_nil
    · exact .inl (by simpa using hne)
    · obtain rfl := Option.mem_unique hs' hfraction
      exact .inr hne

end Mantissa

end Decimal

end ForeignData
