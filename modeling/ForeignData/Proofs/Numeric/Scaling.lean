import ForeignData.Proofs.Numeric.Rounding

/-!
# Powers of ten

A decimal stands for a rational number. A mantissa that was rounded to a decimal is multiplied by a
power of ten, or divided by one, where a quotient is rounded once more. What comes out is less than
one unit of its last place away, and is the product or quotient itself exactly if this fits and the
mantissa did. Otherwise there was no room for one more digit at one of the two steps.
-/

namespace ForeignData

namespace Decimal

def toRat (d : Decimal) : ℚ :=
  d.units / 10 ^ d.scale

/-- Some decimal stands for a number. -/
def IsDecimal (x : ℚ) : Prop :=
  ∃ d : Decimal, d.toRat = x

/-! ### Powers of ten -/

/-- How a mantissa and a scale stand to the product of a number that was rounded and a power of
ten. -/
structure IsNear (m scale : Nat) (y : ℚ) (power : ℤ) : Prop where
  near : |(m : ℚ) / 10 ^ scale - y * 10 ^ power| < 1 / 10 ^ scale
  exact_iff : (m : ℚ) / 10 ^ scale = y * 10 ^ power ↔ Fits y ∧ Fits (y * 10 ^ power)
  full : (m : ℚ) / 10 ^ scale ≠ y * 10 ^ power →
    scale = maxScale ∨ scale + power = maxScale ∨ magnitudeBound ≤ 10 * m

/-- A rounded mantissa stays so when its scale is changed. -/
lemma Rounded.rescale {m scale scale' : Nat} {y : ℚ} {power : ℤ} (h : Rounded m scale y)
    (hscale' : scale' ≤ maxScale) (hpower : scale' + power = scale) :
    IsNear m scale' y power := by
  have hfactor : (10 : ℚ) ^ power = 10 ^ scale / 10 ^ scale' := by
    obtain rfl : power = scale - scale' := by omega
    rw [zpow_sub₀ (by norm_num), zpow_natCast, zpow_natCast]
  have hpos : (0 : ℚ) < 10 ^ power := zpow_pos (by norm_num) power
  have hvalue : (m : ℚ) / 10 ^ scale' = m / 10 ^ scale * 10 ^ power := by
    rw [hfactor]
    field_simp
  refine ⟨?_, ?_, ?_⟩
  · calc |(m : ℚ) / 10 ^ scale' - y * 10 ^ power|
        = |(m : ℚ) / 10 ^ scale - y| * 10 ^ power := by
          rw [hvalue, ← sub_mul, abs_mul, abs_of_pos hpos]
      _ ≤ 1 / 2 / 10 ^ scale * 10 ^ power := mul_le_mul_of_nonneg_right h.near hpos.le
      _ = 1 / 2 / 10 ^ scale' := by
        rw [hfactor]
        field_simp
      _ < 1 / 10 ^ scale' := by gcongr; norm_num
  · rw [hvalue, mul_left_inj' hpos.ne']
    constructor
    · intro heq
      refine ⟨⟨m, scale, h.magnitude_lt, h.scale_le, heq⟩, m, scale', h.magnitude_lt, hscale', ?_⟩
      rw [hvalue, heq]
    · exact fun hfits => h.exact hfits.1
  · rw [hvalue, Ne, mul_left_inj' hpos.ne']
    exact fun hne => .inr ((h.full hne).imp_left fun hscale => by omega)

lemma signed?_eq_some {negative : Bool} {magnitude scale : Nat} {d : Decimal}
    (h : signed? negative magnitude scale = some d) :
    d.negative = negative ∧ d.magnitude = magnitude ∧ d.scale = scale := by
  unfold signed? at h
  split at h
  · obtain rfl := Option.some.inj h
    exact ⟨rfl, rfl, rfl⟩
  · cases h

/-- One decimal has the sign of another, and is zero where that is. -/
def KeepsSign (d d' : Decimal) : Prop :=
  d'.negative = d.negative ∧ (d.magnitude = 0 → d'.magnitude = 0)

/-- The digits that a division by a power of ten drops, as a part of the last unit that it keeps. -/
lemma part_of_quotient (m k : Nat) :
    ((m / 10 ^ k % 10 : Nat) : ℚ) / 10 ≤ (m : ℚ) / 10 ^ (k + 1) - (m / 10 ^ k / 10 : Nat)
      ∧ (m : ℚ) / 10 ^ (k + 1) - (m / 10 ^ k / 10 : Nat) < ((m / 10 ^ k % 10 : Nat) + 1) / 10 := by
  have hpow := pow_pos_rat k
  have hlow : ((m / 10 ^ k : Nat) : ℚ) * 10 ^ k ≤ m := by
    exact_mod_cast Nat.div_mul_le_self m (10 ^ k)
  have hhigh : (m : ℚ) < ((m / 10 ^ k : Nat) + 1) * 10 ^ k := by
    exact_mod_cast Nat.lt_mul_of_div_lt (Nat.lt_succ_self _) (Nat.pow_pos (by decide))
  have hdigit : ((m / 10 ^ k : Nat) : ℚ)
      = 10 * (m / 10 ^ k / 10 : Nat) + (m / 10 ^ k % 10 : Nat) := by
    exact_mod_cast (Nat.div_add_mod (m / 10 ^ k) 10).symm
  rw [← le_div_iff₀ hpow] at hlow
  rw [← div_lt_iff₀ hpow] at hhigh
  rw [pow_succ, ← div_div]
  constructor <;> linarith

/-- A rounded mantissa that is rounded once more, to all places that there are. -/
lemma Rounded.drop {m scale n k : Nat} {y : ℚ} (h : Rounded m scale y) (hn : n ≤ maxScale)
    (hk : scale + n = maxScale + (k + 1))
    (hlt : m / 10 ^ k / 10 + (if 5 ≤ m / 10 ^ k % 10 then 1 else 0) < magnitudeBound) :
    IsNear (m / 10 ^ k / 10 + if 5 ≤ m / 10 ^ k % 10 then 1 else 0) maxScale y (-n) := by
  have hquotient : y * 10 ^ (-(n : ℤ)) = y / 10 ^ n := by
    rw [zpow_neg, zpow_natCast, div_eq_mul_inv]
  obtain ⟨hlow, hhigh⟩ := part_of_quotient m k
  have hnine : m / 10 ^ k % 10 ≤ 9 := by omega
  set a := m / 10 ^ k / 10
  set c := m / 10 ^ k % 10
  set f : ℚ := (m : ℚ) / 10 ^ (k + 1) - (a : Nat) with hf
  -- the number that the mantissa denotes after the division, in units of the last place
  have hvalue : (m : ℚ) / 10 ^ scale / 10 ^ n = (a + f) / 10 ^ maxScale := by
    rw [hf, div_div, ← pow_add, hk, pow_add, add_sub_cancel, div_div, mul_comm (10 ^ maxScale)]
  have hpow := pow_pos_rat maxScale
  refine ⟨?_, ?_, fun _ => .inl rfl⟩
  all_goals rw [hquotient]
  · have hround := abs_div_sub_div_le hpow (abs_round_le (m := a) hlow hhigh.le hnine)
    have hbase : |(a + f) / 10 ^ maxScale - y / 10 ^ n| ≤ 1 / 2 / 10 ^ maxScale / 10 := by
      have hten : (10 : ℚ) ≤ 10 ^ (k + 1) := le_self_pow₀ (by norm_num) (Nat.succ_ne_zero k)
      calc |(a + f) / 10 ^ maxScale - y / 10 ^ n|
          = |(m : ℚ) / 10 ^ scale / 10 ^ n - y / 10 ^ n| := by rw [hvalue]
        _ ≤ 1 / 2 / 10 ^ scale / 10 ^ n := abs_div_sub_div_le (pow_pos_rat n) h.near
        _ = 1 / 2 / 10 ^ maxScale / 10 ^ (k + 1) := by
          rw [div_div, ← pow_add, hk, pow_add, ← div_div]
        _ ≤ 1 / 2 / 10 ^ maxScale / 10 := by gcongr
    calc _ ≤ _ := abs_sub_le _ ((a + f) / 10 ^ maxScale) _
      _ ≤ 1 / 2 / 10 ^ maxScale + 1 / 2 / 10 ^ maxScale / 10 := add_le_add hround hbase
      _ < 1 / 10 ^ maxScale := by
        rw [div_right_comm]
        have : (0 : ℚ) < 1 / 10 ^ maxScale := by positivity
        linarith
  · constructor
    · intro heq
      refine ⟨⟨_, maxScale - n, hlt, by omega, ?_⟩, _, maxScale, hlt, le_rfl, heq⟩
      rw [eq_div_iff (pow_pos_rat n).ne'] at heq
      rw [← heq]
      obtain ⟨j, hj⟩ := Nat.exists_eq_add_of_le hn
      rw [hj, Nat.add_sub_cancel_left, pow_add]
      field_simp
    · rintro ⟨hy, hx⟩
      rw [← h.exact hy, hvalue] at hx ⊢
      have hone : f < 1 := by
        have : (c : ℚ) ≤ 9 := by exact_mod_cast hnine
        linarith
      obtain ⟨hzero, hdigit⟩ := eq_zero_of_fits le_rfl hlow hone (.inl rfl) hx
      rw [hzero, hdigit]
      simp

/-- A decimal that is divided by a power of ten. -/
lemma isNear_of_lowerBy? {d d' : Decimal} {n : Nat} {y : ℚ} (hd : Rounded d.magnitude d.scale y)
    (h : d.lowerBy? n = some d') :
    IsNear d'.magnitude d'.scale y (-n) ∧ KeepsSign d d' := by
  unfold lowerBy? at h
  split at h
  case isTrue => cases h
  case isFalse hn =>
    split at h
    case isTrue hplaces =>
      obtain ⟨hnegative, hmagnitude, hscale⟩ := signed?_eq_some h
      refine ⟨?_, hnegative, fun hzero => hmagnitude.trans hzero⟩
      rw [hmagnitude, hscale]
      exact hd.rescale hplaces (by omega)
    case isFalse hplaces =>
      obtain ⟨k, hk⟩ := Nat.exists_eq_add_of_lt (Nat.lt_of_not_le hplaces)
      have hdropped : d.scale + n - maxScale - 1 = k := by omega
      simp only [hdropped] at h
      obtain ⟨hnegative, hmagnitude, hscale⟩ := signed?_eq_some h
      have hlt := d'.magnitude_lt
      rw [hmagnitude] at hlt
      rw [hmagnitude, hscale]
      exact ⟨hd.drop (by omega) hk hlt, hnegative, fun hzero => by simp [hmagnitude, hzero]⟩

/-- A decimal that is multiplied by a power of ten. -/
lemma isNear_of_raiseBy? {d d' : Decimal} {n : Nat} {y : ℚ} (hd : Rounded d.magnitude d.scale y)
    (h : d.raiseBy? n = some d') :
    IsNear d'.magnitude d'.scale y n ∧ KeepsSign d d' := by
  unfold raiseBy? at h
  split at h
  case isTrue hplaces =>
    obtain ⟨hnegative, hmagnitude, hscale⟩ := signed?_eq_some h
    refine ⟨?_, hnegative, fun hzero => hmagnitude.trans hzero⟩
    have hscale_le := d'.scale_le
    rw [hmagnitude]
    exact hd.rescale hscale_le (by omega)
  case isFalse hplaces =>
    split at h
    case isTrue => cases h
    case isFalse hn =>
      obtain ⟨k, hk⟩ := Nat.exists_eq_add_of_lt (Nat.lt_of_not_le hplaces)
      have hfactor : n - d.scale = k + 1 := by omega
      rw [hfactor] at h
      obtain ⟨hnegative, hmagnitude, hscale⟩ := signed?_eq_some h
      have hbound := d'.magnitude_lt
      rw [hmagnitude] at hbound
      -- a mantissa that was rounded has no room for one more digit
      have hexact : (d.magnitude : ℚ) / 10 ^ d.scale = y := by
        by_contra hne
        have hroom : 10 * d.magnitude ≤ d.magnitude * 10 ^ (k + 1) := by
          rw [pow_succ', ← Nat.mul_assoc, Nat.mul_comm 10]
          exact Nat.le_mul_of_pos_right _ (Nat.pow_pos (by decide))
        have := (hd.full hne).resolve_left (by omega)
        exact absurd (this.trans hroom) (Nat.not_le.2 hbound)
      have hvalue : (d'.magnitude : ℚ) / 10 ^ d'.scale = y * 10 ^ (n : ℤ) := by
        rw [zpow_natCast, hmagnitude, hscale, ← hexact, hk, pow_zero, div_one, Nat.add_assoc,
          pow_add, ← mul_assoc, div_mul_cancel₀ _ (pow_pos_rat d.scale).ne', Nat.cast_mul]
        norm_num
      refine ⟨⟨?_, ?_, fun hne => absurd hvalue hne⟩, hnegative,
        fun hzero => by rw [hmagnitude, hzero, Nat.zero_mul]⟩
      · rw [hvalue, sub_self, abs_zero]
        positivity
      · exact iff_of_true hvalue ⟨⟨_, _, d.magnitude_lt, d.scale_le, hexact⟩,
          _, _, d'.magnitude_lt, d'.scale_le, hvalue⟩

/-- A divisor within the bounds only rounds. -/
lemma exists_lowerBy? (d : Decimal) {n : Nat} (hn : n ≤ maxScale) :
    ∃ d', d.lowerBy? n = some d' := by
  have hmagnitude := d.magnitude_lt
  unfold lowerBy?
  rw [if_neg (Nat.not_lt.2 hn)]
  split
  case isTrue hplaces => exact ⟨_, dif_pos ⟨hmagnitude, hplaces⟩⟩
  case isFalse =>
    refine ⟨_, dif_pos ⟨?_, le_rfl⟩⟩
    have hle := Nat.div_le_self d.magnitude (tenPow (d.scale + n - maxScale - 1))
    have hbound : magnitudeBound = 79228162514264337593543950336 := rfl
    split <;> omega

/-- A product that fits is taken. -/
lemma exists_raiseBy? (d : Decimal) {n : Nat} (hn : n ≤ maxScale)
    (hfits : Fits (d.magnitude / 10 ^ d.scale * 10 ^ n)) : ∃ d', d.raiseBy? n = some d' := by
  have hscale := d.scale_le
  unfold raiseBy?
  split
  case isTrue => exact ⟨_, dif_pos ⟨d.magnitude_lt, by omega⟩⟩
  case isFalse hplaces =>
    obtain ⟨k, rfl⟩ := Nat.exists_eq_add_of_le (Nat.le_of_not_le hplaces)
    have hvalue : (d.magnitude : ℚ) / 10 ^ d.scale * 10 ^ (d.scale + k) = d.magnitude * 10 ^ k := by
      rw [pow_add, ← mul_assoc, div_mul_cancel₀ _ (pow_pos_rat d.scale).ne']
    have hlt := hfits.lt
    rw [hvalue] at hlt
    rw [if_neg (Nat.not_lt.2 hn), Nat.add_sub_cancel_left]
    exact ⟨_, dif_pos ⟨by exact_mod_cast hlt, Nat.zero_le _⟩⟩

/-! ### Signs -/

/-- A number with a sign in front; `true` is a minus. -/
def withSign (negative : Bool) (x : ℚ) : ℚ :=
  if negative then -x else x

@[simp] lemma withSign_zero (negative : Bool) : withSign negative 0 = 0 := by
  cases negative <;> simp [withSign]

@[simp] lemma abs_withSign (negative : Bool) (x : ℚ) : |withSign negative x| = |x| := by
  cases negative <;> simp [withSign]

lemma withSign_sub (negative : Bool) (x y : ℚ) :
    withSign negative x - withSign negative y = withSign negative (x - y) := by
  cases negative <;> simp [withSign, sub_eq_add_neg, add_comm]

lemma withSign_inj {negative : Bool} {x y : ℚ} :
    withSign negative x = withSign negative y ↔ x = y := by
  cases negative <;> simp [withSign]

lemma withSign_mul (negative : Bool) (x y : ℚ) :
    withSign negative x * y = withSign negative (x * y) := by
  cases negative <;> simp [withSign]

lemma toRat_eq (d : Decimal) : d.toRat = withSign d.negative (d.magnitude / 10 ^ d.scale) := by
  rw [toRat, units, withSign]
  cases d.negative <;> simp [neg_div]

/-- Zero takes any sign. -/
lemma toRat_eq_withSign {d : Decimal} {negative : Bool}
    (h : d.magnitude = 0 ∨ d.negative = negative) :
    d.toRat = withSign negative (d.magnitude / 10 ^ d.scale) := by
  rw [toRat_eq]
  rcases h with hzero | rfl
  · simp [hzero]
  · rfl

/-- The decimals stand for the numbers that fit and their negatives. -/
lemma isDecimal_withSign {negative : Bool} {x : ℚ} (hx : 0 ≤ x) :
    IsDecimal (withSign negative x) ↔ Fits x := by
  constructor
  · rintro ⟨d, hd⟩
    refine ⟨d.magnitude, d.scale, d.magnitude_lt, d.scale_le, ?_⟩
    have habs := congrArg abs hd
    rw [toRat_eq, abs_withSign, abs_withSign, abs_of_nonneg hx] at habs
    rwa [abs_of_nonneg (by positivity)] at habs
  · rintro ⟨m, scale, hm, hscale, rfl⟩
    exact ⟨⟨negative, m, scale, hm, hscale⟩, toRat_eq _⟩

end Decimal

end ForeignData
