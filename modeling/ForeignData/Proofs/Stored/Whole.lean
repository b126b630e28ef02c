import ForeignData.Proofs.Numeric.Exact
import ForeignData.Proofs.Stored.Conversion
import ForeignData.Proofs.Text.Digits

/-!
# Whole numbers in binary

A stored number in binary enters an integer column exactly if it is a whole number in the range of
the column. A whole number of 64 bits is as good as the integer, also as a truth value and as a
count of seconds, where no fraction of a second is left over.
-/

namespace ForeignData

/-! ### Integer types -/

inductive HostType.OfIntegers : HostType → Prop
  | int2 : OfIntegers .int2
  | int4 : OfIntegers .int4
  | int8 : OfIntegers .int8

/-- The integers in the range of a type; only the types of integers have one. -/
def HostType.Holds : HostType → Int → Prop
  | .int2, i => -2 ^ 15 ≤ i ∧ i < 2 ^ 15
  | .int4, i => -2 ^ 31 ≤ i ∧ i < 2 ^ 31
  | .int8, i => -2 ^ 63 ≤ i ∧ i < 2 ^ 63
  | _, _ => False

/-- The integer that a value of an integer type is. -/
def Scalar.integer? : Scalar → Option Int
  | .int2 w => some w.toInt
  | .int4 w => some w.toInt
  | .int8 w => some w.toInt
  | _ => none

def Scalar.IsInteger (s : Scalar) (ty : HostType) (i : Int) : Prop :=
  s.isOfType ty = true ∧ s.integer? = some i

lemma Scalar.isInteger_int2_iff {s : Scalar} {i : Int} :
    s.IsInteger .int2 i ↔ ∃ w : Int16, w.toInt = i ∧ .int2 w = s := by
  cases s <;> simp [IsInteger, isOfType, integer?]

lemma Scalar.isInteger_int4_iff {s : Scalar} {i : Int} :
    s.IsInteger .int4 i ↔ ∃ w : Int32, w.toInt = i ∧ .int4 w = s := by
  cases s <;> simp [IsInteger, isOfType, integer?]

lemma Scalar.isInteger_int8_iff {s : Scalar} {i : Int} :
    s.IsInteger .int8 i ↔ ∃ w : Int64, w.toInt = i ∧ .int8 w = s := by
  cases s <;> simp [IsInteger, isOfType, integer?]

lemma toInt16?_eq_some_iff {i : Int} {w : Int16} : toInt16? i = some w ↔ w.toInt = i := by
  refine ⟨fun h => ?_, fun h => h ▸ toInt16?_toInt w⟩
  obtain ⟨⟨hlow, hhigh⟩, hw⟩ := Option.ite_none_right_eq_some.1 h
  rw [← Option.some.inj hw]
  exact Int16.toInt_ofInt_of_le hlow (Int.lt_of_le_sub_one hhigh)

lemma toInt32?_eq_some_iff {i : Int} {w : Int32} : toInt32? i = some w ↔ w.toInt = i := by
  refine ⟨fun h => ?_, fun h => h ▸ toInt32?_toInt w⟩
  obtain ⟨⟨hlow, hhigh⟩, hw⟩ := Option.ite_none_right_eq_some.1 h
  rw [← Option.some.inj hw]
  exact Int32.toInt_ofInt_of_le hlow (Int.lt_of_le_sub_one hhigh)

lemma toInt64?_eq_some_iff {i : Int} {w : Int64} : toInt64? i = some w ↔ w.toInt = i := by
  refine ⟨fun h => ?_, fun h => h ▸ toInt64?_toInt w⟩
  obtain ⟨⟨hlow, hhigh⟩, hw⟩ := Option.ite_none_right_eq_some.1 h
  rw [← Option.some.inj hw]
  exact Int64.toInt_ofInt_of_le hlow (Int.lt_of_le_sub_one hhigh)

/-- The integers in the range of a type are those that are values of it. -/
lemma exists_isInteger_iff {ty : HostType} (hty : ty.OfIntegers) {i : Int} :
    (∃ s : Scalar, s.IsInteger ty i) ↔ ty.Holds i := by
  cases hty with
  | int2 =>
    simp only [Scalar.isInteger_int2_iff]
    constructor
    · rintro ⟨-, w, rfl, -⟩
      exact ⟨w.le_toInt, w.toInt_lt⟩
    · rintro ⟨hlow, hhigh⟩
      exact ⟨_, .ofInt i, Int16.toInt_ofInt_of_le hlow hhigh, rfl⟩
  | int4 =>
    simp only [Scalar.isInteger_int4_iff]
    constructor
    · rintro ⟨-, w, rfl, -⟩
      exact ⟨w.le_toInt, w.toInt_lt⟩
    · rintro ⟨hlow, hhigh⟩
      exact ⟨_, .ofInt i, Int32.toInt_ofInt_of_le hlow hhigh, rfl⟩
  | int8 =>
    simp only [Scalar.isInteger_int8_iff]
    constructor
    · rintro ⟨-, w, rfl, -⟩
      exact ⟨w.le_toInt, w.toInt_lt⟩
    · rintro ⟨hlow, hhigh⟩
      exact ⟨_, .ofInt i, Int64.toInt_ofInt_of_le hlow hhigh, rfl⟩

lemma convertInteger_eq_some_iff {v : Int64} {ty : HostType} (hty : ty.OfIntegers)
    {s : Scalar} : convertInteger v ty = some s ↔ s.IsInteger ty v.toInt := by
  cases hty with
  | int2 =>
    simp only [Scalar.isInteger_int2_iff, ← toInt16?_eq_some_iff]
    exact Option.map_eq_some_iff
  | int4 =>
    simp only [Scalar.isInteger_int4_iff, ← toInt32?_eq_some_iff]
    exact Option.map_eq_some_iff
  | int8 =>
    simp [Scalar.isInteger_int8_iff, convertInteger, Int64.toInt_inj]

lemma HostType.OfIntegers.isFormed {ty : HostType} (hty : ty.OfIntegers) :
    ty.isText = false ∧ ty.isNative = true := by
  cases hty <;> exact ⟨rfl, rfl⟩

lemma convertReal_ofIntegers {ty : HostType} (hty : ty.OfIntegers) (r : Binary64) :
    convertReal r ty = r.toInt64?.bind (convertInteger · ty) := by
  cases hty <;> rfl

/-- A word is an integer of 64 bits if that is its rational number. -/
lemma Binary64.toInt64?_eq_some_iff {r : Binary64} {v : Int64} :
    r.toInt64? = some v ↔ r.value.toRat? = some (v.toInt : ℚ) := by
  rw [← BinaryValue.toInt?_eq_some_iff]
  constructor
  · intro h
    obtain ⟨i, hi, hv⟩ := Option.bind_eq_some_iff.1 h
    rw [hi, ForeignData.toInt64?_eq_some_iff.1 hv]
  · intro h
    exact Option.bind_eq_some_iff.2 ⟨_, h, toInt64?_toInt v⟩

/-- Every integer of an integer type is one of 64 bits. -/
lemma HostType.Holds.exists_int64 {ty : HostType} {i : Int} (h : ty.Holds i) :
    ∃ v : Int64, v.toInt = i := by
  suffices -2 ^ 63 ≤ i ∧ i < 2 ^ 63 from ⟨.ofInt i, Int64.toInt_ofInt_of_le this.1 this.2⟩
  cases ty with
  | int2 => exact ⟨by have := h.1; omega, by have := h.2; omega⟩
  | int4 => exact ⟨by have := h.1; omega, by have := h.2; omega⟩
  | int8 => exact h
  | _ => cases h

lemma convertReal_eq_some_iff {r : Binary64} {ty : HostType} (hty : ty.OfIntegers) {s : Scalar} :
    convertReal r ty = some s ↔ ∃ i : Int, r.value.toRat? = some (i : ℚ) ∧ s.IsInteger ty i := by
  rw [convertReal_ofIntegers hty, Option.bind_eq_some_iff]
  constructor
  · rintro ⟨v, hv, hs⟩
    exact ⟨v.toInt, Binary64.toInt64?_eq_some_iff.1 hv, (convertInteger_eq_some_iff hty).1 hs⟩
  · rintro ⟨i, hi, hs⟩
    obtain ⟨v, rfl⟩ := ((exists_isInteger_iff hty).1 ⟨s, hs⟩).exists_int64
    exact ⟨v, Binary64.toInt64?_eq_some_iff.2 hi, (convertInteger_eq_some_iff hty).2 hs⟩

/-! ### Counts of seconds -/

lemma Binary64.value_ofDyadic_zero (e : Int) :
    (Binary64.ofDyadic 0 e).value = .finite false 0 (-1074) := by
  have hbits : binary64.ofDyadic 0 e = 0 := by
    simp [BinaryFormat.ofDyadic, BinaryFormat.ofRatio, BinaryFormat.round]
  rw [Binary64.ofDyadic, hbits]
  decide

/-- A whole number of seconds leaves no fraction that is multiplied and rounded. -/
lemma unixTimestamp?_of_whole {r : Binary64} {i : Int} (h : r.value.toInt? = some i) :
    unixTimestamp? r = Timestamp.ofSeconds? i 0 := by
  cases hr : r.value with
  | nan =>
    rw [hr] at h
    cases h
  | infinite =>
    rw [hr] at h
    cases h
  | finite negative m e =>
    have hfloor : r.value.floor? = some i := by
      rw [hr, BinaryValue.toInt?_finite] at h
      rw [hr, BinaryValue.floor?_finite, ← (Option.ite_none_right_eq_some.1 h).2]
    have hwhole : BinaryValue.signed negative m * twoPow e.toNat = i * twoPow (-e).toNat := by
      rw [hr, BinaryValue.toInt?_finite] at h
      obtain ⟨hmod, hi⟩ := Option.ite_none_right_eq_some.1 h
      rw [← Option.some.inj hi]
      exact (Int.ediv_mul_cancel (Int.dvd_of_emod_eq_zero hmod)).symm
    have hdyadic : r.value.dyadic? = some (BinaryValue.signed negative m, e) := by
      rw [hr]
      rfl
    have hup : (e - min e 0).toNat = e.toNat := by omega
    have hdown : (-min e 0).toNat = (-e).toNat := by omega
    have hrest : BinaryValue.signed negative m * twoPow (e - min e 0).toNat
        - i * twoPow (-min e 0).toNat = 0 := by
      rw [hup, hdown, hwhole, Int.sub_self]
    have hzero (x : Int) : (Binary64.ofDyadic 0 x).value.dyadic? = some (0, -1074) := by
      rw [Binary64.value_ofDyadic_zero]
      rfl
    have hnanos (n : Nat) : twoPow n / (2 * twoPow n) = 0 := by
      have := twoPow_pos n
      exact Nat.div_eq_of_lt (by omega)
    unfold unixTimestamp?
    simp only [hdyadic, hfloor, Option.bind_eq_bind, Option.bind_some, hrest, hzero, Int.zero_mul,
      Int.natAbs_zero, Nat.mul_zero, Nat.zero_mul, Nat.zero_add, hnanos, Nat.zero_min]

/-! ### Stored numbers -/

/-- The types for which a whole number in binary is as good as an integer. -/
inductive HostType.TakesWhole : HostType → Prop
  | bool : TakesWhole .bool
  | integer {ty : HostType} (hty : ty.OfIntegers) : TakesWhole ty
  | timestamp : TakesWhole .timestamp
  | timestamptz : TakesWhole .timestamptz

lemma isZero_iff_of_whole {x : BinaryValue} {i : Int} (h : x.toRat? = some (i : ℚ)) :
    x.isZero = true ↔ i = 0 := by
  cases x with
  | nan => cases h
  | infinite => cases h
  | finite negative m e =>
    have hi := Option.some.inj h
    have hpow : (2 : ℚ) ^ e ≠ 0 := zpow_ne_zero e (by norm_num)
    rw [← Int.cast_eq_zero (α := ℚ), ← hi, mul_eq_zero, or_iff_left hpow]
    cases negative <;> simp [BinaryValue.isZero]

lemma convertReal_of_whole {r : Binary64} {v : Int64}
    (h : r.value.toRat? = some (v.toInt : ℚ)) {ty : HostType} (hty : ty.TakesWhole) :
    convertReal r ty = convertInteger v ty := by
  have hseconds : unixTimestamp? r = Timestamp.ofSeconds? v.toInt 0 :=
    unixTimestamp?_of_whole (BinaryValue.toInt?_eq_some_iff.2 h)
  cases hty with
  | bool =>
    have hzero : r.value.isZero = (v.toInt == 0) := by
      rw [Bool.eq_iff_iff, isZero_iff_of_whole h, beq_iff_eq]
    simp only [convertReal, convertInteger, hzero, bne]
  | integer hty =>
    rw [convertReal_ofIntegers hty, Binary64.toInt64?_eq_some_iff.2 h, Option.bind_some]
  | timestamp => simp only [convertReal, convertInteger, hseconds]
  | timestamptz => simp only [convertReal, convertInteger, hseconds]

lemma HostType.TakesWhole.isFormed {ty : HostType} (hty : ty.TakesWhole) :
    ty.isText = false ∧ ty.isNative = true := by
  cases hty with
  | integer hty => exact hty.isFormed
  | bool | timestamp | timestamptz => exact ⟨rfl, rfl⟩

/-- A stored number in binary becomes an integer exactly if it is that integer and in the range of
the type, and nothing otherwise. The comparisons of words with the bounds of 64 bits find the same
integers. A whole number of 64 bits converts as the integer does. -/
theorem convert_real_exactly (r : Binary64) :
    (∀ ty : HostType, ty.OfIntegers →
        (∀ s, convert (.real r) ty = some (some s) ↔
          ∃ i : Int, r.value.toRat? = some (i : ℚ) ∧ s.IsInteger ty i)
        ∧ (convert (.real r) ty = none ↔
          ¬∃ i : Int, r.value.toRat? = some (i : ℚ) ∧ ty.Holds i)
        ∧ convert (.real r) ty = (r.boundedInt64?.bind (convertInteger · ty)).map some)
      ∧ ∀ v : Int64, r.value.toRat? = some (v.toInt : ℚ) → ∀ ty : HostType, ty.TakesWhole →
        convert (.real r) ty = convert (.integer v) ty := by
  refine ⟨fun ty hty => ?_, fun v hv ty hty => ?_⟩
  · rw [convert_real hty.isFormed.1 hty.isFormed.2]
    refine ⟨fun s => ?_, ?_, ?_⟩
    · rw [Option.map_eq_some_iff, ← convertReal_eq_some_iff hty]
      simp
    · rw [Option.map_eq_none_iff, Option.eq_none_iff_forall_ne_some]
      simp only [ne_eq, convertReal_eq_some_iff hty, ← exists_isInteger_iff hty]
      constructor
      · rintro h ⟨i, hi, s, hs⟩
        exact h s ⟨i, hi, hs⟩
      · rintro h s ⟨i, hi, hs⟩
        exact h ⟨i, hi, s, hs⟩
    · rw [r.boundedInt64?_eq, convertReal_ofIntegers hty]
  · rw [convert_real hty.isFormed.1 hty.isFormed.2, convert_integer hty.isFormed.1 hty.isFormed.2,
      convertReal_of_whole hv hty]

/-- The least integer of 64 bits is a number in binary, and is also a count of seconds, though one
that no timestamp has. -/
theorem convert_real_exactly_least :
    (⟨0xC3E0000000000000⟩ : Binary64).value.toRat? = some (Int64.minValue.toInt : ℚ)
      ∧ convert (.real ⟨0xC3E0000000000000⟩) .int8 = some (some (.int8 Int64.minValue))
      ∧ convert (.real ⟨0xC3E0000000000000⟩) .timestamp
        = convert (.integer Int64.minValue) .timestamp := by
  have hvalue : (⟨0xC3E0000000000000⟩ : Binary64).value = .finite true (2 ^ 52) 11 := by decide
  have hrat : (⟨0xC3E0000000000000⟩ : Binary64).value.toRat?
      = some (Int64.minValue.toInt : ℚ) := by
    rw [hvalue, BinaryValue.toRat?, Int64.toInt_minValue]
    norm_num
  have hexact := convert_real_exactly ⟨0xC3E0000000000000⟩
  exact ⟨hrat, ((hexact.1 .int8 .int8).1 _).2 ⟨_, hrat, rfl, rfl⟩,
    hexact.2 _ hrat .timestamp .timestamp⟩

end ForeignData
