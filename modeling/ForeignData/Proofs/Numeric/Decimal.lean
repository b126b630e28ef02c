import ForeignData.Numeric.Decimal
import ForeignData.Proofs.Text.Digits

/-!
# Written decimals read back

A decimal is a number of units of its last place. What is written of a decimal reads back as the
same number of the same units: as long as the whole mantissa fits, so does every part of it that the
reader has come to, and nothing is ever rounded off. Only a zero with a sign loses its sign.
-/

namespace ForeignData

namespace Decimal

/-- The number of units of the last place. -/
def units (d : Decimal) : Int :=
  if d.negative then -(d.magnitude : Int) else d.magnitude

/-- The same value and the same scale. -/
def SameAs (a b : Decimal) : Prop :=
  a.units = b.units ∧ a.scale = b.scale

instance (a b : Decimal) : Decidable (SameAs a b) :=
  inferInstanceAs (Decidable (_ ∧ _))

@[refl] lemma SameAs.refl (d : Decimal) : SameAs d d := ⟨rfl, rfl⟩

/-- The sign of a zero is all that two decimals of the same value and scale can differ in. -/
lemma SameAs.eq {a b : Decimal} (h : SameAs a b) (hb : b.magnitude ≠ 0) : a = b := by
  obtain ⟨hunits, hscale⟩ := h
  obtain ⟨na, ma, sa, hma, hsa⟩ := a
  obtain ⟨nb, mb, sb, hmb, hsb⟩ := b
  simp only [units] at hunits
  simp only at hscale hb
  have hsign : na = nb ∧ ma = mb := by
    cases na <;> cases nb <;> simp at hunits ⊢ <;> omega
  obtain ⟨rfl, rfl⟩ := hsign
  subst hscale
  rfl

/-! ### Parts of a mantissa -/

/-- Every part of a number that fits fits as well. -/
private lemma part_lt_magnitudeBound {m c : Nat} {s : List Char}
    (h : m * 10 ^ (s.length + 1) + (c * 10 ^ s.length + digitsValue s) < magnitudeBound) :
    10 * m + c < magnitudeBound := by
  have hpow : 1 ≤ 10 ^ s.length := Nat.one_le_pow _ _ (by decide)
  have hpart : 10 * m + c ≤ (10 * m + c) * 10 ^ s.length := Nat.le_mul_of_pos_right _ hpow
  have hwhole : m * 10 ^ (s.length + 1) + c * 10 ^ s.length = (10 * m + c) * 10 ^ s.length := by
    ring
  omega

/-- Digits in front of the point go into the mantissa. -/
lemma readMantissa?_whole {s : List Char} (hs : AllDigits s) (t : List Char) {m scale : Nat}
    {seen : Bool} (hfit : m * 10 ^ s.length + digitsValue s < magnitudeBound) :
    readMantissa? m scale false seen (s ++ t)
      = readMantissa? (m * 10 ^ s.length + digitsValue s) scale false (seen || !s.isEmpty) t := by
  induction s generalizing m seen with
  | nil => simp
  | cons c s ih =>
    have hc : c.isDigit = true := hs c (by simp)
    have hs' : AllDigits s := fun d hd => hs d (by simp [hd])
    rw [List.length_cons, digitsValue_cons] at hfit
    have hnext : 10 * m + digitValue c < magnitudeBound := part_lt_magnitudeBound hfit
    have hvalue : (10 * m + digitValue c) * 10 ^ s.length + digitsValue s
        = m * 10 ^ (s.length + 1) + (digitValue c * 10 ^ s.length + digitsValue s) := by
      ring
    rw [List.cons_append, readMantissa?]
    simp only [Bool.false_and, Bool.false_eq_true, if_false, hc, if_true, hnext]
    rw [ih hs' (by rw [hvalue]; exact hfit), hvalue, digitsValue_cons, List.length_cons]
    simp

lemma readMantissa?_fraction {s : List Char} (hs : AllDigits s) {m scale : Nat}
    (hscale : scale + s.length ≤ maxScale)
    (hfit : m * 10 ^ s.length + digitsValue s < magnitudeBound) :
    readMantissa? m scale true true s
      = some (m * 10 ^ s.length + digitsValue s, scale + s.length) := by
  induction s generalizing m scale with
  | nil => simp [readMantissa?]
  | cons c s ih =>
    have hc : c.isDigit = true := hs c (by simp)
    have hs' : AllDigits s := fun d hd => hs d (by simp [hd])
    rw [List.length_cons] at hscale
    rw [List.length_cons, digitsValue_cons] at hfit
    have hplace : (scale == maxScale) = false := by
      rw [beq_eq_false_iff_ne]
      omega
    have hnext : 10 * m + digitValue c < magnitudeBound := part_lt_magnitudeBound hfit
    have hvalue : (10 * m + digitValue c) * 10 ^ s.length + digitsValue s
        = m * 10 ^ (s.length + 1) + (digitValue c * 10 ^ s.length + digitsValue s) := by
      ring
    rw [readMantissa?]
    simp only [hplace, Bool.and_false, Bool.false_eq_true, if_false, hc, if_true, hnext]
    rw [ih hs' (by omega) (by rw [hvalue]; exact hfit), hvalue, digitsValue_cons, List.length_cons]
    congr 2
    omega

/-! ### Whole decimals -/

/-- The digits of a decimal with the point between them. -/
def unsignedText (d : Decimal) : List Char :=
  natText (d.magnitude / 10 ^ d.scale)
    ++ if d.scale = 0 then [] else '.' :: paddedText d.scale d.magnitude

lemma text_eq (d : Decimal) :
    d.text = (if d.negative then ['-'] else []) ++ d.unsignedText := by
  unfold text unsignedText
  by_cases hscale : d.scale = 0
  · simp [hscale]
  · simp [hscale, tenPow]

lemma readMantissa?_unsignedText (d : Decimal) :
    readMantissa? 0 0 false false d.unsignedText = some (d.magnitude, d.scale) := by
  have hbound := d.magnitude_lt
  have hne (n : Nat) : (natText n).isEmpty = false := by
    simpa using natText_ne_nil n
  have hwhole : 0 * 10 ^ (natText (d.magnitude / 10 ^ d.scale)).length
      + digitsValue (natText (d.magnitude / 10 ^ d.scale)) = d.magnitude / 10 ^ d.scale := by
    simp
  have hle : d.magnitude / 10 ^ d.scale ≤ d.magnitude := Nat.div_le_self _ _
  unfold unsignedText
  rw [readMantissa?_whole (allDigits_natText _) _ (by omega), hwhole]
  by_cases hscale : d.scale = 0
  · simp [hscale, hne, readMantissa?]
  · have hvalue : d.magnitude / 10 ^ d.scale * 10 ^ (paddedText d.scale d.magnitude).length
        + digitsValue (paddedText d.scale d.magnitude) = d.magnitude := by
      rw [length_paddedText, digitsValue_paddedText, Nat.div_add_mod']
    have hplaces : 0 + (paddedText d.scale d.magnitude).length ≤ maxScale := by
      simpa using d.scale_le
    have hfraction := readMantissa?_fraction (allDigits_paddedText d.scale d.magnitude) hplaces
      (m := d.magnitude / 10 ^ d.scale) (by omega)
    rw [hvalue, length_paddedText, Nat.zero_add] at hfraction
    rw [if_neg hscale, readMantissa?]
    have hpoint : '.'.isDigit = false := by decide
    simp only [Bool.false_and, Bool.false_eq_true, if_false, hpoint, and_self, if_true, hne,
      Bool.not_false, Bool.or_true, hfraction]

lemma splitSign_text (d : Decimal) : splitSign d.text = (d.negative, d.unsignedText) := by
  rw [text_eq]
  cases d.negative with
  | false =>
    rw [if_neg Bool.false_ne_true, List.nil_append, unsignedText]
    exact splitSign_digits _ (allDigits_natText _) (natText_ne_nil _)
  | true => rfl

lemma ofParts?_units (d : Decimal) : ∃ d', ofParts? d.units d.scale = some d' ∧ d'.SameAs d := by
  have habs : d.units.natAbs = d.magnitude := by
    unfold units
    split <;> omega
  have hbounds : d.units.natAbs < magnitudeBound ∧ d.scale ≤ maxScale :=
    ⟨habs ▸ d.magnitude_lt, d.scale_le⟩
  refine ⟨_, dif_pos hbounds, ?_, rfl⟩
  show (if decide (d.units < 0) then -(d.units.natAbs : Int) else d.units.natAbs) = d.units
  by_cases hneg : d.units < 0
  · simp only [hneg, decide_true, if_true]
    omega
  · simp only [hneg, decide_false, Bool.false_eq_true, if_false]
    omega

/-- A written decimal is read from its units and its scale, without an exponent having to be looked
for. -/
lemma readPlain?_text_eq (d : Decimal) : readPlain? d.text = ofParts? d.units d.scale := by
  rw [readPlain?, d.splitSign_text]
  simp only [d.readMantissa?_unsignedText, Option.bind_eq_bind, Option.bind_some]
  rfl

/-- A written decimal reads back with its value and its scale. -/
lemma readPlain?_text (d : Decimal) : ∃ d', readPlain? d.text = some d' ∧ d'.SameAs d := by
  obtain ⟨d', hd', hsame⟩ := d.ofParts?_units
  exact ⟨d', d.readPlain?_text_eq.trans hd', hsame⟩

lemma read?_text (d : Decimal) : ∃ d', read? d.text = some d' ∧ d'.SameAs d := by
  obtain ⟨d', hd', hsame⟩ := d.readPlain?_text
  exact ⟨d', by rw [read?, hd'], hsame⟩

/-- The text of an integer is that of its decimal, and reads as this decimal: there is no zero with
a sign. -/
lemma read?_intText (v : Int64) : read? (intText v.toInt) = some (ofInt64 v) := by
  have hunits : (ofInt64 v).units = v.toInt := by
    simp only [units, ofInt64, decide_eq_true_eq]
    split <;> omega
  have htext : (ofInt64 v).text = intText v.toInt := by
    simp only [text, ofInt64, if_true, decide_eq_true_eq, intText]
    split <;> rfl
  have hparts : ofParts? (ofInt64 v).units (ofInt64 v).scale = some (ofInt64 v) := by
    rw [hunits]
    exact dif_pos ⟨(ofInt64 v).magnitude_lt, (ofInt64 v).scale_le⟩
  rw [read?, ← htext, readPlain?_text_eq, hparts]

lemma trimmed_text (d : Decimal) : Trimmed d.text := by
  apply Trimmed.of_not_blank
  · rw [text_eq, unsignedText]
    simp [natText_ne_nil]
  intro c hc
  rw [text_eq, unsignedText, List.mem_append, List.mem_append] at hc
  rcases hc with hsign | hwhole | hfraction
  · split at hsign
    · rw [List.mem_singleton.mp hsign]
      decide
    · cases hsign
  · exact (allDigits_natText _).not_blank c hwhole
  · split at hfraction
    · cases hfraction
    · rcases List.mem_cons.mp hfraction with rfl | hfraction
      · decide
      · exact (allDigits_paddedText _ _).not_blank c hfraction

end Decimal

end ForeignData
