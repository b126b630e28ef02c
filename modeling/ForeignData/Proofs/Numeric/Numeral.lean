import Mathlib.Data.List.TakeWhile
import ForeignData.Proofs.Numeric.Scaling
import ForeignData.Proofs.Stored.Conversion
import ForeignData.Stored.Decoding

/-!
# Decimal numerals

A numeral is a mantissa with an optional sign and an optional exponent, and denotes a rational
number. The decimal that is read of it is less than one unit of its last place away. It is that
number exactly if decimals stand for the number with and without the exponent; otherwise digits have
been dropped.
-/

namespace ForeignData

namespace Decimal

/-! ### Signs and mantissas -/

/-- An optional sign; `true` is a minus. -/
def signText (sign : Option Bool) : List Char :=
  sign.elim [] fun negative => [if negative then '-' else '+']

lemma mem_signText {sign : Option Bool} {c : Char} (h : c ∈ signText sign) : c = '-' ∨ c = '+' := by
  match sign with
  | none => cases h
  | some true => exact .inl (List.mem_singleton.1 h)
  | some false => exact .inr (List.mem_singleton.1 h)

lemma splitSign_signText (sign : Option Bool) {s : List Char} (hs : splitSign s = (false, s)) :
    splitSign (signText sign ++ s) = (sign.getD false, s) := by
  match sign with
  | none => exact hs
  | some true => rfl
  | some false => rfl

lemma Mantissa.splitSign_text (n : Mantissa) (t : List Char) :
    splitSign (n.text ++ t) = (false, n.text ++ t) := by
  rw [Mantissa.text]
  cases hwhole : n.whole with
  | nil =>
    have hne : ∃ s ∈ n.fraction, s ≠ [] := by simpa [hwhole] using n.ne_nil
    obtain ⟨s, hs, -⟩ := hne
    rw [Option.mem_def.1 hs]
    rfl
  | cons c s => exact splitSign_of_isDigit _ (n.allDigits_whole c (by simp [hwhole]))

lemma readMantissa?_eq_none {c : Char} (hc : isDigitOrSeparator c = false) (hpoint : c ≠ '.')
    {s : List Char} (hmem : c ∈ s) (m scale : Nat) (point seen : Bool) :
    readMantissa? m scale point seen s = none := by
  induction s generalizing m scale point seen with
  | nil => cases hmem
  | cons a s ih =>
    have hrounded : readRounded? m scale (a :: s) = none := by
      have hall : ¬(a :: s).all isDigitOrSeparator = true := fun hall => by
        rw [List.all_eq_true.1 hall c hmem] at hc
        cases hc
      exact if_neg hall
    have hrest (ha : c ≠ a) : c ∈ s := (List.mem_cons.1 hmem).resolve_left ha
    rw [readMantissa?]
    dsimp only
    split
    case isTrue => exact hrounded
    case isFalse =>
      split
      case isTrue hdigit =>
        have hne : c ≠ a := by
          rintro rfl
          simp [isDigitOrSeparator, hdigit] at hc
        split_ifs
        · exact ih (hrest hne) ..
        · exact ih (hrest hne) ..
        · exact hrounded
        · rfl
      case isFalse =>
        split_ifs with hmark hseparator
        · exact ih (hrest (hmark.1 ▸ hpoint)) ..
        · refine ih (hrest ?_) ..
          rintro rfl
          rw [hseparator.1] at hc
          cases hc
        · rfl

/-! ### Numerals -/

/-- An exponent: a mark, an optional sign and at least one digit. -/
structure Exponent where
  mark : Char
  sign : Option Bool
  digits : List Char
  isMark : mark = 'e' ∨ mark = 'E'
  allDigits : AllDigits digits
  ne_nil : digits ≠ []

/-- A decimal numeral: a mantissa with an optional sign and an optional exponent. -/
structure Numeral where
  sign : Option Bool
  mantissa : Mantissa
  exponent : Option Exponent

namespace Exponent

def text (e : Exponent) : List Char :=
  e.mark :: (signText e.sign ++ e.digits)

/-- The power of ten that an exponent denotes. -/
def value (e : Exponent) : ℤ :=
  if e.sign.getD false then -(digitsValue e.digits : ℤ) else digitsValue e.digits

lemma readExponent?_text (e : Exponent) :
    readExponent? (signText e.sign ++ e.digits)
      = if digitsValue e.digits < UInt32.size then some (e.sign.getD false, digitsValue e.digits)
        else none := by
  obtain ⟨c, s, hdigits⟩ := List.exists_cons_of_ne_nil e.ne_nil
  have hc : c.isDigit = true := e.allDigits c (by simp [hdigits])
  have hminus : c ≠ '-' := ne_of_isDigit hc (by decide)
  have hplus : c ≠ '+' := ne_of_isDigit hc (by decide)
  have hread : readNat? (c :: s) = some (digitsValue (c :: s)) := by
    rw [← hdigits]
    exact if_pos ⟨e.ne_nil, List.all_eq_true.2 e.allDigits⟩
  rw [hdigits]
  match e.sign with
  | none => simp [signText, readExponent?, hminus, hplus, hread]
  | some true => simp [signText, readExponent?, hplus, hread]
  | some false => simp [signText, readExponent?, hread]

lemma not_blank (e : Exponent) : ∀ c ∈ e.text, isBlank c = false := by
  intro c hc
  rcases List.mem_cons.1 hc with rfl | hc
  · rcases e.isMark with h | h <;> rw [h] <;> decide
  · rcases List.mem_append.1 hc with hsign | hdigit
    · rcases mem_signText hsign with rfl | rfl <;> decide
    · exact isBlank_of_isDigit (e.allDigits c hdigit)

end Exponent

namespace Numeral

/-- The text of a numeral in front of the exponent. -/
def baseText (n : Numeral) : List Char :=
  signText n.sign ++ n.mantissa.text

def text (n : Numeral) : List Char :=
  n.baseText ++ n.exponent.elim [] Exponent.text

/-- The number that a numeral without its exponent denotes. -/
def base (n : Numeral) : ℚ :=
  withSign (n.sign.getD false) n.mantissa.value

/-- The power of ten that a numeral ends in, zero if it has no exponent. -/
def power (n : Numeral) : ℤ :=
  n.exponent.elim 0 Exponent.value

def value (n : Numeral) : ℚ :=
  n.base * 10 ^ n.power

lemma text_of_none {n : Numeral} (h : n.exponent = none) : n.text = n.baseText := by
  rw [text, h]
  exact List.append_nil _

lemma text_of_some {n : Numeral} {e : Exponent} (h : n.exponent = some e) :
    n.text = n.baseText ++ e.text := by
  rw [text, h]
  rfl

lemma power_of_none {n : Numeral} (h : n.exponent = none) : n.power = 0 := by
  rw [power, h]
  rfl

lemma power_of_some {n : Numeral} {e : Exponent} (h : n.exponent = some e) :
    n.power = e.value := by
  rw [power, h]
  rfl

lemma value_of_none {n : Numeral} (h : n.exponent = none) : n.value = n.base := by
  rw [value, power_of_none h, zpow_zero, mul_one]

lemma value_eq (n : Numeral) :
    n.value = withSign (n.sign.getD false) (n.mantissa.value * 10 ^ n.power) :=
  withSign_mul _ _ _

lemma isDecimal_base (n : Numeral) : IsDecimal n.base ↔ Fits n.mantissa.value :=
  isDecimal_withSign n.mantissa.value_nonneg

lemma isDecimal_value (n : Numeral) :
    IsDecimal n.value ↔ Fits (n.mantissa.value * 10 ^ n.power) := by
  rw [value_eq]
  exact isDecimal_withSign (mul_nonneg n.mantissa.value_nonneg (zpow_nonneg (by norm_num) _))

/-! ### Reading a numeral without its exponent -/

lemma splitSign_baseText (n : Numeral) (t : List Char) :
    splitSign (n.baseText ++ t) = (n.sign.getD false, n.mantissa.text ++ t) := by
  rw [baseText, List.append_assoc]
  exact splitSign_signText n.sign (n.mantissa.splitSign_text t)

lemma readPlain?_baseText (n : Numeral) :
    readPlain? n.baseText = (readMantissa? 0 0 false false n.mantissa.text).bind fun r =>
      ofParts? (if n.sign.getD false then -(r.1 : Int) else r.1) r.2 := by
  have hsplit := n.splitSign_baseText []
  rw [List.append_nil, List.append_nil] at hsplit
  rw [readPlain?, hsplit]
  rfl

lemma rounded_of_readPlain? {n : Numeral} {d : Decimal} (h : readPlain? n.baseText = some d) :
    Rounded d.magnitude d.scale n.mantissa.value
      ∧ (d.magnitude = 0 ∨ d.negative = n.sign.getD false) := by
  rw [n.readPlain?_baseText] at h
  obtain ⟨⟨m, scale⟩, hread, hparts⟩ := Option.bind_eq_some_iff.1 h
  obtain ⟨hnegative, hmagnitude, hscale⟩ := signed?_eq_some hparts
  have hm : d.magnitude = m := by
    rw [hmagnitude]
    split <;> omega
  rw [hm, hscale]
  refine ⟨Mantissa.rounded_of_read hread, ?_⟩
  rw [hnegative]
  cases n.sign.getD false with
  | false => simp
  | true =>
    simp
    omega

lemma exists_readPlain? {n : Numeral} (hfits : Fits n.mantissa.value) :
    ∃ d, readPlain? n.baseText = some d := by
  obtain ⟨⟨m, scale⟩, hread⟩ := Mantissa.exists_of_fits hfits
  have hrounded := Mantissa.rounded_of_read hread
  rw [n.readPlain?_baseText]
  refine ⟨_, Option.bind_eq_some_iff.2 ⟨(m, scale), hread, dif_pos ⟨?_, hrounded.scale_le⟩⟩⟩
  have hm := hrounded.magnitude_lt
  split <;> omega

lemma mem_baseText {n : Numeral} {c : Char} (h : c ∈ n.baseText) :
    c.isDigit = true ∨ c = '.' ∨ c = '-' ∨ c = '+' := by
  rcases List.mem_append.1 h with hsign | hmantissa
  · exact .inr (.inr (mem_signText hsign))
  · exact (Mantissa.mem_text hmantissa).imp_right .inl

/-- No mark of an exponent stands in front of it. -/
lemma no_mark_in_baseText {n : Numeral} {c : Char} (h : c ∈ n.baseText) :
    (!(c == 'e' || c == 'E')) = true := by
  rcases mem_baseText h with hdigit | rfl | rfl | rfl
  · simp [ne_of_isDigit hdigit (d := 'e') (by decide), ne_of_isDigit hdigit (d := 'E') (by decide)]
  all_goals rfl

/-! ### Reading a numeral -/

lemma read?_text_of_none {n : Numeral} (h : n.exponent = none) :
    read? n.text = readPlain? n.baseText := by
  have hdrop : n.baseText.dropWhile (fun c => !(c == 'e' || c == 'E')) = [] :=
    List.dropWhile_eq_nil_iff.2 fun c hc => no_mark_in_baseText hc
  have hscientific : readScientific? n.baseText = none := by
    simp only [readScientific?, hdrop]
    rfl
  rw [text_of_none h, read?, hscientific]
  cases readPlain? n.baseText <;> rfl

lemma readPlain?_text_of_some {n : Numeral} {e : Exponent} (h : n.exponent = some e) :
    readPlain? n.text = none := by
  have hmark : isDigitOrSeparator e.mark = false ∧ e.mark ≠ '.' := by
    rcases e.isMark with h | h <;> rw [h] <;> decide
  have hmem : e.mark ∈ n.mantissa.text ++ e.text := by simp [Exponent.text]
  rw [text_of_some h, readPlain?, n.splitSign_baseText]
  simp only [readMantissa?_eq_none hmark.1 hmark.2 hmem]
  rfl

lemma read?_text_of_some {n : Numeral} {e : Exponent} (h : n.exponent = some e) :
    read? n.text = (readPlain? n.baseText).bind fun d =>
      if digitsValue e.digits < UInt32.size then
        if e.sign.getD false then d.lowerBy? (digitsValue e.digits)
        else d.raiseBy? (digitsValue e.digits)
      else none := by
  have hmark : (!(e.mark == 'e' || e.mark == 'E')) = false := by
    rcases e.isMark with h | h <;> rw [h] <;> rfl
  have htake : n.text.takeWhile (fun c => !(c == 'e' || c == 'E')) = n.baseText := by
    rw [text_of_some h, List.takeWhile_append_of_pos fun c hc => no_mark_in_baseText hc,
      Exponent.text, List.takeWhile_cons_of_neg (by simp [hmark]), List.append_nil]
  have hdrop : n.text.dropWhile (fun c => !(c == 'e' || c == 'E')) = e.text := by
    rw [text_of_some h, List.dropWhile_append_of_pos fun c hc => no_mark_in_baseText hc,
      Exponent.text, List.dropWhile_cons_of_neg (by simp [hmark])]
  rw [read?, readPlain?_text_of_some h]
  simp only [readScientific?, htake, hdrop, Exponent.text]
  cases readPlain? n.baseText with
  | none => rfl
  | some d =>
    simp only [Option.bind_eq_bind, Option.bind_some, e.readExponent?_text]
    split <;> rfl

lemma isNear_of_read? {n : Numeral} {d : Decimal} (h : read? n.text = some d) :
    IsNear d.magnitude d.scale n.mantissa.value n.power
      ∧ (d.magnitude = 0 ∨ d.negative = n.sign.getD false) := by
  cases hexponent : n.exponent with
  | none =>
    rw [read?_text_of_none hexponent] at h
    obtain ⟨hrounded, hsign⟩ := rounded_of_readPlain? h
    rw [power_of_none hexponent]
    exact ⟨hrounded.rescale hrounded.scale_le (by omega), hsign⟩
  | some e =>
    rw [read?_text_of_some hexponent] at h
    obtain ⟨d₀, hbase, hscaled⟩ := Option.bind_eq_some_iff.1 h
    obtain ⟨-, hscaled⟩ := Option.ite_none_right_eq_some.1 hscaled
    obtain ⟨hrounded, hsign⟩ := rounded_of_readPlain? hbase
    rw [power_of_some hexponent, Exponent.value]
    split at hscaled
    case isTrue hnegative =>
      obtain ⟨hnear, hkeeps⟩ := isNear_of_lowerBy? hrounded hscaled
      rw [if_pos hnegative]
      exact ⟨hnear, hsign.imp hkeeps.2 hkeeps.1.trans⟩
    case isFalse hnegative =>
      obtain ⟨hnear, hkeeps⟩ := isNear_of_raiseBy? hrounded hscaled
      rw [if_neg hnegative]
      exact ⟨hnear, hsign.imp hkeeps.2 hkeeps.1.trans⟩

/-- What is read of a numeral is less than a unit of its last place away, and is its number exactly
if decimals stand for the number with and without the exponent. Otherwise there was no room for one
more digit, or none before the mantissa was multiplied. -/
lemma toRat_of_read? {n : Numeral} {d : Decimal} (h : read? n.text = some d) :
    |d.toRat - n.value| < 1 / 10 ^ d.scale
      ∧ (d.toRat = n.value ↔ IsDecimal n.base ∧ IsDecimal n.value)
      ∧ (d.toRat ≠ n.value → d.scale = maxScale ∨ d.scale + n.power = maxScale
        ∨ magnitudeBound ≤ 10 * d.magnitude) := by
  obtain ⟨hnear, hsign⟩ := isNear_of_read? h
  rw [n.isDecimal_base, n.isDecimal_value, toRat_eq_withSign hsign, n.value_eq, withSign_sub,
    abs_withSign, Ne, withSign_inj]
  exact ⟨hnear.near, hnear.exact_iff, hnear.full⟩

/-- A numeral is read if decimals stand for the number with and without the exponent, and the
exponent is no greater than the places. -/
lemma exists_read? {n : Numeral} (hbase : IsDecimal n.base) (hvalue : IsDecimal n.value)
    (hpower : n.power.natAbs ≤ maxScale) : ∃ d, read? n.text = some d := by
  rw [n.isDecimal_base] at hbase
  rw [n.isDecimal_value] at hvalue
  obtain ⟨d, hd⟩ := exists_readPlain? hbase
  cases hexponent : n.exponent with
  | none => exact ⟨d, by rw [read?_text_of_none hexponent, hd]⟩
  | some e =>
    rw [power_of_some hexponent, Exponent.value] at hpower hvalue
    have hplaces : digitsValue e.digits ≤ maxScale := by
      split at hpower <;> omega
    have hword : digitsValue e.digits < UInt32.size :=
      Nat.lt_of_le_of_lt hplaces (by decide)
    rw [read?_text_of_some hexponent, hd, Option.bind_some, if_pos hword]
    split
    case isTrue => exact exists_lowerBy? d hplaces
    case isFalse hnegative =>
      refine exists_raiseBy? d hplaces ?_
      rw [if_neg hnegative, zpow_natCast] at hvalue
      rwa [(rounded_of_readPlain? hd).1.exact hbase]

lemma trim_text (n : Numeral) : trim n.text = n.text := by
  refine trim_of_trimmed (.of_not_blank ?_ fun c hc => ?_)
  · simp [text, baseText, n.mantissa.text_ne_nil]
  · rcases List.mem_append.1 hc with hbase | hexponent
    · rcases mem_baseText hbase with hdigit | rfl | rfl | rfl
      · exact isBlank_of_isDigit hdigit
      all_goals decide
    · cases hsome : n.exponent with
      | none => simp [hsome] at hexponent
      | some e =>
        rw [hsome] at hexponent
        exact e.not_blank c hexponent

end Numeral

end Decimal

/-! ### Conversion of numerals -/

lemma Scalar.decode_numeric_text {n : Decimal.Numeral} {s : String} (hs : s.toList = n.text) :
    Scalar.decode .numeric s = match Decimal.read? n.text with
      | some d => .ok (.numeric d)
      | none => .error (.unreadable s .numeric) := by
  have hread : Scalar.read? .numeric s = (Decimal.read? n.text).map .numeric := by
    rw [Scalar.read?, hs, n.trim_text]
  rw [Scalar.decode, hread]
  cases Decimal.read? n.text <;> rfl

lemma convert_numeric_text {n : Decimal.Numeral} {s : String} (hs : s.toList = n.text) :
    convert (.text s) .numeric = (Decimal.read? n.text).map fun d => some (.numeric d) := by
  have hread : Scalar.read? .numeric s = (Decimal.read? n.text).map .numeric := by
    rw [Scalar.read?, hs, n.trim_text]
  rw [convert_text rfl rfl, hread, Option.map_map]
  rfl

/-- A decimal numeral that is read, into a host value or as a stored text, loses less than one unit
of the last place, and loses nothing exactly if decimals stand for its number with and without the
exponent. Otherwise digits for which the decimal, or the mantissa that was multiplied, had no room
are rounded off without a fault. What is refused is no number of a decimal, or has an exponent
greater than there are places. -/
theorem Scalar.decode_numeral (n : Decimal.Numeral) {s : String} (hs : s.toList = n.text) :
    (∃ d, Scalar.decode .numeric s = .ok (.numeric d)
        ∧ convert (.text s) .numeric = some (some (.numeric d))
        ∧ |d.toRat - n.value| < 1 / 10 ^ d.scale
        ∧ (d.toRat = n.value ↔ Decimal.IsDecimal n.base ∧ Decimal.IsDecimal n.value)
        ∧ (d.toRat ≠ n.value → d.scale = maxScale ∨ d.scale + n.power = maxScale
          ∨ magnitudeBound ≤ 10 * d.magnitude))
      ∨ (Scalar.decode .numeric s = .error (.unreadable s .numeric)
        ∧ convert (.text s) .numeric = none
        ∧ ¬(Decimal.IsDecimal n.base ∧ Decimal.IsDecimal n.value
          ∧ n.power.natAbs ≤ maxScale)) := by
  rw [Scalar.decode_numeric_text hs, convert_numeric_text hs]
  cases hread : Decimal.read? n.text with
  | some d => exact .inl ⟨d, rfl, rfl, Decimal.Numeral.toRat_of_read? hread⟩
  | none =>
    refine .inr ⟨rfl, rfl, fun ⟨hbase, hvalue, hpower⟩ => ?_⟩
    obtain ⟨d, hd⟩ := Decimal.Numeral.exists_read? hbase hvalue hpower
    rw [hread] at hd
    cases hd

/-- Minus one and a half, times a hundred. -/
def Decimal.Numeral.scaled : Numeral where
  sign := some true
  mantissa :=
    { whole := ['1']
      fraction := some ['5', '0']
      allDigits_whole := by simp [AllDigits]
      allDigits_fraction := by simp [AllDigits]
      ne_nil := .inl (by simp) }
  exponent := some
    { mark := 'E'
      sign := none
      digits := ['2']
      isMark := .inr rfl
      allDigits := by simp [AllDigits]
      ne_nil := by simp }

/-- A numeral with a sign and an exponent is read exactly. -/
theorem Scalar.decode_numeral_scaled :
    ("-1.50E2").toList = Decimal.Numeral.scaled.text
      ∧ ∃ d, Scalar.decode .numeric "-1.50E2" = .ok (.numeric d) ∧ d.toRat = -150 := by
  have hs : ("-1.50E2").toList = Decimal.Numeral.scaled.text := by decide
  have hdigits : digitsValue ['1', '5', '0'] = 150 := by decide
  have hbase : Decimal.Numeral.scaled.base = -150 / 10 ^ 2 := by
    change -((digitsValue ['1', '5', '0'] : ℚ) / 10 ^ 2) = _
    rw [hdigits]
    norm_num
  have hpower : Decimal.Numeral.scaled.power = 2 := by decide
  have hvalue : Decimal.Numeral.scaled.value = -150 := by
    rw [Decimal.Numeral.value, hbase, hpower]
    norm_num
  have hdecimal : Decimal.IsDecimal Decimal.Numeral.scaled.base
      ∧ Decimal.IsDecimal Decimal.Numeral.scaled.value := by
    rw [hbase, hvalue]
    exact ⟨⟨⟨true, 150, 2, by decide, by decide⟩, by norm_num [Decimal.toRat, Decimal.units]⟩,
      ⟨true, 150, 0, by decide, by decide⟩, by norm_num [Decimal.toRat, Decimal.units]⟩
  refine ⟨hs, ?_⟩
  obtain ⟨d, hd, -, -, hexact, -⟩ | ⟨-, -, hnot⟩ := Scalar.decode_numeral Decimal.Numeral.scaled hs
  · exact ⟨d, hd, (hexact.2 hdecimal).trans hvalue⟩
  · exact absurd ⟨hdecimal.1, hdecimal.2, by decide⟩ hnot

/-- Five units of a place behind the last one. -/
def Decimal.Numeral.dust : Numeral where
  sign := none
  mantissa :=
    { whole := ['0']
      fraction := some ("00000000000000000000000000005".toList)
      allDigits_whole := by simp [AllDigits]
      allDigits_fraction := by simp [AllDigits]
      ne_nil := .inl (by simp) }
  exponent := none

/-- A digit behind the last place is dropped. -/
theorem Scalar.decode_numeral_dust :
    ("0.00000000000000000000000000005").toList = Decimal.Numeral.dust.text
      ∧ ∃ d, Scalar.decode .numeric "0.00000000000000000000000000005" = .ok (.numeric d)
        ∧ convert (.text "0.00000000000000000000000000005") .numeric = some (some (.numeric d))
        ∧ d.toRat ≠ Decimal.Numeral.dust.value := by
  refine ⟨by decide, ⟨false, 1, 28, by decide, by decide⟩, by decide, by decide, ?_⟩
  have hdigits : digitsValue ("000000000000000000000000000005".toList) = 5 := by decide
  have hvalue : Decimal.Numeral.dust.value = 5 / 10 ^ 29 := by
    rw [Decimal.Numeral.value_of_none rfl]
    change (digitsValue ("000000000000000000000000000005".toList) : ℚ) / 10 ^ 29 = _
    rw [hdigits]
    norm_num
  rw [hvalue]
  norm_num [Decimal.toRat, Decimal.units]

end ForeignData
