import Mathlib.Data.List.Induction
import Mathlib.Tactic.Lemma
import Mathlib.Tactic.Ring
import ForeignData.Text.Blank
import ForeignData.Text.Digits

/-!
# Written numbers read back

The digits of a number have the value of that number, and a reader that takes digits from the front
of a text stops behind them. A text that neither begins nor ends with a blank is left as it is by a
trim, which is how every written number gets to its reader unchanged.
-/

namespace ForeignData

/-- Nothing but ASCII digits. -/
def AllDigits (s : List Char) : Prop :=
  ∀ c ∈ s, c.isDigit = true

/-- A text that does not go on with a digit. -/
def StopsDigits (s : List Char) : Prop :=
  ∀ c ∈ s.head?, c.isDigit = false

/-! ### Digits -/

private lemma digit_below_ten :
    ∀ d < 10, (Char.ofNat (48 + d)).isDigit = true ∧ digitValue (Char.ofNat (48 + d)) = d := by
  decide

@[simp] lemma isDigit_digitChar (d : Nat) : (digitChar d).isDigit = true :=
  (digit_below_ten (d % 10) (Nat.mod_lt d (by decide))).1

@[simp] lemma digitValue_digitChar (d : Nat) : digitValue (digitChar d) = d % 10 :=
  (digit_below_ten (d % 10) (Nat.mod_lt d (by decide))).2

lemma isDigit_iff_toNat (c : Char) : c.isDigit = true ↔ 48 ≤ c.toNat ∧ c.toNat ≤ 57 := by
  simp only [Char.isDigit, Bool.and_eq_true, decide_eq_true_eq, UInt32.le_iff_toNat_le]
  exact Iff.rfl

/-- A digit is none of the characters around the digits of ASCII, so neither a sign nor a mark. -/
lemma ne_of_isDigit {c d : Char} (hc : c.isDigit = true) (hd : d.isDigit = false) : c ≠ d := by
  rintro rfl
  rw [hc] at hd
  cases hd

lemma isBlank_of_isDigit {c : Char} (h : c.isDigit = true) : isBlank c = false := by
  have hc := (isDigit_iff_toNat c).mp h
  by_contra hb
  simp only [isBlank, inRanges, blankRanges, List.any_cons, List.any_nil, Bool.not_eq_false,
    Bool.or_eq_true, Bool.and_eq_true, decide_eq_true_eq, Bool.false_eq_true, or_false] at hb
  omega

lemma AllDigits.append {s t : List Char} (hs : AllDigits s) (ht : AllDigits t) :
    AllDigits (s ++ t) := by
  intro c hc
  rcases List.mem_append.mp hc with h | h
  · exact hs c h
  · exact ht c h

lemma AllDigits.digitChar (d : Nat) : AllDigits [digitChar d] := by
  intro c hc
  rw [List.mem_singleton.mp hc]
  exact isDigit_digitChar d

lemma AllDigits.not_blank {s : List Char} (hs : AllDigits s) : ∀ c ∈ s, isBlank c = false :=
  fun c hc => isBlank_of_isDigit (hs c hc)

lemma StopsDigits.nil : StopsDigits [] := by
  simp [StopsDigits]

lemma StopsDigits.cons {c : Char} (s : List Char) (h : c.isDigit = false) :
    StopsDigits (c :: s) := by
  simpa [StopsDigits] using h

lemma takeWhile_isDigit_append {s t : List Char} (hs : AllDigits s) (ht : StopsDigits t) :
    (s ++ t).takeWhile Char.isDigit = s := by
  rw [List.takeWhile_append_of_pos hs]
  cases t with
  | nil => simp
  | cons c t => simp [ht c (by simp)]

lemma dropWhile_isDigit_append {s t : List Char} (hs : AllDigits s) (ht : StopsDigits t) :
    (s ++ t).dropWhile Char.isDigit = t := by
  rw [List.dropWhile_append_of_pos hs]
  cases t with
  | nil => simp
  | cons c t => simp [ht c (by simp)]

/-! ### Values -/

@[simp] lemma digitsValue_nil : digitsValue [] = 0 := rfl

lemma digitsValue_append_singleton (s : List Char) (c : Char) :
    digitsValue (s ++ [c]) = 10 * digitsValue s + digitValue c := by
  simp [digitsValue, List.foldl_append]

/-- The digits on the left count for as many tens as there are digits on the right. -/
lemma digitsValue_append (s t : List Char) :
    digitsValue (s ++ t) = digitsValue s * 10 ^ t.length + digitsValue t := by
  induction t using List.reverseRecOn with
  | nil => simp
  | append_singleton t c ih =>
    rw [← List.append_assoc, digitsValue_append_singleton, digitsValue_append_singleton, ih,
      List.length_append, List.length_singleton, pow_succ]
    ring

lemma digitsValue_cons (c : Char) (s : List Char) :
    digitsValue (c :: s) = digitValue c * 10 ^ s.length + digitsValue s := by
  simpa [digitsValue] using digitsValue_append [c] s

/-! ### Numbers without a fixed width -/

lemma natText_of_lt {n : Nat} (h : n < 10) : natText n = [digitChar n] := by
  rw [natText, if_pos h]

lemma natText_of_le {n : Nat} (h : 10 ≤ n) : natText n = natText (n / 10) ++ [digitChar n] := by
  rw [natText, if_neg (by omega)]

lemma natText_ne_nil (n : Nat) : natText n ≠ [] := by
  rw [natText]
  split <;> simp

lemma allDigits_natText (n : Nat) : AllDigits (natText n) := by
  induction n using Nat.strong_induction_on with
  | _ n ih =>
    by_cases h : n < 10
    · rw [natText_of_lt h]
      exact .digitChar n
    · rw [natText_of_le (by omega)]
      exact (ih (n / 10) (by omega)).append (.digitChar n)

@[simp] lemma digitsValue_natText (n : Nat) : digitsValue (natText n) = n := by
  induction n using Nat.strong_induction_on with
  | _ n ih =>
    by_cases h : n < 10
    · rw [natText_of_lt h, ← List.nil_append [digitChar n], digitsValue_append_singleton]
      simp only [digitsValue_nil, digitValue_digitChar]
      omega
    · rw [natText_of_le (by omega), digitsValue_append_singleton, ih (n / 10) (by omega),
        digitValue_digitChar]
      omega

/-! ### Numbers of a fixed width -/

@[simp] lemma length_paddedText (width n : Nat) : (paddedText width n).length = width := by
  induction width generalizing n with
  | zero => rfl
  | succ width ih => simp [paddedText, ih]

lemma allDigits_paddedText (width n : Nat) : AllDigits (paddedText width n) := by
  induction width generalizing n with
  | zero => intro c hc; cases hc
  | succ width ih => exact (ih (n / 10)).append (.digitChar n)

/-- A field keeps the last digits of a number and no others. -/
lemma digitsValue_paddedText (width n : Nat) :
    digitsValue (paddedText width n) = n % 10 ^ width := by
  induction width generalizing n with
  | zero => simp [paddedText, Nat.mod_one]
  | succ width ih =>
    rw [paddedText, digitsValue_append_singleton, ih, digitValue_digitChar, pow_succ, mul_comm _ 10,
      Nat.mod_mul]
    omega

lemma digitsValue_paddedText_of_lt {width n : Nat} (h : n < 10 ^ width) :
    digitsValue (paddedText width n) = n := by
  rw [digitsValue_paddedText, Nat.mod_eq_of_lt h]

/-! ### Trims -/

/-- A text with no blank at either end, and with something in between. -/
def Trimmed (s : List Char) : Prop :=
  (∃ c ∈ s.head?, isBlank c = false) ∧ ∃ c ∈ s.getLast?, isBlank c = false

lemma trimLeft_of_head {s : List Char} (h : ∀ c ∈ s.head?, isBlank c = false) : trimLeft s = s := by
  cases s with
  | nil => rfl
  | cons c s => exact trimLeft_cons_of_not_blank (h c (by simp))

lemma trimLeft_digits {s t : List Char} (hs : AllDigits s) (hne : s ≠ []) :
    trimLeft (s ++ t) = s ++ t := by
  apply trimLeft_of_head
  intro c hc
  obtain ⟨d, s, rfl⟩ := List.exists_cons_of_ne_nil hne
  obtain rfl : d = c := by simpa using hc
  exact isBlank_of_isDigit (hs d (by simp))

lemma trim_of_trimmed {s : List Char} (h : Trimmed s) : trim s = s := by
  obtain ⟨⟨a, ha, hablank⟩, b, hb, hbblank⟩ := h
  have hleft : trimLeft s = s := by
    apply trimLeft_of_head
    intro c hc
    rwa [Option.mem_unique hc ha]
  have hright : s.reverse.dropWhile isBlank = s.reverse := by
    apply trimLeft_of_head
    intro c hc
    rw [List.head?_reverse] at hc
    rwa [Option.mem_unique hc hb]
  rw [trim, hleft, trimRight, hright, List.reverse_reverse]

lemma Trimmed.of_not_blank {s : List Char} (hne : s ≠ []) (h : ∀ c ∈ s, isBlank c = false) :
    Trimmed s :=
  ⟨⟨s.head hne, List.head_mem_head? hne, h _ (List.head_mem hne)⟩,
    ⟨s.getLast hne, List.getLast_mem_getLast? hne, h _ (List.getLast_mem hne)⟩⟩

/-- The ends decide; what is between them may hold blanks. -/
lemma Trimmed.append {s t : List Char} (hs : Trimmed s) (ht : Trimmed t) (m : List Char) :
    Trimmed (s ++ m ++ t) := by
  obtain ⟨⟨a, ha, hablank⟩, -⟩ := hs
  obtain ⟨-, b, hb, hbblank⟩ := ht
  refine ⟨⟨a, ?_, hablank⟩, b, ?_, hbblank⟩
  · simp [List.head?_append, Option.mem_def.mp ha]
  · simp [List.getLast?_append, Option.mem_def.mp hb]

/-! ### Signed numbers -/

lemma splitSign_of_isDigit {c : Char} (s : List Char) (h : c.isDigit = true) :
    splitSign (c :: s) = (false, c :: s) := by
  rw [splitSign]
  · exact fun t ht => ne_of_isDigit h (by decide) (List.cons.inj ht).1
  · exact fun t ht => ne_of_isDigit h (by decide) (List.cons.inj ht).1

lemma splitSign_digits {s : List Char} (t : List Char) (hs : AllDigits s) (hne : s ≠ []) :
    splitSign (s ++ t) = (false, s ++ t) := by
  obtain ⟨c, s, rfl⟩ := List.exists_cons_of_ne_nil hne
  exact splitSign_of_isDigit (s ++ t) (hs c (by simp))

@[simp] lemma readNat?_natText (n : Nat) : readNat? (natText n) = some n := by
  have hall : (natText n).all Char.isDigit = true := List.all_eq_true.mpr (allDigits_natText n)
  rw [readNat?, if_pos ⟨natText_ne_nil n, hall⟩, digitsValue_natText]

/-- A written integer reads back. -/
@[simp] lemma readInt?_intText (i : Int) : readInt? (intText i) = some i := by
  unfold intText readInt?
  by_cases hi : i < 0
  · have habs : -(i.natAbs : Int) = i := by omega
    rw [if_pos hi]
    simp only [splitSign, readNat?_natText, if_true]
    exact congrArg some habs
  · have hsplit := splitSign_digits [] (allDigits_natText i.natAbs) (natText_ne_nil _)
    rw [List.append_nil] at hsplit
    have habs : (i.natAbs : Int) = i := by omega
    rw [if_neg hi, hsplit]
    simp only [readNat?_natText, Bool.false_eq_true, if_false]
    exact congrArg some habs

/-- The digits of a number are the ones that it is usually shown with. -/
lemma natText_eq_toDigits (n : Nat) : natText n = Nat.toDigits 10 n := by
  have hdigit : ∀ d < 10, digitChar d = Nat.digitChar d := by decide
  induction n using Nat.strong_induction_on with
  | _ n ih =>
    by_cases h : n < 10
    · rw [natText_of_lt h, hdigit n h, Nat.toDigits_of_lt_base h]
    · have hlast : n % 10 < 10 := Nat.mod_lt n (by decide)
      have hchar : digitChar n = Nat.digitChar (n % 10) := by
        rw [← hdigit _ hlast, digitChar, digitChar, Nat.mod_mod]
      rw [natText_of_le (by omega), ih (n / 10) (by omega), hchar,
        ← Nat.toDigits_of_lt_base hlast,
        Nat.toDigits_append_toDigits (by decide) (by omega) hlast, Nat.div_add_mod]

/-- The decimal text of an integer is the one that it is usually shown with. -/
lemma intString_eq_toString (i : Int) : intString i = toString i := by
  cases i with
  | ofNat n =>
    have hsign : ¬Int.ofNat n < 0 := Int.not_lt.2 (Int.natCast_nonneg n)
    rw [intString, intText, if_neg hsign, natText_eq_toDigits]
    rfl
  | negSucc n =>
    rw [intString, intText, if_pos (Int.negSucc_lt_zero n), natText_eq_toDigits]
    exact @String.ofList_append ['-'] _

lemma trimmed_natText (n : Nat) : Trimmed (natText n) :=
  .of_not_blank (natText_ne_nil n) (allDigits_natText n).not_blank

lemma trimmed_intText (i : Int) : Trimmed (intText i) := by
  unfold intText
  split
  · apply Trimmed.of_not_blank (by simp)
    intro c hc
    rcases List.mem_cons.mp hc with rfl | hc
    · decide
    · exact (allDigits_natText _).not_blank c hc
  · exact trimmed_natText _

/-! ### Words -/

@[simp] lemma toInt16?_toInt (v : Int16) : toInt16? v.toInt = some v := by
  rw [toInt16?, if_pos ⟨v.minValue_le_toInt, v.toInt_le⟩, Int16.ofInt_toInt]

@[simp] lemma toInt32?_toInt (v : Int32) : toInt32? v.toInt = some v := by
  rw [toInt32?, if_pos ⟨v.minValue_le_toInt, v.toInt_le⟩, Int32.ofInt_toInt]

@[simp] lemma toInt64?_toInt (v : Int64) : toInt64? v.toInt = some v := by
  rw [toInt64?, if_pos ⟨v.minValue_le_toInt, v.toInt_le⟩, Int64.ofInt_toInt]

end ForeignData
