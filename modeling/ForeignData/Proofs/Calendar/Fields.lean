import ForeignData.Calendar.Text
import ForeignData.Proofs.Text.Digits

/-!
# Fields of dates and times

What each field of a layout makes of the text that is written for it, with any text behind it that
does not run into the field: years with and without a sign, numbers of two digits, decimals of a
second, and the offset of universal time.
-/

namespace ForeignData

/-! ### Numbers -/

lemma takeNumber?_length {s : List Char} (t : List Char) (hs : AllDigits s) (hne : s ≠ []) :
    takeNumber? s.length (s ++ t) = some (digitsValue s, t) := by
  have hwhile : s.takeWhile Char.isDigit = s := by
    simpa using takeWhile_isDigit_append hs .nil
  rw [takeNumber?, List.take_left]
  simp only [hwhile]
  rw [if_neg hne, List.drop_left]

lemma takeAllDigits?_append {s t : List Char} (hs : AllDigits s) (hne : s ≠ [])
    (ht : StopsDigits t) : takeAllDigits? (s ++ t) = some (digitsValue s, t) := by
  rw [takeAllDigits?, takeNumber?, List.take_length]
  simp only [takeWhile_isDigit_append hs ht]
  rw [if_neg hne, List.drop_left]

/-- A number of two digits ends after them, whatever stands behind it. -/
lemma takeNumber?_paddedText {n : Nat} (hn : n < 100) (t : List Char) :
    takeNumber? 2 (trimLeft (paddedText 2 n ++ t)) = some (n, t) := by
  have hdigits := allDigits_paddedText 2 n
  have hne : paddedText 2 n ≠ [] := by simp [paddedText]
  have htake := takeNumber?_length t hdigits hne
  rw [length_paddedText, digitsValue_paddedText_of_lt (by simpa using hn)] at htake
  rw [trimLeft_digits hdigits hne, htake]

/-! ### Years -/

def yearDigits (n : Nat) : List Char :=
  if n < 10000 then paddedText 4 n else natText n

lemma allDigits_yearDigits (n : Nat) : AllDigits (yearDigits n) := by
  unfold yearDigits
  split
  · exact allDigits_paddedText 4 n
  · exact allDigits_natText n

lemma yearDigits_ne_nil (n : Nat) : yearDigits n ≠ [] := by
  unfold yearDigits
  split
  · simp [paddedText]
  · exact natText_ne_nil n

lemma digitsValue_yearDigits (n : Nat) : digitsValue (yearDigits n) = n := by
  unfold yearDigits
  split
  · exact digitsValue_paddedText_of_lt (by omega)
  · exact digitsValue_natText n

/-- A written year has a sign exactly if it is negative or has more than four digits. -/
lemma yearText_cases (year : Int) :
    (year < 0 ∧ yearText year = '-' :: yearDigits year.natAbs)
      ∨ (0 ≤ year ∧ 10000 ≤ year.natAbs ∧ yearText year = '+' :: yearDigits year.natAbs)
      ∨ (0 ≤ year ∧ year.natAbs < 10000 ∧ yearText year = paddedText 4 year.natAbs) := by
  unfold yearText yearDigits
  by_cases hneg : year < 0
  · exact .inl ⟨hneg, by simp [hneg]⟩
  · by_cases hfour : year.natAbs < 10000
    · exact .inr (.inr ⟨by omega, hfour, by simp [hneg, hfour]⟩)
    · exact .inr (.inl ⟨by omega, by omega, by simp [hneg, hfour]⟩)

lemma takeYear?_digits {s : List Char} (t : List Char) (hs : AllDigits s) (hlen : s.length = 4) :
    takeYear? (s ++ t) = some ((digitsValue s : Int), t) := by
  have hne : s ≠ [] := by
    rintro rfl
    cases hlen
  have htake := takeNumber?_length t hs hne
  rw [hlen] at htake
  obtain ⟨c, s, rfl⟩ := List.exists_cons_of_ne_nil hne
  have hc : c.isDigit = true := hs c (by simp)
  rw [List.cons_append] at htake ⊢
  rw [takeYear?, htake, Option.map_some]
  · exact fun r hr => ne_of_isDigit hc (by decide) (List.cons.inj hr).1
  · exact fun r hr => ne_of_isDigit hc (by decide) (List.cons.inj hr).1

/-- A written year reads back, of whatever sign and length it is. -/
lemma takeYear?_yearText (year : Int) {t : List Char} (ht : StopsDigits t) :
    takeYear? (trimLeft (yearText year ++ t)) = some (year, t) := by
  have hall := allDigits_yearDigits year.natAbs
  have htake := takeAllDigits?_append hall (yearDigits_ne_nil year.natAbs) ht
  rw [digitsValue_yearDigits] at htake
  rcases yearText_cases year with ⟨hneg, htext⟩ | ⟨hpos, -, htext⟩ | ⟨hpos, hfour, htext⟩
  · have habs : -(year.natAbs : Int) = year := by omega
    rw [htext, List.cons_append, trimLeft_cons_of_not_blank (by decide), takeYear?, htake]
    simp only [Option.map_some, habs]
  · have habs : (year.natAbs : Int) = year := by omega
    rw [htext, List.cons_append, trimLeft_cons_of_not_blank (by decide), takeYear?, htake]
    simp only [Option.map_some, habs]
  · have hdigits := allDigits_paddedText 4 year.natAbs
    have habs : (year.natAbs : Int) = year := by omega
    rw [htext, trimLeft_digits hdigits (by simp [paddedText]),
      takeYear?_digits t hdigits (length_paddedText 4 _),
      digitsValue_paddedText_of_lt (by omega), habs]

/-! ### Decimals of a second -/

/-- A text that neither goes on with a digit nor with a point. -/
def StopsFraction (s : List Char) : Prop :=
  StopsDigits s ∧ s.head? ≠ some '.'

lemma takeFraction?_point {s t : List Char} (hs : AllDigits s) (hne : s ≠ []) (hlen : s.length ≤ 9)
    (ht : StopsDigits t) :
    takeFraction? ('.' :: (s ++ t)) = some (digitsValue s * 10 ^ (9 - s.length), t) := by
  -- whatever part of `t` the nine characters reach into, it does not go on with a digit
  have hrest : StopsDigits (t.take (9 - s.length)) := by
    intro c hc
    cases t with
    | nil => simp at hc
    | cons d t =>
      cases hk : 9 - s.length with
      | zero => simp [hk] at hc
      | succ k =>
        obtain rfl : d = c := by simpa [hk] using hc
        exact ht d (by simp)
  have hdigits : ((s ++ t).take 9).takeWhile Char.isDigit = s := by
    rw [List.take_append, List.take_of_length_le hlen]
    exact takeWhile_isDigit_append hs hrest
  have hdrop : t.dropWhile Char.isDigit = t := by
    simpa using dropWhile_isDigit_append (s := []) (by intro c hc; cases hc) ht
  rw [takeFraction?]
  simp only [hdigits]
  rw [if_neg hne, List.drop_left, hdrop]
  rfl

/-- The written decimals of a second read back, no matter in how many groups they are written. -/
lemma takeFraction?_fractionText {nanos : Nat} (hn : nanos < nanosPerSecond) {t : List Char}
    (ht : StopsFraction t) : takeFraction? (fractionText nanos ++ t) = some (nanos, t) := by
  have hdecimals (width n : Nat) (hwidth : 0 < width ∧ width ≤ 9) (hlt : n < 10 ^ width) :
      takeFraction? ('.' :: paddedText width n ++ t) = some (n * 10 ^ (9 - width), t) := by
    have hne : paddedText width n ≠ [] := by
      intro h
      have := congrArg List.length h
      rw [length_paddedText, List.length_nil] at this
      omega
    have htake := takeFraction?_point (allDigits_paddedText width n) hne
      (by rw [length_paddedText]; exact hwidth.2) ht.1
    rw [length_paddedText, digitsValue_paddedText_of_lt hlt] at htake
    exact htake
  have hnanos : nanos < 1000000000 := hn
  unfold fractionText
  split_ifs with hzero hmilli hmicro
  · subst hzero
    rw [List.nil_append, takeFraction?]
    rintro r rfl
    exact ht.2 rfl
  · rw [hdecimals 3 (nanos / 1000000) (by decide) (by omega)]
    congr 2
    omega
  · rw [hdecimals 6 (nanos / 1000) (by decide) (by omega)]
    congr 2
    omega
  · rw [hdecimals 9 nanos (by decide) (by omega)]
    congr 2
    omega

/-- Only digits and a point are written. -/
lemma not_blank_fractionText (nanos : Nat) : ∀ c ∈ fractionText nanos, isBlank c = false := by
  have hdecimals (width n : Nat) : ∀ c ∈ '.' :: paddedText width n, isBlank c = false := by
    intro c hc
    rcases List.mem_cons.mp hc with rfl | hc
    · decide
    · exact (allDigits_paddedText width n).not_blank c hc
  unfold fractionText
  split_ifs
  · intro c hc
    cases hc
  · exact hdecimals 3 _
  · exact hdecimals 6 _
  · exact hdecimals 9 _

end ForeignData
