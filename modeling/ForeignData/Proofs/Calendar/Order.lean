import ForeignData.Proofs.Calendar.Days
import ForeignData.Proofs.Text.Order

/-!
# Texts of dates and times in the order of time

As long as years have four digits, the texts of dates, of times of day and of timestamps are in the
order of time. All fields but the last have a fixed width, and the greater ones come first. The
decimals of a second are of different widths: they end where only zeros would follow, and what
follows then comes before a point and before any digit.
-/

namespace ForeignData

/-- What may follow decimals: nothing, or a character before the point and the digits. -/
def EndsDecimals (s : List Char) : Prop :=
  ∀ c ∈ s.head?, c.toNat < '.'.toNat

/-- A text that begins with a point or a digit, or with something after them. -/
def GoesOn (s : List Char) : Prop :=
  ∃ c t, s = c :: t ∧ '.'.toNat ≤ c.toNat

lemma EndsDecimals.nil : EndsDecimals [] := by
  simp [EndsDecimals]

lemma EndsDecimals.cons {c : Char} (s : List Char) (h : c.toNat < '.'.toNat) :
    EndsDecimals (c :: s) := by
  simpa [EndsDecimals] using h

lemma EndsDecimals.compare_eq_lt {s t : List Char} (hs : EndsDecimals s) (ht : GoesOn t) :
    compare s t = .lt := by
  obtain ⟨d, t, rfl, hd⟩ := ht
  cases s with
  | nil => rfl
  | cons c s =>
    have hc := hs c rfl
    rw [List.compare_cons_cons, compare_char, compare_lt_iff_lt.2 (by omega)]
    rfl

lemma GoesOn.append {s : List Char} (hs : GoesOn s) (t : List Char) : GoesOn (s ++ t) := by
  obtain ⟨c, s, rfl, hc⟩ := hs
  exact ⟨c, s ++ t, rfl, hc⟩

lemma GoesOn.paddedText (width n : Nat) : GoesOn (paddedText (width + 1) n) := by
  obtain ⟨c, s, hcons⟩ := List.exists_cons_of_length_pos
    (show 0 < (ForeignData.paddedText (width + 1) n).length by rw [length_paddedText]; omega)
  have hdigit := (isDigit_iff_toNat c).1 (allDigits_paddedText (width + 1) n c (by simp [hcons]))
  exact ⟨c, s, hcons, Nat.le_trans (by decide) hdigit.1⟩

/-! ### Decimals of a second -/

/-- The last `k` groups of three digits of a number, up to the last group that is not zero. -/
def groupsText : Nat → Nat → List Char
  | 0, _ => []
  | k + 1, n =>
    if n % 1000 ^ (k + 1) = 0 then [] else paddedText 3 (n / 1000 ^ k) ++ groupsText k n

lemma paddedText_add (width more n : Nat) :
    paddedText (width + more) n = paddedText width (n / 10 ^ more) ++ paddedText more n := by
  induction more generalizing n with
  | zero => simp [paddedText]
  | succ more ih =>
    rw [← Nat.add_assoc, paddedText, ih, paddedText, Nat.div_div_eq_div_mul, ← pow_succ',
      List.append_assoc]

/-- The decimals of a second are its three groups behind a point. -/
lemma fractionText_eq {nanos : Nat} (h : nanos < nanosPerSecond) :
    fractionText nanos = if nanos = 0 then [] else '.' :: groupsText 3 nanos := by
  have hsix (n : Nat) : paddedText 6 n = paddedText 3 (n / 1000) ++ paddedText 3 n :=
    paddedText_add 3 3 n
  have hnine (n : Nat) : paddedText 9 n = paddedText 6 (n / 1000) ++ paddedText 3 n :=
    paddedText_add 6 3 n
  have hdiv : nanos / 1000 / 1000 = nanos / 1000000 := Nat.div_div_eq_div_mul _ _ _
  have hmod : nanos % 1000000000 = nanos := Nat.mod_eq_of_lt h
  simp only [fractionText, groupsText, hnine, hsix, hdiv, Nat.reduceAdd, Nat.reducePow, hmod,
    Nat.div_one]
  split_ifs
  · rfl
  · rw [List.append_nil]
  · rw [List.append_nil]
  · rw [List.append_nil, List.append_assoc]

section Decimals

variable {s : List Char} (hs : EndsDecimals s)
include hs

/-- Texts that are missing for zero are in the order of their numbers if the others are. -/
lemma compare_missing_at_zero {p q : List Char} {a b : Nat} (hp : GoesOn p) (hq : GoesOn q)
    (h : compare (p ++ s) (q ++ s) = compare a b) :
    compare ((if a = 0 then [] else p) ++ s) ((if b = 0 then [] else q) ++ s) = compare a b := by
  split_ifs with ha hb hb
  · rw [ha, hb]
    exact Std.ReflOrd.compare_self
  · rw [ha, List.nil_append, hs.compare_eq_lt (hq.append s),
      compare_lt_iff_lt.2 (Nat.pos_of_ne_zero hb)]
  · rw [hb, List.nil_append, Std.OrientedOrd.eq_swap, hs.compare_eq_lt (hp.append s),
      compare_gt_iff_gt.2 (Nat.pos_of_ne_zero ha)]
    rfl
  · exact h

lemma compare_groupsText (k a b : Nat) :
    compare (groupsText k a ++ s) (groupsText k b ++ s)
      = compare (a % 1000 ^ k) (b % 1000 ^ k) := by
  induction k with
  | zero =>
    rw [pow_zero, Nat.mod_one, Nat.mod_one]
    exact Std.ReflOrd.compare_self
  | succ k ih =>
    rw [groupsText, groupsText]
    refine compare_missing_at_zero hs ((GoesOn.paddedText 2 _).append _)
      ((GoesOn.paddedText 2 _).append _) ?_
    rw [List.append_assoc, List.append_assoc, compare_paddedText_append, ih, pow_succ]
    exact compare_mod_mul (1000 ^ k) 1000 a b

/-- The decimals of seconds are in the order of the nanoseconds. -/
lemma compare_fractionText {a b : Nat} (ha : a < nanosPerSecond) (hb : b < nanosPerSecond) :
    compare (fractionText a ++ s) (fractionText b ++ s) = compare a b := by
  have hmod {n : Nat} (hn : n < nanosPerSecond) : n % 1000 ^ 3 = n := Nat.mod_eq_of_lt hn
  rw [fractionText_eq ha, fractionText_eq hb]
  refine compare_missing_at_zero hs ⟨_, _, rfl, Nat.le_refl _⟩ ⟨_, _, rfl, Nat.le_refl _⟩ ?_
  rw [List.cons_append, List.cons_append, compare_cons_self, compare_groupsText hs, hmod ha,
    hmod hb]

/-- The texts of times of day are in the order of the seconds and then of the nanoseconds, also
where these make up a leap second. -/
lemma Time.compare_text (t u : Time) :
    compare (t.text ++ s) (u.text ++ s)
      = (compare t.second u.second).then (compare t.nanos u.nanos) := by
  have hhours (t : Time) : t.hour < 10 ^ 2 := t.hour_lt.trans (by decide)
  have hminutes (t : Time) : t.minute < 10 ^ 2 := t.minute_lt.trans (by decide)
  have hseconds (t : Time) : t.secondOfMinute < 10 ^ 2 :=
    t.secondOfMinute_le.trans_lt (by decide)
  simp only [text, List.append_assoc, List.cons_append]
  rw [compare_paddedText_of_lt (hhours t) (hhours u), compare_cons_self,
    compare_paddedText_of_lt (hminutes t) (hminutes u), compare_cons_self,
    compare_paddedText_of_lt (hseconds t) (hseconds u),
    compare_fractionText hs t.fraction_lt u.fraction_lt]
  have ht := t.secondOfMinute_cases
  have hu := u.secondOfMinute_cases
  have hfraction := t.fraction_lt
  have hfraction' := u.fraction_lt
  unfold nanosPerSecond at *
  unfold hour minute
  apply ordering_ext
  · simp only [Ordering.then_eq_lt, compare_lt_iff_lt, compare_eq_iff_eq]
    omega
  · simp only [Ordering.then_eq_gt, compare_gt_iff_gt, compare_eq_iff_eq]
    omega

end Decimals

/-! ### Dates -/

/-- A year that is written with four digits and without a sign. -/
def HasFourDigits (year : Int) : Prop :=
  0 ≤ year ∧ year ≤ 9999

instance (year : Int) : Decidable (HasFourDigits year) :=
  inferInstanceAs (Decidable (_ ∧ _))

lemma HasFourDigits.yearText_eq {year : Int} (h : HasFourDigits year) :
    yearText year = paddedText 4 year.natAbs := by
  obtain ⟨hpos, hfour⟩ := h
  rcases yearText_cases year with ⟨hneg, -⟩ | ⟨-, hfive, -⟩ | ⟨-, -, htext⟩
  · omega
  · omega
  · exact htext

lemma HasFourDigits.compare_yearText {year later : Int} (h : HasFourDigits year)
    (h' : HasFourDigits later) (s t : List Char) :
    compare (yearText year ++ s) (yearText later ++ t)
      = (compare year later).then (compare s t) := by
  rw [h.yearText_eq, h'.yearText_eq]
  obtain ⟨hpos, hfour⟩ := h
  obtain ⟨hpos', hfour'⟩ := h'
  have hyears : compare year.natAbs later.natAbs = compare year later :=
    compare_congr (by omega) (by omega)
  rw [compare_paddedText_of_lt (by omega) (by omega), hyears]

/-- The texts of dates are in the order of their days, whatever follows them. -/
lemma Date.compare_text {d e : Date} (hd : HasFourDigits d.year) (he : HasFourDigits e.year)
    (s t : List Char) :
    compare (d.text ++ s) (e.text ++ t) = (compare d.toDays e.toDays).then (compare s t) := by
  have hmonth (d : Date) : d.month < 10 ^ 2 := d.month_mem.2.trans_lt (by decide)
  have hday (d : Date) : d.day < 10 ^ 2 := d.day_mem.2.trans_lt (by decide)
  simp only [text, List.append_assoc, List.cons_append]
  rw [hd.compare_yearText he, compare_cons_self, compare_paddedText_of_lt (hmonth d) (hmonth e),
    compare_cons_self, compare_paddedText_of_lt (hday d) (hday e), compare_toDays,
    Ordering.then_assoc, Ordering.then_assoc]

/-! ### Timestamps -/

lemma Timestamp.compare_toSeconds (t u : Timestamp) :
    compare t.toSeconds u.toSeconds
      = (compare t.date.toDays u.date.toDays).then (compare t.time.second u.time.second) := by
  have ht := t.time.second_lt
  have hu := u.time.second_lt
  unfold toSeconds secondsPerDay
  apply ordering_ext
  · simp only [Ordering.then_eq_lt, compare_lt_iff_lt, compare_eq_iff_eq]
    omega
  · simp only [Ordering.then_eq_gt, compare_gt_iff_gt, compare_eq_iff_eq]
    omega

/-- The texts of timestamps are in the order of time, if the same follows both and ends decimals. -/
lemma Timestamp.compare_text {t u : Timestamp} (ht : HasFourDigits t.date.year)
    (hu : HasFourDigits u.date.year) {s : List Char} (hs : EndsDecimals s) :
    compare (t.text ++ s) (u.text ++ s)
      = (compare t.toSeconds u.toSeconds).then (compare t.time.nanos u.time.nanos) := by
  rw [text, text, List.append_assoc, List.append_assoc, Date.compare_text ht hu, List.cons_append,
    List.cons_append, compare_cons_self, Time.compare_text hs, compare_toSeconds,
    Ordering.then_assoc]

end ForeignData
