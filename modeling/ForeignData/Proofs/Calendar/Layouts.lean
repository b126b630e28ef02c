import Mathlib.Data.List.Basic
import Mathlib.Tactic.Common
import ForeignData.Proofs.Calendar.Text

/-!
# Layouts apart

A reader tries several layouts in order, so which of them a text belongs to must not be a matter of
that order. A text that is used up by one layout is not taken by a longer one, and the mark between
date and time tells the others apart: no text is read both by a layout with an offset and by one
without, and whatever the strict format takes the layouts take with the same fields, or not at all.
-/

namespace ForeignData

/-! ### Layouts one after the other -/

/-- Read a layout from the front of a text and give what is left. -/
def takeLayout? : List LayoutField → LayoutFields → List Char → Option (LayoutFields × List Char)
  | [], fields, s => some (fields, s)
  | field :: layout, fields, s =>
    (field.read? fields s).bind fun r => takeLayout? layout r.1 r.2

variable {layout more : List LayoutField} {f g : LayoutFields} {s rest : List Char}

lemma readLayout?_append (layout more : List LayoutField) (f : LayoutFields) (s : List Char) :
    readLayout? (layout ++ more) f s
      = (takeLayout? layout f s).bind fun r => readLayout? more r.1 r.2 := by
  induction layout generalizing f s with
  | nil => rfl
  | cons field layout ih =>
    rw [List.cons_append, readLayout?, takeLayout?, Option.bind_assoc]
    exact Option.bind_congr fun r _ => ih r.1 r.2

/-- A layout reads a text to its end if it leaves nothing of it. -/
lemma takeLayout?_of_readLayout? (h : readLayout? layout f s = some g) :
    takeLayout? layout f s = some (g, []) := by
  have happend := readLayout?_append layout [] f s
  rw [List.append_nil, h] at happend
  obtain ⟨⟨g', rest⟩, htake, hrest⟩ := Option.bind_eq_some_iff.1 happend.symm
  obtain ⟨rfl, rfl⟩ : rest = [] ∧ g' = g := by simpa [readLayout?] using hrest
  exact htake

/-- Where a layout has come to the end of a text, a longer one has nothing left to read. -/
lemma readLayout?_append_of_end (h : readLayout? layout f s = some g)
    (more : List LayoutField) : readLayout? (layout ++ more) f s = readLayout? more g [] := by
  rw [readLayout?_append, takeLayout?_of_readLayout? h, Option.bind_some]

/-! ### The mark between date and time -/

lemma readLayout?_gap_of_not_mark {c : Char} (hdigit : c.isDigit = false)
    (hblank : isBlank c = false) (more : List LayoutField) (f : LayoutFields) (s : List Char) :
    readLayout? (.gap :: .hour :: more) f (c :: s) = none := by
  have htrim := trimLeft_cons_of_not_blank (s := s) hblank
  simp [readLayout?, LayoutField.read?, htrim, takeNumber?, hdigit]

/-- A text with a time behind a gap is not one with a time behind a `T`. -/
lemma readLayout?_mark_of_gap (h : readLayout? (dateLayout ++ .gap :: .hour :: layout) f s = some g)
    (more : List LayoutField) : readLayout? (dateLayout ++ .literal 'T' :: more) f s = none := by
  rw [readLayout?_append] at h ⊢
  obtain ⟨⟨f', rest⟩, htake, hrest⟩ := Option.bind_eq_some_iff.1 h
  rw [htake, Option.bind_some]
  cases rest with
  | nil => rfl
  | cons c rest =>
    have hc : c ≠ 'T' := by
      rintro rfl
      rw [readLayout?_gap_of_not_mark (by decide) (by decide)] at hrest
      cases hrest
    simp [readLayout?, LayoutField.read?, hc]

lemma readLayout?_gap_of_mark (h : readLayout? (dateLayout ++ .literal 'T' :: layout) f s = some g)
    (more : List LayoutField) : readLayout? (dateLayout ++ .gap :: .hour :: more) f s = none := by
  by_contra hgap
  obtain ⟨g', hread⟩ := Option.ne_none_iff_exists'.1 hgap
  rw [readLayout?_mark_of_gap hread] at h
  cases h

/-! ### With and without an offset -/

lemma trimLeft_trimLeft (s : List Char) : trimLeft (trimLeft s) = trimLeft s := by
  apply trimLeft_of_head
  intro c hc
  have hhead := List.head?_dropWhile_not isBlank s
  rw [trimLeft] at hc
  rw [Option.mem_def.1 hc] at hhead
  simpa using hhead

lemma readLayout?_gap_offset (f : LayoutFields) (s : List Char) :
    readLayout? [.gap, .offset] f s = readLayout? [.offset] f s := by
  simp [readLayout?, LayoutField.read?, takeOffset?, trimLeft_trimLeft]

def dateTimeMarks : List LayoutField :=
  [.gap, .literal 'T']

/-- The layouts with an offset: a date, a mark, a time with seconds, and the offset. -/
lemma exists_of_mem_zonedLayouts (h : layout ∈ zonedLayouts) :
    ∃ mark ∈ dateTimeMarks, ∃ zone ∈ [[LayoutField.offset], [.gap, .offset]],
      layout = dateLayout ++ mark :: (secondLayout ++ zone) := by
  simp only [zonedLayouts, List.mem_cons, List.not_mem_nil, or_false] at h
  rcases h with rfl | rfl | rfl
  · exact ⟨.gap, by decide, [.offset], by decide, rfl⟩
  · exact ⟨.gap, by decide, [.gap, .offset], by decide, rfl⟩
  · exact ⟨.literal 'T', by decide, [.offset], by decide, rfl⟩

/-- The layouts without an offset: a date, a mark, and a time with or without seconds. -/
lemma exists_of_mem_timestampLayouts (h : layout ∈ timestampLayouts) :
    ∃ mark ∈ dateTimeMarks, ∃ clock ∈ [secondLayout, minuteLayout],
      layout = dateLayout ++ mark :: clock := by
  simp only [timestampLayouts, List.mem_cons, List.not_mem_nil, or_false] at h
  rcases h with rfl | rfl | rfl | rfl
  · exact ⟨.gap, by decide, secondLayout, by decide, rfl⟩
  · exact ⟨.literal 'T', by decide, secondLayout, by decide, rfl⟩
  · exact ⟨.gap, by decide, minuteLayout, by decide, rfl⟩
  · exact ⟨.literal 'T', by decide, minuteLayout, by decide, rfl⟩

lemma exists_hour_of_mem (h : layout ∈ timestampLayouts ++ zonedLayouts) :
    ∃ mark ∈ dateTimeMarks, ∃ more, layout = dateLayout ++ mark :: .hour :: more := by
  rcases List.mem_append.1 h with h | h
  · obtain ⟨mark, hmark, clock, hclock, rfl⟩ := exists_of_mem_timestampLayouts h
    simp only [List.mem_cons, List.not_mem_nil, or_false] at hclock
    rcases hclock with rfl | rfl <;> exact ⟨mark, hmark, _, rfl⟩
  · obtain ⟨mark, hmark, zone, -, rfl⟩ := exists_of_mem_zonedLayouts h
    exact ⟨mark, hmark, _, rfl⟩

/-- Only one mark fits a text. -/
lemma readLayout?_of_mark_ne {mark other : LayoutField} (hmark : mark ∈ dateTimeMarks)
    (hother : other ∈ dateTimeMarks) (hne : mark ≠ other)
    (h : readLayout? (dateLayout ++ mark :: .hour :: layout) f s = some g)
    (more : List LayoutField) :
    readLayout? (dateLayout ++ other :: .hour :: more) f s = none := by
  simp only [dateTimeMarks, List.mem_cons, List.not_mem_nil, or_false] at hmark hother
  rcases hmark with rfl | rfl <;> rcases hother with rfl | rfl
  · exact absurd rfl hne
  · exact readLayout?_mark_of_gap h _
  · exact readLayout?_gap_of_mark h _
  · exact absurd rfl hne

lemma readLayout?_time_of_date {mark : LayoutField} (hmark : mark ∈ dateTimeMarks)
    (h : readLayout? dateLayout f s = some g) (more : List LayoutField) :
    readLayout? (dateLayout ++ mark :: .hour :: more) f s = none := by
  rw [readLayout?_append_of_end h]
  simp only [dateTimeMarks, List.mem_cons, List.not_mem_nil, or_false] at hmark
  rcases hmark with rfl | rfl <;> rfl

/-- No text is read both by a layout without an offset and by one with an offset. -/
lemma readLayout?_zoned_of_plain {plain zoned : List LayoutField}
    (hplain : plain ∈ dateLayout :: timestampLayouts) (hzoned : zoned ∈ zonedLayouts)
    (h : readLayout? plain f s = some g) : readLayout? zoned f s = none := by
  obtain ⟨mark, hmark, zone, hzone, rfl⟩ := exists_of_mem_zonedLayouts hzoned
  have hend (g : LayoutFields) : readLayout? zone g [] = none := by
    simp only [List.mem_cons, List.not_mem_nil, or_false] at hzone
    rcases hzone with rfl | rfl <;> rfl
  rcases List.mem_cons.1 hplain with rfl | hplain
  · exact readLayout?_time_of_date hmark h _
  obtain ⟨other, hother, clock, hclock, rfl⟩ := exists_of_mem_timestampLayouts hplain
  by_cases hne : other = mark
  · subst hne
    simp only [List.mem_cons, List.not_mem_nil, or_false] at hclock
    rcases hclock with rfl | rfl
    · have hlonger := readLayout?_append_of_end h zone
      rwa [List.append_assoc, List.cons_append, hend] at hlonger
    · have hlonger := readLayout?_append_of_end h ([.literal ':', .second, .fraction] ++ zone)
      rwa [List.append_assoc] at hlonger
  · simp only [List.mem_cons, List.not_mem_nil, or_false] at hclock
    rcases hclock with rfl | rfl <;> exact readLayout?_of_mark_ne hother hmark hne h _

lemma readLayout?_zoned_unique {zoned other : List LayoutField} (hzoned : zoned ∈ zonedLayouts)
    (hother : other ∈ zonedLayouts) {g' : LayoutFields} (h : readLayout? zoned f s = some g)
    (h' : readLayout? other f s = some g') : g = g' := by
  obtain ⟨mark, hmark, zone, hzone, rfl⟩ := exists_of_mem_zonedLayouts hzoned
  obtain ⟨mark', hmark', zone', hzone', rfl⟩ := exists_of_mem_zonedLayouts hother
  obtain rfl : mark = mark' := by
    by_contra hne
    have hnone := readLayout?_of_mark_ne hmark hmark' hne h
    exact absurd ((hnone _).symm.trans h') (by simp)
  have hoffset {zone : List LayoutField} (hzone : zone ∈ [[LayoutField.offset], [.gap, .offset]])
      (f : LayoutFields) (s : List Char) : readLayout? zone f s = readLayout? [.offset] f s := by
    simp only [List.mem_cons, List.not_mem_nil, or_false] at hzone
    rcases hzone with rfl | rfl
    · rfl
    · exact readLayout?_gap_offset f s
  rw [← List.cons_append, ← List.append_assoc, readLayout?_append] at h h'
  simp only [hoffset hzone, hoffset hzone'] at h h'
  exact Option.some.inj (h.symm.trans h')

/-! ### The strict format -/

lemma takeDigits?_eq_some_iff {width n : Nat} {s rest : List Char} :
    takeDigits? width s = some (n, rest) ↔
      ∃ digits, s = digits ++ rest ∧ digits.length = width ∧ AllDigits digits
        ∧ digitsValue digits = n := by
  constructor
  · intro h
    rw [takeDigits?] at h
    split at h
    · next hdigits =>
      cases h
      exact ⟨s.take width, (List.take_append_drop width s).symm, hdigits.1,
        List.all_eq_true.mp hdigits.2, rfl⟩
    · cases h
  · rintro ⟨digits, rfl, rfl, hdigits, rfl⟩
    rw [takeDigits?, List.take_left]
    simp only [List.drop_left]
    rw [if_pos ⟨trivial, List.all_eq_true.mpr hdigits⟩]

/-- Exactly so many digits are at most so many, and no blank is in front of them. -/
lemma takeNumber?_of_takeDigits? {width n : Nat} (hwidth : 0 < width)
    (h : takeDigits? width s = some (n, rest)) :
    takeNumber? width (trimLeft s) = some (n, rest) := by
  obtain ⟨digits, rfl, rfl, hdigits, rfl⟩ := takeDigits?_eq_some_iff.1 h
  have hne : digits ≠ [] := List.ne_nil_of_length_pos hwidth
  rw [trimLeft_digits hdigits hne, takeNumber?_length rest hdigits hne]

lemma takeYear?_of_takeDigits? {n : Nat} (h : takeDigits? 4 s = some (n, rest)) :
    takeYear? (trimLeft s) = some ((n : Int), rest) := by
  obtain ⟨digits, rfl, hlen, hdigits, rfl⟩ := takeDigits?_eq_some_iff.1 h
  have hne : digits ≠ [] := List.ne_nil_of_length_pos (by omega)
  rw [trimLeft_digits hdigits hne, takeYear?_digits rest hdigits hlen]

lemma takeChar?_eq_some_iff {c : Char} : takeChar? c s = some rest ↔ s = c :: rest := by
  cases s with
  | nil => simp [takeChar?]
  | cons d s =>
    rw [takeChar?]
    split
    · next h => simp [h]
    · next h => simp [h]

/-! ### Offsets -/

section Offsets

variable {negative : Bool} {hh mm : List Char}

lemma twoDigits?_of_allDigits {a b : Char} (h : AllDigits [a, b]) :
    twoDigits? a b = some (digitsValue [a, b]) := by
  have ha : a.isDigit = true := h a (by simp)
  have hb : b.isDigit = true := h b (by simp)
  simp [twoDigits?, ha, hb, digitsValue]

lemma exists_of_takeOffsetSign? (h : takeOffsetSign? s = some (negative, rest)) :
    ∃ c, s = c :: rest ∧ isBlank c = false ∧ c ≠ 'Z' ∧ c ≠ 'z' := by
  unfold takeOffsetSign? at h
  split at h
  · cases h
    exact ⟨'+', rfl, by decide⟩
  · cases h
    exact ⟨'-', rfl, by decide⟩
  · cases h
    exact ⟨'−', rfl, by decide⟩
  · cases h

lemma takeOffset?_of_sign (hsign : takeOffsetSign? s = some (negative, hh ++ rest))
    (hhours : AllDigits hh) (hlen : hh.length = 2) :
    takeOffset? s = match rest.dropWhile isOffsetSeparator with
      | [] => some (offsetSeconds negative (digitsValue hh) 0, [])
      | [_] => none
      | m₁ :: m₂ :: rest => (twoDigits? m₁ m₂).bind fun minutes =>
        if minutes < 60 then some (offsetSeconds negative (digitsValue hh) minutes, rest)
        else none := by
  obtain ⟨c, rfl, hblank, hZ, hz⟩ := exists_of_takeOffsetSign? hsign
  obtain ⟨a, b, rfl⟩ := List.length_eq_two.1 hlen
  rw [takeOffset?, trimLeft_cons_of_not_blank hblank]
  split
  · next heq => exact absurd (List.cons.inj heq).1 hZ
  · next heq => exact absurd (List.cons.inj heq).1 hz
  · rw [hsign]
    change (twoDigits? a b).bind _ = _
    rw [twoDigits?_of_allDigits hhours]
    rfl

lemma takeOffset?_minutes (separators : List Char)
    (hsign : takeOffsetSign? s = some (negative, hh ++ (separators ++ (mm ++ rest))))
    (hhours : AllDigits hh) (hlen : hh.length = 2)
    (hseparators : ∀ c ∈ separators, isOffsetSeparator c = true)
    (hminutes : AllDigits mm) (hlen' : mm.length = 2) (hsixty : digitsValue mm < 60) :
    takeOffset? s = some (offsetSeconds negative (digitsValue hh) (digitsValue mm), rest) := by
  obtain ⟨m₁, m₂, rfl⟩ := List.length_eq_two.1 hlen'
  have hdigit : m₁.isDigit = true := hminutes m₁ (by simp)
  have hstop : isOffsetSeparator m₁ = false := by
    have hcolon : m₁ ≠ ':' := ne_of_isDigit hdigit (by decide)
    simp [isOffsetSeparator, hcolon, isBlank_of_isDigit hdigit]
  have hdrop : (separators ++ ([m₁, m₂] ++ rest)).dropWhile isOffsetSeparator
      = m₁ :: m₂ :: rest := by
    rw [List.dropWhile_append_of_pos hseparators]
    simp [hstop]
  rw [takeOffset?_of_sign hsign hhours hlen, hdrop]
  simp [twoDigits?_of_allDigits hminutes, hsixty]

lemma takeOffset?_hours (hsign : takeOffsetSign? s = some (negative, hh)) (hhours : AllDigits hh)
    (hlen : hh.length = 2) :
    takeOffset? s = some (offsetSeconds negative (digitsValue hh) 0, []) := by
  rw [← List.append_nil hh] at hsign
  rw [takeOffset?_of_sign hsign hhours hlen]
  rfl

lemma takeOffset?_of_takeStrictOffset? {offset : Int}
    (h : takeStrictOffset? s = some (offset, rest)) : takeOffset? s = some (offset, rest) := by
  unfold takeStrictOffset? at h
  split at h
  · cases h
    rw [takeOffset?, trimLeft_cons_of_not_blank (by decide)]
    rfl
  · cases h
    rw [takeOffset?, trimLeft_cons_of_not_blank (by decide)]
    rfl
  · simp only [Option.bind_eq_bind, Option.bind_eq_some_iff, Prod.exists, takeChar?_eq_some_iff,
      takeDigits?_eq_some_iff] at h
    obtain ⟨negative, s₁, hsign, hours, s₂, ⟨hh, rfl, hlen, hhours, rfl⟩, s₃, rfl, minutes, s₄,
      ⟨mm, rfl, hlen', hminutes, rfl⟩, h⟩ := h
    split at h
    · next hsixty =>
      cases h
      exact takeOffset?_minutes [':'] hsign hhours hlen (List.forall_mem_singleton.2 rfl) hminutes
        hlen' hsixty
    · cases h

end Offsets

/-! ### The strict format and the layouts -/

lemma exists_of_takeDateTimeMark? (h : takeDateTimeMark? s = some rest) :
    ∃ c ∈ ['T', 't', ' '], s = c :: rest := by
  unfold takeDateTimeMark? at h
  split at h
  · cases h
    exact ⟨'T', by decide, rfl⟩
  · cases h
    exact ⟨'t', by decide, rfl⟩
  · cases h
    exact ⟨' ', by decide, rfl⟩
  · cases h

/-- What the strict format takes is a date, a mark, and a time with an offset, each as the layouts
read it. -/
lemma fields_of_readInternet? {t : Timestamp} (h : readInternet? s = some t) :
    ∃ f c rest g, takeLayout? dateLayout {} s = some (f, c :: rest) ∧ c ∈ ['T', 't', ' ']
      ∧ readLayout? (secondLayout ++ [.offset]) f rest = some g ∧ g.universal? = some t := by
  rw [readInternet?] at h
  -- one step for each part of the format, in its order
  obtain ⟨⟨year, s₁⟩, hyear, h⟩ := Option.bind_eq_some_iff.1 h
  obtain ⟨s₂, hdash, h⟩ := Option.bind_eq_some_iff.1 h
  obtain ⟨⟨month, s₃⟩, hmonth, h⟩ := Option.bind_eq_some_iff.1 h
  obtain ⟨s₄, hdash', h⟩ := Option.bind_eq_some_iff.1 h
  obtain ⟨⟨day, s₅⟩, hday, h⟩ := Option.bind_eq_some_iff.1 h
  obtain ⟨s₆, hmark, h⟩ := Option.bind_eq_some_iff.1 h
  obtain ⟨⟨hour, s₇⟩, hhour, h⟩ := Option.bind_eq_some_iff.1 h
  obtain ⟨s₈, hcolon, h⟩ := Option.bind_eq_some_iff.1 h
  obtain ⟨⟨minute, s₉⟩, hminute, h⟩ := Option.bind_eq_some_iff.1 h
  obtain ⟨s₁₀, hcolon', h⟩ := Option.bind_eq_some_iff.1 h
  obtain ⟨⟨second, s₁₁⟩, hsecond, h⟩ := Option.bind_eq_some_iff.1 h
  obtain ⟨⟨nanos, s₁₂⟩, hfraction, h⟩ := Option.bind_eq_some_iff.1 h
  obtain ⟨⟨offset, s₁₃⟩, hoffset, h⟩ := Option.bind_eq_some_iff.1 h
  obtain ⟨c, hc, hmark⟩ := exists_of_takeDateTimeMark? hmark
  rw [takeChar?_eq_some_iff.1 hdash] at hyear
  rw [takeChar?_eq_some_iff.1 hdash'] at hmonth
  rw [hmark] at hday
  rw [takeChar?_eq_some_iff.1 hcolon] at hhour
  rw [takeChar?_eq_some_iff.1 hcolon'] at hminute
  dsimp only at h
  split at h
  · next hend =>
    subst hend
    have htwo {n : Nat} {s rest : List Char} (h : takeDigits? 2 s = some (n, rest)) :=
      takeNumber?_of_takeDigits? (by decide) h
    refine ⟨{ year := some (year : Int), month, day }, c, s₆, _, ?_, hc, ?_, h⟩
    · simp [takeLayout?, dateLayout, LayoutField.read?, takeYear?_of_takeDigits? hyear,
        htwo hmonth, htwo hday]
    · simp [readLayout?, secondLayout, minuteLayout, LayoutField.read?, htwo hhour, htwo hminute,
        htwo hsecond, hfraction, takeOffset?_of_takeStrictOffset? hoffset]
  · cases h

lemma readLayout?_gap_blank (f : LayoutFields) (s : List Char) (more : List LayoutField) :
    readLayout? (.gap :: .hour :: more) f (' ' :: s) = readLayout? (.hour :: more) f s := by
  have htrim : trimLeft (' ' :: s) = trimLeft s := List.dropWhile_cons_of_pos (by decide)
  simp [readLayout?, LayoutField.read?, htrim, trimLeft_trimLeft]

/-- What the strict format takes, a layout with an offset reads with the same result, unless the
mark is a small `t`, which no layout reads. -/
lemma layouts_of_readInternet? {t : Timestamp} (h : readInternet? s = some t) :
    (∀ layout ∈ dateLayout :: (timestampLayouts ++ zonedLayouts), readLayout? layout {} s = none)
      ∨ ∃ zoned ∈ zonedLayouts, ∃ g, readLayout? zoned {} s = some g ∧ g.universal? = some t := by
  obtain ⟨f, c, rest, g, htake, hc, hread, huniversal⟩ := fields_of_readInternet? h
  have hlayout (more : List LayoutField) :
      readLayout? (dateLayout ++ more) {} s = readLayout? more f (c :: rest) := by
    rw [readLayout?_append, htake, Option.bind_some]
  simp only [List.mem_cons, List.not_mem_nil, or_false] at hc
  rcases hc with rfl | rfl | rfl
  · refine .inr ⟨dateLayout ++ .literal 'T' :: secondLayout ++ [.offset], by decide, g, ?_,
      huniversal⟩
    rw [List.append_assoc, List.cons_append, hlayout]
    exact hread
  · have hmark {mark : LayoutField} (hmark : mark ∈ dateTimeMarks) (more : List LayoutField) :
        readLayout? (dateLayout ++ mark :: .hour :: more) {} s = none := by
      rw [hlayout]
      simp only [dateTimeMarks, List.mem_cons, List.not_mem_nil, or_false] at hmark
      rcases hmark with rfl | rfl
      · exact readLayout?_gap_of_not_mark (by decide) (by decide) _ _ _
      · rfl
    refine .inl fun layout hmem => ?_
    rcases List.mem_cons.1 hmem with rfl | hmem
    · have hdate := hlayout []
      rwa [List.append_nil] at hdate
    · obtain ⟨mark, hfits, more, rfl⟩ := exists_hour_of_mem hmem
      exact hmark hfits more
  · refine .inr ⟨dateLayout ++ .gap :: secondLayout ++ [.offset], by decide, g, ?_, huniversal⟩
    rw [List.append_assoc, List.cons_append, hlayout]
    exact (readLayout?_gap_blank f rest _).trans hread

/-! ### Readers -/

lemma exists_plain_of_readTimestamp? {t : Timestamp} (h : readTimestamp? s = some t) :
    ∃ plain ∈ dateLayout :: timestampLayouts, ∃ f, readLayout? plain {} s = some f := by
  rw [readTimestamp?] at h
  split at h
  · next t' hfind =>
    obtain ⟨plain, hplain, hread⟩ := List.exists_of_findSome?_eq_some hfind
    obtain ⟨f, hf, -⟩ := Option.bind_eq_some_iff.1 hread
    exact ⟨plain, List.mem_cons_of_mem _ hplain, f, hf⟩
  · obtain ⟨d, hd, -⟩ := Option.map_eq_some_iff.1 h
    obtain ⟨f, hf, -⟩ := Option.bind_eq_some_iff.1 hd
    exact ⟨dateLayout, List.mem_cons_self, f, hf⟩

/-- A text with an offset is read as the timestamp of its fields, on whichever path. -/
lemma readUniversal?_of_zoned {zoned : List LayoutField} (hzoned : zoned ∈ zonedLayouts)
    (h : readLayout? zoned {} s = some g) : readUniversal? s = g.universal? := by
  have hlayouts : ∀ layout ∈ zonedLayouts, ∀ t, readBy? LayoutFields.universal? s layout = some t →
      g.universal? = some t := by
    intro layout hlayout t ht
    obtain ⟨g', hg', ht'⟩ := Option.bind_eq_some_iff.1 ht
    rw [readLayout?_zoned_unique hzoned hlayout h hg', ht']
  have hstrict (t : Timestamp) (ht : readInternet? s = some t) : g.universal? = some t := by
    rcases layouts_of_readInternet? ht with hnone | ⟨layout, hlayout, g', hg', ht'⟩
    · rw [hnone zoned (List.mem_append_right (dateLayout :: _) hzoned)] at h
      cases h
    · rw [readLayout?_zoned_unique hzoned hlayout h hg', ht']
  have hself : readBy? LayoutFields.universal? s zoned = g.universal? := by
    rw [readBy?, h, Option.bind_some]
  have hplain : readTimestamp? s = none := by
    by_contra hne
    obtain ⟨t, ht⟩ := Option.ne_none_iff_exists'.1 hne
    obtain ⟨plain, hmem, f, hf⟩ := exists_plain_of_readTimestamp? ht
    rw [readLayout?_zoned_of_plain hmem hzoned hf] at h
    cases h
  rw [readUniversal?]
  split
  · next t ht => exact (hstrict t ht).symm
  · split
    · next t ht =>
      obtain ⟨layout, hlayout, hread⟩ := List.exists_of_findSome?_eq_some ht
      exact (hlayouts layout hlayout t hread).symm
    · next hnone =>
      rw [hplain, ← hself, List.findSome?_eq_none_iff.1 hnone zoned hzoned]

/-- A text without an offset is read as universal time. -/
lemma readUniversal?_of_readTimestamp? {t : Timestamp} (h : readTimestamp? s = some t) :
    readUniversal? s = some t := by
  obtain ⟨plain, hplain, f, hf⟩ := exists_plain_of_readTimestamp? h
  have hzoned : ∀ zoned ∈ zonedLayouts, readLayout? zoned {} s = none :=
    fun zoned hzoned => readLayout?_zoned_of_plain hplain hzoned hf
  have hlayouts : zonedLayouts.findSome? (readBy? LayoutFields.universal? s) = none := by
    rw [List.findSome?_eq_none_iff]
    intro zoned hmem
    rw [readBy?, hzoned zoned hmem, Option.bind_none]
  have hstrict : readInternet? s = none := by
    by_contra hne
    obtain ⟨t', ht'⟩ := Option.ne_none_iff_exists'.1 hne
    rcases layouts_of_readInternet? ht' with hnone | ⟨zoned, hmem, g, hg, -⟩
    · rw [hnone plain (List.mem_append_left zonedLayouts hplain)] at hf
      cases hf
    · rw [hzoned zoned hmem] at hg
      cases hg
  rw [readUniversal?, hstrict, hlayouts, h]

/-- A date is the day of a timestamp, a text without a time being one at midnight. -/
lemma readDate?_eq (s : List Char) : readDate? s = (readTimestamp? s).map Timestamp.date := by
  rw [readDate?]
  split
  · next d hd =>
    obtain ⟨f, hf, -⟩ := Option.bind_eq_some_iff.1 hd
    have hlayouts : timestampLayouts.findSome? (readBy? LayoutFields.timestamp? s) = none := by
      rw [List.findSome?_eq_none_iff]
      intro layout hlayout
      obtain ⟨mark, hmark, more, rfl⟩ := exists_hour_of_mem (List.mem_append_left _ hlayout)
      rw [readBy?, readLayout?_time_of_date hmark hf, Option.bind_none]
    rw [readTimestamp?, hlayouts, hd]
    rfl
  · rfl

/-- Where both the strict format and a layout take a text, they give the same instant. -/
lemma readInternet?_eq_of_zoned {t u : Timestamp} (h : readInternet? s = some t)
    (h' : zonedLayouts.findSome? (readBy? LayoutFields.universal? s) = some u) : t = u := by
  obtain ⟨zoned, hzoned, hread⟩ := List.exists_of_findSome?_eq_some h'
  obtain ⟨g, hg, hu⟩ := Option.bind_eq_some_iff.1 hread
  have huniversal := readUniversal?_of_zoned hzoned hg
  rw [readUniversal?, h] at huniversal
  exact Option.some.inj (huniversal.trans hu)

end ForeignData
