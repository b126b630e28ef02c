import ForeignData.Proofs.Calendar.Layouts

/-!
# Timestamps with an offset

A timestamp with the offset of its zone behind it is read as the timestamp that is so much earlier,
in whatever way the offset is spelled, whatever stands between date and time, and whatever sign the
year has.
-/

namespace ForeignData

/-! ### Offsets -/

/-- The spellings of an offset: with a colon, without one, without minutes if there are none, and
`Z` for no offset at all. -/
def offsetSpellings (negative : Bool) (hours minutes : Nat) : List (List Char) :=
  let sign := if negative then '-' else '+'
  [sign :: (paddedText 2 hours ++ ':' :: paddedText 2 minutes),
    sign :: (paddedText 2 hours ++ paddedText 2 minutes)]
    ++ (if minutes = 0 then [sign :: paddedText 2 hours] else [])
    ++ (if hours = 0 ∧ minutes = 0 then [['Z']] else [])

section Offsets

variable {negative : Bool} {hours minutes : Nat} {zone : List Char}

lemma mem_offsetSpellings :
    zone ∈ offsetSpellings negative hours minutes ↔
      (∃ separators ∈ [[':'], []], zone = (if negative then '-' else '+')
        :: (paddedText 2 hours ++ (separators ++ paddedText 2 minutes)))
      ∨ (minutes = 0 ∧ zone = (if negative then '-' else '+') :: paddedText 2 hours)
      ∨ (hours = 0 ∧ minutes = 0 ∧ zone = ['Z']) := by
  simp only [offsetSpellings, List.mem_append, List.mem_cons, List.not_mem_nil, or_false]
  split_ifs <;> simp_all [or_assoc]

lemma takeOffset?_spelling (h : zone ∈ offsetSpellings negative hours minutes)
    (hhours : hours < 24) (hminutes : minutes < 60) :
    takeOffset? zone = some (offsetSeconds negative hours minutes, []) := by
  have hvalue {n : Nat} (hn : n < 100) : digitsValue (paddedText 2 n) = n :=
    digitsValue_paddedText_of_lt hn
  have hsign (s : List Char) :
      takeOffsetSign? ((if negative then '-' else '+') :: s) = some (negative, s) := by
    cases negative <;> rfl
  rcases mem_offsetSpellings.1 h with ⟨separators, hseparators, rfl⟩ | ⟨rfl, rfl⟩ | ⟨rfl, rfl, rfl⟩
  · have htake := takeOffset?_minutes separators
      (by rw [List.append_nil]; exact hsign _)
      (allDigits_paddedText 2 hours) (length_paddedText 2 hours) ?_ (allDigits_paddedText 2 minutes)
      (length_paddedText 2 minutes) ?_
    · rw [htake, hvalue (by omega), hvalue (by omega)]
    · simp only [List.mem_cons, List.not_mem_nil, or_false] at hseparators
      rcases hseparators with rfl | rfl
      · exact List.forall_mem_singleton.2 rfl
      · exact List.forall_mem_nil _
    · rw [hvalue (by omega)]
      exact hminutes
  · rw [takeOffset?_hours (hsign _) (allDigits_paddedText 2 hours) (length_paddedText 2 hours),
      hvalue (by omega)]
  · cases negative <;> rfl

/-- The first character of an offset ends the decimals of a second. -/
lemma stopsFraction_spelling (h : zone ∈ offsetSpellings negative hours minutes) :
    StopsFraction zone := by
  have hsign (s : List Char) : StopsFraction ((if negative then '-' else '+') :: s) := by
    cases negative <;> exact ⟨.cons _ (by decide), by simp⟩
  rcases mem_offsetSpellings.1 h with ⟨separators, -, rfl⟩ | ⟨-, rfl⟩ | ⟨-, -, rfl⟩
  · exact hsign _
  · exact hsign _
  · exact ⟨.cons _ (by decide), by decide⟩

lemma trimmed_spelling (h : zone ∈ offsetSpellings negative hours minutes) : Trimmed zone := by
  have htwo (n : Nat) := (allDigits_paddedText 2 n).not_blank
  have hsign : isBlank (if negative then '-' else '+') = false := by
    cases negative <;> decide
  have hcolon : isBlank ':' = false := by decide
  rcases mem_offsetSpellings.1 h with ⟨separators, hseparators, rfl⟩ | ⟨-, rfl⟩ | ⟨-, -, rfl⟩
  · refine .of_not_blank (by simp) (List.forall_mem_cons.2 ⟨hsign, ?_⟩)
    simp only [List.mem_cons, List.not_mem_nil, or_false] at hseparators
    intro c hc
    rcases hseparators with rfl | rfl
    · rcases List.mem_append.1 hc with hc | hc
      · exact htwo hours c hc
      · rcases List.mem_cons.1 hc with rfl | hc
        · exact hcolon
        · exact htwo minutes c hc
    · rcases List.mem_append.1 hc with hc | hc
      · exact htwo hours c hc
      · exact htwo minutes c hc
  · exact .of_not_blank (by simp) (List.forall_mem_cons.2 ⟨hsign, htwo hours⟩)
  · exact ⟨⟨'Z', rfl, by decide⟩, 'Z', rfl, by decide⟩

end Offsets

/-! ### Timestamps with an offset behind them -/

lemma map_text_eq (t : Timestamp) :
    (t.text.map fun c => if c = ' ' then 'T' else c) = t.date.text ++ 'T' :: t.time.text := by
  have hkeep {s : List Char} (h : ∀ c ∈ s, isBlank c = false) :
      (s.map fun c => if c = ' ' then 'T' else c) = s := by
    refine (List.map_congr_left fun c hc => if_neg ?_).trans (List.map_id s)
    rintro rfl
    exact absurd (h _ hc) (by decide)
  rw [Timestamp.text, List.map_append, List.map_cons, hkeep t.date.not_blank_text,
    hkeep t.time.not_blank_text, if_pos rfl]

lemma exists_zoned_of_text (t : Timestamp) {text zone : List Char} {offset : Int}
    (htext : text = t.text ∨ text = t.text.map fun c => if c = ' ' then 'T' else c)
    (hstop : StopsFraction zone) (hoffset : takeOffset? zone = some (offset, [])) :
    ∃ layout ∈ zonedLayouts, readLayout? layout {} (text ++ zone) = some
      { (({} : LayoutFields).withDate t.date).withTime t.time with offset := some offset } := by
  have hread (f : LayoutFields) :
      readLayout? [.offset] f zone = some { f with offset := some offset } := by
    simp [readLayout?, LayoutField.read?, hoffset]
  rcases htext with rfl | rfl
  · refine ⟨dateLayout ++ .gap :: secondLayout ++ [.offset], by decide, ?_⟩
    rw [readLayout?_timestamp t [.offset] {} hstop, hread]
  · refine ⟨dateLayout ++ .literal 'T' :: secondLayout ++ [.offset], by decide, ?_⟩
    rw [map_text_eq, List.append_assoc, List.append_assoc, readLayout?_date]
    change readLayout? (secondLayout ++ [.offset]) _ (t.time.text ++ zone) = _
    rw [readLayout?_time t.time [.offset] _ hstop, hread]

lemma trimmed_with_offset (t : Timestamp) {text zone : List Char}
    (htext : text = t.text ∨ text = t.text.map fun c => if c = ' ' then 'T' else c)
    (hzone : Trimmed zone) : Trimmed (text ++ zone) := by
  rcases htext with rfl | rfl
  · have h := t.trimmed_text.append hzone []
    rwa [List.append_nil] at h
  · rw [map_text_eq]
    have h := (t.date.trimmed_text.append t.time.trimmed_text ['T']).append hzone []
    rwa [List.append_nil, List.append_assoc t.date.text] at h

lemma offsetSeconds_mem_day {negative : Bool} {hours minutes : Nat} (hhours : hours < 24)
    (hminutes : minutes < 60) : -secondsPerDay < offsetSeconds negative hours minutes
      ∧ offsetSeconds negative hours minutes < secondsPerDay := by
  unfold secondsPerDay
  simp only [offsetSeconds]
  split <;> omega

/-- A timestamp with an offset is read as the one that is so much earlier, if there is one. -/
lemma readUniversal?_of_offset (t : Timestamp) {text zone : List Char} {negative : Bool}
    {hours minutes : Nat}
    (htext : text = t.text ∨ text = t.text.map fun c => if c = ' ' then 'T' else c)
    (hzone : zone ∈ offsetSpellings negative hours minutes) (hhours : hours < 24)
    (hminutes : minutes < 60) :
    readUniversal? (text ++ zone) = t.minusSeconds? (offsetSeconds negative hours minutes) := by
  obtain ⟨layout, hlayout, hread⟩ := exists_zoned_of_text t htext (stopsFraction_spelling hzone)
    (takeOffset?_spelling hzone hhours hminutes)
  rw [readUniversal?_of_zoned hlayout hread]
  exact universal?_of_fields rfl (offsetSeconds_mem_day hhours hminutes)
    (timestamp?_of_fields (date?_of_fields rfl rfl rfl) (time?_of_fields rfl rfl rfl rfl))

@[simp] lemma readUniversal?_universalText (t : Timestamp) :
    readUniversal? t.universalText = some t := by
  have hzone : ['+', '0', '0'] ∈ offsetSpellings false 0 0 := by decide
  exact (readUniversal?_of_offset t (.inl rfl) hzone (by decide) (by decide)).trans
    (minusSeconds?_zero t)

end ForeignData
