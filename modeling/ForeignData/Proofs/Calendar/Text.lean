import Mathlib.Tactic.Common
import ForeignData.Proofs.Calendar.Fields

/-!
# Written dates and times read back

Every date, time of day and timestamp reads back from its own text, leap seconds and years outside
of the four digits included. Each reader tries several layouts in order, and for what is written
here the first one of a list that can take the text gives the value.
-/

namespace ForeignData

/-! ### Parts of dates and times -/

lemma daysInMonth_le (year : Int) (month : Nat) : daysInMonth year month ≤ 31 := by
  unfold daysInMonth
  split <;> (try split) <;> omega

namespace Date

variable (d : Date)

lemma month_mem : 1 ≤ d.month ∧ d.month ≤ 12 := by
  obtain ⟨-, -, hday, hdays⟩ := d.isDate
  by_contra h
  have hnone : daysInMonth d.year d.month = 0 := by
    unfold daysInMonth
    split <;> first | rfl | omega
  omega

lemma day_mem : 1 ≤ d.day ∧ d.day ≤ 31 := by
  obtain ⟨-, -, hday, hdays⟩ := d.isDate
  exact ⟨hday, hdays.trans (daysInMonth_le d.year d.month)⟩

end Date

namespace Time

variable (t : Time)

lemma second_lt : t.second < 86400 := t.isTime.1

lemma hour_lt : t.hour < 24 := by
  have := t.second_lt
  unfold hour
  omega

lemma minute_lt : t.minute < 60 := Nat.mod_lt _ (by decide)

lemma secondOfMinute_cases :
    (t.nanos < nanosPerSecond ∧ t.secondOfMinute = t.second % 60 ∧ t.fraction = t.nanos)
      ∨ (t.second % 60 = 59 ∧ t.secondOfMinute = 60 ∧ t.nanos = nanosPerSecond + t.fraction) := by
  have hnanos := t.isTime.2
  unfold nanosPerSecond at hnanos
  unfold secondOfMinute fraction nanosPerSecond
  omega

lemma secondOfMinute_le : t.secondOfMinute ≤ 60 := by
  rcases t.secondOfMinute_cases with ⟨-, h, -⟩ | ⟨-, h, -⟩ <;> omega

lemma fraction_lt : t.fraction < nanosPerSecond := Nat.mod_lt _ (by decide)

end Time

/-! ### Fields of a value -/

def LayoutFields.withDate (f : LayoutFields) (d : Date) : LayoutFields :=
  { f with year := some d.year, month := d.month, day := d.day }

def LayoutFields.withTime (f : LayoutFields) (t : Time) : LayoutFields :=
  { f with hour := t.hour, minute := t.minute, second := t.secondOfMinute, nanos := t.fraction }

lemma date?_of_fields {f : LayoutFields} {d : Date} (hyear : f.year = some d.year)
    (hmonth : f.month = d.month) (hday : f.day = d.day) : f.date? = some d := by
  simp [LayoutFields.date?, hyear, hmonth, hday]

/-- The parts of a time of day make up that time again, also in a leap second. -/
lemma time?_of_fields {f : LayoutFields} {t : Time} (hhour : f.hour = t.hour)
    (hminute : f.minute = t.minute) (hsecond : f.second = t.secondOfMinute)
    (hnanos : f.nanos = t.fraction) : f.time? = some t := by
  have hparts : 3600 * t.hour + 60 * t.minute + t.second % 60 = t.second := by
    unfold Time.hour Time.minute
    omega
  have hself := Time.ofSeconds?_self t
  rw [LayoutFields.time?, hhour, hminute, hsecond, hnanos]
  rcases t.secondOfMinute_cases with ⟨-, hsec, hfrac⟩ | ⟨h59, hsec, hfrac⟩
  · have hlt : t.second % 60 < 60 := Nat.mod_lt _ (by decide)
    rw [hsec, if_neg (by omega), Time.ofHms?, if_pos ⟨t.hour_lt, t.minute_lt, hlt⟩, hparts, hfrac,
      hself]
  · rw [if_pos hsec, Time.ofHms?, if_pos ⟨t.hour_lt, t.minute_lt, by decide⟩, ← hfrac, ← h59,
      hparts, hself]

lemma timestamp?_of_fields {f : LayoutFields} {t : Timestamp} (hdate : f.date? = some t.date)
    (htime : f.time? = some t.time) : f.timestamp? = some t := by
  rw [LayoutFields.timestamp?, hdate, htime]
  rfl

/-- An offset of nothing changes nothing. -/
lemma minusSeconds?_zero (t : Timestamp) : t.minusSeconds? 0 = some t := by
  have hsecond := t.time.second_lt
  have hneg : ¬ ((t.time.second : Int) - 0 < 0) := by omega
  have hday : (t.time.second : Int) - 0 < secondsPerDay := by
    unfold secondsPerDay
    omega
  have hmod : (((t.time.second : Int) - 0) % secondsPerDay).toNat = t.time.second := by
    unfold secondsPerDay
    omega
  rw [Timestamp.minusSeconds?, if_neg hneg, if_pos hday, hmod, Time.ofSeconds?_self]
  rfl

lemma universal?_of_fields {f : LayoutFields} {t : Timestamp} {offset : Int}
    (hoffset : f.offset = some offset)
    (hrange : -secondsPerDay < offset ∧ offset < secondsPerDay) (hstamp : f.timestamp? = some t) :
    f.universal? = t.minusSeconds? offset := by
  rw [LayoutFields.universal?, hoffset, Option.bind_eq_bind, Option.bind_some, if_pos hrange,
    hstamp]
  rfl

/-! ### Layouts over written values -/

lemma readLayout?_date (d : Date) (layout : List LayoutField) (f : LayoutFields) (s : List Char) :
    readLayout? (dateLayout ++ layout) f (d.text ++ s) = readLayout? layout (f.withDate d) s := by
  have hyear := takeYear?_yearText d.year
    (t := '-' :: (paddedText 2 d.month ++ '-' :: (paddedText 2 d.day ++ s))) (.cons _ (by decide))
  have hmonth := takeNumber?_paddedText (n := d.month) (by have := d.month_mem; omega)
    ('-' :: (paddedText 2 d.day ++ s))
  have hday := takeNumber?_paddedText (n := d.day) (by have := d.day_mem; omega) s
  simp [dateLayout, Date.text, readLayout?, LayoutField.read?, hyear, hmonth, hday,
    LayoutFields.withDate]

/-- The layout of a time of day consumes a written time, if nothing follows that runs into its
decimals. -/
lemma readLayout?_time (t : Time) (layout : List LayoutField) (f : LayoutFields) {s : List Char}
    (hs : StopsFraction s) :
    readLayout? (secondLayout ++ layout) f (t.text ++ s) = readLayout? layout (f.withTime t) s := by
  have hhour := takeNumber?_paddedText (n := t.hour) (by have := t.hour_lt; omega)
    (':' :: (paddedText 2 t.minute ++ ':' :: (paddedText 2 t.secondOfMinute
      ++ (fractionText t.fraction ++ s))))
  have hminute := takeNumber?_paddedText (n := t.minute) (by have := t.minute_lt; omega)
    (':' :: (paddedText 2 t.secondOfMinute ++ (fractionText t.fraction ++ s)))
  have hsecond := takeNumber?_paddedText (n := t.secondOfMinute)
    (by have := t.secondOfMinute_le; omega) (fractionText t.fraction ++ s)
  have hfraction := takeFraction?_fractionText t.fraction_lt hs
  simp [secondLayout, minuteLayout, Time.text, readLayout?, LayoutField.read?, hhour, hminute,
    hsecond, hfraction, LayoutFields.withTime]

lemma trimLeft_time (t : Time) (s : List Char) : trimLeft (t.text ++ s) = t.text ++ s := by
  simp only [Time.text, List.append_assoc]
  exact trimLeft_digits (allDigits_paddedText 2 t.hour) (by simp [paddedText])

lemma readLayout?_timestamp (t : Timestamp) (layout : List LayoutField) (f : LayoutFields)
    {s : List Char} (hs : StopsFraction s) :
    readLayout? (dateLayout ++ .gap :: secondLayout ++ layout) f (t.text ++ s)
      = readLayout? layout ((f.withDate t.date).withTime t.time) s := by
  have hblank : isBlank ' ' = true := by decide
  have hgap : trimLeft (' ' :: (t.time.text ++ s)) = t.time.text ++ s := by
    rw [trimLeft, List.dropWhile_cons_of_pos hblank]
    exact trimLeft_time t.time s
  rw [Timestamp.text, List.append_assoc, List.append_assoc, readLayout?_date, List.cons_append,
    List.cons_append, readLayout?]
  simp only [LayoutField.read?, Option.bind_eq_bind, Option.bind_some, hgap]
  exact readLayout?_time t.time layout _ hs

lemma StopsFraction.nil : StopsFraction [] :=
  ⟨.nil, by simp⟩

/-! ### Values without an offset -/

@[simp] lemma readDay?_text (d : Date) : readDay? d.text = some d := by
  have hlayout := readLayout?_date d [] {} []
  rw [List.append_nil, List.append_nil] at hlayout
  rw [readDay?, readBy?, hlayout, readLayout?, if_pos rfl, Option.bind_some]
  exact date?_of_fields rfl rfl rfl

@[simp] lemma readDate?_text (d : Date) : readDate? d.text = some d := by
  rw [readDate?, readDay?_text]

@[simp] lemma readTime?_text (t : Time) : readTime? t.text = some t := by
  have hlayout := readLayout?_time t [] {} .nil
  rw [List.append_nil, List.append_nil] at hlayout
  have hread : readBy? LayoutFields.time? t.text secondLayout = some t := by
    rw [readBy?, hlayout, readLayout?, if_pos rfl, Option.bind_some]
    exact time?_of_fields rfl rfl rfl rfl
  simp [readTime?, timeLayouts, hread]

@[simp] lemma readTimestamp?_text (t : Timestamp) : readTimestamp? t.text = some t := by
  have hlayout := readLayout?_timestamp t [] {} .nil
  rw [List.append_nil, List.append_nil] at hlayout
  have hread : readBy? LayoutFields.timestamp? t.text (dateLayout ++ .gap :: secondLayout)
      = some t := by
    rw [readBy?, hlayout, readLayout?, if_pos rfl, Option.bind_some]
    exact timestamp?_of_fields (date?_of_fields rfl rfl rfl) (time?_of_fields rfl rfl rfl rfl)
  simp [readTimestamp?, timestampLayouts, hread]

/-! ### Trims of written values -/

lemma not_blank_yearText (year : Int) : ∀ c ∈ yearText year, isBlank c = false := by
  have hdigits := (allDigits_yearDigits year.natAbs).not_blank
  intro c hc
  rcases yearText_cases year with ⟨-, htext⟩ | ⟨-, -, htext⟩ | ⟨-, -, htext⟩
  · rw [htext] at hc
    rcases List.mem_cons.mp hc with rfl | hc
    · decide
    · exact hdigits c hc
  · rw [htext] at hc
    rcases List.mem_cons.mp hc with rfl | hc
    · decide
    · exact hdigits c hc
  · rw [htext] at hc
    exact (allDigits_paddedText 4 _).not_blank c hc

lemma Date.not_blank_text (d : Date) : ∀ c ∈ d.text, isBlank c = false := by
  intro c hc
  have htwo (n : Nat) := (allDigits_paddedText 2 n).not_blank
  simp only [Date.text, List.append_assoc, List.cons_append, List.mem_append, List.mem_cons] at hc
  rcases hc with hc | rfl | hc | rfl | hc
  · exact not_blank_yearText d.year c hc
  · decide
  · exact htwo _ c hc
  · decide
  · exact htwo _ c hc

lemma Date.trimmed_text (d : Date) : Trimmed d.text :=
  .of_not_blank (by simp [Date.text]) d.not_blank_text

lemma Time.not_blank_text (t : Time) : ∀ c ∈ t.text, isBlank c = false := by
  intro c hc
  have htwo (n : Nat) := (allDigits_paddedText 2 n).not_blank
  simp only [Time.text, List.append_assoc, List.cons_append, List.mem_append, List.mem_cons] at hc
  rcases hc with hc | rfl | hc | rfl | hc | hc
  · exact htwo _ c hc
  · decide
  · exact htwo _ c hc
  · decide
  · exact htwo _ c hc
  · exact not_blank_fractionText _ c hc

lemma Time.trimmed_text (t : Time) : Trimmed t.text :=
  .of_not_blank (by simp [Time.text]) t.not_blank_text

/-- The blank inside a timestamp is no blank at its ends. -/
lemma Timestamp.trimmed_text (t : Timestamp) : Trimmed t.text := by
  have h := t.date.trimmed_text.append t.time.trimmed_text [' ']
  rwa [List.append_assoc] at h

lemma Timestamp.trimmed_universalText (t : Timestamp) : Trimmed t.universalText := by
  have hzone : Trimmed ['+', '0', '0'] := ⟨⟨'+', rfl, rfl⟩, '0', rfl, rfl⟩
  have h := t.trimmed_text.append hzone []
  rwa [List.append_nil] at h

end ForeignData
