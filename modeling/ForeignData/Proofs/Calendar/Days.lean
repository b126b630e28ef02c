import Mathlib.Tactic.IntervalCases
import ForeignData.Proofs.Calendar.Text

/-!
# Counts of days

The count of days of a date is that of whole years, whole months and days, so it puts dates in the
order of year, month and day, and no two dates have the same. The days before and after are one less
and one more in the count, until the calendar ends. A shift by seconds moves a timestamp by as many
in its count of seconds.
-/

namespace ForeignData

def leapDays (year : Int) : Nat :=
  if isLeapYear year then 1 else 0

/-- The number of days from the first of January 1970 to that of a year. -/
def newYear (year : Int) : Int :=
  365 * (year - 1) + (year - 1) / 4 - (year - 1) / 100 + (year - 1) / 400 - 719162

def daysBefore (year : Int) : Nat → Nat
  | 0 => 0
  | month + 1 => daysBefore year month + daysInMonth year month

@[simp] lemma daysBefore_one (year : Int) : daysBefore year 1 = 0 := rfl

lemma leapDays_eq (year : Int) :
    year / 4 - year / 100 + year / 400
      = (year - 1) / 4 - (year - 1) / 100 + (year - 1) / 400 + leapDays year := by
  have hleap : isLeapYear year = true ↔ year % 4 = 0 ∧ (year % 100 ≠ 0 ∨ year % 400 = 0) := by
    simp [isLeapYear]
  unfold leapDays
  split_ifs with h
  · have := hleap.1 h
    omega
  · rw [hleap] at h
    omega

lemma newYear_mono {year later : Int} (h : year ≤ later) : newYear year ≤ newYear later := by
  unfold newYear
  omega

/-- February has 28 days and the leap day, and from March on the months make up a regular series. -/
lemma daysBefore_eq (year : Int) {month : Nat} (hfirst : 1 ≤ month) (hlast : month ≤ 13) :
    daysBefore year month
      = if month ≤ 2 then 31 * (month - 1)
        else 59 + leapDays year + (153 * (month - 3) + 2) / 5 := by
  interval_cases month
  all_goals
    simp only [daysBefore, daysInMonth, leapDays]
    cases isLeapYear year <;> rfl

lemma newYear_succ (year : Int) : newYear (year + 1) = newYear year + daysBefore year 13 := by
  have := leapDays_eq year
  rw [daysBefore_eq year (by decide) (by decide), if_neg (by decide)]
  unfold newYear
  rw [Int.add_sub_cancel]
  omega

lemma daysInMonth_pos (year : Int) {month : Nat} (hfirst : 1 ≤ month) (hlast : month ≤ 12) :
    1 ≤ daysInMonth year month := by
  interval_cases month
  all_goals
    simp only [daysInMonth]
    cases isLeapYear year <;> decide

lemma daysBefore_add_le (year : Int) {month later : Nat} (h : month < later) :
    daysBefore year month + daysInMonth year month ≤ daysBefore year later := by
  induction later with
  | zero => omega
  | succ later ih =>
    rw [daysBefore]
    rcases Nat.lt_succ_iff_lt_or_eq.1 h with hlt | rfl
    · exact (ih hlt).trans (Nat.le_add_right _ _)
    · exact Nat.le_refl _

namespace Date

variable (d : Date)

/-- The count of days is that of the calendar: whole years, whole months, and days. -/
lemma toDays_eq : d.toDays = newYear d.year + daysBefore d.year d.month + (d.day - 1) := by
  obtain ⟨hfirst, hlast⟩ := d.month_mem
  have := leapDays_eq d.year
  rw [daysBefore_eq d.year hfirst (by omega)]
  simp only [toDays, newYear]
  split_ifs <;> omega

variable {d} {e : Date}

lemma newYear_le_toDays : newYear d.year ≤ d.toDays := by
  have := d.day_mem
  rw [toDays_eq]
  omega

lemma toDays_lt_newYear : d.toDays < newYear (d.year + 1) := by
  have hday := d.isDate.2.2
  have hmonth := d.month_mem
  have hmonths := daysBefore_add_le d.year (show d.month < 13 by omega)
  rw [toDays_eq, newYear_succ]
  omega

/-! ### Order -/

/-- Dates are ordered by year, month and day. -/
def Before (d e : Date) : Prop :=
  d.year < e.year ∨ d.year = e.year ∧ (d.month < e.month ∨ d.month = e.month ∧ d.day < e.day)

lemma Before.toDays_lt (h : d.Before e) : d.toDays < e.toDays := by
  rcases h with hyear | ⟨hyear, hmonth | ⟨hmonth, hday⟩⟩
  · calc
      d.toDays < newYear (d.year + 1) := toDays_lt_newYear
      _ ≤ newYear e.year := newYear_mono (by omega)
      _ ≤ e.toDays := newYear_le_toDays
  · have hmonths := daysBefore_add_le d.year hmonth
    have hday := d.isDate.2.2
    have hday' := e.day_mem
    rw [toDays_eq, toDays_eq, ← hyear]
    omega
  · rw [toDays_eq, toDays_eq, ← hyear, ← hmonth]
    omega

lemma before_or_eq_or_before (d e : Date) : d.Before e ∨ d = e ∨ e.Before d := by
  unfold Before
  rcases d with ⟨year, month, day, _⟩
  rcases e with ⟨year', month', day', _⟩
  simp only [mk.injEq]
  omega

/-- Dates are in the order of their counts of days. -/
lemma compare_toDays (d e : Date) :
    compare d.toDays e.toDays = (compare d.year e.year).then
      ((compare d.month e.month).then (compare d.day e.day)) := by
  rcases before_or_eq_or_before d e with h | rfl | h
  · rw [compare_lt_iff_lt.2 h.toDays_lt]
    rcases h with hyear | ⟨hyear, hmonth | ⟨hmonth, hday⟩⟩
    · rw [compare_lt_iff_lt.2 hyear]
      rfl
    · rw [compare_eq_iff_eq.2 hyear, compare_lt_iff_lt.2 hmonth]
      rfl
    · rw [compare_eq_iff_eq.2 hyear, compare_eq_iff_eq.2 hmonth, compare_lt_iff_lt.2 hday]
      rfl
  · rw [compare_eq_iff_eq.2 rfl, compare_eq_iff_eq.2 rfl, compare_eq_iff_eq.2 rfl,
      compare_eq_iff_eq.2 rfl]
    rfl
  · rw [compare_gt_iff_gt.2 h.toDays_lt]
    rcases h with hyear | ⟨hyear, hmonth | ⟨hmonth, hday⟩⟩
    · rw [compare_gt_iff_gt.2 hyear]
      rfl
    · rw [compare_eq_iff_eq.2 hyear.symm, compare_gt_iff_gt.2 hmonth]
      rfl
    · rw [compare_eq_iff_eq.2 hyear.symm, compare_eq_iff_eq.2 hmonth.symm,
        compare_gt_iff_gt.2 hday]
      rfl

lemma toDays_inj : d.toDays = e.toDays ↔ d = e := by
  refine ⟨fun h => ?_, fun h => h ▸ rfl⟩
  rcases before_or_eq_or_before d e with hlt | heq | hgt
  · exact absurd h hlt.toDays_lt.ne
  · exact heq
  · exact absurd h hgt.toDays_lt.ne'

/-! ### Neighbouring days -/

lemma ofYmd?_eq_some_iff {year : Int} {month day : Nat} :
    ofYmd? year month day = some e ↔ e.year = year ∧ e.month = month ∧ e.day = day := by
  constructor
  · intro h
    rw [ofYmd?] at h
    split at h
    · cases h
      exact ⟨rfl, rfl, rfl⟩
    · cases h
  · rintro ⟨rfl, rfl, rfl⟩
    exact ofYmd?_self e

lemma exists_ofYmd? {year : Int} {month day : Nat} (h : IsDate year month day) :
    ∃ e, ofYmd? year month day = some e :=
  ⟨⟨year, month, day, h⟩, dif_pos h⟩

lemma toDays_of_first (hmonth : d.month = 1) (hday : d.day = 1) : d.toDays = newYear d.year := by
  rw [toDays_eq, hmonth, hday, daysBefore_one]
  omega

lemma toDays_of_last (hmonth : d.month = 12) (hday : d.day = daysInMonth d.year 12) :
    d.toDays + 1 = newYear (d.year + 1) := by
  have hyear : daysBefore d.year 13 = daysBefore d.year 12 + daysInMonth d.year 12 := rfl
  rw [toDays_eq, hmonth, hday, newYear_succ, hyear]
  omega

/-- The day after is one more in the count, across the ends of months and years. -/
lemma toDays_of_next? (h : d.next? = some e) : e.toDays = d.toDays + 1 := by
  have hday := d.isDate.2.2
  rw [next?] at h
  split_ifs at h with hinner hmonth
  · obtain ⟨hy, hm, hd⟩ := ofYmd?_eq_some_iff.1 h
    rw [toDays_eq, toDays_eq, hy, hm]
    omega
  · obtain ⟨hy, hm, hd⟩ := ofYmd?_eq_some_iff.1 h
    rw [toDays_eq, toDays_eq, hy, hm, daysBefore]
    omega
  · obtain ⟨hy, hm, hd⟩ := ofYmd?_eq_some_iff.1 h
    have hlast : d.month = 12 := by
      have := d.month_mem
      omega
    rw [hlast] at hinner hday
    rw [toDays_of_first hm hd, hy, toDays_of_last hlast (by omega)]

/-- The day before is one less in the count. -/
lemma toDays_of_previous? (h : d.previous? = some e) : e.toDays + 1 = d.toDays := by
  have hday := d.isDate.2.2
  rw [previous?] at h
  split_ifs at h with hinner hmonth
  · obtain ⟨hy, hm, hd⟩ := ofYmd?_eq_some_iff.1 h
    rw [toDays_eq, toDays_eq, hy, hm]
    omega
  · obtain ⟨hy, hm, hd⟩ := ofYmd?_eq_some_iff.1 h
    obtain ⟨month, hsucc⟩ : ∃ month, d.month = month + 1 := ⟨d.month - 1, by omega⟩
    rw [hsucc, Nat.add_sub_cancel] at hm hd
    rw [toDays_eq, toDays_eq, hy, hm, hsucc, daysBefore]
    omega
  · obtain ⟨hy, hm, hd⟩ := ofYmd?_eq_some_iff.1 h
    have hfirst : d.month = 1 := by
      have := d.month_mem
      omega
    rw [toDays_of_last hm hd, hy, toDays_of_first hfirst (by omega), Int.sub_add_cancel]

/-- There is a day after unless the calendar ends. -/
lemma exists_next? (h : d.toDays < e.toDays) : ∃ f, d.next? = some f := by
  obtain ⟨hmin, hmax, hday⟩ := d.isDate
  have hmonths := d.month_mem
  rw [next?]
  split_ifs with hinner hmonth
  · exact exists_ofYmd? ⟨hmin, hmax, by omega, hinner⟩
  · exact exists_ofYmd? ⟨hmin, hmax, Nat.le_refl 1, daysInMonth_pos _ (by omega) (by omega)⟩
  · have hlast : d.month = 12 := by omega
    rw [hlast] at hinner hday
    have hyear : d.year < e.year := by
      by_contra hyear
      have hend := toDays_of_last hlast (by omega)
      have hmono : newYear (e.year + 1) ≤ newYear (d.year + 1) := newYear_mono (by omega)
      have := toDays_lt_newYear (d := e)
      omega
    have hmax' := e.isDate.2.1
    exact exists_ofYmd? ⟨by omega, by omega, Nat.le_refl 1, daysInMonth_pos _ (by omega) (by omega)⟩

/-- There is a day before unless the calendar begins. -/
lemma exists_previous? (h : e.toDays < d.toDays) : ∃ f, d.previous? = some f := by
  obtain ⟨hmin, hmax, hday⟩ := d.isDate
  have hmonths := d.month_mem
  rw [previous?]
  split_ifs with hinner hmonth
  · exact exists_ofYmd? ⟨hmin, hmax, by omega, by omega⟩
  · exact exists_ofYmd? ⟨hmin, hmax, daysInMonth_pos _ (by omega) (by omega), Nat.le_refl _⟩
  · have hyear : e.year < d.year := by
      by_contra hyear
      have hbegin := toDays_of_first (d := d) (by omega) (by omega)
      have hmono : newYear d.year ≤ newYear e.year := newYear_mono (by omega)
      have := newYear_le_toDays (d := e)
      omega
    have hmin' := e.isDate.1
    exact exists_ofYmd? ⟨by omega, by omega, by decide, Nat.le_refl 31⟩

lemma next?_eq_some_iff : d.next? = some e ↔ e.toDays = d.toDays + 1 := by
  refine ⟨toDays_of_next?, fun h => ?_⟩
  obtain ⟨f, hf⟩ := exists_next? (d := d) (e := e) (by omega)
  rw [hf, toDays_inj.1 (h.trans (toDays_of_next? hf).symm)]

lemma previous?_eq_some_iff : d.previous? = some e ↔ e.toDays + 1 = d.toDays := by
  refine ⟨toDays_of_previous?, fun h => ?_⟩
  obtain ⟨f, hf⟩ := exists_previous? (d := d) (e := e) (by omega)
  have heq : e = f := by
    have := toDays_of_previous? hf
    exact toDays_inj.1 (by omega)
  rw [hf, heq]

end Date

/-! ### Seconds -/

/-- The day on which a number of seconds after midnight falls, which is the day itself or one of its
neighbours. -/
def Date.after? (d : Date) (seconds : Int) : Option Date :=
  if seconds < 0 then d.previous? else if seconds < secondsPerDay then some d else d.next?

lemma Date.after?_eq_some_iff {d e : Date} {seconds : Int}
    (hrange : -secondsPerDay ≤ seconds ∧ seconds < 2 * secondsPerDay) :
    d.after? seconds = some e ↔ e.toDays = d.toDays + seconds / secondsPerDay := by
  unfold secondsPerDay at hrange
  unfold after? secondsPerDay
  split_ifs with hneg hday
  · rw [previous?_eq_some_iff]
    omega
  · rw [Option.some_inj, ← toDays_inj]
    omega
  · rw [next?_eq_some_iff]
    omega

lemma Time.ofSeconds?_eq_some_iff {second nanos : Nat} {t : Time} :
    ofSeconds? second nanos = some t ↔ t.second = second ∧ t.nanos = nanos := by
  constructor
  · intro h
    rw [ofSeconds?] at h
    split at h
    · cases h
      exact ⟨rfl, rfl⟩
    · cases h
  · rintro ⟨rfl, rfl⟩
    exact ofSeconds?_self t

namespace Timestamp

variable {t u : Timestamp} {seconds : Int}

lemma minusSeconds?_eq (t : Timestamp) (seconds : Int) :
    t.minusSeconds? seconds = (t.date.after? (t.time.second - seconds)).bind fun date =>
      (Time.ofSeconds? ((t.time.second - seconds) % secondsPerDay).toNat t.time.nanos).bind
        fun time => some ⟨date, time⟩ := by
  simp only [minusSeconds?, Date.after?]
  split_ifs <;> rfl

/-- A shift by less than a day gives the timestamp whose count of seconds is that much less, if
there is one. The nanoseconds stay, so that a leap second stays one. -/
lemma minusSeconds?_eq_some_iff (hrange : -secondsPerDay < seconds ∧ seconds < secondsPerDay) :
    t.minusSeconds? seconds = some u ↔
      u.toSeconds = t.toSeconds - seconds ∧ u.time.nanos = t.time.nanos := by
  have hsecond := t.time.isTime.1
  have hsecond' := u.time.isTime.1
  have hparts : t.minusSeconds? seconds = some u ↔
      t.date.after? (t.time.second - seconds) = some u.date
        ∧ Time.ofSeconds? ((t.time.second - seconds) % secondsPerDay).toNat t.time.nanos
          = some u.time := by
    rcases u with ⟨date, time⟩
    simp [minusSeconds?_eq, Option.bind_eq_some_iff]
  rw [hparts, Date.after?_eq_some_iff (by omega), Time.ofSeconds?_eq_some_iff, toSeconds, toSeconds]
  unfold secondsPerDay at *
  omega

end Timestamp

end ForeignData
