import ForeignData.Host.ScalarText
import ForeignData.Proofs.Calendar.Offsets
import ForeignData.Proofs.Numeric.Decimal
import ForeignData.Proofs.Text.Hex

/-!
# Texts of scalars read back

Reading undoes writing for every host type but the two of binary numbers. What a type has read from
any text, canonical or not, is a value of that type, so that writing it and reading it once more
gives the same value again.
-/

namespace ForeignData

namespace Scalar

/-- The same value. Decimals are compared by value and scale, so that a zero has no sign. -/
def SameAs : Scalar → Scalar → Prop
  | numeric a, numeric b => a.SameAs b
  | a, b => a = b

@[refl] lemma SameAs.refl (s : Scalar) : SameAs s s := by
  cases s with
  | numeric d => exact Decimal.SameAs.refl d
  | bool _ | int2 _ | int4 _ | int8 _ | float4 _ | float8 _ | text _ | bytea _ | date _ | time _
  | timestamp _ | timestamptz _ | other _ => rfl

/-! ### Reading is well typed -/

lemma isOfType_of_read? {ty : HostType} {s : String} {v : Scalar} (h : read? ty s = some v) :
    v.isOfType ty = true := by
  cases ty
  case text | varchar | bpchar | name | other =>
    simp only [read?, Option.some.injEq] at h
    subst h
    rfl
  all_goals
    simp only [read?, Option.map_eq_some_iff] at h
    obtain ⟨w, -, rfl⟩ := h
    rfl

/-! ### Reading undoes writing -/

/-- A value of a type that trims its texts is read from its text as it is written. -/
lemma trim_toList_ofList {s : List Char} (h : Trimmed s) : trim (String.ofList s).toList = s := by
  rw [String.toList_ofList, trim_of_trimmed h]

lemma read?_write_bool (v : Bool) : read? .bool (write (bool v)) = some (bool v) := by
  cases v <;> decide

lemma readInt?_trim_intString (i : Int) : readInt? (trim (intString i).toList) = some i := by
  rw [intString, trim_toList_ofList (trimmed_intText i), readInt?_intText]

lemma read?_write_numeric (d : Decimal) :
    ∃ d', read? .numeric (write (numeric d)) = some (numeric d') ∧ d'.SameAs d := by
  obtain ⟨d', hread, hsame⟩ := d.read?_text
  refine ⟨d', ?_, hsame⟩
  simp only [read?, write, trim_toList_ofList d.trimmed_text, hread, Option.map_some]

/-- The text of a value reads back, for each type that the value is of. -/
lemma read?_write_of_isOfType {ty : HostType} {v : Scalar} (h : v.isOfType ty = true)
    (hbinary : ty ≠ .float4 ∧ ty ≠ .float8) : ∃ w, read? ty v.write = some w ∧ w.SameAs v := by
  cases v with
  | bool v =>
    obtain rfl : ty = .bool := by simpa [isOfType] using h
    exact ⟨_, read?_write_bool v, .refl _⟩
  | int2 v =>
    obtain rfl : ty = .int2 := by simpa [isOfType] using h
    exact ⟨int2 v, by simp [read?, write, readInt?_trim_intString], .refl _⟩
  | int4 v =>
    obtain rfl : ty = .int4 := by simpa [isOfType] using h
    exact ⟨int4 v, by simp [read?, write, readInt?_trim_intString], .refl _⟩
  | int8 v =>
    obtain rfl : ty = .int8 := by simpa [isOfType] using h
    exact ⟨int8 v, by simp [read?, write, readInt?_trim_intString], .refl _⟩
  | float4 v => exact absurd (by simpa [isOfType] using h) hbinary.1
  | float8 v => exact absurd (by simpa [isOfType] using h) hbinary.2
  | numeric d =>
    obtain rfl : ty = .numeric := by simpa [isOfType] using h
    obtain ⟨d', hread, hsame⟩ := read?_write_numeric d
    exact ⟨_, hread, hsame⟩
  | text v =>
    cases ty
    case text | varchar | bpchar | name => exact ⟨text v, rfl, .refl _⟩
    all_goals simp [isOfType, HostType.isText] at h
  | bytea v =>
    obtain rfl : ty = .bytea := by simpa [isOfType] using h
    exact ⟨bytea v, by simp [read?, write], .refl _⟩
  | date d =>
    obtain rfl : ty = .date := by simpa [isOfType] using h
    refine ⟨date d, ?_, .refl _⟩
    simp only [read?, write, trim_toList_ofList d.trimmed_text, readDate?_text, Option.map_some]
  | time t =>
    obtain rfl : ty = .time := by simpa [isOfType] using h
    refine ⟨time t, ?_, .refl _⟩
    simp only [read?, write, trim_toList_ofList t.trimmed_text, readTime?_text, Option.map_some]
  | timestamp t =>
    obtain rfl : ty = .timestamp := by simpa [isOfType] using h
    refine ⟨timestamp t, ?_, .refl _⟩
    simp only [read?, write, trim_toList_ofList t.trimmed_text, readTimestamp?_text,
      Option.map_some]
  | timestamptz t =>
    obtain rfl : ty = .timestamptz := by simpa [isOfType] using h
    refine ⟨timestamptz t, ?_, .refl _⟩
    simp only [read?, write, trim_toList_ofList t.trimmed_universalText,
      readUniversal?_universalText, Option.map_some]
  | other v =>
    cases ty
    case other => exact ⟨other v, rfl, .refl _⟩
    all_goals simp [isOfType, HostType.isNative] at h

end Scalar

end ForeignData
