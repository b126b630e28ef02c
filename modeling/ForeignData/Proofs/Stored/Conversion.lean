import ForeignData.Proofs.Host.ScalarText
import ForeignData.Stored.Conversion

/-!
# Typing of the conversion

A type says which of four ways a stored value goes: as its text, as its text in a foreign syntax, by
the number that it is, or by its own text. Whatever way it goes, what comes out is of the type, and
only null comes out as null.
-/

namespace ForeignData

/-! ### Bytes that are text -/

lemma textOfBytes?_of_isValidUTF8 {b : ByteArray} (hb : b.IsValidUTF8) :
    textOfBytes? b = some (.ofByteArray b hb) :=
  dif_pos hb

lemma textOfBytes?_bytesOfText (s : String) : textOfBytes? (bytesOfText s) = some s :=
  textOfBytes?_of_isValidUTF8 s.isValidUTF8

/-! ### The ways a value goes -/

lemma convert_of_isText {ty : HostType} (htext : ty.isText = true) {v : StoredValue}
    (hv : v ≠ .null) : convert v ty = v.text?.map fun s => some (.text s) := by
  cases v with
  | null => exact absurd rfl hv
  | integer i => exact if_pos htext
  | real r => exact if_pos htext
  | text s => exact if_pos htext
  | blob b => exact if_pos htext

/-- Types without a form of their own take the text of any value, in their syntax. -/
lemma convert_of_not_isNative {ty : HostType} (hnative : ty.isNative = false) {v : StoredValue}
    (hv : v ≠ .null) : convert v ty = v.text?.map fun s => some (.other s) := by
  have htext : ¬ty.isText = true := by
    intro htext
    rw [HostType.isNative_of_isText htext] at hnative
    cases hnative
  have hnot : (!ty.isNative) = true := by rw [hnative]; rfl
  cases v with
  | null => exact absurd rfl hv
  | integer i => exact (if_neg htext).trans (if_pos hnot)
  | real r => exact (if_neg htext).trans (if_pos hnot)
  | text s => exact (if_neg htext).trans (if_pos hnot)
  | blob b => exact (if_neg htext).trans (if_pos hnot)

section Formed

variable {ty : HostType} (htext : ty.isText = false) (hnative : ty.isNative = true)

include htext hnative

/-- Types with a form of their own that is not text take a value by its storage class. -/
lemma convert_integer (v : Int64) :
    convert (.integer v) ty = (convertInteger v ty).map some := by
  refine (if_neg ?_).trans (if_neg ?_)
  · simp [htext]
  · simp [hnative]

lemma convert_real (v : Binary64) : convert (.real v) ty = (convertReal v ty).map some := by
  refine (if_neg ?_).trans (if_neg ?_)
  · simp [htext]
  · simp [hnative]

lemma convert_text (v : String) : convert (.text v) ty = (Scalar.read? ty v).map some := by
  refine (if_neg ?_).trans (if_neg ?_)
  · simp [htext]
  · simp [hnative]

lemma convert_blob (v : ByteArray) :
    convert (.blob v) ty = if ty = .bytea then some (some (.bytea v))
      else (textOfBytes? v >>= Scalar.read? ty).map some := by
  refine (if_neg ?_).trans (if_neg ?_)
  · simp [htext]
  · simp [hnative]

end Formed

/-! ### What comes out -/

lemma isOfType_of_convertInteger {v : Int64} {ty : HostType} {s : Scalar}
    (h : convertInteger v ty = some s) : s.isOfType ty = true := by
  cases ty
  case bool | int8 | float4 | float8 | numeric | bytea =>
    obtain rfl := Option.some.inj h
    rfl
  case int2 | int4 | date | timestamp | timestamptz =>
    obtain ⟨w, -, rfl⟩ := Option.map_eq_some_iff.1 h
    rfl
  case time =>
    change (if 0 ≤ v.toInt ∧ v.toInt < secondsPerDay then _ else none) = some s at h
    split at h
    · obtain ⟨w, -, rfl⟩ := Option.map_eq_some_iff.1 h
      rfl
    · cases h
  case text | varchar | bpchar | name | other => cases h

lemma isOfType_of_convertReal {v : Binary64} {ty : HostType} {s : Scalar}
    (h : convertReal v ty = some s) : s.isOfType ty = true := by
  cases ty
  case bool | float4 | float8 | bytea =>
    obtain rfl := Option.some.inj h
    rfl
  case numeric | timestamp | timestamptz =>
    obtain ⟨w, -, rfl⟩ := Option.map_eq_some_iff.1 h
    rfl
  case int2 | int4 | int8 =>
    obtain ⟨i, -, hi⟩ := Option.bind_eq_some_iff.1 h
    exact isOfType_of_convertInteger hi
  case date | time | text | varchar | bpchar | name | other => cases h

/-- What a stored value converts to is of the type that it is converted to, or null for null. -/
lemma convert_typed {v : StoredValue} {ty : HostType} {out : HostValue}
    (h : convert v ty = some out) :
    (out = none ↔ v = .null) ∧ ∀ s, out = some s → s.isOfType ty = true := by
  by_cases hv : v = .null
  · subst hv
    obtain rfl := Option.some.inj h
    exact ⟨by simp, by simp⟩
  suffices ∃ s, out = some s ∧ s.isOfType ty = true by
    obtain ⟨s, rfl, hs⟩ := this
    refine ⟨by simp [hv], fun s' h' => ?_⟩
    rw [← Option.some.inj h']
    exact hs
  cases htext : ty.isText with
  | true =>
    rw [convert_of_isText htext hv] at h
    obtain ⟨s, -, rfl⟩ := Option.map_eq_some_iff.1 h
    exact ⟨.text s, rfl, htext⟩
  | false =>
    cases hnative : ty.isNative with
    | false =>
      rw [convert_of_not_isNative hnative hv] at h
      obtain ⟨s, -, rfl⟩ := Option.map_eq_some_iff.1 h
      exact ⟨.other s, rfl, by rw [Scalar.isOfType, hnative]; rfl⟩
    | true =>
      cases v with
      | null => exact absurd rfl hv
      | integer i =>
        rw [convert_integer htext hnative] at h
        obtain ⟨s, hs, rfl⟩ := Option.map_eq_some_iff.1 h
        exact ⟨s, rfl, isOfType_of_convertInteger hs⟩
      | real r =>
        rw [convert_real htext hnative] at h
        obtain ⟨s, hs, rfl⟩ := Option.map_eq_some_iff.1 h
        exact ⟨s, rfl, isOfType_of_convertReal hs⟩
      | text t =>
        rw [convert_text htext hnative] at h
        obtain ⟨s, hs, rfl⟩ := Option.map_eq_some_iff.1 h
        exact ⟨s, rfl, Scalar.isOfType_of_read? hs⟩
      | blob b =>
        rw [convert_blob htext hnative] at h
        split at h
        case isTrue hbytea =>
          obtain rfl := Option.some.inj h
          exact ⟨.bytea b, rfl, by rw [hbytea]; rfl⟩
        case isFalse =>
          obtain ⟨s, hs, rfl⟩ := Option.map_eq_some_iff.1 h
          obtain ⟨t, -, ht⟩ := Option.bind_eq_some_iff.1 hs
          exact ⟨s, rfl, Scalar.isOfType_of_read? ht⟩

lemma convert_eq_some_none {v : StoredValue} {ty : HostType} :
    convert v ty = some none ↔ v = .null := by
  refine ⟨fun h => (convert_typed h).1.1 rfl, ?_⟩
  rintro rfl
  rfl

lemma isOfType_of_convert {v : StoredValue} {ty : HostType} {s : Scalar}
    (h : convert v ty = some (some s)) : s.isOfType ty = true :=
  (convert_typed h).2 s rfl

end ForeignData
