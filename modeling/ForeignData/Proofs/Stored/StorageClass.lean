import ForeignData.Proofs.Stored.Whole

/-!
# Storage classes

SQLite chooses the storage class of a value, and another choice does not change what the value means
to the host. An integer and its decimal text become the same integer, decimal, bytes or text, or are
both out of range. Bytes that are text convert as this text does, but for bytes to the type of bytes
itself, where a text may be a hexadecimal spelling of other bytes.
-/

namespace ForeignData

/-- The types for which the decimal text of an integer is as good as the integer. -/
inductive HostType.TakesNumerals : HostType → Prop
  | integer {ty : HostType} (hty : ty.OfIntegers) : TakesNumerals ty
  | numeric : TakesNumerals .numeric
  | bytea : TakesNumerals .bytea
  | text {ty : HostType} (htext : ty.isText = true) : TakesNumerals ty
  | foreign {ty : HostType} (hnative : ty.isNative = false) : TakesNumerals ty

/-! ### Numerals -/

lemma Scalar.read?_intString_of_ofIntegers {ty : HostType} (hty : ty.OfIntegers) (v : Int64) :
    Scalar.read? ty (intString v.toInt) = convertInteger v ty := by
  cases hty with
  | int2 | int4 =>
    simp only [read?, convertInteger, readInt?_trim_intString, Option.bind_eq_bind,
      Option.bind_some]
  | int8 =>
    simp only [read?, convertInteger, readInt?_trim_intString, Option.bind_eq_bind,
      Option.bind_some, toInt64?_toInt, Option.map_some]

lemma Scalar.read?_intString_numeric (v : Int64) :
    Scalar.read? .numeric (intString v.toInt) = convertInteger v .numeric := by
  simp only [read?, convertInteger, intString, trim_toList_ofList (trimmed_intText _),
    Decimal.read?_intText, Option.map_some]

/-- A numeral does not begin as hexadecimal bytes do, so that it is read as its own characters. -/
lemma Scalar.read?_intString_bytea (v : Int64) :
    Scalar.read? .bytea (intString v.toInt) = convertInteger v .bytea := by
  have hmark : ∀ digits, (intString v.toInt).toList ≠ '\\' :: 'x' :: digits := by
    intro digits h
    have hmem : '\\' ∈ intText v.toInt := by
      rw [intString, String.toList_ofList] at h
      rw [h]
      exact List.mem_cons_self
    unfold intText at hmem
    split at hmem
    · rcases List.mem_cons.1 hmem with hminus | hdigit
      · exact absurd hminus (by decide)
      · exact absurd (allDigits_natText _ _ hdigit) (by decide)
    · exact absurd (allDigits_natText _ _ hmem) (by decide)
  have hread : readBytea? (intString v.toInt) = some (bytesOfText (intString v.toInt)) := by
    unfold readBytea?
    split
    · rename_i digits heq
      exact absurd heq (hmark digits)
    · rfl
  simp only [read?, convertInteger, hread, Option.map_some]

lemma convert_integer_eq_convert_text {ty : HostType} (hty : ty.TakesNumerals) (v : Int64) :
    convert (.integer v) ty = convert (.text (intString v.toInt)) ty := by
  have hinteger : StoredValue.integer v ≠ .null := nofun
  have hstring : StoredValue.text (intString v.toInt) ≠ .null := nofun
  cases hty with
  | integer hty =>
    obtain ⟨htext, hnative⟩ := hty.isFormed
    rw [convert_integer htext hnative, convert_text htext hnative,
      Scalar.read?_intString_of_ofIntegers hty]
  | numeric => rw [convert_integer rfl rfl, convert_text rfl rfl, Scalar.read?_intString_numeric]
  | bytea => rw [convert_integer rfl rfl, convert_text rfl rfl, Scalar.read?_intString_bytea]
  | text htext =>
    rw [convert_of_isText htext hinteger, convert_of_isText htext hstring]
    rfl
  | foreign hnative =>
    rw [convert_of_not_isNative hnative hinteger, convert_of_not_isNative hnative hstring]
    rfl

/-! ### Bytes that are text -/

lemma StoredValue.text?_blob {b : ByteArray} (hb : b.IsValidUTF8) :
    (StoredValue.blob b).text? = (StoredValue.text (.ofByteArray b hb)).text? :=
  textOfBytes?_of_isValidUTF8 hb

lemma convert_blob_eq_convert_text {b : ByteArray} (hb : b.IsValidUTF8) {ty : HostType}
    (hty : ty ≠ .bytea) : convert (.blob b) ty = convert (.text (.ofByteArray b hb)) ty := by
  have hblob : StoredValue.blob b ≠ .null := nofun
  have hstring : StoredValue.text (.ofByteArray b hb) ≠ .null := nofun
  cases htext : ty.isText with
  | true =>
    rw [convert_of_isText htext hblob, convert_of_isText htext hstring, StoredValue.text?_blob hb]
  | false =>
    cases hnative : ty.isNative with
    | false =>
      rw [convert_of_not_isNative hnative hblob, convert_of_not_isNative hnative hstring,
        StoredValue.text?_blob hb]
    | true =>
      rw [convert_blob htext hnative, convert_text htext hnative, if_neg hty,
        textOfBytes?_of_isValidUTF8 hb]
      rfl

/-- What a value converts to does not depend on the storage class that was chosen for it. An integer
converts as its decimal text does to the types of integers, decimals, bytes and text and to those
without a form of their own, and bytes that are text convert as that text to every type but that of
bytes. -/
theorem convert_across_storage_classes :
    (∀ (v : Int64) (ty : HostType), ty.TakesNumerals →
        convert (.integer v) ty = convert (.text (toString v.toInt)) ty)
      ∧ ∀ (b : ByteArray) (hb : b.IsValidUTF8) (ty : HostType), ty ≠ .bytea →
        convert (.blob b) ty = convert (.text (.ofByteArray b hb)) ty := by
  refine ⟨fun v ty hty => ?_, fun b hb ty hty => convert_blob_eq_convert_text hb hty⟩
  rw [← intString_eq_toString]
  exact convert_integer_eq_convert_text hty v

/-- The least integer of 64 bits is its numeral also as a decimal, and neither fits into 32 bits.
Bytes with a blank behind them are the truth value that they spell. -/
theorem convert_across_storage_classes_least :
    HostType.TakesNumerals .numeric ∧ HostType.TakesNumerals .int4
      ∧ convert (.integer Int64.minValue) .numeric
        = convert (.text "-9223372036854775808") .numeric
      ∧ convert (.integer Int64.minValue) .int4 = convert (.text "-9223372036854775808") .int4
      ∧ convert (.integer Int64.minValue) .int4 = none
      ∧ HostType.bool ≠ .bytea
      ∧ convert (.blob (bytesOfText "Yes ")) .bool = convert (.text "Yes ") .bool
      ∧ convert (.blob (bytesOfText "Yes ")) .bool = some (some (.bool true)) := by
  obtain ⟨hinteger, hblob⟩ := convert_across_storage_classes
  have hbool : convert (.blob (bytesOfText "Yes ")) .bool = convert (.text "Yes ") .bool :=
    hblob (bytesOfText "Yes ") "Yes ".isValidUTF8 .bool (by decide)
  refine ⟨.numeric, .integer .int4, hinteger Int64.minValue .numeric .numeric,
    hinteger Int64.minValue .int4 (.integer .int4), by decide, by decide, hbool, ?_⟩
  rw [hbool]
  decide

end ForeignData
