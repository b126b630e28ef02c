import ForeignData.Proofs.Stored.RowShape

/-!
# The two conversion policies

Whether the value of a column is at fault depends on that column alone, and a row fails at its first
faulty column. The lenient policy excuses values without a representation in columns that may be
null. So it fails less often than the strict one, at a later column if both fail, and gives the same
row where both succeed.
-/

namespace ForeignData

namespace RowShape

/-! ### Faults of a column -/

/-- What is wrong with a value in its column. -/
inductive IsColumnFault (policy : ConversionPolicy) (column : HostColumn) (v : StoredValue) :
    Fault → Prop
  | invalid (hconvert : convert v column.type = none)
      (hpolicy : policy = .error ∨ column.notNull = true) :
      IsColumnFault policy column v (.invalidConversion v column.type column.name)
  | missing (hnull : v = .null) (hnotNull : column.notNull = true) :
      IsColumnFault policy column v (.nullViolation column.name)

lemma convertColumn_eq_error_iff {policy : ConversionPolicy} {column : HostColumn}
    {v : StoredValue} {e : Fault} :
    convertColumn policy column v = .error e ↔ IsColumnFault policy column v e := by
  constructor
  · intro h
    rw [convertColumn_eq] at h
    split at h
    case h_1 hconvert =>
      split at h
      case isTrue hnotNull =>
        obtain rfl := Except.error.inj h
        exact .missing (convert_eq_some_none.1 hconvert) hnotNull
      case isFalse => cases h
    case h_2 => cases h
    case h_3 hconvert =>
      split at h
      case isTrue => cases h
      case isFalse hrefused =>
        obtain rfl := Except.error.inj h
        refine .invalid hconvert ?_
        cases policy with
        | error => exact .inl rfl
        | nullIfNullable => exact .inr (by simpa using hrefused)
  · rintro (⟨hconvert, hpolicy⟩ | ⟨rfl, hnotNull⟩)
    · rw [convertColumn_eq, hconvert]
      refine if_neg ?_
      rintro ⟨rfl, hnull⟩
      obtain hpolicy | hnotNull := hpolicy
      · cases hpolicy
      · rw [hnull] at hnotNull
        cases hnotNull
    · rw [convertColumn_eq]
      exact if_pos hnotNull

/-- What the lenient policy finds fault with the strict one does too. -/
lemma IsColumnFault.strict {policy : ConversionPolicy} {column : HostColumn} {v : StoredValue}
    {e : Fault} (h : IsColumnFault policy column v e) : IsColumnFault .error column v e := by
  obtain ⟨hconvert, -⟩ | ⟨hnull, hnotNull⟩ := h
  · exact .invalid hconvert (.inl rfl)
  · exact .missing hnull hnotNull

/-- The lenient policy finds fault with a column that is never null and whose value is null or has
no representation. -/
lemma exists_isColumnFault_lenient_iff {column : HostColumn} {v : StoredValue} :
    (∃ e, IsColumnFault .nullIfNullable column v e) ↔
      column.notNull = true ∧ ¬∃ s, convert v column.type = some (some s) := by
  constructor
  · rintro ⟨e, ⟨hconvert, hpolicy⟩ | ⟨rfl, hnotNull⟩⟩
    · refine ⟨hpolicy.resolve_left (by simp), ?_⟩
      simp [hconvert]
    · refine ⟨hnotNull, ?_⟩
      rintro ⟨s, hs⟩
      cases hs
  · rintro ⟨hnotNull, hnone⟩
    match hconvert : convert v column.type with
    | none => exact ⟨_, .invalid hconvert (.inr hnotNull)⟩
    | some none => exact ⟨_, .missing (convert_eq_some_none.1 hconvert) hnotNull⟩
    | some (some s) => exact absurd ⟨s, hconvert⟩ hnone

/-- A value that the strict policy takes the lenient one takes as the same. -/
lemma convertColumn_of_strict {column : HostColumn} {v : StoredValue} {entry : HostValue}
    (h : convertColumn .error column v = .ok entry) (policy : ConversionPolicy) :
    convertColumn policy column v = .ok entry := by
  rw [convertColumn_eq] at h ⊢
  split at h
  case h_1 => exact h
  case h_2 => exact h
  case h_3 => cases h

/-! ### Faults of a row -/

lemma fill_cons_of_ok {columns : List HostColumn} {policy : ConversionPolicy}
    {p : Fin columns.length} {row : ResultRow} {entry : HostValue}
    (h : convertColumn policy (columns.get p) (row.value 0) = .ok entry)
    (ps : List (Fin columns.length)) (out : HostRow) :
    fill columns policy (p :: ps) row out = fill columns policy ps row.tail (out.set p entry) := by
  rw [fill, value_zero]
  change convertColumn policy (columns.get p) (row.value 0) >>= _ = _
  rw [h]
  rfl

lemma fill_cons_of_error {columns : List HostColumn} {policy : ConversionPolicy}
    {p : Fin columns.length} {row : ResultRow} {e : Fault}
    (h : convertColumn policy (columns.get p) (row.value 0) = .error e)
    (ps : List (Fin columns.length)) (out : HostRow) :
    fill columns policy (p :: ps) row out = .error e := by
  rw [fill, value_zero]
  change convertColumn policy (columns.get p) (row.value 0) >>= _ = _
  rw [h]
  rfl

/-- The first of some places whose value is at fault, with its fault. -/
def IsFirstFault {columns : List HostColumn} (policy : ConversionPolicy)
    (ps : List (Fin columns.length)) (row : ResultRow) (e : Fault) : Prop :=
  ∃ i p, ps[i]? = some p ∧ IsColumnFault policy (columns.get p) (row.value i) e
    ∧ ∀ k q, k < i → ps[k]? = some q → ∀ e', ¬IsColumnFault policy (columns.get q) (row.value k) e'

lemma isFirstFault_cons {columns : List HostColumn} {policy : ConversionPolicy}
    {p : Fin columns.length} {ps : List (Fin columns.length)} {row : ResultRow} {e : Fault} :
    IsFirstFault policy (p :: ps) row e ↔
      IsColumnFault policy (columns.get p) (row.value 0) e
        ∨ (∀ e', ¬IsColumnFault policy (columns.get p) (row.value 0) e')
          ∧ IsFirstFault policy ps row.tail e := by
  constructor
  · rintro ⟨i, q, hq, hfault, hfirst⟩
    cases i with
    | zero =>
      obtain rfl : p = q := by simpa using hq
      exact .inl hfault
    | succ i =>
      refine .inr ⟨hfirst 0 p (by omega) rfl, i, q, by simpa using hq, ?_, fun k q' hk hq' => ?_⟩
      · rw [value_tail]
        exact hfault
      · rw [value_tail]
        exact hfirst (k + 1) q' (by omega) (by simpa using hq')
  · rintro (hfault | ⟨hnone, i, q, hq, hfault, hfirst⟩)
    · exact ⟨0, p, rfl, hfault, fun k q hk => absurd hk (Nat.not_lt_zero k)⟩
    · refine ⟨i + 1, q, by simpa using hq, ?_, fun k q' hk hq' => ?_⟩
      · rw [← value_tail]
        exact hfault
      · cases k with
        | zero =>
          obtain rfl : p = q' := by simpa using hq'
          exact hnone
        | succ k =>
          rw [← value_tail]
          exact hfirst k q' (by omega) (by simpa using hq')

lemma fill_eq_error_iff {columns : List HostColumn} {policy : ConversionPolicy}
    {ps : List (Fin columns.length)} {row : ResultRow} {out : HostRow} {e : Fault} :
    fill columns policy ps row out = .error e ↔ IsFirstFault policy ps row e := by
  induction ps generalizing row out with
  | nil => simp [fill, IsFirstFault]
  | cons p ps ih =>
    rw [isFirstFault_cons]
    cases hv : convertColumn policy (columns.get p) (row.value 0) with
    | ok entry =>
      have hnone (e' : Fault) : ¬IsColumnFault policy (columns.get p) (row.value 0) e' := by
        rw [← convertColumn_eq_error_iff, hv]
        simp
      rw [fill_cons_of_ok hv, ih]
      exact ⟨fun h => .inr ⟨hnone, h⟩, fun h => (h.resolve_left (hnone e)).2⟩
    | error e' =>
      have hfault := convertColumn_eq_error_iff.1 hv
      rw [fill_cons_of_error hv, Except.error.injEq]
      constructor
      · rintro rfl
        exact .inl hfault
      · rintro (h | ⟨hnone, -⟩)
        · rw [← convertColumn_eq_error_iff, hv] at h
          exact Except.error.inj h
        · exact absurd hfault (hnone e')

/-- What the strict policy lets pass the lenient one fills in as the same. -/
lemma fill_of_strict {columns : List HostColumn} {ps : List (Fin columns.length)} {row : ResultRow}
    {out out' : HostRow} (h : fill columns .error ps row out = .ok out')
    (policy : ConversionPolicy) : fill columns policy ps row out = .ok out' := by
  induction ps generalizing row out with
  | nil => exact h
  | cons p ps ih =>
    obtain ⟨v, hv, hfill⟩ := fill_cons h
    rw [fill_cons_of_ok (convertColumn_of_strict hv policy)]
    exact ih hfill

/-- The faults of a row: of its width, or else of the first column whose value is at fault. -/
inductive IsRowFault (table : HostTable) (retrieved : List AttrNumber) (policy : ConversionPolicy)
    (fetchRowid : Bool) (row : ResultRow) (rowWidth : Nat) : Fault → Prop
  | width (hwidth : rowWidth ≠ retrieved.length + if fetchRowid then 1 else 0) :
      IsRowFault table retrieved policy fetchRowid row rowWidth
        (.columnCount (retrieved.length + if fetchRowid then 1 else 0) rowWidth)
  | column {i : Nat} {j : Fin table.columns.length} {e : Fault}
      (hwidth : rowWidth = retrieved.length + if fetchRowid then 1 else 0)
      (hfills : Fills table retrieved i j)
      (hfault : IsColumnFault policy (table.columns.get j) (row.value i) e)
      (hfirst : ∀ k l, k < i → Fills table retrieved k l →
        ∀ e', ¬IsColumnFault policy (table.columns.get l) (row.value k) e') :
      IsRowFault table retrieved policy fetchRowid row rowWidth e

lemma hostRow_eq_error_iff {table : HostTable} {retrieved : List AttrNumber}
    {policy : ConversionPolicy} {fetchRowid : Bool} {shape : RowShape}
    (hshape : RowShape.new table retrieved policy fetchRowid = .ok shape) {row : ResultRow}
    {rowWidth : Nat} {e : Fault} :
    shape.hostRow row rowWidth = .error e ↔
      IsRowFault table retrieved policy fetchRowid row rowWidth e := by
  obtain ⟨ps, hplaces, rfl⟩ := new_eq_ok hshape
  have hwidth : RowShape.width ⟨table.columns, ps, policy, fetchRowid⟩
      = retrieved.length + if fetchRowid then 1 else 0 := by
    rw [RowShape.width, length_places hplaces]
  unfold hostRow
  rw [hwidth]
  by_cases h : rowWidth = retrieved.length + if fetchRowid then 1 else 0
  · rw [if_pos h, fill_eq_error_iff]
    constructor
    · rintro ⟨i, j, hj, hfault, hfirst⟩
      exact .column h ((fills_iff hplaces).2 hj) hfault
        fun k l hk hl => hfirst k l hk ((fills_iff hplaces).1 hl)
    · rintro (hne | ⟨-, hfills, hfault, hfirst⟩)
      · exact absurd h hne
      · exact ⟨_, _, (fills_iff hplaces).1 hfills, hfault,
          fun k l hk hl => hfirst k l hk ((fills_iff hplaces).2 hl)⟩
  · rw [if_neg h, Except.error.injEq]
    constructor
    · rintro rfl
      exact .width h
    · rintro (- | ⟨hwidth, -, -, -⟩)
      · rfl
      · exact absurd hwidth h

lemma exists_isRowFault {table : HostTable} {retrieved : List AttrNumber}
    {policy : ConversionPolicy} {fetchRowid : Bool} {row : ResultRow} {rowWidth i : Nat}
    {j : Fin table.columns.length} {e : Fault} (hfills : Fills table retrieved i j)
    (hfault : IsColumnFault policy (table.columns.get j) (row.value i) e) :
    ∃ e, IsRowFault table retrieved policy fetchRowid row rowWidth e := by
  by_cases hwidth : rowWidth = retrieved.length + if fetchRowid then 1 else 0
  · induction i using Nat.strong_induction_on generalizing j e with
    | _ i ih =>
      by_cases hfirst : ∀ k l, k < i → Fills table retrieved k l →
          ∀ e', ¬IsColumnFault policy (table.columns.get l) (row.value k) e'
      · exact ⟨e, .column hwidth hfills hfault hfirst⟩
      · push Not at hfirst
        obtain ⟨k, l, hk, hl, e', he'⟩ := hfirst
        exact ih k hk hl he'
  · exact ⟨_, .width hwidth⟩

lemma IsRowFault.exists_strict {table : HostTable} {retrieved : List AttrNumber}
    {policy : ConversionPolicy} {fetchRowid : Bool} {row : ResultRow} {rowWidth : Nat} {e : Fault}
    (h : IsRowFault table retrieved policy fetchRowid row rowWidth e) :
    ∃ e', IsRowFault table retrieved .error fetchRowid row rowWidth e' := by
  obtain hne | ⟨-, hfills, hfault, -⟩ := h
  · exact ⟨_, .width hne⟩
  · exact exists_isRowFault hfills hfault.strict

/-! ### The policies side by side -/

/-- A row that holds what its result row converts to column by column, with null in place of what
has no representation. -/
structure IsColumnwise (table : HostTable) (retrieved : List AttrNumber) (row : ResultRow)
    (out : HostRow) : Prop where
  length : out.length = table.columns.length
  unfilled : ∀ j : Fin table.columns.length,
    (∀ i, ¬Fills table retrieved i j) → out[j.val]? = some none
  converted : ∀ (j : Fin table.columns.length) (i : Nat) (entry : HostValue),
    FillsLast table retrieved i j → convert (row.value i) (table.columns.get j).type = some entry →
      out[j.val]? = some entry
  replaced : ∀ (j : Fin table.columns.length) (i : Nat),
    FillsLast table retrieved i j → convert (row.value i) (table.columns.get j).type = none →
      (table.columns.get j).notNull = false ∧ out[j.val]? = some none

lemma isColumnwise_of_hostRow {table : HostTable} {retrieved : List AttrNumber}
    {policy : ConversionPolicy} {fetchRowid : Bool} {shape : RowShape}
    (hshape : RowShape.new table retrieved policy fetchRowid = .ok shape) {row : ResultRow}
    {rowWidth : Nat} {out : HostRow} (hrow : shape.hostRow row rowWidth = .ok out) :
    IsColumnwise table retrieved row out := by
  obtain ⟨ps, hplaces, rfl⟩ := new_eq_ok hshape
  obtain ⟨-, hfill⟩ := hostRow_eq_ok hrow
  have hwellFormed := wellFormed_of_fill hplaces hfill
  have hentry (j : Fin table.columns.length) (i : Nat) (hi : FillsLast table retrieved i j) :
      ∃ entry, out[j.val]? = some entry
        ∧ IsEntry policy (table.columns.get j) (row.value i) entry := by
    obtain ⟨k, entry, hk, hout, hentry⟩ := hwellFormed.filled j i hi.1
    rw [hi.unique hk]
    exact ⟨entry, hout, hentry⟩
  refine ⟨hwellFormed.length, hwellFormed.unfilled, fun j i entry hi hconvert => ?_,
    fun j i hi hconvert => ?_⟩
  · obtain ⟨entry', hout, hentry' | ⟨hnone, -, -, -⟩⟩ := hentry j i hi
    · rw [hout, ← Option.some.inj (hconvert.symm.trans hentry')]
    · rw [hconvert] at hnone
      cases hnone
  · obtain ⟨entry', hout, hentry' | ⟨-, -, hnotNull, rfl⟩⟩ := hentry j i hi
    · rw [hconvert] at hentry'
      cases hentry'
    · exact ⟨hnotNull, hout⟩

/-- A row that the strict policy takes the lenient one takes as the same. -/
lemma hostRow_of_strict {table : HostTable} {retrieved : List AttrNumber} {fetchRowid : Bool}
    {strict lenient : RowShape}
    (hstrict : RowShape.new table retrieved .error fetchRowid = .ok strict)
    (hlenient : RowShape.new table retrieved .nullIfNullable fetchRowid = .ok lenient)
    {row : ResultRow} {rowWidth : Nat} {out : HostRow}
    (hout : strict.hostRow row rowWidth = .ok out) : lenient.hostRow row rowWidth = .ok out := by
  obtain ⟨ps, hplaces, rfl⟩ := new_eq_ok hstrict
  obtain ⟨ps', hplaces', rfl⟩ := new_eq_ok hlenient
  obtain rfl := Except.ok.inj (hplaces.symm.trans hplaces')
  obtain ⟨hwidth, hfill⟩ := hostRow_eq_ok hout
  exact (if_pos hwidth).trans (fill_of_strict hfill _)

/-- The lenient policy takes a row of the width of the shape if every column that is never null can
take its values. -/
lemma exists_lenient_hostRow_iff {table : HostTable} {retrieved : List AttrNumber}
    {fetchRowid : Bool} {lenient : RowShape}
    (hlenient : RowShape.new table retrieved .nullIfNullable fetchRowid = .ok lenient)
    {row : ResultRow} {rowWidth : Nat} :
    (∃ out, lenient.hostRow row rowWidth = .ok out) ↔
      rowWidth = retrieved.length + (if fetchRowid then 1 else 0)
        ∧ ∀ (i : Nat) (j : Fin table.columns.length), Fills table retrieved i j →
          (table.columns.get j).notNull = true →
            ∃ s, convert (row.value i) (table.columns.get j).type = some (some s) := by
  constructor
  · rintro ⟨out, hout⟩
    have hnone (e : Fault) :
        ¬IsRowFault table retrieved .nullIfNullable fetchRowid row rowWidth e := by
      rw [← hostRow_eq_error_iff hlenient, hout]
      simp
    refine ⟨?_, fun i j hfills hnotNull => ?_⟩
    · by_contra hwidth
      exact hnone _ (.width hwidth)
    · by_contra hconvert
      obtain ⟨e, he⟩ := exists_isColumnFault_lenient_iff.2 ⟨hnotNull, hconvert⟩
      obtain ⟨e', he'⟩ := exists_isRowFault hfills he
      exact hnone e' he'
  · rintro ⟨hwidth, htaken⟩
    cases hout : lenient.hostRow row rowWidth with
    | ok out => exact ⟨out, rfl⟩
    | error e =>
      obtain hne | ⟨-, hfills, hfault, -⟩ := (hostRow_eq_error_iff hlenient).1 hout
      · exact absurd hwidth hne
      · obtain ⟨hnotNull, hconvert⟩ := exists_isColumnFault_lenient_iff.1 ⟨e, hfault⟩
        exact absurd (htaken _ _ hfills hnotNull) hconvert

/-- The lenient policy only ever adds nulls, and only where a column may be null. Under either
policy a row fails for its width or for the first column whose value its type or the column does not
take, and never for a fault of the reading. -/
theorem hostRow_under_policies {table : HostTable} {retrieved : List AttrNumber}
    {fetchRowid : Bool} {strict lenient : RowShape}
    (hstrict : RowShape.new table retrieved .error fetchRowid = .ok strict)
    (hlenient : RowShape.new table retrieved .nullIfNullable fetchRowid = .ok lenient)
    (row : ResultRow) (rowWidth : Nat) :
    (∀ out, strict.hostRow row rowWidth = .ok out → lenient.hostRow row rowWidth = .ok out)
      ∧ ((∃ out, lenient.hostRow row rowWidth = .ok out) ↔
          rowWidth = retrieved.length + (if fetchRowid then 1 else 0)
            ∧ ∀ (i : Nat) (j : Fin table.columns.length), Fills table retrieved i j →
              (table.columns.get j).notNull = true →
                ∃ s, convert (row.value i) (table.columns.get j).type = some (some s))
      ∧ (∀ out, lenient.hostRow row rowWidth = .ok out → IsColumnwise table retrieved row out)
      ∧ (∀ e, lenient.hostRow row rowWidth = .error e →
          ∃ e', strict.hostRow row rowWidth = .error e')
      ∧ (∀ e, strict.hostRow row rowWidth = .error e ↔
          IsRowFault table retrieved .error fetchRowid row rowWidth e)
      ∧ (∀ e, lenient.hostRow row rowWidth = .error e ↔
          IsRowFault table retrieved .nullIfNullable fetchRowid row rowWidth e)
      ∧ ∀ (v : StoredValue) (ty : HostType), v.decodeAs ty = .ok (convert v ty) := by
  refine ⟨fun out => hostRow_of_strict hstrict hlenient, exists_lenient_hostRow_iff hlenient,
    fun out => isColumnwise_of_hostRow hlenient, fun e he => ?_,
    fun e => hostRow_eq_error_iff hstrict, fun e => hostRow_eq_error_iff hlenient,
    StoredValue.decodeAs_eq⟩
  obtain ⟨e', he'⟩ := ((hostRow_eq_error_iff hlenient).1 he).exists_strict
  exact ⟨e', (hostRow_eq_error_iff hstrict).2 he'⟩

/-- A price that is no number is a fault under the strict policy and null under the lenient one. -/
theorem hostRow_under_policies_pricedItems :
    RowShape.new pricedItems [3, 1, 3] .error true = .ok { pricedItemsShape with policy := .error }
      ∧ RowShape.new pricedItems [3, 1, 3] .nullIfNullable true = .ok pricedItemsShape
      ∧ { pricedItemsShape with policy := .error }.hostRow
          [.integer 5, .integer 7, .text "dear", .integer 1] 4
        = .error (.invalidConversion (.text "dear") .float8 "price")
      ∧ IsRowFault pricedItems [3, 1, 3] .error true
          [.integer 5, .integer 7, .text "dear", .integer 1] 4
          (.invalidConversion (.text "dear") .float8 "price")
      ∧ IsColumnwise pricedItems [3, 1, 3] [.integer 5, .integer 7, .text "dear", .integer 1]
          [some (.int8 7), none, none] := by
  have hstrict : RowShape.new pricedItems [3, 1, 3] .error true
      = .ok { pricedItemsShape with policy := .error } := rfl
  have hlenient : RowShape.new pricedItems [3, 1, 3] .nullIfNullable true
      = .ok pricedItemsShape := rfl
  have hfails : { pricedItemsShape with policy := .error }.hostRow
      [.integer 5, .integer 7, .text "dear", .integer 1] 4
        = .error (.invalidConversion (.text "dear") .float8 "price") := rfl
  have hrow : pricedItemsShape.hostRow [.integer 5, .integer 7, .text "dear", .integer 1] 4
      = .ok [some (.int8 7), none, none] := rfl
  obtain ⟨-, -, hcolumnwise, -, hfault, -, -⟩ := hostRow_under_policies hstrict hlenient
    [.integer 5, .integer 7, .text "dear", .integer 1] 4
  exact ⟨hstrict, hlenient, hfails, (hfault _).1 hfails, hcolumnwise _ hrow⟩

end RowShape

end ForeignData
