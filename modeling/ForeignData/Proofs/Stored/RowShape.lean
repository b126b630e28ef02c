import ForeignData.Proofs.Stored.Conversion
import ForeignData.Stored.RowShape

/-!
# Host rows are well formed

The places of a row shape are filled one after the other, so a column holds what the last result
column of its attribute converts to, and stays null if there is none. An invariant over the filling
says so for all columns at once; the typing of the conversion says of what type the entries are.
-/

namespace ForeignData

/-- The last place at which a list holds an item. -/
def IsLastAt {α : Type} (l : List α) (i : Nat) (a : α) : Prop :=
  l[i]? = some a ∧ ∀ k, i < k → l[k]? ≠ some a

lemma IsLastAt.succ {α : Type} {l : List α} {i : Nat} {a : α} (h : IsLastAt l i a) (b : α) :
    IsLastAt (b :: l) (i + 1) a := by
  refine ⟨by simpa using h.1, fun k hk => ?_⟩
  obtain ⟨k, rfl⟩ : ∃ m, k = m + 1 := ⟨k - 1, by omega⟩
  simpa using h.2 k (by omega)

lemma isLastAt_zero {α : Type} {l : List α} {a : α} (h : ∀ i : Nat, l[i]? ≠ some a) :
    IsLastAt (a :: l) 0 a := by
  refine ⟨rfl, fun k hk => ?_⟩
  obtain ⟨k, rfl⟩ : ∃ m, k = m + 1 := ⟨k - 1, by omega⟩
  simpa using h k

/-! ### Faults of the reading -/

lemma representedBy_eq (ty : HostType) (s : String) :
    representedBy ty s = .ok ((Scalar.read? ty s).map some) := by
  unfold representedBy Scalar.decode
  cases Scalar.read? ty s with
  | none => rfl
  | some v => rfl

/-- No fault of the reading gets past the conversion. -/
lemma StoredValue.decodeAs_eq (v : StoredValue) (ty : HostType) :
    v.decodeAs ty = .ok (convert v ty) := by
  cases v with
  | null => rfl
  | integer | real =>
    unfold decodeAs convert
    dsimp only
    split
    · rfl
    · split <;> rfl
  | text s =>
    unfold decodeAs convert
    dsimp only
    split
    · rfl
    · split
      · rfl
      · exact representedBy_eq ty s
  | blob b =>
    unfold decodeAs convert
    dsimp only
    split
    · rfl
    · split
      · rfl
      · split
        · rfl
        · cases textOfBytes? b with
          | none => rfl
          | some s => exact representedBy_eq ty s

namespace RowShape

/-! ### Entries -/

/-- A column is converted as its value is, as no fault of the reading gets past that. -/
lemma convertColumn_eq (policy : ConversionPolicy) (column : HostColumn) (v : StoredValue) :
    convertColumn policy column v = match convert v column.type with
      | some none => if column.notNull then .error (.nullViolation column.name) else .ok none
      | some (some s) => .ok (some s)
      | none =>
        if policy = .nullIfNullable ∧ column.notNull = false then .ok none
        else .error (.invalidConversion v column.type column.name) := by
  rw [convertColumn, v.decodeAs_eq]
  rfl

/-- What a column may hold of a stored value: what the value converts to, or null in place of a
value that has no representation in the type of the column, where the policy and the column allow
it. -/
def IsEntry (policy : ConversionPolicy) (column : HostColumn) (v : StoredValue)
    (entry : HostValue) : Prop :=
  convert v column.type = some entry
    ∨ convert v column.type = none ∧ policy = .nullIfNullable ∧ column.notNull = false
      ∧ entry = none

lemma convertColumn_eq_ok {policy : ConversionPolicy} {column : HostColumn} {v : StoredValue}
    {entry : HostValue} (h : convertColumn policy column v = .ok entry) :
    IsEntry policy column v entry ∧ (entry = none → column.notNull = false) := by
  rw [convertColumn_eq] at h
  split at h
  case h_1 hconvert =>
    split at h
    · cases h
    · rename_i hnull
      obtain rfl := Except.ok.inj h
      exact ⟨.inl hconvert, fun _ => by simpa using hnull⟩
  case h_2 s hconvert =>
    obtain rfl := Except.ok.inj h
    exact ⟨.inl hconvert, by simp⟩
  case h_3 hconvert =>
    split at h
    · rename_i hallowed
      obtain rfl := Except.ok.inj h
      exact ⟨.inr ⟨hconvert, hallowed.1, hallowed.2, rfl⟩, fun _ => hallowed.2⟩
    · cases h

lemma IsEntry.isOfType {policy : ConversionPolicy} {column : HostColumn} {v : StoredValue}
    {s : Scalar} (h : IsEntry policy column v (some s)) : s.isOfType column.type = true := by
  obtain hconvert | ⟨-, -, -, hnone⟩ := h
  · exact isOfType_of_convert hconvert
  · cases hnone

lemma IsEntry.eq_none {policy : ConversionPolicy} {column : HostColumn} {v : StoredValue}
    (h : IsEntry policy column v none) :
    v = .null ∨ policy = .nullIfNullable ∧ column.notNull = false
      ∧ convert v column.type = none := by
  obtain hconvert | ⟨hconvert, hpolicy, hnull, -⟩ := h
  · exact .inl (convert_eq_some_none.1 hconvert)
  · exact .inr ⟨hpolicy, hnull, hconvert⟩

/-! ### Places -/

/-- The places of a list of attributes are the place of the first and those of the others. -/
lemma places_cons {table : HostTable} {n : AttrNumber} {ns : List AttrNumber}
    {ps : List (Fin table.columns.length)} (h : places table (n :: ns) = .ok ps) :
    ∃ p qs, table.position? n = some p ∧ places table ns = .ok qs ∧ ps = p :: qs := by
  rw [places] at h
  split at h
  · cases h
  · rename_i p hp
    cases hrest : places table ns with
    | error e =>
      rw [hrest] at h
      cases h
    | ok qs =>
      rw [hrest] at h
      exact ⟨p, qs, hp, rfl, (Except.ok.inj h).symm⟩

lemma length_places {table : HostTable} {ns : List AttrNumber}
    {ps : List (Fin table.columns.length)} (h : places table ns = .ok ps) :
    ps.length = ns.length := by
  induction ns generalizing ps with
  | nil =>
    obtain rfl := Except.ok.inj h
    rfl
  | cons n ns ih =>
    obtain ⟨p, qs, -, hqs, rfl⟩ := places_cons h
    rw [List.length_cons, ih hqs, List.length_cons]

/-- A place is that of the attribute at the same position. -/
lemma getElem?_places {table : HostTable} {ns : List AttrNumber}
    {ps : List (Fin table.columns.length)} (h : places table ns = .ok ps) (i : Nat) :
    ps[i]? = ns[i]?.bind table.position? := by
  induction ns generalizing ps i with
  | nil =>
    obtain rfl := Except.ok.inj h
    rfl
  | cons n ns ih =>
    obtain ⟨p, qs, hp, hqs, rfl⟩ := places_cons h
    cases i with
    | zero => exact hp.symm
    | succ i => exact ih hqs i

/-! ### Filling -/

lemma value_zero (row : ResultRow) : row.headD .null = row.value 0 := by
  cases row <;> rfl

lemma value_tail (row : ResultRow) (i : Nat) :
    ResultRow.value row.tail i = row.value (i + 1) := by
  cases row <;> rfl

lemma fill_cons {columns : List HostColumn} {policy : ConversionPolicy}
    {p : Fin columns.length} {ps : List (Fin columns.length)} {row : ResultRow}
    {out out' : HostRow} (h : fill columns policy (p :: ps) row out = .ok out') :
    ∃ v, convertColumn policy (columns.get p) (row.value 0) = .ok v
      ∧ fill columns policy ps row.tail (out.set p v) = .ok out' := by
  rw [fill, value_zero] at h
  change convertColumn policy (columns.get p) (row.value 0) >>= _ = _ at h
  cases hv : convertColumn policy (columns.get p) (row.value 0) with
  | error e =>
    rw [hv] at h
    cases h
  | ok v =>
    rw [hv] at h
    exact ⟨v, rfl, h⟩

lemma length_fill {columns : List HostColumn} {policy : ConversionPolicy}
    {ps : List (Fin columns.length)} {row : ResultRow} {out out' : HostRow}
    (h : fill columns policy ps row out = .ok out') : out'.length = out.length := by
  induction ps generalizing row out with
  | nil =>
    obtain rfl := Except.ok.inj h
    rfl
  | cons p ps ih =>
    obtain ⟨v, -, hfill⟩ := fill_cons h
    rw [ih hfill, List.length_set]

/-- What the filling leaves in a column: what was there before if no place is the column's, and
otherwise what the last of its places was given. -/
lemma getElem?_fill {columns : List HostColumn} {policy : ConversionPolicy}
    {ps : List (Fin columns.length)} {row : ResultRow} {out out' : HostRow}
    (hlength : out.length = columns.length) (h : fill columns policy ps row out = .ok out')
    (j : Fin columns.length) :
    (∀ i : Nat, ps[i]? ≠ some j) ∧ out'[j.val]? = out[j.val]?
      ∨ ∃ i entry, IsLastAt ps i j ∧ out'[j.val]? = some entry
        ∧ convertColumn policy (columns.get j) (row.value i) = .ok entry := by
  induction ps generalizing row out with
  | nil =>
    obtain rfl := Except.ok.inj h
    exact .inl ⟨by simp, rfl⟩
  | cons p ps ih =>
    obtain ⟨v, hv, hfill⟩ := fill_cons h
    -- a later place of the same column wins over the one that is filled now
    obtain ⟨hnot, hkept⟩ | ⟨i, entry, hlast, hentry, hconvert⟩ := ih (by simpa using hlength) hfill
    · by_cases hp : p = j
      · subst hp
        refine .inr ⟨0, v, isLastAt_zero hnot, ?_, hv⟩
        rw [hkept, List.getElem?_set_self (by omega)]
      · refine .inl ⟨fun i => ?_, ?_⟩
        · cases i with
          | zero => simpa using hp
          | succ i => simpa using hnot i
        · rw [hkept, List.getElem?_set_ne (fun h => hp (Fin.ext h))]
    · refine .inr ⟨i + 1, entry, hlast.succ p, hentry, ?_⟩
      rw [← value_tail]
      exact hconvert

/-! ### Host rows -/

lemma new_eq_ok {table : HostTable} {retrieved : List AttrNumber} {policy : ConversionPolicy}
    {fetchRowid : Bool} {shape : RowShape}
    (h : RowShape.new table retrieved policy fetchRowid = .ok shape) :
    ∃ ps, places table retrieved = .ok ps ∧ shape = ⟨table.columns, ps, policy, fetchRowid⟩ := by
  unfold RowShape.new at h
  cases hplaces : places table retrieved with
  | error e =>
    rw [hplaces] at h
    cases h
  | ok ps =>
    rw [hplaces] at h
    exact ⟨ps, rfl, (Except.ok.inj h).symm⟩

lemma hostRow_eq_ok {shape : RowShape} {row : ResultRow} {rowWidth : Nat} {out : HostRow}
    (h : shape.hostRow row rowWidth = .ok out) :
    rowWidth = shape.width ∧ fill shape.columns shape.policy shape.retrieved row
      (List.replicate shape.columns.length none) = .ok out := by
  rw [hostRow] at h
  split at h
  case isTrue hwidth => exact ⟨hwidth, h⟩
  case isFalse => cases h

/-- A result column whose attribute is that of a column of the table. -/
def Fills (table : HostTable) (retrieved : List AttrNumber) (i : Nat)
    (j : Fin table.columns.length) : Prop :=
  retrieved[i]?.bind table.position? = some j

/-- The last result column whose attribute is that of a column of the table. -/
def FillsLast (table : HostTable) (retrieved : List AttrNumber) (i : Nat)
    (j : Fin table.columns.length) : Prop :=
  Fills table retrieved i j ∧ ∀ k, i < k → ¬Fills table retrieved k j

lemma fills_iff {table : HostTable} {retrieved : List AttrNumber}
    {ps : List (Fin table.columns.length)} (hplaces : places table retrieved = .ok ps) {i : Nat}
    {j : Fin table.columns.length} : Fills table retrieved i j ↔ ps[i]? = some j := by
  rw [Fills, getElem?_places hplaces]

lemma FillsLast.unique {table : HostTable} {retrieved : List AttrNumber} {i k : Nat}
    {j : Fin table.columns.length} (hi : FillsLast table retrieved i j)
    (hk : FillsLast table retrieved k j) : i = k := by
  rcases Nat.lt_trichotomy i k with hlt | heq | hgt
  · exact absurd hk.1 (hi.2 k hlt)
  · exact heq
  · exact absurd hi.1 (hk.2 i hgt)

/-- What a host row holds of the result row that it is made from. -/
structure WellFormed (table : HostTable) (retrieved : List AttrNumber) (policy : ConversionPolicy)
    (row : ResultRow) (out : HostRow) : Prop where
  length : out.length = table.columns.length
  /-- Columns that no result column fills are null. -/
  unfilled : ∀ j : Fin table.columns.length,
    (∀ i, ¬Fills table retrieved i j) → out[j.val]? = some none
  /-- The other columns hold an entry for the last result column that fills them. -/
  filled : ∀ (j : Fin table.columns.length) (i : Nat), Fills table retrieved i j →
    ∃ k entry, FillsLast table retrieved k j ∧ out[j.val]? = some entry
      ∧ IsEntry policy (table.columns.get j) (row.value k) entry
  isOfType : ∀ (j : Fin table.columns.length) (s : Scalar), out[j.val]? = some (some s) →
    s.isOfType (table.columns.get j).type = true
  notNull : ∀ (j : Fin table.columns.length) (i : Nat), Fills table retrieved i j →
    (table.columns.get j).notNull = true → out[j.val]? ≠ some none
  /-- Null stands for null, or for what has no representation where this is allowed. -/
  null : ∀ (j : Fin table.columns.length) (i : Nat), FillsLast table retrieved i j →
    out[j.val]? = some none → row.value i = .null
      ∨ policy = .nullIfNullable ∧ (table.columns.get j).notNull = false
        ∧ convert (row.value i) (table.columns.get j).type = none

/-- The entry of a column of a host row: null if nothing fills the column, otherwise what the last
result column that fills it converts to. -/
lemma getElem?_hostRow {table : HostTable} {ps : List (Fin table.columns.length)}
    {retrieved : List AttrNumber} (hplaces : places table retrieved = .ok ps)
    {policy : ConversionPolicy} {row : ResultRow} {out : HostRow}
    (h : fill table.columns policy ps row (List.replicate table.columns.length none) = .ok out)
    (j : Fin table.columns.length) :
    (∀ i, ¬Fills table retrieved i j) ∧ out[j.val]? = some none
      ∨ ∃ i entry, FillsLast table retrieved i j ∧ out[j.val]? = some entry
        ∧ convertColumn policy (table.columns.get j) (row.value i) = .ok entry := by
  obtain ⟨hnot, hkept⟩ | ⟨i, entry, hlast, hentry, hconvert⟩ :=
    getElem?_fill List.length_replicate h j
  · refine .inl ⟨fun i hi => hnot i ((fills_iff hplaces).1 hi), ?_⟩
    rw [hkept, List.getElem?_replicate_of_lt j.isLt]
  · refine .inr ⟨i, entry, ⟨(fills_iff hplaces).2 hlast.1, fun k hk hfills => ?_⟩, hentry, hconvert⟩
    exact hlast.2 k hk ((fills_iff hplaces).1 hfills)

lemma wellFormed_of_fill {table : HostTable} {ps : List (Fin table.columns.length)}
    {retrieved : List AttrNumber} (hplaces : places table retrieved = .ok ps)
    {policy : ConversionPolicy} {row : ResultRow} {out : HostRow}
    (h : fill table.columns policy ps row (List.replicate table.columns.length none) = .ok out) :
    WellFormed table retrieved policy row out := by
  refine ⟨?_, fun j hj => ?_, fun j i hi => ?_, fun j s hs => ?_, fun j i hi hnot hnone => ?_,
    fun j i hi hnone => ?_⟩
  · rw [length_fill h, List.length_replicate]
  all_goals obtain ⟨hunfilled, hnull⟩ | ⟨k, entry, hlast, hentry, hconvert⟩ :=
    getElem?_hostRow hplaces h j
  -- for each field, the case where nothing fills the column and the case where something does
  · exact hnull
  · exact absurd hlast.1 (hj k)
  · exact absurd hi (hunfilled i)
  · exact ⟨k, entry, hlast, hentry, (convertColumn_eq_ok hconvert).1⟩
  · rw [hnull] at hs
    cases hs
  · rw [hentry] at hs
    obtain rfl := Option.some.inj hs
    exact (convertColumn_eq_ok hconvert).1.isOfType
  · exact absurd hi (hunfilled i)
  · rw [hentry] at hnone
    obtain rfl := Option.some.inj hnone
    rw [(convertColumn_eq_ok hconvert).2 rfl] at hnot
    cases hnot
  · exact absurd hi.1 (hunfilled i)
  · rw [hentry] at hnone
    obtain rfl := Option.some.inj hnone
    rw [hi.unique hlast]
    exact (convertColumn_eq_ok hconvert).1.eq_none

/-- The host rows that a shape makes of result rows are well formed, and are made only of result
rows of its width. No value but null becomes null by conversion. -/
theorem hostRow_wellFormed {table : HostTable} {retrieved : List AttrNumber}
    {policy : ConversionPolicy} {fetchRowid : Bool} {shape : RowShape}
    (hshape : RowShape.new table retrieved policy fetchRowid = .ok shape)
    {row : ResultRow} {rowWidth : Nat} {out : HostRow}
    (hrow : shape.hostRow row rowWidth = .ok out) :
    rowWidth = retrieved.length + (if fetchRowid then 1 else 0)
      ∧ WellFormed table retrieved policy row out
      ∧ ∀ (v : StoredValue) (ty : HostType), convert v ty = some none ↔ v = .null := by
  obtain ⟨ps, hplaces, rfl⟩ := new_eq_ok hshape
  obtain ⟨hwidth, hfill⟩ := hostRow_eq_ok hrow
  refine ⟨?_, wellFormed_of_fill hplaces hfill, fun v ty => convert_eq_some_none⟩
  rw [hwidth, RowShape.width, length_places hplaces]

def pricedItems : HostTable :=
  ⟨16384, "items", [⟨"id", 1, .int8, true⟩, ⟨"name", 2, .text, true⟩, ⟨"price", 3, .float8, false⟩]⟩

/-- Rows that fill the price twice, before and after the identifier. -/
def pricedItemsShape : RowShape :=
  ⟨pricedItems.columns, [⟨2, by decide⟩, ⟨0, by decide⟩, ⟨2, by decide⟩], .nullIfNullable, true⟩

/-- The price that comes last is no number, and so the price is null. -/
theorem hostRow_wellFormed_pricedItems :
    RowShape.new pricedItems [3, 1, 3] .nullIfNullable true = .ok pricedItemsShape
      ∧ pricedItemsShape.hostRow [.integer 5, .integer 7, .text "dear", .integer 1] 4
        = .ok [some (.int8 7), none, none]
      ∧ WellFormed pricedItems [3, 1, 3] .nullIfNullable
          [.integer 5, .integer 7, .text "dear", .integer 1] [some (.int8 7), none, none] := by
  have hshape : RowShape.new pricedItems [3, 1, 3] .nullIfNullable true
      = .ok pricedItemsShape := rfl
  have hrow : pricedItemsShape.hostRow [.integer 5, .integer 7, .text "dear", .integer 1] 4
      = .ok [some (.int8 7), none, none] := rfl
  exact ⟨hshape, hrow, (hostRow_wellFormed hshape hrow).2.1⟩

end RowShape

end ForeignData
