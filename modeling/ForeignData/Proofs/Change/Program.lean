import ForeignData.Proofs.Change.Targets
import ForeignData.Proofs.Sqlite.Opening
import ForeignData.Proofs.Sqlite.Replacement
import ForeignData.Proofs.Sqlite.Tables
import ForeignData.Proofs.Stored.Parameter

/-!
# Programs of changes by a key

The statement of an update or a removal is resolved against a table to a program that looks for a
value under the name of the rowid. With the values of a row and a key bound, it alters the rows that
the key addresses.
-/

namespace ForeignData

open Sqlite

/-! ### Values of a row -/

/-- The form in which a value of a type is bound, if there is one. Null is bound as null. -/
def HostType.bound? (ty : HostType) (value : HostValue) : Option BoundValue :=
  value.elim (some .null) (boundValue? ty)

lemma Param.call_eq_ok_iff {p : Param} {v : BoundValue} :
    p.call = .ok ⟨p.index, v⟩ ↔ p.type.bound? p.value = some v := by
  obtain ⟨index, type, value⟩ := p
  cases value with
  | none => simp [call, HostType.bound?]
  | some scalar =>
    rw [call_eq]
    dsimp only [HostType.bound?, Option.elim_some]
    cases boundValue? type scalar with
    | none => simp
    | some bound => simp

/-- What a row has for a column of a foreign table: the name of the column, with the cell that its
value is bound as. -/
def HostTable.given? (table : HostTable) (row : HostRow) (n : AttrNumber) : Option (String × Cell) :=
  (table.column? n).bind fun column => (table.value? row n).bind fun value =>
    (column.type.bound? value).map fun bound => (column.name, .ofBound bound)

/-- There is something to give to columns if and only if all their values can be bound. -/
lemma HostTable.map_given?_eq_iff {table : HostTable} {row : HostRow} {numbers : List AttrNumber}
    {columns : List HostColumn} {values : List HostValue}
    (hfound : numbers.map table.column? = columns.map some)
    (hvalues : numbers.map (table.value? row) = values.map some) {given : List (String × Cell)} :
    numbers.map (table.given? row) = given.map some
      ↔ ∃ bound : List BoundValue,
        List.Forall₂ (fun g v => g.1.type.bound? g.2 = some v) (columns.zip values) bound
          ∧ given = (columns.map HostColumn.name).zip (bound.map Cell.ofBound) := by
  induction numbers generalizing columns values given with
  | nil =>
    obtain rfl := List.map_eq_nil_iff.1 hfound.symm
    rw [List.map_nil, eq_comm, List.map_eq_nil_iff]
    constructor
    · rintro rfl
      exact ⟨[], .nil, rfl⟩
    · rintro ⟨bound, -, rfl⟩
      rfl
  | cons n numbers ih =>
    obtain ⟨column, columns, rfl, hcolumn, hfound⟩ := List.map_eq_cons_iff.1 hfound.symm
    obtain ⟨value, values, rfl, hvalue, hvalues⟩ := List.map_eq_cons_iff.1 hvalues.symm
    have hhead : table.given? row n
        = (column.type.bound? value).map fun bound => (column.name, .ofBound bound) := by
      rw [given?, ← hcolumn, Option.bind_some, ← hvalue, Option.bind_some]
    have hrest := @ih columns values
    rw [List.map_cons, hhead]
    constructor
    · intro h
      obtain ⟨g, given, rfl, hg, htail⟩ := List.map_eq_cons_iff.1 h.symm
      obtain ⟨v, hv, rfl⟩ := Option.map_eq_some_iff.1 hg.symm
      obtain ⟨bound, hbound, rfl⟩ := (hrest hfound.symm hvalues.symm).1 htail.symm
      exact ⟨v :: bound, .cons hv hbound, rfl⟩
    · rintro ⟨bound, hbound, rfl⟩
      cases hbound with
      | cons hv hbound =>
        have htail := (hrest hfound.symm hvalues.symm).2 ⟨_, hbound, rfl⟩
        rw [htail, hv]
        rfl

lemma forall₂_mapIdx_concat {α β γ : Type} {f : Nat → α → β} {R : β → γ → Prop} {S : α → γ → Prop}
    (h : ∀ k a c, R (f k a) c ↔ S a c) {l : List α} {last : β} {l' : List γ} :
    List.Forall₂ R (l.mapIdx f ++ [last]) l'
      ↔ ∃ front c, List.Forall₂ S l front ∧ R last c ∧ l' = front ++ [c] := by
  induction l generalizing f l' with
  | nil =>
    constructor
    · rintro (_ | ⟨hlast, ⟨⟩⟩)
      exact ⟨[], _, .nil, hlast, rfl⟩
    · rintro ⟨front, c, ⟨⟩, hlast, rfl⟩
      exact .cons hlast .nil
  | cons a l ih =>
    have hrest := @ih (fun k => f (k + 1)) (fun k => h (k + 1))
    rw [List.mapIdx_cons, List.cons_append]
    constructor
    · rintro (_ | ⟨ha, htail⟩)
      obtain ⟨front, c, hfront, hlast, rfl⟩ := hrest.1 htail
      exact ⟨_ :: front, c, .cons ((h 0 a _).1 ha) hfront, hlast, rfl⟩
    · rintro ⟨front, c, hfront, hlast, rfl⟩
      cases hfront with
      | cons ha hfront => exact .cons ((h 0 a _).2 ha) (hrest.2 ⟨_, c, hfront, hlast, rfl⟩)

namespace Mutation

variable {m : Mutation}

/-- What is bound for a row that is there: the values that are given to columns, and the key. -/
lemma forall₂_call_params (hrowid : m.needsRowid = true) {given : List (HostColumn × HostValue)}
    {v : Int64} {bound : List BoundValue} :
    List.Forall₂ (fun p b => p.call = .ok ⟨p.index, b⟩) (m.params given v) bound
      ↔ ∃ front, List.Forall₂ (fun g b => g.1.type.bound? g.2 = some b) given front
        ∧ bound = front ++ [.int64 v] := by
  rw [params, if_pos hrowid, forall₂_mapIdx_concat (S := fun g b => g.1.type.bound? g.2 = some b)
    fun k g b => Param.call_eq_ok_iff]
  constructor
  · rintro ⟨front, b, hfront, ⟨⟩, rfl⟩
    exact ⟨front, hfront, rfl⟩
  · rintro ⟨front, hfront, rfl⟩
    exact ⟨front, _, hfront, rfl, rfl⟩

/-! ### Programs -/

/-- A program changes the rows of a table by a key, giving new values to what some names stand
for. -/
structure IsProgram (m : Mutation) (t : Table) (names : List String) (program : Program) :
    Prop where
  placeholders : program.placeholders = names.length + 1
  few : names.length ≤ maxColumns
  delete : m = .delete →
    names = [] ∧ program.operation = .delete t.name (some (t.keyIs 1))
  update : m ≠ .delete → ∃ columns : List (Nat × Expr Ref), columns.map (Prod.map Ref.column id)
      = (t.assignments 0 names).filter (fun set => set.1 != .rowid)
    ∧ program.operation = .update t.name ((t.assignments 0 names).reverse.lookup .rowid) columns
      (some (t.keyIs (names.length + 1)))

/-- A mutation changes some rows of a table and no other row: they are gone, or each has become
another as what some names stand for has been given cells. -/
def Alters (m : Mutation) (t : Table) (given : List (Ref × Cell)) (rows : List Row)
    (t' : Table) : Prop :=
  ∃ new, t.Replaces rows new t' ∧ (m = .delete → new = [])
    ∧ (m ≠ .delete → List.Forall₂ (t.Becomes given) rows new)

namespace IsProgram

variable {t t' : Table} {names : List String} {program : Program} {db db' : Database}
  {values : List (String × Cell)} {placeholder : Nat → Cell} {v : Int64} {count : Nat}

lemma of_sameSchema (h : m.IsProgram t names program) (hsame : t.SameSchema t') :
    m.IsProgram t' names program where
  placeholders := h.placeholders
  few := h.few
  delete := by
    rw [hsame.keyIs_eq, hsame.name]
    exact h.delete
  update := by
    rw [hsame.keyIs_eq, hsame.name, hsame.assignments_eq]
    exact h.update

lemma isChange (h : m.IsProgram t names program) : program.operation.isChange = true := by
  by_cases hdelete : m = .delete
  · rw [(h.delete hdelete).2]
    rfl
  · obtain ⟨columns, -, hoperation⟩ := h.update hdelete
    rw [hoperation]
    rfl

variable (h : m.IsProgram t (values.map Prod.fst) program)
  (hsound : t.Sound) (htable : db.table? t.name = some t)
  (hgives : Table.Gives placeholder values v)

include h hsound htable hgives

lemma change_eq_ok (hchange : program.operation.change db placeholder = .ok (db', count)) :
    count = (t.addressed v).length ∧ ∃ t', db' = db.putTable t'
      ∧ m.Alters t (t.given values) (t.addressed v) t' := by
  by_cases hdelete : m = .delete
  · obtain ⟨hnames, hoperation⟩ := h.delete hdelete
    obtain rfl := List.map_eq_nil_iff.1 hnames
    have htest : (fun r => passes (.ofRow placeholder t r) (some (t.keyIs 1)))
        = t.addresses v := by
      funext r
      exact Table.passes_keyIs hgives.key r
    rw [hoperation, Operation.change, htable] at hchange
    dsimp only at hchange
    rw [htest] at hchange
    cases hchange
    exact ⟨rfl, _, rfl, [], t.replaces_remove _, fun _ => rfl, fun hne => absurd hdelete hne⟩
  · obtain ⟨columns, hcolumns, hoperation⟩ := h.update hdelete
    rw [hoperation, Operation.change, htable] at hchange
    obtain ⟨⟨t', count'⟩, hupdate, hchange⟩ := Checked.bind_eq_ok hchange
    rw [List.length_map] at hupdate
    obtain ⟨hcount, new, hbecomes, hreplaces⟩ :=
      Table.updateRows_eq_ok hsound hgives hcolumns hupdate
    cases hchange
    exact ⟨hcount, t', rfl, new, hreplaces, fun heq => absurd heq hdelete, fun _ => hbecomes⟩

/-- A change that nothing is asked of is made. -/
lemma exists_change (hfree : m ≠ .delete → t.IsFree)
    (hkey : Ref.rowid ∉ (t.given values).map fun g => t.canonicalRef g.1) :
    ∃ outcome, program.operation.change db placeholder = .ok outcome := by
  by_cases hdelete : m = .delete
  · rw [(h.delete hdelete).2, Operation.change, htable]
    exact ⟨_, rfl⟩
  · obtain ⟨columns, hcolumns, hoperation⟩ := h.update hdelete
    obtain ⟨⟨t', count⟩, hupdate⟩ := (hfree hdelete).exists_updateRows hsound hgives hcolumns hkey
      (some (t.keyIs ((values.map Prod.fst).length + 1)))
    rw [hoperation, Operation.change, htable]
    dsimp only
    rw [hupdate]
    exact ⟨_, rfl⟩

end IsProgram

/-- Nothing stands against a mutation for a row: its connection writes, nobody else reads the file,
the values of the row can be bound, and an update is of a table without constraints and gives no row
another key. -/
structure IsFree (m : Mutation) (host : HostTable) (t : Table) (c : Connection) (store : Store)
    (row : HostRow) : Prop where
  writes : c.access ≠ .readOnly
  alone : c.readByOthers store = []
  binds : ∀ n ∈ m.targets, host.given? row n ≠ none
  table : m ≠ .delete → t.IsFree
  keepsKey : ∀ n ∈ m.targets, ∀ column, host.column? n = some column →
    t.canonicalRef (t.refOf column.name) ≠ .rowid

lemma IsFree.rowid_not_mem {host : HostTable} {t : Table} {c : Connection} {store : Store}
    {row : HostRow} (h : m.IsFree host t c store row) {given : List (String × Cell)}
    (hgiven : m.targets.map (host.given? row) = given.map some) :
    Ref.rowid ∉ (t.given given).map fun g => t.canonicalRef g.1 := by
  intro hmem
  obtain ⟨_, hmem, hcanonical⟩ := List.mem_map.1 hmem
  obtain ⟨g, hg, rfl⟩ := List.mem_map.1 hmem
  have hsome : some g ∈ m.targets.map (host.given? row) := by
    rw [hgiven]
    exact List.mem_map_of_mem hg
  obtain ⟨n, hn, hvalue⟩ := List.mem_map.1 hsome
  obtain ⟨column, hcolumn, hvalue⟩ := Option.bind_eq_some_iff.1 hvalue
  obtain ⟨value, -, hvalue⟩ := Option.bind_eq_some_iff.1 hvalue
  obtain ⟨bound, -, rfl⟩ := Option.map_eq_some_iff.1 hvalue
  exact h.keepsKey n hn column hcolumn hcanonical

variable {table : HostTable} {remoteName : String} {plan : ChangePlan} {columns : List HostColumn}
  {s : OpenStatement} {origin : Store} {db : Database} {t : Table}

/-- A statement that has been opened for a change of rows by a key runs that change. -/
lemma isProgram_of_isOpened (h : m.plan table remoteName = .ok plan)
    (hkey : m.needsRowid = true) (hfound : m.targets.map table.column? = columns.map some)
    (hopened : s.IsOpened origin plan.query) (hfinds : s.connection.Finds origin db remoteName t)
    (hrowid : t.hasRowid = true) :
    m.IsProgram t (columns.map HostColumn.name) s.prepared.program := by
  obtain ⟨-, columns', hcolumns, hstatement⟩ := plan_eq_ok h
  rw [HostTable.columnsOf_eq_ok_iff.1 hcolumns] at hfound
  obtain rfl := (Option.some_injective _).list_map hfound
  have hlength : (columns'.map HostColumn.name).length = m.targets.length := by
    rw [List.length_map, length_eq_of_map_eq_map (HostTable.columnsOf_eq_ok_iff.1 hcolumns)]
  obtain ⟨parsed, hparse, hprogram⟩ := hopened.program
  have hfew := length_le_of_parse_statement hstatement hlength hkey hparse
  rw [parse_statement hstatement hfew] at hparse
  cases hparse
  cases m with
  | insert ts => cases hkey
  | update ts =>
    obtain ⟨db', hdatabase, hprogram⟩ := hprogram rfl
    rw [hfinds.database] at hdatabase
    cases hdatabase
    obtain ⟨hplaceholders, columns, hcolumns, hoperation⟩ :=
      program_update_eq_ok hfinds.table hrowid hprogram
    exact ⟨hplaceholders, hfew, nofun, fun _ => ⟨columns, hcolumns, hoperation⟩⟩
  | delete =>
    obtain ⟨db', hdatabase, hprogram⟩ := hprogram rfl
    rw [hfinds.database] at hdatabase
    cases hdatabase
    obtain ⟨program, heq, hoperation, hplaceholders⟩ := program_delete hfinds.table hrowid
    obtain rfl := Except.ok.inj (heq.symm.trans hprogram)
    have hnil : columns'.map HostColumn.name = [] := List.eq_nil_of_length_eq_zero hlength
    rw [hnil] at hfew ⊢
    exact ⟨hplaceholders, Nat.zero_le _, fun _ => ⟨rfl, hoperation⟩, fun hne => absurd rfl hne⟩

end Mutation

end ForeignData
