import ForeignData.Proofs.Sqlite.Changes
import ForeignData.Proofs.Sqlite.Order
import ForeignData.Proofs.Sqlite.Program
import Mathlib.Data.List.Nodup

/-!
# Rows by the name of their key

In a condition the name of the rowid stands for the rowid, unless a column has this name: then it
stands for the column. So a value may address several rows by it, or one that has another key.
-/

namespace ForeignData.Sqlite

/-! ### What names stand for -/

namespace Table

/-- What a name stands for that is one of a column or else the rowid's. -/
def refOf (t : Table) (name : String) : Ref :=
  (t.place? name).elim .rowid .column

/-- What the name of the rowid stands for. -/
def keyRef (t : Table) : Ref :=
  t.refOf "rowid"

def read (t : Table) (r : Row) (ref : Ref) : Cell :=
  (Env.ofRow (fun _ => .null) t r).cell ref

@[simp] lemma read_rowid (t : Table) (r : Row) : t.read r .rowid = .integer r.rowid := rfl

@[simp] lemma read_column (t : Table) (r : Row) (place : Nat) :
    t.read r (.column place) = r.cell place := rfl

/-- The condition that a placeholder has the value of what the name of the rowid stands for. -/
def keyIs (t : Table) (number : Nat) : Expr Ref :=
  .compare .eq (.ref t.keyRef) (.placeholder number)

/-- Whether a value addresses a row by the name of the rowid. -/
def addresses (t : Table) (v : Int64) (r : Row) : Bool :=
  passes (.ofRow (fun _ => .integer v) t r) (some (t.keyIs 1))

/-- The rows that a value addresses by the name of the rowid. -/
def addressed (t : Table) (v : Int64) : List Row :=
  t.rows.filter (t.addresses v)

end Table

/-- Integers are equal as cells if they are the same, whatever the column makes of values. -/
lemma Comparison.apply_eq_integer (a : Affinity) (collation : Collation) (v w : Int64) :
    Comparison.eq.apply a collation (.integer v) (.integer w) = some (v == w) := by
  have hcompared : a.compared (.integer v) (.integer w) = (.integer v, .integer w) := by
    cases a <;> rfl
  have hholds : Comparison.eq.holds (Ord.compare v.toInt w.toInt) = (v == w) := by
    rw [Comparison.holds, Bool.eq_iff_iff, beq_iff_eq, beq_iff_eq, compare_eq_iff_eq,
      Int64.toInt_inj]
  unfold Comparison.apply
  rw [if_neg (by simp), hcompared]
  dsimp only
  rw [Cell.compare_integer, hholds]

namespace Table

variable {t : Table} {r : Row} {v w : Int64}

lemma eval_keyIs (env : Env) (number : Nat) : (t.keyIs number).eval env
    = truthCell (Comparison.eq.apply (env.affinity t.keyRef)
        ((env.collation t.keyRef).getD .binary) (env.cell t.keyRef) (env.placeholder number)) := by
  rw [keyIs, Expr.eval, Expr.eval, Expr.eval, Env.comparedCollation, Env.collationOf,
    Env.collationOf, Option.or_none]
  · rfl
  · simp
  · simp

lemma passes_keyIs {placeholder : Nat → Cell} {number : Nat}
    (h : placeholder number = .integer v) (r : Row) :
    passes (.ofRow placeholder t r) (some (t.keyIs number)) = t.addresses v r := by
  have hvalue : (Env.ofRow placeholder t r).placeholder number = .integer v := h
  unfold addresses passes
  dsimp only
  rw [eval_keyIs, eval_keyIs, hvalue]
  rfl

/-- A row with an integer under the name of the rowid is addressed by just that. -/
lemma addresses_of_read (h : t.read r t.keyRef = .integer w) : t.addresses v r = (w == v) := by
  have hcell : (Env.ofRow (fun _ => .integer v) t r).cell t.keyRef = .integer w := h
  have hvalue : (Env.ofRow (fun _ => .integer v) t r).placeholder 1 = .integer v := rfl
  unfold addresses passes
  dsimp only
  rw [eval_keyIs, hcell, hvalue, Comparison.apply_eq_integer]
  cases w == v <;> rfl

/-! ### Sound tables -/

/-- A table of rowids as it is kept: its rows stand in the order of their rowids, each has a cell
for each column, as the column keeps it, and the column that stands for the rowid has the rowid. -/
structure Sound (t : Table) : Prop where
  hasRowid : t.hasRowid = true
  inOrder : InOrder t.rows
  length_cells : ∀ r ∈ t.rows, r.cells.length = t.columns.length
  store_cell : ∀ r ∈ t.rows, ∀ place column, t.columns[place]? = some column →
    t.rowidColumn? ≠ some place → column.affinity.store (r.cell place) = r.cell place
  rowidColumn_lt : ∀ place, t.rowidColumn? = some place → place < t.columns.length
  cell_rowidColumn : ∀ place, t.rowidColumn? = some place →
    ∀ r ∈ t.rows, r.cell place = .integer r.rowid

/-- The name of the rowid is that of no column, or that of the column that stands for the rowid. -/
def NamesRowid (t : Table) : Prop :=
  ∀ place, t.place? "rowid" = some place → t.rowidColumn? = some place

lemma read_keyRef (h : t.Sound) (hname : t.NamesRowid) (hr : r ∈ t.rows) :
    t.read r t.keyRef = .integer r.rowid := by
  rw [keyRef, refOf]
  cases hplace : t.place? "rowid" with
  | none => rfl
  | some place => exact h.cell_rowidColumn place (hname place hplace) r hr

lemma Sound.nodup_rowids (h : t.Sound) : (t.rows.map Row.rowid).Nodup := by
  refine List.pairwise_map.2 (h.inOrder.imp ?_)
  intro r r' hlt heq
  rw [heq] at hlt
  omega

lemma Sound.eq_of_rowid_eq {r' : Row} (h : t.Sound) (hr : r ∈ t.rows) (hr' : r' ∈ t.rows)
    (heq : r.rowid = r'.rowid) : r = r' :=
  List.inj_on_of_nodup_map h.nodup_rowids hr hr' heq

/-- A value that is the only one of its kind addresses one row. -/
lemma filter_eq_singleton {test : Row → Bool} (h : t.Sound) (hr : r ∈ t.rows)
    (htest : ∀ r' ∈ t.rows, test r' = true ↔ r' = r) : t.rows.filter test = [r] := by
  have hnodup : (t.rows.filter test).Nodup := h.nodup_rowids.of_map.filter test
  have hmem : ∀ r', r' ∈ t.rows.filter test ↔ r' = r := by
    intro r'
    rw [List.mem_filter]
    constructor
    · rintro ⟨hr', hpass⟩
      exact (htest r' hr').1 hpass
    · rintro rfl
      exact ⟨hr, (htest _ hr).2 rfl⟩
  exact List.perm_singleton.1 ((List.perm_ext_iff_of_nodup hnodup (List.nodup_singleton r)).2
    fun r' => (hmem r').trans List.mem_singleton.symm)

lemma mem_addressed (hr : r ∈ t.rows) (hread : t.read r t.keyRef = .integer v) :
    r ∈ t.addressed v :=
  List.mem_filter.2 ⟨hr, by rw [addresses_of_read hread, beq_self_eq_true]⟩

/-- If the name of the rowid has not been taken, the key of a row addresses that row only. -/
lemma addressed_eq (h : t.Sound) (hname : t.NamesRowid) (hr : r ∈ t.rows)
    (hread : t.read r t.keyRef = .integer v) : t.addressed v = [r] := by
  have hkey : r.rowid = v := by
    rw [read_keyRef h hname hr] at hread
    exact Cell.integer.inj hread
  refine filter_eq_singleton h hr fun r' hr' => ?_
  rw [addresses_of_read (read_keyRef h hname hr'), beq_iff_eq, ← hkey]
  exact ⟨fun heq => h.eq_of_rowid_eq hr' hr heq, fun heq => by rw [heq]⟩

end Table

/-! ### Changes of the rows of a key -/

section Programs

variable {db : Database} {name : String} {t : Table}

lemma changedTable_eq (h : db.table? name = some t) :
    changedTable db name = .ok ⟨t, .table, name⟩ := by
  rw [changedTable, Database.lookup?, h]

lemma resolveName_rowid (hrowid : t.hasRowid = true) (name : String) :
    resolveName (some ⟨t, .table, name⟩) none "rowid" = .ok (.ref t.keyRef) := by
  rw [resolveName, Table.keyRef, Table.refOf]
  dsimp only
  cases t.place? "rowid" with
  | none =>
    have hkey : (Relation.hasRowid ⟨t, .table, name⟩ && Table.isRowidName "rowid") = true := by
      rw [Relation.hasRowid, hrowid]
      rfl
    exact if_pos hkey
  | some place => rfl

lemma resolve_rowidIs (hrowid : t.hasRowid = true) (number : Nat) :
    (rowidIs number).resolve (some ⟨t, .table, name⟩) = .ok (t.keyIs number) := by
  have href : (Expr.ref (.name none "rowid")).resolveBy (resolveName (some ⟨t, .table, name⟩))
      = .ok (.ref t.keyRef) := by
    rw [Expr.resolveBy, resolveName_rowid hrowid]
  rw [Expr.resolve, rowidIs, Expr.resolveBy, href]
  rfl

/-- The removal of the rows of a key removes the rows that the key addresses. -/
lemma program_delete (h : db.table? name = some t) (hrowid : t.hasRowid = true) :
    ∃ program, ParsedStatement.program db ⟨.delete name (some (rowidIs 1)), 1⟩ = .ok program
      ∧ program.operation = .delete t.name (some (t.keyIs 1)) ∧ program.placeholders = 1 := by
  have hcompile : ∃ compiled, (Statement.delete name (some (rowidIs 1))).compile db = .ok compiled
      ∧ compiled.operation = .delete t.name (some (t.keyIs 1)) := by
    rw [Statement.compile, compileDelete, changedTable_eq h]
    change ∃ compiled, ((rowidIs 1).resolve _).map some >>= _ = _ ∧ _
    rw [resolve_rowidIs hrowid]
    exact ⟨_, rfl, rfl⟩
  obtain ⟨compiled, hcompiled, hoperation⟩ := hcompile
  refine ⟨⟨compiled.operation, compiled.width, 1, compiled.estimate⟩, ?_, hoperation, rfl⟩
  rw [ParsedStatement.program, hcompiled]
  rfl

/-- The new values of an update with what their names stand for: placeholders in order. -/
def Table.assignments (t : Table) (k : Nat) (names : List String) : List (Ref × Expr Ref) :=
  (names.map t.refOf).zip ((List.range' (k + 1) names.length).map .placeholder)

lemma resolveSets_eq_ok {names : List String} {k : Nat} {sets : List (Ref × Expr Ref)}
    (h : resolveSets ⟨t, .table, name⟩ (names.zip (placeholderValues k names.length)) = .ok sets) :
    sets = t.assignments k names := by
  induction names generalizing k sets with
  | nil =>
    cases h
    rfl
  | cons target names ih =>
    have hsucc : (target :: names).zip (placeholderValues k (target :: names).length)
        = (target, .placeholder (k + 1))
          :: names.zip (placeholderValues (k + 1) names.length) := by
      rw [placeholderValues, List.length_cons, List.range'_succ, List.map_cons, List.zip_cons_cons,
        placeholderValues]
    have hassignments : t.assignments k (target :: names)
        = (t.refOf target, .placeholder (k + 1)) :: t.assignments (k + 1) names := by
      rw [Table.assignments, List.length_cons, List.range'_succ, List.map_cons, List.map_cons,
        List.zip_cons_cons, Table.assignments]
    have hx : (Expr.placeholder (k + 1) : Expr Mention).resolve (some ⟨t, .table, name⟩)
        = .ok (.placeholder (k + 1)) := by
      rw [Expr.resolve, Expr.resolveBy]
    have hrest : ∀ ref, (resolveSets ⟨t, .table, name⟩
        (names.zip (placeholderValues (k + 1) names.length)) >>= fun rest =>
          Except.ok ((ref, Expr.placeholder (k + 1)) :: rest)) = .ok sets →
        sets = (ref, .placeholder (k + 1)) :: t.assignments (k + 1) names := by
      intro ref h
      obtain ⟨rest, hrest, h⟩ := Checked.bind_eq_ok h
      rw [← Except.ok.inj h, ih hrest]
    rw [hsucc, resolveSets, hx] at h
    rw [hassignments, Table.refOf]
    dsimp only [bind, Except.bind] at h
    cases hplace : t.place? target with
    | none =>
      rw [hplace] at h
      dsimp only at h
      split at h
      · exact hrest .rowid h
      · cases h
    | some place =>
      rw [hplace] at h
      exact hrest (.column place) h

/-- The update of the rows of a key gives new values to what its names stand for, in the rows that
the key addresses. -/
lemma program_update_eq_ok (h : db.table? name = some t) (hrowid : t.hasRowid = true)
    {names : List String} {program : Program}
    (hprogram : ParsedStatement.program db ⟨.update name
      (names.zip (placeholderValues 0 names.length)) (some (rowidIs (names.length + 1))),
      names.length + 1⟩ = .ok program) :
    program.placeholders = names.length + 1
      ∧ ∃ columns : List (Nat × Expr Ref), columns.map (Prod.map Ref.column id)
          = (t.assignments 0 names).filter (fun set => set.1 != .rowid)
        ∧ program.operation = .update t.name ((t.assignments 0 names).reverse.lookup .rowid) columns
          (some (t.keyIs (names.length + 1))) := by
  obtain ⟨compiled, hcompiled, hprogram⟩ := Checked.bind_eq_ok hprogram
  rw [Statement.compile, compileUpdate, changedTable_eq h] at hcompiled
  obtain ⟨relation, hrelation, hcompiled⟩ := Checked.bind_eq_ok hcompiled
  cases hrelation
  obtain ⟨sets, hsets, hcompiled⟩ := Checked.bind_eq_ok hcompiled
  obtain ⟨condition, hcondition, hcompiled⟩ := Checked.bind_eq_ok hcompiled
  obtain ⟨-, -, hcompiled⟩ := Checked.bind_eq_ok hcompiled
  obtain rfl := resolveSets_eq_ok hsets
  rw [resolveCondition, resolve_rowidIs hrowid] at hcondition
  cases hcondition
  cases hcompiled
  cases hprogram
  refine ⟨rfl, _, ?_, rfl⟩
  induction t.assignments 0 names with
  | nil => rfl
  | cons set sets ih =>
    obtain ⟨ref, x⟩ := set
    cases ref with
    | rowid => exact ih
    | column place => exact congrArg (List.cons _) ih

end Programs

end ForeignData.Sqlite
