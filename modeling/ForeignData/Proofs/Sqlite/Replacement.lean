import Mathlib.Data.List.Forall2
import Mathlib.Data.List.Perm.Basic
import ForeignData.Proofs.Sqlite.Addressing
import ForeignData.Proofs.Sqlite.Walk

/-!
# Rows that take the place of others

New values for some rows of a table put one row in the place of each. All other rows stay, and what
is given no new value stays in these rows too.
-/

namespace ForeignData.Sqlite

lemma Row.cell_of_length_le {r : Row} {place : Nat} (h : r.cells.length ≤ place) :
    r.cell place = .null := by
  rw [cell, List.getElem?_eq_none h, Option.getD_none]

/-! ### One row in the place of another -/

namespace Table

variable {t t' : Table} {old r : Row} {rowid : Option Cell} {values : List Cell}

lemma insertSorted_perm (t : Table) (r : Row) (rows : List Row) :
    (t.insertSorted r rows).Perm (r :: rows) := by
  induction rows with
  | nil => exact .refl _
  | cons o rows ih =>
    rw [insertSorted]
    split
    · exact .refl _
    · exact (ih.cons o).trans (.swap r o rows)

lemma addRow_eq_ok (hrowid : t.hasRowid = true) {others rows : List Row}
    (h : t.addRow others r = .ok rows) :
    (∀ o ∈ others, o.rowid ≠ r.rowid) ∧ rows = t.insertSorted r others := by
  obtain ⟨_, -, h⟩ := Checked.bind_eq_ok h
  obtain ⟨_, -, h⟩ := Checked.bind_eq_ok h
  obtain ⟨_, hnew, h⟩ := Checked.bind_eq_ok h
  obtain ⟨_, -, h⟩ := Checked.bind_eq_ok h
  refine ⟨fun o ho heq => ?_, (Except.ok.inj h).symm⟩
  have hthere : (t.hasRowid && others.any fun o => o.rowid == r.rowid) = true := by
    rw [hrowid, Bool.true_and]
    exact List.any_eq_true.2 ⟨o, ho, beq_iff_eq.2 heq⟩
  rw [checkRowid, if_pos hthere] at hnew
  cases hnew

/-- The other rows are those of other rowids. -/
lemma filter_keyOrder (hrowid : t.hasRowid = true) :
    (t.rows.filter fun o => SortCell.compareLists (t.keyOrder o) (t.keyOrder old) != .eq)
      = t.rows.filter fun o => o.rowid != old.rowid := by
  refine List.filter_congr fun o _ => ?_
  rw [keyOrder_of_hasRowid hrowid, keyOrder_of_hasRowid hrowid, compareLists_rowidPlace,
    Bool.eq_iff_iff, bne_iff_ne, bne_iff_ne, Ne, Ne, compare_eq_iff_eq, Int64.toInt_inj]

lemma replace_eq_ok (hrowid : t.hasRowid = true) (h : t.replace old rowid values = .ok t') :
    ∃ r, t.replacement old rowid values = .ok r
      ∧ (∀ o ∈ t.rows, o.rowid ≠ old.rowid → o.rowid ≠ r.rowid)
      ∧ t' = { t with rows := t.insertSorted r (t.rows.filter fun o => o.rowid != old.rowid) } := by
  obtain ⟨r, hr, h⟩ := Checked.bind_eq_ok h
  obtain ⟨rows, hrows, h⟩ := Checked.bind_eq_ok h
  rw [filter_keyOrder hrowid] at hrows
  obtain ⟨hnew, rfl⟩ := addRow_eq_ok hrowid hrows
  refine ⟨r, hr, fun o ho hne => ?_, (Except.ok.inj h).symm⟩
  exact hnew o (List.mem_filter.2 ⟨ho, bne_iff_ne.2 hne⟩)

/-! ### Rows one after the other -/

/-- One row stands in the place of each replaced one, and the others have stayed. -/
lemma replaceAll_eq_ok {f : Row → Option Cell × List Cell} {replaced : List Row}
    (hrowid : t.hasRowid = true) (hmem : ∀ r ∈ replaced, r ∈ t.rows)
    (hnodup : (replaced.map Row.rowid).Nodup) (h : t.replaceAll f replaced = .ok t') :
    ∃ new, List.Forall₂ (fun r r' => t.replacement r (f r).1 (f r).2 = .ok r') replaced new
      ∧ t'.rows.Perm
        (new ++ t.rows.filter fun o => decide (o.rowid ∉ replaced.map Row.rowid))
      ∧ t' = { t with rows := t'.rows } := by
  induction replaced generalizing t with
  | nil =>
    cases h
    refine ⟨[], .nil, ?_, rfl⟩
    simp
  | cons r replaced ih =>
    obtain ⟨t₁, hreplace, h⟩ := Checked.bind_eq_ok h
    obtain ⟨r', hr', hnew, ht₁⟩ := replace_eq_ok hrowid hreplace
    obtain ⟨hr, hreplaced⟩ := List.forall_mem_cons.1 hmem
    rw [List.map_cons, List.nodup_cons] at hnodup
    have hne : ∀ o ∈ replaced, o.rowid ≠ r.rowid := fun o ho heq =>
      hnodup.1 (List.mem_map.2 ⟨o, ho, heq⟩)
    have hperm : t₁.rows.Perm (r' :: t.rows.filter fun o => o.rowid != r.rowid) := by
      rw [ht₁]
      exact insertSorted_perm t r' _
    have hkept : ∀ o ∈ replaced, o ∈ t₁.rows := fun o ho =>
      hperm.mem_iff.2 (List.mem_cons_of_mem _
        (List.mem_filter.2 ⟨hreplaced o ho, bne_iff_ne.2 (hne o ho)⟩))
    obtain ⟨new, hforall, hrows, heq⟩ := ih (by rw [ht₁]; exact hrowid) hkept hnodup.2 h
    have hreplacement :
        ∀ o, t₁.replacement o (f o).1 (f o).2 = t.replacement o (f o).1 (f o).2 := by
      intro o
      rw [ht₁]
      rfl
    refine ⟨r' :: new, .cons hr' (hforall.imp fun o o' ho => (hreplacement o).symm.trans ho), ?_,
      by rw [ht₁] at heq; exact heq⟩
    -- the new row is none of those that are still to be replaced
    have hfresh : r'.rowid ∉ replaced.map Row.rowid := by
      intro hin
      obtain ⟨o, ho, heq⟩ := List.mem_map.1 hin
      exact hnew o (hreplaced o ho) (hne o ho) heq
    have hothers : (t.rows.filter fun o => decide (o.rowid ∉ (r :: replaced).map Row.rowid))
        = (t.rows.filter fun o => o.rowid != r.rowid).filter fun o =>
          decide (o.rowid ∉ replaced.map Row.rowid) := by
      rw [List.filter_filter]
      refine List.filter_congr fun o _ => ?_
      rw [Bool.eq_iff_iff]
      simp [and_comm]
    have hfilter := hperm.filter fun o => decide (o.rowid ∉ replaced.map Row.rowid)
    rw [List.filter_cons_of_pos (by exact decide_eq_true hfresh), ← hothers] at hfilter
    exact hrows.trans ((hfilter.append_left new).trans List.perm_middle)

/-! ### New rows -/

def stored (t : Table) (values : List Cell) : List Cell :=
  values.zipWith (fun v (c : Column) => c.affinity.store v) t.columns

/-- The rowid that new values give a row if nothing else does. -/
def ownKey (t : Table) (old : Row) (values : List Cell) : Cell :=
  t.rowidColumn?.elim (.integer old.rowid) fun place => values[place]?.getD .null

lemma rowOf_eq_ok {key : Int64} (h : t.rowOf (pure key) (some key) values = .ok r) :
    r.rowid = key ∧ r.cells = t.rowidColumn?.elim (t.stored values) fun place =>
      (t.stored values).set place (.integer key) := by
  unfold rowOf at h
  dsimp only at h
  cases hcolumn : t.rowidColumn? with
  | none =>
    rw [hcolumn] at h
    cases h
    exact ⟨rfl, rfl⟩
  | some place =>
    rw [hcolumn] at h
    obtain ⟨own, -, h⟩ := Checked.bind_eq_ok h
    cases h
    exact ⟨rfl, rfl⟩

/-- A row that takes the place of another has the rowid and the cells that are given to it. -/
lemma replacement_eq_ok (h : t.replacement old rowid values = .ok r) :
    rowidOf (rowid.getD (t.ownKey old values)) = .ok (some r.rowid)
      ∧ r.cells = t.rowidColumn?.elim (t.stored values) fun place =>
        (t.stored values).set place (.integer r.rowid) := by
  have hkey : ∃ key, rowidOf (rowid.getD (t.ownKey old values)) = .ok (some key)
      ∧ t.rowOf (pure key) (some key) values = .ok r := by
    unfold replacement at h
    rw [ownKey]
    cases hcolumn : t.rowidColumn? with
    | none | some place =>
      rw [hcolumn] at h
      obtain ⟨key, hkey, h⟩ := Checked.bind_eq_ok h
      cases key with
      | none => cases h
      | some key => exact ⟨key, hkey, h⟩
  obtain ⟨key, hkey, hrow⟩ := hkey
  obtain ⟨rfl, hcells⟩ := rowOf_eq_ok hrow
  exact ⟨hkey, hcells⟩

lemma getElem?_stored {place : Nat} {column : Column} {v : Cell}
    (hcolumn : t.columns[place]? = some column) (hvalue : values[place]? = some v) :
    (t.stored values)[place]? = some (column.affinity.store v) := by
  rw [stored, List.getElem?_zipWith, hcolumn, hvalue]

lemma length_cells_replacement (h : t.replacement old rowid values = .ok r)
    (hlength : values.length = t.columns.length) : r.cells.length = t.columns.length := by
  have hstored : (t.stored values).length = t.columns.length := by
    rw [stored, List.length_zipWith, hlength, min_self]
  rw [(replacement_eq_ok h).2]
  cases t.rowidColumn? with
  | none => exact hstored
  | some place => exact List.length_set.trans hstored

/-- A column other than that of the rowid has what it makes of its value. -/
lemma cell_replacement (h : t.replacement old rowid values = .ok r) {place : Nat}
    {column : Column} {v : Cell} (hcolumn : t.columns[place]? = some column)
    (hvalue : values[place]? = some v) (hne : t.rowidColumn? ≠ some place) :
    r.cell place = column.affinity.store v := by
  rw [Row.cell, (replacement_eq_ok h).2]
  cases hkey : t.rowidColumn? with
  | none => rw [Option.elim_none, getElem?_stored hcolumn hvalue, Option.getD_some]
  | some key =>
    have hplace : key ≠ place := fun heq => hne (by rw [hkey, heq])
    rw [Option.elim_some, List.getElem?_set_ne hplace, getElem?_stored hcolumn hvalue,
      Option.getD_some]

lemma cell_rowidColumn_replacement (h : t.replacement old rowid values = .ok r) {place : Nat}
    (hkey : t.rowidColumn? = some place) (hlt : place < t.columns.length)
    (hlength : values.length = t.columns.length) : r.cell place = .integer r.rowid := by
  have hplace : place < (t.stored values).length := by
    rw [stored, List.length_zipWith, hlength, min_self]
    exact hlt
  rw [Row.cell, (replacement_eq_ok h).2, hkey, Option.elim_some, List.getElem?_set_self hplace,
    Option.getD_some]

/-- A row that keeps its rowid can be given new cells. -/
lemma exists_replacement (hown : t.ownKey old values = .integer old.rowid) :
    ∃ r, t.replacement old none values = .ok r ∧ r.rowid = old.rowid := by
  unfold ownKey at hown
  unfold replacement rowOf
  cases hkey : t.rowidColumn? with
  | none => exact ⟨_, rfl, rfl⟩
  | some place =>
    rw [hkey] at hown
    dsimp only [Option.elim_some, Option.getD_none] at hown ⊢
    rw [hown]
    exact ⟨_, rfl, rfl⟩

end Table

/-! ### New values -/

section NewValues

variable {env : Env} {r : Row} {sets : List (Nat × Expr Ref)} {place : Nat}

lemma length_newCells (env : Env) (r : Row) (sets : List (Nat × Expr Ref)) :
    (newCells env r sets).length = r.cells.length := by
  rw [newCells]
  refine List.foldlRecOn (motive := fun cells : List Cell => cells.length = r.cells.length)
    sets _ rfl ?_
  intro cells hcells set _
  rw [← hcells]
  exact List.length_set

/-- What is given last is what a column has; what is given nothing keeps its value. -/
lemma getElem?_newCells (hplace : place < r.cells.length) (sets : List (Nat × Expr Ref)) :
    (newCells env r sets)[place]?
      = ((sets.reverse.lookup place).map (Expr.eval env)).or r.cells[place]? := by
  induction sets using List.reverseRecOn with
  | nil => rfl
  | append_singleton sets set ih =>
    obtain ⟨target, x⟩ := set
    have hset : newCells env r (sets ++ [(target, x)])
        = (newCells env r sets).set target (x.eval env) := by
      rw [newCells, List.foldl_append]
      rfl
    rw [hset, List.reverse_append, List.reverse_singleton, List.singleton_append, List.lookup_cons]
    by_cases heq : target = place
    · rw [heq, List.getElem?_set_self (by rw [length_newCells]; exact hplace)]
      simp
    · have hne : (place == target) = false := beq_eq_false_iff_ne.2 fun h => heq h.symm
      rw [List.getElem?_set_ne heq, ih, hne]

end NewValues

lemma lookup_map_snd {α β γ : Type} [BEq α] (f : β → γ) (key : α) (l : List (α × β)) :
    (l.map (Prod.map id f)).lookup key = (l.lookup key).map f := by
  induction l with
  | nil => rfl
  | cons p l ih =>
    rw [List.map_cons, List.lookup_cons, List.lookup_cons, ih]
    dsimp only [Prod.map, id]
    split <;> rfl

/-- What columns are given is what their names are given. -/
lemma lookup_columns {columns : List (Nat × Expr Ref)} {sets : List (Ref × Expr Ref)}
    (h : columns.map (Prod.map Ref.column id) = sets.filter (fun set => set.1 != .rowid))
    (place : Nat) : columns.reverse.lookup place = sets.reverse.lookup (.column place) := by
  have hcolumns : ∀ l : List (Nat × Expr Ref),
      (l.map (Prod.map Ref.column id)).lookup (.column place) = l.lookup place := by
    intro l
    induction l with
    | nil => rfl
    | cons p l ih =>
      have heq : ((.column place : Ref) == .column p.1) = (place == p.1) := by
        rw [Bool.eq_iff_iff, beq_iff_eq, beq_iff_eq, Ref.column.injEq]
      rw [List.map_cons, List.lookup_cons, List.lookup_cons, ih]
      dsimp only [Prod.map, id]
      rw [heq]
  have hsets : ∀ l : List (Ref × Expr Ref),
      (l.filter fun set => set.1 != .rowid).lookup (.column place)
        = l.lookup (.column place) := by
    intro l
    induction l with
    | nil => rfl
    | cons p l ih =>
      obtain ⟨ref, x⟩ := p
      cases ref with
      | rowid => exact ih
      | column target =>
        rw [List.filter_cons_of_pos (by rfl), List.lookup_cons, List.lookup_cons, ih]
  rw [← hcolumns, List.map_reverse, h, ← List.filter_reverse, hsets]

/-! ### Updated rows -/

namespace Table

variable {t t' : Table} {r r' : Row} {v : Int64} {values : List (String × Cell)}
  {placeholder : Nat → Cell} {columns : List (Nat × Expr Ref)}

/-- What names stand for, each with the cell that it is given. -/
def given (t : Table) (values : List (String × Cell)) : List (Ref × Cell) :=
  values.map (Prod.map t.refOf id)

/-- What some of a row's cells are given makes of its key: the rowid is given by its own name or
else by that of the column that stands for it. -/
def newKey (t : Table) (given : List (Ref × Cell)) (r : Row) : Cell :=
  (given.reverse.lookup .rowid).getD
    (t.rowidColumn?.elim (.integer r.rowid) fun place =>
      (given.reverse.lookup (.column place)).getD (.integer r.rowid))

/-- A row becomes another as some of what it holds is given cells: nothing else changes, and a
column has what it makes of the cell that it is given last. -/
structure Becomes (t : Table) (given : List (Ref × Cell)) (r r' : Row) : Prop where
  key : rowidOf (t.newKey given r) = .ok (some r'.rowid)
  kept : ∀ ref, t.canonicalRef ref ∉ given.map (fun g => t.canonicalRef g.1) →
    t.read r' ref = t.read r ref
  stores : ∀ place column cell, t.columns[place]? = some column →
    t.rowidColumn? ≠ some place → given.reverse.lookup (.column place) = some cell →
    t.read r' (.column place) = column.affinity.store cell
  cell_rowidColumn : ∀ place, t.rowidColumn? = some place →
    t.read r' (.column place) = .integer r'.rowid

lemma lookup_given_of_not_mem {given : List (Ref × Cell)} {ref : Ref}
    (h : t.canonicalRef ref ∉ given.map fun g => t.canonicalRef g.1) :
    given.reverse.lookup ref = none := by
  cases hlookup : given.reverse.lookup ref with
  | none => rfl
  | some cell =>
    obtain ⟨l₁, l₂, hsplit, -⟩ := List.lookup_eq_some_iff.1 hlookup
    have hmem : (ref, cell) ∈ given := by
      rw [← List.mem_reverse, hsplit]
      simp
    exact absurd (List.mem_map.2 ⟨_, hmem, rfl⟩) h

lemma newKey_of_not_mem {given : List (Ref × Cell)}
    (h : Ref.rowid ∉ given.map fun g => t.canonicalRef g.1) (r : Row) :
    t.newKey given r = .integer r.rowid := by
  rw [newKey, lookup_given_of_not_mem (t := t) h, Option.getD_none]
  cases hkey : t.rowidColumn? with
  | none => rfl
  | some place =>
    have hcanonical : t.canonicalRef (.column place) = .rowid := if_pos hkey
    rw [Option.elim_some, lookup_given_of_not_mem (t := t) (by rwa [hcanonical]),
      Option.getD_none]

/-- The cells that placeholders have for an update are those that the names are given. -/
structure Gives (placeholder : Nat → Cell) (values : List (String × Cell)) (v : Int64) : Prop where
  cells : (List.range' 1 values.length).map placeholder = values.map Prod.snd
  key : placeholder (values.length + 1) = .integer v

section Replacements

variable (h : t.Sound) (hr : r ∈ t.rows) (hgives : Gives placeholder values v)
  (hcolumns : columns.map (Prod.map Ref.column id)
    = (t.assignments 0 (values.map Prod.fst)).filter (fun set => set.1 != .rowid))

include hgives in
lemma given_eq (t : Table) (r : Row) : t.given values
    = (t.assignments 0 (values.map Prod.fst)).map
      (Prod.map id (Expr.eval (.ofRow placeholder t r))) := by
  have heval : ∀ n, (Expr.placeholder n : Expr Ref).eval (.ofRow placeholder t r)
      = placeholder n := by
    intro n
    rw [Expr.eval]
    rfl
  have hcells : ((List.range' 1 values.length).map Expr.placeholder).map
      (Expr.eval (.ofRow placeholder t r)) = values.map Prod.snd := by
    rw [List.map_map, ← hgives.cells]
    exact List.map_congr_left fun n _ => heval n
  rw [assignments, ← List.zip_map, List.map_id, List.length_map, Nat.zero_add, hcells,
    List.map_map, List.zip_map']
  rfl

include hgives in
lemma lookup_assignments (t : Table) (r : Row) (ref : Ref) :
    ((t.assignments 0 (values.map Prod.fst)).reverse.lookup ref).map
      (Expr.eval (.ofRow placeholder t r)) = (t.given values).reverse.lookup ref := by
  rw [given_eq hgives t r, ← List.map_reverse, lookup_map_snd]

include h hr in
lemma getElem?_cells {place : Nat} (hlt : place < t.columns.length) :
    r.cells[place]? = some (r.cell place) := by
  rw [← h.length_cells r hr] at hlt
  rw [Row.cell, List.getElem?_eq_getElem hlt, Option.getD_some]

include h hr hgives hcolumns

/-- The new cells of a row: what its columns are given, or else what they have. -/
lemma getElem?_given {place : Nat} (hlt : place < t.columns.length) :
    (newCells (.ofRow placeholder t r) r columns)[place]?
      = some (((t.given values).reverse.lookup (.column place)).getD (r.cell place)) := by
  rw [getElem?_newCells (by rwa [h.length_cells r hr]), lookup_columns hcolumns,
    lookup_assignments hgives, getElem?_cells h hr hlt]
  cases (t.given values).reverse.lookup (.column place) with
  | none | some cell => rfl

lemma newKey_eq : (((t.assignments 0 (values.map Prod.fst)).reverse.lookup .rowid).map
      (Expr.eval (.ofRow placeholder t r))).getD
        (t.ownKey r (newCells (.ofRow placeholder t r) r columns))
    = t.newKey (t.given values) r := by
  rw [lookup_assignments hgives, newKey, ownKey]
  cases hkey : t.rowidColumn? with
  | none => rfl
  | some place =>
    rw [Option.elim_some, Option.elim_some,
      getElem?_given h hr hgives hcolumns (h.rowidColumn_lt place hkey), Option.getD_some,
      h.cell_rowidColumn place hkey r hr]

/-- The row that takes the place of an updated one. -/
lemma becomes_of_replacement
    (hreplacement : t.replacement r
      (((t.assignments 0 (values.map Prod.fst)).reverse.lookup .rowid).map
        (Expr.eval (.ofRow placeholder t r)))
      (newCells (.ofRow placeholder t r) r columns) = .ok r') :
    t.Becomes (t.given values) r r' := by
  have hlength : (newCells (.ofRow placeholder t r) r columns).length = t.columns.length := by
    rw [length_newCells, h.length_cells r hr]
  have hkey := (replacement_eq_ok hreplacement).1
  rw [newKey_eq h hr hgives hcolumns] at hkey
  have hcell : ∀ place, t.rowidColumn? = some place → r'.cell place = .integer r'.rowid :=
    fun place hplace => cell_rowidColumn_replacement hreplacement hplace
      (h.rowidColumn_lt place hplace) hlength
  have hrowid : Ref.rowid ∉ (t.given values).map (fun g => t.canonicalRef g.1) →
      r'.rowid = r.rowid := by
    intro hnot
    rw [newKey_of_not_mem hnot] at hkey
    exact (Option.some.inj (Except.ok.inj hkey)).symm
  refine ⟨hkey, fun ref hnot => ?_, fun place column cell hcolumn hne hlookup => ?_, hcell⟩
  · cases ref with
    | rowid => rw [read_rowid, read_rowid, hrowid hnot]
    | column place =>
      rw [read_column, read_column]
      by_cases hplace : t.rowidColumn? = some place
      · have hcanonical : t.canonicalRef (.column place) = .rowid := if_pos hplace
        rw [hcell place hplace, hrowid (by rwa [hcanonical] at hnot),
          h.cell_rowidColumn place hplace r hr]
      · by_cases hlt : place < t.columns.length
        · have hcolumn := List.getElem?_eq_getElem hlt
          have hvalue := getElem?_given h hr hgives hcolumns hlt
          rw [lookup_given_of_not_mem hnot, Option.getD_none] at hvalue
          rw [cell_replacement hreplacement hcolumn hvalue hplace]
          exact h.store_cell r hr place _ hcolumn hplace
        · rw [Row.cell_of_length_le (by rw [length_cells_replacement hreplacement hlength]; omega),
            Row.cell_of_length_le (by rw [h.length_cells r hr]; omega)]
  · have hvalue := getElem?_given h hr hgives hcolumns (List.getElem?_eq_some_iff.1 hcolumn).1
    rw [hlookup, Option.getD_some] at hvalue
    exact cell_replacement hreplacement hcolumn hvalue hne

end Replacements

/-- Rows of a table give way to new ones, and no other row changes. -/
structure Replaces (t : Table) (old new : List Row) (t' : Table) : Prop where
  same : t' = { t with rows := t'.rows }
  rows : ∃ others, t.rows.Perm (old ++ others) ∧ t'.rows.Perm (new ++ others)

lemma replaces_remove (t : Table) (test : Row → Bool) :
    t.Replaces (t.rows.filter test) [] (t.remove test) where
  same := rfl
  rows := ⟨t.rows.filter fun r => !test r, (List.filter_append_perm test t.rows).symm, .refl _⟩

/-- An update of the rows of a key puts one row in the place of each row that the key addresses. -/
lemma updateRows_eq_ok (h : t.Sound) {count : Nat} (hgives : Gives placeholder values v)
    (hcolumns : columns.map (Prod.map Ref.column id)
      = (t.assignments 0 (values.map Prod.fst)).filter (fun set => set.1 != .rowid))
    (hupdate : updateRows t placeholder
      ((t.assignments 0 (values.map Prod.fst)).reverse.lookup .rowid) columns
      (some (t.keyIs (values.length + 1))) = .ok (t', count)) :
    count = (t.addressed v).length
      ∧ ∃ new, List.Forall₂ (t.Becomes (t.given values)) (t.addressed v) new
        ∧ t.Replaces (t.addressed v) new t' := by
  obtain ⟨t₁, hreplace, hupdate⟩ := Checked.bind_eq_ok hupdate
  cases hupdate
  have htest : (t.rows.filter fun r => passes (.ofRow placeholder t r)
      (some (t.keyIs (values.length + 1)))) = t.addressed v :=
    List.filter_congr fun r _ => passes_keyIs hgives.key r
  rw [htest] at hreplace ⊢
  have hsub : (t.addressed v).Sublist t.rows := List.filter_sublist
  obtain ⟨new, hforall, hrows, heq⟩ := replaceAll_eq_ok h.hasRowid (fun r hr => hsub.mem hr)
    (h.nodup_rowids.sublist (hsub.map Row.rowid)) hreplace
  refine ⟨rfl, new, ?_, heq, t.rows.filter fun r => !t.addresses v r,
    (List.filter_append_perm _ t.rows).symm, ?_⟩
  · refine ((List.forall₂_and_left _ _).2 ⟨fun r hr => hsub.mem hr, hforall⟩).imp ?_
    rintro r r' ⟨hr, hreplacement⟩
    exact becomes_of_replacement h hr hgives hcolumns hreplacement
  · refine hrows.trans (.of_eq (congrArg (new ++ ·) (List.filter_congr fun r hr => ?_)))
    rw [Bool.eq_iff_iff, decide_eq_true_eq, Bool.not_eq_true']
    constructor
    · intro hnot
      by_contra haddressed
      exact hnot (List.mem_map_of_mem (List.mem_filter.2 ⟨hr, by simpa using haddressed⟩))
    · intro hnot hin
      obtain ⟨r', hr', heq⟩ := List.mem_map.1 hin
      obtain ⟨hmem, haddressed⟩ := List.mem_filter.1 hr'
      rw [h.eq_of_rowid_eq hmem hr heq, hnot] at haddressed
      cases haddressed

/-! ### Tables without constraints -/

/-- Nothing is asked of the cells of a table, but for its rowids. -/
structure IsFree (t : Table) : Prop where
  checks : t.checks = []
  notNull : ∀ c ∈ t.columns, c.notNull = false
  unique : ∀ index ∈ t.indexes, index.unique = false

namespace IsFree

variable (h : t.IsFree)

include h

lemma checkNotNull (cells : List Cell) : t.checkNotNull cells = .ok () := by
  have hnone : ((List.range t.columns.length).find? fun p =>
      (t.columns[p]?.map Column.notNull).getD false && cells[p]?.getD .null == .null
        && t.rowidColumn? != some p) = none := by
    refine List.find?_eq_none.2 fun p hp => ?_
    have hcolumn := List.getElem?_eq_getElem (List.mem_range.1 hp)
    have hfalse := h.notNull _ (List.getElem_mem (List.mem_range.1 hp))
    rw [hcolumn, Option.map_some, Option.getD_some, hfalse, Bool.false_and, Bool.false_and]
    exact Bool.false_ne_true
  unfold Table.checkNotNull
  dsimp only
  rw [hnone]

lemma checkIndexes (others : List Row) (r : Row) : t.checkIndexes others r t.indexes = .ok () := by
  have hunique := h.unique
  generalize t.indexes = indexes at hunique
  induction indexes with
  | nil => rfl
  | cons index indexes ih =>
    obtain ⟨hindex, hindexes⟩ := List.forall_mem_cons.1 hunique
    have hfalse : t.checkIndex others r index = .ok () := by
      unfold checkIndex
      dsimp only
      rw [hindex, Bool.false_and, Bool.false_and, if_neg Bool.false_ne_true]
    rw [Table.checkIndexes, hfalse]
    exact ih hindexes

lemma addRow {others : List Row} (hnew : ∀ o ∈ others, o.rowid ≠ r.rowid) :
    t.addRow others r = .ok (t.insertSorted r others) := by
  have hany : (others.any fun o => o.rowid == r.rowid) = false := by
    rw [List.any_eq_false]
    exact fun o ho heq => hnew o ho (beq_iff_eq.1 heq)
  have hrowid : t.checkRowid others r = .ok () := by
    rw [checkRowid, hany, Bool.and_false, if_neg Bool.false_ne_true]
  rw [Table.addRow, h.checkNotNull, h.checks, hrowid, h.checkIndexes]
  rfl

/-- A row takes the place of the one whose rowid it has. -/
lemma exists_replace (hrowid : t.hasRowid = true) {rowid : Option Cell} {values : List Cell}
    (hreplacement : t.replacement r rowid values = .ok r') (hkey : r'.rowid = r.rowid) :
    ∃ rows, t.replace r rowid values = .ok { t with rows } := by
  have hnew : ∀ o ∈ t.rows.filter (fun o => o.rowid != r.rowid), o.rowid ≠ r'.rowid := by
    intro o ho
    rw [hkey]
    exact bne_iff_ne.1 (List.mem_filter.1 ho).2
  refine ⟨t.insertSorted r' (t.rows.filter fun o => o.rowid != r.rowid), ?_⟩
  rw [replace, hreplacement]
  change (t.addRow (t.rows.filter fun o =>
    SortCell.compareLists (t.keyOrder o) (t.keyOrder r) != .eq) r' >>= _) = _
  rw [filter_keyOrder hrowid, h.addRow hnew]
  rfl

lemma exists_replaceAll (hrowid : t.hasRowid = true) {f : Row → Option Cell × List Cell}
    {replaced : List Row} (hreplacement : ∀ r ∈ replaced,
      ∃ r', t.replacement r (f r).1 (f r).2 = .ok r' ∧ r'.rowid = r.rowid) :
    ∃ t', t.replaceAll f replaced = .ok t' := by
  induction replaced generalizing t with
  | nil => exact ⟨t, rfl⟩
  | cons r replaced ih =>
    obtain ⟨⟨r', hr', hkey⟩, hrest⟩ := List.forall_mem_cons.1 hreplacement
    obtain ⟨rows, hreplace⟩ := h.exists_replace hrowid hr' hkey
    obtain ⟨t', ht'⟩ := ih (t := { t with rows }) ⟨h.checks, h.notNull, h.unique⟩ hrowid hrest
    refine ⟨t', ?_⟩
    rw [replaceAll, hreplace]
    exact ht'

lemma exists_updateRows (hsound : t.Sound) (hgives : Gives placeholder values v)
    (hcolumns : columns.map (Prod.map Ref.column id)
      = (t.assignments 0 (values.map Prod.fst)).filter (fun set => set.1 != .rowid))
    (hnot : Ref.rowid ∉ (t.given values).map fun g => t.canonicalRef g.1)
    (condition : Option (Expr Ref)) :
    ∃ outcome, updateRows t placeholder
      ((t.assignments 0 (values.map Prod.fst)).reverse.lookup .rowid) columns condition
        = .ok outcome := by
  have hreplacement : ∀ r ∈ t.rows.filter fun r => passes (.ofRow placeholder t r) condition,
      ∃ r', t.replacement r (((t.assignments 0 (values.map Prod.fst)).reverse.lookup .rowid).map
        (Expr.eval (.ofRow placeholder t r))) (newCells (.ofRow placeholder t r) r columns)
          = .ok r' ∧ r'.rowid = r.rowid := by
    intro r hr
    have hmem := (List.mem_filter.1 hr).1
    have hkey := newKey_eq hsound hmem hgives hcolumns
    rw [lookup_assignments hgives, lookup_given_of_not_mem hnot, Option.getD_none,
      newKey_of_not_mem hnot] at hkey
    rw [lookup_assignments hgives, lookup_given_of_not_mem hnot]
    exact exists_replacement hkey
  obtain ⟨t', ht'⟩ := h.exists_replaceAll hsound.hasRowid (f := fun r =>
    (((t.assignments 0 (values.map Prod.fst)).reverse.lookup .rowid).map
      (Expr.eval (.ofRow placeholder t r)), newCells (.ofRow placeholder t r) r columns))
    hreplacement
  refine ⟨(t', (t.rows.filter fun r => passes (.ofRow placeholder t r) condition).length), ?_⟩
  unfold updateRows
  dsimp only
  rw [ht']
  rfl

end IsFree

end Table

end ForeignData.Sqlite
