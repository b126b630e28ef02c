import ForeignData.Proofs.Action
import ForeignData.Proofs.Sqlite.Order
import ForeignData.Sqlite.Open
import Mathlib.Data.Finset.Card
import Mathlib.Data.Finset.Range

/-!
# Walks through a table

A statement that goes through a table in the order of rowids stands behind the rows that it has
looked at. A step takes it to the first of the other rows that passes the condition, and to its end
if there is none. What is fixed beforehand is given without a look at anything.
-/

namespace ForeignData.Sqlite

/-! ### Queries in the order of rowids -/

lemma Table.keyOrder_of_hasRowid {t : Table} (h : t.hasRowid = true)
    (r : Row) : t.keyOrder r = rowidPlace r.rowid := by
  unfold Table.hasRowid at h
  unfold Table.keyOrder
  split at h
  · rename_i hkey
    rw [hkey]
    rfl
  · cases h

namespace TableQuery

/-- Whether a row passes the condition of a query. -/
def admits (q : TableQuery) (placeholder : Nat → Cell) (t : Table) (r : Row) : Bool :=
  passes (.ofRow placeholder t r) q.condition

def cells (q : TableQuery) (placeholder : Nat → Cell) (t : Table) (r : Row) : List Cell :=
  q.items.map (Expr.eval (.ofRow placeholder t r))

/-- A query goes through the rows of a table in the order of their rowids. -/
structure Walks (q : TableQuery) (db : Database) (t : Table) : Prop where
  table : (db.lookup? q.relation).map Relation.table = some t
  isPlain : q.search.index = none
  hasRowid : t.hasRowid = true
  inOrder : InOrder t.rows

lemma Walks.next?_eq {q : TableQuery} {db : Database} {t : Table} (h : q.Walks db t)
    (placeholder : Nat → Cell) (last : Option (List SortCell)) :
    q.next? db placeholder last
      = (t.rows.find? fun r => isBehind (rowidPlace r.rowid) last && q.admits placeholder t r).map
          fun r => (q.cells placeholder t r, rowidPlace r.rowid) := by
  obtain ⟨relation, hrelation, rfl⟩ := Option.map_eq_some_iff.1 h.table
  have horder : q.search.orderOf relation.table = fun r => rowidPlace r.rowid := by
    funext r
    rw [Search.orderOf, h.isPlain]
    exact Table.keyOrder_of_hasRowid h.hasRowid r
  rw [next?, hrelation]
  change (firstBehind (q.search.orderOf relation.table) (q.admits placeholder relation.table) last
    relation.table.rows >>= fun r => some (q.cells placeholder relation.table r,
      q.search.orderOf relation.table r)) = _
  rw [horder, firstBehind_eq_find? h.inOrder]
  exact Option.map_eq_bind.symm

end TableQuery

/-! ### Statements on their way -/

namespace OpenStatement

lemma run_step (s : OpenStatement) (store : Store) : step.run (s, store)
    = (let s := s.started
      let db := (s.connection.database? store).getD .empty
      if s.prepared.program.operation.isChange then s.stepChange store db
      else if s.prepared.program.operation.readTable?.isSome && s.connection.isShutOut store then
        ((s.fail lockedFile).1, (s.fail lockedFile).2, store)
      else ((s.stepQuery db).1, (s.stepQuery db).2, store)) := rfl

/-- A statement of a query that has looked at all rows of a table but the last ones. -/
structure Walking (s : OpenStatement) (store : Store) (q : TableQuery) (db : Database) (t : Table)
    (placeholder : Nat → Cell) (rest : List Row) : Prop where
  walks : q.Walks db t
  operation : s.prepared.program.operation = .query q
  database : s.connection.database? store = some db
  isShutOut : s.connection.isShutOut store = false
  placeholder : s.prepared.placeholder = placeholder
  state : s.prepared.state = .ready ∧ rest = t.rows ∨
    ∃ seen r cells values, t.rows = seen ++ r :: rest
      ∧ s.prepared.state = .onRow cells (rowidPlace r.rowid) values

variable {s : OpenStatement} {store : Store} {q : TableQuery} {db : Database} {t : Table}
  {placeholder : Nat → Cell} {rest : List Row}

namespace Walking

variable (h : s.Walking store q db t placeholder rest)

include h

lemma started_eq : s.started = s := by
  rcases h.state with ⟨hstate, -⟩ | ⟨_, _, _, _, -, hstate⟩
  · rw [started, hstate]
  · rw [started, hstate]

lemma isSpent_eq : s.prepared.isSpent = false := by
  rw [Prepared.isSpent, h.operation]

lemma rowBound_eq : s.rowBound store = t.rows.length := by
  obtain ⟨relation, hrelation, hrows⟩ := Option.map_eq_some_iff.1 h.walks.table
  rw [rowBound, h.operation, h.database, Option.getD_some, Operation.rowBound, hrelation,
    Option.map_some, Option.getD_some, hrows]

/-- The next row is the first one left that passes. -/
lemma next?_eq : q.next? db s.prepared.placeholder s.prepared.place?
    = (rest.find? (q.admits placeholder t)).map
        fun r => (q.cells placeholder t r, rowidPlace r.rowid) := by
  rw [h.walks.next?_eq, h.placeholder]
  rcases h.state with ⟨hstate, rfl⟩ | ⟨seen, r, _, _, hrows, hstate⟩
  · have hplace : s.prepared.place? = none := by rw [Prepared.place?, hstate]
    rw [hplace]
    rfl
  · have hplace : s.prepared.place? = some (rowidPlace r.rowid) := by
      rw [Prepared.place?, hstate]
    have hinOrder := h.walks.inOrder
    rw [hrows] at hinOrder
    rw [hplace, hrows, find?_isBehind hinOrder]

lemma run_step_eq : step.run (s, store) = ((s.stepQuery db).1, (s.stepQuery db).2, store) := by
  rw [run_step]
  dsimp only
  rw [h.started_eq, h.operation, h.isShutOut, h.database]
  rfl

/-- A step goes to the first row left that passes. -/
lemma step_row {skipped rest' : List Row} {r : Row} (hrest : rest = skipped ++ r :: rest')
    (hskipped : ∀ r' ∈ skipped, ¬q.admits placeholder t r' = true)
    (hr : q.admits placeholder t r = true) :
    ∃ s', step.run (s, store) = (.ok .row, (s', store))
      ∧ s'.Walking store q db t placeholder rest'
      ∧ s'.row = (q.cells placeholder t r).map Cell.toStored := by
  have hfind : rest.find? (q.admits placeholder t) = some r := by
    rw [hrest, List.find?_append, List.find?_eq_none.2 hskipped, Option.none_or,
      List.find?_cons_of_pos hr]
  obtain ⟨seen, hseen⟩ : ∃ seen, t.rows = seen ++ rest := by
    rcases h.state with ⟨-, rfl⟩ | ⟨seen, r, _, _, hrows, -⟩
    · exact ⟨[], rfl⟩
    · exact ⟨seen ++ [r], by rw [hrows, List.append_assoc, List.singleton_append]⟩
  have hnext := h.next?_eq
  rw [hfind, Option.map_some] at hnext
  rw [h.run_step_eq]
  unfold stepQuery
  rw [h.isSpent_eq, h.operation]
  dsimp only [Operation.next?]
  rw [if_neg Bool.false_ne_true, hnext]
  refine ⟨_, rfl, ⟨h.walks, h.operation, rfl, h.isShutOut, h.placeholder, .inr ?_⟩, rfl⟩
  exact ⟨seen ++ skipped, r, _, _, by rw [hseen, hrest, List.append_assoc], rfl⟩

/-- A step ends where no row that is left passes. -/
lemma step_done (hrest : ∀ r ∈ rest, ¬q.admits placeholder t r = true) :
    ∃ s', step.run (s, store) = (.ok .done, (s', store)) := by
  have hnext := h.next?_eq
  rw [List.find?_eq_none.2 hrest, Option.map_none] at hnext
  rw [h.run_step_eq]
  unfold stepQuery
  rw [h.isSpent_eq, h.operation]
  dsimp only [Operation.next?]
  rw [if_neg Bool.false_ne_true, hnext]
  exact ⟨_, rfl⟩

end Walking

/-! ### Rows that are fixed beforehand -/

/-- The numbers of fixed rows that come behind a number. -/
def numbersBehind (count : Nat) (last : Option Int64) : Finset Nat :=
  (Finset.range count).filter fun k =>
    isBehind (rowidPlace (Int64.ofNat k)) (last.map rowidPlace) = true

/-- Fewer of them come behind one of them. -/
lemma card_numbersBehind_lt {count k : Nat} {last : Option Int64}
    (hk : k ∈ numbersBehind count last) :
    (numbersBehind count (some (Int64.ofNat k))).card < (numbersBehind count last).card := by
  obtain ⟨-, hbehind⟩ := Finset.mem_filter.1 hk
  refine Finset.card_lt_card (Finset.ssubset_iff_subset_ne.2 ⟨fun k' hk' => ?_, fun heq => ?_⟩)
  · obtain ⟨hrange, hbehind'⟩ := Finset.mem_filter.1 hk'
    refine Finset.mem_filter.2 ⟨hrange, ?_⟩
    rw [Option.map_some, isBehind_rowidPlace, decide_eq_true_eq] at hbehind'
    cases last with
    | none => rfl
    | some v =>
      rw [Option.map_some, isBehind_rowidPlace, decide_eq_true_eq] at hbehind ⊢
      omega
  · rw [← heq] at hk
    have hself := (Finset.mem_filter.1 hk).2
    rw [Option.map_some, isBehind_rowidPlace, decide_eq_true_eq] at hself
    omega

/-- A statement of fixed rows that has given the row of a number last, if it has given any. -/
structure Giving (s : OpenStatement) (rows : List (List Cell)) (last : Option Int64) : Prop where
  operation : ∃ once, s.prepared.program.operation = .fixed rows once
  place : s.prepared.place? = last.map rowidPlace
  started : s.started = s

/-- A step gives the row of one of the numbers that are left, or comes to the end. It does not fail
and changes nothing. -/
lemma Giving.step_cases {rows : List (List Cell)} {last : Option Int64} (h : s.Giving rows last)
    (store : Store) :
    (∃ s', step.run (s, store) = (.ok .done, (s', store)))
      ∨ ∃ s', ∃ k ∈ numbersBehind rows.length last,
        step.run (s, store) = (.ok .row, (s', store)) ∧ s'.Giving rows (some (Int64.ofNat k)) := by
  obtain ⟨once, hoperation⟩ := h.operation
  rw [run_step]
  dsimp only
  rw [h.started, hoperation]
  change (∃ s', ((s.stepQuery _).1, (s.stepQuery _).2, store) = _)
    ∨ ∃ s', ∃ k ∈ _, ((s.stepQuery _).1, (s.stepQuery _).2, store) = _ ∧ _
  unfold stepQuery
  rw [hoperation, h.place]
  dsimp only [Operation.next?]
  split
  case h_2 => exact .inl ⟨_, rfl⟩
  case h_1 cells place hnext =>
    split at hnext
    · cases hnext
    · obtain ⟨k, hk, hrow⟩ := List.mem_mapIdx.1 (List.mem_of_find?_eq_some hnext)
      have hbehind := List.find?_some hnext
      obtain ⟨-, rfl⟩ := Prod.mk.inj hrow
      exact .inr ⟨_, k, Finset.mem_filter.2 ⟨Finset.mem_range.2 hk, hbehind⟩, rfl,
        ⟨once, hoperation⟩, rfl, rfl⟩

lemma Giving.exists_takeRows {rows : List (List Cell)} {last : Option Int64}
    (h : s.Giving rows last) (store : Store) {n : Nat}
    (hn : (numbersBehind rows.length last).card < n) :
    ∃ taken s', (engine.takeRows n).run (s, store) = (.ok taken, (s', store)) := by
  induction n generalizing s last with
  | zero => exact absurd hn (Nat.not_lt_zero _)
  | succ n ih =>
    obtain ⟨s', hdone⟩ | ⟨s', k, hk, hrow, hgiving⟩ := h.step_cases store
    · exact ⟨[], s', Engine.run_takeRows_of_done (e := engine) hdone n⟩
    · have hfewer := card_numbersBehind_lt hk
      obtain ⟨taken, s'', htaken⟩ := ih hgiving (by omega)
      rw [Engine.run_takeRows_of_row (e := engine) hrow, htaken]
      exact ⟨_, s'', rfl⟩

lemma exists_allRows_of_fixed {rows : List (List Cell)} {once : Bool}
    (h : s.prepared.program.operation = .fixed rows once) (hready : s.prepared.state = .ready)
    (store : Store) :
    ∃ taken s', engine.allRows.run (s, store) = (.ok taken, (s', store)) := by
  have hgiving : s.Giving rows none := by
    refine ⟨⟨once, h⟩, ?_, ?_⟩
    · rw [Prepared.place?, hready]
      rfl
    · rw [started, hready]
  have hbound : engine.rowsLeft (s, store) = rows.length := by
    change s.rowBound store = rows.length
    rw [rowBound, h]
    rfl
  have hcount : (numbersBehind rows.length none).card ≤ rows.length := by
    have hle := Finset.card_filter_le (Finset.range rows.length) fun k =>
      isBehind (rowidPlace (Int64.ofNat k)) (Option.map rowidPlace none) = true
    rwa [Finset.card_range] at hle
  rw [Engine.allRows, Action.run_get_bind, hbound]
  exact hgiving.exists_takeRows store (Nat.lt_succ_of_le hcount)

end OpenStatement

end ForeignData.Sqlite
