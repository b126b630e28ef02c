import ForeignData.Proofs.Plan.ResultColumns
import ForeignData.Proofs.Scan.Runs
import ForeignData.Proofs.Sqlite.Opening
import ForeignData.Proofs.Sqlite.Tables
import ForeignData.Proofs.Sqlite.Walk

/-!
# The keys of scanned rows

A scan that fetches keys hands out each row of a table with what the name of the rowid stands for in
it. So the key addresses the row that it comes with.
-/

namespace ForeignData

namespace Sqlite

/-! ### Statements on the rows of a table -/

namespace OpenStatement

/-- A statement of a program, which looks at its file when it stands on no row. -/
structure RunsProgram (program : Program) (s : OpenStatement) : Prop where
  program : s.prepared.program = program
  view : s.prepared.currentRow? = none → s.connection.view = none

variable {program : Program} {s s' : OpenStatement} {store : Store}

lemma RunsProgram.rewind (h : RunsProgram program s) : RunsProgram program s.rewind := by
  unfold OpenStatement.rewind
  split
  · exact h
  · exact ⟨h.program, fun _ => rfl⟩
  · exact ⟨h.program, fun _ => rfl⟩
  · exact ⟨h.program, fun _ => rfl⟩

lemma RunsProgram.started (h : RunsProgram program s) : RunsProgram program s.started := by
  unfold OpenStatement.started
  split
  · split
    · exact h
    · exact h.rewind
  · exact h.rewind
  · exact h
  · exact h

lemma RunsProgram.stepQuery (h : RunsProgram program s) (db : Database) :
    RunsProgram program (s.stepQuery db).2 := by
  unfold OpenStatement.stepQuery
  dsimp only
  split
  · refine ⟨h.program, fun hnone => ?_⟩
    cases hnone
  · exact ⟨h.program, fun _ => rfl⟩

/-- Whatever is done with the statement of a query, it remains one. -/
lemma keeps_runsProgram (hquery : program.operation.isChange = false) :
    engine.Keeps (RunsProgram program) := by
  constructor
  · intro call s store h
    change RunsProgram program ((bind call).run (s, store)).2.1
    unfold bind act
    rw [Action.run, ExceptT.run]
    dsimp only
    split
    · exact h
    · split
      · exact ⟨h.program, h.view⟩
      · split
        · exact ⟨h.program, h.view⟩
        · exact ⟨h.program, h.view⟩
  · intro s store h
    exact ⟨h.program, h.view⟩
  · intro s store h
    have hstarted := h.started
    change RunsProgram program (step.run (s, store)).2.1
    rw [run_step]
    dsimp only
    rw [if_neg (by rw [hstarted.program, hquery]; exact Bool.false_ne_true)]
    split
    · exact ⟨hstarted.program, fun _ => rfl⟩
    · exact hstarted.stepQuery _
  · intro s store h
    change RunsProgram program (reset.run (s, store)).2.1
    unfold reset act
    rw [Action.run, ExceptT.run]
    dsimp only
    split
    · exact h.rewind
    · exact h.rewind

/-- A statement that starts over looks at the database that it has looked at before. -/
lemma RunsProgram.database?_started (h : RunsProgram program s) (store : Store) :
    s.started.connection.database? store = s.connection.database? store := by
  have hrewind : s.prepared.currentRow? = none →
      s.rewind.connection.database? store = s.connection.database? store := by
    intro hnone
    have hview := h.view hnone
    unfold OpenStatement.rewind
    split
    · rfl
    all_goals
      unfold Connection.database?
      rw [hview]
      rfl
  unfold OpenStatement.started
  split
  case h_1 hstate =>
    split
    · rfl
    · exact hrewind (by rw [Prepared.currentRow?, hstate])
  case h_2 hstate => exact hrewind (by rw [Prepared.currentRow?, hstate])
  case h_3 => rfl
  case h_4 => rfl

end OpenStatement

lemma firstBehind_eq_some {α : Type} {placeOf : α → List SortCell} {test : α → Bool}
    {last : Option (List SortCell)} {items : List α} {a : α}
    (h : firstBehind placeOf test last items = some a) : a ∈ items ∧ test a = true := by
  have hfound : ∀ best, firstBehind placeOf test last items = best →
      ∀ a, best = some a → a ∈ items ∧ test a = true := by
    rintro _ rfl
    refine List.foldlRecOn
      (motive := fun best : Option α => ∀ a, best = some a → a ∈ items ∧ test a = true)
      items _ nofun ?_
    intro best hbest item hitem a ha
    cases best with
    | none | some b =>
      dsimp only at ha
      split at ha
      · rename_i hpass
        obtain rfl := Option.some.inj ha
        exact ⟨hitem, ((Bool.and_eq_true _ _).mp hpass).2⟩
      · exact hbest a ha
  exact hfound _ rfl a h

namespace OpenStatement

variable {program : Program} {s s' : OpenStatement} {store store' : Store} {q : TableQuery}
  {db : Database} {t : Table}

lemma RunsProgram.step_row (h : RunsProgram program s) (hquery : program.operation = .query q)
    (hfinds : s.connection.Finds store db q.relation t)
    (hstep : step.run (s, store) = (.ok .row, (s', store'))) :
    ∃ r ∈ t.rows, ∃ placeholder, q.admits placeholder t r = true
      ∧ s'.row = (q.cells placeholder t r).map Cell.toStored := by
  have hstarted := h.started
  have hdatabase := (h.database?_started store).trans hfinds.database
  have hnot : ¬(Operation.query q).isChange = true := Bool.false_ne_true
  rw [run_step] at hstep
  dsimp only at hstep
  rw [hstarted.program, hquery, hdatabase, if_neg hnot] at hstep
  split at hstep
  · cases hstep
  · have hrow : s.started.stepQuery db = (.ok .row, s') := by
      cases hresult : s.started.stepQuery db with
      | mk result s'' =>
        rw [Option.getD_some, hresult] at hstep
        cases hstep
        rfl
    unfold OpenStatement.stepQuery at hrow
    dsimp only at hrow
    split at hrow
    case h_2 => cases hrow
    case h_1 next cells place hnext =>
      obtain rfl := (Prod.mk.inj hrow).2
      split at hnext
      · cases hnext
      · rw [hstarted.program, hquery] at hnext
        dsimp only [Operation.next?] at hnext
        rw [TableQuery.next?, Database.lookup?, hfinds.table] at hnext
        obtain ⟨relation, hrelation, hnext⟩ := Option.bind_eq_some_iff.1 hnext
        obtain rfl := Option.some.inj hrelation
        obtain ⟨r, hr, hfound⟩ := Option.bind_eq_some_iff.1 hnext
        obtain ⟨hmem, hpass⟩ := firstBehind_eq_some hr
        cases hfound
        exact ⟨r, hmem, _, hpass, rfl⟩

end OpenStatement

/-! ### Programs of queries -/

lemma resolveItems_values (relation : Option Relation) (xs : List (Expr Mention)) :
    resolveItems relation (xs.map .value) = Expr.resolveAll relation xs := by
  induction xs with
  | nil => rfl
  | cons x xs ih =>
    rw [List.map_cons, resolveItems, ih, Expr.resolveAll, Expr.resolveAll, Expr.resolveAllBy,
      Expr.resolve]

/-- What some expressions and then others are resolved to. -/
lemma Expr.resolveAll_append_eq_ok {relation : Option Relation} {xs ys : List (Expr Mention)}
    {items : List (Expr Ref)} (h : Expr.resolveAll relation (xs ++ ys) = .ok items) :
    ∃ front back, Expr.resolveAll relation xs = .ok front
      ∧ Expr.resolveAll relation ys = .ok back ∧ items = front ++ back := by
  induction xs generalizing items with
  | nil => exact ⟨[], items, rfl, h, rfl⟩
  | cons x xs ih =>
    rw [List.cons_append, Expr.resolveAll, Expr.resolveAllBy] at h
    obtain ⟨item, hitem, h⟩ := Checked.bind_eq_ok h
    obtain ⟨rest, hrest, h⟩ := Checked.bind_eq_ok h
    obtain ⟨front, back, hfront, hback, rfl⟩ := ih hrest
    cases h
    refine ⟨item :: front, back, ?_, hback, rfl⟩
    rw [Expr.resolveAll] at hfront
    rw [Expr.resolveAll, Expr.resolveAllBy, hitem, hfront]
    rfl

/-- A query of values goes through its table, and gives what the values are resolved to. -/
lemma operation_of_compileSelect {db : Database} {name : String} {t : Table}
    (htable : db.table? name = some t) {xs : List (Expr Mention)}
    {condition : Option (Expr Mention)} {compiled : Compiled}
    (h : compileSelect db (xs.map .value) (some name) condition = .ok compiled) :
    ∃ q, compiled.operation = .query q ∧ q.relation = name
      ∧ Expr.resolveAll (some ⟨t, .table, name⟩) xs = .ok q.items := by
  rw [compileSelect, Database.lookup?, htable] at h
  obtain ⟨_, -, h⟩ := Checked.bind_eq_ok h
  obtain ⟨items, hitems, h⟩ := Checked.bind_eq_ok h
  obtain ⟨_, -, h⟩ := Checked.bind_eq_ok h
  obtain ⟨_, -, h⟩ := Checked.bind_eq_ok h
  cases h
  rw [resolveItems_values] at hitems
  exact ⟨_, rfl, rfl, hitems⟩

end Sqlite

open Sqlite

/-! ### Rows that are handed out -/

lemma RowShape.scanRow_eq_ok {shape : RowShape} {rowWidth : Nat} {row : ResultRow} {out : ScanRow}
    (h : shape.scanRow rowWidth row = .ok out) :
    rowWidth = shape.width ∧ shape.rowid row = .ok out.rowid := by
  rw [scanRow] at h
  cases hvalues : shape.hostRow row rowWidth with
  | error fault =>
    rw [hvalues] at h
    cases h
  | ok values =>
    rw [hvalues] at h
    cases hkey : shape.rowid row with
    | error fault =>
      rw [hkey] at h
      cases h
    | ok key =>
      rw [hkey] at h
      cases h
      exact ⟨(hostRow_eq_ok hvalues).1, rfl⟩

namespace ForeignScan

variable {σ κ τ : Type} {e : Engine σ κ τ} {scan : ForeignScan τ} {w : σ}
  {s : ForeignScan τ × σ} {out : ScanRow}

/-- A row that a scan hands out is made from the row that a step of its statement has led to. -/
lemma iterate_run_eq_row (h : (iterate e).run (scan, w) = (.ok (some out), s)) :
    ∃ t t' w', scan.statement? = some t ∧ e.step.run (t, w) = (.ok .row, (t', w'))
      ∧ scan.shape.scanRow (e.width t') (e.row t') = .ok out := by
  cases hrunning : scan.state.running? with
  | none =>
    rw [iterate, Action.run_get_bind] at h
    cases hstate : scan.state with
    | began running | iterating running =>
      rw [hstate] at hrunning
      cases hrunning
    | planned | ended =>
      simp only [hstate] at h
      cases h
  | some running =>
    rw [iterate_run_of_running hrunning] at h
    obtain ⟨state, w', hadvance, -⟩ := moving_run_eq_ok h
    obtain ⟨running', -, hadvances⟩ := advances_of_run hadvance
    cases hadvances with
    | row hstep hrow =>
      refine ⟨running.statement, _, _, ?_, hstep, hrow⟩
      rw [statement?, hrunning, Option.map_some]

lemma exists_opened_of_runs {t : τ} {w₀ : σ} (h : Runs e scan t w₀ s) :
    ∃ w, (scan.opened e).run w = (.ok t, w₀) := by
  induction h with
  | begin _ hopened => exact ⟨_, hopened⟩
  | iterate _ ih => exact ih
  | rescan _ ih => exact ih
  | elsewhere _ ih => exact ih

end ForeignScan

/-- A row of a table is the one that a row of a scan has been made from. -/
def RemoteQuery.Shows (q : RemoteQuery) (shape : RowShape) (t : Table) (r : Row) (out : ScanRow) :
    Prop :=
  ∃ items placeholder, Expr.resolveAll (some ⟨t, .table, q.table⟩) q.columnExprs = .ok items
    ∧ shape.scanRow shape.width
      ((items.map (Expr.eval (.ofRow placeholder t r))).map Cell.toStored) = .ok out

namespace ForeignScan

/-- A scan that fetches keys goes through a table: it has been planned for a query of the table, has
come to be what it is through any calls since its statement was opened, and the table has not been
altered since. -/
structure ReadsKeys (scan : ForeignScan OpenStatement) (q : RemoteQuery) (host : HostTable)
    (source : TableSource) (store : Store) (t : Table) : Prop where
  fetchRowid : q.fetchRowid = true
  table : q.table = source.table
  runs : ∃ planned opened origin, new q.plan host source = .ok planned
    ∧ Runs engine planned opened origin (scan, store)
    ∧ ∃ db before, opened.connection.Finds origin db q.table before ∧ before.SameSchema t
  finds : ∀ s, scan.statement? = some s → ∃ db, s.connection.Finds store db q.table t

variable {q : RemoteQuery} {host : HostTable} {source : TableSource}

lemma shape_of_new {τ : Type} {planned : ForeignScan τ}
    (h : new q.plan host source = .ok planned) :
    planned.plan = q.plan ∧ planned.shape.retrieved.length = q.columns.length
      ∧ planned.shape.fetchRowid = q.fetchRowid := by
  unfold new at h
  cases hshape : q.plan.shape host source.policy with
  | error fault =>
    rw [hshape] at h
    cases h
  | ok shape =>
    rw [hshape] at h
    cases h
    obtain ⟨ps, hps, rfl⟩ := RowShape.new_eq_ok hshape
    refine ⟨rfl, ?_, rfl⟩
    rw [RowShape.length_places hps]
    exact List.length_map _

variable {scan : ForeignScan OpenStatement} {store : Store} {t : Table} {out : ScanRow}
  {w : ForeignScan OpenStatement × Store}

/-- The statement of a scan of keys goes through its table, and gives the columns of its query. -/
lemma ReadsKeys.exists_query (h : scan.ReadsKeys q host source store t) :
    ∃ program query, scan.shape.retrieved.length = q.columns.length
      ∧ scan.shape.fetchRowid = true ∧ program.operation = .query query
      ∧ query.relation = q.table
      ∧ Expr.resolveAll (some ⟨t, .table, q.table⟩) q.columnExprs = .ok query.items
      ∧ ∀ s, scan.statement? = some s → OpenStatement.RunsProgram program s := by
  obtain ⟨planned, opened, origin, hnew, hruns, db, before, hfinds, hsame⟩ := h.runs
  obtain ⟨w, hopen⟩ := exists_opened_of_runs hruns
  obtain ⟨hplan, hlength, hfetch⟩ := shape_of_new hnew
  have hisOpened : opened.IsOpened origin planned.plan.query := isOpened_of_open hopen
  obtain ⟨parsed, hparse, hprogram⟩ := hisOpened.program
  rw [hplan] at hparse
  obtain ⟨condition, placeholders, hparsed⟩ := RemoteQuery.parse_text_eq_ok hparse
  cases hparsed
  obtain ⟨db', hdatabase, hprogram⟩ := hprogram rfl
  rw [hfinds.database] at hdatabase
  cases hdatabase
  obtain ⟨compiled, hcompiled, hprogram⟩ := Checked.bind_eq_ok hprogram
  obtain ⟨query, hoperation, hrelation, hitems⟩ :=
    operation_of_compileSelect hfinds.table hcompiled
  have hexprs : q.resultExprs = q.columnExprs := by
    apply RemoteQuery.resultExprs_of_ne_nil
    rw [RemoteQuery.columnExprs, h.fetchRowid]
    simp
  have hquery : opened.prepared.program.operation = .query query := by
    rw [← Except.ok.inj hprogram]
    exact hoperation
  have hnot : opened.prepared.program.operation.isChange = false := by rw [hquery]; rfl
  have hready : OpenStatement.RunsProgram opened.prepared.program opened :=
    ⟨rfl, fun _ => hisOpened.view⟩
  obtain ⟨hscan, hstatement⟩ :=
    holds_of_runs (OpenStatement.keeps_runsProgram hnot) hready hruns
  have hshape : scan.shape = planned.shape := (congrArg ForeignScan.shape hscan :)
  refine ⟨opened.prepared.program, query, ?_, ?_, hquery, hrelation, ?_, hstatement⟩
  · rw [hshape]
    exact hlength
  · rw [hshape]
    exact hfetch.trans h.fetchRowid
  · rw [hsame.resolveAll_eq, ← hexprs]
    exact hitems

/-- With the key fetched, what the columns of a query stand for in its table ends with the key. -/
lemma exists_items_eq {items : List (Expr Ref)} (hrowid : t.hasRowid = true)
    (hfetch : q.fetchRowid = true)
    (hitems : Expr.resolveAll (some ⟨t, .table, q.table⟩) q.columnExprs = .ok items) :
    ∃ front, items = front ++ [.ref t.keyRef] ∧ front.length = q.columns.length := by
  rw [RemoteQuery.columnExprs, hfetch, if_pos rfl] at hitems
  obtain ⟨front, back, hfront, hback, hsplit⟩ := Expr.resolveAll_append_eq_ok hitems
  have hlast : Expr.resolveAll (some ⟨t, .table, q.table⟩) [.ref (.name none rowidName)]
      = .ok [.ref t.keyRef] := by
    rw [Expr.resolveAll, Expr.resolveAllBy, Expr.resolveAllBy, Expr.resolveBy]
    change (resolveName _ none "rowid" >>= _) = _
    rw [resolveName_rowid hrowid]
    rfl
  rw [hlast] at hback
  obtain rfl := Except.ok.inj hback
  rw [← resolveItems_values] at hfront
  refine ⟨front, hsplit, ?_⟩
  rw [length_resolveItems hfront, List.length_map]

/-- A row that a scan of keys hands out is made from a row of its table, and comes with what the
name of the rowid stands for in that row. -/
lemma ReadsKeys.exists_row (h : scan.ReadsKeys q host source store t) (hrowid : t.hasRowid = true)
    (hiterate : (iterate engine).run (scan, store) = (.ok (some out), w)) :
    ∃ r ∈ t.rows, q.Shows scan.shape t r out
      ∧ ∀ v, out.rowid = some v → t.read r t.keyRef = .integer v := by
  obtain ⟨program, query, hlength, hfetch, hoperation, hrelation, hitems, hprogram⟩ :=
    h.exists_query
  obtain ⟨s, s', w', hs, hstep, hrow⟩ := iterate_run_eq_row hiterate
  obtain ⟨db, hfinds⟩ := h.finds s hs
  rw [← hrelation] at hfinds
  obtain ⟨r, hr, placeholder, -, hcells⟩ := (hprogram s hs).step_row hoperation hfinds hstep
  obtain ⟨hwidth, hkey⟩ := RowShape.scanRow_eq_ok hrow
  have hvalue : engine.row s' = (query.items.map (Expr.eval (.ofRow placeholder t r))).map
      Cell.toStored := hcells
  rw [hwidth, hvalue] at hrow
  refine ⟨r, hr, ⟨query.items, placeholder, hitems, hrow⟩, fun v hv => ?_⟩
  -- the key is the last result column
  obtain ⟨front, hsplit, hfront⟩ := exists_items_eq hrowid h.fetchRowid hitems
  rw [hv, hvalue, hsplit, RowShape.rowid, hfetch, if_pos rfl] at hkey
  have hstored : ResultRow.value (((front ++ [Expr.ref t.keyRef]).map
      (Expr.eval (.ofRow placeholder t r))).map Cell.toStored) scan.shape.retrieved.length
        = (t.read r t.keyRef).toStored := by
    rw [ResultRow.value, List.map_append, List.map_append, List.getElem?_append_right
      (by rw [List.length_map, List.length_map, hfront, hlength])]
    rw [List.length_map, List.length_map, hfront, hlength, Nat.sub_self]
    change ((Expr.ref t.keyRef).eval (.ofRow placeholder t r)).toStored = _
    rw [Expr.eval]
    rfl
  rw [hstored] at hkey
  cases hread : t.read r t.keyRef with
  | integer key =>
    rw [hread] at hkey
    cases hkey
    rfl
  | null | real | text | blob =>
    rw [hread] at hkey
    cases hkey

end ForeignScan

end ForeignData
