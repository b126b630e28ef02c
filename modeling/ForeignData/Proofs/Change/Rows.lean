import ForeignData.Proofs.Change.Program
import ForeignData.Proofs.Change.Steps
import ForeignData.Proofs.Scan.Keys
import ForeignData.Proofs.Sqlite.Execution

/-!
# Rows that are changed by their keys

A change takes the key with which a scan hands out a row, and looks for it under the name of the
rowid again. So it finds that row, and it finds no other one if the name is that of the rowid. If a
column has taken the name it finds all rows that have the same value there.
-/

namespace ForeignData

open Sqlite

/-! ### Changes of the rows of a table -/

namespace ForeignChange

/-- A change of rows by their keys writes to a table: it has been planned for the table, has come to
be what it is through any calls since its statement was opened, holds the statement, and the table
has not been altered since but for its rows. -/
structure WritesRows (change : ForeignChange OpenStatement) (m : Mutation) (host : HostTable)
    (source : TableSource) (store : Store) (s : OpenStatement) (db : Database) (t : Table) :
    Prop where
  needsRowid : m.needsRowid = true
  runs : ∃ plan planned opened origin, m.plan host source.table = .ok plan
    ∧ new plan host source = .ok planned ∧ Runs engine planned opened origin (change, store)
    ∧ ∃ db before, opened.connection.Finds origin db source.table before ∧ before.SameSchema t
  statement : change.statement? = some s
  finds : s.connection.Finds store db source.table t

variable {change : ForeignChange OpenStatement} {m : Mutation} {host : HostTable}
  {source : TableSource} {store : Store} {s : OpenStatement} {db : Database} {t : Table}

/-- The statement of a change of rows by their keys stands at its beginning and runs that change. -/
lemma WritesRows.exists_planned (h : change.WritesRows m host source store s db t)
    (hrowid : t.hasRowid = true) :
    ∃ (plan : ChangePlan) (planned : ForeignChange OpenStatement) (columns : List HostColumn),
      m.plan host source.table = .ok plan
      ∧ new plan host source = .ok planned ∧ plan.Serves host columns
      ∧ change = { planned with state := .began s } ∧ s.Rests
      ∧ m.IsProgram t (columns.map HostColumn.name) s.prepared.program := by
  obtain ⟨plan, planned, opened, origin, hplan, hnew, hruns, db₀, before, hfinds, hsame⟩ := h.runs
  obtain ⟨w, hopen⟩ := exists_opened_of_runs hruns
  obtain ⟨columns, hserves⟩ := Mutation.exists_serves hplan
  have hisOpened : opened.IsOpened origin planned.plan.query := isOpened_of_open hopen
  have hplanned : planned.plan = plan := by
    obtain ⟨targets, -, rfl⟩ := new_eq_ok hnew
    rfl
  rw [hplanned] at hisOpened
  have hfound := hserves.found
  rw [(Mutation.plan_eq_ok hplan).1] at hfound
  have hprogram := Mutation.isProgram_of_isOpened hplan h.needsRowid hfound hisOpened hfinds
    (hsame.hasRowid_eq.symm.trans hrowid)
  have hrests : opened.Rests :=
    ⟨hprogram.isChange, hisOpened.state, hisOpened.view, hisOpened.length_bindings⟩
  have hkeeps : RunsKeep engine fun s => opened.Keeps s ∧ s.Rests := by
    rintro params s store count s' store' ⟨hkeeps, hrests⟩ hrun
    obtain ⟨hkeeps', hrests'⟩ := hrests.keeps_of_runOnce hrun
    exact ⟨hkeeps.trans hkeeps', hrests'⟩
  obtain ⟨hchange, hstatement⟩ := holds_of_runs hkeeps ⟨.refl opened, hrests⟩ hruns
  obtain ⟨hkept, hrests'⟩ := hstatement s h.statement
  have hstate : change.state = .began s := by
    have hstatement := h.statement
    unfold statement? at hstatement
    split at hstatement
    · rename_i s' hstate
      rw [hstate, Option.some.inj hstatement]
    all_goals cases hstatement
  refine ⟨plan, planned, columns, hplan, hnew, hserves, ?_, hrests', ?_⟩
  · rw [← hstate]
    exact hchange
  · rw [hkept.program]
    exact hprogram.of_sameSchema hsame

/-- A statement whose placeholders have been bound gives these values to names and to the key. -/
lemma gives_withBindings (hready : s.prepared.state = .ready) {names : List String}
    {front : List BoundValue} (hlength : names.length = front.length) (v : Int64) :
    Table.Gives
      (s.withBindings ((front ++ [BoundValue.int64 v]).map Cell.ofBound)).prepared.placeholder
      (names.zip (front.map Cell.ofBound)) v := by
  have hcells : (names.zip (front.map Cell.ofBound)).map Prod.snd = front.map Cell.ofBound :=
    List.map_snd_zip (by rw [List.length_map, hlength])
  have hcount : (names.zip (front.map Cell.ofBound)).length = (front.map Cell.ofBound).length := by
    rw [List.length_zip, List.length_map, hlength, min_self]
  rw [List.map_append]
  constructor
  · rw [hcells, hcount]
    exact OpenStatement.map_placeholder_withBindings hready _ _
  · rw [hcount]
    exact OpenStatement.placeholder_withBindings hready _ [] _

/-- The parameters of an operation by a key: what a row has for the columns of the statement, and
the key. -/
structure BindsKey (m : Mutation) (host : HostTable) (t : Table) (s : OpenStatement)
    (row : HostRow) (v : Int64) (params : List Param) : Prop where
  index : params.map Param.index = List.range' 1 s.prepared.program.placeholders
  few : params.length ≤ OpenStatement.maxIndex
  gives : ∀ {bound : List BoundValue},
    List.Forall₂ (fun p b => p.call = .ok ⟨p.index, b⟩) params bound →
    ∃ given : List (String × Cell), m.targets.map (host.given? row) = given.map some
      ∧ m.IsProgram t (given.map Prod.fst) s.prepared.program
      ∧ Table.Gives (s.withBindings (bound.map Cell.ofBound)).prepared.placeholder given v
  bound : (∀ n ∈ m.targets, host.given? row n ≠ none) →
    ∃ bound, List.Forall₂ (fun p b => p.call = .ok ⟨p.index, b⟩) params bound

lemma bindsKey_params (hkey : m.needsRowid = true) {columns : List HostColumn}
    (hfound : m.targets.map host.column? = columns.map some) {row : HostRow}
    {values : List HostValue} (hvalues : m.targets.map (host.value? row) = values.map some)
    (hready : s.prepared.state = .ready)
    (hprogram : m.IsProgram t (columns.map HostColumn.name) s.prepared.program) (v : Int64) :
    BindsKey m host t s row v (m.params (columns.zip values) v) := by
  have hcolumns := length_eq_of_map_eq_map hfound
  have hvalued := length_eq_of_map_eq_map hvalues
  have hlength : (columns.zip values).length = columns.length := by
    rw [List.length_zip, ← hcolumns, ← hvalued, min_self]
  have hindex : (m.params (columns.zip values) v).map Param.index
      = List.range' 1 s.prepared.program.placeholders := by
    rw [Mutation.index_params, if_pos hkey, hprogram.placeholders, List.length_map, hlength]
  refine ⟨hindex, ?_, fun hbound => ?_, fun hgiven => ?_⟩
  · have hfew := hprogram.few
    have hlimits : maxColumns + 1 ≤ OpenStatement.maxIndex := by decide
    rw [← List.length_map Param.index, hindex, List.length_range', hprogram.placeholders]
    omega
  · obtain ⟨front, hfront, rfl⟩ := (Mutation.forall₂_call_params hkey).1 hbound
    have hcount : (columns.map HostColumn.name).length = front.length := by
      rw [List.length_map, ← hfront.length_eq, hlength]
    have hnames : ((columns.map HostColumn.name).zip (front.map Cell.ofBound)).map Prod.fst
        = columns.map HostColumn.name :=
      List.map_fst_zip (by rw [hcount, List.length_map])
    refine ⟨_, (HostTable.map_given?_eq_iff hfound hvalues).2 ⟨front, hfront, rfl⟩, ?_,
      gives_withBindings hready hcount v⟩
    rw [hnames]
    exact hprogram
  · obtain ⟨given, hgiven⟩ := exists_map_some_iff.2 hgiven
    obtain ⟨front, hfront, -⟩ := (HostTable.map_given?_eq_iff hfound hvalues).1 hgiven
    exact ⟨_, (Mutation.forall₂_call_params hkey).2 ⟨front, hfront, rfl⟩⟩

/-- An operation by a key runs the statement for a row that is long enough, and does nothing for
another. -/
lemma WritesRows.exists_params (h : change.WritesRows m host source store s db t)
    (hrowid : t.hasRowid = true) (v : Int64) (row : HostRow) :
    (∃ fault, (m.operation engine v row).run (change, store) = (.error fault, (change, store))
        ∧ ¬∀ n ∈ m.targets, host.given? row n ≠ none)
      ∨ ∃ params, BindsKey m host t s row v params
        ∧ (m.operation engine v row).run (change, store)
          = (executeRow engine params row).run (change, store) := by
  obtain ⟨plan, planned, columns, hplan, hnew, hserves, hchange, hrests, hprogram⟩ :=
    h.exists_planned hrowid
  have hmutation := (Mutation.plan_eq_ok hplan).1
  have hfound := hserves.found
  rw [hmutation] at hfound
  by_cases hrow : ∀ n ∈ m.targets, ∀ i, host.position? n = some i → i.val < row.length
  · obtain ⟨planned', hnew', hruns⟩ := hserves.runs (τ := OpenStatement) source
    rw [hnew] at hnew'
    obtain rfl := Except.ok.inj hnew'
    rw [hmutation] at hruns
    obtain ⟨values, hvalues, -, hrun⟩ := hruns row hrow
    refine .inr ⟨_, bindsKey_params h.needsRowid hfound hvalues hrests.state hprogram v, ?_⟩
    rw [hchange]
    exact hrun engine v _ store
  · obtain ⟨targets, htargets, rfl⟩ := new_eq_ok hnew
    rw [hmutation] at htargets
    obtain ⟨fault, hfault⟩ := targetParams_of_short htargets hrow 1
    have hdelete : m ≠ .delete := by
      rintro rfl
      exact hrow fun n hn => absurd hn List.not_mem_nil
    refine .inl ⟨fault, ?_, fun hgiven => hrow fun n hn i hposition => ?_⟩
    · refine Mutation.operation_run_of_error engine change ?_ ?_ hdelete v store
      · rw [hchange]
        exact hmutation
      · rw [hchange]
        exact hfault
    · by_contra hlong
      refine hgiven n hn ?_
      have hvalue : host.value? row n = none := by
        rw [HostTable.value?, hposition]
        exact List.getElem?_eq_none (Nat.le_of_not_lt hlong)
      rw [HostTable.given?, hvalue]
      cases host.column? n <;> rfl

/-- How an operation by a key ends: it fails and leaves the files alone, or it alters some rows of
the table and no others, puts the table into the file, and the change goes on with it. -/
def Ends (change : ForeignChange OpenStatement) (m : Mutation) (host : HostTable)
    (source : TableSource) (store : Store) (s : OpenStatement) (db : Database) (t : Table)
    (row : HostRow) (rows : List Row)
    (ending : Except Fault (Option HostRow) × ForeignChange OpenStatement × Store) : Prop :=
  (∃ fault change', ending = (.error fault, (change', store)))
    ∨ ∃ (given : List (String × Cell)) (t' : Table) (s' : OpenStatement),
      m.targets.map (host.given? row) = given.map some
        ∧ m.Alters t (t.given given) rows t'
        ∧ ending = (.ok (if 0 < rows.length then some row else none),
          ({ change with state := .began s' }, s.connection.store store (db.putTable t')))
        ∧ { change with state := .began s' }.WritesRows m host source
          (s.connection.store store (db.putTable t')) s' (db.putTable t') t'

lemma WritesRows.ends_operation (h : change.WritesRows m host source store s db t)
    (hsound : t.Sound) (v : Int64) (row : HostRow) :
    Ends change m host source store s db t row (t.addressed v)
      ((m.operation engine v row).run (change, store)) := by
  obtain ⟨plan, planned, -, -, -, -, hchange, hrests, -⟩ := h.exists_planned hsound.hasRowid
  have hstate : change.state = .began s := by rw [hchange]
  rcases h.exists_params hsound.hasRowid v row with ⟨fault, hfault, -⟩ | ⟨params, hparams, hrun⟩
  · exact .inl ⟨fault, change, hfault⟩
  rw [hrun]
  rcases OpenStatement.runOnce_cases hrests hparams.index store with
    ⟨fault, s', hfault⟩ | ⟨-, bound, ⟨db', count⟩, hcalls, hmade⟩
  · exact .inl ⟨fault, _, executeRow_run_of_error hstate hfault row⟩
  obtain ⟨s', honce⟩ :=
    OpenStatement.runOnce_run_of_ok hrests hcalls hparams.index hparams.few hmade
  obtain ⟨hkeeps, hrests'⟩ := hrests.keeps_of_runOnce honce
  obtain ⟨given, hgiven, hprogram, hgives⟩ := hparams.gives hcalls
  rw [h.finds.database, Option.getD_some] at hmade
  obtain ⟨rfl, t', rfl, halters⟩ := hprogram.change_eq_ok hsound
    (Database.table?_name h.finds.table) hgives (OpenStatement.change_eq_ok hmade)
  have hdone := executeRow_run_of_ok hstate honce row
  have hsame : t.SameSchema t' := by
    obtain ⟨new, hreplaces, -⟩ := halters
    rw [hreplaces.same]
    exact ⟨rfl, rfl, rfl⟩
  refine .inr ⟨given, t', s', hgiven, halters, hdone, h.needsRowid, ?_, rfl, ?_⟩
  · obtain ⟨plan, planned, opened, origin, hplan, hnew, hruns, db₀, before, hbefore, hschema⟩ :=
      h.runs
    have hnext := hruns.operate m v row
    rw [hrun, hdone] at hnext
    exact ⟨plan, planned, opened, origin, hplan, hnew, hnext, db₀, before, hbefore,
      hschema.trans hsame⟩
  · obtain ⟨hdatabase, htable⟩ := h.finds.putTable hrests.view hsame.name
    refine ⟨?_, htable⟩
    rw [OpenStatement.database?_eq_of_keeps hkeeps hrests.view hrests'.view]
    exact hdatabase

/-- A change that nothing stands against is made. -/
lemma WritesRows.exists_operation_run (h : change.WritesRows m host source store s db t)
    (hsound : t.Sound) {row : HostRow} (hfree : m.IsFree host t s.connection store row)
    (v : Int64) : ∃ given w, (m.operation engine v row).run (change, store) = (.ok given, w) := by
  obtain ⟨plan, planned, -, -, -, -, hchange, hrests, -⟩ := h.exists_planned hsound.hasRowid
  have hstate : change.state = .began s := by rw [hchange]
  rcases h.exists_params hsound.hasRowid v row with ⟨fault, -, hnone⟩ | ⟨params, hparams, hrun⟩
  · exact absurd hfree.binds hnone
  obtain ⟨bound, hcalls⟩ := hparams.bound hfree.binds
  obtain ⟨given, hgiven, hprogram, hgives⟩ := hparams.gives hcalls
  obtain ⟨outcome, hmade⟩ := hprogram.exists_change hsound (Database.table?_name h.finds.table)
    hgives hfree.table (hfree.rowid_not_mem hgiven)
  have hstep : (s.withBindings (bound.map Cell.ofBound)).change store
      ((s.connection.database? store).getD .empty) = .ok outcome := by
    rw [h.finds.database, Option.getD_some]
    refine (OpenStatement.change_eq_of_writes ?_ ?_ db).trans hmade
    · exact hfree.writes
    · exact hfree.alone
  obtain ⟨s', honce⟩ :=
    OpenStatement.runOnce_run_of_ok hrests hcalls hparams.index hparams.few hstep
  rw [hrun, executeRow_run_of_ok hstate honce row]
  exact ⟨_, _, rfl⟩

lemma exists_writesRows_delete {c : Connection} {store' : Store} (host : HostTable)
    (hrowid : t.hasRowid = true)
    (hconnect : (connect .readWrite source.database).run store = (.ok c, store'))
    (hfinds : c.Finds store' db source.table t) (hfree : c.isShutOut store' = false)
    {plan : ChangePlan} (hplan : Mutation.delete.plan host source.table = .ok plan)
    (hnul : plan.query.toList.any FileTree.isNul = false) :
    ∃ (change : ForeignChange OpenStatement) (s : OpenStatement),
      change.WritesRows .delete host source store' s db t ∧ s.connection.place = c.place
        ∧ s.connection.access = c.access := by
  obtain ⟨hmutation, columns, hcolumns, hstatement⟩ := Mutation.plan_eq_ok hplan
  obtain rfl := Except.ok.inj hcolumns
  have hstatement : Mutation.delete.statement source.table (([] : List String).map quoteRemoteName)
      = .ok plan.query := hstatement
  have hparse := Mutation.parse_statement hstatement (Nat.zero_le _)
  obtain ⟨program, hprogram, -, -⟩ := program_delete hfinds.table hrowid
  have hprepare := prepare_eq_of_parse hfinds.database hfree hnul hparse rfl hprogram
  generalize hs : OpenStatement.mk _ _ = s at hprepare
  have hconnection : s.connection = { c with status := .ok, reason := none } := by rw [← hs]
  have hopened : (opened engine ⟨plan, source, [], .planned⟩).run store = (.ok s, store') := by
    have hconnected : (engine.connect .readWrite source.database).run store = (.ok c, store') :=
      hconnect
    rw [opened, Action.run_bind_of_ok _ hconnected]
    exact hprepare
  have hplanned : (⟨plan, source, [], .planned⟩ : ForeignChange OpenStatement).state = .planned :=
    rfl
  have hbegun := begin_run_of_opened hplanned hopened
  have hfound : s.connection.Finds store' db source.table t := by
    obtain ⟨hdatabase, htable⟩ := hfinds
    exact ⟨by rw [hconnection]; exact hdatabase, htable⟩
  have hnew : (new plan host source : Except Fault (ForeignChange OpenStatement))
      = .ok ⟨plan, source, [], .planned⟩ := by
    rw [new, hmutation]
    rfl
  have hruns := Runs.begin hplanned hopened
  rw [hbegun] at hruns
  refine ⟨_, s, ⟨rfl, ⟨plan, _, s, store', hplan, hnew, hruns, db, t, hfound, ⟨rfl, rfl, rfl⟩⟩,
    rfl, hfound⟩, by rw [hconnection], by rw [hconnection]⟩

end ForeignChange

/-- The key that a scan hands out with a row addresses this row, and no other one unless a column
has taken the name of the rowid. An operation by the key alters the rows that it addresses and no
others, or fails with the files as they are; it does not fail if nothing stands against it. -/
theorem ForeignChange.alters_scanned_row {scan : ForeignScan OpenStatement} {q : RemoteQuery}
    {host : HostTable} {source : TableSource} {store : Store} {t : Table} {out : ScanRow}
    {w : ForeignScan OpenStatement × Store} {v : Int64}
    (hscan : scan.ReadsKeys q host source store t) (hrowid : t.hasRowid = true)
    (hiterate : (ForeignScan.iterate engine).run (scan, store) = (.ok (some out), w))
    (hkey : out.rowid = some v) :
    ∃ r ∈ t.rows, q.Shows scan.shape t r out
      ∧ ∀ {change : ForeignChange OpenStatement} {m : Mutation} {host' : HostTable}
        {source' : TableSource} {store' : Store} {s : OpenStatement} {db : Database} {t' : Table},
        change.WritesRows m host' source' store' s db t' → t.SameSchema t' → t'.Sound →
        r ∈ t'.rows →
          r ∈ t'.addressed v ∧ (t'.NamesRowid → t'.addressed v = [r])
            ∧ ∀ row : HostRow,
              ForeignChange.Ends change m host' source' store' s db t' row (t'.addressed v)
                ((m.operation engine v row).run (change, store'))
              ∧ (m.IsFree host' t' s.connection store' row →
                ∃ w', (m.operation engine v row).run (change, store') = (.ok (some row), w')) := by
  obtain ⟨r, hr, hshows, hread⟩ := hscan.exists_row hrowid hiterate
  refine ⟨r, hr, hshows, ?_⟩
  intro change m host' source' store' s db t' hchange hsame hsound hr'
  have hread' : t'.read r t'.keyRef = .integer v := by
    have hcell := hread v hkey
    rw [← hsame.keyRef_eq] at hcell
    cases href : t'.keyRef with
    | rowid | column place =>
      rw [href] at hcell
      exact hcell
  have haddressed := Table.mem_addressed hr' hread'
  refine ⟨haddressed, fun hname => Table.addressed_eq hsound hname hr' hread', fun row => ?_⟩
  have hends := hchange.ends_operation hsound v row
  refine ⟨hends, fun hfree => ?_⟩
  obtain ⟨given, w', hdone⟩ := hchange.exists_operation_run hsound hfree v
  rcases hends with ⟨fault, change', hfault⟩ | ⟨_, _, _, _, _, hmade, -⟩
  · rw [hdone] at hfault
    cases hfault
  · rw [if_pos (List.length_pos_of_mem haddressed)] at hmade
    exact ⟨_, hmade⟩

/-! ### Notes -/

def notesTable (column : String) (rows : List Row) : Table where
  name := "notes"
  columns := [Database.catalogColumn column "INTEGER", Database.catalogColumn "body" "TEXT"]
  key := .rowid none
  indexes := []
  rows

/-- Three notes, two of which have the same number. -/
def threeNotes : List Row :=
  [⟨1, [.integer 7, .ofText "first"]⟩, ⟨2, [.integer 7, .ofText "second"]⟩,
    ⟨3, [.integer 8, .ofText "third"]⟩]

def notesDatabase (column : String) : Database where
  tables := [notesTable column threeNotes]
  views := []
  catalog := [⟨.table, "notes", "notes"⟩]

def notesFiles (column : String) : Store where
  files := (FileTree.empty ["desk"]).putFile ["desk", "notes.db"] (.database (notesDatabase column))

def notesConnection (access : AccessMode) : Connection where
  path := "notes.db"
  place := some ["desk", "notes.db"]
  access
  locking := .file
  view := none
  changes := 0
  status := .ok
  reason := none

def hostNotes (column : String) : HostTable where
  oid := 16384
  name := "notes"
  columns := [⟨column, 1, .int8, false⟩, ⟨"body", 2, .text, false⟩]

def notesSource : TableSource where
  database := "notes.db"
  table := "notes"
  policy := .error

/-- The query for the texts of notes with their keys. -/
def notesQuery (column : String) : RemoteQuery :=
  .ofAttrs (hostNotes column) [2] "notes" true []

/-- A scan of the texts of notes with their keys. -/
def notesScan (column : String) : ForeignScan OpenStatement where
  plan := (notesQuery column).plan
  source := notesSource
  shape :=
    { columns := (hostNotes column).columns
      retrieved := [⟨1, Nat.one_lt_two⟩]
      policy := .error
      fetchRowid := true }
  state := .planned

def notesLeft (store : Store) : Option (List (List Cell)) :=
  ((notesConnection .readOnly).database? store).bind fun db =>
    (db.table? "notes").map fun t => t.rows.map Row.cells

def firstNote (column : String) : Except Fault (Option ScanRow) :=
  ((ForeignScan.iterate engine).run
    ((ForeignScan.begin engine none false).run (notesScan column, notesFiles column)).2).1

def removeNote (column : String) (key : Int64) (row : HostRow) :
    Except Fault (Option HostRow × Store) := do
  let plan ← Mutation.delete.plan (hostNotes column) "notes"
  let change ← ForeignChange.new plan (hostNotes column) notesSource
  let (result, _, store) := (ForeignChange.delete engine key row).run
    ((ForeignChange.begin engine false).run (change, notesFiles column)).2
  return (← result, store)

lemma sound_notes (column : String) : (notesTable column threeNotes).Sound where
  hasRowid := rfl
  inOrder := by
    have horder : threeNotes.Pairwise fun r r' => r.rowid.toInt < r'.rowid.toInt := by decide
    exact horder
  length_cells := by
    have hlength : ∀ r ∈ threeNotes, r.cells.length = 2 := by decide
    exact hlength
  store_cell := by
    intro r hr place column hcolumn _
    have hnumber : ∀ r ∈ threeNotes,
        (Affinity.ofDeclared "INTEGER").store (r.cell 0) = r.cell 0 := by decide
    have htext : ∀ r ∈ threeNotes, (Affinity.ofDeclared "TEXT").store (r.cell 1) = r.cell 1 := by
      decide
    match place with
    | 0 =>
      cases hcolumn
      exact hnumber r hr
    | 1 =>
      cases hcolumn
      exact htext r hr
    | place + 2 => cases hcolumn
  rowidColumn_lt := nofun
  cell_rowidColumn := nofun

lemma readsKeys_notes : ∃ scan store, (ForeignScan.begin engine none false).run
      (notesScan "number", notesFiles "number") = (.ok (), (scan, store))
    ∧ store = notesFiles "number"
    ∧ scan.ReadsKeys (notesQuery "number") (hostNotes "number") notesSource
      (notesFiles "number") (notesTable "number" threeNotes) := by
  obtain ⟨s, hopened, hconnection⟩ : ∃ s, ((notesScan "number").opened engine).run
      (notesFiles "number") = (.ok s, notesFiles "number")
        ∧ s.connection = notesConnection .readOnly := ⟨_, rfl, rfl⟩
  have hfinds : s.connection.Finds (notesFiles "number") (notesDatabase "number") "notes"
      (notesTable "number" threeNotes) := by
    rw [hconnection]
    exact ⟨rfl, rfl⟩
  have hplanned : (notesScan "number").state = .planned := rfl
  have hbegun := ForeignScan.begin_run_of_opened hplanned rfl hopened
  have hruns : ForeignScan.Runs engine (notesScan "number") s (notesFiles "number")
      ((ForeignScan.begin engine none false).run (notesScan "number", notesFiles "number")).2 :=
    ForeignScan.Runs.begin hplanned hopened
  rw [hbegun] at hruns
  refine ⟨_, _, hbegun, rfl, rfl, rfl, ⟨notesScan "number", s, notesFiles "number", rfl, hruns,
    notesDatabase "number", _, hfinds, ⟨rfl, rfl, rfl⟩⟩, ?_⟩
  rintro _ ⟨⟩
  exact ⟨_, hfinds⟩

/-- A removal of notes by their keys begins. -/
lemma writesRows_notes : ∃ (change : ForeignChange OpenStatement) (s : OpenStatement),
    change.WritesRows .delete (hostNotes "number") notesSource (notesFiles "number") s
        (notesDatabase "number") (notesTable "number" threeNotes)
      ∧ s.connection.place = some ["desk", "notes.db"] ∧ s.connection.access = .readWrite := by
  have hconnect : (connect .readWrite notesSource.database).run (notesFiles "number")
      = (.ok (notesConnection .readWrite), notesFiles "number") := rfl
  have hfinds : (notesConnection .readWrite).Finds (notesFiles "number") (notesDatabase "number")
      notesSource.table (notesTable "number" threeNotes) := ⟨rfl, rfl⟩
  exact ForeignChange.exists_writesRows_delete (hostNotes "number") rfl hconnect hfinds rfl rfl
    (by decide +kernel)

/-- The first of three notes under a number is removed by its key, and no other one. -/
theorem ForeignChange.alters_scanned_row_note :
    ∃ (scan : ForeignScan OpenStatement) (out : ScanRow) (w : ForeignScan OpenStatement × Store)
      (change : ForeignChange OpenStatement) (s : OpenStatement) (r : Row),
      scan.ReadsKeys (notesQuery "number") (hostNotes "number") notesSource (notesFiles "number")
          (notesTable "number" threeNotes)
        ∧ (ForeignScan.iterate engine).run (scan, notesFiles "number") = (.ok (some out), w)
        ∧ out.rowid = some 1
        ∧ change.WritesRows .delete (hostNotes "number") notesSource (notesFiles "number") s
          (notesDatabase "number") (notesTable "number" threeNotes)
        ∧ (notesTable "number" threeNotes).addressed 1 = [r]
        ∧ ForeignChange.Ends change .delete (hostNotes "number") notesSource (notesFiles "number") s
          (notesDatabase "number") (notesTable "number" threeNotes) out.values [r]
          ((delete engine 1 out.values).run (change, notesFiles "number"))
        ∧ ∃ w', (delete engine 1 out.values).run (change, notesFiles "number")
          = (.ok (some out.values), w') := by
  obtain ⟨scan, store, hbegun, rfl, hreads⟩ := readsKeys_notes
  obtain ⟨change, s, hwrites, hplace, haccess⟩ := writesRows_notes
  obtain ⟨out, w, hiterate, hkey⟩ : ∃ out w, (ForeignScan.iterate engine).run
      (scan, notesFiles "number") = (.ok (some out), w) ∧ out.rowid = some 1 := by
    have hfirst : ((firstNote "number").toOption.map fun out => out.map ScanRow.rowid)
        = some (some (some 1)) := by decide +kernel
    rw [firstNote, hbegun] at hfirst
    rcases hrun : (ForeignScan.iterate engine).run (scan, notesFiles "number") with
      ⟨fault | (_ | out), w⟩
    · rw [hrun] at hfirst
      cases hfirst
    · rw [hrun] at hfirst
      cases hfirst
    · rw [hrun] at hfirst
      exact ⟨out, w, rfl, Option.some.inj (Option.some.inj hfirst)⟩
  have hname : (notesTable "number" threeNotes).NamesRowid := by
    intro place hplace
    have hnone : (notesTable "number" threeNotes).place? "rowid" = none := by decide
    rw [hnone] at hplace
    cases hplace
  have hfree : Mutation.delete.IsFree (hostNotes "number") (notesTable "number" threeNotes)
      s.connection (notesFiles "number") out.values :=
    { writes := by rw [haccess]; decide
      alone := rfl
      binds := nofun
      table := fun hne => absurd rfl hne
      keepsKey := nofun }
  obtain ⟨r, hr, -, hall⟩ := alters_scanned_row hreads rfl hiterate hkey
  obtain ⟨-, honly, hends⟩ := hall hwrites ⟨rfl, rfl, rfl⟩ (sound_notes "number") hr
  have haddressed := honly hname
  rw [haddressed] at hends
  exact ⟨scan, out, w, change, s, r, hreads, hiterate, hkey, hwrites, haddressed,
    (hends out.values).1, (hends out.values).2 hfree⟩

/-- Where a column has taken the name of the rowid, a scan hands out the value of this column as the
key of a row, and the removal of the row removes another one that has the same value there. -/
theorem ForeignChange.removes_unscanned_note :
    notesLeft (notesFiles "rowid") = some (threeNotes.map Row.cells)
      ∧ (firstNote "rowid").toOption = some (some ⟨[none, some (.text "first")], some 7⟩)
      ∧ ((removeNote "rowid" 7 [none, some (.text "first")]).toOption.map fun (given, store) =>
          (given, notesLeft store))
        = some (some [none, some (.text "first")], some [[.integer 8, .ofText "third"]]) := by
  decide +kernel

end ForeignData
