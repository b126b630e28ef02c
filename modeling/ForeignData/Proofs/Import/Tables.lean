import ForeignData.Proofs.Import.Catalog
import ForeignData.Proofs.Import.Statement
import ForeignData.Proofs.Import.Steps
import ForeignData.Proofs.Sqlite.Null
import ForeignData.Proofs.Sqlite.Opening

/-!
# Imports of schemas

An import gives one statement for each table of the catalog that its list admits, in the order of
the catalog, but none for a table whose name the query for tables leaves out. It ends without a
failure if the database can be read and no name has a null character in it.
-/

namespace ForeignData

open Sqlite

def ImportList.names : ImportList → List String
  | all => []
  | limitTo names => names
  | except names => names

/-- A statement defines a table with the columns that a connection lists. -/
def ImportRequest.Defines (request : ImportRequest) (c : Connection) (store : Store)
    (name statement : String) : Prop :=
  ∃ rows, (engine.query c (columnsQuery name)).run store = (.ok rows, store)
    ∧ request.IsDefinition name (rows.map RemoteColumn.ofRow) statement

/-! ### Null characters -/

lemma isNulFree_columnsQuery {table : String} (h : IsNulFree table) :
    IsNulFree (columnsQuery table) := by
  have hname := isNulFree_quoteRemoteName_iff.2 h
  exact isNulFree_append_iff.2 ⟨isNulFree_append_iff.2 ⟨by decide, hname⟩, by decide⟩

lemma isNulFree_constantList {names : List String} (h : ∀ name ∈ names, IsNulFree name) :
    IsNulFree (constantList names) := by
  rw [constantList, isNulFree_append_iff, isNulFree_append_iff,
    isNulFree_intercalate_iff (by decide), List.forall_mem_map]
  exact ⟨⟨by decide, fun name hname => isNulFree_quoteRemoteConstant_iff.2 (h name hname)⟩,
    by decide⟩

lemma isNulFree_query {list : ImportList} (h : ∀ name ∈ list.names, IsNulFree name) :
    IsNulFree list.query := by
  refine isNulFree_append_iff.2 ⟨by decide, ?_⟩
  cases list with
  | all => decide
  | limitTo names => exact isNulFree_append_iff.2 ⟨by decide, isNulFree_constantList h⟩
  | except names => exact isNulFree_append_iff.2 ⟨by decide, isNulFree_constantList h⟩

/-! ### Prepared queries -/

section Queries

variable {c : Connection} {store : Store} {db : Database}

/-- The columns of a table can be listed wherever the database can be read. -/
lemma exists_query_columns (hdatabase : c.database? store = some db)
    (hfree : c.isShutOut store = false) {table : String} (hnul : IsNulFree table) :
    ∃ rows, (engine.query c (columnsQuery table)).run store = (.ok rows, store) := by
  have hprepare : (engine.prepare c (columnsQuery table)).run store = _ :=
    prepare_eq_of_parse hdatabase hfree (isNulFree_columnsQuery hnul) (parse_columnsQuery table)
      rfl rfl
  generalize hs : OpenStatement.mk _ _ = s at hprepare
  have hfixed : s.prepared.program.operation
      = .fixed (((db.lookup? table).map fun r => columnRows r.table).getD []) false := by
    rw [← hs]
    rfl
  have hready : s.prepared.state = .ready := by
    rw [← hs]
    rfl
  obtain ⟨rows, s', hall⟩ := OpenStatement.exists_allRows_of_fixed hfixed hready store
  refine ⟨rows, ?_⟩
  rw [Engine.query, Action.run_bind_of_ok _ hprepare]
  rw [Action.run_bind, Action.run_holding, hall]
  rfl

end Queries

/-! ### Statements one by one -/

namespace SchemaImport

variable {c : Connection} {request : ImportRequest} {store : Store} {s s' : OpenStatement}

lemma run_next_of_defines {name statement : String}
    (hstep : OpenStatement.step.run (s, store) = (.ok .row, (s', store)))
    (hrow : s'.row = [.text name]) (hdefines : request.Defines c store name statement) :
    (next engine).run (⟨c, some s, request⟩, store)
      = (.ok (some statement), (⟨c, some s', request⟩, store)) := by
  obtain ⟨rows, hrows, hdefinition⟩ := hdefines
  obtain rfl := hdefinition.spelled.trans (request.statement_eq name _).symm
  have hstatement : (tableStatement engine c request name).run store
      = (.ok (request.statement name (rows.map RemoteColumn.ofRow)), store) := by
    rw [tableStatement, Action.run_bind_of_ok _ hrows]
    rfl
  have hname : ((engine.row s').value 0).asText = some name := by
    change (s'.row.value 0).asText = _
    rw [hrow]
    rfl
  exact run_next_of_row (e := engine) hstep hname hstatement

/-- As the listing goes through the rest of the catalog, each name gives the statement for it. -/
lemma run_takeStatements {q : TableQuery} {db : Database} {t : Table} {placeholder : Nat → Cell}
    {rest : List Row} (hwalk : s.Walking store q db t placeholder rest)
    {names statements : List String}
    (hnames : (rest.filter (q.admits placeholder t)).map (q.cells placeholder t)
      = names.map fun name => [.ofText name])
    (hdefines : List.Forall₂ (request.Defines c store) names statements) {fuel : Nat}
    (hfuel : names.length < fuel) :
    (takeStatements engine fuel).run (⟨c, some s, request⟩, store)
      = (.ok statements, (⟨c, none, request⟩, store)) := by
  induction hdefines generalizing s rest fuel with
  | nil =>
    obtain ⟨fuel, rfl⟩ : ∃ m, fuel = m + 1 := ⟨fuel - 1, by rw [List.length_nil] at hfuel; omega⟩
    rw [List.map_nil, List.map_eq_nil_iff, List.filter_eq_nil_iff] at hnames
    obtain ⟨s', hstep⟩ := hwalk.step_done hnames
    rw [takeStatements, Action.run_bind_of_ok _ (run_next_of_done (e := engine) hstep)]
    rfl
  | cons hname hrest ih =>
    rename_i name statement names statements
    rw [List.length_cons] at hfuel
    obtain ⟨fuel, rfl⟩ : ∃ m, fuel = m + 1 := ⟨fuel - 1, by omega⟩
    obtain ⟨r, rows, hfilter, hcells, hmore⟩ := List.map_eq_cons_iff.1 hnames
    obtain ⟨skipped, rest', hsplit, hskipped, hr, hfilter'⟩ := List.filter_eq_cons_iff.1 hfilter
    obtain ⟨s', hstep, hwalk', hrow⟩ := hwalk.step_row hsplit hskipped hr
    have htext : s'.row = [.text name] := by
      rw [hrow, hcells, List.map_singleton, Cell.ofText, Cell.toStored, lossyText_bytesOfText]
    have htake : (takeStatements engine fuel).run (⟨c, some s', request⟩, store)
        = (.ok statements, (⟨c, none, request⟩, store)) :=
      ih hwalk' (by rw [hfilter', hmore]) (by omega)
    rw [takeStatements, Action.run_bind_of_ok _ (run_next_of_defines hstep htext hname)]
    change (takeStatements engine fuel >>= fun rest => pure (statement :: rest)).run _ = _
    rw [Action.run_bind_of_ok _ htake]
    rfl

end SchemaImport

/-! ### Whole imports -/

section Imports

variable {path : String} {request : ImportRequest} {store store' : Store} {c : Connection}
  {db : Database}

lemma run_importSchema (hschema : request.remoteSchema ∈ remoteSchemas)
    (hconnect : (connect .readOnly path).run store = (.ok c, store'))
    (hdatabase : c.database? store' = some db) (hfree : c.isShutOut store' = false)
    (hcatalog : db.HasCatalog) (hlist : ∀ name ∈ request.list.names, IsNulFree name)
    {statements : List String} (hdefines : List.Forall₂ (request.Defines c store')
      (((db.userTables request.list).filter fun e => !isLeftOut e.name).map CatalogEntry.name)
      statements) :
    (importSchema engine path request).run store = (.ok statements, store') := by
  obtain ⟨program, q, hprogram, hoperation, hquery⟩ :=
    ImportList.program_statement hcatalog request.list
  have hprepare : (engine.prepare c request.list.query).run store' = _ :=
    prepare_eq_of_parse hdatabase hfree (isNulFree_query hlist) request.list.parse_query rfl
      hprogram
  have hopened : (engine.connect .readOnly path).run store = (.ok c, store') := hconnect
  generalize hs : OpenStatement.mk _ _ = s at hprepare
  have hwalk : s.Walking store' q db db.catalogTable s.prepared.placeholder
      db.catalogTable.rows := by
    subst hs
    exact ⟨hquery.walks, hoperation, hdatabase, hfree, rfl, .inl ⟨rfl, rfl⟩⟩
  have hnew : (SchemaImport.new engine path request).run store
      = (.ok ⟨c, some s, request⟩, store') := by
    rw [SchemaImport.new, if_neg (not_not.2 hschema)]
    change (engine.connect .readOnly path >>= _).run store = _
    rw [Action.run_bind_of_ok _ hopened, Action.run_bind_of_ok _ hprepare]
    rfl
  have hnames := hquery.map_cells s.prepared.placeholder
  have hbound : engine.rowsLeft (s, store') = db.catalogTable.rows.length := hwalk.rowBound_eq
  have hfuel : (((db.userTables request.list).filter fun e => !isLeftOut e.name).map
      CatalogEntry.name).length < engine.rowsLeft (s, store') + 1 := by
    rw [hbound]
    have hlength := congrArg List.length hnames
    rw [List.length_map, List.length_map] at hlength
    have hle := List.length_filter_le (q.admits s.prepared.placeholder db.catalogTable)
      db.catalogTable.rows
    rw [List.length_map]
    omega
  have htake := SchemaImport.run_takeStatements hwalk (by rw [hnames, List.map_map]; rfl) hdefines
    hfuel
  have hcollect : (SchemaImport.collect engine).run (⟨c, some s, request⟩, store')
      = (.ok statements, (⟨c, none, request⟩, store')) := by
    rw [SchemaImport.collect, Action.run_get_bind]
    exact htake
  rw [importSchema, Action.run_bind_of_ok _ hnew, Action.run_bind, Action.run_holding, hcollect]
  rfl

/-- An import of a database that can be read does not fail. It gives one statement for each table
that its list admits, in the order of the catalog, but for those whose name begins with `sqlite` and
goes on with any character. -/
theorem importSchema_defines_tables (hschema : request.remoteSchema ∈ remoteSchemas)
    (hconnect : (connect .readOnly path).run store = (.ok c, store'))
    (hdatabase : c.database? store' = some db) (hfree : c.isShutOut store' = false)
    (hcatalog : db.HasCatalog) (hlist : ∀ name ∈ request.list.names, IsNulFree name)
    (hnames : ∀ e ∈ db.userTables request.list, IsNulFree e.name) :
    ∃ statements, (importSchema engine path request).run store = (.ok statements, store')
      ∧ List.Forall₂ (request.Defines c store')
        (((db.userTables request.list).filter fun e => !isLeftOut e.name).map CatalogEntry.name)
        statements := by
  have hdefines : ∀ entries ⊆ db.userTables request.list,
      ∃ statements, List.Forall₂ (request.Defines c store') (entries.map CatalogEntry.name)
        statements := by
    intro entries hentries
    induction entries with
    | nil => exact ⟨[], .nil⟩
    | cons e entries ih =>
      obtain ⟨he, htail⟩ := List.cons_subset.1 hentries
      obtain ⟨rows, hrows⟩ := exists_query_columns hdatabase hfree (hnames e he)
      obtain ⟨statements, hstatements⟩ := ih htail
      exact ⟨_ :: statements,
        .cons ⟨rows, hrows, request.isDefinition_statement e.name _⟩ hstatements⟩
  obtain ⟨statements, hstatements⟩ := hdefines _ (List.filter_subset_self _)
  exact ⟨statements, run_importSchema hschema hconnect hdatabase hfree hcatalog hlist hstatements,
    hstatements⟩

end Imports

/-! ### A shop -/

def numbersTable (name : String) : Table where
  name
  columns := [Database.catalogColumn "id" "INTEGER"]
  key := .rowid none
  indexes := []
  rows := []

/-- A database with tables of some names and a view of one of them. -/
def shop (names : List String) : Database where
  tables := names.map numbersTable
  views := [⟨"recent", "goods"⟩]
  catalog := names.map (fun name => ⟨.table, name, name⟩) ++ [⟨.view, "recent", "recent"⟩]

def shopFiles (db : Database) : Store where
  files := (FileTree.empty ["shop"]).putFile ["shop", "goods.db"] (.database db)

def shopConnection : Connection where
  path := "goods.db"
  place := some ["shop", "goods.db"]
  access := .readOnly
  locking := .file
  view := none
  changes := 0
  status := .ok
  reason := none

def shopRequest (list : ImportList) : ImportRequest where
  remoteSchema := "main"
  localSchema := "public"
  server := "shop"
  list
  options := .standard

def shopNames : List String :=
  ["goods", "it's", "sqlite_sequence", "sqlitexa", "sqlite"]

theorem importSchema_defines_tables_shop :
    ∃ statements, (importSchema engine "goods.db" (shopRequest (.except ["it's"]))).run
        (shopFiles (shop shopNames)) = (.ok statements, shopFiles (shop shopNames))
      ∧ List.Forall₂ ((shopRequest (.except ["it's"])).Defines shopConnection
        (shopFiles (shop shopNames))) ["goods", "sqlite"] statements := by
  have hconnect : (connect .readOnly "goods.db").run (shopFiles (shop shopNames))
      = (.ok shopConnection, shopFiles (shop shopNames)) := rfl
  have hdatabase : shopConnection.database? (shopFiles (shop shopNames))
      = some (shop shopNames) := rfl
  have hcatalog : (shop shopNames).HasCatalog := ⟨rfl, by decide⟩
  exact importSchema_defines_tables (by decide) hconnect hdatabase rfl hcatalog (by decide)
    (by decide)

/-- A table of the user is left out although its name does not begin with the reserved prefix. -/
theorem importSchema_drops_table :
    ((shop ["sqlitexa"]).userTables .all).map CatalogEntry.name = ["sqlitexa"]
      ∧ (importSchema engine "goods.db" (shopRequest .all)).run (shopFiles (shop ["sqlitexa"]))
        = (.ok [], shopFiles (shop ["sqlitexa"])) := by
  have hconnect : (connect .readOnly "goods.db").run (shopFiles (shop ["sqlitexa"]))
      = (.ok shopConnection, shopFiles (shop ["sqlitexa"])) := rfl
  have hdatabase : shopConnection.database? (shopFiles (shop ["sqlitexa"]))
      = some (shop ["sqlitexa"]) := rfl
  have hcatalog : (shop ["sqlitexa"]).HasCatalog := ⟨rfl, by decide⟩
  exact ⟨by decide,
    run_importSchema (by decide) hconnect hdatabase rfl hcatalog (by decide) .nil⟩

end ForeignData
