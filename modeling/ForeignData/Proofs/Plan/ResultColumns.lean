import ForeignData.Proofs.Scan.Steps
import ForeignData.Proofs.Sqlite.Program
import ForeignData.Proofs.Sqlite.Reading
import ForeignData.Proofs.Stored.RowShape
import Mathlib.Data.List.Nodup

/-!
# Result columns of a remote query

SQLite reads the text of a remote query as a query of the same columns, and the shape of its rows
has one place for each of them. The shape has no place for the null that stands for a query of no
column, so the rows of such a query do not fit it.
-/

namespace ForeignData

open Sqlite

/-! ### Written result columns -/

/-- A result column as it is written, with its token, which SQLite reads as an expression. -/
structure WrittenColumn where
  text : List Char
  lexeme : Lexeme
  expr : Expr Mention
  isPiece : IsPiece text lexeme
  isOperand : Parser.IsOperand lexeme expr

namespace WrittenColumn

def ofName (name : String) : WrittenColumn where
  text := enclosed '"' name.toList
  lexeme := nameLexeme name.toList
  expr := .ref (.name (some '"') name)
  isPiece := isPiece_enclosed name.toList
  isOperand := Parser.isOperand_of_nameOf? (by simp [nameLexeme, Parser.nameOf?])

def rowid : WrittenColumn where
  text := rowidName.toList
  lexeme := wordLexeme rowidName.toList
  expr := .ref (.name none rowidName)
  isPiece := isPiece_word (by decide)
  isOperand := Parser.isOperand_of_nameOf? (by decide)

def null : WrittenColumn where
  text := "NULL".toList
  lexeme := wordLexeme "NULL".toList
  expr := .constant .null
  isPiece := isPiece_word (by decide)
  isOperand := Parser.isOperand_null

end WrittenColumn

namespace RemoteQuery

def writtenItems (q : RemoteQuery) : List WrittenColumn :=
  q.columns.map (fun c => .ofName c.name) ++ if q.fetchRowid then [.rowid] else []

def written (q : RemoteQuery) : List WrittenColumn :=
  match q.writtenItems with
  | [] => [.null]
  | items => items

/-- The tokens of the result columns, with the expressions that SQLite reads them as. -/
def operands (q : RemoteQuery) : List (Lexeme × Expr Mention) :=
  q.written.map fun w => (w.lexeme, w.expr)

/-- The expressions that SQLite reads the result columns as. -/
def resultExprs (q : RemoteQuery) : List (Expr Mention) :=
  q.written.map WrittenColumn.expr

variable {q : RemoteQuery}

lemma written_ne_nil : q.written ≠ [] := by
  rw [written]
  split
  · exact List.cons_ne_nil _ _
  · assumption

lemma toList_items : q.items.map String.toList = q.writtenItems.map WrittenColumn.text := by
  have hnames : (q.columns.map fun c => quoteRemoteName c.name).map String.toList
      = (q.columns.map fun c => WrittenColumn.ofName c.name).map WrittenColumn.text := by
    rw [List.map_map, List.map_map]
    exact List.map_congr_left fun c _ => String.toList_ofList
  have hrowid : (if q.fetchRowid then [rowidName] else []).map String.toList
      = (if q.fetchRowid then [WrittenColumn.rowid] else []).map WrittenColumn.text := by
    split <;> rfl
  rw [items, writtenItems, List.map_append, List.map_append, hnames, hrowid]

lemma toList_itemsText :
    q.itemsText.toList = [',', ' '].intercalate (q.written.map WrittenColumn.text) := by
  have hitems := q.toList_items
  rw [itemsText, written]
  cases hwritten : q.writtenItems with
  | nil =>
    rw [hwritten, List.map_nil, List.map_eq_nil_iff] at hitems
    rw [hitems]
    decide
  | cons w ws =>
    cases hq : q.items with
    | nil =>
      rw [hq, hwritten] at hitems
      cases hitems
    | cons item items =>
      rw [hq, hwritten] at hitems
      exact String.toList_intercalate.trans (congrArg _ hitems)

/-! ### The text of a query -/

/-- Behind its table a query goes on with a blank, if it goes on. -/
lemma delimits_filtersText (q : RemoteQuery) :
    Delimits (filtersText 0 " WHERE " q.filters).toList := by
  intro c hc
  cases hfilters : q.filters with
  | nil =>
    rw [hfilters] at hc
    cases hc
  | cons filter filters =>
    rw [hfilters, filtersText, String.toList_append, String.toList_append, List.append_assoc] at hc
    exact .inl (Option.some.inj hc).symm

/-- The text of a query has the tokens of its result columns and its table, and those of its
filters behind them. -/
lemma tokens_text (q : RemoteQuery) :
    ∃ n, tokens q.text.toList = Parser.queryLexemes (q.operands.map Prod.fst) q.table
      ++ lexFrom n (filtersText 0 " WHERE " q.filters).toList := by
  have htext : q.text.toList = "SELECT".toList
      ++ ' ' :: ([',', ' '].intercalate (q.written.map WrittenColumn.text)
        ++ ' ' :: ("FROM".toList ++ ' ' :: (enclosed '"' q.table.toList
          ++ (filtersText 0 " WHERE " q.filters).toList))) := by
    have hselect : "SELECT ".toList = "SELECT".toList ++ [' '] := by decide
    have hfrom : " FROM ".toList = ' ' :: ("FROM".toList ++ [' ']) := by decide
    simp only [text, String.toList_append, toList_itemsText, hselect, hfrom, quoteRemoteName,
      String.toList_ofList, List.append_assoc, List.cons_append, List.nil_append]
  have hblank : ∀ s, Delimits (' ' :: s) := by
    rintro s c ⟨⟩
    exact .inl rfl
  have hselect : IsPiece "SELECT".toList (wordLexeme "SELECT".toList) := isPiece_word (by decide)
  have hfrom : IsPiece "FROM".toList (wordLexeme "FROM".toList) := isPiece_word (by decide)
  have hitems : ∀ p ∈ q.written.map fun w => (w.text, w.lexeme), IsPiece p.1 p.2 := by
    intro p hp
    obtain ⟨w, -, rfl⟩ := List.mem_map.1 hp
    exact w.isPiece
  have hne : (q.written.map fun w => (w.text, w.lexeme)) ≠ [] := by
    rw [Ne, List.map_eq_nil_iff]
    exact written_ne_nil
  have hcolumns := lexes_intercalate hitems hne (hblank ("FROM".toList ++ ' ' ::
    (enclosed '"' q.table.toList ++ (filtersText 0 " WHERE " q.filters).toList)))
  rw [List.map_map, List.map_map] at hcolumns
  have htable := (isPiece_enclosed q.table.toList).lexes_blank q.delimits_filtersText
  have hall := (hselect.lexes _ (hblank _)).append
    (hcolumns.append ((hfrom.lexes_blank (hblank _)).append htable))
  obtain ⟨n, hn⟩ := Lexes.tokens_eq (by decide) (by decide) hall
  refine ⟨n, (congrArg tokens htext).trans (hn.trans ?_)⟩
  rw [operands, List.map_map]
  simp [Parser.queryLexemes, Function.comp_def]

lemma isOperand_of_mem_operands : ∀ p ∈ q.operands, Parser.IsOperand p.1 p.2 := by
  intro p hp
  obtain ⟨w, -, rfl⟩ := List.mem_map.1 hp
  exact w.isOperand

lemma operands_ne_nil : q.operands ≠ [] := by
  rw [Ne, operands, List.map_eq_nil_iff]
  exact written_ne_nil

lemma map_operands :
    (q.operands.map fun p => ResultItem.value p.2) = q.resultExprs.map .value := by
  rw [operands, resultExprs, List.map_map, List.map_map]
  rfl

/-- SQLite reads a query without filters as a query of its result columns. -/
lemma parse_text (h : q.filters = []) :
    parse q.text = .ok (some ⟨.select (q.resultExprs.map .value) (some q.table) none, 0⟩) := by
  obtain ⟨n, htokens⟩ := q.tokens_text
  have hend : lexFrom n (filtersText 0 " WHERE " q.filters).toList = [] := by
    rw [h]
    cases n <;> rfl
  rw [hend, List.append_nil] at htokens
  rw [parse_of_query isOperand_of_mem_operands operands_ne_nil htokens, map_operands]

/-- If SQLite can read a query with its filters, it is a query of its result columns. -/
lemma parse_text_eq_ok {parsed : Option ParsedStatement} (h : parse q.text = .ok parsed) :
    ∃ condition placeholders, parsed
      = some ⟨.select (q.resultExprs.map .value) (some q.table) condition, placeholders⟩ := by
  obtain ⟨n, htokens⟩ := q.tokens_text
  rw [← map_operands]
  exact parse_eq_ok_of_query isOperand_of_mem_operands operands_ne_nil htokens h

/-! ### Prepared queries -/

/-- A statement that is prepared for a query is the query of its result columns. -/
lemma width_of_prepare {c c' : Connection} {store : Store} {prepared : Prepared}
    (h : c.prepare store q.text = (.ok prepared, c')) :
    (∃ condition placeholders, parse q.text
        = .ok (some ⟨.select (q.resultExprs.map .value) (some q.table) condition, placeholders⟩))
      ∧ prepared.program.width = q.resultExprs.length := by
  obtain ⟨parsed, db, hparse, hprogram⟩ := Connection.prepare_eq_ok h
  obtain ⟨condition, placeholders, hparsed⟩ := parse_text_eq_ok hparse
  obtain rfl := Option.some.inj hparsed
  obtain ⟨compiled, hcompiled, hprogram⟩ := Checked.bind_eq_ok hprogram
  refine ⟨⟨condition, placeholders, hparse⟩, ?_⟩
  rw [← Except.ok.inj hprogram]
  exact width_of_compileSelect hcompiled

/-! ### Shapes -/

/-- The place of a column in a table whose columns are told apart by their numbers. -/
lemma exists_position? {table : HostTable}
    (hdistinct : (table.columns.map HostColumn.number).Nodup) {column : HostColumn}
    (hcolumn : column ∈ table.columns) :
    ∃ i, table.position? column.number = some i ∧ table.columns.get i = column := by
  cases hposition : table.position? column.number with
  | none =>
    have hnone := List.findFinIdx?_eq_none_iff.1 hposition column hcolumn
    exact absurd (beq_self_eq_true _) hnone
  | some i =>
    have hsome := (List.findFinIdx?_eq_some_iff.1 hposition).1
    exact ⟨i, rfl, List.inj_on_of_nodup_map hdistinct (List.getElem_mem _) hcolumn
      (eq_of_beq hsome)⟩

lemma exists_places {table : HostTable}
    (hdistinct : (table.columns.map HostColumn.number).Nodup) (columns : List HostColumn)
    (hcolumns : ∀ column ∈ columns, column ∈ table.columns) :
    ∃ ps, RowShape.places table (columns.map HostColumn.number) = .ok ps
      ∧ ps.map table.columns.get = columns := by
  induction columns with
  | nil => exact ⟨[], rfl, rfl⟩
  | cons column columns ih =>
    obtain ⟨hcolumn, hcolumns⟩ := List.forall_mem_cons.1 hcolumns
    obtain ⟨i, hi, hget⟩ := exists_position? hdistinct hcolumn
    obtain ⟨ps, hps, hmap⟩ := ih hcolumns
    refine ⟨i :: ps, ?_, ?_⟩
    · rw [List.map_cons, RowShape.places, hi, hps]
      rfl
    · rw [List.map_cons, hget, hmap]

/-- The shape of the rows of a query has one place for each of its columns. -/
lemma shape_ofAttrs {table : HostTable} (hdistinct : (table.columns.map HostColumn.number).Nodup)
    {attrs : AttrSet} {remoteName : String} {fetchRowid : Bool} {filters : List Clause}
    (hq : q = ofAttrs table attrs remoteName fetchRowid filters) (policy : ConversionPolicy) :
    ∃ shape, q.plan.shape table policy = .ok shape
      ∧ shape.retrieved.map shape.columns.get = q.columns ∧ shape.fetchRowid = q.fetchRowid := by
  subst hq
  obtain ⟨ps, hps, hmap⟩ := exists_places hdistinct
    (table.columns.filter fun c => attrs.contains c.number)
    fun column hcolumn => (List.mem_filter.1 hcolumn).1
  refine ⟨⟨table.columns, ps, policy, fetchRowid⟩, ?_, hmap, rfl⟩
  exact congrArg (Except.map _) hps

end RemoteQuery

namespace RowShape

variable {expected actual : Nat}

lemma convertColumn_ne_columnCount {policy : ConversionPolicy} {column : HostColumn}
    {v : StoredValue} : convertColumn policy column v ≠ .error (.columnCount expected actual) := by
  rw [convertColumn_eq]
  split
  · split <;> simp
  · simp
  · split <;> simp

lemma fill_ne_columnCount {columns : List HostColumn} {policy : ConversionPolicy}
    {ps : List (Fin columns.length)} {row : ResultRow} {out : HostRow} :
    fill columns policy ps row out ≠ .error (.columnCount expected actual) := by
  induction ps generalizing row out with
  | nil => simp [fill]
  | cons p ps ih =>
    intro h
    rw [fill] at h
    cases hv : convertColumn policy columns[p] (row.headD .null) with
    | error fault =>
      rw [hv] at h
      cases h
      exact convertColumn_ne_columnCount hv
    | ok v =>
      rw [hv] at h
      exact ih h

lemma rowid_eq (shape : RowShape) (row : ResultRow) :
    shape.fetchRowid = false ∧ shape.rowid row = .ok none
      ∨ (∃ key, shape.rowid row = .ok (some key))
      ∨ ∃ misuse, shape.rowid row = .error (.misuse misuse) := by
  unfold rowid
  split
  · split
    · exact .inr (.inl ⟨_, rfl⟩)
    · exact .inr (.inr ⟨_, rfl⟩)
  · rename_i hfetch
    exact .inl ⟨by simpa using hfetch, rfl⟩

/-- Rows of a width fit a shape: none is refused for its number of columns, and each that is handed
out comes with its key if that is fetched. -/
structure Fits (shape : RowShape) (rowWidth : Nat) : Prop where
  ne_columnCount : ∀ row expected actual,
    shape.scanRow rowWidth row ≠ .error (.columnCount expected actual)
  rowid_isSome : ∀ row out, shape.scanRow rowWidth row = .ok out → shape.fetchRowid = true →
    out.rowid.isSome

lemma fits_width (shape : RowShape) : shape.Fits shape.width where
  ne_columnCount row expected actual h := by
    rw [scanRow, hostRow, if_pos rfl] at h
    cases hfill : fill shape.columns shape.policy shape.retrieved row
        (List.replicate shape.columns.length none) with
    | error fault =>
      rw [hfill] at h
      cases h
      exact fill_ne_columnCount hfill
    | ok values =>
      rw [hfill] at h
      rcases shape.rowid_eq row with ⟨-, hrowid⟩ | ⟨key, hrowid⟩ | ⟨misuse, hrowid⟩
      all_goals
        rw [hrowid] at h
        cases h
  rowid_isSome row out h hfetch := by
    rw [scanRow] at h
    cases hvalues : shape.hostRow row shape.width with
    | error fault =>
      rw [hvalues] at h
      cases h
    | ok values =>
      rw [hvalues] at h
      rcases shape.rowid_eq row with ⟨hnot, -⟩ | ⟨key, hrowid⟩ | ⟨misuse, hrowid⟩
      · rw [hfetch] at hnot
        cases hnot
      · rw [hrowid] at h
        rw [← Except.ok.inj h]
        rfl
      · rw [hrowid] at h
        cases h

lemma scanRow_of_ne {shape : RowShape} {rowWidth : Nat} (h : rowWidth ≠ shape.width)
    (row : ResultRow) :
    shape.scanRow rowWidth row = .error (.columnCount shape.width rowWidth) := by
  rw [scanRow, hostRow, if_neg h]
  rfl

end RowShape

/-! ### Queries and their rows -/

namespace RemoteQuery

variable {q : RemoteQuery}

/-- The columns of a query by name, and the key behind them if it is fetched. -/
def columnExprs (q : RemoteQuery) : List (Expr Mention) :=
  q.columns.map (fun c => .ref (.name (some '"') c.name))
    ++ if q.fetchRowid then [.ref (.name none rowidName)] else []

lemma map_writtenItems : q.writtenItems.map WrittenColumn.expr = q.columnExprs := by
  have hrowid : (if q.fetchRowid then [WrittenColumn.rowid] else []).map WrittenColumn.expr
      = if q.fetchRowid then [.ref (.name none rowidName)] else [] := by
    split <;> rfl
  rw [writtenItems, columnExprs, List.map_append, List.map_map, hrowid]
  rfl

lemma resultExprs_of_ne_nil (h : q.columnExprs ≠ []) : q.resultExprs = q.columnExprs := by
  rw [← map_writtenItems] at h ⊢
  rw [resultExprs, written]
  cases hwritten : q.writtenItems with
  | nil =>
    rw [hwritten] at h
    exact absurd rfl h
  | cons w ws => rfl

lemma resultExprs_of_eq_nil (h : q.columnExprs = []) : q.resultExprs = [.constant .null] := by
  rw [← map_writtenItems, List.map_eq_nil_iff] at h
  rw [resultExprs, written, h]
  rfl

lemma length_columnExprs :
    q.columnExprs.length = q.columns.length + if q.fetchRowid then 1 else 0 := by
  rw [columnExprs, List.length_append, List.length_map]
  split <;> rfl

lemma columnExprs_eq_nil_iff : q.columnExprs = [] ↔ q.columns = [] ∧ q.fetchRowid = false := by
  rw [← List.length_eq_zero_iff, length_columnExprs, Nat.add_eq_zero_iff, List.length_eq_zero_iff]
  cases q.fetchRowid <;> simp

lemma column?_of_mem {table : HostTable}
    (hdistinct : (table.columns.map HostColumn.number).Nodup) {column : HostColumn}
    (hcolumn : column ∈ table.columns) : table.column? column.number = some column := by
  cases hfind : table.column? column.number with
  | none => exact absurd (beq_self_eq_true _) (List.find?_eq_none.1 hfind column hcolumn)
  | some other =>
    have hnumber := List.find?_some hfind
    exact congrArg some (List.inj_on_of_nodup_map hdistinct (List.mem_of_find?_eq_some hfind)
      hcolumn (eq_of_beq hnumber))

/-- Whatever columns of a table a query asks for, SQLite reads its text as a query of just these
columns, in the order in which the shape of its rows has them, with the key at the end if it is
fetched. Then its rows fit the shape. If it asks for nothing at all, SQLite gives a column of nulls,
which the shape refuses. -/
theorem fits_of_prepare {table : HostTable}
    (hdistinct : (table.columns.map HostColumn.number).Nodup) {attrs : AttrSet}
    {remoteName : String} {fetchRowid : Bool} {filters : List Clause}
    (hq : q = ofAttrs table attrs remoteName fetchRowid filters) (policy : ConversionPolicy) :
    ∃ shape : RowShape, q.plan.shape table policy = .ok shape
      ∧ shape.retrieved.map shape.columns.get = q.columns
      ∧ (∀ i : Nat, q.plan.retrieved[i]?.bind table.column? = q.columns[i]?)
      ∧ (filters = [] → parse q.text
          = .ok (some ⟨.select (q.resultExprs.map .value) (some remoteName) none, 0⟩))
      ∧ ∀ (c c' : Connection) (store : Store) (prepared : Prepared),
          c.prepare store q.text = (.ok prepared, c') →
            (∃ condition placeholders, parse q.text = .ok (some
              ⟨.select (q.resultExprs.map .value) (some remoteName) condition, placeholders⟩))
            ∧ (q.columns ≠ [] ∨ fetchRowid = true →
                q.resultExprs = q.columnExprs ∧ shape.Fits prepared.program.width)
            ∧ (q.columns = [] ∧ fetchRowid = false → q.resultExprs = [.constant .null]
                ∧ ∀ row, shape.scanRow prepared.program.width row = .error (.columnCount 0 1)) := by
  obtain ⟨shape, hshape, hplaces, hfetch⟩ := shape_ofAttrs hdistinct hq policy
  have hflag : q.fetchRowid = fetchRowid := by rw [hq]; rfl
  have htable : q.table = remoteName := by rw [hq]; rfl
  have hfilters : q.filters = filters := by rw [hq]; rfl
  have hwidth : shape.width = q.columnExprs.length := by
    rw [length_columnExprs, RowShape.width, hfetch, ← hplaces, List.length_map]
  refine ⟨shape, hshape, hplaces, fun i => ?_, fun hnil => ?_,
    fun c c' store prepared hprepare => ?_⟩
  · change (q.columns.map HostColumn.number)[i]?.bind table.column? = _
    rw [List.getElem?_map, Option.bind_map]
    cases hcolumn : q.columns[i]? with
    | none => rfl
    | some column =>
      have hmem := List.mem_of_getElem? hcolumn
      rw [hq] at hmem
      exact column?_of_mem hdistinct (List.mem_filter.1 hmem).1
  · rw [← htable]
    exact parse_text (hfilters.trans hnil)
  · obtain ⟨hparse, hcolumns⟩ := width_of_prepare hprepare
    rw [htable] at hparse
    refine ⟨hparse, fun hsome => ?_, fun hnone => ?_⟩
    · have hne : q.columnExprs ≠ [] := by
        rw [Ne, columnExprs_eq_nil_iff, hflag]
        rintro ⟨hnil, hnot⟩
        rcases hsome with hsome | hfetched
        · exact hsome hnil
        · rw [hfetched] at hnot
          cases hnot
      have hexprs := resultExprs_of_ne_nil hne
      rw [hcolumns, hexprs, ← hwidth]
      exact ⟨rfl, shape.fits_width⟩
    · have hnil : q.columnExprs = [] := by
        rwa [columnExprs_eq_nil_iff, hflag]
      have hexprs := resultExprs_of_eq_nil hnil
      have hzero : shape.width = 0 := by rw [hwidth, hnil, List.length_nil]
      rw [hcolumns, hexprs]
      refine ⟨rfl, fun row => ?_⟩
      rw [RowShape.scanRow_of_ne (by rw [hzero]; decide), hzero]
      rfl

/-- A connection to a database with three items, one of which has no price. -/
def itemsConnection : Connection where
  path := "shop.db"
  place := none
  access := .readOnly
  locking := .file
  view := some
    { tables := [
        { name := "items"
          columns := [Database.catalogColumn "id" "INTEGER", Database.catalogColumn "name" "TEXT",
            Database.catalogColumn "price" "INTEGER"]
          key := .rowid none
          indexes := []
          rows := [⟨1, [.integer 7, .ofText "apple", .integer 10]⟩,
            ⟨2, [.integer 8, .ofText "pear", .null]⟩, ⟨3, [.integer 9, .ofText "plum", .integer 3]⟩] }]
      views := []
      catalog := [⟨.table, "items", "items"⟩] }
  changes := 0
  status := .ok
  reason := none

/-- The identifiers and prices with the keys of their rows. -/
theorem fits_of_prepare_pricedItems :
    ∃ shape prepared c', (ofAttrs RowShape.pricedItems [1, 3] "items" true []).plan.shape
          RowShape.pricedItems .error = .ok shape
      ∧ itemsConnection.prepare { files := .empty [] }
          (ofAttrs RowShape.pricedItems [1, 3] "items" true []).text = (.ok prepared, c')
      ∧ shape.Fits prepared.program.width := by
  have hdistinct : (RowShape.pricedItems.columns.map HostColumn.number).Nodup := by decide
  obtain ⟨prepared, c', hprepare⟩ : ∃ prepared c', itemsConnection.prepare { files := .empty [] }
      (ofAttrs RowShape.pricedItems [1, 3] "items" true []).text = (.ok prepared, c') :=
    ⟨_, _, rfl⟩
  obtain ⟨shape, hshape, -, -, -, hprepared⟩ := fits_of_prepare hdistinct rfl .error
  exact ⟨shape, prepared, c', hshape, hprepare, ((hprepared _ _ _ _ hprepare).2.1 (.inr rfl)).2⟩

/-- No column is asked for, as when rows are only counted: there is a result column of nulls, and
the rows are refused for it. -/
theorem refused_of_no_columns :
    ∃ shape prepared c', (ofAttrs RowShape.pricedItems [] "items" false []).plan.shape
          RowShape.pricedItems .error = .ok shape
      ∧ itemsConnection.prepare { files := .empty [] }
          (ofAttrs RowShape.pricedItems [] "items" false []).text = (.ok prepared, c')
      ∧ prepared.program.width = 1
      ∧ shape.scanRow prepared.program.width [.null] = .error (.columnCount 0 1) :=
  ⟨_, _, _, rfl, rfl, rfl, rfl⟩

end RemoteQuery

end ForeignData
