import ForeignData.Proofs.Change.Statement
import ForeignData.Proofs.Import.Statement
import ForeignData.Proofs.Plan.ResultColumns

/-!
# Names in generated SQL

Whatever names and constants contain, they are read back as what they are by the engine that the
text is for, in front of everything that does not go on with a quote or with a word. So the tokens
of each generated text are a frame with the names in their places.
-/

namespace ForeignData

open HostSql

/-- Names and constants are read back from what is written for the host and for SQLite, and so are
the names of a list. The statements of an import, its queries, and the statements that fetch and
change rows are read as fixed frames around the names of schemas, tables, columns and servers. -/
theorem quoted_read_back (types standards : String → List Token) :
    (∀ (s : String) (rest : List Char), Ends rest →
      (s ≠ "" → nextToken ((quoteName s).toList ++ rest) = some (.name s, rest))
      ∧ (s ∈ reservedWords → quoteName s = String.ofList (enclosed '"' s.toList))
      ∧ nextToken ((quoteConstant s).toList ++ rest) = some (.constant s, rest)
      ∧ Sqlite.Lexes ((quoteRemoteName s).toList ++ rest)
          [⟨.quoted '"' s, (quoteRemoteName s).toList⟩] rest)
    ∧ (∀ (names : List String) (rest : List Char),
        Sqlite.Lexes ((constantList names).toList ++ rest) (Sqlite.choiceLexemes names) rest)
    ∧ (∀ list : ImportList,
        Sqlite.tokens list.query.toList = Sqlite.word "SELECT" :: list.queryLexemes
        ∧ Sqlite.parse list.query = .ok (some ⟨list.statement, 0⟩))
    ∧ (∀ table : String,
        Sqlite.parse (columnsQuery table) = .ok (some ⟨.tableInfo table, 0⟩))
    ∧ (∀ (request : ImportRequest) (table : String) (columns : List RemoteColumn),
        request.localSchema ≠ "" → table ≠ "" → request.server ≠ "" →
        (∀ column ∈ columns, column.IsReadable types standards request.options) →
        Reads (request.statement table columns).toList
          (request.tokens types standards table columns) [])
    ∧ (∀ q : RemoteQuery, ∃ n, Sqlite.tokens q.text.toList
        = Sqlite.Parser.queryLexemes (q.operands.map Prod.fst) q.table
          ++ Sqlite.lexFrom n (RemoteQuery.filtersText 0 " WHERE " q.filters).toList)
    ∧ ∀ (m : Mutation) (table : String) (names : List String) (query : String),
        m.statement table (names.map quoteRemoteName) = .ok query →
        Sqlite.tokens query.toList = m.lexemes table names := by
  refine ⟨fun s rest hrest => ⟨fun hne => nextToken_quoteName hne hrest,
      quoteName_of_mem_reservedWords, nextToken_quoteConstant s hrest, ?_⟩,
    ImportList.lexes_constantList, fun list => ⟨list.tokens_query, list.parse_query⟩,
    parse_columnsQuery,
    fun request table columns hschema htable hserver hcolumns =>
      request.reads_statement hschema htable hserver hcolumns,
    RemoteQuery.tokens_text, fun m table names query h => Mutation.tokens_statement h⟩
  have hname := Sqlite.lexes_enclosed s.toList hrest.head?_ne_doubleQuote
  rw [quoteRemoteName, String.toList_ofList]
  rwa [Sqlite.nameLexeme, String.ofList_toList] at hname

/-- An import, and a column that goes by a reserved word. -/
def shopImport : ImportRequest where
  remoteSchema := "main"
  localSchema := "local"
  server := "files"
  list := .all
  options := .standard

def orderColumn : RemoteColumn where
  name := "order"
  declaredType := "INTEGER"
  notNull := true
  standard := none

theorem quoted_read_back_order :
    nextToken ((quoteName "order").toList ++ [' ']) = some (.name "order", [' '])
      ∧ Reads (shopImport.statement "it's" [orderColumn]).toList
        [.keyword "create", .keyword "foreign", .keyword "table", .name "local", .mark '.',
          .name "it's", .mark '(', .name "order", .keyword "bigint", .keyword "not",
          .keyword "null", .mark ')', .name "server", .name "files", .name "options", .mark '(',
          .keyword "table", .constant "it's", .mark ')'] []
      ∧ Sqlite.tokens "INSERT INTO \"it's\" (\"order\") VALUES (?1)".toList
        = Mutation.lexemes (.insert [1]) "it's" ["order"] := by
  obtain ⟨hnames, -, -, -, hstatement, -, hmutation⟩ :=
    quoted_read_back (fun _ => [.keyword "bigint"]) fun _ => []
  have hends : Ends [' '] := by
    rintro c ⟨⟩
    decide
  have hcolumn : orderColumn.IsReadable (fun _ => [.keyword "bigint"]) (fun _ => [])
      shopImport.options := by
    refine ⟨by decide, ?_, by rintro text ⟨⟩⟩
    have htype : importedTypeName orderColumn.declaredType = "bigint" := by decide
    rw [htype]
    exact .word (by decide)
  exact ⟨(hnames "order" [' '] hends).1 (by decide),
    hstatement shopImport "it's" [orderColumn] (by decide) (by decide) (by decide)
      (List.forall_mem_singleton.2 hcolumn),
    hmutation (.insert [1]) "it's" ["order"] _ (by decide +kernel)⟩

end ForeignData
