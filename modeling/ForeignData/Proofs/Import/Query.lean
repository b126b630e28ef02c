import ForeignData.Import.Basic
import ForeignData.Proofs.Sqlite.TextTest

/-!
# The query for tables

The query for the tables that a list admits is read as one of the catalog, with a test of the kind
of an entry and tests of its name, whatever names are on the list.
-/

namespace ForeignData

open Sqlite

def kindTest : NamedTest :=
  ⟨"type", .equals "table"⟩

namespace ImportList

/-- The test that a list makes of a name, if it makes one. -/
def choice : ImportList → List NamedTest
  | all => []
  | limitTo names => [⟨"name", .oneOf names⟩]
  | except names => [⟨"name", .noneOf names⟩]

def nameTests (list : ImportList) : List NamedTest :=
  ⟨"name", .unlike "sqlite_%"⟩ :: list.choice

/-- The condition on the entries of the catalog. -/
def entryCondition {ρ : Type} (ref : String → Expr ρ) (list : ImportList) : Expr ρ :=
  allExpr ref (kindTest.expr ref) list.nameTests

/-- The tokens of the query behind its first word. -/
def queryLexemes (list : ImportList) : List Lexeme :=
  [word "name", word "FROM", word "sqlite_master", word "WHERE"]
    ++ (kindTest.lexemes ++ andLexemes list.nameTests)

/-! ### Tokens -/

lemma isPhrase_constant (s : String) :
    IsPhrase (quoteRemoteConstant s).toList [quotedText s] := by
  rw [quoteRemoteConstant, String.toList_ofList]
  exact .string s.toList

lemma lexes_noConstants (rest : List Char) :
    Lexes ('(' :: ')' :: rest) (choiceLexemes []) rest := by
  have hopen := lexes_symbol (c := '(') (by decide) (')' :: rest)
  exact hopen.append (lexes_symbol (c := ')') (by decide) rest)

/-- A list of names is read as these names, whatever stands behind. -/
lemma lexes_constantList (names : List String) (rest : List Char) :
    Lexes ((constantList names).toList ++ rest) (choiceLexemes names) rest := by
  cases names with
  | nil => exact lexes_noConstants rest
  | cons s names =>
    have htexts : List.Forall₂ IsPhrase
        (((s :: names).map quoteRemoteConstant).map String.toList) (textGroups (s :: names)) := by
      rw [textGroups, List.map_map, List.forall₂_map_left_iff, List.forall₂_map_right_iff,
        List.forall₂_same]
      exact fun t _ => isPhrase_constant t
    have hlist := (IsPhrase.intercalate htexts (by simp)).lexes_parenthesize rest
    simpa [constantList, choiceLexemes, commas] using hlist

lemma isPhrase_constantList (names : List String) :
    IsPhrase (constantList names).toList (choiceLexemes names) where
  starts := ⟨'(', (", ".intercalate (names.map quoteRemoteConstant)).toList ++ [')'],
    by simp [constantList], by decide⟩
  lexes rest _ := lexes_constantList names rest

/-- The query up to the test of the names. -/
lemma isPhrase_all : IsPhrase (query .all).toList (word "SELECT" :: queryLexemes .all) := by
  have hselect : IsPhrase "SELECT".toList [word "SELECT"] := .word (by decide)
  have hname : IsPhrase "name".toList [word "name"] := .word (by decide)
  have hfrom : IsPhrase "FROM".toList [word "FROM"] := .word (by decide)
  have hcatalog : IsPhrase "sqlite_master".toList [word "sqlite_master"] := .word (by decide)
  have hwhere : IsPhrase "WHERE".toList [word "WHERE"] := .word (by decide)
  have htype : IsPhrase "type".toList [word "type"] := .word (by decide)
  have hand : IsPhrase "AND".toList [word "AND"] := .word (by decide)
  have hnot : IsPhrase "NOT".toList [word "NOT"] := .word (by decide)
  have hlike : IsPhrase "LIKE".toList [word "LIKE"] := .word (by decide)
  have hkind : IsPhrase "'table'".toList [quotedText "table"] := .string "table".toList
  have hreserved : IsPhrase "'sqlite_%'".toList [quotedText "sqlite_%"] :=
    .string "sqlite_%".toList
  exact hselect.space (hname.space (hfrom.space (hcatalog.space (hwhere.space (htype.space
    (IsPhrase.equals.space (hkind.space (hand.space (hname.space (hnot.space
      (hlike.space hreserved)))))))))))

lemma toList_query (list : ImportList) :
    list.query.toList = (query .all).toList ++ list.condition.toList := by
  have hall : query .all ++ list.condition = list.query :=
    congrArg (· ++ list.condition) String.append_empty
  rw [← hall, String.toList_append]

/-- A list adds one more test of the names. -/
lemma isPhrase_query (list : ImportList) :
    IsPhrase list.query.toList (word "SELECT" :: list.queryLexemes) := by
  have hand : IsPhrase "AND".toList [word "AND"] := .word (by decide)
  have hname : IsPhrase "name".toList [word "name"] := .word (by decide)
  have hnot : IsPhrase "NOT".toList [word "NOT"] := .word (by decide)
  have hin : IsPhrase "IN".toList [word "IN"] := .word (by decide)
  have hlexemes : word "SELECT" :: list.queryLexemes
      = (word "SELECT" :: queryLexemes .all) ++ andLexemes list.choice := rfl
  rw [toList_query, hlexemes]
  cases list with
  | all =>
    change IsPhrase (_ ++ []) (_ ++ [])
    rw [List.append_nil, List.append_nil]
    exact isPhrase_all
  | limitTo names =>
    have htext : (condition (.limitTo names)).toList = ' ' :: ("AND".toList ++ ' ' ::
        ("name".toList ++ ' ' :: ("IN".toList ++ ' ' :: (constantList names).toList))) :=
      String.toList_append
    have hchoice : andLexemes (choice (.limitTo names))
        = [word "AND"] ++ ([word "name"] ++ ([word "IN"] ++ choiceLexemes names)) := by
      simp [choice, andLexemes, NamedTest.lexemes, TextTest.lexemes]
    rw [htext, hchoice]
    exact isPhrase_all.space (hand.space (hname.space (hin.space (isPhrase_constantList names))))
  | except names =>
    have htext : (condition (.except names)).toList = ' ' :: ("AND".toList ++ ' ' ::
        ("name".toList ++ ' ' :: ("NOT".toList ++ ' ' :: ("IN".toList ++ ' ' ::
          (constantList names).toList)))) :=
      String.toList_append
    have hchoice : andLexemes (choice (.except names)) = [word "AND"] ++ ([word "name"]
        ++ ([word "NOT"] ++ ([word "IN"] ++ choiceLexemes names))) := by
      simp [choice, andLexemes, NamedTest.lexemes, TextTest.lexemes]
    rw [htext, hchoice]
    exact isPhrase_all.space (hand.space (hname.space (hnot.space
      (hin.space (isPhrase_constantList names)))))

lemma tokens_query (list : ImportList) :
    tokens list.query.toList = word "SELECT" :: list.queryLexemes := by
  have hhead : list.query.toList.head? = some 'S' := by
    rw [toList_query]
    rfl
  exact list.isPhrase_query.tokens_eq (by rw [hhead]; decide)

/-! ### Reading -/

def statement (list : ImportList) : Statement :=
  .select [.value (mentioned "name")] (some "sqlite_master")
    (some (list.entryCondition mentioned))

lemma nameTests_columns {list : ImportList} {t : NamedTest} (h : t ∈ list.nameTests) :
    t.column = "name" := by
  cases list with
  | all =>
    obtain rfl := List.mem_singleton.1 h
    rfl
  | _ =>
    rcases List.mem_cons.1 h with rfl | h
    · rfl
    · obtain rfl := List.mem_singleton.1 h
      rfl

lemma run_whereClause (list : ImportList) (names : List (String × Nat)) :
    Parser.whereClause.run
        ⟨word "WHERE" :: (kindTest.lexemes ++ andLexemes list.nameTests), 0, names⟩
      = .ok (some (list.entryCondition mentioned), ⟨[], 0, names⟩) := by
  have hcolumns : ∀ t ∈ kindTest :: list.nameTests,
      Parser.nameOf? (word t.column).token = some (none, t.column) := by
    intro t ht
    rcases List.mem_cons.1 ht with rfl | ht
    · decide
    · rw [nameTests_columns ht]
      decide
  have hcount : list.nameTests.length ≤ 900 := by
    cases list <;> simp [nameTests, choice]
  have hexpr := Parser.run_expr_tests hcolumns hcount
    (n := 20 * ((kindTest.lexemes ++ andLexemes list.nameTests).length + 1)) (by omega) 0 names
  rw [Parser.whereClause, Parser.run_bind_of_ok _ (Parser.run_accept (by decide))]
  change StateT.run (Parser.fuel >>= _) _ = _
  rw [Parser.run_bind_of_ok _ Parser.run_fuel, Parser.run_bind_of_ok _ hexpr]
  rfl

lemma run_select (list : ImportList) (names : List (String × Nat)) :
    Parser.select.run ⟨list.queryLexemes, 0, names⟩ = .ok (list.statement, ⟨[], 0, names⟩) := by
  have hname : Parser.nameOf? (word "name").token = some (none, "name") := by decide
  have hoperand : Parser.IsOperand (word "name") (mentioned "name") :=
    Parser.isOperand_of_nameOf? hname
  have hitems : ∀ p ∈ [(word "name", mentioned "name")], Parser.IsOperand p.1 p.2 := by
    intro p hp
    obtain rfl := List.mem_singleton.1 hp
    exact hoperand
  have htable : Parser.name.run
      ⟨word "sqlite_master" :: word "WHERE" :: (kindTest.lexemes ++ andLexemes list.nameTests),
        0, names⟩
      = .ok ("sqlite_master",
        ⟨word "WHERE" :: (kindTest.lexemes ++ andLexemes list.nameTests), 0, names⟩) := rfl
  refine (Parser.run_select hitems (by simp) htable).trans ?_
  rw [Parser.run_bind_of_ok _ (run_whereClause list names)]
  rfl

/-- The query for tables is read as a query of the catalog. -/
lemma parse_query (list : ImportList) : parse list.query = .ok (some ⟨list.statement, 0⟩) := by
  have hrun : Parser.runnable.run ⟨word "SELECT" :: list.queryLexemes, 0, []⟩
      = .ok (list.statement, ⟨[], 0, []⟩) := by
    rw [Parser.runnable, Parser.run_bind_of_ok _ (Parser.run_accept (by decide))]
    exact list.run_select []
  exact Parser.parse_of_runnable list.tokens_query (by decide) hrun

end ImportList

/-! ### The query for columns -/

lemma toList_columnsQuery (table : String) : (columnsQuery table).toList
    = ("PRAGMA".toList ++ ' ' :: ("table_info".toList ++ ['(']))
      ++ (quoteRemoteName table).toList ++ [')'] :=
  String.toList_append.trans (congrArg (· ++ [')']) String.toList_append)

lemma isPhrase_columnsQuery (table : String) :
    IsPhrase (columnsQuery table).toList
      [word "PRAGMA", word "table_info", symbolLexeme '(', quotedName table, symbolLexeme ')'] := by
  have hpragma : IsPhrase "PRAGMA".toList [word "PRAGMA"] := .word (by decide)
  have hname : IsPhrase (quoteRemoteName table).toList [quotedName table] := by
    rw [quoteRemoteName, String.toList_ofList]
    exact .name table.toList
  have hcall : IsPhrase ("table_info".toList ++ '(' :: (quoteRemoteName table).toList ++ [')'])
      [word "table_info", symbolLexeme '(', quotedName table, symbolLexeme ')'] :=
    .call (by decide) hname
  have hall := hpragma.space hcall
  rw [toList_columnsQuery]
  simpa only [List.append_assoc, List.cons_append, List.nil_append] using hall

lemma parse_columnsQuery (table : String) :
    parse (columnsQuery table) = .ok (some ⟨.tableInfo table, 0⟩) := by
  have hhead : (columnsQuery table).toList.head? = some 'P' := by
    rw [toList_columnsQuery]
    rfl
  have htokens := (isPhrase_columnsQuery table).tokens_eq (by rw [hhead]; decide)
  have hpragma : Parser.pragma.run ⟨[word "table_info", symbolLexeme '(', quotedName table,
      symbolLexeme ')'], 0, []⟩ = .ok (.tableInfo table, ⟨[], 0, []⟩) := by
    rw [Parser.pragma, Parser.run_bind_of_ok _ (Parser.run_expect (by decide)),
      Parser.run_bind_of_ok _ (Parser.run_expectSymbol rfl),
      Parser.run_bind_of_ok _ (Parser.run_quotedName table),
      Parser.run_bind_of_ok _ (Parser.run_expectSymbol rfl)]
    rfl
  have hrun : Parser.runnable.run ⟨[word "PRAGMA", word "table_info", symbolLexeme '(',
      quotedName table, symbolLexeme ')'], 0, []⟩ = .ok (.tableInfo table, ⟨[], 0, []⟩) := by
    rw [Parser.runnable, Parser.run_bind_of_ok _ (Parser.run_accept_ne (by decide))]
    change StateT.run (Parser.accept "insert" >>= _) _ = _
    rw [Parser.run_bind_of_ok _ (Parser.run_accept_ne (by decide))]
    change StateT.run (Parser.accept "update" >>= _) _ = _
    rw [Parser.run_bind_of_ok _ (Parser.run_accept_ne (by decide))]
    change StateT.run (Parser.accept "delete" >>= _) _ = _
    rw [Parser.run_bind_of_ok _ (Parser.run_accept_ne (by decide))]
    change StateT.run (Parser.accept "pragma" >>= _) _ = _
    rw [Parser.run_bind_of_ok _ (Parser.run_accept (by decide))]
    exact hpragma
  exact Parser.parse_of_runnable htokens (by decide) hrun

end ForeignData
