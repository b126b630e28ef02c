import ForeignData.Proofs.Sqlite.Phrase
import ForeignData.Proofs.Sqlite.Reading

/-!
# Reading of changes

The tokens of an insertion, an update of rows and a removal of rows, where the values are the
placeholders from one on, are read as that change. There may be no more placeholders than SQLite
allows, and no more new values than columns.
-/

namespace ForeignData.Sqlite

/-! ### Tokens of changes -/

def commas (groups : List (List Lexeme)) : List Lexeme :=
  [symbolLexeme ','].intercalate groups

@[simp] lemma commas_singleton (group : List Lexeme) : commas [group] = group := by
  simp [commas, List.intercalate]

@[simp] lemma commas_cons_cons (group next : List Lexeme) (groups : List (List Lexeme)) :
    commas (group :: next :: groups) = group ++ symbolLexeme ',' :: commas (next :: groups) := by
  simp [commas, List.intercalate]

def word (s : String) : Lexeme :=
  wordLexeme s.toList

def quotedName (s : String) : Lexeme :=
  nameLexeme s.toList

def nameGroups (names : List String) : List (List Lexeme) :=
  names.map fun s => [quotedName s]

/-- The tokens of a number of placeholders behind the first `k`. -/
def placeholderGroups (k count : Nat) : List (List Lexeme) :=
  (List.range' (k + 1) count).map fun i => [placeholderLexeme i]

/-- The tokens that give names the values of the placeholders behind the first `k`. -/
def assignmentGroups (k : Nat) : List String → List (List Lexeme)
  | [] => []
  | s :: names =>
    [quotedName s, symbolLexeme '=', placeholderLexeme (k + 1)] :: assignmentGroups (k + 1) names

/-- The tokens of the condition that the key of a row is the value of a placeholder. -/
def rowidLexemes (n : Nat) : List Lexeme :=
  [word "WHERE", word "rowid", symbolLexeme '=', placeholderLexeme n]

/-- The tokens of the insertion of a row of defaults. -/
def insertDefaultsLexemes (table : String) : List Lexeme :=
  [word "INSERT", word "INTO", quotedName table, word "DEFAULT", word "VALUES"]

/-- The tokens of the insertion of a row with values for some columns. -/
def insertLexemes (table : String) (names : List String) : List Lexeme :=
  [word "INSERT", word "INTO", quotedName table, symbolLexeme '('] ++ commas (nameGroups names)
    ++ [symbolLexeme ')', word "VALUES", symbolLexeme '(']
    ++ commas (placeholderGroups 0 names.length) ++ [symbolLexeme ')']

/-- The tokens of new values for some columns in the row of a key. -/
def updateLexemes (table : String) (names : List String) : List Lexeme :=
  [word "UPDATE", quotedName table, word "SET"] ++ commas (assignmentGroups 0 names)
    ++ rowidLexemes (names.length + 1)

/-- The tokens of the removal of the row of a key. -/
def deleteLexemes (table : String) : List Lexeme :=
  [word "DELETE", word "FROM", quotedName table] ++ rowidLexemes 1

/-! ### What they are read as -/

/-- The placeholders behind the first `k` as values. -/
def placeholderValues (k count : Nat) : List (Expr Mention) :=
  (List.range' (k + 1) count).map .placeholder

/-- The condition that the key of a row is the value of a placeholder. -/
def rowidIs (n : Nat) : Expr Mention :=
  .compare .eq (.ref (.name none "rowid")) (.placeholder n)

namespace Parser

variable {α : Type} {keyword symbol : String} {lexeme : Lexeme} {rest : List Lexeme}
  {placeholders : Nat} {names : List (String × Nat)}

/-! ### Steps -/

lemma run_accept_ne (h : isKeyword keyword lexeme.token = false) :
    (accept keyword).run ⟨lexeme :: rest, placeholders, names⟩
      = .ok (false, ⟨lexeme :: rest, placeholders, names⟩) := by
  apply run_accept_of_not
  rintro ⟨token, hnext, hkeyword⟩
  obtain rfl := Option.some.inj hnext
  rw [h] at hkeyword
  cases hkeyword

lemma run_expect (h : isKeyword keyword lexeme.token = true) :
    (expect keyword).run ⟨lexeme :: rest, placeholders, names⟩
      = .ok ((), ⟨rest, placeholders, names⟩) := by
  rw [expect, run_bind_of_ok _ (run_accept h)]
  rfl

lemma run_expectSymbol (h : lexeme.token = .symbol symbol) :
    (expectSymbol symbol).run ⟨lexeme :: rest, placeholders, names⟩
      = .ok ((), ⟨rest, placeholders, names⟩) := by
  rw [expectSymbol, run_bind_of_ok _ (run_acceptSymbol h)]
  rfl

lemma run_quotedName (s : String) :
    name.run ⟨quotedName s :: rest, placeholders, names⟩
      = .ok (s, ⟨rest, placeholders, names⟩) := by
  have htoken : (quotedName s).token = .quoted '"' s := by
    rw [quotedName, nameLexeme, String.ofList_toList]
  exact run_name htoken

/-! ### Placeholders -/

/-- The next placeholder is the greatest so far. -/
lemma run_numberedPlaceholder {k : Nat} (h : k + 1 ≤ maxPlaceholder) :
    (numberedPlaceholder (k + 1)).run ⟨rest, k, names⟩
      = .ok (.placeholder (k + 1), ⟨rest, k + 1, names⟩) := by
  have hrange : ¬(k + 1 = 0 ∨ maxPlaceholder < k + 1) := by omega
  have hmax : max k (k + 1) = k + 1 := by omega
  rw [numberedPlaceholder, if_neg hrange]
  change Except.ok (Expr.placeholder (k + 1), ParserState.mk rest (max k (k + 1)) names) = _
  rw [hmax]

lemma run_operand_placeholder {k : Nat} (h : k + 1 ≤ maxPlaceholder) (n : Nat) :
    (operand (n + 1)).run ⟨placeholderLexeme (k + 1) :: rest, k, names⟩
      = .ok (.placeholder (k + 1), ⟨rest, k + 1, names⟩) := by
  rw [operand]
  exact run_numberedPlaceholder h

lemma not_nextIs_placeholder (n : Nat) :
    ¬NextIs keyword ⟨placeholderLexeme n :: rest, placeholders, names⟩ := by
  rintro ⟨token, hnext, hkeyword⟩
  obtain rfl := Option.some.inj hnext
  cases hkeyword

lemma run_expr_placeholder {k : Nat} (h : k + 1 ≤ maxPlaceholder)
    (hends : EndsExpr ⟨rest, k + 1, names⟩) (n : Nat) :
    (expr (n + 9)).run ⟨placeholderLexeme (k + 1) :: rest, k, names⟩
      = .ok (.placeholder (k + 1), ⟨rest, k + 1, names⟩) :=
  run_expr (run_operand_placeholder h n) (not_nextIs_placeholder _) hends

lemma endsExpr_symbol {c : Char} (h : c = ',' ∨ c = ')') :
    EndsExpr ⟨symbolLexeme c :: rest, placeholders, names⟩ := by
  intro token hnext
  obtain rfl := Option.some.inj hnext
  rcases h with rfl | rfl <;> decide

lemma run_acceptComma_close :
    (acceptSymbol ",").run ⟨symbolLexeme ')' :: rest, placeholders, names⟩
      = .ok (false, ⟨symbolLexeme ')' :: rest, placeholders, names⟩) := by
  have hne : (symbolLexeme ')').token ≠ .symbol "," := by decide
  exact run_acceptSymbol_of_ne fun heq => hne (Option.some.inj heq)

lemma run_fuel_eq {n : Nat} (h : 20 * (rest.length + 1) = n) :
    fuel.run ⟨rest, placeholders, names⟩ = .ok (n, ⟨rest, placeholders, names⟩) := by
  rw [← h]
  rfl

/-- Placeholders with commas between them, up to a closing parenthesis. -/
lemma run_exprs (k : Nat) {count n : Nat} (hcount : 0 < count)
    (hmax : k + count ≤ maxPlaceholder) (hn : count + 9 ≤ n) (rest : List Lexeme)
    (names : List (String × Nat)) :
    (exprs n).run ⟨commas (placeholderGroups k count) ++ symbolLexeme ')' :: rest, k, names⟩
      = .ok (placeholderValues k count, ⟨symbolLexeme ')' :: rest, k + count, names⟩) := by
  induction count generalizing k n with
  | zero => exact absurd hcount (lt_irrefl 0)
  | succ count ih =>
    obtain ⟨n, rfl⟩ : ∃ m, n = m + 9 + 1 := ⟨n - 10, by omega⟩
    cases count with
    | zero =>
      rw [exprs]
      change StateT.run (expr (n + 9) >>= _)
        ⟨placeholderLexeme (k + 1) :: symbolLexeme ')' :: rest, k, names⟩ = _
      rw [run_bind_of_ok _ (run_expr_placeholder hmax (endsExpr_symbol (.inr rfl)) n),
        run_bind_of_ok _ run_acceptComma_close]
      rfl
    | succ count =>
      have hrest := ih (k + 1) (by omega) (by omega) (Nat.le_of_succ_le_succ hn)
      rw [exprs]
      change StateT.run (expr (n + 9) >>= _) ⟨placeholderLexeme (k + 1) :: symbolLexeme ',' ::
        (commas (placeholderGroups (k + 1) (count + 1)) ++ symbolLexeme ')' :: rest), k, names⟩ = _
      rw [run_bind_of_ok _ (run_expr_placeholder (by omega) (endsExpr_symbol (.inl rfl)) n),
        run_bind_of_ok _ (run_acceptSymbol rfl)]
      change StateT.run (exprs (n + 9) >>= _) _ = _
      rw [run_bind_of_ok _ hrest, Nat.add_right_comm k 1]
      rfl

/-! ### Insertions -/

/-- Names with commas between them, up to a closing parenthesis. -/
lemma run_names {columns : List String} (hne : columns ≠ []) {n : Nat}
    (hn : columns.length ≤ n) (rest : List Lexeme) (placeholders : Nat)
    (names : List (String × Nat)) :
    (commaSeparated name n).run
        ⟨commas (nameGroups columns) ++ symbolLexeme ')' :: rest, placeholders, names⟩
      = .ok (columns, ⟨symbolLexeme ')' :: rest, placeholders, names⟩) := by
  induction columns generalizing n with
  | nil => exact absurd rfl hne
  | cons s columns ih =>
    obtain ⟨n, rfl⟩ : ∃ m, n = m + 1 := ⟨n - 1, by rw [List.length_cons] at hn; omega⟩
    cases columns with
    | nil =>
      rw [commaSeparated]
      change StateT.run (name >>= _)
        ⟨quotedName s :: symbolLexeme ')' :: rest, placeholders, names⟩ = _
      rw [run_bind_of_ok _ (run_quotedName s), run_bind_of_ok _ run_acceptComma_close]
      rfl
    | cons t columns =>
      have hrest := ih (by simp) (n := n) (by rw [List.length_cons] at hn; omega)
      rw [commaSeparated]
      change StateT.run (name >>= _) ⟨quotedName s :: symbolLexeme ',' ::
        (commas (nameGroups (t :: columns)) ++ symbolLexeme ')' :: rest), placeholders, names⟩ = _
      rw [run_bind_of_ok _ (run_quotedName s), run_bind_of_ok _ (run_acceptSymbol rfl)]
      change StateT.run (commaSeparated name n >>= _) _ = _
      rw [run_bind_of_ok _ hrest]
      rfl

lemma length_commas (groups : List (List Lexeme)) (h : ∀ g ∈ groups, g ≠ []) :
    groups.length ≤ (commas groups).length := by
  induction groups with
  | nil => exact Nat.zero_le _
  | cons g groups ih =>
    obtain ⟨hg, htail⟩ := List.forall_mem_cons.1 h
    have hpos := List.length_pos_iff.2 hg
    cases groups with
    | nil =>
      rw [commas_singleton]
      exact hpos
    | cons g' groups =>
      have hrest := ih htail
      have hlength : (commas (g :: g' :: groups)).length
          = g.length + ((commas (g' :: groups)).length + 1) := by
        rw [commas_cons_cons, List.length_append, List.length_cons]
      rw [hlength, List.length_cons]
      omega

lemma exists_fuel {groups : List (List Lexeme)} (h : ∀ g ∈ groups, g ≠ []) (rest : List Lexeme) :
    ∃ n, groups.length + 9 ≤ n ∧ 20 * ((commas groups ++ rest).length + 1) = n := by
  have hlength := length_commas groups h
  refine ⟨_, ?_, rfl⟩
  rw [List.length_append]
  omega

lemma run_insertDefaults (table : String) :
    insert.run ⟨[word "INTO", quotedName table, word "DEFAULT", word "VALUES"], 0, names⟩
      = .ok (.insertDefaults table, ⟨[], 0, names⟩) := by
  rw [insert, run_bind_of_ok _ (run_expect (by decide)), run_bind_of_ok _ (run_quotedName table),
    run_bind_of_ok _ (run_accept (by decide))]
  change StateT.run (expect "values" >>= _) _ = _
  rw [run_bind_of_ok _ (run_expect (by decide))]
  rfl

lemma run_insert (table : String) {columns : List String} (hne : columns ≠ [])
    (hmax : columns.length ≤ maxPlaceholder) :
    insert.run ⟨(insertLexemes table columns).tail, 0, names⟩
      = .ok (.insert table (some columns) (placeholderValues 0 columns.length),
          ⟨[], columns.length, names⟩) := by
  have hpos := List.length_pos_iff.2 hne
  have hnames : ∀ g ∈ nameGroups columns, g ≠ [] := by simp [nameGroups]
  have hvalues : ∀ g ∈ placeholderGroups 0 columns.length, g ≠ [] := by
    intro g hg
    obtain ⟨i, -, rfl⟩ := List.mem_map.1 hg
    simp
  have hlexemes : (insertLexemes table columns).tail
      = word "INTO" :: quotedName table :: symbolLexeme '(' :: (commas (nameGroups columns)
        ++ symbolLexeme ')' :: word "VALUES" :: symbolLexeme '('
          :: (commas (placeholderGroups 0 columns.length) ++ [symbolLexeme ')'])) := by
    simp [insertLexemes]
  obtain ⟨n, hn, hfuel⟩ := exists_fuel hnames (symbolLexeme ')' :: word "VALUES"
    :: symbolLexeme '(' :: (commas (placeholderGroups 0 columns.length) ++ [symbolLexeme ')']))
  obtain ⟨m, hm, hfuel'⟩ := exists_fuel hvalues [symbolLexeme ')']
  simp only [nameGroups, placeholderGroups, List.length_map, List.length_range'] at hn hm
  have hcolumns := run_names hne (n := n) (by omega) (word "VALUES" :: symbolLexeme '('
    :: (commas (placeholderGroups 0 columns.length) ++ [symbolLexeme ')'])) 0 names
  have hexprs := run_exprs 0 (n := m) hpos (by omega) (by omega) [] names
  rw [hlexemes, insert, run_bind_of_ok _ (run_expect (by decide)),
    run_bind_of_ok _ (run_quotedName table), run_bind_of_ok _ (run_accept_ne (by decide))]
  change StateT.run (acceptSymbol "(" >>= _) _ = _
  rw [run_bind_of_ok _ (run_acceptSymbol rfl)]
  change StateT.run (fuel >>= _) _ = _
  rw [run_bind_of_ok _ (run_fuel_eq hfuel)]
  change StateT.run (commaSeparated name n >>= _) _ = _
  rw [run_bind_of_ok _ hcolumns]
  change StateT.run (expectSymbol ")" >>= _) _ = _
  rw [run_bind_of_ok _ (run_expectSymbol rfl)]
  rw [pure_bind, run_bind_of_ok _ (run_expect (by decide)),
    run_bind_of_ok _ (run_expectSymbol rfl), run_bind_of_ok _ (run_fuel_eq hfuel'),
    run_bind_of_ok _ hexprs, run_bind_of_ok _ (run_expectSymbol rfl), Nat.zero_add]
  rfl

/-! ### Conditions on the key -/

lemma run_fuel_add {rest : List Lexeme} (hrest : rest ≠ []) (placeholders : Nat)
    (names : List (String × Nat)) :
    ∃ n, fuel.run ⟨rest, placeholders, names⟩ = .ok (n + 16, ⟨rest, placeholders, names⟩) := by
  have hpos := List.length_pos_iff.2 hrest
  exact ⟨20 * (rest.length + 1) - 16, run_fuel_eq (by omega)⟩

lemma run_operand_rowid (k n : Nat) :
    (operand (n + 1)).run ⟨(rowidLexemes k).tail, placeholders, names⟩
      = .ok (.ref (.name none "rowid"),
          ⟨[symbolLexeme '=', placeholderLexeme k], placeholders, names⟩) :=
  run_operand_of_nameOf? rfl (by simp [ParserState.next?, symbolLexeme]) n

lemma not_nextIs_rowid (k : Nat) : ¬NextIs "not" ⟨(rowidLexemes k).tail, placeholders, names⟩ := by
  rintro ⟨token, hnext, hkeyword⟩
  obtain rfl := Option.some.inj hnext
  exact absurd hkeyword (by decide)

lemma endsOrdered_equals (rest : List Lexeme) :
    EndsOrdered ⟨symbolLexeme '=' :: rest, placeholders, names⟩ := by
  apply EndsOrdered.of_next?
  · rintro token ⟨⟩
    decide
  · rintro token ⟨⟩
    decide

lemma run_expr_rowidIs {k : Nat} (h : k + 1 ≤ maxPlaceholder) (n : Nat) :
    (expr (n + 16)).run ⟨(rowidLexemes (k + 1)).tail, k, names⟩
      = .ok (rowidIs (k + 1), ⟨[], k + 1, names⟩) := by
  have hplaceholder : (ordered (n + 13)).run ⟨[placeholderLexeme (k + 1)], k, names⟩
      = .ok (.placeholder (k + 1), ⟨[], k + 1, names⟩) :=
    run_ordered (run_operand_placeholder h (n + 6)) (EndsExpr.endsOrdered endsExpr_nil)
  refine run_expr_of_condition (run_condition (not_nextIs_rowid (k + 1))
    (run_operand_rowid (k + 1) (n + 7)) (endsOrdered_equals _) ?_) endsExpr_nil
  exact run_tests_equality rfl hplaceholder (by simp [Expr.height, maxHeight])
    (run_tests (EndsExpr.endsTests endsExpr_nil) _ _)

/-- The condition on the key stands at the end. -/
lemma run_whereClause {k : Nat} (h : k + 1 ≤ maxPlaceholder) :
    whereClause.run ⟨rowidLexemes (k + 1), k, names⟩
      = .ok (some (rowidIs (k + 1)), ⟨[], k + 1, names⟩) := by
  have hne : (rowidLexemes (k + 1)).tail ≠ [] := by simp [rowidLexemes]
  obtain ⟨n, hfuel⟩ := run_fuel_add hne k names
  have haccept : (accept "where").run ⟨rowidLexemes (k + 1), k, names⟩
      = .ok (true, ⟨(rowidLexemes (k + 1)).tail, k, names⟩) := run_accept (by decide)
  rw [whereClause, run_bind_of_ok _ haccept]
  change StateT.run (fuel >>= _) _ = _
  rw [run_bind_of_ok _ hfuel, run_bind_of_ok _ (run_expr_rowidIs h n)]
  rfl

lemma run_delete (table : String) :
    delete.run ⟨(deleteLexemes table).tail, 0, names⟩
      = .ok (.delete table (some (rowidIs 1)), ⟨[], 1, names⟩) := by
  have hlexemes : (deleteLexemes table).tail
      = word "FROM" :: quotedName table :: rowidLexemes (0 + 1) := rfl
  rw [hlexemes, delete, run_bind_of_ok _ (run_expect (by decide)),
    run_bind_of_ok _ (run_quotedName table), run_bind_of_ok _ (run_whereClause (by decide))]
  rfl

/-! ### Updates -/

lemma run_assignment {k : Nat} (s : String) (h : k + 1 ≤ maxPlaceholder)
    (hends : EndsExpr ⟨rest, k + 1, names⟩) :
    assignment.run ⟨quotedName s :: symbolLexeme '=' :: placeholderLexeme (k + 1) :: rest, k, names⟩
      = .ok ((s, .placeholder (k + 1)), ⟨rest, k + 1, names⟩) := by
  obtain ⟨n, hfuel⟩ := run_fuel_add (List.cons_ne_nil (placeholderLexeme (k + 1)) rest) k names
  rw [assignment, run_bind_of_ok _ (run_quotedName s), run_bind_of_ok _ (run_expectSymbol rfl),
    run_bind_of_ok _ hfuel, run_bind_of_ok _ (run_expr_placeholder h hends (n + 7))]
  rfl

/-- New values with commas between them, up to the condition. -/
lemma run_assignments {columns : List String} (hne : columns ≠ []) {k n : Nat}
    (hmax : k + columns.length ≤ maxPlaceholder) (hn : columns.length ≤ n) (m : Nat)
    (names : List (String × Nat)) :
    (commaSeparated assignment n).run
        ⟨commas (assignmentGroups k columns) ++ rowidLexemes m, k, names⟩
      = .ok (columns.zip (placeholderValues k columns.length),
          ⟨rowidLexemes m, k + columns.length, names⟩) := by
  induction columns generalizing k n with
  | nil => exact absurd rfl hne
  | cons s columns ih =>
    rw [List.length_cons] at hmax hn
    obtain ⟨n, rfl⟩ : ∃ m, n = m + 1 := ⟨n - 1, by omega⟩
    cases columns with
    | nil =>
      have hends : EndsExpr ⟨rowidLexemes m, k + 1, names⟩ := by
        rintro token ⟨⟩
        decide
      have hcomma : (acceptSymbol ",").run ⟨rowidLexemes m, k + 1, names⟩
          = .ok (false, ⟨rowidLexemes m, k + 1, names⟩) := by
        apply run_acceptSymbol_of_ne
        rintro ⟨⟩
      rw [commaSeparated]
      change StateT.run (assignment >>= _) ⟨quotedName s :: symbolLexeme '='
        :: placeholderLexeme (k + 1) :: rowidLexemes m, k, names⟩ = _
      rw [run_bind_of_ok _ (run_assignment s (by omega) hends), run_bind_of_ok _ hcomma]
      rfl
    | cons t columns =>
      have hrest := ih (by simp) (k := k + 1) (n := n) (by omega) (by omega)
      rw [commaSeparated]
      change StateT.run (assignment >>= _) ⟨quotedName s :: symbolLexeme '='
        :: placeholderLexeme (k + 1) :: symbolLexeme ','
        :: (commas (assignmentGroups (k + 1) (t :: columns)) ++ rowidLexemes m), k, names⟩ = _
      rw [run_bind_of_ok _ (run_assignment s (by omega) (endsExpr_symbol (.inl rfl))),
        run_bind_of_ok _ (run_acceptSymbol rfl)]
      change StateT.run (commaSeparated assignment n >>= _) _ = _
      rw [run_bind_of_ok _ hrest, Nat.add_right_comm k 1]
      rfl

lemma length_assignmentGroups (k : Nat) (columns : List String) :
    (assignmentGroups k columns).length = columns.length := by
  induction columns generalizing k with
  | nil => rfl
  | cons s columns ih => rw [assignmentGroups, List.length_cons, ih, List.length_cons]

lemma ne_nil_of_mem_assignmentGroups {k : Nat} {columns : List String} {g : List Lexeme}
    (h : g ∈ assignmentGroups k columns) : g ≠ [] := by
  induction columns generalizing k with
  | nil => cases h
  | cons s columns ih =>
    rcases List.mem_cons.1 h with rfl | h
    · simp
    · exact ih h

lemma run_update (table : String) {columns : List String} (hne : columns ≠ [])
    (hmax : columns.length ≤ maxColumns) :
    update.run ⟨(updateLexemes table columns).tail, 0, names⟩
      = .ok (.update table (columns.zip (placeholderValues 0 columns.length))
          (some (rowidIs (columns.length + 1))), ⟨[], columns.length + 1, names⟩) := by
  have hlimits : maxColumns < maxPlaceholder := by decide
  have hlexemes : (updateLexemes table columns).tail
      = quotedName table :: word "SET" :: (commas (assignmentGroups 0 columns)
        ++ rowidLexemes (columns.length + 1)) := rfl
  have hgroups : ∀ g ∈ assignmentGroups 0 columns, g ≠ [] :=
    fun g hg => ne_nil_of_mem_assignmentGroups hg
  obtain ⟨n, hn, hfuel⟩ := exists_fuel hgroups (rowidLexemes (columns.length + 1))
  rw [length_assignmentGroups] at hn
  have hsets := run_assignments hne (k := 0) (n := n) (by omega) (by omega) (columns.length + 1)
    names
  rw [Nat.zero_add] at hsets
  have hlength : (columns.zip (placeholderValues 0 columns.length)).length = columns.length := by
    simp [placeholderValues]
  rw [hlexemes, update, run_bind_of_ok _ (run_quotedName table),
    run_bind_of_ok _ (run_expect (by decide)), run_bind_of_ok _ (run_fuel_eq hfuel),
    run_bind_of_ok _ hsets, run_bind_of_ok _ (run_whereClause (by omega)),
    run_bind_of_ok _ run_peek]
  change StateT.run (if maxColumns < _ then _ else _) _ = _
  rw [hlength, if_neg (Nat.not_lt.2 hmax)]
  rfl

/-! ### Refused updates -/

/-- A comparison by order that has been read begins with an operand. -/
lemma run_ordered_eq_ok {s s' : ParserState} {x : Expr Mention} {n : Nat}
    (h : (ordered (n + 6)).run s = .ok (x, s')) : ∃ y s'', (operand n).run s = .ok (y, s'') := by
  obtain ⟨x₄, s₄, h, -⟩ := run_bind_eq_ok h
  obtain ⟨x₃, s₃, h, -⟩ := run_bind_eq_ok h
  obtain ⟨x₂, s₂, h, -⟩ := run_bind_eq_ok h
  obtain ⟨x₁, s₁, h, -⟩ := run_bind_eq_ok h
  obtain ⟨x₀, s₀, h, -⟩ := run_bind_eq_ok h
  exact ⟨x₀, s₀, h⟩

/-- An expression that has been read begins with a comparison by order and its tests. -/
lemma run_expr_eq_ok {s s' : ParserState} {x : Expr Mention} {n : Nat} (hnot : ¬NextIs "not" s)
    (h : (expr (n + 2)).run s = .ok (x, s')) :
    ∃ y s₁, (ordered n).run s = .ok (y, s₁) ∧ ∃ z s₂, (tests n y).run s₁ = .ok (z, s₂) := by
  obtain ⟨z, s₂, h, -⟩ := run_bind_eq_ok h
  rw [condition, run_bind_of_ok _ (run_accept_of_not hnot)] at h
  change (ordered n >>= fun y => tests n y).run s = _ at h
  obtain ⟨y, s₁, hordered, htests⟩ := run_bind_eq_ok h
  exact ⟨y, s₁, hordered, z, s₂, htests⟩

lemma le_maxPlaceholder_of_operand {k n : Nat} {result : Expr Mention × ParserState}
    (h : (operand (n + 1)).run ⟨placeholderLexeme (k + 1) :: rest, placeholders, names⟩
      = .ok result) : k + 1 ≤ maxPlaceholder := by
  have hnumbered : (operand (n + 1)).run ⟨placeholderLexeme (k + 1) :: rest, placeholders, names⟩
      = (numberedPlaceholder (k + 1)).run ⟨rest, placeholders, names⟩ := by
    rw [operand]
    rfl
  by_contra hlarge
  rw [hnumbered, numberedPlaceholder, if_pos (.inr (Nat.lt_of_not_le hlarge))] at h
  cases h

lemma le_maxPlaceholder_of_assignment {k : Nat} {s : String}
    {result : (String × Expr Mention) × ParserState}
    (h : assignment.run
      ⟨quotedName s :: symbolLexeme '=' :: placeholderLexeme (k + 1) :: rest, placeholders, names⟩
        = .ok result) : k + 1 ≤ maxPlaceholder := by
  obtain ⟨n, hfuel⟩ :=
    run_fuel_add (List.cons_ne_nil (placeholderLexeme (k + 1)) rest) placeholders names
  rw [assignment, run_bind_of_ok _ (run_quotedName s), run_bind_of_ok _ (run_expectSymbol rfl),
    run_bind_of_ok _ hfuel] at h
  obtain ⟨x, s₁, hexpr, -⟩ := run_bind_eq_ok h
  obtain ⟨y, s₂, hordered, -⟩ := run_expr_eq_ok (not_nextIs_placeholder _) hexpr
  obtain ⟨z, s₃, hoperand⟩ := run_ordered_eq_ok hordered
  exact le_maxPlaceholder_of_operand hoperand

/-- New values that have been read have placeholders that are allowed. -/
lemma le_maxPlaceholder_of_assignments {columns : List String} (hne : columns ≠ []) {k n : Nat}
    {result : List (String × Expr Mention) × ParserState}
    (h : (commaSeparated assignment n).run ⟨commas (assignmentGroups k columns) ++ rest, k, names⟩
      = .ok result) : k + columns.length ≤ maxPlaceholder := by
  induction columns generalizing k n result with
  | nil => exact absurd rfl hne
  | cons s columns ih =>
    cases n with
    | zero => exact absurd h run_unexpected_ne_ok
    | succ n =>
      obtain ⟨set, s₁, hassignment, h⟩ := run_bind_eq_ok h
      cases columns with
      | nil => exact le_maxPlaceholder_of_assignment hassignment
      | cons t columns =>
        change assignment.run ⟨quotedName s :: symbolLexeme '=' :: placeholderLexeme (k + 1)
          :: symbolLexeme ',' :: (commas (assignmentGroups (k + 1) (t :: columns)) ++ rest),
          k, names⟩ = _ at hassignment
        have hmax := le_maxPlaceholder_of_assignment hassignment
        rw [run_assignment s hmax (endsExpr_symbol (.inl rfl))] at hassignment
        cases hassignment
        rw [run_bind_of_ok _ (run_acceptSymbol rfl)] at h
        change StateT.run (commaSeparated assignment n >>= _) _ = _ at h
        obtain ⟨sets, s₂, hrest, -⟩ := run_bind_eq_ok h
        have hlength := ih (by simp) hrest
        rw [List.length_cons]
        omega

lemma le_maxPlaceholder_of_whereClause {k : Nat} {result : Option (Expr Mention) × ParserState}
    (h : whereClause.run ⟨rowidLexemes (k + 1), placeholders, names⟩ = .ok result) :
    k + 1 ≤ maxPlaceholder := by
  have hne : (rowidLexemes (k + 1)).tail ≠ [] := by simp [rowidLexemes]
  obtain ⟨n, hfuel⟩ := run_fuel_add hne placeholders names
  have haccept : (accept "where").run ⟨rowidLexemes (k + 1), placeholders, names⟩
      = .ok (true, ⟨(rowidLexemes (k + 1)).tail, placeholders, names⟩) := run_accept (by decide)
  rw [whereClause, run_bind_of_ok _ haccept] at h
  change StateT.run (fuel >>= _) _ = _ at h
  rw [run_bind_of_ok _ hfuel] at h
  obtain ⟨x, s₁, hexpr, -⟩ := run_bind_eq_ok h
  obtain ⟨y, s₂, hrowid, z, s₃, htests⟩ := run_expr_eq_ok (not_nextIs_rowid (k + 1)) hexpr
  rw [run_ordered (run_operand_rowid (k + 1) (n + 7)) (endsOrdered_equals _)] at hrowid
  cases hrowid
  obtain ⟨token, s₄, hpeek, htests⟩ := run_bind_eq_ok htests
  cases hpeek
  change StateT.run (skip >>= _) _ = _ at htests
  rw [run_bind_of_ok _ run_skip] at htests
  obtain ⟨w, s₅, hordered, -⟩ := run_bind_eq_ok htests
  obtain ⟨v, s₆, hoperand⟩ := run_ordered_eq_ok hordered
  exact le_maxPlaceholder_of_operand hoperand

/-- An update that has been read has no more new values than a table may have columns. -/
lemma length_le_of_run_update {table : String} {columns : List String} (hne : columns ≠ [])
    {result : Statement × ParserState}
    (h : update.run ⟨(updateLexemes table columns).tail, 0, names⟩ = .ok result) :
    columns.length ≤ maxColumns := by
  have hlexemes : (updateLexemes table columns).tail
      = quotedName table :: word "SET" :: (commas (assignmentGroups 0 columns)
        ++ rowidLexemes (columns.length + 1)) := rfl
  have hgroups : ∀ g ∈ assignmentGroups 0 columns, g ≠ [] :=
    fun g hg => ne_nil_of_mem_assignmentGroups hg
  obtain ⟨n, hn, hfuel⟩ := exists_fuel hgroups (rowidLexemes (columns.length + 1))
  rw [length_assignmentGroups] at hn
  rw [hlexemes, update, run_bind_of_ok _ (run_quotedName table),
    run_bind_of_ok _ (run_expect (by decide)), run_bind_of_ok _ (run_fuel_eq hfuel)] at h
  obtain ⟨sets, s₁, hsets, h⟩ := run_bind_eq_ok h
  have hmax := le_maxPlaceholder_of_assignments hne hsets
  rw [run_assignments hne hmax (by omega) (columns.length + 1) names] at hsets
  cases hsets
  obtain ⟨condition, s₂, hcondition, h⟩ := run_bind_eq_ok h
  have hplaceholder := le_maxPlaceholder_of_whereClause hcondition
  rw [Nat.zero_add, run_whereClause hplaceholder] at hcondition
  cases hcondition
  rw [run_bind_of_ok _ run_peek] at h
  change StateT.run (if maxColumns < _ then _ else _) _ = _ at h
  by_contra hlarge
  have hlength : (columns.zip (placeholderValues 0 columns.length)).length = columns.length := by
    simp [placeholderValues]
  rw [hlength, if_pos (Nat.lt_of_not_le hlarge)] at h
  cases h

/-! ### Statements -/

lemma run_runnable_insert : runnable.run ⟨word "INSERT" :: rest, 0, names⟩
    = insert.run ⟨rest, 0, names⟩ := by
  rw [runnable, run_bind_of_ok _ (run_accept_ne (by decide))]
  change StateT.run (accept "insert" >>= _) _ = _
  rw [run_bind_of_ok _ (run_accept (by decide))]
  rfl

lemma run_runnable_update : runnable.run ⟨word "UPDATE" :: rest, 0, names⟩
    = update.run ⟨rest, 0, names⟩ := by
  rw [runnable, run_bind_of_ok _ (run_accept_ne (by decide))]
  change StateT.run (accept "insert" >>= _) _ = _
  rw [run_bind_of_ok _ (run_accept_ne (by decide))]
  change StateT.run (accept "update" >>= _) _ = _
  rw [run_bind_of_ok _ (run_accept (by decide))]
  rfl

lemma run_runnable_delete : runnable.run ⟨word "DELETE" :: rest, 0, names⟩
    = delete.run ⟨rest, 0, names⟩ := by
  rw [runnable, run_bind_of_ok _ (run_accept_ne (by decide))]
  change StateT.run (accept "insert" >>= _) _ = _
  rw [run_bind_of_ok _ (run_accept_ne (by decide))]
  change StateT.run (accept "update" >>= _) _ = _
  rw [run_bind_of_ok _ (run_accept_ne (by decide))]
  change StateT.run (accept "delete" >>= _) _ = _
  rw [run_bind_of_ok _ (run_accept (by decide))]
  rfl

/-- A statement that takes all tokens is what a text with these tokens is read as. -/
lemma parse_of_runnable {sql : String} {statement : Statement}
    (htokens : tokens sql.toList = lexeme :: rest)
    (hexplain : isKeyword "explain" lexeme.token = false)
    (hrun : runnable.run ⟨lexeme :: rest, 0, []⟩ = .ok (statement, ⟨[], placeholders, names⟩)) :
    parse sql = .ok (some ⟨statement, placeholders⟩) := by
  have hstatement : Parser.statement.run ⟨lexeme :: rest, 0, []⟩
      = .ok (statement, ⟨[], placeholders, names⟩) := by
    rw [Parser.statement, run_bind_of_ok _ (run_accept_ne hexplain)]
    change StateT.run (runnable >>= _) _ = _
    rw [run_bind_of_ok _ hrun]
    rfl
  rw [parse_of_tokens htokens, hstatement]
  rfl

/-- A statement without a wish for its plan that a text is read as. -/
lemma run_runnable_of_parse {sql : String} {parsed : ParsedStatement}
    (htokens : tokens sql.toList = lexeme :: rest)
    (hexplain : isKeyword "explain" lexeme.token = false) (h : parse sql = .ok (some parsed)) :
    ∃ result, runnable.run ⟨lexeme :: rest, 0, []⟩ = .ok result := by
  rw [parse_of_tokens htokens] at h
  cases hstatement : Parser.statement.run ⟨lexeme :: rest, 0, []⟩ with
  | error message =>
    rw [hstatement] at h
    cases h
  | ok result =>
    rw [Parser.statement, run_bind_of_ok _ (run_accept_ne hexplain)] at hstatement
    change StateT.run (runnable >>= _) _ = _ at hstatement
    obtain ⟨statement, s, hrun, -⟩ := run_bind_eq_ok hstatement
    exact ⟨(statement, s), hrun⟩

end Parser

section Texts

variable {sql table : String} {columns : List String}

lemma parse_of_insertDefaultsLexemes (h : tokens sql.toList = insertDefaultsLexemes table) :
    parse sql = .ok (some ⟨.insertDefaults table, 0⟩) :=
  Parser.parse_of_runnable h (by decide)
    (Parser.run_runnable_insert.trans (Parser.run_insertDefaults table))

lemma parse_of_insertLexemes (h : tokens sql.toList = insertLexemes table columns)
    (hne : columns ≠ []) (hmax : columns.length ≤ Parser.maxPlaceholder) :
    parse sql = .ok (some ⟨.insert table (some columns) (placeholderValues 0 columns.length),
      columns.length⟩) :=
  Parser.parse_of_runnable h (by decide)
    (Parser.run_runnable_insert.trans (Parser.run_insert table hne hmax))

lemma parse_of_updateLexemes (h : tokens sql.toList = updateLexemes table columns)
    (hne : columns ≠ []) (hmax : columns.length ≤ maxColumns) :
    parse sql = .ok (some ⟨.update table (columns.zip (placeholderValues 0 columns.length))
      (some (rowidIs (columns.length + 1))), columns.length + 1⟩) :=
  Parser.parse_of_runnable h (by decide)
    (Parser.run_runnable_update.trans (Parser.run_update table hne hmax))

/-- A text with more new values than SQLite takes is not read. -/
lemma length_le_of_parse_updateLexemes (h : tokens sql.toList = updateLexemes table columns)
    (hne : columns ≠ []) {parsed : ParsedStatement} (hparse : parse sql = .ok (some parsed)) :
    columns.length ≤ maxColumns := by
  obtain ⟨result, hrun⟩ := Parser.run_runnable_of_parse h (by decide) hparse
  exact Parser.length_le_of_run_update hne (Parser.run_runnable_update.symm.trans hrun)

lemma parse_of_deleteLexemes (h : tokens sql.toList = deleteLexemes table) :
    parse sql = .ok (some ⟨.delete table (some (rowidIs 1)), 1⟩) :=
  Parser.parse_of_runnable h (by decide)
    (Parser.run_runnable_delete.trans (Parser.run_delete table))

end Texts

end ForeignData.Sqlite
