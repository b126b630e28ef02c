import ForeignData.Proofs.Sqlite.Changes

/-!
# Tests of texts

Conditions on columns of texts that have to hold together: that a column equals a text, that it does
not fit a pattern, that it is or is not one of some texts. Their tokens are read as these conditions
one after the other.
-/

namespace ForeignData.Sqlite

/-- What is asked of a column of texts. -/
inductive TextTest where
  | equals (s : String)
  | unlike (pattern : String)
  | oneOf (texts : List String)
  | noneOf (texts : List String)

/-- A test of the column of a name. -/
structure NamedTest where
  column : String
  test : TextTest

/-! ### Tokens -/

def quotedText (s : String) : Lexeme :=
  stringLexeme s.toList

def textGroups (texts : List String) : List (List Lexeme) :=
  texts.map fun s => [quotedText s]

def choiceLexemes (texts : List String) : List Lexeme :=
  symbolLexeme '(' :: (commas (textGroups texts) ++ [symbolLexeme ')'])

def TextTest.lexemes : TextTest → List Lexeme
  | equals s => [symbolLexeme '=', quotedText s]
  | unlike pattern => [word "NOT", word "LIKE", quotedText pattern]
  | oneOf texts => word "IN" :: choiceLexemes texts
  | noneOf texts => word "NOT" :: word "IN" :: choiceLexemes texts

def NamedTest.lexemes (t : NamedTest) : List Lexeme :=
  word t.column :: t.test.lexemes

/-- The tokens of tests behind another one. -/
def andLexemes (tests : List NamedTest) : List Lexeme :=
  tests.flatMap fun t => word "AND" :: t.lexemes

/-! ### What they are read as -/

section Expressions

variable {ρ : Type}

def textExpr (s : String) : Expr ρ :=
  .constant (.ofText s)

/-- Membership in a list of texts. A single one is compared with, and there is nothing in none. -/
def memberExpr (x : Expr ρ) : List String → Expr ρ
  | [] => .constant (.integer 0)
  | [s] => .compare .eq x (.signed (textExpr s))
  | texts => .oneOf x (texts.map textExpr)

def TextTest.expr (x : Expr ρ) : TextTest → Expr ρ
  | equals s => .compare .eq x (textExpr s)
  | unlike pattern => .not (.like x (textExpr pattern))
  | oneOf texts => memberExpr x texts
  | noneOf texts => .not (memberExpr x texts)

/-- Both of two conditions. A zero among them is all there is to them. -/
def bothExpr (x y : Expr ρ) : Expr ρ :=
  if x.isZero || y.isZero then .constant (.integer 0) else .both x y

/-- The condition that a test of a column is, where columns are referred to in some way. -/
def NamedTest.expr (ref : String → Expr ρ) (t : NamedTest) : Expr ρ :=
  t.test.expr (ref t.column)

/-- Tests that have to hold together with a condition. -/
def allExpr (ref : String → Expr ρ) (x : Expr ρ) (tests : List NamedTest) : Expr ρ :=
  tests.foldl (fun x t => bothExpr x (t.expr ref)) x

end Expressions

/-- A column as it is referred to by a bare name. -/
def mentioned (column : String) : Expr Mention :=
  .ref (.name none column)

/-! ### Heights -/

section Heights

variable {ρ : Type} {x y : Expr ρ}

lemma heightAll_textExpr_le (texts : List String) :
    Expr.heightAll (texts.map (textExpr (ρ := ρ))) ≤ 1 := by
  induction texts with
  | nil => exact Nat.zero_le 1
  | cons s texts ih => exact Nat.max_le.2 ⟨le_rfl, ih⟩

lemma height_memberExpr_le (hx : x.height = 1) (texts : List String) :
    (memberExpr x texts).height ≤ 3 := by
  match texts with
  | [] => simp [memberExpr, Expr.height]
  | [s] => simp [memberExpr, textExpr, Expr.height, hx]
  | s :: t :: texts =>
    have hall := heightAll_textExpr_le (ρ := ρ) (s :: t :: texts)
    have hmax : Nat.max x.height (Expr.heightAll ((s :: t :: texts).map textExpr)) ≤ 1 :=
      Nat.max_le.2 ⟨hx.le, hall⟩
    change _ + 1 ≤ 3
    omega

lemma TextTest.height_expr_le (hx : x.height = 1) (test : TextTest) :
    (test.expr x).height ≤ 4 := by
  cases test with
  | equals s => simp [expr, textExpr, Expr.height, hx]
  | unlike pattern => simp [expr, textExpr, Expr.height, hx]
  | oneOf texts => exact (height_memberExpr_le hx texts).trans (by decide)
  | noneOf texts => exact Nat.succ_le_succ (height_memberExpr_le hx texts)

end Heights

namespace Parser

variable {lexeme : Lexeme} {rest : List Lexeme} {s' s'' : ParserState} {x y z : Expr Mention}
  {placeholders n : Nat} {names : List (String × Nat)}

/-! ### Operands -/

lemma run_operand_text (s : String) (n : Nat) :
    (operand (n + 1)).run ⟨quotedText s :: rest, placeholders, names⟩
      = .ok (textExpr s, ⟨rest, placeholders, names⟩) := by
  rw [quotedText, stringLexeme, String.ofList_toList, operand]
  rfl

lemma not_nextIs_quotedText (keyword s : String) :
    ¬NextIs keyword ⟨quotedText s :: rest, placeholders, names⟩ := by
  rintro ⟨token, hnext, hkeyword⟩
  obtain rfl := Option.some.inj hnext
  cases hkeyword

/-- Texts with commas between them, up to a closing parenthesis. -/
lemma run_exprs_texts (texts : List String) (hne : texts ≠ []) (hn : texts.length + 9 ≤ n)
    (rest : List Lexeme) (placeholders : Nat) (names : List (String × Nat)) :
    (exprs n).run ⟨commas (textGroups texts) ++ symbolLexeme ')' :: rest, placeholders, names⟩
      = .ok (texts.map textExpr, ⟨symbolLexeme ')' :: rest, placeholders, names⟩) := by
  induction texts generalizing n with
  | nil => exact absurd rfl hne
  | cons s texts ih =>
    rw [List.length_cons] at hn
    obtain ⟨n, rfl⟩ : ∃ m, n = m + 9 + 1 := ⟨n - 10, by omega⟩
    have hexpr : ∀ rest, EndsExpr ⟨rest, placeholders, names⟩ →
        (expr (n + 9)).run ⟨quotedText s :: rest, placeholders, names⟩
          = .ok (textExpr s, ⟨rest, placeholders, names⟩) :=
      fun _ hends => run_expr (run_operand_text s n) (not_nextIs_quotedText _ s) hends
    cases texts with
    | nil =>
      rw [exprs]
      change StateT.run (expr (n + 9) >>= _)
        ⟨quotedText s :: symbolLexeme ')' :: rest, placeholders, names⟩ = _
      rw [run_bind_of_ok _ (hexpr _ (endsExpr_symbol (.inr rfl))),
        run_bind_of_ok _ run_acceptComma_close]
      rfl
    | cons t texts =>
      have hrest := ih (by simp) (n := n + 9) (by omega)
      rw [exprs]
      change StateT.run (expr (n + 9) >>= _) ⟨quotedText s :: symbolLexeme ',' ::
        (commas (textGroups (t :: texts)) ++ symbolLexeme ')' :: rest), placeholders, names⟩ = _
      rw [run_bind_of_ok _ (hexpr _ (endsExpr_symbol (.inl rfl))),
        run_bind_of_ok _ (run_acceptSymbol rfl)]
      change StateT.run (exprs (n + 9) >>= _) _ = _
      rw [run_bind_of_ok _ hrest]
      rfl

/-! ### Tests -/

/-- Nothing goes on with a test: neither an operator nor another test. -/
structure EndsTest (s : ParserState) : Prop where
  endsOrdered : EndsOrdered s
  endsTests : EndsTests s

lemma EndsExpr.endsTest (h : EndsExpr s') : EndsTest s' :=
  ⟨h.endsOrdered, h.endsTests⟩

lemma endsTest_and (rest : List Lexeme) (placeholders : Nat) (names : List (String × Nat)) :
    EndsTest ⟨word "AND" :: rest, placeholders, names⟩ where
  endsOrdered := by
    apply EndsOrdered.of_next?
    · rintro token ⟨⟩
      decide
    · rintro token ⟨⟩
      decide
  endsTests :=
    { equality?_eq_none := rfl
      not_nextIs := by
        rintro keyword hkeyword ⟨token, hnext, htrue⟩
        obtain rfl := Option.some.inj hnext
        have hand : ∀ keyword ∈ testKeywords, isKeyword keyword (word "AND").token = false := by
          decide
        rw [hand keyword hkeyword] at htrue
        cases htrue }

lemma run_oneOf (hx : x.height = 1) (texts : List String) :
    (oneOf x (texts.map textExpr)).run s' = .ok (memberExpr x texts, s') := by
  have hheight : (memberExpr x texts).height ≤ maxHeight :=
    (height_memberExpr_le hx texts).trans (by decide)
  match texts with
  | [] => rfl
  | [s] => exact run_node hheight
  | s :: t :: texts => exact run_node hheight

/-- What stands behind the opening parenthesis is the end of the choices or the first of them. -/
lemma run_membership_in (hx : x.height = 1) (texts : List String) (hn : texts.length + 9 ≤ n)
    (rest : List Lexeme) (placeholders : Nat) (names : List (String × Nat)) :
    (membership (n + 1) x).run
        ⟨word "IN" :: (choiceLexemes texts ++ rest), placeholders, names⟩
      = .ok (memberExpr x texts, ⟨rest, placeholders, names⟩) := by
  rw [membership, run_bind_of_ok _ (run_accept_ne (by decide))]
  change StateT.run (expect "in" >>= _) _ = _
  rw [run_bind_of_ok _ (run_expect (by decide)), choiceLexemes, List.cons_append,
    run_bind_of_ok _ (run_expectSymbol rfl)]
  cases texts with
  | nil =>
    change StateT.run (acceptSymbol ")" >>= _) ⟨symbolLexeme ')' :: rest, placeholders, names⟩ = _
    rw [run_bind_of_ok _ (run_acceptSymbol rfl)]
    rfl
  | cons s texts =>
    have hchoices := run_exprs_texts (s :: texts) (by simp) hn rest placeholders names
    have hclose : ∀ lexemes, (acceptSymbol ")").run
          ⟨quotedText s :: lexemes, placeholders, names⟩
        = .ok (false, ⟨quotedText s :: lexemes, placeholders, names⟩) := by
      intro lexemes
      apply run_acceptSymbol_of_ne
      rintro ⟨⟩
    obtain ⟨lexemes, hlexemes⟩ : ∃ lexemes,
        commas (textGroups (s :: texts)) ++ symbolLexeme ')' :: rest = quotedText s :: lexemes := by
      cases texts with
      | nil => exact ⟨_, rfl⟩
      | cons t texts => exact ⟨_, rfl⟩
    rw [List.append_assoc, List.singleton_append]
    rw [hlexemes] at hchoices ⊢
    rw [run_bind_of_ok _ (hclose lexemes)]
    change StateT.run (exprs n >>= _) _ = _
    rw [run_bind_of_ok _ hchoices, run_bind_of_ok _ (run_expectSymbol rfl)]
    exact run_oneOf hx (s :: texts)

lemma run_membership_like (hx : x.height = 1) (pattern : String)
    (hends : EndsOrdered ⟨rest, placeholders, names⟩) (n : Nat) :
    (membership (n + 8) x).run ⟨word "LIKE" :: quotedText pattern :: rest, placeholders, names⟩
      = .ok (.like x (textExpr pattern), ⟨rest, placeholders, names⟩) := by
  have hordered := run_ordered (run_operand_text pattern n) hends
  rw [membership, run_bind_of_ok _ (run_accept (by decide))]
  change StateT.run (ordered (n + 7) >>= _) _ = _
  rw [run_bind_of_ok _ hordered]
  exact run_node (by simp [Expr.height, textExpr, maxHeight, hx])

/-- A word that is the first of a test is an operator neither of equality nor of nullness. -/
lemma run_tests_word {w : String} (hw : ∀ keyword ∈ ["isnull", "notnull", "is"],
      isKeyword keyword (word w).token = false) :
    (tests (n + 1) x).run ⟨word w :: rest, placeholders, names⟩
      = (do
          if ← accept "not" then
            if ← accept "null" then
              tests n (← node (.notNull x))
            else
              let y ← membership n x
              tests n (← node (.not y))
          else if (← nextIs "like") || (← nextIs "in") then
            let y ← membership n x
            tests n y
          else
            return x : Parser (Expr Mention)).run ⟨word w :: rest, placeholders, names⟩ := by
  have haccept : ∀ keyword ∈ ["isnull", "notnull", "is"],
      (accept keyword).run ⟨word w :: rest, placeholders, names⟩
        = .ok (false, ⟨word w :: rest, placeholders, names⟩) :=
    fun keyword hkeyword => run_accept_ne (hw keyword hkeyword)
  rw [tests, run_bind_of_ok _ run_peek]
  change (accept "isnull" >>= _).run _ = _
  rw [run_bind_of_ok _ (haccept "isnull" (by decide))]
  change (accept "notnull" >>= _).run _ = _
  rw [run_bind_of_ok _ (haccept "notnull" (by decide))]
  change (accept "is" >>= _).run _ = _
  rw [run_bind_of_ok _ (haccept "is" (by decide))]
  rfl

lemma run_tests_not (hlexeme : isKeyword "null" lexeme.token = false)
    (hmembership : (membership n x).run ⟨lexeme :: rest, placeholders, names⟩ = .ok (y, s'))
    (hheight : (Expr.not y).height ≤ maxHeight)
    (htests : (tests n (.not y)).run s' = .ok (z, s'')) :
    (tests (n + 1) x).run ⟨word "NOT" :: lexeme :: rest, placeholders, names⟩ = .ok (z, s'') := by
  rw [run_tests_word (by decide), run_bind_of_ok _ (run_accept (by decide))]
  change StateT.run (accept "null" >>= _) _ = _
  rw [run_bind_of_ok _ (run_accept_ne hlexeme)]
  change StateT.run (membership n x >>= _) _ = _
  rw [run_bind_of_ok _ hmembership, run_bind_of_ok _ (run_node hheight)]
  exact htests

lemma run_tests_in
    (hmembership : (membership n x).run ⟨word "IN" :: rest, placeholders, names⟩ = .ok (y, s'))
    (htests : (tests n y).run s' = .ok (z, s'')) :
    (tests (n + 1) x).run ⟨word "IN" :: rest, placeholders, names⟩ = .ok (z, s'') := by
  rw [run_tests_word (by decide), run_bind_of_ok _ (run_accept_ne (by decide))]
  change StateT.run (membership n x >>= _) _ = _
  rw [run_bind_of_ok _ hmembership]
  exact htests

lemma length_le_length_choiceLexemes (texts : List String) :
    texts.length ≤ (choiceLexemes texts).length := by
  have hlength := length_commas (textGroups texts) (by simp [textGroups])
  simp only [textGroups, List.length_map] at hlength
  simp only [choiceLexemes, List.length_cons, List.length_append, textGroups]
  omega

/-- A test of a column is read as the condition that it is. -/
lemma run_tests_textTest (test : TextTest) (hx : x.height = 1) (hn : test.lexemes.length + 14 ≤ n)
    (hends : EndsTest ⟨rest, placeholders, names⟩) :
    (tests n x).run ⟨test.lexemes ++ rest, placeholders, names⟩
      = .ok (test.expr x, ⟨rest, placeholders, names⟩) := by
  have hheight : ∀ test : TextTest, (test.expr x).height ≤ maxHeight :=
    fun test => (test.height_expr_le hx).trans (by decide)
  obtain ⟨n, rfl⟩ : ∃ m, n = m + 14 := ⟨n - 14, by omega⟩
  have hdone := fun y => run_tests hends.endsTests (n + 12) y
  cases test with
  | equals s =>
    have hordered := run_ordered (run_operand_text s (n + 6)) hends.endsOrdered
    exact run_tests_equality rfl hordered (hheight (.equals s)) (hdone _)
  | unlike pattern =>
    have hlike := run_membership_like hx pattern hends.endsOrdered (n + 5)
    exact run_tests_not (by decide) hlike (hheight (.unlike pattern)) (hdone _)
  | oneOf texts =>
    have hlength := length_le_length_choiceLexemes texts
    simp only [TextTest.lexemes, List.length_cons] at hn
    have hin := run_membership_in hx texts (n := n + 12) (by omega) rest placeholders names
    exact run_tests_in hin (hdone _)
  | noneOf texts =>
    have hlength := length_le_length_choiceLexemes texts
    simp only [TextTest.lexemes, List.length_cons] at hn
    have hin := run_membership_in hx texts (n := n + 12) (by omega) rest placeholders names
    exact run_tests_not (by decide) hin (hheight (.noneOf texts)) (hdone _)

/-- A test does not begin like a calculation or a comparison by order. -/
lemma TextTest.endsOrdered (test : TextTest) (rest : List Lexeme) (placeholders : Nat)
    (names : List (String × Nat)) : EndsOrdered ⟨test.lexemes ++ rest, placeholders, names⟩ := by
  apply EndsOrdered.of_next?
  · cases test <;> rintro token ⟨⟩ <;> decide
  · cases test <;> rintro token ⟨⟩ <;> decide

lemma run_condition_namedTest (t : NamedTest)
    (hcolumn : nameOf? (word t.column).token = some (none, t.column))
    (hn : t.lexemes.length + 15 ≤ n) (hends : EndsTest ⟨rest, placeholders, names⟩) :
    (condition n).run ⟨t.lexemes ++ rest, placeholders, names⟩
      = .ok (t.expr mentioned, ⟨rest, placeholders, names⟩) := by
  have hnot : ¬NextIs "not" ⟨t.lexemes ++ rest, placeholders, names⟩ := by
    rintro ⟨token, hnext, hkeyword⟩
    obtain rfl := Option.some.inj hnext
    rw [isKeyword_of_nameOf? hcolumn (by decide)] at hkeyword
    cases hkeyword
  have hordered := TextTest.endsOrdered t.test rest placeholders names
  have hopen : ParserState.next? ⟨t.test.lexemes ++ rest, placeholders, names⟩
      ≠ some (.symbol "(") := by
    have hequals : (symbolLexeme '=').token ≠ .symbol "(" := by decide
    cases t.test with
    | equals s => exact fun heq => hequals (Option.some.inj heq)
    | _ => rintro ⟨⟩
  obtain ⟨n, rfl⟩ : ∃ m, n = m + 8 := ⟨n - 8, by omega⟩
  have hoperand : (operand (n + 1)).run ⟨t.lexemes ++ rest, placeholders, names⟩
      = .ok (mentioned t.column, ⟨t.test.lexemes ++ rest, placeholders, names⟩) :=
    run_operand_of_nameOf? hcolumn hopen n
  simp only [NamedTest.lexemes, List.length_cons] at hn
  have htests := run_tests_textTest t.test (x := mentioned t.column) rfl (n := n + 7) (by omega)
    hends
  exact run_condition hnot hoperand hordered htests

/-! ### Conjunctions -/

lemma run_bothOf (hheight : (Expr.both x y).height ≤ maxHeight) :
    (bothOf x y).run s' = .ok (bothExpr x y, s') := by
  unfold bothOf bothExpr
  split
  · rfl
  · exact run_node hheight

lemma run_conjunctions_and (hcondition : (condition n).run ⟨rest, placeholders, names⟩
      = .ok (y, s'))
    (hheight : (Expr.both x y).height ≤ maxHeight)
    (hmore : (conjunctions n (bothExpr x y)).run s' = .ok (z, s'')) :
    (conjunctions (n + 1) x).run ⟨word "AND" :: rest, placeholders, names⟩ = .ok (z, s'') := by
  rw [conjunctions, run_bind_of_ok _ (run_accept (by decide))]
  change StateT.run (condition n >>= _) _ = _
  rw [run_bind_of_ok _ hcondition, run_bind_of_ok _ (run_bothOf hheight)]
  exact hmore

lemma height_bothExpr_le (hy : y.height ≤ 4) : (bothExpr x y).height ≤ max x.height 4 + 1 := by
  unfold bothExpr
  split
  · simp [Expr.height]
  · have hmax : Nat.max x.height y.height ≤ max x.height 4 := max_le_max le_rfl hy
    exact Nat.succ_le_succ hmax

/-- Tests behind a condition have to hold together with it, up to the end. -/
lemma run_conjunctions_tests {tests : List NamedTest}
    (hcolumns : ∀ t ∈ tests, nameOf? (word t.column).token = some (none, t.column))
    (hn : (andLexemes tests).length + 15 ≤ n)
    (hheight : max x.height 4 + tests.length ≤ maxHeight) (placeholders : Nat)
    (names : List (String × Nat)) :
    (conjunctions n x).run ⟨andLexemes tests, placeholders, names⟩
      = .ok (allExpr mentioned x tests, ⟨[], placeholders, names⟩) := by
  induction tests generalizing n x with
  | nil =>
    obtain ⟨n, rfl⟩ : ∃ m, n = m + 1 := ⟨n - 1, by omega⟩
    exact run_conjunctions endsExpr_nil n x
  | cons t tests ih =>
    obtain ⟨ht, htail⟩ := List.forall_mem_cons.1 hcolumns
    have hlexemes : andLexemes (t :: tests) = word "AND" :: (t.lexemes ++ andLexemes tests) := by
      simp [andLexemes]
    have hends : EndsTest ⟨andLexemes tests, placeholders, names⟩ := by
      cases tests with
      | nil => exact EndsExpr.endsTest endsExpr_nil
      | cons t' tests => exact endsTest_and _ _ _
    rw [hlexemes, List.length_cons, List.length_append] at hn
    rw [List.length_cons] at hheight
    obtain ⟨n, rfl⟩ : ∃ m, n = m + 1 := ⟨n - 1, by omega⟩
    have htest : (t.expr mentioned).height ≤ 4 := t.test.height_expr_le rfl
    have hboth := height_bothExpr_le (x := x) htest
    have hmore := ih htail (n := n) (x := bothExpr x (t.expr mentioned)) (by omega) (by omega)
    rw [hlexemes]
    refine run_conjunctions_and (run_condition_namedTest t ht (by omega) hends) ?_ hmore
    have hmax : Nat.max x.height (t.expr mentioned).height ≤ max x.height 4 :=
      max_le_max le_rfl htest
    change _ + 1 ≤ maxHeight
    omega

/-- Tests that have to hold together are a whole expression at the end of a text. -/
lemma run_expr_tests {t : NamedTest} {tests : List NamedTest}
    (hcolumns : ∀ t' ∈ t :: tests, nameOf? (word t'.column).token = some (none, t'.column))
    (hcount : tests.length ≤ 900) (hn : (t.lexemes ++ andLexemes tests).length + 16 ≤ n)
    (placeholders : Nat) (names : List (String × Nat)) :
    (expr n).run ⟨t.lexemes ++ andLexemes tests, placeholders, names⟩
      = .ok (allExpr mentioned (t.expr mentioned) tests, ⟨[], placeholders, names⟩) := by
  obtain ⟨ht, htail⟩ := List.forall_mem_cons.1 hcolumns
  have hends : EndsTest ⟨andLexemes tests, placeholders, names⟩ := by
    cases tests with
    | nil => exact EndsExpr.endsTest endsExpr_nil
    | cons t' tests => exact endsTest_and _ _ _
  have htest : (t.expr mentioned).height ≤ 4 := t.test.height_expr_le rfl
  have hlimit : maxHeight = 1000 := rfl
  rw [List.length_append] at hn
  obtain ⟨n, rfl⟩ : ∃ m, n = m + 2 := ⟨n - 2, by omega⟩
  have hcondition := run_condition_namedTest t ht (n := n + 1) (by omega) hends
  have hmore := run_conjunctions_tests (x := t.expr mentioned) htail (n := n + 1) (by omega)
    (by omega) placeholders names
  rw [expr, run_bind_of_ok _ hcondition, run_bind_of_ok _ hmore]
  exact run_alternatives endsExpr_nil n _

end Parser

end ForeignData.Sqlite
