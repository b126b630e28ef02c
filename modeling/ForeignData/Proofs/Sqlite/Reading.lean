import ForeignData.Proofs.Sqlite.Token
import ForeignData.Sqlite.Parser.Statement

/-!
# Reading of queries

How tokens are read one after the other: an operand by itself is an expression if what comes next
does not go on with it, operands with commas between them are result columns, and these with a table
are a query, whatever its condition.
-/

namespace ForeignData.Sqlite

def ParserState.next? (s : ParserState) : Option Token :=
  s.tokens.head?.map Lexeme.token

namespace Parser

variable {α β : Type} {s s' : ParserState} {keyword symbol : String} {lexeme : Lexeme}
  {rest : List Lexeme} {placeholders : Nat} {names : List (String × Nat)}

/-! ### Steps -/

lemma run_bind_of_ok {p : Parser α} (f : α → Parser β) {a : α} (h : p.run s = .ok (a, s')) :
    (p >>= f).run s = (f a).run s' := by
  rw [StateT.run_bind, h]
  rfl

lemma run_bind_congr {p q : Parser α} (f : α → Parser β) (h : p.run s = q.run s') :
    (p >>= f).run s = (q >>= f).run s' := by
  rw [StateT.run_bind, h, StateT.run_bind]

/-- What has been read in two steps has been read in each. -/
lemma run_bind_eq_ok {p : Parser α} {f : α → Parser β} {b : β} {s'' : ParserState}
    (h : (p >>= f).run s = .ok (b, s'')) :
    ∃ a s', p.run s = .ok (a, s') ∧ (f a).run s' = .ok (b, s'') := by
  rw [StateT.run_bind] at h
  cases hp : p.run s with
  | error message =>
    rw [hp] at h
    cases h
  | ok result =>
    rw [hp] at h
    exact ⟨result.1, result.2, rfl, h⟩

lemma run_peek : peek.run s = .ok (s.next?, s) := rfl

lemma run_skip : skip.run ⟨lexeme :: rest, placeholders, names⟩
    = .ok ((), ⟨rest, placeholders, names⟩) := rfl

lemma run_fuel : fuel.run s = .ok (20 * (s.tokens.length + 1), s) := rfl

lemma run_unexpected_ne_ok {a : α} : (unexpected : Parser α).run s ≠ .ok (a, s') := by
  intro h
  obtain ⟨_, s₁, hget, h⟩ := run_bind_eq_ok h
  split at h
  · cases h
  · split at h <;> cases h

/-- Whether a keyword comes next. -/
def NextIs (keyword : String) (s : ParserState) : Prop :=
  ∃ token, s.next? = some token ∧ isKeyword keyword token = true

lemma run_accept (h : isKeyword keyword lexeme.token = true) :
    (accept keyword).run ⟨lexeme :: rest, placeholders, names⟩
      = .ok (true, ⟨rest, placeholders, names⟩) := by
  have hnext : (nextIs keyword).run ⟨lexeme :: rest, placeholders, names⟩
      = .ok (true, ⟨lexeme :: rest, placeholders, names⟩) :=
    congrArg (fun b => Except.ok (b, _)) h
  rw [accept, run_bind_of_ok _ hnext]
  rfl

lemma run_nextIs_of_not (h : ¬NextIs keyword s) : (nextIs keyword).run s = .ok (false, s) := by
  have hfalse : (s.next?.map (isKeyword keyword)).getD false = false := by
    cases hnext : s.next? with
    | none => rfl
    | some token =>
      rw [← Bool.not_eq_true]
      exact fun htrue => h ⟨token, hnext, htrue⟩
  exact congrArg (fun b => Except.ok (b, s)) hfalse

lemma run_accept_of_not (h : ¬NextIs keyword s) : (accept keyword).run s = .ok (false, s) := by
  rw [accept, run_bind_of_ok _ (run_nextIs_of_not h)]
  rfl

lemma run_acceptSymbol (h : lexeme.token = .symbol symbol) :
    (acceptSymbol symbol).run ⟨lexeme :: rest, placeholders, names⟩
      = .ok (true, ⟨rest, placeholders, names⟩) := by
  rw [acceptSymbol, run_bind_of_ok _ run_peek, if_pos]
  · rfl
  · exact congrArg some h

lemma run_acceptSymbol_of_ne (h : s.next? ≠ some (.symbol symbol)) :
    (acceptSymbol symbol).run s = .ok (false, s) := by
  rw [acceptSymbol, run_bind_of_ok _ run_peek, if_neg h]
  rfl

/-! ### Ends of expressions -/

def operatorKeywords : List String :=
  ["isnull", "notnull", "is", "not", "like", "in", "and", "or"]

/-- Whether a token goes on with an expression. -/
def continuesExpr (token : Token) : Bool :=
  (equality? token).isSome || (order? token).isSome
    || calculations.any (fun operators => (calculation? operators token).isSome)
    || token == .symbol "(" || operatorKeywords.any (isKeyword · token)

/-- What comes next does not go on with an expression. -/
def EndsExpr (s : ParserState) : Prop :=
  ∀ token ∈ s.next?, continuesExpr token = false

namespace EndsExpr

variable (h : EndsExpr s)

include h

lemma not_nextIs (hkeyword : keyword ∈ operatorKeywords) : ¬NextIs keyword s := by
  rintro ⟨token, hnext, htrue⟩
  have hends := h token hnext
  simp only [continuesExpr, Bool.or_eq_false_iff, List.any_eq_false] at hends
  exact hends.2 keyword hkeyword htrue

lemma next?_ne : s.next? ≠ some (.symbol "(") := by
  intro hnext
  have hends := h _ hnext
  simp [continuesExpr] at hends

lemma equality?_eq_none : s.next? >>= equality? = none := by
  cases hnext : s.next? with
  | none => rfl
  | some token =>
    have hends := h token hnext
    simp only [continuesExpr, Bool.or_eq_false_iff] at hends
    exact Option.isNone_iff_eq_none.1 (by simpa using hends.1.1.1.1)

end EndsExpr

/-- What comes next goes on neither with a calculation nor with a comparison by order. -/
structure EndsOrdered (s : ParserState) : Prop where
  order?_eq_none : s.next? >>= order? = none
  calculation?_eq_none : ∀ level : Nat,
    s.next? >>= calculation? (calculations[level]?.getD []) = none

lemma EndsOrdered.of_next? (horder : ∀ token ∈ s.next?, order? token = none)
    (hcalculation : ∀ token ∈ s.next?, ∀ operators ∈ calculations,
      calculation? operators token = none) : EndsOrdered s where
  order?_eq_none := by
    cases hnext : s.next? with
    | none => rfl
    | some token => exact horder token hnext
  calculation?_eq_none level := by
    cases hnext : s.next? with
    | none => rfl
    | some token =>
      cases hlevel : calculations[level]? with
      | none =>
        change calculation? [] token = none
        cases token <;> rfl
      | some operators => exact hcalculation token hnext operators (List.mem_of_getElem? hlevel)

lemma EndsExpr.endsOrdered (h : EndsExpr s) : EndsOrdered s := by
  apply EndsOrdered.of_next?
  · intro token hnext
    have hends := h token hnext
    simp only [continuesExpr, Bool.or_eq_false_iff] at hends
    exact Option.isNone_iff_eq_none.1 (by simpa using hends.1.1.1.2)
  · intro token hnext operators hoperators
    have hends := h token hnext
    simp only [continuesExpr, Bool.or_eq_false_iff, List.any_eq_false] at hends
    exact Option.isNone_iff_eq_none.1 (by simpa using hends.1.1.2 operators hoperators)

def testKeywords : List String :=
  ["isnull", "notnull", "is", "not", "like", "in"]

/-- What comes next is no test of the operand before it. -/
structure EndsTests (s : ParserState) : Prop where
  equality?_eq_none : s.next? >>= equality? = none
  not_nextIs : ∀ keyword ∈ testKeywords, ¬NextIs keyword s

lemma EndsExpr.endsTests (h : EndsExpr s) : EndsTests s where
  equality?_eq_none := h.equality?_eq_none
  not_nextIs keyword hkeyword := by
    have hoperator : ∀ keyword ∈ testKeywords, keyword ∈ operatorKeywords := by decide
    exact h.not_nextIs (hoperator keyword hkeyword)

/-! ### Operands -/

section Operands

variable {x : Expr Mention} {n : Nat}

lemma run_calculatedOn (h : EndsOrdered s) (n level : Nat) (x : Expr Mention) :
    (calculatedOn (n + 1) level x).run s = .ok (x, s) := by
  rw [calculatedOn, run_bind_of_ok _ run_peek, h.calculation?_eq_none level]
  rfl

lemma run_orders (h : EndsOrdered s) (n : Nat) (x : Expr Mention) :
    (orders (n + 1) x).run s = .ok (x, s) := by
  rw [orders, run_bind_of_ok _ run_peek, h.order?_eq_none]
  rfl

lemma run_tests (h : EndsTests s) (n : Nat) (x : Expr Mention) :
    (tests (n + 1) x).run s = .ok (x, s) := by
  have haccept : ∀ keyword ∈ testKeywords, (accept keyword).run s = .ok (false, s) :=
    fun keyword hkeyword => run_accept_of_not (h.not_nextIs keyword hkeyword)
  have hnextIs : ∀ keyword ∈ testKeywords, (nextIs keyword).run s = .ok (false, s) :=
    fun keyword hkeyword => run_nextIs_of_not (h.not_nextIs keyword hkeyword)
  rw [tests, run_bind_of_ok _ run_peek, h.equality?_eq_none]
  change (accept "isnull" >>= _).run s = _
  rw [run_bind_of_ok _ (haccept "isnull" (by decide))]
  change (accept "notnull" >>= _).run s = _
  rw [run_bind_of_ok _ (haccept "notnull" (by decide))]
  change (accept "is" >>= _).run s = _
  rw [run_bind_of_ok _ (haccept "is" (by decide))]
  change (accept "not" >>= _).run s = _
  rw [run_bind_of_ok _ (haccept "not" (by decide))]
  change (nextIs "like" >>= _).run s = _
  rw [run_bind_of_ok _ (hnextIs "like" (by decide)), run_bind_of_ok _ (hnextIs "in" (by decide))]
  rfl

lemma run_conjunctions (h : EndsExpr s) (n : Nat) (x : Expr Mention) :
    (conjunctions (n + 1) x).run s = .ok (x, s) := by
  rw [conjunctions, run_bind_of_ok _ (run_accept_of_not (h.not_nextIs (by decide)))]
  rfl

lemma run_alternatives (h : EndsExpr s) (n : Nat) (x : Expr Mention) :
    (alternatives (n + 1) x).run s = .ok (x, s) := by
  rw [alternatives, run_bind_of_ok _ (run_accept_of_not (h.not_nextIs (by decide)))]
  rfl

lemma run_calculated (hoperand : (operand n).run s = .ok (x, s')) (hends : EndsOrdered s')
    (level : Nat) : (calculated (n + 1 + level) level).run s = .ok (x, s') := by
  induction level with
  | zero => exact hoperand
  | succ level ih =>
    rw [← Nat.add_assoc, calculated, run_bind_of_ok _ ih, Nat.add_right_comm]
    exact run_calculatedOn hends _ level x

/-- An operand is all there is to a comparison by order, unless an operator comes behind it. -/
lemma run_ordered (hoperand : (operand n).run s = .ok (x, s')) (hends : EndsOrdered s') :
    (ordered (n + 6)).run s = .ok (x, s') := by
  have hcalculated : (calculated (n + 5) calculations.length).run s = .ok (x, s') :=
    run_calculated hoperand hends 4
  rw [ordered, run_bind_of_ok _ hcalculated]
  exact run_orders hends _ x

lemma run_condition {s'' : ParserState} {y : Expr Mention} (hnot : ¬NextIs "not" s)
    (hoperand : (operand n).run s = .ok (x, s')) (hends : EndsOrdered s')
    (htests : (tests (n + 6) x).run s' = .ok (y, s'')) :
    (condition (n + 7)).run s = .ok (y, s'') := by
  rw [condition, run_bind_of_ok _ (run_accept_of_not hnot)]
  change (ordered (n + 6) >>= fun x => tests (n + 6) x).run s = _
  rw [run_bind_of_ok _ (run_ordered hoperand hends)]
  exact htests

/-- A condition with nothing that goes on with it is a whole expression. -/
lemma run_expr_of_condition (hcondition : (condition (n + 7)).run s = .ok (x, s'))
    (hends : EndsExpr s') : (expr (n + 8)).run s = .ok (x, s') := by
  rw [expr, run_bind_of_ok _ hcondition, run_bind_of_ok _ (run_conjunctions hends _ x)]
  exact run_alternatives hends _ x

/-- An operand with nothing that goes on with it is a whole expression. -/
lemma run_expr (hoperand : (operand n).run s = .ok (x, s')) (hnot : ¬NextIs "not" s)
    (hends : EndsExpr s') : (expr (n + 8)).run s = .ok (x, s') :=
  run_expr_of_condition
    (run_condition hnot hoperand hends.endsOrdered (run_tests hends.endsTests _ x)) hends

lemma run_node (h : x.height ≤ maxHeight) : (node x).run s = .ok (x, s) := by
  rw [node, if_neg (Nat.not_lt.2 h)]
  rfl

/-- An operand behind a sign of equality is compared with. -/
lemma run_tests_equality {y z : Expr Mention} {s'' : ParserState}
    (hlexeme : lexeme.token = .symbol "=")
    (hordered : (ordered n).run ⟨rest, placeholders, names⟩ = .ok (y, s'))
    (hheight : (Expr.compare .eq x y).height ≤ maxHeight)
    (htests : (tests n (.compare .eq x y)).run s' = .ok (z, s'')) :
    (tests (n + 1) x).run ⟨lexeme :: rest, placeholders, names⟩ = .ok (z, s'') := by
  obtain ⟨token, spelling⟩ := lexeme
  change token = _ at hlexeme
  subst hlexeme
  rw [tests, run_bind_of_ok _ run_peek]
  change StateT.run (skip >>= _) _ = _
  rw [run_bind_of_ok _ run_skip, run_bind_of_ok _ hordered, run_bind_of_ok _ (run_node hheight)]
  exact htests

/-- There is an end to an expression where there are no more tokens. -/
lemma endsExpr_nil : EndsExpr ⟨[], placeholders, names⟩ := by
  intro token hnext
  cases hnext

/-- A token that is an operand by itself. -/
structure IsOperand (lexeme : Lexeme) (x : Expr Mention) : Prop where
  ne_star : lexeme.token ≠ .symbol "*"
  not_not : isKeyword "not" lexeme.token = false
  run_operand : ∀ n rest placeholders names, EndsExpr ⟨rest, placeholders, names⟩ →
    (operand (n + 1)).run ⟨lexeme :: rest, placeholders, names⟩
      = .ok (x, ⟨rest, placeholders, names⟩)

lemma isKeyword_of_nameOf? {token : Token} {mark : Option Char} {name : String}
    (h : nameOf? token = some (mark, name)) (hreserved : keyword ∈ reservedKeywords) :
    isKeyword keyword token = false := by
  unfold nameOf? at h
  split at h
  · rename_i word
    split at h
    · cases h
    · rename_i hword
      rw [← Bool.not_eq_true]
      intro hkeyword
      rw [isKeyword, beq_iff_eq] at hkeyword
      rw [hkeyword, List.contains_iff_mem] at hword
      exact hword hreserved
  · rfl
  · cases h

lemma run_number_of_nameOf? {mark : Option Char} {name : String}
    (h : nameOf? lexeme.token = some (mark, name)) :
    (number false).run ⟨lexeme :: rest, placeholders, names⟩
      = .ok (none, ⟨lexeme :: rest, placeholders, names⟩) := by
  obtain ⟨token, spelling⟩ := lexeme
  cases token
  case word | quoted => rfl
  all_goals cases h

/-- A name is read as an operand, unless a parenthesis behind it makes it a function. -/
lemma run_operand_of_nameOf? {mark : Option Char} {name : String}
    (h : nameOf? lexeme.token = some (mark, name))
    (hnext : ParserState.next? ⟨rest, placeholders, names⟩ ≠ some (.symbol "(")) (n : Nat) :
    (operand (n + 1)).run ⟨lexeme :: rest, placeholders, names⟩
      = .ok (.ref (.name mark name), ⟨rest, placeholders, names⟩) := by
  have hnull : isKeyword "null" lexeme.token = false := isKeyword_of_nameOf? h (by decide)
  have hopen := run_acceptSymbol_of_ne hnext
  rw [operand, run_bind_of_ok _ (run_number_of_nameOf? h)]
  change StateT.run (peek >>= _) _ = _
  rw [run_bind_of_ok _ run_peek]
  obtain ⟨token, spelling⟩ := lexeme
  -- only words and what stands between marks are names
  cases token
  case word | quoted =>
    dsimp only [ParserState.next?, List.head?_cons, Option.map_some]
    rw [if_neg (Bool.eq_false_iff.1 hnull), h]
    change StateT.run (skip >>= _) _ = _
    rw [run_bind_of_ok _ run_skip, run_bind_of_ok _ hopen]
    rfl
  all_goals cases h

lemma isOperand_of_nameOf? {mark : Option Char} {name : String}
    (h : nameOf? lexeme.token = some (mark, name)) :
    IsOperand lexeme (.ref (.name mark name)) where
  ne_star heq := by
    rw [heq] at h
    cases h
  not_not := isKeyword_of_nameOf? h (by decide)
  run_operand n _ _ _ hends := run_operand_of_nameOf? h hends.next?_ne n

lemma isOperand_null : IsOperand (wordLexeme "NULL".toList) (.constant .null) where
  ne_star := by decide
  not_not := by decide
  run_operand n rest placeholders names hends := by
    rw [operand]
    rfl

end Operands

/-! ### Result columns -/

/-- What comes next ends a result column: a comma, or the keyword before the table. -/
def EndsItem (s : ParserState) : Prop :=
  s.next? = some (.symbol ",") ∨ NextIs "from" s

lemma eq_word_of_isKeyword {token : Token} (h : isKeyword keyword token = true) :
    ∃ word, token = .word word ∧ lowerAscii word = keyword := by
  cases token with
  | word word => exact ⟨word, rfl, eq_of_beq h⟩
  | _ => cases h

namespace EndsItem

lemma endsExpr (h : EndsItem s) : EndsExpr s := by
  intro token hnext
  rcases h with hcomma | ⟨other, hother, hfrom⟩
  · obtain rfl := Option.some.inj (hnext.symm.trans hcomma)
    decide
  · obtain rfl := Option.some.inj (hnext.symm.trans hother)
    obtain ⟨word, rfl, hword⟩ := eq_word_of_isKeyword hfrom
    change operatorKeywords.any (lowerAscii word == ·) = false
    rw [hword]
    decide

lemma not_nextIs_as (h : EndsItem s) : ¬NextIs "as" s := by
  rintro ⟨token, hnext, has⟩
  rcases h with hcomma | ⟨other, hother, hfrom⟩
  · obtain rfl := Option.some.inj (hnext.symm.trans hcomma)
    cases has
  · obtain rfl := Option.some.inj (hnext.symm.trans hother)
    obtain ⟨word, rfl, hword⟩ := eq_word_of_isKeyword hfrom
    rw [isKeyword, hword] at has
    exact absurd has (by decide)

/-- There is no other name for the result column. -/
lemma run_label (h : EndsItem s) : label.run s = .ok ((), s) := by
  rw [label, run_bind_of_ok _ (run_accept_of_not h.not_nextIs_as)]
  change StateT.run (peek >>= _) s = _
  rw [run_bind_of_ok _ run_peek]
  rcases h with hcomma | ⟨token, hnext, hfrom⟩
  · rw [hcomma]
    rfl
  · obtain ⟨word, rfl, hword⟩ := eq_word_of_isKeyword hfrom
    have hname : nameOf? (.word word) = none := by
      rw [nameOf?, hword]
      exact if_pos (by decide)
    rw [hnext]
    change StateT.run (if (nameOf? (.word word)).isSome = true then _ else _) s = _
    rw [hname]
    rfl

end EndsItem

section Items

variable {x : Expr Mention}

lemma run_resultItem (hlexeme : IsOperand lexeme x)
    (hends : EndsItem ⟨rest, placeholders, names⟩) :
    resultItem.run ⟨lexeme :: rest, placeholders, names⟩
      = .ok (.value x, ⟨rest, placeholders, names⟩) := by
  have hstar : (acceptSymbol "*").run ⟨lexeme :: rest, placeholders, names⟩
      = .ok (false, ⟨lexeme :: rest, placeholders, names⟩) :=
    run_acceptSymbol_of_ne fun heq => hlexeme.ne_star (Option.some.inj heq)
  have hnot : ¬NextIs "not" ⟨lexeme :: rest, placeholders, names⟩ := by
    rintro ⟨token, hnext, hkeyword⟩
    obtain rfl := Option.some.inj hnext
    rw [hlexeme.not_not] at hkeyword
    cases hkeyword
  have hfuel : fuel.run ⟨lexeme :: rest, placeholders, names⟩
      = .ok (20 * rest.length + 31 + 1 + 8, ⟨lexeme :: rest, placeholders, names⟩) := by
    refine congrArg (fun n => Except.ok (n, _)) ?_
    rw [List.length_cons]
    omega
  have hexpr := run_expr (hlexeme.run_operand (20 * rest.length + 31) rest placeholders names
    hends.endsExpr) hnot hends.endsExpr
  rw [resultItem, run_bind_of_ok _ hstar]
  change StateT.run (fuel >>= _) _ = _
  rw [run_bind_of_ok _ hfuel, run_bind_of_ok _ hexpr, run_bind_of_ok _ hends.run_label]
  rfl

lemma run_resultItems {items : List (Lexeme × Expr Mention)}
    (hitems : ∀ p ∈ items, IsOperand p.1 p.2) (hne : items ≠ []) {n : Nat}
    (hn : items.length ≤ n) (hrest : NextIs "from" ⟨rest, placeholders, names⟩) :
    (commaSeparated resultItem n).run
        ⟨(items.map Prod.fst).intersperse commaLexeme ++ rest, placeholders, names⟩
      = .ok (items.map fun p => .value p.2, ⟨rest, placeholders, names⟩) := by
  induction items generalizing n with
  | nil => exact absurd rfl hne
  | cons p items ih =>
    obtain ⟨hp, htail⟩ := List.forall_mem_cons.1 hitems
    obtain ⟨n, rfl⟩ : ∃ m, n = m + 1 := ⟨n - 1, by rw [List.length_cons] at hn; omega⟩
    cases items with
    | nil =>
      have hcomma : (acceptSymbol ",").run ⟨rest, placeholders, names⟩
          = .ok (false, ⟨rest, placeholders, names⟩) := by
        refine run_acceptSymbol_of_ne fun heq => ?_
        obtain ⟨token, hnext, hfrom⟩ := hrest
        obtain rfl := Option.some.inj (hnext.symm.trans heq)
        cases hfrom
      rw [commaSeparated]
      change StateT.run (resultItem >>= _) ⟨p.1 :: rest, placeholders, names⟩ = _
      rw [run_bind_of_ok _ (run_resultItem hp (.inr hrest)), run_bind_of_ok _ hcomma]
      rfl
    | cons q items =>
      have hrun := ih htail (by simp) (n := n) (by rw [List.length_cons] at hn; omega)
      rw [commaSeparated]
      change StateT.run (resultItem >>= _) ⟨p.1 :: commaLexeme ::
        (((q :: items).map Prod.fst).intersperse commaLexeme ++ rest), placeholders, names⟩ = _
      rw [run_bind_of_ok _ (run_resultItem hp (.inl rfl)), run_bind_of_ok _ (run_acceptSymbol rfl)]
      change StateT.run (commaSeparated resultItem n >>= _) _ = _
      rw [run_bind_of_ok _ hrun]
      rfl

end Items

/-! ### Queries -/

lemma run_name {mark : Char} {s : String} (h : lexeme.token = .quoted mark s) :
    name.run ⟨lexeme :: rest, placeholders, names⟩ = .ok (s, ⟨rest, placeholders, names⟩) := by
  obtain ⟨token, spelling⟩ := lexeme
  change token = _ at h
  subst h
  rfl

def queryLexemes (items : List Lexeme) (table : String) : List Lexeme :=
  wordLexeme "SELECT".toList :: (items.intersperse commaLexeme
    ++ [wordLexeme "FROM".toList, nameLexeme table.toList])

/-- A query goes through the table that is named behind its result columns. -/
lemma run_select {items : List (Lexeme × Expr Mention)}
    (hitems : ∀ p ∈ items, IsOperand p.1 p.2) (hne : items ≠ []) {table : String}
    (htable : name.run ⟨lexeme :: rest, placeholders, names⟩
      = .ok (table, ⟨rest, placeholders, names⟩)) :
    select.run ⟨(items.map Prod.fst).intersperse commaLexeme
          ++ wordLexeme "FROM".toList :: lexeme :: rest, placeholders, names⟩
      = (do return .select (items.map fun p => .value p.2) (some table) (← whereClause) :
          Parser Statement).run ⟨rest, placeholders, names⟩ := by
  have hfrom : isKeyword "from" (wordLexeme "FROM".toList).token = true := by decide
  have hlength : items.length ≤ 20 * (((items.map Prod.fst).intersperse commaLexeme
      ++ wordLexeme "FROM".toList :: lexeme :: rest).length + 1) := by
    rw [List.length_append, List.length_intersperse, List.length_map]
    omega
  have hname : (some <$> name).run ⟨lexeme :: rest, placeholders, names⟩
      = .ok (some table, ⟨rest, placeholders, names⟩) := by
    rw [StateT.run_map, htable]
    rfl
  rw [select, run_bind_of_ok _ run_fuel,
    run_bind_of_ok _ (run_resultItems hitems hne hlength ⟨_, rfl, hfrom⟩),
    run_bind_of_ok _ (run_accept hfrom)]
  change StateT.run (some <$> name >>= _) _ = _
  rw [run_bind_of_ok _ hname]

/-- What is read of a query behind its table: a condition, if there is one, and the end. -/
def endOfQuery (items : List (ResultItem Mention)) (table : String) : Parser Statement := do
  let parsed := Statement.select items (some table) (← whereClause)
  match ← peek with
  | none | some (.symbol ";") => return parsed
  | some _ => unexpected

lemma run_statement {items : List (Lexeme × Expr Mention)}
    (hitems : ∀ p ∈ items, IsOperand p.1 p.2) (hne : items ≠ []) (table : String)
    (rest : List Lexeme) :
    statement.run ⟨queryLexemes (items.map Prod.fst) table ++ rest, 0, []⟩
      = (endOfQuery (items.map fun p => .value p.2) table).run ⟨rest, 0, []⟩ := by
  have hselect : isKeyword "select" (wordLexeme "SELECT".toList).token = true := by decide
  have hexplain : ¬NextIs "explain" ⟨queryLexemes (items.map Prod.fst) table ++ rest, 0, []⟩ := by
    rintro ⟨token, hnext, hkeyword⟩
    obtain rfl := Option.some.inj hnext
    exact absurd hkeyword (by decide)
  have htokens : queryLexemes (items.map Prod.fst) table ++ rest
      = wordLexeme "SELECT".toList :: ((items.map Prod.fst).intersperse commaLexeme
        ++ wordLexeme "FROM".toList :: nameLexeme table.toList :: rest) := by
    simp [queryLexemes]
  rw [statement, run_bind_of_ok _ (run_accept_of_not hexplain)]
  change StateT.run (runnable >>= _) _ = _
  rw [htokens, runnable, bind_assoc, run_bind_of_ok _ (run_accept hselect)]
  change StateT.run (select >>= _) _ = _
  have hname : (nameLexeme table.toList).token = .quoted '"' table := by
    rw [nameLexeme, String.ofList_toList]
  rw [run_bind_congr _ (run_select hitems hne (run_name hname)), bind_assoc]
  rfl

end Parser

lemma parse_of_tokens {sql : String} {lexeme : Lexeme} {lexemes : List Lexeme}
    (h : tokens sql.toList = lexeme :: lexemes) :
    parse sql = (Parser.statement.run ⟨lexeme :: lexemes, 0, []⟩).map fun result =>
      some ⟨result.1, result.2.placeholders⟩ := by
  rw [parse, h]
  dsimp only
  cases Parser.statement.run ⟨lexeme :: lexemes, 0, []⟩ <;> rfl

section Queries

variable {items : List (Lexeme × Expr Mention)} {table sql : String}

lemma parse_of_query (hitems : ∀ p ∈ items, Parser.IsOperand p.1 p.2) (hne : items ≠ [])
    (htokens : tokens sql.toList = Parser.queryLexemes (items.map Prod.fst) table) :
    parse sql = .ok (some ⟨.select (items.map fun p => .value p.2) (some table) none, 0⟩) := by
  have hrun := Parser.run_statement hitems hne table []
  rw [List.append_nil] at hrun
  rw [parse_of_tokens htokens]
  exact congrArg (Except.map _) hrun

/-- A text that begins with the tokens of a query is that query, with or without a condition. -/
lemma parse_eq_ok_of_query (hitems : ∀ p ∈ items, Parser.IsOperand p.1 p.2) (hne : items ≠ [])
    {rest : List Lexeme}
    (htokens : tokens sql.toList = Parser.queryLexemes (items.map Prod.fst) table ++ rest)
    {parsed : Option ParsedStatement} (hparse : parse sql = .ok parsed) :
    ∃ condition placeholders, parsed
      = some ⟨.select (items.map fun p => .value p.2) (some table) condition, placeholders⟩ := by
  have hrun := Parser.run_statement hitems hne table rest
  rw [parse_of_tokens htokens] at hparse
  change Except.map _ (Parser.statement.run
    ⟨Parser.queryLexemes (items.map Prod.fst) table ++ rest, 0, []⟩) = _ at hparse
  rw [hrun] at hparse
  cases hend : (Parser.endOfQuery (items.map fun p => .value p.2) table).run ⟨rest, 0, []⟩ with
  | error message =>
    rw [hend] at hparse
    cases hparse
  | ok result =>
    rw [hend] at hparse
    obtain rfl := Except.ok.inj hparse
    obtain ⟨condition, s₁, -, hend⟩ := Parser.run_bind_eq_ok hend
    obtain ⟨token, s₂, -, hend⟩ := Parser.run_bind_eq_ok hend
    have hselect : result.1
        = .select (items.map fun p => .value p.2) (some table) condition := by
      split at hend
      · exact (Prod.mk.inj (Except.ok.inj hend)).1.symm
      · exact (Prod.mk.inj (Except.ok.inj hend)).1.symm
      · exact absurd hend Parser.run_unexpected_ne_ok
    refine ⟨condition, result.2.placeholders, ?_⟩
    change some (ParsedStatement.mk result.1 result.2.placeholders) = _
    rw [hselect]

end Queries

end ForeignData.Sqlite
