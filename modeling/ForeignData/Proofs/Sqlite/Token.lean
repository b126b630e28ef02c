import ForeignData.Proofs.Text.Digits
import ForeignData.Sql.Quote
import ForeignData.Sqlite.Token

/-!
# Tokens of written text

Text that is put together from pieces is split into the tokens of its pieces, one after the other. A
piece is told from what is behind it by a delimiter. A name in quotes is one piece, whatever
characters it has.
-/

namespace ForeignData.Sqlite

/-! ### Beginnings of tokens -/

/-- Whether a character begins a token wherever it stands: it is no blank and begins no comment. -/
def startsToken (c : Char) : Bool :=
  !isAsciiBlank c && c != byteOrderMark && c != '-' && c != '/'

section Starts

variable {c : Char}

lemma isAsciiBlank_of_isSqlBlank (h : isSqlBlank c = true) : isAsciiBlank c = true := by
  simp only [isSqlBlank, Bool.or_eq_true, beq_iff_eq] at h
  rcases h with (((rfl | rfl) | rfl) | rfl) | hfeed
  · rfl
  · rfl
  · rfl
  · rfl
  · simp [isAsciiBlank, hfeed]

lemma skipBlanks_of_startsToken (h : startsToken c = true) (n : Nat) (s : List Char) :
    skipBlanks n (c :: s) = c :: s := by
  simp only [startsToken, Bool.and_eq_true, Bool.not_eq_true', bne_iff_ne] at h
  obtain ⟨⟨⟨hblank, hmark⟩, hdash⟩, hslash⟩ := h
  have hsql : isSqlBlank c = false := by
    rw [← Bool.not_eq_true]
    intro hsql
    rw [isAsciiBlank_of_isSqlBlank hsql] at hblank
    cases hblank
  cases n with
  | zero => rfl
  | succ n =>
    rw [skipBlanks]
    · rw [hsql, if_neg Bool.false_ne_true, if_neg hmark]
    · rintro rest rfl -
      exact hdash rfl
    · rintro d rest rfl -
      exact hslash rfl

lemma skipBlanks_space (h : startsToken c = true) (n : Nat) (s : List Char) :
    skipBlanks (n + 1) (' ' :: c :: s) = c :: s := by
  have hblank : isAsciiBlank c = false := by
    simp only [startsToken, Bool.and_eq_true, Bool.not_eq_true'] at h
    exact h.1.1.1
  have hskip : skipBlanks (n + 1) (' ' :: c :: s)
      = skipBlanks n ((c :: s).dropWhile isAsciiBlank) := rfl
  rw [hskip, List.dropWhile_cons_of_neg (by simp [hblank]), skipBlanks_of_startsToken h]

end Starts

/-! ### Texts that begin with some tokens -/

/-- A text begins with some tokens, and goes on behind them. -/
structure Lexes (s : List Char) (lexemes : List Lexeme) (rest : List Char) : Prop where
  length_le : lexemes.length + rest.length ≤ s.length
  lexFrom_eq : ∀ n, lexFrom (lexemes.length + n) s = lexemes ++ lexFrom n rest

namespace Lexes

variable {c : Char} {s t rest : List Char} {lexemes lexemes' : List Lexeme} {lexeme : Lexeme}

lemma append (h : Lexes s lexemes t) (h' : Lexes t lexemes' rest) :
    Lexes s (lexemes ++ lexemes') rest where
  length_le := by
    have := h.length_le
    have := h'.length_le
    rw [List.length_append]
    omega
  lexFrom_eq n := by
    rw [List.length_append, Nat.add_assoc, h.lexFrom_eq, h'.lexFrom_eq, List.append_assoc]

/-- One token, unless it ends the statement. -/
lemma single (hstart : startsToken c = true) (hlex : lexToken c s = (lexeme, rest))
    (hlength : rest.length ≤ s.length) (hlegal : lexeme.token ≠ .illegal)
    (hgoes : lexeme.token ≠ .symbol ";") : Lexes (c :: s) [lexeme] rest where
  length_le := by
    rw [List.length_singleton, List.length_cons]
    omega
  lexFrom_eq n := by
    rw [List.length_singleton, Nat.add_comm, lexFrom, skipBlanks_of_startsToken hstart]
    -- `hlegal` and `hgoes` rule out the two cases that stop here
    simp only [hlex, List.cons_append, List.nil_append]

/-- A blank in front makes no difference. -/
lemma blank (hstart : startsToken c = true) (h : Lexes (c :: s) lexemes rest) :
    Lexes (' ' :: c :: s) lexemes rest where
  length_le := Nat.le_succ_of_le h.length_le
  lexFrom_eq n := by
    rw [← h.lexFrom_eq]
    cases lexemes.length + n with
    | zero => rfl
    | succ m =>
      rw [lexFrom, lexFrom, skipBlanks_of_startsToken hstart]
      have hskip : skipBlanks (' ' :: c :: s).length (' ' :: c :: s) = c :: s :=
        skipBlanks_space hstart _ s
      rw [hskip]

/-- The tokens of a text that begins with some. -/
lemma tokens_eq (hstart : startsToken c = true) (hsemicolon : c ≠ ';')
    (h : Lexes (c :: s) lexemes rest) : ∃ n, tokens (c :: s) = lexemes ++ lexFrom n rest := by
  refine ⟨(c :: s).length + 1 - lexemes.length, ?_⟩
  have hskip : skipEmpty ((c :: s).length + 1) (c :: s) = c :: s := by
    rw [skipEmpty, skipBlanks_of_startsToken hstart]
    split
    · rename_i heq
      exact absurd (List.cons.inj heq).1 hsemicolon
    · rfl
  have hlength : lexemes.length ≤ (c :: s).length := by
    have := h.length_le
    omega
  rw [tokens, hskip, ← h.lexFrom_eq]
  congr 1
  omega

end Lexes

/-! ### Pieces -/

/-- What may stand behind a piece of text. -/
def Delimits (rest : List Char) : Prop :=
  ∀ c ∈ rest.head?, c = ' ' ∨ c = ','

/-- A text that is one token before any delimiter. -/
structure IsPiece (s : List Char) (lexeme : Lexeme) : Prop where
  starts : ∃ c t, s = c :: t ∧ startsToken c = true
  lexes : ∀ rest, Delimits rest → Lexes (s ++ rest) [lexeme] rest

lemma spellingOf_append (s rest : List Char) : spellingOf (s ++ rest) rest = s := by
  rw [spellingOf, List.length_append, Nat.add_sub_cancel, List.take_left]

/-- What is written in quotes is read back, whatever it is, unless another quote comes behind it. -/
lemma takeQuoted?_doubled {quote : Char} {rest : List Char} (h : rest.head? ≠ some quote)
    (s : List Char) : takeQuoted? quote (doubled quote s ++ quote :: rest) = some (s, rest) := by
  induction s with
  | nil =>
    cases rest with
    | nil => exact if_pos rfl
    | cons d rest =>
      have hne : d ≠ quote := fun heq => h (heq ▸ rfl)
      rw [doubled, List.nil_append, takeQuoted?, if_pos rfl, if_neg hne]
  | cons c s ih =>
    rw [doubled]
    split
    · subst c
      rw [List.cons_append, List.cons_append, takeQuoted?, if_pos rfl, if_pos rfl, ih,
        Option.map_some]
    · rename_i hne
      obtain ⟨d, t, ht⟩ : ∃ d t, doubled quote s ++ quote :: rest = d :: t :=
        List.exists_cons_of_ne_nil (by simp)
      rw [List.cons_append, ht, takeQuoted?, if_neg hne, ← ht, ih, Option.map_some]

/-- A piece between marks is one token, unless another mark comes behind it. -/
lemma lexes_marked {mark : Char} {token : String → Token} (hstart : startsToken mark = true)
    (hlex : ∀ s, lexToken mark s = lexQuoted (mark :: s) mark s token)
    (hlegal : ∀ t, token t ≠ .illegal) (hgoes : ∀ t, token t ≠ .symbol ";") (s : List Char)
    {rest : List Char} (h : rest.head? ≠ some mark) :
    Lexes (enclosed mark s ++ rest) [⟨token (String.ofList s), enclosed mark s⟩] rest := by
  have hsplit : enclosed mark s ++ rest = mark :: (doubled mark s ++ mark :: rest) := by
    simp [enclosed]
  rw [hsplit]
  refine .single hstart ?_ ?_ (hlegal _) (hgoes _)
  · rw [hlex, ← hsplit, lexQuoted, takeQuoted?_doubled h]
    change lexemeTo _ _ _ = _
    rw [lexemeTo, spellingOf_append]
  · rw [List.length_append, List.length_cons]
    omega

def nameLexeme (name : List Char) : Lexeme :=
  ⟨.quoted '"' (String.ofList name), enclosed '"' name⟩

lemma lexes_enclosed (name : List Char) {rest : List Char} (h : rest.head? ≠ some '"') :
    Lexes (enclosed '"' name ++ rest) [nameLexeme name] rest := by
  have hlex : ∀ s, lexToken '"' s = lexQuoted ('"' :: s) '"' s (.quoted '"') := fun _ => rfl
  exact lexes_marked (by decide) hlex (by simp) (by simp) name h

lemma isPiece_enclosed (name : List Char) : IsPiece (enclosed '"' name) (nameLexeme name) where
  starts := ⟨'"', doubled '"' name ++ ['"'], rfl, by decide⟩
  lexes rest hrest := by
    apply lexes_enclosed
    intro hhead
    rcases hrest '"' hhead with h | h <;> cases h

def wordLexeme (word : List Char) : Lexeme :=
  ⟨.word (String.ofList word), word⟩

/-- Whether letters are one word, whatever stands behind them. -/
def isPlainWord : List Char → Bool
  | [] => false
  | c :: s => c != 'x' && c != 'X' && (c :: s).all Char.isAlpha

lemma toNat_of_isAlpha {c : Char} (h : c.isAlpha = true) : 65 ≤ c.toNat ∧ c.toNat ≤ 122 := by
  have hranges : (65 ≤ c.toNat ∧ c.toNat ≤ 90) ∨ (97 ≤ c.toNat ∧ c.toNat ≤ 122) := by
    obtain hupper | hlower := Bool.or_eq_true_iff.mp h
    · exact .inl (of_decide_eq_true hupper)
    · obtain ⟨hlow, hhigh⟩ := Bool.and_eq_true_iff.mp hlower
      exact .inr ⟨of_decide_eq_true hlow, of_decide_eq_true hhigh⟩
  omega

lemma ne_of_isAlpha {c d : Char} (hc : c.isAlpha = true) (hd : d.isAlpha = false) : c ≠ d := by
  rintro rfl
  rw [hc] at hd
  cases hd

lemma startsToken_of_isAlpha {c : Char} (h : c.isAlpha = true) : startsToken c = true := by
  have hbounds := toNat_of_isAlpha h
  have hblank : isAsciiBlank c = false := by
    rw [isAsciiBlank, Bool.or_eq_false_iff, beq_eq_false_iff_ne, Bool.and_eq_false_iff,
      decide_eq_false_iff_not, decide_eq_false_iff_not]
    exact ⟨ne_of_isAlpha h (by decide), by omega⟩
  rw [startsToken, hblank, bne_iff_ne.2 (ne_of_isAlpha h (by decide)),
    bne_iff_ne.2 (ne_of_isAlpha h (by decide)), bne_iff_ne.2 (ne_of_isAlpha h (by decide))]
  rfl

/-- A letter begins a word, unless it marks a constant in hexadecimal. -/
lemma lexToken_of_isAlpha {c : Char} (h : c.isAlpha = true) (hx : c ≠ 'x') (hX : c ≠ 'X')
    (s : List Char) :
    lexToken c s = lexemeTo (c :: s) (.word (String.ofList ((c :: s).takeWhile isSqlWordChar)))
      ((c :: s).dropWhile isSqlWordChar) := by
  have hmarks : c ∉ nameMarks := by
    intro hmem
    have hall : (nameMarks.all fun d => !d.isAlpha) = true := by decide
    have hc := List.all_eq_true.1 hall c hmem
    rw [h] at hc
    cases hc
  have hdigit : ¬c.isDigit = true := by
    have hbounds := toNat_of_isAlpha h
    rw [isDigit_iff_toNat]
    omega
  have hstart : isSqlWordStart c = true := by rw [isSqlWordStart, h, Bool.true_or, Bool.true_or]
  unfold lexToken
  rw [if_neg (ne_of_isAlpha h (by decide)),
    if_neg (not_or.2 ⟨ne_of_isAlpha h (by decide), ne_of_isAlpha h (by decide)⟩),
    if_neg (ne_of_isAlpha h (by decide)), if_neg (ne_of_isAlpha h (by decide)), if_neg hmarks,
    if_neg hdigit, if_neg (fun hpoint => ne_of_isAlpha h (by decide) hpoint.1), if_pos hstart]
  split
  · exact absurd rfl hx
  · exact absurd rfl hX
  · rfl

/-- Whether characters are one word, unless another character of words comes behind them. -/
def isWordText : List Char → Bool
  | [] => false
  | c :: s => c.isAlpha && c != 'x' && c != 'X' && s.all isSqlWordChar

lemma isWordText_of_isPlainWord {word : List Char} (h : isPlainWord word = true) :
    isWordText word = true := by
  cases word with
  | nil => cases h
  | cons c s =>
    simp only [isPlainWord, Bool.and_eq_true, List.all_eq_true] at h
    obtain ⟨⟨hx, hX⟩, hall⟩ := h
    have hrest : ∀ d ∈ s, isSqlWordChar d = true := fun d hd => by
      rw [isSqlWordChar, isSqlWordStart, hall d (List.mem_cons_of_mem c hd), Bool.true_or,
        Bool.true_or, Bool.true_or, Bool.true_or]
    rw [isWordText, hall c List.mem_cons_self, hx, hX, List.all_eq_true.2 hrest]
    rfl

/-- A word begins with a letter. -/
lemma exists_cons_of_isWordText {word : List Char} (h : isWordText word = true) :
    ∃ c t, word = c :: t ∧ c.isAlpha = true := by
  cases word with
  | nil => cases h
  | cons c s =>
    simp only [isWordText, Bool.and_eq_true] at h
    exact ⟨c, s, rfl, h.1.1.1⟩

lemma lexes_word {word : List Char} (h : isWordText word = true) {rest : List Char}
    (hrest : ∀ c ∈ rest.head?, isSqlWordChar c = false) :
    Lexes (word ++ rest) [wordLexeme word] rest := by
  cases word with
  | nil => cases h
  | cons c s =>
    simp only [isWordText, Bool.and_eq_true, bne_iff_ne, List.all_eq_true] at h
    obtain ⟨⟨⟨halpha, hx⟩, hX⟩, hall⟩ := h
    have hword : ∀ d ∈ c :: s, isSqlWordChar d = true := by
      intro d hd
      rcases List.mem_cons.1 hd with rfl | hd
      · rw [isSqlWordChar, isSqlWordStart, halpha, Bool.true_or, Bool.true_or, Bool.true_or,
          Bool.true_or]
      · exact hall d hd
    have htake : rest.takeWhile isSqlWordChar = [] ∧ rest.dropWhile isSqlWordChar = rest := by
      cases rest with
      | nil => exact ⟨rfl, rfl⟩
      | cons d rest =>
        have hstop := hrest d rfl
        exact ⟨List.takeWhile_cons_of_neg (by simp [hstop]),
          List.dropWhile_cons_of_neg (by simp [hstop])⟩
    rw [List.cons_append]
    refine .single (startsToken_of_isAlpha halpha) ?_ (by simp) (by simp [wordLexeme])
      (by simp [wordLexeme])
    rw [lexToken_of_isAlpha halpha hx hX, ← List.cons_append, List.takeWhile_append_of_pos hword,
      List.dropWhile_append_of_pos hword, htake.1, htake.2, List.append_nil, lexemeTo,
      spellingOf_append, wordLexeme]

lemma isPiece_word {word : List Char} (h : isPlainWord word = true) :
    IsPiece word (wordLexeme word) where
  starts := by
    obtain ⟨c, t, hword, halpha⟩ := exists_cons_of_isWordText (isWordText_of_isPlainWord h)
    exact ⟨c, t, hword, startsToken_of_isAlpha halpha⟩
  lexes rest hrest := by
    apply lexes_word (isWordText_of_isPlainWord h)
    intro c hc
    rcases hrest c hc with rfl | rfl <;> decide

/-! ### Pieces in a row -/

def commaLexeme : Lexeme :=
  ⟨.symbol ",", [',']⟩

lemma IsPiece.lexes_blank {s : List Char} {lexeme : Lexeme} (h : IsPiece s lexeme)
    {rest : List Char} (hrest : Delimits rest) : Lexes (' ' :: (s ++ rest)) [lexeme] rest := by
  obtain ⟨c, t, rfl, hstart⟩ := h.starts
  exact .blank hstart (h.lexes rest hrest)

lemma lexes_comma (s : List Char) : Lexes (',' :: ' ' :: s) [commaLexeme] (' ' :: s) := by
  refine .single (by decide) ?_ le_rfl (by simp [commaLexeme]) (by simp [commaLexeme])
  have hlex : lexToken ',' (' ' :: s) = lexSymbol ',' (' ' :: s) := rfl
  have hlong : String.ofList [',', ' '] ∉ longSymbols := by decide
  have hshort : ',' ∈ shortSymbols := by decide
  rw [hlex, lexSymbol]
  change (if String.ofList [',', ' '] ∈ longSymbols then _ else _) = _
  rw [if_neg hlong, if_pos hshort]
  rfl

/-- Pieces with commas between them, behind a blank. -/
lemma lexes_intercalate {pieces : List (List Char × Lexeme)}
    (hpieces : ∀ p ∈ pieces, IsPiece p.1 p.2) (hne : pieces ≠ []) {rest : List Char}
    (hrest : Delimits rest) :
    Lexes (' ' :: ([',', ' '].intercalate (pieces.map Prod.fst) ++ rest))
      ((pieces.map Prod.snd).intersperse commaLexeme) rest := by
  induction pieces with
  | nil => exact absurd rfl hne
  | cons p pieces ih =>
    obtain ⟨hp, htail⟩ := List.forall_mem_cons.1 hpieces
    cases pieces with
    | nil =>
      have htext : [',', ' '].intercalate ([p].map Prod.fst) = p.1 := by simp [List.intercalate]
      rw [htext]
      exact hp.lexes_blank hrest
    | cons q pieces =>
      have htext : [',', ' '].intercalate ((p :: q :: pieces).map Prod.fst)
          = p.1 ++ ',' :: ' ' :: [',', ' '].intercalate ((q :: pieces).map Prod.fst) := by
        simp [List.intercalate]
      rw [htext, List.append_assoc]
      have hfirst : Delimits (',' :: ' ' :: ([',', ' '].intercalate ((q :: pieces).map Prod.fst)
          ++ rest)) := by
        rintro c ⟨⟩
        exact .inr rfl
      exact (hp.lexes_blank hfirst).append ((lexes_comma _).append (ih htail (by simp)))

end ForeignData.Sqlite
