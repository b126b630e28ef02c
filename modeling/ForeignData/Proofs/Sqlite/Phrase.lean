import Mathlib.Data.List.Forall2
import ForeignData.Proofs.Sqlite.Token

/-!
# Phrases of statements

Statements are put together from phrases: words, names, constants and placeholders, with blanks or
commas between them and parentheses around them. A phrase has its tokens before whatever may stand
behind it, so the tokens of a statement are those of its phrases in order.
-/

namespace ForeignData.Sqlite

/-- What may stand behind a phrase: a blank, a comma or a closing parenthesis. -/
def Bounds (rest : List Char) : Prop :=
  ∀ c ∈ rest.head?, c = ' ' ∨ c = ',' ∨ c = ')'

/-- A text that has some tokens before any bound. -/
structure IsPhrase (s : List Char) (lexemes : List Lexeme) : Prop where
  starts : ∃ c t, s = c :: t ∧ startsToken c = true
  lexes : ∀ rest, Bounds rest → Lexes (s ++ rest) lexemes rest

namespace Bounds

variable {rest : List Char}

lemma nil : Bounds [] := by
  intro c hc
  cases hc

lemma blank (rest : List Char) : Bounds (' ' :: rest) := by
  rintro c ⟨⟩
  exact .inl rfl

lemma comma (rest : List Char) : Bounds (',' :: rest) := by
  rintro c ⟨⟩
  exact .inr (.inl rfl)

lemma close (rest : List Char) : Bounds (')' :: rest) := by
  rintro c ⟨⟩
  exact .inr (.inr rfl)

/-- A character that bounds nothing does not come next. -/
lemma head?_ne (h : Bounds rest) {c : Char} (hc : c ≠ ' ' ∧ c ≠ ',' ∧ c ≠ ')') :
    rest.head? ≠ some c := by
  intro hhead
  rcases h c hhead with rfl | rfl | rfl
  · exact hc.1 rfl
  · exact hc.2.1 rfl
  · exact hc.2.2 rfl

end Bounds

/-! ### Single tokens -/

def stringLexeme (s : List Char) : Lexeme :=
  ⟨.string (String.ofList s), enclosed '\'' s⟩

def placeholderLexeme (n : Nat) : Lexeme :=
  ⟨.placeholder (some n), '?' :: natText n⟩

def symbolLexeme (c : Char) : Lexeme :=
  ⟨.symbol (String.ofList [c]), [c]⟩

/-- The symbols of one character that are part of no longer one, wherever they stand. -/
def soleSymbols : List Char :=
  ['(', ')', ',']

/-- A character is a symbol by itself if it makes no longer one with what is behind it. -/
lemma lexSymbol_of_not_mem {c : Char} (hc : c ∈ shortSymbols) {rest : List Char}
    (hlong : ∀ d ∈ rest.head?, String.ofList [c, d] ∉ longSymbols) :
    lexSymbol c rest = (symbolLexeme c, rest) := by
  cases rest with
  | nil =>
    rw [lexSymbol, if_pos hc]
    rfl
  | cons d rest =>
    have hd := hlong d rfl
    rw [lexSymbol]
    change (if String.ofList [c, d] ∈ longSymbols then _ else _) = _
    rw [if_neg hd, if_pos hc]
    rfl

lemma not_mem_longSymbols {c : Char} (hc : c ∈ soleSymbols) (d : Char) :
    String.ofList [c, d] ∉ longSymbols := by
  have hfirst : (longSymbols.all fun s => !(s.toList.head?.any soleSymbols.contains)) = true := by
    decide
  intro hlong
  have hhead := List.all_eq_true.1 hfirst _ hlong
  rw [String.toList_ofList, List.head?_cons, Option.any_some, List.contains_iff_mem.2 hc] at hhead
  cases hhead

lemma lexes_symbol {c : Char} (hc : c ∈ soleSymbols) (rest : List Char) :
    Lexes (c :: rest) [symbolLexeme c] rest := by
  have hlong : ∀ d ∈ rest.head?, String.ofList [c, d] ∉ longSymbols :=
    fun d _ => not_mem_longSymbols hc d
  simp only [soleSymbols, List.mem_cons, List.not_mem_nil, or_false] at hc
  rcases hc with rfl | rfl | rfl
  all_goals
    exact .single (by decide) (lexSymbol_of_not_mem (by decide) hlong) le_rfl
      (by simp [symbolLexeme]) (by decide)

namespace IsPhrase

lemma word {w : List Char} (h : isWordText w = true) : IsPhrase w [wordLexeme w] where
  starts := by
    obtain ⟨c, t, hw, halpha⟩ := exists_cons_of_isWordText h
    exact ⟨c, t, hw, startsToken_of_isAlpha halpha⟩
  lexes rest hrest := by
    apply lexes_word h
    intro c hc
    rcases hrest c hc with rfl | rfl | rfl <;> decide

lemma name (s : List Char) : IsPhrase (enclosed '"' s) [nameLexeme s] where
  starts := ⟨'"', doubled '"' s ++ ['"'], rfl, by decide⟩
  lexes _ hrest := lexes_enclosed s (hrest.head?_ne (by decide))

lemma string (s : List Char) : IsPhrase (enclosed '\'' s) [stringLexeme s] where
  starts := ⟨'\'', doubled '\'' s ++ ['\''], rfl, by decide⟩
  lexes rest hrest := by
    have hlex : ∀ s, lexToken '\'' s = lexQuoted ('\'' :: s) '\'' s .string := fun _ => rfl
    exact lexes_marked (by decide) hlex (by simp) (by simp) s (hrest.head?_ne (by decide))

/-- The digits of a placeholder end where a bound stands. -/
lemma placeholder (n : Nat) : IsPhrase ('?' :: natText n) [placeholderLexeme n] where
  starts := ⟨'?', natText n, rfl, by decide⟩
  lexes rest hrest := by
    have hstop : StopsDigits rest := by
      intro c hc
      rcases hrest c hc with rfl | rfl | rfl <;> decide
    have hspan : spanDigits (natText n ++ rest) = (natText n, rest) := by
      rw [spanDigits, takeWhile_isDigit_append (allDigits_natText n) hstop,
        dropWhile_isDigit_append (allDigits_natText n) hstop]
    have hunfold : ∀ s, lexToken '?' s
        = lexemeTo ('?' :: s) (.placeholder (readNat? (spanDigits s).1)) (spanDigits s).2 :=
      fun _ => rfl
    have hlex : lexToken '?' (natText n ++ rest) = (placeholderLexeme n, rest) := by
      rw [hunfold, hspan, readNat?_natText, ← List.cons_append, lexemeTo, spellingOf_append]
      rfl
    rw [List.cons_append]
    refine .single (by decide) hlex ?_ (by simp [placeholderLexeme]) (by simp [placeholderLexeme])
    rw [List.length_append]
    omega

lemma equals : IsPhrase ['='] [symbolLexeme '='] where
  starts := ⟨'=', [], rfl, by decide⟩
  lexes rest hrest := by
    have hlong : ∀ d ∈ rest.head?, String.ofList ['=', d] ∉ longSymbols := by
      intro d hd
      rcases hrest d hd with rfl | rfl | rfl <;> decide
    exact .single (by decide) (lexSymbol_of_not_mem (by decide) hlong) le_rfl
      (by simp [symbolLexeme]) (by decide)

/-! ### Phrases in a row -/

variable {s t : List Char} {lexemes lexemes' : List Lexeme}

lemma lexes_blank (h : IsPhrase s lexemes) {rest : List Char} (hrest : Bounds rest) :
    Lexes (' ' :: (s ++ rest)) lexemes rest := by
  obtain ⟨c, t, rfl, hstart⟩ := h.starts
  exact .blank hstart (h.lexes rest hrest)

/-- Two phrases with a blank between them. -/
lemma space (h : IsPhrase s lexemes) (h' : IsPhrase t lexemes') :
    IsPhrase (s ++ ' ' :: t) (lexemes ++ lexemes') where
  starts := by
    obtain ⟨c, r, rfl, hstart⟩ := h.starts
    exact ⟨c, r ++ ' ' :: t, rfl, hstart⟩
  lexes rest hrest := by
    rw [List.append_assoc]
    exact (h.lexes _ (.blank _)).append (h'.lexes_blank hrest)

/-- Two phrases with a comma between them. -/
lemma comma (h : IsPhrase s lexemes) (h' : IsPhrase t lexemes') :
    IsPhrase (s ++ ',' :: ' ' :: t) (lexemes ++ symbolLexeme ',' :: lexemes') where
  starts := by
    obtain ⟨c, r, rfl, hstart⟩ := h.starts
    exact ⟨c, r ++ ',' :: ' ' :: t, rfl, hstart⟩
  lexes rest hrest := by
    rw [List.append_assoc]
    have hcomma := lexes_symbol (c := ',') (by decide) (' ' :: (t ++ rest))
    exact (h.lexes _ (.comma _)).append (hcomma.append (h'.lexes_blank hrest))

/-- Phrases with commas between them. -/
lemma intercalate {texts : List (List Char)} {groups : List (List Lexeme)}
    (h : List.Forall₂ IsPhrase texts groups) (hne : texts ≠ []) :
    IsPhrase ([',', ' '].intercalate texts) ([symbolLexeme ','].intercalate groups) := by
  induction h with
  | nil => exact absurd rfl hne
  | cons hp htail ih =>
    cases htail with
    | nil => simpa [List.intercalate] using hp
    | cons hq htail =>
      have hrest := hp.comma (ih (by simp))
      simpa [List.intercalate] using hrest

/-- A phrase in parentheses ends with these, whatever stands behind. -/
lemma lexes_parenthesize (h : IsPhrase s lexemes) (rest : List Char) :
    Lexes ('(' :: s ++ [')'] ++ rest) (symbolLexeme '(' :: lexemes ++ [symbolLexeme ')']) rest := by
  have hopen := lexes_symbol (c := '(') (by decide) (s ++ ')' :: rest)
  have hclose := lexes_symbol (c := ')') (by decide) rest
  have hall := hopen.append ((h.lexes _ (.close rest)).append hclose)
  simpa using hall

lemma parenthesize (h : IsPhrase s lexemes) :
    IsPhrase ('(' :: s ++ [')']) (symbolLexeme '(' :: lexemes ++ [symbolLexeme ')']) where
  starts := ⟨'(', s ++ [')'], rfl, by decide⟩
  lexes rest _ := h.lexes_parenthesize rest

/-- A word with a phrase in parentheses right behind it. -/
lemma call {w : List Char} (hw : isWordText w = true) (h : IsPhrase s lexemes) :
    IsPhrase (w ++ '(' :: s ++ [')'])
      (wordLexeme w :: symbolLexeme '(' :: lexemes ++ [symbolLexeme ')']) where
  starts := by
    obtain ⟨c, t, rfl, halpha⟩ := exists_cons_of_isWordText hw
    exact ⟨c, t ++ '(' :: s ++ [')'], by simp, startsToken_of_isAlpha halpha⟩
  lexes rest hrest := by
    have hword : Lexes (w ++ ('(' :: s ++ [')'] ++ rest)) [wordLexeme w]
        ('(' :: s ++ [')'] ++ rest) := by
      apply lexes_word hw
      rintro c ⟨⟩
      decide
    have hall := hword.append (h.parenthesize.lexes rest hrest)
    simpa using hall

lemma tokens_eq (h : IsPhrase s lexemes) (hsemicolon : s.head? ≠ some ';') :
    tokens s = lexemes := by
  obtain ⟨c, t, rfl, hstart⟩ := h.starts
  have hlexes := h.lexes [] .nil
  rw [List.append_nil] at hlexes
  obtain ⟨n, hn⟩ := hlexes.tokens_eq hstart fun hc => hsemicolon (congrArg some hc)
  have hend : lexFrom n [] = [] := by cases n <;> rfl
  rw [hn, hend, List.append_nil]

end IsPhrase

end ForeignData.Sqlite
