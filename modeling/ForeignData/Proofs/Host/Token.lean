import Mathlib.Data.List.Forall2
import ForeignData.Proofs.Sqlite.Token
import ForeignData.Proofs.Text.Casing
import ForeignData.Text.Blank

/-!
# Tokens of the host

The host reads SQL text token by token. A bare word counts in small letters; it is a keyword if it
is reserved, and a name if not. Names stand in double quotes, constants in single ones, and the
quote itself is written twice there; with an `E` in front of a constant, a backslash escapes what
comes behind it. So names and constants that are written for the host are read back as what they
are, whatever they contain, before everything that does not go on with a quote or with a word.

Numbers, operators and other forms of constants are not put together here.
-/

namespace ForeignData.HostSql

open Sqlite (takeQuoted? takeQuoted?_doubled startsToken)

/-- A token of the host's SQL. -/
inductive Token where
  | name (s : String)
  /-- A reserved word written bare. -/
  | keyword (s : String)
  | constant (s : String)
  /-- Any other character. -/
  | mark (c : Char)
  | illegal
  deriving DecidableEq

/-! ### Blanks and comments -/

/-- What stands between tokens. -/
inductive Gap where
  | blanks
  /-- A comment that ends with its line. -/
  | line
  /-- A comment with an end of its own, inside some others. -/
  | comment (depth : Nat)

def skipGap : Gap → List Char → List Char
  | .blanks, '-' :: '-' :: s => skipGap .line s
  | .blanks, '/' :: '*' :: s => skipGap (.comment 0) s
  | .blanks, c :: s => if isAsciiBlank c then skipGap .blanks s else c :: s
  | .line, c :: s => if c = '\n' ∨ c = '\r' then skipGap .blanks s else skipGap .line s
  | .comment 0, '*' :: '/' :: s => skipGap .blanks s
  | .comment (depth + 1), '*' :: '/' :: s => skipGap (.comment depth) s
  | .comment depth, '/' :: '*' :: s => skipGap (.comment (depth + 1)) s
  | .comment depth, _ :: s => skipGap (.comment depth) s
  | _, [] => []

/-! ### Tokens -/

/-- A character that a word may begin with. -/
def isNameStart (c : Char) : Bool :=
  c.isAlpha || c == '_' || 128 ≤ c.toNat

/-- A character that a word may contain. -/
def isNameChar (c : Char) : Bool :=
  isNameStart c || c.isDigit || c == '$'

def wordToken (word : List Char) : Token :=
  let s := lowerAscii (String.ofList word)
  if reservedWords.contains s then .keyword s else .name s

/-- The character that an escape stands for, unless it gives the number of one. -/
def escaped? (c : Char) : Option Char :=
  if c = 'b' then some '\x08'
  else if c = 'f' then some '\x0c'
  else if c = 'n' then some '\n'
  else if c = 'r' then some '\r'
  else if c = 't' then some '\t'
  else if c ∈ ['0', '1', '2', '3', '4', '5', '6', '7', 'x', 'u', 'U'] then none
  else some c

/-- Read a constant with escapes up to its closing quote. -/
def takeEscaped? : List Char → Option (List Char × List Char)
  | [] => none
  | '\\' :: c :: s =>
    match escaped? c with
    | some d => (takeEscaped? s).map fun (t, rest) => (d :: t, rest)
    | none => none
  | '\'' :: '\'' :: s => (takeEscaped? s).map fun (t, rest) => ('\'' :: t, rest)
  | '\'' :: s => some ([], s)
  | c :: s => (takeEscaped? s).map fun (t, rest) => (c :: t, rest)

/-- A piece in quotes with what is behind it, or an illegal one up to the end of the text. -/
def quotedToken (token : List Char → Token) : Option (List Char × List Char) → Token × List Char
  | some (t, rest) => (token t, rest)
  | none => (.illegal, [])

/-- A name in quotes is not empty. -/
def nameToken (name : List Char) : Token :=
  if name = [] then .illegal else .name (String.ofList name)

/-- The token that a text begins with, and what is behind it. -/
def readToken (c : Char) (s : List Char) : Token × List Char :=
  if c = '"' then quotedToken nameToken (takeQuoted? '"' s)
  else if c = '\'' then quotedToken (.constant ∘ String.ofList) (takeQuoted? '\'' s)
  else if (c = 'E' ∨ c = 'e') ∧ s.head? = some '\'' then
    quotedToken (.constant ∘ String.ofList) (takeEscaped? s.tail)
  else if isNameStart c then
    (wordToken ((c :: s).takeWhile isNameChar), (c :: s).dropWhile isNameChar)
  else (.mark c, s)

def nextToken (s : List Char) : Option (Token × List Char) :=
  match skipGap .blanks s with
  | [] => none
  | c :: s => some (readToken c s)

/-- A text is read as some tokens, up to the rest. -/
inductive Reads : List Char → List Token → List Char → Prop
  | nil (s : List Char) : Reads s [] s
  | cons {s s' rest : List Char} {token : Token} {tokens : List Token}
      (hnext : nextToken s = some (token, s')) (hreads : Reads s' tokens rest) :
      Reads s (token :: tokens) rest

namespace Reads

variable {s t rest : List Char} {token : Token} {tokens tokens' : List Token}

lemma single (h : nextToken s = some (token, rest)) : Reads s [token] rest :=
  .cons h (.nil rest)

lemma append (h : Reads s tokens t) (h' : Reads t tokens' rest) :
    Reads s (tokens ++ tokens') rest := by
  induction h with
  | nil => exact h'
  | cons hnext _ ih => exact .cons hnext (ih h')

end Reads

/-! ### Beginnings of tokens -/

section Starts

variable {c : Char} {s : List Char}

lemma nextToken_of_startsToken (h : startsToken c = true) (s : List Char) :
    nextToken (c :: s) = some (readToken c s) := by
  simp only [startsToken, Bool.and_eq_true, Bool.not_eq_true', bne_iff_ne] at h
  obtain ⟨⟨⟨hblank, -⟩, hdash⟩, hslash⟩ := h
  have hskip : skipGap .blanks (c :: s) = c :: s := by
    rw [skipGap, hblank, if_neg Bool.false_ne_true]
    · rintro t rfl -
      exact hdash rfl
    · rintro t rfl -
      exact hslash rfl
  rw [nextToken, hskip]

/-- A blank in front makes no difference. -/
lemma nextToken_blank (h : isAsciiBlank c = true) (s : List Char) :
    nextToken (c :: s) = nextToken s := by
  have hskip : skipGap .blanks (c :: s) = skipGap .blanks s := by
    rw [skipGap, if_pos h]
    · rintro t rfl -
      cases h
    · rintro t rfl -
      cases h
  rw [nextToken, hskip, nextToken]

lemma Reads.blank {rest : List Char} {token : Token} {tokens : List Token}
    (h : isAsciiBlank c = true) (hreads : Reads s (token :: tokens) rest) :
    Reads (c :: s) (token :: tokens) rest := by
  cases hreads with
  | cons hnext hreads => exact .cons ((nextToken_blank h s).trans hnext) hreads

/-- The marks that stand between names. -/
lemma nextToken_mark (h : c ∈ ['(', ')', ',', '.']) (s : List Char) :
    nextToken (c :: s) = some (.mark c, s) := by
  simp only [List.mem_cons, List.not_mem_nil, or_false] at h
  rcases h with rfl | rfl | rfl | rfl
  all_goals
    rw [nextToken_of_startsToken (by decide)]
    rfl

end Starts

/-! ### What is written in quotes -/

/-- What may stand behind a name or a constant: no quote, and no character of words. -/
def Ends (rest : List Char) : Prop :=
  ∀ c ∈ rest.head?, c ≠ '\'' ∧ c ≠ '"' ∧ isNameChar c = false

section Quoted

variable {rest : List Char}

lemma Ends.head?_ne_quote (h : Ends rest) : rest.head? ≠ some '\'' :=
  fun hhead => (h _ hhead).1 rfl

lemma Ends.head?_ne_doubleQuote (h : Ends rest) : rest.head? ≠ some '"' :=
  fun hhead => (h _ hhead).2.1 rfl

lemma nextToken_enclosed_name {name : List Char} (hne : name ≠ []) (hrest : Ends rest) :
    nextToken (enclosed '"' name ++ rest) = some (.name (String.ofList name), rest) := by
  have hsplit : enclosed '"' name ++ rest = '"' :: (doubled '"' name ++ '"' :: rest) := by
    simp [enclosed]
  rw [hsplit, nextToken_of_startsToken (by decide), readToken, if_pos rfl,
    takeQuoted?_doubled hrest.head?_ne_doubleQuote, quotedToken, nameToken, if_neg hne]

lemma nextToken_enclosed_constant (s : List Char) (hrest : Ends rest) :
    nextToken (enclosed '\'' s ++ rest) = some (.constant (String.ofList s), rest) := by
  have hsplit : enclosed '\'' s ++ rest = '\'' :: (doubled '\'' s ++ '\'' :: rest) := by
    simp [enclosed]
  rw [hsplit, nextToken_of_startsToken (by decide), readToken, if_neg (by decide), if_pos rfl,
    takeQuoted?_doubled hrest.head?_ne_quote]
  rfl

/-- A backslash and a quote are read as one each if both are written twice. -/
lemma takeEscaped?_doubled (hrest : Ends rest) (s : List Char) :
    takeEscaped? (doubled '\'' (doubled '\\' s) ++ '\'' :: rest) = some (s, rest) := by
  induction s with
  | nil =>
    cases rest with
    | nil => rfl
    | cons c rest =>
      rw [doubled, doubled, List.nil_append, takeEscaped?]
      rintro t ⟨⟩
      exact hrest.head?_ne_quote rfl
  | cons c s ih =>
    by_cases hbackslash : c = '\\'
    · subst c
      have htext : doubled '\'' (doubled '\\' ('\\' :: s)) ++ '\'' :: rest
          = '\\' :: '\\' :: (doubled '\'' (doubled '\\' s) ++ '\'' :: rest) := rfl
      have hescaped : escaped? '\\' = some '\\' := by decide
      rw [htext, takeEscaped?, hescaped]
      simp only
      rw [ih, Option.map_some]
    · rw [doubled, if_neg hbackslash, doubled]
      split
      · subst c
        rw [List.cons_append, List.cons_append, takeEscaped?, ih, Option.map_some]
      · rename_i hquote
        rw [List.cons_append, takeEscaped?, ih, Option.map_some]
        · rintro d t rfl -
          exact hbackslash rfl
        · rintro t rfl -
          exact hquote rfl
        · exact hquote

lemma nextToken_escaped (s : List Char) (hrest : Ends rest) :
    nextToken ('E' :: enclosed '\'' (doubled '\\' s) ++ rest)
      = some (.constant (String.ofList s), rest) := by
  have hsplit : 'E' :: enclosed '\'' (doubled '\\' s) ++ rest
      = 'E' :: '\'' :: (doubled '\'' (doubled '\\' s) ++ '\'' :: rest) := by
    simp [enclosed]
  rw [hsplit, nextToken_of_startsToken (by decide), readToken, if_neg (by decide),
    if_neg (by decide), if_pos ⟨.inl rfl, rfl⟩, List.tail_cons, takeEscaped?_doubled hrest]
  rfl

end Quoted

/-! ### Bare words -/

section Words

variable {word rest : List Char}

def isBareWord : List Char → Bool
  | [] => false
  | c :: word => (c.isAlpha || c == '_') && word.all isNameChar

lemma isNameChar_of_isNameStart {c : Char} (h : isNameStart c = true) : isNameChar c = true := by
  rw [isNameChar, h, Bool.true_or, Bool.true_or]

lemma startsToken_of_isBareWord {c : Char} (h : isBareWord (c :: word) = true) :
    startsToken c = true := by
  rw [isBareWord, Bool.and_eq_true, Bool.or_eq_true, beq_iff_eq] at h
  obtain ⟨halpha | rfl, -⟩ := h
  · exact Sqlite.startsToken_of_isAlpha halpha
  · decide

lemma isNameChar_of_isBareWord (h : isBareWord word = true) : ∀ c ∈ word, isNameChar c = true := by
  cases word with
  | nil => cases h
  | cons c word =>
    rw [isBareWord, Bool.and_eq_true, List.all_eq_true] at h
    refine List.forall_mem_cons.2 ⟨isNameChar_of_isNameStart ?_, h.2⟩
    rw [isNameStart, h.1, Bool.true_or]

/-- No character of words is a quote. -/
lemma ne_quote_of_isNameChar {c : Char} (h : isNameChar c = true) : c ≠ '\'' := by
  rintro rfl
  cases h

lemma nextToken_word (hword : isBareWord word = true) (hrest : Ends rest) :
    nextToken (word ++ rest) = some (wordToken word, rest) := by
  have hall := isNameChar_of_isBareWord hword
  cases word with
  | nil => cases hword
  | cons c word =>
    have hstart : isNameStart c = true := by
      rw [isBareWord, Bool.and_eq_true] at hword
      rw [isNameStart, hword.1, Bool.true_or]
    have hquote : (word ++ rest).head? ≠ some '\'' := by
      cases word with
      | nil => exact hrest.head?_ne_quote
      | cons d word =>
        rintro ⟨⟩
        exact ne_quote_of_isNameChar (hall _ (List.mem_cons_of_mem c List.mem_cons_self)) rfl
    have hname : c ≠ '"' := by
      rintro rfl
      cases hstart
    have hconstant : c ≠ '\'' := ne_quote_of_isNameChar (hall c List.mem_cons_self)
    have hend : rest.takeWhile isNameChar = [] ∧ rest.dropWhile isNameChar = rest := by
      cases rest with
      | nil => exact ⟨rfl, rfl⟩
      | cons d rest =>
        have hstop := (hrest d rfl).2.2
        exact ⟨List.takeWhile_cons_of_neg (by simp [hstop]),
          List.dropWhile_cons_of_neg (by simp [hstop])⟩
    rw [List.cons_append, nextToken_of_startsToken (startsToken_of_isBareWord hword), readToken,
      if_neg hname, if_neg hconstant, if_neg (fun h => hquote h.2), if_pos hstart,
      ← List.cons_append, List.takeWhile_append_of_pos hall, List.dropWhile_append_of_pos hall,
      hend.1, hend.2, List.append_nil]

/-- A word with a blank behind it. -/
lemma Reads.bareWord (w : String) {s : List Char} {token : Token} {tokens : List Token}
    (hword : isBareWord w.toList = true) (hreads : Reads s (token :: tokens) rest) :
    Reads (w.toList ++ ' ' :: s) (wordToken w.toList :: token :: tokens) rest := by
  have hends : Ends (' ' :: s) := by
    rintro c ⟨⟩
    decide
  exact .cons (nextToken_word hword hends) (hreads.blank (by decide))

end Words

/-! ### Names and constants -/

section Written

variable {s : String} {rest : List Char}

lemma isAlpha_or_eq_of_isWordStart {c : Char} (h : isWordStart c = true) :
    (c.isAlpha || c == '_') = true := by
  rw [isWordStart, Bool.or_eq_true] at h
  rw [Bool.or_eq_true]
  exact h.imp_left fun hlower => Bool.or_eq_true_iff.2 (.inr hlower)

lemma isNameChar_of_isWordChar {c : Char} (h : isWordChar c = true) : isNameChar c = true := by
  rw [isWordChar, Bool.or_eq_true] at h
  rcases h with hstart | hdigit
  · apply isNameChar_of_isNameStart
    rw [isNameStart, isAlpha_or_eq_of_isWordStart hstart, Bool.true_or]
  · rw [isNameChar, hdigit, Bool.or_true, Bool.true_or]

/-- A character of bare names is no capital. -/
lemma toLower_of_isWordChar {c : Char} (h : isWordChar c = true) : c.toLower = c := by
  have hranges : (97 ≤ c.toNat ∧ c.toNat ≤ 122) ∨ c = '_' ∨ (48 ≤ c.toNat ∧ c.toNat ≤ 57) := by
    rw [isWordChar, isWordStart, Bool.or_eq_true, Bool.or_eq_true, Bool.and_eq_true,
      isDigit_iff_toNat, beq_iff_eq, decide_eq_true_iff, decide_eq_true_iff, Char.le_def,
      Char.le_def, UInt32.le_iff_toNat_le, UInt32.le_iff_toNat_le] at h
    exact or_assoc.1 h
  have hcapital : ¬ (65 ≤ c.toNat ∧ c.toNat ≤ 90) := by
    rcases hranges with hlower | rfl | hdigit
    · omega
    · decide
    · omega
  exact Char.toNat_inj.1 ((toNat_toLower c).trans (if_neg hcapital))

lemma wordToken_of_isBareName (h : isBareName s = true) :
    isBareWord s.toList = true ∧ wordToken s.toList = .name s := by
  obtain ⟨c, word, hs, hstart, hword, hreserved⟩ : ∃ c word, s.toList = c :: word
      ∧ isWordStart c = true ∧ (∀ d ∈ word, isWordChar d = true)
      ∧ reservedWords.contains s = false := by
    rw [isBareName] at h
    split at h
    · cases h
    · rename_i c word hs
      rw [Bool.and_eq_true, Bool.and_eq_true, List.all_eq_true, Bool.not_eq_true'] at h
      exact ⟨c, word, hs, h.1.1, h.1.2, h.2⟩
  have hall : ∀ d ∈ s.toList, isWordChar d = true := by
    rw [hs]
    exact List.forall_mem_cons.2 ⟨by rw [isWordChar, hstart, Bool.true_or], hword⟩
  constructor
  · rw [hs, isBareWord, isAlpha_or_eq_of_isWordStart hstart, Bool.true_and, List.all_eq_true]
    exact fun d hd => isNameChar_of_isWordChar (hword d hd)
  · have hlower : lowerAscii (String.ofList s.toList) = s := by
      rw [lowerAscii, String.toList_ofList,
        List.map_congr_left (fun d hd => toLower_of_isWordChar (hall d hd)), List.map_id',
        String.ofList_toList]
    rw [wordToken, hlower, hreserved, if_neg Bool.false_ne_true]

/-- A name is read back as it is. -/
lemma nextToken_quoteName (hne : s ≠ "") (hrest : Ends rest) :
    nextToken ((quoteName s).toList ++ rest) = some (.name s, rest) := by
  rw [quoteName]
  split
  · rename_i hbare
    obtain ⟨hword, htoken⟩ := wordToken_of_isBareName hbare
    rw [nextToken_word hword hrest, htoken]
  · have hne : s.toList ≠ [] := fun h => hne (String.toList_eq_nil_iff.1 h)
    rw [String.toList_ofList, nextToken_enclosed_name hne hrest, String.ofList_toList]

/-- A reserved word is never written bare. -/
lemma quoteName_of_mem_reservedWords (h : s ∈ reservedWords) :
    quoteName s = String.ofList (enclosed '"' s.toList) := by
  have hbare : isBareName s = false := by
    rw [isBareName]
    split
    · rfl
    · rw [List.contains_iff_mem.2 h, Bool.not_true, Bool.and_false]
  rw [quoteName, hbare, if_neg Bool.false_ne_true]

/-- A constant is read back as it is. -/
lemma nextToken_quoteConstant (s : String) (hrest : Ends rest) :
    nextToken ((quoteConstant s).toList ++ rest) = some (.constant s, rest) := by
  rw [quoteConstant]
  split
  · rw [String.toList_ofList, nextToken_escaped s.toList hrest, String.ofList_toList]
  · rw [String.toList_ofList, nextToken_enclosed_constant s.toList hrest, String.ofList_toList]

end Written

/-! ### Items of lists -/

/-- What may stand behind an item of a list. -/
def EndsItem (rest : List Char) : Prop :=
  ∀ c ∈ rest.head?, c = ' ' ∨ c = ',' ∨ c = '\n'

lemma EndsItem.ends {rest : List Char} (h : EndsItem rest) : Ends rest := by
  intro c hc
  rcases h c hc with rfl | rfl | rfl <;> decide

/-- A text that is read as some tokens where an item may end. -/
structure IsItem (s : List Char) (tokens : List Token) : Prop where
  ne_nil : tokens ≠ []
  reads : ∀ rest, EndsItem rest → Reads (s ++ rest) tokens rest

namespace IsItem

variable {s t : List Char} {tokens tokens' : List Token}

lemma word (h : isBareWord s = true) : IsItem s [wordToken s] where
  ne_nil := List.cons_ne_nil _ _
  reads _ hrest := .single (nextToken_word h hrest.ends)

lemma name {s : String} (hne : s ≠ "") : IsItem (quoteName s).toList [.name s] where
  ne_nil := List.cons_ne_nil _ _
  reads _ hrest := .single (nextToken_quoteName hne hrest.ends)

/-- A blank in front of an item makes no difference. -/
lemma reads_blank (h : IsItem s tokens) {c : Char} (hc : isAsciiBlank c = true) {rest : List Char}
    (hrest : EndsItem rest) : Reads (c :: (s ++ rest)) tokens rest := by
  obtain ⟨token, tokens, rfl⟩ := List.exists_cons_of_ne_nil h.ne_nil
  exact (h.reads rest hrest).blank hc

/-- Two texts with a blank between them. -/
lemma space (h : IsItem s tokens) (h' : IsItem t tokens') :
    IsItem (s ++ ' ' :: t) (tokens ++ tokens') where
  ne_nil := List.append_ne_nil_of_left_ne_nil h.ne_nil tokens'
  reads rest hrest := by
    have hblank : EndsItem (' ' :: (t ++ rest)) := by
      rintro c ⟨⟩
      exact .inl rfl
    rw [List.append_assoc]
    exact (h.reads _ hblank).append (h'.reads_blank (by decide) hrest)

/-- Items on lines of their own, with commas between them. -/
lemma intercalate {texts : List (List Char)} {groups : List (List Token)}
    (h : List.Forall₂ IsItem texts groups) (hne : texts ≠ []) :
    IsItem ([',', '\n'].intercalate texts) ([.mark ','].intercalate groups) := by
  induction h with
  | nil => exact absurd rfl hne
  | @cons s tokens texts groups hs htail ih =>
    cases htail with
    | nil => simpa [List.intercalate] using hs
    | @cons t tokens' texts groups ht htail =>
      have hlist := ih (by simp)
      have htext : [',', '\n'].intercalate (s :: t :: texts)
          = s ++ ',' :: '\n' :: [',', '\n'].intercalate (t :: texts) := by
        simp [List.intercalate]
      have hgroups : [Token.mark ','].intercalate (tokens :: tokens' :: groups)
          = tokens ++ .mark ',' :: [Token.mark ','].intercalate (tokens' :: groups) := by
        simp [List.intercalate]
      rw [htext, hgroups]
      refine ⟨by simp [hs.ne_nil], fun rest hrest => ?_⟩
      have hcomma : EndsItem
          (',' :: '\n' :: ([',', '\n'].intercalate (t :: texts) ++ rest)) := by
        rintro c ⟨⟩
        exact .inr (.inl rfl)
      rw [List.append_assoc]
      exact (hs.reads _ hcomma).append
        (.cons (nextToken_mark (by decide) _) (hlist.reads_blank (by decide) hrest))

end IsItem

end ForeignData.HostSql
