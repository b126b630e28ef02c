import ForeignData.Numeric.Numeral
import ForeignData.Text.Blank
import ForeignData.Text.Hex

/-!
# Tokens of SQL

SQL text is split into tokens, with blanks and comments between them left out. Each token is kept
with its spelling, which error messages quote. A statement ends at a semicolon, and what is behind
it is not looked at; a piece that is no token is the last one.
-/

namespace ForeignData.Sqlite

inductive Token where
  /-- A name or a keyword written bare. -/
  | word (s : String)
  /-- A name between marks. -/
  | quoted (mark : Char) (s : String)
  | string (s : String)
  | blob (bytes : ByteArray)
  | integer (n : Nat)
  /-- A number in hexadecimal, with its spelling. -/
  | hexadecimal (n : Nat) (spelling : String)
  | real (n : Numeral)
  /-- A number with a separator that is not between two digits, as it is told of. -/
  | misseparated (spelling : String)
  /-- A placeholder, with its number if it has one. -/
  | placeholder (number : Option Nat)
  /-- A placeholder with a name, which begins with a mark. -/
  | named (name : String)
  | symbol (s : String)
  | illegal
  deriving DecidableEq

/-- A token with its spelling. -/
structure Lexeme where
  token : Token
  spelling : List Char
  deriving DecidableEq

/-- A blank that a run of blanks may begin with. -/
def isSqlBlank (c : Char) : Bool :=
  c == ' ' || c == '\t' || c == '\n' || c == '\r' || c.toNat == 12

/-- The mark of the order of bytes, which counts as a blank of its own. -/
def byteOrderMark : Char := Char.ofNat 0xFEFF

/-- A character that a word may begin with. -/
def isSqlWordStart (c : Char) : Bool :=
  c.isAlpha || c == '_' || 128 ≤ c.toNat

/-- A character that a word may contain. -/
def isSqlWordChar (c : Char) : Bool :=
  isSqlWordStart c || c.isDigit || c == '$'

def isHexDigit (c : Char) : Bool :=
  (hexValue? c).isSome

/-! ### Blanks and comments -/

/-- What is behind a comment that ends with its line. -/
def skipLine (s : List Char) : List Char :=
  s.dropWhile (· != '\n')

/-- What is behind a comment that has an end of its own. -/
def skipComment : List Char → List Char
  | [] => []
  | '*' :: '/' :: s => s
  | _ :: s => skipComment s

def skipBlanks : Nat → List Char → List Char
  | 0, s => s
  | fuel + 1, s =>
    match s with
    | '-' :: '-' :: rest => skipBlanks fuel (skipLine rest)
    | '/' :: '*' :: c :: rest => skipBlanks fuel (skipComment (c :: rest))
    | c :: rest =>
      if isSqlBlank c then skipBlanks fuel (rest.dropWhile isAsciiBlank)
      else if c = byteOrderMark then skipBlanks fuel rest
      else s
    | [] => []

/-! ### Tokens -/

/-- Read up to a closing mark, which is written twice inside; none if it does not come. -/
def takeQuoted? (mark : Char) : List Char → Option (List Char × List Char)
  | [] => none
  | [c] => if c = mark then some ([], []) else none
  | c :: d :: s =>
    if c = mark then
      if d = mark then (takeQuoted? mark s).map fun (t, rest) => (mark :: t, rest)
      else some ([], d :: s)
    else
      (takeQuoted? mark (d :: s)).map fun (t, rest) => (c :: t, rest)

/-- What is left of a text behind a part of it. -/
def spellingOf (s rest : List Char) : List Char :=
  s.take (s.length - rest.length)

/-- A token that reaches up to the rest of a text. -/
def lexemeTo (s : List Char) (token : Token) (rest : List Char) : Lexeme × List Char :=
  (⟨token, spellingOf s rest⟩, rest)

/-- A piece between marks, or an illegal one to the end of the text. -/
def lexQuoted (s : List Char) (mark : Char) (body : List Char) (token : String → Token) :
    Lexeme × List Char :=
  match takeQuoted? mark body with
  | some (t, rest) => lexemeTo s (token (String.ofList t)) rest
  | none => lexemeTo s .illegal []

/-- Bytes in hexadecimal between quotes. -/
def lexBlob (s body : List Char) : Lexeme × List Char :=
  let (digits, rest) := (body.takeWhile isHexDigit, body.dropWhile isHexDigit)
  match rest, readHexPairs? digits with
  | '\'' :: rest, some bytes => lexemeTo s (.blob ⟨bytes.toArray⟩) rest
  | rest, _ => lexemeTo s .illegal ((rest.dropWhile (· != '\'')).drop 1)

/-- The mark that may stand between two digits of a number. -/
def digitSeparator : Char := '_'

def dropDigits (isDigit : Char → Bool) (s : List Char) : List Char :=
  s.dropWhile fun c => isDigit c || c == digitSeparator

/-- Digits behind the mark of an exponent and its sign, or nothing if there are none. -/
def dropExponent (s : List Char) : List Char :=
  match s with
  | mark :: '+' :: d :: rest | mark :: '-' :: d :: rest =>
    if (mark = 'e' ∨ mark = 'E') ∧ d.isDigit then dropDigits Char.isDigit rest else s
  | mark :: d :: rest =>
    if (mark = 'e' ∨ mark = 'E') ∧ d.isDigit then dropDigits Char.isDigit rest else s
  | s => s

def dropNumber (s : List Char) : List Char :=
  let rest := dropDigits Char.isDigit s
  match rest with
  | '.' :: rest => dropExponent (dropDigits Char.isDigit rest)
  | rest => dropExponent rest

/-- The number that digits, a point and an exponent write. -/
def numberToken (spelling : List Char) : Token :=
  match readNat? spelling, readNumeral? spelling with
  | some n, _ => .integer n
  | none, some n => .real n
  | none, none => .illegal

/-- The number that a mark for hexadecimal and digits write. -/
def hexadecimalToken (spelling : List Char) : Token :=
  let n := (spelling.drop 2).foldl (fun n c => 16 * n + (hexValue? c).getD 0) 0
  .hexadecimal n (String.ofList spelling)

/-- Whether a separator stands anywhere but between two digits. -/
def isMisplaced (isDigit : Char → Bool) (s : List Char) (place : Nat) : Bool :=
  let isDigitAt (i : Nat) := (s[i]?.map isDigit).getD false
  s[place]? == some digitSeparator
    && !(0 < place && isDigitAt (place - 1) && isDigitAt (place + 1))

/-- How a number with misplaced separators is told of: up to the last of these, the characters that
are no separators have been written over the beginning of the number. -/
def misseparated? (isDigit : Char → Bool) (s : List Char) : Option (List Char) :=
  ((List.range s.length).filter (isMisplaced isDigit s)).getLast?.map fun place =>
    let kept := (s.take place).filter (· != digitSeparator)
    kept ++ s.drop kept.length

def separatedToken (isDigit : Char → Bool) (token : List Char → Token) (spelling : List Char) :
    Token :=
  match misseparated? isDigit spelling with
  | some told => .misseparated (String.ofList told)
  | none => token (spelling.filter (· != digitSeparator))

/-- A number; with characters of words behind it, it is no token. -/
def lexNumber (s : List Char) : Lexeme × List Char :=
  let decimal :=
    let rest := dropNumber s
    (separatedToken Char.isDigit numberToken (spellingOf s rest), rest)
  let (token, rest) :=
    match s with
    | '0' :: x :: d :: rest =>
      if (x = 'x' ∨ x = 'X') ∧ isHexDigit d then
        let rest := dropDigits isHexDigit rest
        (separatedToken isHexDigit hexadecimalToken (spellingOf s rest), rest)
      else
        decimal
    | _ => decimal
  if (rest.head?.map isSqlWordChar).getD false then
    lexemeTo s .illegal (rest.dropWhile isSqlWordChar)
  else
    lexemeTo s token rest

/-- The marks that names of placeholders begin with. -/
def nameMarks : List Char := ['$', '@', '#', ':']

/-- What is behind the name of a placeholder; its parts may be joined by colons, and words between
parentheses may end it. Gives none if it has no characters of words, or if the parentheses stay
open. -/
def dropName : (named : Bool) → List Char → Bool × List Char
  | named, ':' :: ':' :: s => dropName named s
  | named, c :: s =>
    if isSqlWordChar c then
      dropName true s
    else if named && c == '(' then
      match s.dropWhile fun c => !isAsciiBlank c && c != ')' with
      | ')' :: rest => (true, rest)
      | rest => (false, rest)
    else
      (named, c :: s)
  | named, [] => (named, [])

def lexNamed (s body : List Char) : Lexeme × List Char :=
  let (isNamed, rest) := dropName false body
  lexemeTo s (if isNamed then .named (String.ofList (spellingOf s rest)) else .illegal) rest

/-- The operators of two characters. -/
def longSymbols : List String :=
  ["==", "<=", "<>", "<<", ">=", ">>", "!=", "||", "->"]

/-- The operators and marks of one character. -/
def shortSymbols : List Char :=
  ['-', '(', ')', ';', '+', '*', ',', '&', '~', '%', '|', '/', '=', '<', '>', '.']

def lexSymbol (c : Char) (rest : List Char) : Lexeme × List Char :=
  let single : Lexeme × List Char :=
    (⟨if c ∈ shortSymbols then .symbol (String.ofList [c]) else .illegal, [c]⟩, rest)
  match rest with
  | d :: rest' =>
    let long := String.ofList [c, d]
    if long ∈ longSymbols then (⟨.symbol long, [c, d]⟩, rest') else single
  | [] => single

def lexToken (c : Char) (s : List Char) : Lexeme × List Char :=
  let whole := c :: s
  if c = '\'' then lexQuoted whole c s .string
  else if c = '"' ∨ c = '\x60' then lexQuoted whole c s (.quoted c)
  else if c = '[' then
    match s.dropWhile (· != ']') with
    | _ :: rest => lexemeTo whole (.quoted c (String.ofList (s.takeWhile (· != ']')))) rest
    | [] => lexemeTo whole .illegal []
  else if c = '?' then
    let (digits, rest) := spanDigits s
    lexemeTo whole (.placeholder (readNat? digits)) rest
  else if c ∈ nameMarks then lexNamed whole s
  else if c.isDigit then lexNumber whole
  else if c = '.' ∧ (s.head?.map Char.isDigit).getD false then lexNumber whole
  else if isSqlWordStart c then
    match c, s with
    | 'x', '\'' :: body | 'X', '\'' :: body => lexBlob whole body
    | _, _ =>
      let word := whole.takeWhile isSqlWordChar
      lexemeTo whole (.word (String.ofList word)) (whole.dropWhile isSqlWordChar)
  else lexSymbol c s

/-- Tokens up to the end of a statement. -/
def lexFrom : Nat → List Char → List Lexeme
  | 0, _ => []
  | fuel + 1, s =>
    match skipBlanks s.length s with
    | [] => []
    | c :: rest =>
      let (lexeme, rest) := lexToken c rest
      match lexeme.token with
      | .illegal => [lexeme]
      | .symbol ";" => [lexeme]
      | _ => lexeme :: lexFrom fuel rest

/-- What is behind blanks, comments and semicolons. -/
def skipEmpty : Nat → List Char → List Char
  | 0, s => s
  | fuel + 1, s =>
    match skipBlanks s.length s with
    | ';' :: rest => skipEmpty fuel rest
    | s => s

/-- The tokens of the first statement of a text. -/
def tokens (s : List Char) : List Lexeme :=
  lexFrom (s.length + 1) (skipEmpty (s.length + 1) s)

end ForeignData.Sqlite
