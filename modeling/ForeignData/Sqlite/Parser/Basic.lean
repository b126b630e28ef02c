import ForeignData.Sqlite.Syntax
import ForeignData.Sqlite.Token

/-!
# Reading token by token

A text is read token by token, and the first token that does not fit is the error: by its spelling,
or as the end of the text. Keywords are found in any case; some of them cannot be names.
-/

namespace ForeignData.Sqlite

/-- The tokens that are left, the greatest number of a placeholder so far, and the numbers of the
placeholders with names. -/
structure ParserState where
  tokens : List Lexeme
  placeholders : Nat := 0
  names : List (String × Nat) := []

/-- A step of reading. -/
abbrev Parser (α : Type) := StateT ParserState (Except String) α

namespace Parser

variable {α : Type}

/-- The error of a piece that is no token. -/
def unrecognized (spelling : String) : String :=
  "unrecognized token: \"" ++ spelling ++ "\""

/-- The error of a token that does not fit. -/
def misplaced (spelling : String) : String :=
  "near \"" ++ spelling ++ "\": syntax error"

/-- The error at the next token. -/
def unexpected : Parser α := do
  match (← get).tokens with
  | [] => throw "incomplete input"
  | lexeme :: _ =>
    let spelling := String.ofList lexeme.spelling
    match lexeme.token with
    | .illegal => throw (unrecognized spelling)
    | _ => throw (misplaced spelling)

def peek : Parser (Option Token) := do
  return (← get).tokens.head?.map Lexeme.token

/-- Pass the next token. -/
def skip : Parser Unit :=
  modify fun s => { s with tokens := s.tokens.drop 1 }

def isKeyword (keyword : String) : Token → Bool
  | .word s => lowerAscii s == keyword
  | _ => false

def nextIs (keyword : String) : Parser Bool := do
  return ((← peek).map (isKeyword keyword)).getD false

/-- Pass a keyword if it comes next. -/
def accept (keyword : String) : Parser Bool := do
  if ← nextIs keyword then
    skip
    return true
  else
    return false

/-- Pass a keyword, which has to come next. -/
def expect (keyword : String) : Parser Unit := do
  unless ← accept keyword do
    unexpected

/-- Pass a symbol if it comes next. -/
def acceptSymbol (symbol : String) : Parser Bool := do
  if (← peek) = some (.symbol symbol) then
    skip
    return true
  else
    return false

/-- Pass a symbol, which has to come next. -/
def expectSymbol (symbol : String) : Parser Unit := do
  unless ← acceptSymbol symbol do
    unexpected

def reservedKeywords : List String :=
  ["add", "all", "alter", "and", "as", "autoincrement", "between", "case", "check", "collate",
   "commit", "constraint", "create", "default", "deferrable", "delete", "distinct", "drop", "else",
   "escape", "exists", "foreign", "from", "group", "having", "in", "index", "insert", "into", "is",
   "isnull", "join", "limit", "not", "nothing", "notnull", "null", "on", "or", "order", "primary",
   "references", "returning", "select", "set", "table", "then", "to", "transaction", "union",
   "unique", "update", "using", "values", "when", "where"]

def nameOf? : Token → Option (Option Char × String)
  | .word s => if reservedKeywords.contains (lowerAscii s) then none else some (none, s)
  | .quoted mark s => some (some mark, s)
  | _ => none

/-- A name of a table or a column; a string may stand for one. -/
def name : Parser String := do
  match ← peek with
  | some (.string s) =>
    skip
    return s
  | some token =>
    match nameOf? token with
    | some (_, s) =>
      skip
      return s
    | none => unexpected
  | none => unexpected

end Parser

end ForeignData.Sqlite
