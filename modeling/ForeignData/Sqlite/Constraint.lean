import ForeignData.Sqlite.DeclaredType
import ForeignData.Sqlite.Expression
import ForeignData.Sqlite.Parser.Expr

/-!
# Constraints of columns

The constraints behind the type of a column: keys, uniqueness, the refusal of null, conditions on
rows, collations and default values. A default value is kept both as it is written and as a value.
Words that say nothing of these are passed over.
-/

namespace ForeignData.Sqlite

/-- The declaration of a condition on rows: how it is told of, and its text. -/
structure CheckDefinition where
  told : String
  text : String

structure Constraints where
  isKey : Bool
  /-- The column is the key, and its values go down. -/
  isDescending : Bool
  /-- The column stands for a rowid that is not given twice. -/
  isCounting : Bool
  isUnique : Bool
  notNull : Bool
  defaultText : Option String
  defaultCell : Cell
  /-- The name that the constraints go by from here on. -/
  name : Option String
  checks : List CheckDefinition
  collation : Collation

def Constraints.empty : Constraints where
  isKey := false
  isDescending := false
  isCounting := false
  isUnique := false
  notNull := false
  defaultText := none
  defaultCell := .null
  name := none
  checks := []
  collation := .binary

/-- What is behind the parenthesis that closes an open one. -/
def skipParens : Nat → Nat → List Char → List Char
  | 0, _, s => s
  | fuel + 1, depth, s =>
    match firstToken? s with
    | none => []
    | some (.symbol "(", rest) => skipParens fuel (depth + 1) rest
    | some (.symbol ")", rest) =>
      match depth with
      | 0 => rest
      | depth + 1 => skipParens fuel depth rest
    | some (_, rest) => skipParens fuel depth rest

/-- The text between parentheses, without blanks at its ends, and what is behind them. -/
def takeParens (s : List Char) : List Char × List Char :=
  let rest := skipParens s.length 0 s
  (trim ((spellingOf s rest).dropLast), rest)

/-- The words that stand for the time of an insertion. There is no clock here, and it always is the
beginning of the count of days. -/
def clockWords : List (String × String) :=
  [("current_date", "1970-01-01"), ("current_time", "00:00:00"),
   ("current_timestamp", "1970-01-01 00:00:00")]

/-- The value of a constant. A bare word is a text. -/
def constantCell : Token → Cell
  | .integer n =>
    match toInt64? n with
    | some v => .integer v
    | none => .real (realOfNumeral ⟨false, n, 0⟩)
  | .hexadecimal n _ => .integer (Int64.ofNat n)
  | .real n => .real (realOfNumeral n)
  | .string s => .ofText s
  | .quoted _ s => .ofText s
  | .blob bytes => .blob bytes
  | .word s =>
    match lowerAscii s with
    | "true" => .integer 1
    | "false" => .integer 0
    | "null" => .null
    | word => .ofText ((clockWords.lookup word).getD s)
  | _ => .null

/-- The value of a constant behind a minus sign. -/
def negativeCell : Token → Cell
  | .integer n =>
    match toInt64? (-(n : Int)) with
    | some v => .integer v
    | none => .real (realOfNumeral ⟨true, n, 0⟩)
  | .hexadecimal n _ => .integer (-Int64.ofNat n)
  | .real n => .real (realOfNumeral { n with negative := true })
  | _ => .null

/-- The value of tokens, if they are a constant with signs and parentheses around it. -/
def constantOf? : List Token → Option Cell
  | [] => none
  | [token] => some (constantCell token)
  | .symbol "+" :: rest => constantOf? rest
  | [.symbol "-", token] => some (negativeCell token)
  | .symbol "(" :: rest =>
    match constantOf? rest.dropLast with
    | some v => if rest.getLast? = some (.symbol ")") then some v else none
    | none => none
  | _ => none
termination_by tokens => tokens.length

/-- The value of an expression that refers to nothing. -/
def calculated? (s : List Char) : Option Cell := do
  let x ← parseExpr? s
  let x ← (x.resolveBy resolveOther).toOption
  return x.eval (.constant fun _ => .null)

/-- The value of a text, if it is a constant or can be calculated. -/
def constantText (s : List Char) : Cell :=
  (constantOf? ((tokens s).map Lexeme.token) <|> calculated? s).getD .null

/-- A default value behind its keyword: its text, its value, and what is behind it. -/
def takeDefault (s : List Char) : String × Cell × List Char :=
  let start := skipBlanks s.length s
  let spanned (rest : List Char) :=
    let text := spellingOf start rest
    (String.ofList text, constantText text, rest)
  match firstToken? start with
  | some (.symbol "(", rest) =>
    let (text, rest) := takeParens rest
    (String.ofList text, constantText text, rest)
  | some (.symbol sign, rest) =>
    if sign = "-" ∨ sign = "+" then spanned (((firstToken? rest).map Prod.snd).getD rest)
    else spanned rest
  | some (_, rest) => spanned rest
  | none => spanned []

/-- What is behind a word, if a text begins with it. -/
def dropWord? (word : String) (s : List Char) : Option (List Char) :=
  match firstToken? s with
  | some (.word w, rest) => if lowerAscii w = word then some rest else none
  | _ => none

/-- A text, of which a quoted name at its beginning is all. -/
def unquoted (s : List Char) : String :=
  match firstToken? s with
  | some (.quoted _ name, _) => name
  | some (.string name, _) => name
  | _ => String.ofList s

/-- The condition that a text between parentheses states under a name. -/
def CheckDefinition.ofText (name : Option String) (text : List Char) : CheckDefinition where
  told := name.getD (unquoted text)
  text := String.ofList text

/-- The name that a text begins with, and what is behind it. -/
def takeName? (s : List Char) : Option (String × List Char) := do
  let (token, rest) ← firstToken? s
  match token with
  | .string name => return (name, rest)
  | token => return ((← Parser.nameOf? token).2, rest)

def readConstraints : Nat → Constraints → List Char → Constraints
  | 0, c, _ => c
  | fuel + 1, c, s =>
    match firstToken? s with
    | none => c
    | some (.word word, rest) =>
      match lowerAscii word with
      | "primary" => readConstraints fuel { c with isKey := true } rest
      | "desc" => readConstraints fuel { c with isDescending := true } rest
      | "autoincrement" => readConstraints fuel { c with isCounting := true } rest
      | "unique" => readConstraints fuel { c with isUnique := true } rest
      | "not" =>
        match dropWord? "null" rest with
        | some rest => readConstraints fuel { c with notNull := true } rest
        | none => readConstraints fuel c rest
      | "constraint" =>
        match takeName? rest with
        | some (name, rest) => readConstraints fuel { c with name := some name } rest
        | none => readConstraints fuel c rest
      | "check" =>
        match firstToken? rest with
        | some (.symbol "(", rest) =>
          let (text, rest) := takeParens rest
          let checks := c.checks ++ [CheckDefinition.ofText c.name text]
          readConstraints fuel { c with checks } rest
        | _ => readConstraints fuel c rest
      | "collate" =>
        match takeName? rest with
        | some (name, rest) =>
          let collation := (Collation.names.lookup (lowerAscii name)).getD c.collation
          readConstraints fuel { c with collation } rest
        | none => readConstraints fuel c rest
      | "set" => readConstraints fuel c (((firstToken? rest).map Prod.snd).getD rest)
      | "default" =>
        let (text, value, rest) := takeDefault rest
        readConstraints fuel { c with defaultText := some text, defaultCell := value } rest
      | _ => readConstraints fuel c rest
    | some (.symbol "(", rest) => readConstraints fuel c (takeParens rest).2
    | some (_, rest) => readConstraints fuel c rest

def Constraints.ofText (s : String) (name : Option String := none) : Constraints :=
  readConstraints (s.length + 1) { Constraints.empty with name } s.toList

end ForeignData.Sqlite
