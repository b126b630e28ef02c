import ForeignData.Sqlite.Affinity
import ForeignData.Sqlite.Token

/-!
# Declared types

The type that a column is declared with: the text that is shown of it, without marks around it, and
the width of the values that it lets expect.
-/

namespace ForeignData.Sqlite

/-- The token that a text begins with behind blanks, and what is behind it. -/
def firstToken? (s : List Char) : Option (Token × List Char) :=
  match skipBlanks s.length s with
  | [] => none
  | c :: s =>
    let (lexeme, rest) := lexToken c s
    some (lexeme.token, rest)

/-- The types that are shown in capitals, however they are written. -/
def standardTypes : List String :=
  ["ANY", "BLOB", "INT", "INTEGER", "REAL", "TEXT"]

/-- The marks that names are written in begin with these. -/
def openingMarks : List Char := ['"', '\'', '[', '\x60']

/-- A declared type without marks around it. Where one is at the beginning and none between, what
is at the end counts as the other one. -/
def bareType (declared : String) : String :=
  let s := trim declared.toList
  match s with
  | c :: inner =>
    if openingMarks.contains c && 2 ≤ inner.length && !inner.dropLast.any openingMarks.contains then
      String.ofList inner.dropLast
    else
      match firstToken? s with
      | some (.quoted _ name, _) => name
      | some (.string name, _) => name
      | _ => String.ofList s
  | [] => ""

def shownType (declared : String) : String :=
  let bare := bareType declared
  (standardTypes.find? (sameName bare)).getD bare

/-- The number that a text contains first, if it is a signed word of 32 bits. -/
def firstNumber (s : List Char) : Nat :=
  let n := digitsValue (spanDigits (s.dropWhile fun c => !c.isDigit)).1
  if n ≤ Int32.maxValue.toInt.toNat then n else 0

/-- The width of texts and bytes of no stated length. -/
def openWidth : Nat := 5

/-- What follows the last place of a word in a text. -/
def afterLast (word : List Char) : List Char → Option (List Char)
  | [] => none
  | c :: s =>
    match afterLast word s with
    | some rest => some rest
    | none => if word.isPrefixOf (c :: s) then some ((c :: s).drop word.length) else none

/-- The width of the values of a declared type. A length that is stated counts in fours. -/
def typeWidth (declared : String) : Nat :=
  let s := (lowerAscii declared).toList
  match Affinity.ofDeclared declared with
  | .numeric | .integer | .real => 1
  | .text =>
    match afterLast "char".toList s with
    | some rest => min (firstNumber rest / 4 + 1) 255
    | none => openWidth
  | .blob =>
    if s = [] then
      1
    else
      match afterLast "blob".toList s with
      | some ('(' :: rest) => min (firstNumber rest / 4 + 1) 255
      | _ => openWidth

end ForeignData.Sqlite
