import ForeignData.Text.Digits
import ForeignData.Text.Hex

/-!
# Structured data as text

Values of the JSON format, and their compact text. Numbers are kept as integers where they are
written as integers; of other numbers only their presence matters here, and whether they are within
the range of binary numbers. An object keeps its members in order, repeated names included.
-/

namespace ForeignData

/-- A value of the format. -/
inductive Json where
  | null
  | bool (v : Bool)
  | integer (v : Int)
  /-- A number that is written with a point or an exponent, or as negative zero. -/
  | real
  /-- A number that no binary number is near to. -/
  | unbounded
  | string (v : List Char)
  /-- A string with half of a surrogate pair, which no text contains. -/
  | brokenString
  | array (items : List Json)
  /-- Members with their names; a name with half of a surrogate pair is none. -/
  | object (members : List (Option (List Char) × Json))

/-- A character inside of a string. -/
def jsonCharText (c : Char) : List Char :=
  if c = '"' then ['\\', '"']
  else if c = '\\' then ['\\', '\\']
  else if c = '\n' then ['\\', 'n']
  else if c = '\t' then ['\\', 't']
  else if c = '\r' then ['\\', 'r']
  else if c.toNat = 8 then ['\\', 'b']
  else if c.toNat = 12 then ['\\', 'f']
  else if c.toNat < 32 then
    ['\\', 'u', '0', '0', hexDigit (c.toNat / 16), hexDigit (c.toNat % 16)]
  else [c]

def jsonStringText (s : List Char) : List Char :=
  '"' :: s.flatMap jsonCharText ++ ['"']

/-- Texts with a comma between each two. -/
def commaSeparated : List (List Char) → List Char
  | [] => []
  | [t] => t
  | t :: ts => t ++ ',' :: commaSeparated ts

def jsonArrayText (items : List (List Char)) : List Char :=
  '[' :: commaSeparated items ++ [']']

def jsonObjectText (members : List (String × List Char)) : List Char :=
  '{' :: commaSeparated (members.map fun m => jsonStringText m.1.toList ++ ':' :: m.2) ++ ['}']

def jsonBoolText (v : Bool) : List Char :=
  if v then "true".toList else "false".toList

end ForeignData
