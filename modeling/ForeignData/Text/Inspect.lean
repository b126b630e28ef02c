import ForeignData.Text.Blank
import ForeignData.Text.Hex
import ForeignData.Text.UnseenTable

/-!
# Texts for inspection

A text between double quotes with the characters escaped that show nothing by themselves, marks on
the character before them among these, so that what is shown can be told apart from any other text.
-/

namespace ForeignData

/-- Hexadecimal digits without leading zeros. -/
def hexNumber (n : Nat) : List Char :=
  if n < 16 then [hexDigit n] else hexNumber (n / 16) ++ [hexDigit (n % 16)]
termination_by n

def inspectChar (c : Char) : List Char :=
  if c = '"' then ['\\', '"']
  else if c = '\\' then ['\\', '\\']
  else if c = '\n' then ['\\', 'n']
  else if c = '\r' then ['\\', 'r']
  else if c = '\t' then ['\\', 't']
  else if c.toNat = 0 then ['\\', '0']
  else if inRanges unseenRanges c.toNat then
    '\\' :: 'u' :: '{' :: hexNumber c.toNat ++ ['}']
  else [c]

def inspectText (s : String) : String :=
  String.ofList ('"' :: s.toList.flatMap inspectChar ++ ['"'])

end ForeignData
