/-!
# Hexadecimal bytes

Bytes as lower-case pairs of hexadecimal digits, and the reading of such pairs. A pair may also be
a plus sign and one digit, because each pair is read as a signed numeral of base sixteen.
-/

namespace ForeignData

/-- Bytes are compared as lists. -/
instance decidableEqBytes : DecidableEq ByteArray
  | ⟨⟨a⟩⟩, ⟨⟨b⟩⟩ =>
    if h : a = b then isTrue (h ▸ rfl)
    else isFalse fun e => h (congrArg (fun bytes => bytes.data.toList) e)

/-- The lower-case hexadecimal digit of a number below sixteen. -/
def hexDigit (n : Nat) : Char :=
  if n < 10 then Char.ofNat (48 + n) else Char.ofNat (87 + n % 16)

/-- The value of a hexadecimal digit of either case. -/
def hexValue? (c : Char) : Option Nat :=
  if '0' ≤ c ∧ c ≤ '9' then some (c.toNat - 48)
  else if 'a' ≤ c ∧ c ≤ 'f' then some (c.toNat - 87)
  else if 'A' ≤ c ∧ c ≤ 'F' then some (c.toNat - 55)
  else none

/-- Two digits per byte. -/
def hexText : List UInt8 → List Char
  | [] => []
  | b :: bs => hexDigit (b.toNat / 16) :: hexDigit (b.toNat % 16) :: hexText bs

/-- The byte that a pair of characters writes: two digits, or a plus sign and a digit. -/
def hexPair? (high low : Char) : Option UInt8 := do
  let l ← hexValue? low
  if high = '+' then
    return UInt8.ofNat l
  let h ← hexValue? high
  return UInt8.ofNat (16 * h + l)

/-- Read pairs to the end; a single character at the end is refused. -/
def readHexPairs? : List Char → Option (List UInt8)
  | [] => some []
  | [_] => none
  | high :: low :: rest => do
    let b ← hexPair? high low
    let bs ← readHexPairs? rest
    return b :: bs

end ForeignData
