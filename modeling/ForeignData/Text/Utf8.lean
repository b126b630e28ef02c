/-!
# Reading bytes as UTF-8

Bytes that are well-formed UTF-8 have one reading as text. Any other bytes are read with
replacement characters: each longest run of bytes that could have begun a character counts as one
fault and is written as `U+FFFD`.
-/

namespace ForeignData

/-- The character written for bytes that begin no character. -/
def replacementChar : Char :=
  Char.ofNat 0xFFFD

/-- For a leading byte: the number of bytes that follow it, its payload, and the admitted range of
the first of those bytes. -/
def leadingByte (b : UInt8) : Option (Nat × Nat × UInt8 × UInt8) :=
  if b < 0x80 then some (0, b.toNat, 0x80, 0xBF)
  else if 0xC2 ≤ b && b ≤ 0xDF then some (1, b.toNat - 0xC0, 0x80, 0xBF)
  else if b = 0xE0 then some (2, 0, 0xA0, 0xBF)
  else if b = 0xED then some (2, 0xD, 0x80, 0x9F)
  else if 0xE1 ≤ b && b ≤ 0xEF then some (2, b.toNat - 0xE0, 0x80, 0xBF)
  else if b = 0xF0 then some (3, 0, 0x90, 0xBF)
  else if b = 0xF4 then some (3, 4, 0x80, 0x8F)
  else if 0xF1 ≤ b && b ≤ 0xF3 then some (3, b.toNat - 0xF0, 0x80, 0xBF)
  else none

/-- Take `count` continuation bytes, the first of them within `low` and `high`, onto a payload.
Gives the code point if all are there, and the bytes behind the last one taken. -/
def takeContinuation : Nat → Nat → UInt8 → UInt8 → List UInt8 → Option Nat × List UInt8
  | 0, payload, _, _, bytes => (some payload, bytes)
  | _ + 1, _, _, _, [] => (none, [])
  | count + 1, payload, low, high, b :: bytes =>
    if low ≤ b && b ≤ high then
      takeContinuation count (payload * 64 + (b.toNat - 0x80)) 0x80 0xBF bytes
    else
      (none, b :: bytes)

theorem takeContinuation_length (count payload : Nat) (low high : UInt8) (bytes : List UInt8) :
    (takeContinuation count payload low high bytes).2.length ≤ bytes.length := by
  induction count generalizing payload low high bytes with
  | zero => simp [takeContinuation]
  | succ count ih =>
    cases bytes with
    | nil => simp [takeContinuation]
    | cons b bytes =>
      simp only [takeContinuation]
      split
      · exact Nat.le_succ_of_le (ih _ _ _ _)
      · simp

/-- The characters of bytes, a replacement character for every fault. -/
def lossyChars : List UInt8 → List Char
  | [] => []
  | b :: bytes =>
    match leadingByte b with
    | none => replacementChar :: lossyChars bytes
    | some (count, payload, low, high) =>
      match h : takeContinuation count payload low high bytes with
      | (code, rest) =>
        have : rest.length < bytes.length + 1 := by
          have := takeContinuation_length count payload low high bytes
          simp only [h] at this
          omega
        (match code with
          | some n => Char.ofNat n
          | none => replacementChar) :: lossyChars rest
termination_by bytes => bytes.length

def textOfBytes? (bytes : ByteArray) : Option String :=
  String.fromUTF8? bytes

def lossyText (bytes : ByteArray) : String :=
  match textOfBytes? bytes with
  | some s => s
  | none => String.ofList (lossyChars bytes.data.toList)

def bytesOfText (s : String) : ByteArray :=
  s.toUTF8

end ForeignData
