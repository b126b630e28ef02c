import ForeignData.Json.Value
import ForeignData.Numeric.Binary

/-!
# Reading structured data

The strict grammar of JSON: no sign but a minus, no leading zeros, no control characters inside of
strings, nothing behind the value but blanks.
-/

namespace ForeignData

def isJsonBlank (c : Char) : Bool :=
  c == ' ' || c == '\n' || c == '\t' || c == '\r'

/-- Drop blanks between tokens. -/
def skipJsonBlanks (s : List Char) : List Char :=
  s.dropWhile isJsonBlank

/-- The number of four hexadecimal digits. -/
def hexQuad? (a b c d : Char) : Option Nat := do
  return 4096 * (← hexValue? a) + 256 * (← hexValue? b) + 16 * (← hexValue? c) + (← hexValue? d)

/-- The character that stands for itself or for a control character behind a backslash. -/
def simpleEscape? (c : Char) : Option Char :=
  match c with
  | '"' => some '"'
  | '\\' => some '\\'
  | '/' => some '/'
  | 'b' => some (Char.ofNat 8)
  | 'f' => some (Char.ofNat 12)
  | 'n' => some '\n'
  | 'r' => some '\r'
  | 't' => some '\t'
  | _ => none

/-- The first half of a surrogate pair. -/
def isHighSurrogate (n : Nat) : Bool :=
  0xD800 ≤ n && n ≤ 0xDBFF

/-- The second half of a surrogate pair. -/
def isLowSurrogate (n : Nat) : Bool :=
  0xDC00 ≤ n && n ≤ 0xDFFF

/-- Put a character in front of a string that was read. -/
def consRead (c : Char) (read : Option (Option (List Char) × List Char)) :
    Option (Option (List Char) × List Char) :=
  read.map fun (s, rest) => (s.map (c :: ·), rest)

/-- Give up the text of a string that was read, but not the rest behind it. -/
def breakRead (read : Option (Option (List Char) × List Char)) :
    Option (Option (List Char) × List Char) :=
  read.map fun (_, rest) => (none, rest)

/-- Read a string behind its opening quote. There is no text if a surrogate has no partner. -/
def readStringBody? : List Char → Option (Option (List Char) × List Char)
  | [] => none
  | '"' :: s => some (some [], s)
  | '\\' :: 'u' :: a :: b :: c :: d :: '\\' :: 'u' :: e :: f :: g :: h :: s => do
    let n ← hexQuad? a b c d
    if isHighSurrogate n then
      let m ← hexQuad? e f g h
      if isLowSurrogate m then
        consRead (Char.ofNat (0x10000 + (n - 0xD800) * 1024 + (m - 0xDC00))) (readStringBody? s)
      else
        breakRead (readStringBody? s)
    else
      let rest := readStringBody? ('\\' :: 'u' :: e :: f :: g :: h :: s)
      if isLowSurrogate n then breakRead rest else consRead (Char.ofNat n) rest
  | '\\' :: 'u' :: a :: b :: c :: d :: s => do
    let n ← hexQuad? a b c d
    if isHighSurrogate n || isLowSurrogate n then
      breakRead (readStringBody? s)
    else
      consRead (Char.ofNat n) (readStringBody? s)
  | '\\' :: c :: s => do
    let c ← simpleEscape? c
    consRead c (readStringBody? s)
  | c :: s => if c = '\\' ∨ c.toNat < 32 then none else consRead c (readStringBody? s)

/-- Split off digits, at least one. -/
def takeJsonDigits? (s : List Char) : Option (List Char × List Char) :=
  match spanDigits s with
  | ([], _) => none
  | split => some split

/-- Split off the whole part of a number: a zero, or digits that do not begin with one. -/
def takeWhole? (s : List Char) : Option (List Char × List Char) :=
  match s with
  | '0' :: rest => some (['0'], rest)
  | s => takeJsonDigits? s

/-- Split off the fraction digits of a number, at least one behind a point. -/
def takeJsonFraction? (s : List Char) : Option (Option (List Char) × List Char) :=
  match s with
  | '.' :: rest => (takeJsonDigits? rest).map fun (digits, rest) => (some digits, rest)
  | s => some (none, s)

/-- Split off the exponent of a number: its digits behind an optional sign. -/
def takeJsonExponent? (s : List Char) : Option (Option Int × List Char) :=
  match s with
  | c :: rest =>
    if c = 'e' ∨ c = 'E' then
      let (negative, rest) := splitSign rest
      (takeJsonDigits? rest).map fun (digits, rest) =>
        (some (if negative then -(digitsValue digits : Int) else digitsValue digits), rest)
    else
      some (none, s)
  | [] => some (none, s)

/-- The leading digits of a number that fit into a word of 64 bits, and how many digits are left. -/
def leadingWord (n : Nat) : List Char → Nat × List Char
  | [] => (n, [])
  | c :: s =>
    if 10 * n + digitValue c < UInt64.size then leadingWord (10 * n + digitValue c) s
    else (n, c :: s)

/-- Whether a number is within the range of binary numbers. Its leading digits and the power of ten
behind them are rounded for themselves, and then their product. -/
def isBounded (whole fraction : List Char) (exponent : Int) : Bool :=
  let (head, rest) := leadingWord 0 whole
  let (n, left) := leadingWord head fraction
  let place := exponent + rest.length + left.length - fraction.length
  let exact (n : Nat) := ((binary64.decode (binary64.round n 1)).toInt?.getD 0).toNat
  n == 0 || place < 0
    || place ≤ 308 && binary64.round (exact n * exact (tenPow place.toNat)) 1
      < binary64.infinityBits

def readNumber? (s : List Char) : Option (Json × List Char) := do
  let (negative, s) :=
    match s with
    | '-' :: rest => (true, rest)
    | s => (false, s)
  let (whole, s) ← takeWhole? s
  let (fraction, s) ← takeJsonFraction? s
  let (exponent, s) ← takeJsonExponent? s
  if !isBounded whole (fraction.getD []) (exponent.getD 0) then
    return (.unbounded, s)
  else if fraction.isSome ∨ exponent.isSome ∨ (negative ∧ whole = ['0']) then
    return (.real, s)
  else
    let n : Int := digitsValue whole
    return (.integer (if negative then -n else n), s)

/-- Split off a given word. -/
def takeWord? : List Char → List Char → Option (List Char)
  | [], s => some s
  | _ :: _, [] => none
  | c :: word, d :: s => if c = d then takeWord? word s else none

mutual

/-- Read a value, with fuel for its depth and length. -/
def readJsonValue? : Nat → List Char → Option (Json × List Char)
  | 0, _ => none
  | fuel + 1, s =>
    match skipJsonBlanks s with
    | [] => none
    | '"' :: s =>
      (readStringBody? s).map fun (text, rest) =>
        ((text.map Json.string).getD .brokenString, rest)
    | '[' :: s =>
      match skipJsonBlanks s with
      | ']' :: rest => some (.array [], rest)
      | s => (readJsonItems? fuel s).map fun (items, rest) => (.array items, rest)
    | '{' :: s =>
      match skipJsonBlanks s with
      | '}' :: rest => some (.object [], rest)
      | s => (readJsonMembers? fuel s).map fun (members, rest) => (.object members, rest)
    | 't' :: s => (takeWord? "rue".toList s).map fun rest => (.bool true, rest)
    | 'f' :: s => (takeWord? "alse".toList s).map fun rest => (.bool false, rest)
    | 'n' :: s => (takeWord? "ull".toList s).map fun rest => (.null, rest)
    | s => readNumber? s

/-- Read the items of an array, at least one, up to its end. -/
def readJsonItems? : Nat → List Char → Option (List Json × List Char)
  | 0, _ => none
  | fuel + 1, s => do
    let (item, s) ← readJsonValue? fuel s
    match skipJsonBlanks s with
    | ',' :: s =>
      let (items, rest) ← readJsonItems? fuel s
      return (item :: items, rest)
    | ']' :: rest => return ([item], rest)
    | _ => none

/-- Read the members of an object, at least one, up to its end. -/
def readJsonMembers? : Nat → List Char → Option (List (Option (List Char) × Json) × List Char)
  | 0, _ => none
  | fuel + 1, s => do
    match skipJsonBlanks s with
    | '"' :: s =>
      let (name, s) ← readStringBody? s
      match skipJsonBlanks s with
      | ':' :: s =>
        let (value, s) ← readJsonValue? fuel s
        match skipJsonBlanks s with
        | ',' :: s =>
          let (members, rest) ← readJsonMembers? fuel s
          return ((name, value) :: members, rest)
        | '}' :: rest => return ([(name, value)], rest)
        | _ => none
      | _ => none
    | _ => none

end

/-- What stands behind an opening bracket is the end of the array or its first item. -/
theorem readJsonValue?_bracket (fuel : Nat) (s : List Char) :
    readJsonValue? (fuel + 1) ('[' :: s) = match skipJsonBlanks s with
      | ']' :: rest => some (.array [], rest)
      | s => (readJsonItems? fuel s).map fun (items, rest) => (.array items, rest) := by
  rfl

/-- Read a whole text as one value. -/
def readJson? (s : List Char) : Option Json := do
  let (value, rest) ← readJsonValue? (s.length + 1) s
  if skipJsonBlanks rest = [] then some value else none

end ForeignData
