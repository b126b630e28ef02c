import ForeignData.Numeric.Binary

/-!
# Numbers of 64 significant bits

Positive numbers in binary with eleven bits more than a word of 64 bits has for them. A product is
rounded to the nearest such number, a tie to the even one, so that a number scaled by a power of ten
in several steps is rounded after each of them.
-/

namespace ForeignData

/-- The number `mantissa * 2 ^ exponent`. -/
structure Extended where
  mantissa : Nat
  exponent : Int
  deriving DecidableEq

namespace Extended

/-- The number of significant bits. -/
def precision : Nat := 64

/-- An integer that has no more bits than fit. -/
def ofNat (n : Nat) : Extended :=
  ⟨n, 0⟩

/-- The number nearest to `num / den`, for positive arguments. -/
def ofRatio (num den : Nat) : Extended :=
  let e := BinaryFormat.floorLog2 num den - (precision - 1 : Nat)
  ⟨BinaryFormat.divHalfEven (num * twoPow (-e).toNat) (den * twoPow e.toNat), e⟩

def mul (x y : Extended) : Extended :=
  let product := x.mantissa * y.mantissa
  let surplus := Nat.log2 product + 1 - precision
  ⟨BinaryFormat.divHalfEven product (twoPow surplus), x.exponent + y.exponent + surplus⟩

/-- The order of two numbers. -/
def le (x y : Extended) : Bool :=
  let low := min x.exponent y.exponent
  x.mantissa * twoPow (x.exponent - low).toNat ≤ y.mantissa * twoPow (y.exponent - low).toNat

def floor (x : Extended) : Nat :=
  x.mantissa * twoPow x.exponent.toNat / twoPow (-x.exponent).toNat

/-- The number nearest to a power of ten. -/
def tenth (place : Int) : Extended :=
  ofRatio (tenPow place.toNat) (tenPow (-place).toNat)

/-- Multiply by powers of ten: by hundreds of places, by tens and by ones, as the sign says up or
down. -/
def scale (x : Extended) (places : Int) : Extended :=
  let n := places.natAbs
  let step (size : Nat) : Extended → Extended :=
    mul (tenth (if places < 0 then -(size : Int) else size))
  Nat.repeat (step 1) (n % 10)
    (Nat.repeat (step 10) (n % 100 / 10) (Nat.repeat (step 100) (n / 100) x))

/-- The nearest word of 64 bits, without sign. What is greater than all finite words is infinite. -/
def toBits (x : Extended) : Nat :=
  let largest : Extended := ⟨twoPow 53 - 1, 971⟩
  if x.le largest then
    binary64.round (x.mantissa * twoPow x.exponent.toNat) (twoPow (-x.exponent).toNat)
  else
    binary64.infinityBits

/-! ### Bringing a number between two bounds -/

/-- Multiply by a power of ten while a test holds, no more often than `n` times. Tells how many
places the number has moved. -/
def moveWhile (test : Extended → Bool) (places : Int) : Nat → Extended → Int × Extended
  | 0, x => (0, x)
  | n + 1, x =>
    if test x then
      let (moved, x) := moveWhile test places n (x.mul (tenth places))
      (moved + places, x)
    else
      (0, x)

/-- Bring a number to between ten to the 17 and ten to the 19. Tells by how many places it has been
moved. -/
def normalize (x : Extended) : Int × Extended :=
  let reaches (place : Int) (x : Extended) := (tenth place).le x
  let (sign, tests) : Int × List (Int × (Extended → Bool)) :=
    if reaches 19 x then
      (-1, [(100, reaches 119), (10, reaches 29), (1, reaches 19)])
    else
      (1, [(100, (!reaches (-97) ·)), (10, (!reaches 7 ·)), (1, (!reaches 17 ·))])
  tests.foldl (fun (moved, x) (size, test) =>
    let (more, x) := moveWhile test (sign * size) 40 x
    (moved + more, x)) (0, x)

end Extended

end ForeignData
