/-!
# Finite floats as exact binary numbers

A finite float is a sign and a magnitude `mantissa * 2 ^ exponent`.  `ofFloat` reads the two off the
bits, and what must be exact (remainders, truncation, the choice of decimal digits) is computed on
them with natural numbers.
-/

namespace ViewTemplate.Decimal

/-- The magnitude of a finite float: `mantissa * 2 ^ exponent`. -/
structure Binary where
  /-- The significant bits, below `2 ^ 53`. -/
  mantissa : Nat
  /-- The power of two they are scaled by. -/
  exponent : Int
  /-- Whether the next smaller float is only half as far away as the next larger one. -/
  narrowBelow : Bool
  deriving Repr, DecidableEq

/-- The bits of the biased exponent. -/
def exponentBits (x : Float) : Nat :=
  (x.toBits >>> 52).toNat % 2048

/-- The bits of the fraction. -/
def fractionBits (x : Float) : Nat :=
  x.toBits.toNat % 0x10000000000000

/-- Whether the sign bit is set; it is for minus zero. -/
def isNegative (x : Float) : Bool :=
  0x8000000000000000 ≤ x.toBits.toNat

/-- Whether a float is neither infinite nor not a number. -/
def isFinite (x : Float) : Bool :=
  exponentBits x != 2047

/-- The magnitude of a finite float. -/
def Binary.ofFloat (x : Float) : Binary :=
  let biased := exponentBits x
  let fraction := fractionBits x
  if biased = 0 then ⟨fraction, -1074, false⟩
  else ⟨0x10000000000000 + fraction, (biased : Int) - 1075, fraction == 0 && 1 < biased⟩

/-- The float of magnitude `mantissa * 2 ^ exponent`, rounded to nearest when it has no exact
representation.  A negative power of two is written with powers of ten and five. -/
def scaledFloat (mantissa : Nat) (exponent : Int) : Float :=
  if 0 ≤ exponent then Float.ofNat (mantissa <<< exponent.toNat)
  else
    let places := (-exponent).toNat
    Float.ofScientific (mantissa * Nat.pow 5 places) true places

/-- A float with the sign given. -/
def withSign (negative : Bool) (magnitude : Float) : Float :=
  if negative then -magnitude else magnitude

/-- The remainder of the division of `x` by `y`, with the sign of `x`.  It is exact: both are
brought to the smaller of their two powers of two. -/
def remainder (x y : Float) : Float :=
  if x.isNaN || y.isNaN || !isFinite x then 0.0 / 0.0
  else if !isFinite y then x
  else
    let a := Binary.ofFloat x
    let b := Binary.ofFloat y
    let scale := min a.exponent b.exponent
    let m := a.mantissa <<< (a.exponent - scale).toNat
    let n := b.mantissa <<< (b.exponent - scale).toNat
    if n = 0 then 0.0 / 0.0
    else withSign (isNegative x) (scaledFloat (m % n) scale)

/-- The least integer of 64 bits. -/
def minInt64 : Int := -0x8000000000000000

/-- The greatest integer of 64 bits. -/
def maxInt64 : Int := 0x7fffffffffffffff

/-- An integer brought into the range of 64 bits. -/
def clampInt64 (n : Int) : Int :=
  max minInt64 (min maxInt64 n)

/-- The integer part of a float, brought into the range of 64 bits.  What is not a number gives
zero. -/
def truncate (x : Float) : Int :=
  if x.isNaN then 0
  else if !isFinite x then if isNegative x then minInt64 else maxInt64
  else
    let b := Binary.ofFloat x
    let magnitude := (b.mantissa <<< b.exponent.toNat) >>> (-b.exponent).toNat
    clampInt64 (if isNegative x then -(magnitude : Int) else magnitude)

end ViewTemplate.Decimal
