import ViewTemplate.Decimal.Shortest

/-!
# Numbers read from text

Three readers with three grammars: `readFloat?` takes decimal numerals with an optional point and
exponent and the words for the special values, `readInt64?` takes signed integers of 64 bits, and
`readIndex?` takes the positions of a collection.  None of them skips blanks.
-/

namespace ViewTemplate.Decimal

/-- The number a row of decimal digits stands for. -/
def digitsValue (digits : List Char) : Nat :=
  digits.foldl (fun n c => 10 * n + (c.toNat - '0'.toNat)) 0

/-- The digits at the front of a text, and what follows them. -/
def takeDigits (text : List Char) : List Char × List Char :=
  (text.takeWhile Char.isDigit, text.dropWhile Char.isDigit)

/-- The digits behind a point at the front of a text, and what follows them. -/
def takeFraction : List Char → List Char × List Char
  | '.' :: rest => takeDigits rest
  | text => ([], text)

/-- A sign at the front of a text, and what follows it. -/
def takeSign : List Char → Bool × List Char
  | '+' :: rest => (false, rest)
  | '-' :: rest => (true, rest)
  | text => (false, text)

/-- The number a text of nothing but digits stands for. -/
def readNat? (text : List Char) : Option Nat :=
  if text.isEmpty || !text.all Char.isDigit then none else some (digitsValue text)

/-- A signed integer that fits 64 bits. -/
def readInt64? (text : List Char) : Option Int := do
  let (negative, digits) := takeSign text
  let magnitude ← readNat? digits
  let n : Int := if negative then -(magnitude : Int) else magnitude
  if minInt64 ≤ n ∧ n ≤ maxInt64 then some n else none

/-- A position in a collection: digits with an optional plus sign, below `2 ^ 64`. -/
def readIndex? (text : List Char) : Option Nat := do
  let digits := match text with
    | '+' :: rest => rest
    | _ => text
  let n ← readNat? digits
  if n < 0x10000000000000000 then some n else none

/-- The float closest to `digits * 10 ^ exponent`.  Magnitudes far outside the range of floats are
settled by the number of digits alone. -/
def decimalFloat (digits : Nat) (exponent : Int) : Float :=
  let size := exponent + (Nat.toDigits 10 digits).length
  if digits = 0 ∨ size < -400 then 0.0
  else if 400 < size then 1.0 / 0.0
  else if 0 ≤ exponent then Float.ofScientific digits false exponent.toNat
  else Float.ofScientific digits true (-exponent).toNat

/-- The exponent part of a numeral: nothing, or a mark, an optional sign and digits. -/
def readExponent? : List Char → Option Int
  | [] => some 0
  | mark :: rest =>
    if mark = 'e' ∨ mark = 'E' then do
      let (negative, digits) := takeSign rest
      let n ← readNat? digits
      some (if negative then -(n : Int) else n)
    else none

/-- A numeral without a sign: digits with an optional point before, among or after them, and an
optional exponent. -/
def readNumeral? (text : List Char) : Option Numeral := do
  let (whole, rest) := takeDigits text
  let (fraction, rest) := takeFraction rest
  if whole.isEmpty && fraction.isEmpty then none
  else
    let exponent ← readExponent? rest
    some ⟨digitsValue (whole ++ fraction), exponent - fraction.length⟩

/-- The float closest to what a numeral without a sign stands for. -/
def readMagnitude? (text : List Char) : Option Float := do
  let d ← readNumeral? text
  some (decimalFloat d.digits d.exponent)

/-- A float: an optional sign, then a numeral or, in any letter case, a word for infinity or for
what is not a number. -/
def readFloat? (text : List Char) : Option Float := do
  let (negative, rest) := takeSign text
  let word := String.ofList (rest.map Char.toLower)
  let magnitude ←
    if word = "inf" ∨ word = "infinity" then some (1.0 / 0.0)
    else if word = "nan" then some (0.0 / 0.0)
    else readMagnitude? rest
  some (withSign negative magnitude)

end ViewTemplate.Decimal
