import ViewTemplate.Decimal.Binary

/-!
# The shortest decimal of a float

Every finite float stands for an interval of reals: those that are rounded to it.  Of the decimals
in that interval `shortest` takes one with the fewest digits, and of those the one closest to the
float.  The search walks the decimal grids from coarse to fine and looks at the two neighbours of
the float on each grid, all in exact arithmetic.
-/

namespace ViewTemplate.Decimal

/-- The numeral `digits * 10 ^ exponent`. -/
structure Numeral where
  digits : Nat
  exponent : Int
  deriving Repr, DecidableEq

/-- Which of two decimals that are equally close is taken. -/
inductive Tie where
  /-- The larger one. -/
  | up
  /-- The one whose last digit is even. -/
  | toEven
  deriving Repr, DecidableEq

/-- The comparison of `digits * 10 ^ ten` with `bits * 2 ^ two`, without division. -/
def compareScaled (digits : Nat) (ten : Int) (bits : Nat) (two : Int) : Ordering :=
  compare ((digits * Nat.pow 10 ten.toNat) <<< (-two).toNat)
    ((bits * Nat.pow 10 (-ten).toNat) <<< two.toNat)

/-- Whether a decimal is rounded to the float: it lies between the points halfway to the two
neighbours, which belong to the interval exactly when the mantissa is even. -/
def Binary.roundsHere (x : Binary) (d : Numeral) : Bool :=
  let low := if x.narrowBelow then 4 * x.mantissa - 1 else 4 * x.mantissa - 2
  let high := 4 * x.mantissa + 2
  let closed := x.mantissa % 2 == 0
  let atLow := compareScaled d.digits d.exponent low (x.exponent - 2)
  let atHigh := compareScaled d.digits d.exponent high (x.exponent - 2)
  (atLow == .gt || (closed && atLow == .eq)) && (atHigh == .lt || (closed && atHigh == .eq))

/-- The number of decimal digits of a natural number, none for zero. -/
def digitCount (n : Nat) : Nat :=
  if n = 0 then 0 else (Nat.toDigits 10 n).length

/-- The exponent `e` of the leading digit of `top / bottom`, for which
`10 ^ e ≤ top / bottom < 10 ^ (e + 1)`. -/
def leadingExponent (top bottom : Nat) : Int :=
  if bottom ≤ top then (digitCount (top / bottom) : Int) - 1
  else
    let places := digitCount (bottom / top)
    if bottom = top * Nat.pow 10 (places - 1) then 1 - (places : Int) else -(places : Int)

/-- The neighbours of a float on the grid of multiples of `10 ^ ten`, the nearer one first. -/
def Binary.neighbours (x : Binary) (tie : Tie) (ten : Int) : List Numeral :=
  let top := (x.mantissa <<< x.exponent.toNat) * Nat.pow 10 (-ten).toNat
  let bottom := (1 <<< (-x.exponent).toNat) * Nat.pow 10 ten.toNat
  let below := top / bottom
  let above := below + 1
  let aboveFirst :=
    match compare (2 * (top % bottom)) bottom with
    | .lt => false
    | .gt => true
    | .eq =>
      match tie with
      | .up => true
      | .toEven => below % 2 == 1
  if aboveFirst then [⟨above, ten⟩, ⟨below, ten⟩] else [⟨below, ten⟩, ⟨above, ten⟩]

/-- Move the trailing zeros of the digits into the exponent, at most `fuel` of them. -/
def Numeral.stripZeros : (fuel : Nat) → Numeral → Numeral
  | 0, d => d
  | fuel + 1, d =>
    if d.digits ≠ 0 ∧ d.digits % 10 = 0 then stripZeros fuel ⟨d.digits / 10, d.exponent + 1⟩ else d

/-- The exact decimal value of a float. -/
def Binary.exact (x : Binary) : Numeral :=
  if 0 ≤ x.exponent then ⟨x.mantissa <<< x.exponent.toNat, 0⟩
  else ⟨x.mantissa * Nat.pow 5 (-x.exponent).toNat, x.exponent⟩

/-- The decimal with the fewest digits among those that are rounded to the float, and the closest of
these.  Seventeen digits always suffice; should they not, the exact value is taken. -/
def Binary.shortest (x : Binary) (tie : Tie) : Numeral :=
  if x.mantissa = 0 then ⟨0, 0⟩
  else
    let lead := leadingExponent (x.mantissa <<< x.exponent.toNat) (1 <<< (-x.exponent).toNat)
    let found := (List.range 17).findSome? fun (n : Nat) =>
      (x.neighbours tie (lead - n)).find? x.roundsHere
    (found.getD x.exact).stripZeros 1100

end ViewTemplate.Decimal
