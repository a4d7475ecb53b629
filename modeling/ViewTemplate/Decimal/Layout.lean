import ViewTemplate.Decimal.Shortest

/-!
# The text of a float

A `Layout` holds the decisions of one way to write floats: which magnitudes are written with all
their places, whether an integral value shows a fraction digit, and how an exponent is marked.  The
digits themselves are the shortest ones.
-/

namespace ViewTemplate.Decimal

/-- One way to write floats. -/
structure Layout where
  /-- Whether a number with this exponent of its leading digit is written with all its places. -/
  plain : Int → Bool
  /-- Whether an integral number written with all its places ends in `.0`. -/
  fraction : Bool
  /-- Whether a positive exponent carries a plus sign. -/
  plus : Bool
  /-- Which of two equally close decimals is taken. -/
  tie : Tie

/-- The decimal digits of a natural number. -/
def natText (n : Nat) : String :=
  String.ofList (Nat.toDigits 10 n)

/-- The decimal text of an integer. -/
def intText (n : Int) : String :=
  if n < 0 then "-" ++ natText n.natAbs else natText n.natAbs

/-- The digits with a point and zeros, so that every place shows. -/
def Numeral.placesText (d : Numeral) (fraction : Bool) : String :=
  let digits := Nat.toDigits 10 d.digits
  if 0 ≤ d.exponent then
    String.ofList (digits ++ List.replicate d.exponent.toNat '0') ++ (if fraction then ".0" else "")
  else
    let places := (-d.exponent).toNat
    if places < digits.length then
      let whole := digits.length - places
      String.ofList (digits.take whole ++ '.' :: digits.drop whole)
    else
      String.ofList ('0' :: '.' :: List.replicate (places - digits.length) '0' ++ digits)

/-- The leading digit, a point and the other digits if there are any, and the exponent. -/
def Numeral.exponentText (d : Numeral) (plus : Bool) : String :=
  let digits := Nat.toDigits 10 d.digits
  let lead := d.exponent + digits.length - 1
  let tail := if digits.length ≤ 1 then [] else '.' :: digits.drop 1
  let sign := if lead < 0 then "-" else if plus then "+" else ""
  String.ofList (digits.take 1 ++ tail) ++ "e" ++ sign ++ natText lead.natAbs

/-- The text of a decimal in a layout. -/
def Layout.decimalText (layout : Layout) (d : Numeral) : String :=
  let lead := d.exponent + (Nat.toDigits 10 d.digits).length - 1
  if d.digits = 0 ∨ layout.plain lead then d.placesText layout.fraction
  else d.exponentText layout.plus

/-- The text of a float in a layout. -/
def Layout.text (layout : Layout) (x : Float) : String :=
  if x.isNaN then "NaN"
  else
    let magnitude :=
      if isFinite x then layout.decimalText ((Binary.ofFloat x).shortest layout.tie) else "inf"
    if isNegative x then "-" ++ magnitude else magnitude

/-- Floats among data: all places from five places after the point up to sixteen before it, an
exponent with its sign otherwise, and always a fraction digit or an exponent. -/
def dataLayout : Layout where
  plain e := -5 ≤ e && e ≤ 15
  fraction := true
  plus := true
  tie := .toEven

/-- Floats in running text: always all places, no fraction for integral numbers. -/
def proseLayout : Layout where
  plain _ := true
  fraction := false
  plus := false
  tie := .up

/-- Floats in a token listing: all places from four places after the point up to sixteen before it,
a bare exponent otherwise. -/
def listingLayout : Layout where
  plain e := -4 ≤ e && e ≤ 15
  fraction := true
  plus := false
  tie := .up

end ViewTemplate.Decimal
