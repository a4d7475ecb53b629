import ViewTemplate.Value.Basic
import ViewTemplate.Decimal.Reading

/-!
# Reading JSON text

`Value.ofJson?` reads a whole JSON document.  Integers that fit are kept as integers, every other
number becomes a float, a repeated name keeps its first place and its last value, and collections
may nest at most 127 deep.
-/

namespace ViewTemplate

namespace JsonText

open ViewTemplate.Decimal (digitsValue takeDigits withSign)

/-- What is left of a document after its blanks. -/
def skipBlanks (text : List Char) : List Char :=
  text.dropWhile fun c => c == ' ' || c == '\n' || c == '\t' || c == '\r'

/-- Multiply or divide by a power of ten.  A quotient beyond the powers that floats have is divided
in steps of `10 ^ 308`, of which the third already meets zero; a product beyond them is
no number. -/
def scale? : (steps : Nat) → Float → Int → Option Float
  | 0, _, _ => none
  | steps + 1, x, exponent =>
    if exponent.natAbs ≤ 308 then
      let power := Float.ofScientific 1 false exponent.natAbs
      if 0 ≤ exponent then
        let product := x * power
        if Decimal.isFinite product then some product else none
      else some (x / power)
    else if x == 0.0 then some x
    else if 0 ≤ exponent then none
    else scale? steps (x / Float.ofScientific 1 false 308) (exponent + 308)

/-- The digits that fit into 64 bits together with `start`, as a number, and the digits that do not
fit. -/
def takeFitting (start : Nat) : List Char → Nat × List Char
  | [] => (start, [])
  | c :: digits =>
    let next := 10 * start + (c.toNat - '0'.toNat)
    if next < 0x10000000000000000 then takeFitting next digits else (start, c :: digits)

/-- The exponent of a number, as far as it can matter. -/
def readExponent? (text : List Char) : Option (Int × List Char) :=
  let (negative, rest) := match text with
    | '+' :: rest => (false, rest)
    | '-' :: rest => (true, rest)
    | _ => (false, text)
  let (digits, rest) := takeDigits rest
  if digits.isEmpty then none
  else
    let n := min (digitsValue digits) 0x80000000
    some (if negative then -(n : Int) else n, rest)

/-- A float from the digits that fit, the power of ten they stand at, and the rest of the text,
which may hold an exponent. -/
def finishFloat? (negative : Bool) (significand : Nat) (exponent : Int) (text : List Char) :
    Option (Number × List Char) := do
  let (shift, rest) ← match text with
    | 'e' :: rest | 'E' :: rest => readExponent? rest
    | _ => some (0, text)
  let x ← if significand = 0 then some 0.0
    else scale? 4 (Float.ofNat significand) (exponent + shift)
  some (.float (withSign negative x), rest)

/-- A number.  Digits that do not fit into 64 bits only move the power of ten before the point, and
are passed over after it. -/
def readNumber? (text : List Char) : Option (Number × List Char) := do
  let (negative, body) := match text with
    | '-' :: rest => (true, rest)
    | _ => (false, text)
  let (whole, rest) := takeDigits body
  if whole.isEmpty || (whole.length > 1 && whole.head? == some '0') then none
  else
    let (significand, surplus) := takeFitting 0 whole
    match rest with
    | '.' :: after =>
      let (fraction, rest) := takeDigits after
      if fraction.isEmpty then none
      else
        let (significand, unread) := takeFitting significand fraction
        let places := fraction.length - unread.length
        finishFloat? negative significand (surplus.length - places) rest
    | 'e' :: _ | 'E' :: _ => finishFloat? negative significand surplus.length rest
    | _ =>
      if !surplus.isEmpty then finishFloat? negative significand surplus.length rest
      else if !negative then some (.int significand, rest)
      -- Minus zero and integers below the range of 64 bits are floats.
      else if significand = 0 || 0x8000000000000000 < significand then
        some (.float (-Float.ofNat significand), rest)
      else some (.int (-(significand : Int)), rest)

/-- The value of a digit in base sixteen. -/
def hexValue? (c : Char) : Option Nat :=
  if c.isDigit then some (c.toNat - '0'.toNat)
  else if 'a' ≤ c ∧ c ≤ 'f' then some (c.toNat - 'a'.toNat + 10)
  else if 'A' ≤ c ∧ c ≤ 'F' then some (c.toNat - 'A'.toNat + 10)
  else none

/-- Four digits in base sixteen. -/
def readHex4? : List Char → Option (Nat × List Char)
  | a :: b :: c :: d :: rest => do
    let a ← hexValue? a
    let b ← hexValue? b
    let c ← hexValue? c
    let d ← hexValue? d
    some (4096 * a + 256 * b + 16 * c + d, rest)
  | _ => none

/-- The character of an escape with four digits.  A high surrogate needs the escape of a low one
behind it. -/
def readUnicodeEscape? (text : List Char) : Option (Char × List Char) := do
  let (n, rest) ← readHex4? text
  if 0xDC00 ≤ n ∧ n ≤ 0xDFFF then none
  else if 0xD800 ≤ n ∧ n ≤ 0xDBFF then
    match rest with
    | '\\' :: 'u' :: more =>
      let (low, rest) ← readHex4? more
      if 0xDC00 ≤ low ∧ low ≤ 0xDFFF then
        some (Char.ofNat (0x10000 + (n - 0xD800) * 0x400 + (low - 0xDC00)), rest)
      else none
    | _ => none
  else some (Char.ofNat n, rest)

/-- The characters of a string up to its closing quote; `read` holds those read so far, the last one
first.  `fuel` bounds the number of characters. -/
def readString? : (fuel : Nat) → (read : List Char) → List Char → Option (String × List Char)
  | 0, _, _ => none
  | _ + 1, _, [] => none
  | fuel + 1, read, c :: rest =>
    if c = '"' then some (String.ofList read.reverse, rest)
    else if c = '\\' then
      match rest with
      | '"' :: rest => readString? fuel ('"' :: read) rest
      | '\\' :: rest => readString? fuel ('\\' :: read) rest
      | '/' :: rest => readString? fuel ('/' :: read) rest
      | 'b' :: rest => readString? fuel (Char.ofNat 8 :: read) rest
      | 'f' :: rest => readString? fuel (Char.ofNat 12 :: read) rest
      | 'n' :: rest => readString? fuel ('\n' :: read) rest
      | 'r' :: rest => readString? fuel ('\r' :: read) rest
      | 't' :: rest => readString? fuel ('\t' :: read) rest
      | 'u' :: rest =>
        match readUnicodeEscape? rest with
        | some (c, rest) => readString? fuel (c :: read) rest
        | none => none
      | _ => none
    else if c.toNat < 0x20 then none
    else readString? fuel (c :: read) rest

mutual

/-- A value at the front of a text, inside at most `depth` more collections. -/
def readValue? (fuel : Nat) (depth : Nat) (text : List Char) : Option (Value × List Char) :=
  match fuel with
  | 0 => none
  | fuel + 1 =>
    match skipBlanks text with
    | 'n' :: 'u' :: 'l' :: 'l' :: rest => some (.null, rest)
    | 't' :: 'r' :: 'u' :: 'e' :: rest => some (.bool true, rest)
    | 'f' :: 'a' :: 'l' :: 's' :: 'e' :: rest => some (.bool false, rest)
    | '"' :: rest => (readString? (rest.length + 1) [] rest).map fun (s, rest) => (.text s, rest)
    | '[' :: rest =>
      if depth ≤ 1 then none
      else
        match skipBlanks rest with
        | ']' :: rest => some (.list [], rest)
        | rest => readItems? fuel (depth - 1) [] rest
    | '\x7b' :: rest =>
      if depth ≤ 1 then none
      else
        match skipBlanks rest with
        | '\x7d' :: rest => some (.map [], rest)
        | rest => readEntries? fuel (depth - 1) [] rest
    | rest => (readNumber? rest).map fun (n, rest) => (.number n, rest)

/-- The items of a list; `read` holds those read so far, the last one first. -/
def readItems? (fuel : Nat) (depth : Nat) (read : List Value) (text : List Char) :
    Option (Value × List Char) :=
  match fuel with
  | 0 => none
  | fuel + 1 =>
    match readValue? fuel depth text with
    | none => none
    | some (v, rest) =>
      match skipBlanks rest with
      | ',' :: rest => readItems? fuel depth (v :: read) rest
      | ']' :: rest => some (.list (v :: read).reverse, rest)
      | _ => none

/-- The entries of a map; `read` holds those read so far. -/
def readEntries? (fuel : Nat) (depth : Nat) (read : List (String × Value)) (text : List Char) :
    Option (Value × List Char) :=
  match fuel with
  | 0 => none
  | fuel + 1 =>
    match skipBlanks text with
    | '"' :: rest =>
      match readString? (rest.length + 1) [] rest with
      | none => none
      | some (name, rest) =>
        match skipBlanks rest with
        | ':' :: rest =>
          match readValue? fuel depth rest with
          | none => none
          | some (v, rest) =>
            match skipBlanks rest with
            | ',' :: rest => readEntries? fuel depth (Bindings.bind read name v) rest
            | '\x7d' :: rest => some (.map (Bindings.bind read name v), rest)
            | _ => none
        | _ => none
    | _ => none

end

end JsonText

/-- The value of a whole JSON document.  Every step reads at least one character of it, so twice its
length bounds the number of steps. -/
def Value.ofJson? (text : String) : Option Value :=
  let chars := text.toList
  match JsonText.readValue? (2 * chars.length + 2) 128 chars with
  | some (v, rest) => if (JsonText.skipBlanks rest).isEmpty then some v else none
  | none => none

end ViewTemplate
