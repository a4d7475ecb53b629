import ViewTemplate.Value.Json
import ViewTemplate.Decimal.Reading
import ViewTemplate.Text.Blank

/-!
# Loose conversions

What a value means where another kind is asked for: its truth, the text it is shown as, the number
it counts as, and how two values compare.  Null, false, zero, the empty text, `"0"` and empty
collections are false; null and false are shown as nothing; texts count as numbers when they read as
one.
-/

namespace ViewTemplate.Value

open ViewTemplate.Decimal (intText proseLayout readFloat? readInt64? readIndex?)

/-- Whether a value counts as true. -/
def truthy : Value → Bool
  | null => false
  | bool b => b
  | number n => n.toFloat != 0.0
  | text s => !(s.isEmpty || s == "0")
  | list items => !items.isEmpty
  | map entries => !entries.isEmpty

/-- The text a number is shown as: integers in full, floats with all their places.  An integer
beyond 64 bits is shown as the float closest to it, and minus zero as zero. -/
def displayNumber (n : Number) : String :=
  match n.toInt64? with
  | some i => intText i
  | none => if n.toFloat == 0.0 then "0" else proseLayout.text n.toFloat

/-- The text a value is shown as; collections are shown as JSON. -/
def display : Value → String
  | null => ""
  | bool true => "1"
  | bool false => ""
  | number n => displayNumber n
  | text s => s
  | v => v.json

/-- The float a value counts as. -/
def toNumber? : Value → Option Float
  | null => some 0.0
  | bool b => some (if b then 1.0 else 0.0)
  | number n => some n.toFloat
  | text s => readFloat? (Text.trim s.toList)
  | _ => none

/-- The integer of 64 bits a value counts as. -/
def toInteger? : Value → Option Int
  | null => some 0
  | bool b => some (if b then 1 else 0)
  | number n => n.toInt64?
  | text s => readInt64? (Text.trim s.toList)
  | _ => none

/-- The position a value names in a list or a text. -/
def toIndex? : Value → Option Nat
  | number n => n.toIndex?
  | text s => readIndex? s.toList
  | _ => none

/-- Whether two values count as equal.  A boolean is equal to what has its truth and null to what is
false; otherwise texts are compared as texts and anything beside a number as a number. -/
def looseEqual (a b : Value) : Bool :=
  match a, b with
  | null, null => true
  | bool p, v => p == v.truthy
  | v, bool p => p == v.truthy
  | null, v => !v.truthy
  | v, null => !v.truthy
  | text s, text t => s == t
  | number _, _ | _, number _ =>
    match a.toNumber?, b.toNumber? with
    | some x, some y => x == y
    | _, _ => false
  | _, _ => a.same b

/-- The order of two floats; what is not a number is neither above nor below anything. -/
def compareFloats (x y : Float) : Ordering :=
  if x < y then .lt else if y < x then .gt else .eq

/-- The order of two values as the numbers they count as, or else as the texts they are shown as. -/
def compareCounted (a b : Value) : Ordering :=
  match a.toNumber?, b.toNumber? with
  | some x, some y => compareFloats x y
  | _, _ => compare a.display b.display

/-- The order of two values.  Texts are compared as texts unless both read as numbers. -/
def compare (a b : Value) : Ordering :=
  match a, b with
  | text s, text t =>
    if a.toNumber?.isNone || b.toNumber?.isNone then Ord.compare s t else compareCounted a b
  | _, _ => compareCounted a b

/-- The pairs of key and item of a collection; the items of a list have their positions as keys. -/
def items? : Value → Option (List (Value × Value))
  | list items => some (items.zipIdx.map fun (item, i) => (ofNat i, item))
  | map entries => some (entries.map fun (name, item) => (text name, item))
  | _ => none

end ViewTemplate.Value
