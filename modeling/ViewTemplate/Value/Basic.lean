import ViewTemplate.Value.Bindings
import ViewTemplate.Decimal.Binary

/-!
# Values

Templates work on plain data: null, booleans, numbers, texts, lists and maps with ordered names.
Integers and floats are different numbers even when they are equal in size.
-/

namespace ViewTemplate

open ViewTemplate.Decimal (minInt64 maxInt64)

/-- A number: an integer or a float. -/
inductive Number where
  | int (n : Int)
  | float (x : Float)

namespace Number

def toFloat : Number → Float
  | int n => Float.ofInt n
  | float x => x

/-- The number as an integer of 64 bits, if it is one. -/
def toInt64? : Number → Option Int
  | int n => if minInt64 ≤ n ∧ n ≤ maxInt64 then some n else none
  | float _ => none

/-- The number as a position in a collection, if it is an integer that is not negative. -/
def toIndex? : Number → Option Nat
  | int n => if 0 ≤ n then some n.toNat else none
  | float _ => none

/-- Integers are the same when equal, floats when they compare equal; the two kinds differ. -/
def same : Number → Number → Bool
  | int m, int n => m == n
  | float x, float y => x == y
  | _, _ => false

end Number

/-- Plain data. -/
inductive Value where
  | null
  | bool (b : Bool)
  | number (n : Number)
  | text (s : String)
  | list (items : List Value)
  | map (entries : List (String × Value))

instance : Inhabited Value := ⟨.null⟩

namespace Value

/-- The kinds of value, as they are named to the author of a template. -/
inductive Kind where
  | null
  | bool
  | number
  | string
  | array
  | map
  deriving Repr, DecidableEq

def Kind.name : Kind → String
  | null => "null"
  | bool => "bool"
  | number => "number"
  | string => "string"
  | array => "array"
  | map => "map"

def kind : Value → Kind
  | null => .null
  | bool _ => .bool
  | number _ => .number
  | text _ => .string
  | list _ => .array
  | map _ => .map

def isNull : Value → Bool
  | null => true
  | _ => false

/-- The integer value of a number literal or a count. -/
def ofInt (n : Int) : Value :=
  number (.int n)

/-- A count as a value. -/
def ofNat (n : Nat) : Value :=
  number (.int n)

/-- A float as a value: only finite floats are data, all others become null. -/
def ofFloat (x : Float) : Value :=
  if Decimal.isFinite x then number (.float x) else null

mutual

/-- Whether two values are the same: of one kind, equal item by item, and for maps equal name by
name whatever the order. -/
def same : Value → Value → Bool
  | null, null => true
  | bool a, bool b => a == b
  | number m, number n => m.same n
  | text s, text t => s == t
  | list xs, list ys => sameItems xs ys
  | map xs, map ys => xs.length == ys.length && sameEntries xs ys
  | _, _ => false
termination_by structural v => v

/-- Whether two lists have the same items in the same order. -/
def sameItems : List Value → List Value → Bool
  | [], [] => true
  | x :: xs, y :: ys => x.same y && sameItems xs ys
  | _, _ => false
termination_by structural xs => xs

/-- Whether every name of the first map is bound to the same value in the second. -/
def sameEntries : List (String × Value) → List (String × Value) → Bool
  | [], _ => true
  | (name, x) :: rest, ys =>
    (match Bindings.find? ys name with
      | some y => x.same y
      | none => false) && sameEntries rest ys
termination_by structural xs => xs

end

end Value

/-- The variables of a view or a scope. -/
abbrev Vars := Bindings Value

end ViewTemplate
