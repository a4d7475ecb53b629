import ViewTemplate.Script.Error
import ViewTemplate.Value.Conversion

/-!
# Operators on values

Arithmetic is exact on integers of 64 bits as long as the result is one; otherwise it is done on
floats.  Comparisons, concatenation and indexing use the loose conversions of values.
-/

namespace ViewTemplate.Script

open ViewTemplate.Decimal (minInt64 maxInt64)

inductive ArithmeticOp where
  | add
  | subtract
  | multiply
  | divide
  | modulo
  deriving Repr, DecidableEq

/-- An integer if it fits 64 bits. -/
def int64? (n : Int) : Option Int :=
  if minInt64 ≤ n ∧ n ≤ maxInt64 then some n else none

/-- The result on integers of 64 bits, if it is one itself.  The remainder of the least integer by
minus one is left to floats together with their quotient. -/
def ArithmeticOp.exact? (op : ArithmeticOp) (x y : Int) : Option Int :=
  match op with
  | add => int64? (x + y)
  | subtract => int64? (x - y)
  | multiply => int64? (x * y)
  | divide => if y ≠ 0 ∧ x.tmod y = 0 then int64? (x.tdiv y) else none
  | modulo => if y = 0 ∨ (x = minInt64 ∧ y = -1) then none else some (x.tmod y)

/-- The result on floats. -/
def ArithmeticOp.onFloats (op : ArithmeticOp) (x y : Float) : Float :=
  match op with
  | add => x + y
  | subtract => x - y
  | multiply => x * y
  | divide => x / y
  | modulo => Decimal.remainder x y

/-- Whether an operator needs a right operand that is not zero. -/
def ArithmeticOp.divides : ArithmeticOp → Bool
  | divide | modulo => true
  | _ => false

/-- The float an operand counts as. -/
def operand (v : Value) : Except ScriptError Float :=
  match v.toNumber? with
  | some x => .ok x
  | none => .error (.wrongType (.notArithmetic v.kind))

/-- A float as the result of arithmetic, which must be finite. -/
def finiteResult (x : Float) : Except ScriptError Value :=
  if Decimal.isFinite x then .ok (.number (.float x)) else .error (.wrongType .notFinite)

/-- Arithmetic on two values. -/
def arithmetic (op : ArithmeticOp) (a b : Value) : Except ScriptError Value := do
  let x ← operand a
  let y ← operand b
  if op.divides && y == 0.0 then .error .divisionByZero
  else
    match a.toInteger?, b.toInteger? with
    | some m, some n =>
      match op.exact? m n with
      | some r => .ok (.ofInt r)
      | none => finiteResult (op.onFloats x y)
    | _, _ => finiteResult (op.onFloats x y)

/-- A binary operator on two values that are both known. -/
def BinaryOp.apply (op : BinaryOp) (a b : Value) : Except ScriptError Value :=
  match op with
  | or => .ok (.bool (a.truthy || b.truthy))
  | and => .ok (.bool (a.truthy && b.truthy))
  | equal => .ok (.bool (a.looseEqual b))
  | notEqual => .ok (.bool (!a.looseEqual b))
  | identical => .ok (.bool (a.same b))
  | notIdentical => .ok (.bool (!a.same b))
  | less => .ok (.bool (a.compare b == .lt))
  | lessEqual => .ok (.bool (a.compare b != .gt))
  | greater => .ok (.bool (a.compare b == .gt))
  | greaterEqual => .ok (.bool (a.compare b != .lt))
  | concat => .ok (.text (a.display ++ b.display))
  | add => arithmetic .add a b
  | subtract => arithmetic .subtract a b
  | multiply => arithmetic .multiply a b
  | divide => arithmetic .divide a b
  | modulo => arithmetic .modulo a b

/-- A unary operator on a value. -/
def UnaryOp.apply (op : UnaryOp) (v : Value) : Except ScriptError Value :=
  match op with
  | not => .ok (.bool (!v.truthy))
  | negate => arithmetic .subtract (.ofInt 0) v

/-- What stands at a position of a list, under a name of a map, or at a position of a text. -/
def indexed (target position : Value) : Except ScriptError Value :=
  let found : Option Value :=
    match target with
    | .list items => position.toIndex?.bind fun i => items[i]?
    | .map entries => Bindings.find? entries position.display
    | .text s => position.toIndex?.bind fun i => s.toList[i]?.map fun c => .text c.toString
    | _ => none
  match target with
  | .list _ | .map _ | .text _ =>
    match found with
    | some v => .ok v
    | none => .error (.undefinedIndex position.display)
  | _ => .error (.wrongType (.notIndexable target.kind))

end ViewTemplate.Script
