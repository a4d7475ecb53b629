import ViewTemplate.Value.Basic
import ViewTemplate.Script.Symbol

/-!
# Expressions and statements

The syntax trees of the script language.  A plain call goes to the plain functions, a view call to
the view functions of the template engine; method calls can be written but never run.
-/

namespace ViewTemplate.Script

inductive UnaryOp where
  | not
  | negate
  deriving Repr, DecidableEq

inductive BinaryOp where
  | or
  | and
  | equal
  | notEqual
  | identical
  | notIdentical
  | less
  | lessEqual
  | greater
  | greaterEqual
  | add
  | subtract
  | concat
  | multiply
  | divide
  | modulo
  deriving Repr, DecidableEq

namespace BinaryOp

/-- How tightly an operator binds. -/
def precedence : BinaryOp → Nat
  | or => 1
  | and => 2
  | equal | notEqual | identical | notIdentical => 3
  | less | lessEqual | greater | greaterEqual => 4
  | add | subtract | concat => 5
  | multiply | divide | modulo => 6

/-- The operator a symbol stands for between two operands. -/
def ofSymbol? : Symbol → Option BinaryOp
  | .or => some or
  | .and => some and
  | .equal => some equal
  | .notEqual => some notEqual
  | .identical => some identical
  | .notIdentical => some notIdentical
  | .less => some less
  | .lessEqual => some lessEqual
  | .greater => some greater
  | .greaterEqual => some greaterEqual
  | .plus => some add
  | .minus => some subtract
  | .dot => some concat
  | .star => some multiply
  | .slash => some divide
  | .percent => some modulo
  | _ => none

def label : BinaryOp → String
  | or => "Or"
  | and => "And"
  | equal => "Equal"
  | notEqual => "NotEqual"
  | identical => "Identical"
  | notIdentical => "NotIdentical"
  | less => "Less"
  | lessEqual => "LessEqual"
  | greater => "Greater"
  | greaterEqual => "GreaterEqual"
  | add => "Add"
  | subtract => "Subtract"
  | concat => "Concat"
  | multiply => "Multiply"
  | divide => "Divide"
  | modulo => "Modulo"

end BinaryOp

inductive Expr where
  | literal (v : Value)
  | var (name : String)
  /-- An array literal; an entry without a key is appended. -/
  | array (entries : List (Option Expr × Expr))
  | index (target position : Expr)
  | property (target : Expr) (name : String)
  /-- A call of a plain function. -/
  | call (name : String) (args : List Expr)
  /-- A call of a view function. -/
  | viewCall (name : String) (args : List Expr)
  | method (target : Expr) (name : String) (args : List Expr)
  | unary (op : UnaryOp) (operand : Expr)
  | binary (op : BinaryOp) (left right : Expr)
  /-- The left operand, or the right one where the left one is missing or null. -/
  | coalesce (left right : Expr)
  | ternary (condition yes no : Expr)

/-- Whether an expression names a place: a variable followed by index and property steps. -/
def Expr.isPlace : Expr → Bool
  | var _ => true
  | index target _ => target.isPlace
  | property target _ => target.isPlace
  | _ => false

/-- How an assignment combines the old value with the new one. -/
inductive AssignOp where
  | set
  | concat
  | add
  | subtract
  deriving Repr, DecidableEq

/-- The operator an assignment applies to the old and the new value. -/
def AssignOp.combine? : AssignOp → Option BinaryOp
  | set => none
  | concat => some .concat
  | add => some .add
  | subtract => some .subtract

/-- The assignment a symbol stands for. -/
def AssignOp.ofSymbol? : Symbol → Option AssignOp
  | .assign => some set
  | .concatAssign => some concat
  | .plusAssign => some add
  | .minusAssign => some subtract
  | _ => none

inductive Stmt where
  | assign (target : Expr) (op : AssignOp) (value : Expr)
  | increment (target : Expr)
  | decrement (target : Expr)
  | echo (values : List Expr)
  | expr (e : Expr)

end ViewTemplate.Script
