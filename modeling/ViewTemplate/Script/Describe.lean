import ViewTemplate.Script.Expr
import ViewTemplate.Value.Json

/-!
# Expressions spelled out for messages

A message about an expression shows its tree: the name of each node with its parts in parentheses,
or in braces where the parts are named.
-/

namespace ViewTemplate

open ViewTemplate.Text (quoted)

/-- Texts separated by commas. -/
def commaSeparated (parts : List String) : String :=
  String.intercalate ", " parts

mutual

/-- A value spelled out with its kind. -/
def Value.describe : Value → String
  | .null => "Null"
  | .bool b => "Bool(" ++ (if b then "true" else "false") ++ ")"
  | .number n => "Number(" ++ n.json ++ ")"
  | .text s => "String(" ++ quoted s ++ ")"
  | .list items => "Array [" ++ commaSeparated (describeItems items) ++ "]"
  | .map entries => "Object \x7b" ++ commaSeparated (describeEntries entries) ++ "\x7d"
termination_by structural v => v

/-- The items of a list, each spelled out. -/
def describeItems : List Value → List String
  | [] => []
  | v :: rest => v.describe :: describeItems rest
termination_by structural vs => vs

/-- The entries of a map, each spelled out. -/
def describeEntries : List (String × Value) → List String
  | [] => []
  | (name, v) :: rest => (quoted name ++ ": " ++ v.describe) :: describeEntries rest
termination_by structural vs => vs

end

namespace Script

def UnaryOp.label : UnaryOp → String
  | not => "Not"
  | negate => "Negate"

mutual

/-- An expression spelled out as its tree. -/
def Expr.describe : Expr → String
  | .literal v => "Literal(" ++ v.describe ++ ")"
  | .var name => "Variable(" ++ quoted name ++ ")"
  | .array entries => "Array([" ++ commaSeparated (describePairs entries) ++ "])"
  | .index target position => "Index(" ++ target.describe ++ ", " ++ position.describe ++ ")"
  | .property target name => "Property(" ++ target.describe ++ ", " ++ quoted name ++ ")"
  | .call name args =>
    "Call \x7b name: " ++ quoted name ++ ", args: [" ++ commaSeparated (describeAll args) ++
      "] \x7d"
  | .viewCall name args =>
    "ViewCall \x7b name: " ++ quoted name ++ ", args: [" ++ commaSeparated (describeAll args) ++
      "] \x7d"
  | .method target name args =>
    "MethodCall \x7b target: " ++ target.describe ++ ", name: " ++ quoted name ++ ", args: [" ++
      commaSeparated (describeAll args) ++ "] \x7d"
  | .unary op operand => "Unary(" ++ op.label ++ ", " ++ operand.describe ++ ")"
  | .binary op left right =>
    "Binary(" ++ op.label ++ ", " ++ left.describe ++ ", " ++ right.describe ++ ")"
  | .coalesce left right => "Coalesce(" ++ left.describe ++ ", " ++ right.describe ++ ")"
  | .ternary condition yes no =>
    "Ternary(" ++ condition.describe ++ ", " ++ yes.describe ++ ", " ++ no.describe ++ ")"
termination_by structural e => e

/-- Expressions, each spelled out. -/
def describeAll : List Expr → List String
  | [] => []
  | e :: rest => e.describe :: describeAll rest
termination_by structural es => es

/-- The entries of an array literal, each spelled out as a pair. -/
def describePairs : List (Option Expr × Expr) → List String
  | [] => []
  | (none, v) :: rest => ("(None, " ++ v.describe ++ ")") :: describePairs rest
  | (some k, v) :: rest =>
    ("(Some(" ++ k.describe ++ "), " ++ v.describe ++ ")") :: describePairs rest
termination_by structural es => es

end

end Script

end ViewTemplate
