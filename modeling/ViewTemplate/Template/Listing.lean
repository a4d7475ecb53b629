import ViewTemplate.Template.Arena
import ViewTemplate.Text.Quoted

/-!
# Listings of a tree

Two views of the nodes of a template: a table whose rows are numbered in the order in which the
nodes start, and a drawing with one line a node.
-/

namespace ViewTemplate.Template

/-! ## Table -/

/-- A row of the table of a tree. -/
structure Row where
  label : String
  text : Option String
  line : Nat
  parent : Option Nat
  children : List Nat
  /-- The first expression among the children. -/
  expression : Option String
  /-- The name and the expression of a directive. -/
  directive : Option (String × Option String)
  deriving Repr, DecidableEq

/-- The row of the node at a position. -/
def Arena.row (a : Arena) (id : Nat) : Row :=
  let node := a.node id
  ⟨node.kind.label, node.kind.text?, node.line, node.parent, node.children,
    a.expressionOf? id, a.directiveParts? id⟩

def Arena.rows (a : Arena) : List Row :=
  (List.range a.size).map a.row

/-! ## Drawing -/

/-- The most characters of a quoted text that a drawing shows. -/
def maxDrawnChars : Nat := 30

/-- A text in quotes, cut short if it is long. -/
def drawnText (text : String) : String :=
  let quoted := (Text.quoted text).toList
  if maxDrawnChars < quoted.length then String.ofList (quoted.take maxDrawnChars) ++ "..."
  else String.ofList quoted

/-- One line of a drawing and what is drawn in front of the lines below it. -/
def drawnLine (margin : String) (isLast : Bool) (label : String) : String :=
  margin ++ (if isLast then "└─" else "├─") ++ " " ++ label ++ "\n"

/-- The margin of what a line of a drawing holds. -/
def innerMargin (isLast : Bool) : String :=
  if isLast then "  " else "│ "

/-- The line of a node, with its text if it has one. -/
def drawnKind (margin : String) (isLast : Bool) (kind : NodeKind) : String :=
  drawnLine margin isLast
    (match kind.text? with
    | some text => kind.label ++ ": " ++ drawnText text
    | none => kind.label)

/-- The drawing of a node. -/
def Node.drawn (isLast : Bool) : Node → String
  | .text shown _ => drawnKind "" isLast (.expression shown)
  | .block kind body _ =>
    drawnKind "" isLast (.construct (.body kind)) ++
      drawnKind (innerMargin isLast) true (.expression body.text)
  | .directive name none _ =>
    drawnKind "" isLast (.construct .directive) ++
      drawnKind (innerMargin isLast) true (.directiveName name.text)
  | .directive name (some argument) _ =>
    drawnKind "" isLast (.construct .directive) ++
      drawnKind (innerMargin isLast) false (.directiveName name.text) ++
      drawnKind (innerMargin isLast) true (.expression argument.text)

/-- The drawing of a tree, one line a node. -/
def drawing : List Node → String
  | [] => ""
  | node :: rest => node.drawn rest.isEmpty ++ drawing rest

end ViewTemplate.Template
