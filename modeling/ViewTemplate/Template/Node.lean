import ViewTemplate.Template.Token

/-!
# The nodes of a template

A template is a row of nodes: literal text, constructs with one expression, and directives with a
name and at most one expression.
-/

namespace ViewTemplate.Template

/-- What the node of a tree stands for. -/
inductive NodeKind where
  | root
  /-- Literal text, or the expression inside of a construct. -/
  | expression (text : String)
  | directiveName (text : String)
  | construct (c : Construct)
  deriving Repr, DecidableEq

namespace NodeKind

def label : NodeKind → String
  | root => "Root"
  | expression _ => "Expression"
  | directiveName _ => "DirectiveName"
  | construct c => c.label

/-- The text of a node that has one of its own. -/
def text? : NodeKind → Option String
  | expression text => some text
  | directiveName text => some text
  | _ => none

end NodeKind

/-- A text inside a construct and the line it starts on. -/
structure Leaf where
  text : String
  line : Nat
  deriving Repr, DecidableEq

/-- A node of a template, with the line it starts on. -/
inductive Node where
  | text (text : String) (line : Nat)
  | block (kind : BodyKind) (body : Leaf) (line : Nat)
  | directive (name : Leaf) (argument : Option Leaf) (line : Nat)
  deriving Repr, DecidableEq

end ViewTemplate.Template
