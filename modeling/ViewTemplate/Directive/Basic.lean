import ViewTemplate.Directive.Clause
import ViewTemplate.Program.Instruction
import ViewTemplate.Script.Parser

/-!
# Directives

A directive turns the text behind its name into instructions.  The directives that every template
can use are `directives`: those for views and parts, and those that open, divide and close blocks.
-/

namespace ViewTemplate

open ViewTemplate.Program (Action Instruction BlockKind)

/-- What a directive wants behind its name. -/
inductive Directive.Want where
  | viewName
  | viewNameAndVars
  | partName
  | condition
  | itemClause
  | loopClauses
  | nothing
  deriving Repr, DecidableEq

def Directive.Want.text : Directive.Want → String
  | viewName => "a view name"
  | viewNameAndVars => "a view name and an optional map of variables"
  | partName => "a part name"
  | condition => "a condition"
  | itemClause => "`$items as $item` or `$items as $key => $item`"
  | loopClauses => "`init; condition; step`"
  | nothing => "no expression"

/-- Why a directive refuses what stands behind its name. -/
inductive DirectiveError where
  | invalidExpression (directive : String) (want : Directive.Want)
  | script (e : ScriptError)

def DirectiveError.message : DirectiveError → String
  | invalidExpression directive want => directive ++ " expects " ++ want.text
  | script e => e.message

/-- A directive: instructions from the text behind its name. -/
abbrev Directive := List Char → Except DirectiveError (List Instruction)

abbrev Directives := Bindings Directive

namespace Directive

/-- What reading a script inside of a directive gives. -/
def lift {α : Type} : Except ScriptError α → Except DirectiveError α
  | .ok a => .ok a
  | .error e => .error (.script e)

/-- The text of a directive without its parentheses, which must not be empty. -/
def required (name : String) (want : Want) (text : List Char) : Except DirectiveError (List Char) :=
  let inner := stripParens text
  if inner.isEmpty then .error (.invalidExpression name want) else .ok inner

/-- A directive with one expression. -/
def onExpression (name : String) (want : Want) (make : Script.Expr → Instruction) : Directive :=
  fun text => do
    let inner ← required name want text
    let e ← lift (Script.parseExpression inner)
    .ok [make e]

/-- A directive with nothing behind its name. -/
def bare (name : String) (i : Instruction) : Directive := fun text =>
  if (stripParens text).isEmpty then .ok [i] else .error (.invalidExpression name .nothing)

/-- Put another view in this place: a name and perhaps more variables. -/
def embedView : Directive := fun text => do
  let inner ← required "include" .viewNameAndVars text
  let args ← lift (Script.parseArguments inner)
  match args with
  | [name] => .ok [.act (.embed name none)]
  | [name, vars] => .ok [.act (.embed name (some vars))]
  | _ => .error (.invalidExpression "include" .viewNameAndVars)

/-- Show a part by name, or without a name the one just ended or defined last. -/
def showPart : Directive := fun text => do
  let inner := stripParens text
  if inner.isEmpty then .ok [.act (.showPart none)]
  else
    let e ← lift (Script.parseExpression inner)
    .ok [.act (.showPart (some e))]

/-- A loop over items. -/
def forEach : Directive := fun text => do
  let inner ← required "foreach" .itemClause text
  match itemClause? inner with
  | none => .error (.invalidExpression "foreach" .itemClause)
  | some clause =>
    let subject ← lift (Script.parseExpression clause.subject)
    .ok [.forEach subject (clause.key.map String.ofList) (String.ofList clause.value)]

/-- A loop with a start, a condition that may be left out, and a step. -/
def forLoop : Directive := fun text => do
  let inner ← required "for" .loopClauses text
  match splitTopLevel ';' inner with
  | [start, condition, step] =>
    let start ← lift (Script.parseStatements start)
    let test := Text.trim condition
    let condition ← if test.isEmpty then .ok none
      else (lift (Script.parseExpression test)).map some
    let step ← lift (Script.parseStatements step)
    .ok [.forLoop start condition step]
  | _ => .error (.invalidExpression "for" .loopClauses)

/-- The end of a block. -/
def closing (kind : BlockKind) : String × Directive :=
  let i := Instruction.close kind
  (i.name, bare i.name i)

end Directive

open Directive in
/-- The directives that every template can use. -/
def directives : Directives :=
  [("extends", onExpression "extends" .viewName fun e => .act (.inherit e)),
    ("include", embedView),
    ("part", onExpression "part" .partName fun e => .act (.startPart e)),
    ("endpart", bare "endpart" (.act .endPart)),
    ("parent", bare "parent" (.act .parent)),
    ("show", showPart),
    ("if", onExpression "if" .condition .ifStart),
    ("elseif", onExpression "elseif" .condition .elseIf),
    ("else", bare "else" .otherwise),
    closing .ifElse,
    ("foreach", forEach),
    closing .forEach,
    ("for", forLoop),
    closing .forLoop,
    ("while", onExpression "while" .condition .whileLoop),
    closing .whileLoop]

end ViewTemplate
