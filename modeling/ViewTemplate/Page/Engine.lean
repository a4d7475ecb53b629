import ViewTemplate.Page.Error
import ViewTemplate.Page.Head
import ViewTemplate.Program.Linked
import ViewTemplate.Script.Native
import ViewTemplate.Template.Arena
import ViewTemplate.Template.Scanner

/-!
# The engine of a page

An engine knows the directives and functions that templates may use and how output is sanitized.  It
turns a view into a linked program.
-/

namespace ViewTemplate

open ViewTemplate.Program (Action Instruction Lined Linked)
open ViewTemplate.Template (Node)

/-- What the rendering of a page depends on besides the views. -/
structure Engine where
  directives : Directives := ViewTemplate.directives
  functions : ViewFunctions := Head.functions
  /-- Plain functions besides those of the script language, which come first. -/
  natives : ViewFunctions := []
  sanitize : String → String := Text.escapeMarkup
  /-- How many views may be rendered inside of one another. -/
  maxDepth : Nat := 32

namespace Engine

def callPlain (engine : Engine) (name : String) (args : List Value) : Except ScriptError Value :=
  match Script.Native.find? name with
  | some native => native.run args
  | none =>
    if Bindings.has engine.natives name then Script.liftFunction (engine.natives.call name args)
    else .error (.unknownNative name)

/-- Where the calls of the scripts of a page go. -/
def calls (engine : Engine) : Script.Functions where
  plain := engine.callPlain
  view := engine.functions.call

/-- The instructions of a node. -/
def instructionsOf (engine : Engine) : Node → Except PageError (List (Lined Instruction))
  | .text shown line => .ok [⟨.act (.text shown), line⟩]
  | .block .comment body line => .ok [⟨.comment body.text, line⟩]
  | .block .hostCode body line =>
    match Script.parseStatements body.text.toList with
    | .error e => .error (.expression line e)
    | .ok statements => .ok [⟨.act (.run statements), line⟩]
  | .block kind body line =>
    match Script.parseExpression body.text.toList with
    | .error e => .error (.expression line e)
    | .ok e => .ok [⟨.act (.echo e (decide (kind = .sanitized))), line⟩]
  | .directive name argument line =>
    match Bindings.find? engine.directives name.text with
    | none => .error (.unknownDirective name.text line)
    | some make =>
      match make ((argument.map (·.text)).getD "").toList with
      | .error e => .error (.directive name.text line e)
      | .ok instructions => .ok (instructions.map fun i => ⟨i, line⟩)

/-- The instructions of a row of nodes. -/
def instructionsOfAll (engine : Engine) : List Node → Except PageError (List (Lined Instruction))
  | [] => .ok []
  | node :: rest => do
    let first ← engine.instructionsOf node
    let others ← engine.instructionsOfAll rest
    .ok (first ++ others)

/-- The nodes of the template of a view. -/
def nodes (engine : Engine) (view : View) : Except PageError (List Node) :=
  match Template.tokens view.delimiters (Bindings.keys engine.natives) view.contents with
  | .error e => .error (.scan e)
  | .ok tokens =>
    match Template.nodesOf tokens with
    | .error e => .error (.tree e)
    | .ok nodes => .ok nodes

/-- The linked program of a view. -/
def program (engine : Engine) (view : View) : Except PageError Linked := do
  let nodes ← engine.nodes view
  let instructions ← engine.instructionsOfAll nodes
  match Program.assemble instructions with
  | .error e => .error (.block e)
  | .ok linked => .ok linked

end Engine

end ViewTemplate
