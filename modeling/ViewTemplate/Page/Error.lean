import ViewTemplate.Directive.Basic
import ViewTemplate.Program.BlockError
import ViewTemplate.Template.Error
import ViewTemplate.View.Factory

/-!
# What can go wrong with a page

A page can fail at every stage: its template is no template, a directive refuses its expression, the
blocks do not nest, a script fails while it runs, or views call each other without end.
-/

namespace ViewTemplate

open ViewTemplate.Decimal (natText)

/-- Why a view cannot be rendered. -/
inductive PageError where
  | scan (e : Template.ScanError)
  | tree (e : Template.TreeError)
  | unknownDirective (name : String) (line : Nat)
  | directive (name : String) (line : Nat) (e : DirectiveError)
  /-- A tag or host code that cannot be read. -/
  | expression (line : Nat) (e : ScriptError)
  | block (e : Program.BlockError)
  /-- A script that failed while it ran. -/
  | script (line : Nat) (e : ScriptError)
  | unknownFunction (name : String) (line : Nat)
  | factory (e : FactoryError)
  | multipleParents (name parent : String) (line : Nat)
  | noOpenPart (found : String) (line : Nat)
  | unclosedPart (name : String) (line : Nat)
  /-- A view that comes up inside of itself, with the views between. -/
  | inheritanceCycle (chain : List String)
  | depthExceeded (maxDepth : Nat)

namespace PageError

def message : PageError → String
  | scan e => e.message
  | tree e => e.message
  | unknownDirective name line =>
    "no transpiler registered for directive '" ++ name ++ "' (line " ++ natText line ++ ")"
  | directive name line e =>
    "directive '" ++ name ++ "' on line " ++ natText line ++ ": " ++ e.message
  | expression line e => "invalid expression on line " ++ natText line ++ ": " ++ e.message
  | block e => e.message
  | script line e => "line " ++ natText line ++ ": " ++ e.message
  | unknownFunction name line =>
    "view function '" ++ name ++ "' is not registered (line " ++ natText line ++ ")"
  | factory e => e.message
  | multipleParents name parent line =>
    "view '" ++ name ++ "' already extends '" ++ parent ++ "' (line " ++ natText line ++ ")"
  | noOpenPart found line =>
    "'" ++ found ++ "' on line " ++ natText line ++ " has no open part"
  | unclosedPart name line =>
    "part '" ++ name ++ "' opened on line " ++ natText line ++ " is never ended"
  | inheritanceCycle chain => "inheritance cycle: " ++ String.intercalate " -> " chain
  | depthExceeded maxDepth => "views nest deeper than " ++ natText maxDepth ++ " levels"

/-- A script error on a line of a page.  A view function that is not known is an error of its
own. -/
def ofScript (line : Nat) : ScriptError → PageError
  | .viewFunction (.unknown name) => unknownFunction name line
  | e => script line e

end PageError

end ViewTemplate
