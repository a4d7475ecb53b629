import ViewTemplate.Script.Expr

/-!
# Instructions

Every node of a template becomes instructions.  An action does something by itself; the other
instructions open, divide and close blocks.
-/

namespace ViewTemplate.Program

open ViewTemplate.Script (Expr Stmt)

/-- What a template can do in one step. -/
inductive Action where
  | text (s : String)
  | echo (e : Expr) (sanitize : Bool)
  | run (statements : List Stmt)
  /-- Name the parent of the view. -/
  | inherit (name : Expr)
  /-- Put another view in this place, with more variables. -/
  | embed (name : Expr) (vars : Option Expr)
  | startPart (name : Expr)
  | endPart
  /-- The place of the outer definition inside of a part. -/
  | parent
  /-- Show a part, or without a name the one just ended or defined last. -/
  | showPart (name : Option Expr)

def Action.name : Action → String
  | text _ => "text"
  | echo _ _ => "echo"
  | run _ => "exec"
  | inherit _ => "extends"
  | embed _ _ => "include"
  | startPart _ => "part"
  | endPart => "endpart"
  | parent => "parent"
  | showPart _ => "show"

inductive BlockKind where
  | ifElse
  | forEach
  | forLoop
  | whileLoop
  deriving Repr, DecidableEq

def BlockKind.name : BlockKind → String
  | ifElse => "if"
  | forEach => "foreach"
  | forLoop => "for"
  | whileLoop => "while"

/-- What nodes and directives become. -/
inductive Instruction where
  | act (a : Action)
  | comment (s : String)
  | ifStart (condition : Expr)
  | elseIf (condition : Expr)
  | otherwise
  | forEach (subject : Expr) (key : Option String) (value : String)
  | forLoop (start : List Stmt) (condition : Option Expr) (step : List Stmt)
  | whileLoop (condition : Expr)
  /-- The end of a block. -/
  | close (kind : BlockKind)

def Instruction.name : Instruction → String
  | act a => a.name
  | comment _ => "comment"
  | ifStart _ => "if"
  | elseIf _ => "elseif"
  | otherwise => "else"
  | forEach _ _ _ => "foreach"
  | forLoop _ _ _ => "for"
  | whileLoop _ => "while"
  | close kind => "end" ++ kind.name

/-- Something that stands on a line. -/
structure Lined (α : Type) where
  item : α
  line : Nat

end ViewTemplate.Program
