import ViewTemplate.Decimal.Layout
import ViewTemplate.Template.Node

/-!
# What can be wrong with a template

`ScanError` is about the text of a template and its delimiters, `TreeError` about a row of tokens.
-/

namespace ViewTemplate.Template

open ViewTemplate.Decimal (natText)

/-- Why delimiters cannot be used. -/
inductive DelimiterFault where
  | empty (kind : DelimiterKind)
  /-- Two constructs open with the same text. -/
  | shared (first second : Construct) (opening : String)
  deriving Repr, DecidableEq

def DelimiterFault.message : DelimiterFault → String
  | empty kind => kind.name ++ " delimiters must not be empty"
  | shared first second opening =>
    first.name ++ " and " ++ second.name ++ " share the open marker '" ++ opening ++ "'"

/-- Why a text is no template. -/
inductive ScanError where
  /-- A construct whose end is missing, with the line it starts on. -/
  | unterminated (c : Construct) (line : Nat)
  /-- A closing bracket that closes nothing, with its own line. -/
  | unbalancedBracket (c : Construct) (bracket : Char) (line : Nat)
  | missingDirectiveName (line : Nat)
  | invalidDelimiters (fault : DelimiterFault)
  deriving Repr, DecidableEq

def ScanError.message : ScanError → String
  | unterminated c line => "unterminated " ++ c.name ++ " starting on line " ++ natText line
  | unbalancedBracket c bracket line =>
    "unbalanced '" ++ bracket.toString ++ "' in " ++ c.name ++ " on line " ++ natText line
  | missingDirectiveName line => "directive on line " ++ natText line ++ " has no name"
  | invalidDelimiters fault => "invalid delimiters: " ++ fault.message

/-- Why the contents of a construct are refused. -/
inductive ContentFault where
  | noName
  | notNameAndExpression
  | notOneExpression
  deriving Repr, DecidableEq

def ContentFault.message : ContentFault → String
  | noName => "missing directive name"
  | notNameAndExpression => "expected a name and at most one expression"
  | notOneExpression => "expected exactly one expression"

/-- Why a row of tokens is no tree. -/
inductive TreeError where
  | unbalancedClose (token : String) (line : Nat)
  | mismatchedClose (token : String) (kind : NodeKind) (line : Nat)
  | unexpectedToken (token : String) (line : Nat)
  | malformed (kind : NodeKind) (line : Nat) (fault : ContentFault)
  | unclosed (kind : NodeKind) (line : Nat)
  deriving Repr, DecidableEq

def TreeError.message : TreeError → String
  | unbalancedClose token line => "'" ++ token ++ "' on line " ++ natText line ++ " closes nothing"
  | mismatchedClose token kind line =>
    "'" ++ token ++ "' on line " ++ natText line ++ " does not close the open " ++ kind.label
  | unexpectedToken token line => "unexpected '" ++ token ++ "' on line " ++ natText line
  | malformed kind line fault =>
    "malformed " ++ kind.label ++ " on line " ++ natText line ++ ": " ++ fault.message
  | unclosed kind line => kind.label ++ " opened on line " ++ natText line ++ " is never closed"

end ViewTemplate.Template
