import ViewTemplate.Script.Describe
import ViewTemplate.Decimal.Layout

/-!
# What can go wrong in a script

Errors are causes: what was expected where, which value had the wrong kind, which name is not
defined.  The wording of each cause stands in one `message` function per type.
-/

namespace ViewTemplate

open ViewTemplate.Decimal (natText)

/-- Why the call of a view function failed. -/
inductive FunctionError where
  | unknown (name : String)
  | failed (name reason : String)
  deriving Repr, DecidableEq

def FunctionError.message : FunctionError → String
  | unknown name => "view function '" ++ name ++ "' is not registered"
  | failed name reason => "view function '" ++ name ++ "' failed: " ++ reason

namespace Script

/-- The text a parser was waiting for. -/
inductive Expectation where
  | colonInTernary
  | closeBracket
  | closeParen
  | propertyName
  | viewCallParen
  | viewFunctionName
  | staticName
  | staticParen
  | argumentEnd
  | entryEnd
  | statementEnd
  deriving Repr, DecidableEq

def Expectation.text : Expectation → String
  | colonInTernary => "':' in ternary"
  | closeBracket => "']'"
  | closeParen => "')'"
  | propertyName => "a property name after '->'"
  | viewCallParen => "'(' after view function call"
  | viewFunctionName => "the view function name"
  | staticName => "a name after '::'"
  | staticParen => "'(' after static call"
  | argumentEnd => "',' or ')' in argument list"
  | entryEnd => "',' or ']' in array literal"
  | statementEnd => "';' between statements"

/-- Why a source is no script. -/
inductive SyntaxFault where
  | unrecognised
  | unexpectedEnd
  | unexpectedSymbol (s : Symbol)
  | expected (what : Expectation)
  | trailing
  | bareWord (name : String)
  deriving Repr, DecidableEq

def SyntaxFault.message : SyntaxFault → String
  | unrecognised => "unrecognised character"
  | unexpectedEnd => "unexpected end of expression"
  | unexpectedSymbol s => "unexpected " ++ s.label
  | expected what => "expected " ++ what.text
  | trailing => "unexpected trailing input"
  | bareWord name => "bare identifier '" ++ name ++ "'"

/-- Why a value does not fit where it is used. -/
inductive TypeFault where
  | notIndexable (kind : Value.Kind)
  | notAssignable (kind : Value.Kind)
  | badListKey (key : Value)
  | notArithmetic (kind : Value.Kind)
  | notFinite
  | notIterable (kind : Value.Kind)

def TypeFault.message : TypeFault → String
  | notIndexable kind => "cannot index " ++ kind.name
  | notAssignable kind => "cannot assign into " ++ kind.name
  | badListKey key => "cannot index a list with " ++ key.json
  | notArithmetic kind => "unsupported operand " ++ kind.name ++ " for arithmetic"
  | notFinite => "arithmetic result is not a finite number"
  | notIterable kind => "foreach expects a collection, got " ++ kind.name

/-- The most items a range may have. -/
def maxRangeItems : Nat := 1000000

/-- The most bytes a repeated text may have. -/
def maxRepeatBytes : Nat := 16777216

/-- Why an argument is refused. -/
inductive ArgumentFault where
  | missing (position : Nat)
  | notCollection (got : Value)
  | notInteger (got : Value)
  | rangeTooLong (items : Nat)
  | negativeCount
  | resultTooLong
  | notVariables (kind : Value.Kind)

def ArgumentFault.message : ArgumentFault → String
  | missing position => "missing argument " ++ natText position
  | notCollection got => "expected an array, got " ++ got.json
  | notInteger (.text s) => "expected an integer, got \"" ++ s ++ "\""
  | notInteger got => "expected an integer, got " ++ got.json
  | rangeTooLong items =>
    "range of " ++ natText items ++ " items exceeds the limit of " ++ natText maxRangeItems
  | negativeCount => "repeat count must not be negative"
  | resultTooLong => "result exceeds the limit of " ++ natText maxRepeatBytes ++ " bytes"
  | notVariables kind => "expected a map of variables, got " ++ kind.name

end Script

open Script in
/-- Why a script cannot be read or run. -/
inductive ScriptError where
  | malformed (offset : Nat) (fault : SyntaxFault)
  | undefinedVariable (name : String)
  | undefinedIndex (index : String)
  | unknownNative (name : String)
  | invalidArgument (function : String) (fault : ArgumentFault)
  | wrongType (fault : TypeFault)
  | methodCall (name : String)
  | invalidAssignment (target : Expr)
  | divisionByZero
  | viewFunction (e : FunctionError)

def ScriptError.message : ScriptError → String
  | malformed offset fault => "syntax error at offset " ++ natText offset ++ ": " ++ fault.message
  | undefinedVariable name => "undefined variable $" ++ name
  | undefinedIndex index => "undefined index " ++ index
  | unknownNative name => "call to undefined function " ++ name ++ "()"
  | invalidArgument function fault => function ++ "(): " ++ fault.message
  | wrongType fault => "type error: " ++ fault.message
  | methodCall name => "method calls are not supported: ->" ++ name ++ "()"
  | invalidAssignment target => "cannot assign to " ++ target.describe
  | divisionByZero => "division by zero"
  | viewFunction e => e.message

end ViewTemplate
