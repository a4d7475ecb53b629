import ViewTemplate.View.Delimiters

/-!
# Template tokens

A template is literal text with constructs in it.  A construct stands between an opening and a
closing token; a directive starts with its name.
-/

namespace ViewTemplate.Template

/-- The kinds of construct that hold nothing but a body. -/
inductive BodyKind where
  | sanitized
  | unsanitized
  | comment
  | hostCode
  deriving Repr, DecidableEq

/-- The constructs of a template. -/
inductive Construct where
  | body (kind : BodyKind)
  | directive
  deriving Repr, DecidableEq

namespace Construct

/-- The construct that delimiters of a kind enclose. -/
def ofDelimiter : DelimiterKind → Construct
  | .sanitized => body .sanitized
  | .unsanitized => body .unsanitized
  | .directive => directive
  | .comment => body .comment

/-- The name of a construct in messages about text. -/
def name : Construct → String
  | body .sanitized => "sanitized tag"
  | body .unsanitized => "unsanitized tag"
  | directive => "directive"
  | body .comment => "comment"
  | body .hostCode => "host-code block"

/-- The name of a construct in trees and token kinds. -/
def label : Construct → String
  | body .sanitized => "SanitizedTag"
  | body .unsanitized => "UnsanitizedTag"
  | directive => "Directive"
  | body .comment => "Comment"
  | body .hostCode => "HostCode"

end Construct

inductive TokenKind where
  | opens (c : Construct)
  | closes (c : Construct)
  | directiveName
  | text
  deriving Repr, DecidableEq

namespace TokenKind

/-- All kinds of token, in the order in which they are listed. -/
def all : List TokenKind :=
  [opens .directive, directiveName, closes .directive, text,
    opens (.body .sanitized), closes (.body .sanitized),
    opens (.body .unsanitized), closes (.body .unsanitized),
    opens (.body .comment), closes (.body .comment),
    opens (.body .hostCode), closes (.body .hostCode)]

def label : TokenKind → String
  | opens c => c.label ++ "Open"
  | closes c => c.label ++ "Close"
  | directiveName => "DirectiveName"
  | text => "ExpressionText"

/-- The kind of token a name stands for. -/
def ofLabel? (label : String) : Option TokenKind :=
  all.find? (·.label == label)

/-- Whether a token opens a construct. -/
def isOpening : TokenKind → Bool
  | opens _ => true
  | _ => false

/-- Whether a token closes a construct. -/
def isClosing : TokenKind → Bool
  | closes _ => true
  | _ => false

/-- The construct a token belongs to; text belongs to none. -/
def construct? : TokenKind → Option Construct
  | opens c => some c
  | closes c => some c
  | directiveName => some .directive
  | text => none

end TokenKind

/-- A token and the line it starts on. -/
structure Token where
  kind : TokenKind
  text : String
  line : Nat
  deriving Repr, DecidableEq

end ViewTemplate.Template
