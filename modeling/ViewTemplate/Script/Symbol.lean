import ViewTemplate.Text.Search

/-!
# Operators and punctuation of the script language

`Symbol.all` lists the symbols by the length of their spelling, longest first, so that the first one
that a text starts with is the longest one.
-/

namespace ViewTemplate.Script

/-- An operator or punctuation mark. -/
inductive Symbol where
  | identical
  | notIdentical
  | coalesce
  | doubleColon
  | arrow
  | fatArrow
  | equal
  | notEqual
  | lessEqual
  | greaterEqual
  | and
  | or
  | plusAssign
  | minusAssign
  | concatAssign
  | increment
  | decrement
  | question
  | colon
  | less
  | greater
  | not
  | assign
  | plus
  | minus
  | dot
  | star
  | slash
  | percent
  | openParen
  | closeParen
  | openBracket
  | closeBracket
  | comma
  | semicolon
  deriving Repr, DecidableEq

namespace Symbol

/-- Every symbol, those with the longest spelling first. -/
def all : List Symbol :=
  [identical, notIdentical,
    coalesce, doubleColon, arrow, fatArrow, equal, notEqual, lessEqual, greaterEqual, and, or,
    plusAssign, minusAssign, concatAssign, increment, decrement,
    question, colon, less, greater, not, assign, plus, minus, dot, star, slash, percent,
    openParen, closeParen, openBracket, closeBracket, comma, semicolon]

/-- How a symbol is written. -/
def spelling : Symbol → List Char
  | identical => ['=', '=', '=']
  | notIdentical => ['!', '=', '=']
  | coalesce => ['?', '?']
  | doubleColon => [':', ':']
  | arrow => ['-', '>']
  | fatArrow => ['=', '>']
  | equal => ['=', '=']
  | notEqual => ['!', '=']
  | lessEqual => ['<', '=']
  | greaterEqual => ['>', '=']
  | and => ['&', '&']
  | or => ['|', '|']
  | plusAssign => ['+', '=']
  | minusAssign => ['-', '=']
  | concatAssign => ['.', '=']
  | increment => ['+', '+']
  | decrement => ['-', '-']
  | question => ['?']
  | colon => [':']
  | less => ['<']
  | greater => ['>']
  | not => ['!']
  | assign => ['=']
  | plus => ['+']
  | minus => ['-']
  | dot => ['.']
  | star => ['*']
  | slash => ['/']
  | percent => ['%']
  | openParen => ['(']
  | closeParen => [')']
  | openBracket => ['[']
  | closeBracket => [']']
  | comma => [',']
  | semicolon => [';']

def label : Symbol → String
  | identical => "Identical"
  | notIdentical => "NotIdentical"
  | coalesce => "Coalesce"
  | doubleColon => "DoubleColon"
  | arrow => "Arrow"
  | fatArrow => "FatArrow"
  | equal => "Equal"
  | notEqual => "NotEqual"
  | lessEqual => "LessEqual"
  | greaterEqual => "GreaterEqual"
  | and => "And"
  | or => "Or"
  | plusAssign => "PlusAssign"
  | minusAssign => "MinusAssign"
  | concatAssign => "ConcatAssign"
  | increment => "Increment"
  | decrement => "Decrement"
  | question => "Question"
  | colon => "Colon"
  | less => "Less"
  | greater => "Greater"
  | not => "Not"
  | assign => "Assign"
  | plus => "Plus"
  | minus => "Minus"
  | dot => "Dot"
  | star => "Star"
  | slash => "Slash"
  | percent => "Percent"
  | openParen => "OpenParen"
  | closeParen => "CloseParen"
  | openBracket => "OpenBracket"
  | closeBracket => "CloseBracket"
  | comma => "Comma"
  | semicolon => "Semicolon"

/-- The longest symbol a text starts with, and what follows it. -/
def split? (text : List Char) : Option (Symbol × List Char) :=
  all.findSome? fun s => (Text.afterMarker? s.spelling text).map fun rest => (s, rest)

/-- No symbol is missing from the list. -/
theorem mem_all (s : Symbol) : s ∈ all := by
  cases s <;> decide

/-- A symbol split off a text is written at its front. -/
theorem split?_eq_some {text rest : List Char} {s : Symbol} (h : split? text = some (s, rest)) :
    text = s.spelling ++ rest := by
  obtain ⟨t, -, ht⟩ := List.exists_of_findSome?_eq_some h
  obtain ⟨r, hr, he⟩ := Option.map_eq_some_iff.1 ht
  obtain ⟨rfl, rfl⟩ := Prod.mk.inj he
  exact Text.afterMarker?_eq_some hr

end Symbol

end ViewTemplate.Script
