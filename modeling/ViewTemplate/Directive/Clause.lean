import ViewTemplate.Text.Blank
import ViewTemplate.Text.Letter

/-!
# The expression of a directive

What follows the name of a directive is plain text.  These functions take it apart: they remove the
parentheses around it, split it at separators that stand outside of quotes and brackets, and read
the clause of a loop over items.
-/

namespace ViewTemplate.Directive

/-- Where a scan stands with respect to quotes. -/
inductive Quoting where
  | outside
  | inside (quote : Char)
  /-- Behind a backslash inside of quotes. -/
  | escaped (quote : Char)
  deriving Repr, DecidableEq

/-- Move over one character inside of quotes. -/
def insideNext (quote c : Char) : Quoting :=
  if c = '\\' then .escaped quote else if c = quote then .outside else .inside quote

/-! ## Parentheses -/

/-- Cut a text at the parenthesis that closes `depth + 1` open ones: the text before it and the text
behind it. -/
def cutAtClose? : Quoting → (depth : Nat) → List Char → Option (List Char × List Char)
  | _, _, [] => none
  | .inside quote, depth, c :: text =>
    (cutAtClose? (insideNext quote c) depth text).map fun (before, rest) => (c :: before, rest)
  | .escaped quote, depth, c :: text =>
    (cutAtClose? (.inside quote) depth text).map fun (before, rest) => (c :: before, rest)
  | .outside, depth, c :: text =>
    if c = ')' ∧ depth = 0 then some ([], text)
    else
      let state := if c = '"' ∨ c = '\'' then Quoting.inside c else .outside
      let depth := if c = '(' then depth + 1 else if c = ')' then depth - 1 else depth
      (cutAtClose? state depth text).map fun (before, rest) => (c :: before, rest)

/-- The text without blanks around it, and without one pair of parentheses that encloses all of
it. -/
def stripParens (text : List Char) : List Char :=
  match Text.trim text with
  | '(' :: inner =>
    match cutAtClose? .outside 0 inner with
    | some (enclosed, []) => Text.trim enclosed
    | _ => '(' :: inner
  | trimmed => trimmed

/-! ## Separators -/

/-- Split a text at a separator that stands outside of quotes and brackets: the first part and the
others.  `depth` is the number of open brackets. -/
def splitFrom (separator : Char) : Quoting → (depth : Nat) → List Char →
    List Char × List (List Char)
  | _, _, [] => ([], [])
  | .inside quote, depth, c :: text =>
    let (part, parts) := splitFrom separator (insideNext quote c) depth text
    (c :: part, parts)
  | .escaped quote, depth, c :: text =>
    let (part, parts) := splitFrom separator (.inside quote) depth text
    (c :: part, parts)
  | .outside, depth, c :: text =>
    if c = '"' ∨ c = '\'' then
      let (part, parts) := splitFrom separator (.inside c) depth text
      (c :: part, parts)
    else if c = '(' ∨ c = '[' then
      let (part, parts) := splitFrom separator .outside (depth + 1) text
      (c :: part, parts)
    else if c = ')' ∨ c = ']' then
      let (part, parts) := splitFrom separator .outside (depth - 1) text
      (c :: part, parts)
    else if c = separator ∧ depth = 0 then
      let (part, parts) := splitFrom separator .outside depth text
      ([], part :: parts)
    else
      let (part, parts) := splitFrom separator .outside depth text
      (c :: part, parts)

/-- Split a text at every separator that stands outside of quotes and brackets. -/
def splitTopLevel (separator : Char) (text : List Char) : List (List Char) :=
  let (part, parts) := splitFrom separator .outside 0 text
  part :: parts

/-! ## Loops over items -/

/-- What a loop over items goes through and the names it binds. -/
structure ItemClause where
  subject : List Char
  key : Option (List Char)
  value : List Char
  deriving Repr, DecidableEq

/-- The text behind at least one blank. -/
def afterBlanks? : List Char → Option (List Char)
  | c :: text => if Text.isBlank c then some (text.dropWhile Text.isBlank) else none
  | [] => none

/-- The name behind a dollar sign, and the text behind the name and the blanks that follow it. -/
def loopName? : List Char → Option (List Char × List Char)
  | '$' :: text =>
    let name := text.takeWhile Text.isWordChar
    if name.isEmpty then none
    else some (name, (text.dropWhile Text.isWordChar).dropWhile Text.isBlank)
  | _ => none

/-- The names in `as $value` or `as $key => $value`, if a text is nothing else.  Blanks must stand
on both sides of `as`. -/
def loopNames? (text : List Char) : Option (Option (List Char) × List Char) :=
  match afterBlanks? text with
  | some ('a' :: 's' :: text) =>
    match (afterBlanks? text).bind loopName? with
    | some (value, []) => some (none, value)
    | some (key, '=' :: '>' :: text) =>
      match loopName? (text.dropWhile Text.isBlank) with
      | some (value, []) => some (some key, value)
      | _ => none
    | _ => none
  | _ => none

/-- The clause of a loop over items.  The subject is as short as it can be, but not empty. -/
def itemClause? : List Char → Option ItemClause
  | [] => none
  | c :: text =>
    match loopNames? text with
    | some (key, value) => some ⟨[c], key, value⟩
    | none => (itemClause? text).map fun clause => { clause with subject := c :: clause.subject }

end ViewTemplate.Directive
