import ViewTemplate.Text.Blank

/-!
# Lines of a text

Line numbers count newline characters.  `trimBlankLines` drops the blank lines at both ends of a
text and says how many it dropped at the front, so that line numbers of what is kept can still be
given in the whole text.
-/

namespace ViewTemplate.Text

/-- The number of newline characters in a text. -/
def newlines (text : List Char) : Nat :=
  text.count '\n'

/-- The number of lines a text is cut into when each line keeps its newline: a last line without
one counts too, an empty one does not. -/
def lineCount (text : List Char) : Nat :=
  match text.getLast? with
  | none => 0
  | some '\n' => newlines text
  | some _ => newlines text + 1

/-- The part of a text after its last newline. -/
def lastLine (text : List Char) : List Char :=
  (text.reverse.takeWhile (· != '\n')).reverse

/-- The part of a text before its first newline. -/
def firstLine (text : List Char) : List Char :=
  text.takeWhile (· != '\n')

/-- The text without one carriage return at its end. -/
def dropCarriageReturn (text : List Char) : List Char :=
  match text.getLast? with
  | some '\r' => text.dropLast
  | _ => text

/-- Cut a text at every separator: the first part and the others. -/
def cutAt (separator : Char) : List Char → List Char × List (List Char)
  | [] => ([], [])
  | c :: text =>
    let (part, parts) := cutAt separator text
    if c = separator then ([], part :: parts) else (c :: part, parts)

/-- The parts of a text between separators. -/
def splitAt (separator : Char) (text : List Char) : List (List Char) :=
  let (part, parts) := cutAt separator text
  part :: parts

/-- What `trimBlankLines` leaves of a text. -/
structure TrimmedLines where
  /-- The text between the blank lines, without its last line end. -/
  kept : List Char
  /-- How many blank lines stood in front of it. -/
  skipped : Nat
  deriving Repr, DecidableEq

/-- Drop the blank lines at both ends of a text, and the end of the last line that is not blank.

The front margin is cut after its last newline, so the first kept line keeps its indentation; the
back margin is cut at its first newline, so the last kept line keeps its trailing blanks except for
one carriage return. -/
def trimBlankLines (source : List Char) : TrimmedLines :=
  let margin := source.takeWhile isBlank
  let body := source.dropWhile isBlank
  if body.isEmpty then
    ⟨[], lineCount source⟩
  else
    let tail := (body.reverse.takeWhile isBlank).reverse
    let kept := lastLine margin ++ trimEnd body ++ firstLine tail
    ⟨dropCarriageReturn kept, newlines margin⟩

/-- The kept text of `trimBlankLines`, on strings. -/
def trimBlankLinesString (source : String) : String :=
  String.ofList (trimBlankLines source.toList).kept

end ViewTemplate.Text
