import ViewTemplate.Text.Search
import ViewTemplate.Value.Bindings

/-!
# Parts

A part is a piece of output with a name.  Every generation of an inheritance chain may define it:
the view itself is generation 0, its parent generation 1, and so on.  A definition can leave a place
for the next outer one.

`Output` is the output of one view while it runs, with the parts that are open in it.
-/

namespace ViewTemplate

/-- What stands for the next outer definition inside of a part. -/
def parentPlace : String := "\x01quill:parent\x01"

/-- The definitions of the parts of a page, each with its generation, in ascending order. -/
structure PartTable where
  parts : Bindings (List (Nat × String)) := []
  /-- The name of the part defined last. -/
  lastDefined : Option String := none

namespace PartTable

/-- Put a definition in its place.  A second definition of a generation replaces the first. -/
def insertDefinition (generation : Nat) (text : String) :
    List (Nat × String) → List (Nat × String)
  | [] => [(generation, text)]
  | (g, t) :: rest =>
    if generation < g then (generation, text) :: (g, t) :: rest
    else if generation = g then (generation, text) :: rest
    else (g, t) :: insertDefinition generation text rest

def definitions (table : PartTable) (name : String) : List (Nat × String) :=
  (Bindings.find? table.parts name).getD []

def define (table : PartTable) (name : String) (generation : Nat) (text : String) : PartTable where
  parts := Bindings.bind table.parts name
    (insertDefinition generation text (table.definitions name))
  lastDefined := some name

/-- A text with another one in the place left for the outer definition. -/
def fillPlace (text outer : List Char) : List Char :=
  Text.replaceMarker parentPlace.toList outer text

/-- A text with outer definitions in its places, one after the other, until no place is left or the
definitions run out. -/
def fillPlaces : List Char → List (List Char) → List Char
  | text, [] => text
  | text, next :: outer =>
    if Text.hasMarker parentPlace.toList text then fillPlaces (fillPlace text next) outer else text

/-- A definition with the outer ones in their places; places left over at the end are empty. -/
def compose (nearest : List Char) (outer : List (List Char)) : List Char :=
  fillPlace (fillPlaces nearest outer) []

/-- The text of a part; one that is not defined is empty. -/
def resolve (table : PartTable) (name : String) : String :=
  match table.definitions name with
  | [] => ""
  | (_, nearest) :: outer =>
    String.ofList (compose nearest.toList (outer.map fun (_, text) => text.toList))

end PartTable

/-- A part that is being written, with the line it starts on. -/
structure OpenPart where
  name : String
  line : Nat
  text : String
  deriving Repr, DecidableEq

/-- The output of a view while it runs: its own text and the open parts, the innermost first. -/
structure Output where
  text : String := ""
  parts : List OpenPart := []
  deriving Repr, DecidableEq

namespace Output

/-- Write to the innermost open part, or to the view itself. -/
def write (out : Output) (s : String) : Output :=
  match out.parts with
  | [] => { out with text := out.text ++ s }
  | p :: rest => { out with parts := { p with text := p.text ++ s } :: rest }

def openPart (out : Output) (name : String) (line : Nat) : Output :=
  { out with parts := ⟨name, line, ""⟩ :: out.parts }

/-- Close the innermost open part. -/
def closePart? (out : Output) : Option (OpenPart × Output) :=
  match out.parts with
  | [] => none
  | p :: rest => some (p, { out with parts := rest })

end Output

end ViewTemplate
