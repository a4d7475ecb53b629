import ViewTemplate.Page.Function
import ViewTemplate.Text.Markup
import ViewTemplate.Value.Conversion

/-!
# Elements of a page head

The view functions that every page can use: they write the elements of a page head.  Whatever goes
into an element is escaped first.
-/

namespace ViewTemplate.Head

open ViewTemplate.Decimal (natText)

/-- A value as text inside of markup. -/
def escaped (v : Value) : String :=
  Text.escapeMarkup v.display

/-- Why a function is refused an argument it does not have. -/
def missing (function : String) (position : Nat) : String :=
  function ++ "() is missing argument " ++ natText (position + 1)

/-- The argument at a position, counted from zero, as text inside of markup. -/
def textArg (function : String) (args : List Value) (position : Nat) : Except String String :=
  match args[position]? with
  | none => .error (missing function position)
  | some (.list _) | some (.map _) =>
    .error (function ++ "() expects a string for argument " ++ natText (position + 1))
  | some v => .ok (escaped v)

/-- The first argument, or each item of it, as text inside of markup. -/
def textArgs (function : String) (args : List Value) : Except String (List String) :=
  match args.head? with
  | some (.list items) => .ok (items.map escaped)
  | some _ => (textArg function args 0).map fun text => [text]
  | none => .error (missing function 0)

/-- Lines, one below the other. -/
def joinLines (lines : List String) : Value :=
  .text (String.intercalate "\n" lines)

def charset : ViewFunction := fun args => do
  let name ← textArg "charset" args 0
  .ok (.text ("<meta charset=\"" ++ name ++ "\">"))

/-- Links to style sheets. -/
def css : ViewFunction := fun args => do
  let paths ← textArgs "css" args
  .ok (joinLines (paths.map fun path => "<link href=\"" ++ path ++ "\" rel=\"stylesheet\">"))

def favicon : ViewFunction := fun args => do
  let path ← textArg "favicon" args 0
  .ok (.text ("<link href=\"" ++ path ++ "\" rel=\"shortcut icon\">"))

/-- A header of the page. -/
def httpEquiv : ViewFunction := fun args => do
  let name ← textArg "http_equiv" args 0
  let value ← textArg "http_equiv" args 1
  .ok (.text ("<meta http-equiv=\"" ++ name ++ "\" content=\"" ++ value ++ "\">"))

def metaDescription : ViewFunction := fun args => do
  let description ← textArg "meta_description" args 0
  .ok (.text ("<meta name=\"description\" content=\"" ++ description ++ "\">"))

def metaKeywords : ViewFunction := fun args => do
  let keywords ← textArgs "meta_keywords" args
  .ok (.text ("<meta name=\"keywords\" content=\"" ++ String.intercalate "," keywords ++ "\">"))

def pageTitle : ViewFunction := fun args => do
  let title ← textArg "page_title" args 0
  .ok (.text ("<title>" ++ title ++ "</title>"))

/-- Scripts of the page; the second argument is their type. -/
def script : ViewFunction := fun args => do
  let kind := match args[1]? with
    | some v => escaped v
    | none => "text/javascript"
  let paths ← textArgs "script" args
  .ok (joinLines (paths.map fun path =>
    "<script type=\"" ++ kind ++ "\" src=\"" ++ path ++ "\"></script>"))

/-- The functions for a page head, in the order of their names. -/
def functions : ViewFunctions :=
  [("charset", charset),
    ("css", css),
    ("favicon", favicon),
    ("http_equiv", httpEquiv),
    ("meta_description", metaDescription),
    ("meta_keywords", metaKeywords),
    ("page_title", pageTitle),
    ("script", script)]

end ViewTemplate.Head
