/-!
# Text inside markup

`escapeMarkup` writes a text so that it stands for itself inside markup: the five characters that
mean something there become entities.
-/

namespace ViewTemplate.Text

/-- A text with every occurrence of a character replaced. -/
def replaceChar (c : Char) (replacement text : List Char) : List Char :=
  text.flatMap fun d => if d = c then replacement else [d]

/-- The characters that mean something in markup and the entities they are written as, in the order
in which they are replaced.  Every entity has an ampersand, so ampersands come first. -/
def entities : List (Char × List Char) :=
  [('&', "&amp;".toList),
    ('<', "&lt;".toList),
    ('>', "&gt;".toList),
    ('"', "&quot;".toList),
    ('\'', "&#x27;".toList)]

/-- A text with every character that means something in markup written as an entity. -/
def escapeMarkup (text : String) : String :=
  String.ofList (entities.foldl (fun text entry => replaceChar entry.1 entry.2 text) text.toList)

end ViewTemplate.Text
