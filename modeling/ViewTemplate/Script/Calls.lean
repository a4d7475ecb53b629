import ViewTemplate.Script.Token
import ViewTemplate.Text.Blank

/-!
# Marking view-function calls

A bare call in a template is a call of a view function, unless its name passes through to the plain
functions.  `markCalls` writes every such call in the explicit form, which names the view function
as a text: `price($x)` becomes `__view_fn("price", $x)`.  It works on the pieces of the script, so
everything else, junk included, is copied as it stands.
-/

namespace ViewTemplate.Script

/-- The word that calls a view function in the explicit form. -/
def viewCallWord : String := "__view_fn"

/-- Words that are no function names although a parenthesis may follow them. -/
def keywords : List String :=
  ["as", "echo", "else", "elseif", "false", "fn", "for", "foreach", "function", "if", "null",
    "return", "true", "while"]

/-- Whether a word before a parenthesis names a view function. -/
def isViewName (passes : String → Bool) (name : String) : Bool :=
  !(name == viewCallWord || keywords.contains name || passes name)

/-- Whether the token before a name leaves a call after it bare: members of a value or a class and
names in a definition are not calls of their own. -/
def allowsCall : Option Token → Bool
  | some (.symbol .arrow) => false
  | some (.symbol .doubleColon) => false
  | some (.word w) => !(w == "function" || w == "fn")
  | _ => true

/-- The piece of a symbol. -/
def symbolPiece (s : Symbol) : Piece :=
  ⟨.token (.symbol s), s.spelling⟩

/-- The front of a call in the explicit form: the word, the parenthesis and the name as a text, and
what separates the name from the arguments, if there are any. -/
def viewCallFront (name : String) (arguments : Bool) : List Piece :=
  [⟨.token (.word viewCallWord), viewCallWord.toList⟩, symbolPiece .openParen,
    ⟨.token (.text name), '"' :: name.toList ++ ['"']⟩] ++
  if arguments then [symbolPiece .comma, ⟨.blank, [' ']⟩] else []

/-- Whether pieces start with the parenthesis of a call, and if so whether the call has arguments:
it has none when the next token closes the parenthesis. -/
def callAhead? : List Piece → Option Bool
  | [] => none
  | p :: rest =>
    if p.isSymbol .openParen then
      match rest.findSome? Piece.token? with
      | some (.symbol .closeParen) => some false
      | _ => some true
    else none

/-- The name in a piece that starts a bare call of a view function, and whether the call has
arguments. -/
def viewCall? (passes : String → Bool) (before : Option Token) (p : Piece) (rest : List Piece) :
    Option (String × Bool) :=
  match p.kind, callAhead? rest with
  | .token (.word name), some arguments =>
    if allowsCall before && isViewName passes name then some (name, arguments) else none
  | _, _ => none

/-- What is left out of the copy at the current place. -/
inductive Omission where
  | nothing
  /-- The parenthesis of a call that has been written, and the blanks behind it if it has
  arguments. -/
  | paren (arguments : Bool)
  /-- Blanks, junk that is blank included. -/
  | blanks
  deriving Repr, DecidableEq

/-- Mark the calls in a row of pieces.  `before` is the token in front of them. -/
def markPieces (passes : String → Bool) : Omission → (before : Option Token) →
    List Piece → List Piece
  | _, _, [] => []
  | .paren arguments, _, _ :: rest =>
    markPieces passes (if arguments then .blanks else .nothing) (some (.symbol .openParen)) rest
  | omission, before, p :: rest =>
    if omission = .blanks ∧ p.text.all Text.isBlank then markPieces passes .blanks before rest
    else
      match viewCall? passes before p rest with
      | some (name, arguments) =>
        viewCallFront name arguments ++
          markPieces passes (.paren arguments) (some (.word name)) rest
      | none => p :: markPieces passes .nothing (p.token?.or before) rest

/-- The script with every bare call of a view function in the explicit form. -/
def markCalls (passes : String → Bool) (source : List Char) : List Char :=
  textOf (markPieces passes .nothing none (pieces source))

end ViewTemplate.Script
