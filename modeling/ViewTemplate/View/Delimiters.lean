/-!
# Delimiters

Four kinds of construct have delimiters that a view can choose: tags whose output is sanitized, tags
whose output is not, directives, and comments.  Host code has a fixed pair.
-/

namespace ViewTemplate

/-- The kinds of delimiter that a view can choose. -/
inductive DelimiterKind where
  | sanitized
  | unsanitized
  | directive
  | comment
  deriving Repr, DecidableEq

namespace DelimiterKind

/-- All kinds, in the order in which they are listed. -/
def all : List DelimiterKind :=
  [sanitized, unsanitized, directive, comment]

def name : DelimiterKind → String
  | sanitized => "sanitized tag"
  | unsanitized => "unsanitized tag"
  | directive => "directive"
  | comment => "comment"

end DelimiterKind

/-- A pair of texts that enclose a construct. -/
structure DelimiterPair where
  opening : String
  closing : String
  deriving Repr, DecidableEq

/-- The delimiters of a view.  Tags, directives and comments have defaults of their own. -/
structure Delimiters where
  sanitized : DelimiterPair := ⟨"\x7b\x7b", "\x7d\x7d"⟩
  unsanitized : DelimiterPair := ⟨"\x7b\x7b!", "!\x7d\x7d"⟩
  directive : DelimiterPair := ⟨"<%", "%>"⟩
  comment : DelimiterPair := ⟨"\x7b#", "#\x7d"⟩
  deriving Repr, DecidableEq

namespace Delimiters

def get (d : Delimiters) : DelimiterKind → DelimiterPair
  | .sanitized => d.sanitized
  | .unsanitized => d.unsanitized
  | .directive => d.directive
  | .comment => d.comment

/-- Choose the pair of a kind. -/
def set (d : Delimiters) (kind : DelimiterKind) (pair : DelimiterPair) : Delimiters :=
  match kind with
  | .sanitized => { d with sanitized := pair }
  | .unsanitized => { d with unsanitized := pair }
  | .directive => { d with directive := pair }
  | .comment => { d with comment := pair }

/-- A pair just chosen is the pair of its kind. -/
@[simp] theorem get_set_self (d : Delimiters) (kind : DelimiterKind) (pair : DelimiterPair) :
    (d.set kind pair).get kind = pair := by
  cases kind <;> rfl

/-- Choosing the pair of one kind leaves the others alone. -/
theorem get_set_of_ne (d : Delimiters) {kind other : DelimiterKind} (pair : DelimiterPair)
    (h : other ≠ kind) : (d.set kind pair).get other = d.get other := by
  cases kind <;> cases other <;> first | rfl | exact absurd rfl h

end Delimiters

/-- The fixed pair around host code. -/
def hostCodeDelimiters : DelimiterPair :=
  ⟨"<?host", "?>"⟩

end ViewTemplate
