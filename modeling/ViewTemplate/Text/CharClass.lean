/-!
# Classes of characters

Most characters of a class come in long runs of code points, so a class is given by its edges: the
code points at which membership changes, in increasing order.
-/

namespace ViewTemplate.Text

/-- A set of characters, given by the code points at which membership changes. -/
structure CharClass where
  /-- The first code point of a run that is in the class, the first after it that is not, and so
  on in increasing order. -/
  edges : Array Nat

/-- A character is in the class when an odd number of edges lie at or below it. -/
def CharClass.contains (k : CharClass) (c : Char) : Bool :=
  k.edges.foldl (fun inside edge => if edge ≤ c.toNat then !inside else inside) false

end ViewTemplate.Text
