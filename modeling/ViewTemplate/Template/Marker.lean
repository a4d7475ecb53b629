import ViewTemplate.Template.Error
import ViewTemplate.Text.Search

/-!
# Markers

The markers of a template are the delimiters of all constructs, host code included.  Where several
opening markers fit, the longest one counts.
-/

namespace ViewTemplate.Template

/-- The delimiters of one construct, none of them empty. -/
structure Marker where
  construct : Construct
  opening : List Char
  closing : List Char
  opening_ne : opening ≠ []
  closing_ne : closing ≠ []

/-- The marker of a pair of delimiters, unless one of them is empty. -/
def Marker.ofPair? (c : Construct) (pair : DelimiterPair) : Option Marker :=
  if h : pair.opening.toList ≠ [] ∧ pair.closing.toList ≠ [] then
    some ⟨c, pair.opening.toList, pair.closing.toList, h.1, h.2⟩
  else none

/-- The marker of host code. -/
def hostCodeMarker : Marker where
  construct := .body .hostCode
  opening := hostCodeDelimiters.opening.toList
  closing := hostCodeDelimiters.closing.toList
  opening_ne := by decide
  closing_ne := by decide

/-- The markers of chosen delimiters, or the first kind with an empty one. -/
def chosenMarkers (d : Delimiters) : List DelimiterKind → Except DelimiterFault (List Marker)
  | [] => .ok []
  | kind :: rest =>
    match Marker.ofPair? (.ofDelimiter kind) (d.get kind) with
    | none => .error (.empty kind)
    | some m => (chosenMarkers d rest).map (m :: ·)

/-- The first two markers with the same opening. -/
def sharedOpening? : List Marker → Option (Marker × Marker)
  | [] => none
  | a :: rest =>
    match rest.find? (fun b => b.opening == a.opening) with
    | some b => some (a, b)
    | none => sharedOpening? rest

/-- All markers for chosen delimiters.  No delimiter may be empty, and no two constructs may open
with the same text. -/
def markersOf (d : Delimiters) : Except DelimiterFault (List Marker) :=
  match chosenMarkers d DelimiterKind.all with
  | .error fault => .error fault
  | .ok chosen =>
    let markers := chosen ++ [hostCodeMarker]
    match sharedOpening? markers with
    | some (a, b) => .error (.shared a.construct b.construct (String.ofList a.opening))
    | none => .ok markers

/-- The longest marker that a text starts with, and the text after it. -/
def opensWith? : List Marker → List Char → Option (Marker × List Char)
  | [], _ => none
  | m :: rest, text =>
    match Text.afterMarker? m.opening text, opensWith? rest text with
    | none, found => found
    | some after, none => some (m, after)
    | some after, some (longest, afterLongest) =>
      if m.opening.length < longest.opening.length then some (longest, afterLongest)
      else some (m, after)

/-- A text that starts with a marker is the marker and what follows it. -/
theorem opensWith?_eq_some {markers : List Marker} {text after : List Char} {m : Marker}
    (h : opensWith? markers text = some (m, after)) :
    m ∈ markers ∧ text = m.opening ++ after := by
  induction markers with
  | nil => simp [opensWith?] at h
  | cons first rest ih =>
    unfold opensWith? at h
    split at h
    · exact ⟨List.mem_cons_of_mem _ (ih h).1, (ih h).2⟩
    · rename_i found hfirst _
      obtain ⟨rfl, rfl⟩ := Prod.mk.inj (Option.some.inj h)
      exact ⟨List.mem_cons_self, Text.afterMarker?_eq_some hfirst⟩
    · rename_i found longest afterLongest hfirst hrest
      split at h
      · obtain ⟨rfl, rfl⟩ := Prod.mk.inj (Option.some.inj h)
        exact ⟨List.mem_cons_of_mem _ (ih hrest).1, (ih hrest).2⟩
      · obtain ⟨rfl, rfl⟩ := Prod.mk.inj (Option.some.inj h)
        exact ⟨List.mem_cons_self, Text.afterMarker?_eq_some hfirst⟩

/-- What follows a marker is shorter than the text that starts with it. -/
theorem opensWith?_length_lt {markers : List Marker} {text after : List Char} {m : Marker}
    (h : opensWith? markers text = some (m, after)) : after.length < text.length := by
  have hpos : 0 < m.opening.length := List.length_pos_iff.2 m.opening_ne
  rw [(opensWith?_eq_some h).2, List.length_append]
  omega

end ViewTemplate.Template
