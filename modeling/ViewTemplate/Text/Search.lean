/-!
# Searching text for a marker

Markers are non-empty pieces of text.  `splitAtMarker?` cuts a text at the first occurrence of a
marker, and `replaceMarker` replaces every occurrence, reading from the left and going on after each
one it replaced.
-/

namespace ViewTemplate.Text

/-- What follows `marker` in a text that starts with it. -/
def afterMarker? : (marker text : List Char) → Option (List Char)
  | [], text => some text
  | _ :: _, [] => none
  | m :: marker, c :: text => if m = c then afterMarker? marker text else none

/-- Nothing is lost: a text that starts with a marker is the marker and what follows it. -/
theorem afterMarker?_eq_some {marker text rest : List Char}
    (h : afterMarker? marker text = some rest) : text = marker ++ rest := by
  induction marker generalizing text with
  | nil => simpa [afterMarker?] using h
  | cons m marker ih =>
    cases text with
    | nil => simp [afterMarker?] at h
    | cons c text =>
      by_cases hc : m = c
      · simp only [afterMarker?, hc, if_pos] at h
        simp [hc, ih h]
      · simp [afterMarker?, hc] at h

/-- A marker followed by any text is found at the front. -/
@[simp] theorem afterMarker?_append (marker rest : List Char) :
    afterMarker? marker (marker ++ rest) = some rest := by
  induction marker with
  | nil => rfl
  | cons m marker ih => simp [afterMarker?, ih]

/-- The text before and after the first occurrence of a marker. -/
def splitAtMarker? (marker : List Char) : List Char → Option (List Char × List Char)
  | [] => if marker.isEmpty then some ([], []) else none
  | c :: text =>
    match afterMarker? marker (c :: text) with
    | some rest => some ([], rest)
    | none => (splitAtMarker? marker text).map fun (before, rest) => (c :: before, rest)

/-- A cut at a marker loses nothing. -/
theorem splitAtMarker?_eq_some {marker text before rest : List Char}
    (h : splitAtMarker? marker text = some (before, rest)) : text = before ++ marker ++ rest := by
  induction text generalizing before with
  | nil =>
    by_cases hm : marker.isEmpty
    · simp only [splitAtMarker?, hm, if_true, Option.some.injEq, Prod.mk.injEq] at h
      obtain ⟨rfl, rfl⟩ := h
      simpa using hm
    · simp [splitAtMarker?, hm] at h
  | cons c text ih =>
    cases hm : afterMarker? marker (c :: text) with
    | some after =>
      simp only [splitAtMarker?, hm, Option.some.injEq, Prod.mk.injEq] at h
      obtain ⟨rfl, rfl⟩ := h
      simpa using afterMarker?_eq_some hm
    | none =>
      simp only [splitAtMarker?, hm] at h
      obtain ⟨⟨b, r⟩, hs, hb⟩ := Option.map_eq_some_iff.1 h
      simp only [Prod.mk.injEq] at hb
      obtain ⟨rfl, rfl⟩ := hb
      simp [ih hs]

/-- What follows a marker that is not empty is shorter than the whole. -/
theorem splitAtMarker?_length_lt {marker text before rest : List Char} (hm : ¬marker.isEmpty)
    (h : splitAtMarker? marker text = some (before, rest)) : rest.length < text.length := by
  have hlen := congrArg List.length (splitAtMarker?_eq_some h)
  have hpos : 0 < marker.length := List.length_pos_iff.2 (by simpa using hm)
  simp only [List.length_append] at hlen
  omega

/-- The text with every occurrence of a marker replaced, reading from the left.  An empty marker
occurs nowhere. -/
def replaceMarker (marker replacement : List Char) (text : List Char) : List Char :=
  if hm : marker.isEmpty then text
  else
    match h : splitAtMarker? marker text with
    | none => text
    | some (before, rest) =>
      have := splitAtMarker?_length_lt hm h
      before ++ replacement ++ replaceMarker marker replacement rest
termination_by text.length

/-- Whether a marker occurs in a text. -/
def hasMarker (marker text : List Char) : Bool :=
  (splitAtMarker? marker text).isSome

end ViewTemplate.Text
