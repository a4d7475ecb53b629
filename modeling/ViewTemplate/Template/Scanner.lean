import ViewTemplate.Script.Native
import ViewTemplate.Template.Segment

/-!
# Cutting a template into segments

Literal text runs up to the next opening marker.  A backslash right in front of a marker makes the
marker literal; two backslashes in front of a marker stand for one, and the marker counts.
-/

namespace ViewTemplate.Template

open ViewTemplate.Text (newlines)

/-! ## Literal text -/

/-- The next unit of literal text. -/
structure TextUnit where
  /-- What stands in the template. -/
  raw : List Char
  /-- What it shows. -/
  shown : List Char
  /-- The text behind it. -/
  rest : List Char

/-- The unit of literal text at the front of `c :: text`, if that is literal at all: an escaped
backslash, an escaped marker or one character.  At a marker or at the end there is none. -/
def textUnit? (markers : List Marker) : List Char → Option TextUnit
  | [] => none
  | c :: text =>
    let plain : Option TextUnit :=
      match opensWith? markers (c :: text) with
      | some _ => none
      | none => some ⟨[c], [c], text⟩
    if c = '\\' then
      match (match text with
        | '\\' :: escaped => if (opensWith? markers escaped).isSome then some escaped else none
        | _ => none) with
      | some escaped => some ⟨['\\', '\\'], ['\\'], escaped⟩
      | none =>
        match opensWith? markers text with
        | some (m, after) => some ⟨'\\' :: m.opening, m.opening, after⟩
        | none => plain
    else plain

/-- A unit of literal text is the text it was read from, and it is not empty. -/
theorem textUnit?_eq_some {markers : List Marker} {text : List Char} {unit : TextUnit}
    (h : textUnit? markers text = some unit) :
    text = unit.raw ++ unit.rest ∧ unit.raw ≠ [] ∧ unit.shown ≠ [] := by
  cases text with
  | nil => simp [textUnit?] at h
  | cons c text =>
    have plain : ∀ {u : TextUnit}, (match opensWith? markers (c :: text) with
        | some _ => none
        | none => some (⟨[c], [c], text⟩ : TextUnit)) = some u →
        c :: text = u.raw ++ u.rest ∧ u.raw ≠ [] ∧ u.shown ≠ [] := by
      intro u hu
      split at hu
      · simp at hu
      · obtain rfl := Option.some.inj hu
        simp
    simp only [textUnit?] at h
    split at h
    · rename_i hc
      split at h
      · rename_i escaped hesc
        obtain rfl := Option.some.inj h
        split at hesc
        · split at hesc
          · obtain rfl := Option.some.inj hesc
            simp [hc]
          · simp at hesc
        · simp at hesc
      · split at h
        · rename_i m after hm
          obtain rfl := Option.some.inj h
          exact ⟨by simp [hc, (opensWith?_eq_some hm).2], by simp, m.opening_ne⟩
        · exact plain h
    · exact plain h

/-- The text behind a unit is shorter than the text before it. -/
theorem textUnit?_length_lt {markers : List Marker} {text : List Char} {unit : TextUnit}
    (h : textUnit? markers text = some unit) : unit.rest.length < text.length := by
  obtain ⟨htext, hraw, _⟩ := textUnit?_eq_some h
  have hpos : 0 < unit.raw.length := List.length_pos_iff.2 hraw
  rw [htext, List.length_append]
  omega

/-- The run of literal text at the front, up to the next marker or the end. -/
def readText (markers : List Marker) (text : List Char) : TextUnit :=
  match h : textUnit? markers text with
  | none => ⟨[], [], text⟩
  | some unit =>
    have := textUnit?_length_lt h
    let run := readText markers unit.rest
    ⟨unit.raw ++ run.raw, unit.shown ++ run.shown, run.rest⟩
termination_by text.length

/-- A run of literal text is the text it was read from. -/
theorem readText_source (markers : List Marker) (text : List Char) :
    (readText markers text).raw ++ (readText markers text).rest = text := by
  fun_induction readText markers text with
  | case1 => rfl
  | case2 text unit h _ run ih =>
    calc unit.raw ++ run.raw ++ run.rest = unit.raw ++ (run.raw ++ run.rest) := by simp
      _ = unit.raw ++ unit.rest := by rw [ih]
      _ = text := (textUnit?_eq_some h).1.symm

/-- The text behind a run is no longer than the text before it. -/
theorem readText_length_le (markers : List Marker) (text : List Char) :
    (readText markers text).rest.length ≤ text.length := by
  have hlen := congrArg List.length (readText_source markers text)
  rw [List.length_append] at hlen
  omega

/-! ## Segments -/

/-- The segment of a run of literal text, if it is not empty. -/
def textSegment (run : TextUnit) (line : Nat) : List Segment :=
  if run.shown.isEmpty then [] else [.text run.raw run.shown line]

/-- Where the line counter stands behind a construct: newlines in its markers are passed over. -/
def Segment.lineAfter : Segment → Nat
  | .text _ shown line => line + newlines shown
  | .block _ _ body _ line => line + newlines body
  | .directive _ lead _ body _ line => line + newlines lead + newlines body

/-- The counter behind a tag or host code is where the scan of its body has left it. -/
theorem lineAfter_of_readBlock {m : Marker} {kind : BodyKind} {line : Nat} {text rest : List Char}
    {segment : Segment} (h : readBlock m kind line text = .ok (segment, rest)) :
    segment.lineAfter = (scanBodyFrom m.closing line (.code []) text).2 := by
  unfold readBlock at h
  split at h
  · rename_i hb
    obtain ⟨rfl, rfl⟩ := Prod.mk.inj (Except.ok.inj h)
    rw [scanBodyFrom_of_readBody hb]
    rfl
  · simp at h

/-- The counter behind a directive is where the scan of its body has left it. -/
theorem lineAfter_of_readNamed {m : Marker} {line : Nat} {lead text rest : List Char}
    {segment : Segment} (h : readNamed m line lead text = .ok (segment, rest)) :
    segment.lineAfter = (scanBodyFrom m.closing (line + newlines lead) (.code [])
      (text.dropWhile isNameChar)).2 := by
  unfold readNamed at h
  split at h
  · simp at h
  · split at h
    · simp at h
    · split at h
      · rename_i hb
        obtain ⟨rfl, rfl⟩ := Prod.mk.inj (Except.ok.inj h)
        rw [scanBodyFrom_of_readBody hb]
        rfl
      · simp at h

/-- Cut a text that starts on a line into segments. -/
def segmentsFrom (markers : List Marker) (line : Nat) (text : List Char) :
    Except ScanError (List Segment) :=
  let run := readText markers text
  let constructLine := line + newlines run.shown
  match h : opensWith? markers run.rest with
  | none => .ok (textSegment run line)
  | some (m, after) =>
    match hc : readConstruct m constructLine after with
    | .error e => .error e
    | .ok (segment, rest) =>
      have : rest.length < text.length := by
        have := readConstruct_length_le hc
        have := opensWith?_length_lt h
        have : run.rest.length ≤ text.length := readText_length_le markers text
        omega
      match segmentsFrom markers segment.lineAfter rest with
      | .error e => .error e
      | .ok segments => .ok (textSegment run line ++ segment :: segments)
termination_by text.length

/-- Cut a template into segments.  Blank lines at both ends are dropped first. -/
def segments (markers : List Marker) (source : List Char) : Except ScanError (List Segment) :=
  let trimmed := Text.trimBlankLines source
  segmentsFrom markers (1 + trimmed.skipped) trimmed.kept

/-! ## Tokens -/

/-- Whether a bare call is left to the plain functions: those of the script language and those named
besides. -/
def passesThrough (names : List String) (name : String) : Bool :=
  Script.Native.names.contains name || names.contains name

/-- The tokens of a template, for chosen delimiters.  Bare calls become calls of view functions
unless their names are among `names` or those of the plain functions. -/
def tokens (delimiters : Delimiters) (names : List String) (source : String) :
    Except ScanError (List Token) :=
  match markersOf delimiters with
  | .error fault => .error (.invalidDelimiters fault)
  | .ok markers =>
    (segments markers source.toList).map fun cut =>
      cut.flatMap (Segment.tokens (passesThrough names))

end ViewTemplate.Template
