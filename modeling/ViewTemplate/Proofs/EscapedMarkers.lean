import Mathlib.Data.List.Nodup
import Mathlib.Tactic.Common
import ViewTemplate.Proofs.EmbeddedScripts
import ViewTemplate.Proofs.Tiling

/-!
# Backslashes in front of a marker

The scanner looks at each backslash with what stands behind it: a marker, or one more backslash and
then a marker.  So a long run of backslashes is read one by one until two are left, and the marker
behind it is met by the last of them only.  `segmentsFrom_backslashes` says what comes out for a run
of any length: one backslash makes the marker literal, and of two or more exactly one is left out
and the marker opens its construct.

The delimiters are any that are accepted, as long as no marker starts with a backslash itself.  That
they are accepted matters where markers are prefixes of each other: no two of them open alike, so
the longest that fits is one marker (`opensWith?_of_longest`).
-/

namespace ViewTemplate.Text

lemma afterMarker?_eq_none_iff {marker text : List Char} :
    afterMarker? marker text = none ↔ ¬ marker <+: text := by
  constructor
  · rintro hnone ⟨rest, rfl⟩
    simp at hnone
  · intro hmarker
    cases h : afterMarker? marker text with
    | none => rfl
    | some rest => exact absurd ⟨rest, (afterMarker?_eq_some h).symm⟩ hmarker

end ViewTemplate.Text

namespace ViewTemplate.Template

open ViewTemplate.Text (newlines)

/-! ## The longest marker that fits -/

lemma opensWith?_eq_none_iff {markers : List Marker} {text : List Char} :
    opensWith? markers text = none ↔ ∀ m ∈ markers, ¬ m.opening <+: text := by
  induction markers with
  | nil => simp [opensWith?]
  | cons first rest ih =>
    rw [List.forall_mem_cons, ← ih, ← Text.afterMarker?_eq_none_iff, opensWith?]
    cases Text.afterMarker? first.opening text <;> cases opensWith? rest text <;> simp
    split <;> simp

lemma length_le_of_opensWith? {markers : List Marker} {text after : List Char} {m other : Marker}
    (h : opensWith? markers text = some (m, after)) (hother : other ∈ markers)
    (hfits : other.opening <+: text) : other.opening.length ≤ m.opening.length := by
  induction markers generalizing m after with
  | nil => simp at hother
  | cons first rest ih =>
    unfold opensWith? at h
    -- the other marker is the first one or one of the rest, and the longest of both is taken
    obtain rfl | hother := List.mem_cons.1 hother
    · split at h
      · rename_i hfirst
        exact absurd hfits (Text.afterMarker?_eq_none_iff.1 hfirst)
      · obtain ⟨rfl, -⟩ := Prod.mk.inj (Option.some.inj h)
        exact le_rfl
      · split at h <;> obtain ⟨rfl, -⟩ := Prod.mk.inj (Option.some.inj h)
        · exact le_of_lt ‹_›
        · exact le_rfl
    · split at h
      · exact ih h hother
      · rename_i hrest
        exact absurd hfits (opensWith?_eq_none_iff.1 hrest other hother)
      · rename_i hrest
        have hle := ih hrest hother
        split at h <;> obtain ⟨rfl, -⟩ := Prod.mk.inj (Option.some.inj h) <;> omega

lemma nodup_of_sharedOpening? {markers : List Marker} (h : sharedOpening? markers = none) :
    (markers.map Marker.opening).Nodup := by
  induction markers with
  | nil => exact .nil
  | cons first rest ih =>
    unfold sharedOpening? at h
    split at h
    · simp at h
    · rename_i hnone
      rw [List.map_cons, List.nodup_cons]
      refine ⟨?_, ih h⟩
      simpa using List.find?_eq_none.1 hnone

lemma nodup_openings {delimiters : Delimiters} {markers : List Marker}
    (h : markersOf delimiters = .ok markers) : (markers.map Marker.opening).Nodup := by
  unfold markersOf at h
  split at h
  · simp at h
  · dsimp only at h
    split at h
    · simp at h
    · rename_i hshared
      obtain rfl := Except.ok.inj h
      exact nodup_of_sharedOpening? hshared

/-- Among markers that open differently, the longest that fits is the one that opens. -/
lemma opensWith?_of_nodup {markers : List Marker} (h : (markers.map Marker.opening).Nodup)
    {m : Marker} (hm : m ∈ markers) {post : List Char}
    (hlongest : ∀ other ∈ markers, other.opening <+: m.opening ++ post →
      other.opening.length ≤ m.opening.length) :
    opensWith? markers (m.opening ++ post) = some (m, post) := by
  have hfits : m.opening <+: m.opening ++ post := List.prefix_append _ _
  cases hfound : opensWith? markers (m.opening ++ post) with
  | none => exact absurd hfits (opensWith?_eq_none_iff.1 hfound m hm)
  | some found =>
    obtain ⟨other, after⟩ := found
    obtain ⟨hother, htext⟩ := opensWith?_eq_some hfound
    have hlength : other.opening.length = m.opening.length :=
      le_antisymm (hlongest other hother ⟨after, htext.symm⟩)
        (length_le_of_opensWith? hfound hm hfits)
    obtain ⟨hopening, rfl⟩ := List.append_inj htext hlength.symm
    rw [List.inj_on_of_nodup_map h hm hother hopening]

lemma opensWith?_of_longest {delimiters : Delimiters} {markers : List Marker}
    (h : markersOf delimiters = .ok markers) {m : Marker} (hm : m ∈ markers) {post : List Char}
    (hlongest : ∀ other ∈ markers, other.opening <+: m.opening ++ post →
      other.opening.length ≤ m.opening.length) :
    opensWith? markers (m.opening ++ post) = some (m, post) :=
  opensWith?_of_nodup (nodup_openings h) hm hlongest

/-! ## Literal text unit by unit -/

/-- A run of literal text with more of it in front: what stood there, and what it showed. -/
def TextUnit.behind (raw shown : List Char) (run : TextUnit) : TextUnit :=
  ⟨raw ++ run.raw, shown ++ run.shown, run.rest⟩

lemma readText_of_textUnit? {markers : List Marker} {text : List Char} {unit : TextUnit}
    (h : textUnit? markers text = some unit) :
    readText markers text = (readText markers unit.rest).behind unit.raw unit.shown := by
  rw [readText]
  split
  · rename_i hnone
    rw [h] at hnone
    cases hnone
  · rename_i found hfound
    obtain rfl := Option.some.inj (h.symm.trans hfound)
    rfl

/-- A character where no marker starts is literal, unless it is a backslash that escapes. -/
lemma readText_cons {markers : List Marker} {c : Char} {text : List Char}
    (hopens : opensWith? markers (c :: text) = none)
    (hescapes : c = '\\' → escapes? markers text = none) :
    readText markers (c :: text) = (readText markers text).behind [c] [c] := by
  cases hunit : textUnit? markers (c :: text) with
  | none => simpa [hopens] using textUnit?_eq_none hunit
  | some unit =>
    rw [readText_of_textUnit? hunit]
    obtain ⟨front, rest, htext, hfront, rfl⟩ | ⟨d, rest, htext, -, -, rfl⟩ := textUnit?_cases hunit
    · obtain ⟨rfl, rfl⟩ := List.cons.inj htext
      rw [hescapes rfl] at hfront
      cases hfront
    · obtain ⟨rfl, rfl⟩ := List.cons.inj htext
      rfl

/-- No marker starts inside of a text that is followed by `behind`.  One that starts in it could end
behind it. -/
def NoneStarts (markers : List Marker) (text behind : List Char) : Prop :=
  ∀ k < text.length, ∀ m ∈ markers, ¬ m.opening <+: (text ++ behind).drop k

instance (markers : List Marker) (text behind : List Char) :
    Decidable (NoneStarts markers text behind) :=
  inferInstanceAs (Decidable (∀ k < text.length, _))

namespace NoneStarts

variable {markers : List Marker} {c : Char} {text behind : List Char}

lemma opensWith?_eq_none (h : NoneStarts markers text behind) (hne : text ≠ []) :
    opensWith? markers (text ++ behind) = none :=
  opensWith?_eq_none_iff.2 (h 0 (List.length_pos_iff.2 hne))

lemma tail (h : NoneStarts markers (c :: text) behind) : NoneStarts markers text behind :=
  fun k hk => h (k + 1) (Nat.succ_lt_succ hk)

lemma escapes?_eq_none (h : NoneStarts markers text behind) (hne : text ≠ [])
    (hlast : text.getLast? ≠ some '\\') : escapes? markers (text ++ behind) = none := by
  obtain ⟨d, more, rfl⟩ := List.exists_cons_of_ne_nil hne
  have hslash : ¬(((d :: more) ++ behind).head? = some '\\' ∧
      (opensWith? markers ((d :: more) ++ behind).tail).isSome) := by
    rintro ⟨hd, hopens⟩
    have hmore : more ≠ [] := by
      rintro rfl
      exact hlast hd
    have hnone := h.tail.opensWith?_eq_none hmore
    rw [List.cons_append, List.tail_cons, hnone] at hopens
    cases hopens
  rw [escapes?, if_neg hslash, h.opensWith?_eq_none hne]
  rfl

/-- Text in which no marker starts is literal, backslashes included. -/
lemma readText_append (h : NoneStarts markers text behind) (hlast : text.getLast? ≠ some '\\') :
    readText markers (text ++ behind) = (readText markers behind).behind text text := by
  induction text with
  | nil => rfl
  | cons c text ih =>
    have hopens : opensWith? markers (c :: (text ++ behind)) = none :=
      h.opensWith?_eq_none (List.cons_ne_nil c text)
    by_cases hne : text = []
    · subst hne
      refine readText_cons hopens fun hc => ?_
      exact absurd (congrArg some hc) hlast
    · have hlast' : text.getLast? ≠ some '\\' := by
        rwa [List.getLast?_cons_of_ne_nil hne] at hlast
      rw [List.cons_append, readText_cons hopens fun _ => h.tail.escapes?_eq_none hne hlast',
        ih h.tail hlast']
      rfl

end NoneStarts

/-! ## Backslashes and the marker behind them -/

section

variable {markers : List Marker} (hslash : ∀ m ∈ markers, m.opening.head? ≠ some '\\')
include hslash

lemma opensWith?_backslash (text : List Char) : opensWith? markers ('\\' :: text) = none := by
  refine opensWith?_eq_none_iff.2 fun m hm hfits => hslash m hm ?_
  obtain ⟨c, opening, hopening⟩ := List.exists_cons_of_ne_nil m.opening_ne
  rw [hopening, List.cons_prefix_cons] at hfits
  rw [hopening, hfits.1, List.head?_cons]

lemma head?_opening_append {m : Marker} (hm : m ∈ markers) (post : List Char) :
    (m.opening ++ post).head? ≠ some '\\' := by
  rw [List.head?_append_of_ne_nil _ m.opening_ne]
  exact hslash m hm

lemma readText_escaped {front rest : List Char}
    (h : escapes? markers (front ++ rest) = some front.length) :
    readText markers ('\\' :: (front ++ rest)) =
      (readText markers rest).behind ('\\' :: front) front := by
  cases hunit : textUnit? markers ('\\' :: (front ++ rest)) with
  | none => simpa [opensWith?_backslash hslash] using textUnit?_eq_none hunit
  | some unit =>
    rw [readText_of_textUnit? hunit]
    obtain ⟨front', rest', htext, hfront, rfl⟩ | ⟨c, rest', htext, hnone, -, rfl⟩ :=
      textUnit?_cases hunit
    · have htail := (List.cons.inj htext).2
      rw [← htail, h] at hfront
      obtain ⟨rfl, rfl⟩ := List.append_inj htail (Option.some.inj hfront)
      rfl
    · obtain ⟨rfl, rfl⟩ := List.cons.inj htext
      rw [hnone rfl] at h
      cases h

variable {m : Marker} {post : List Char}

/-- One backslash makes a marker literal. -/
lemma readText_backslash_marker
    (hopens : opensWith? markers (m.opening ++ post) = some (m, post)) :
    readText markers ('\\' :: (m.opening ++ post)) =
      (readText markers post).behind ('\\' :: m.opening) m.opening := by
  apply readText_escaped hslash
  have hhead := head?_opening_append hslash (opensWith?_eq_some hopens).1 post
  rw [escapes?, if_neg fun h => hhead h.1, hopens]
  rfl

/-- Of two or more backslashes in front of a marker, the first of the last two is left out. -/
lemma readText_backslashes_marker
    (hopens : opensWith? markers (m.opening ++ post) = some (m, post)) (n : Nat) :
    readText markers (List.replicate (n + 2) '\\' ++ (m.opening ++ post)) =
      ⟨List.replicate (n + 2) '\\', List.replicate (n + 1) '\\', m.opening ++ post⟩ := by
  have hhead := head?_opening_append hslash (opensWith?_eq_some hopens).1 post
  induction n with
  | zero =>
    have hescapes : escapes? markers (['\\'] ++ (m.opening ++ post)) = some 1 :=
      if_pos ⟨rfl, by rw [List.singleton_append, List.tail_cons, hopens]; rfl⟩
    have hread := readText_escaped hslash hescapes
    rw [readText_of_opensWith? hhead hopens] at hread
    exact hread
  | succ n ih =>
    -- Behind this backslash stand two more, so neither is in front of a marker.
    have hescapes :
        escapes? markers (List.replicate (n + 2) '\\' ++ (m.opening ++ post)) = none := by
      rw [escapes?, List.replicate_succ, List.replicate_succ, List.cons_append, List.cons_append,
        List.tail_cons, opensWith?_backslash hslash, opensWith?_backslash hslash]
      rfl
    rw [List.replicate_succ, List.cons_append,
      readText_cons (opensWith?_backslash hslash _) fun _ => hescapes, ih]
    rfl

end

/-! ## The cut -/

/-- The cut of a text when literal text is read up to a marker, and `after` stands behind it. -/
def segmentsOpened (markers : List Marker) (line : Nat) (run : TextUnit) (m : Marker)
    (after : List Char) : Except ScanError (List Segment) :=
  match readConstruct m (line + newlines run.shown) after with
  | .error e => .error e
  | .ok (segment, rest) =>
    match segmentsFrom markers segment.lineAfter rest with
    | .error e => .error e
    | .ok segments => .ok (textSegment run line ++ segment :: segments)

/-- The cut of a text when a run of literal text is read. -/
def segmentsBehind (markers : List Marker) (line : Nat) (run : TextUnit) :
    Except ScanError (List Segment) :=
  match opensWith? markers run.rest with
  | none => .ok (textSegment run line)
  | some (m, after) => segmentsOpened markers line run m after

lemma segmentsFrom_eq_segmentsBehind (markers : List Marker) (line : Nat) (text : List Char) :
    segmentsFrom markers line text = segmentsBehind markers line (readText markers text) :=
  segmentsFrom_eq markers line text

lemma segmentsBehind_of_opensWith? {markers : List Marker} {m : Marker} {post : List Char}
    (hopens : opensWith? markers (m.opening ++ post) = some (m, post)) (line : Nat)
    (raw shown : List Char) :
    segmentsBehind markers line ⟨raw, shown, m.opening ++ post⟩ =
      segmentsOpened markers line ⟨raw, shown, m.opening ++ post⟩ m post := by
  simp only [segmentsBehind, hopens]

/-- **The escaping law.**  Literal text that holds no start of a marker and does not end with a
backslash is followed by `n` backslashes and a marker, the longest that fits.  Without a backslash
the text is buffered and the marker opens its construct.  With one, the marker is buffered behind
the text, and the scan goes on behind the marker.  With more, all but one are buffered behind the
text, and the marker opens its construct. -/
theorem segmentsFrom_backslashes {delimiters : Delimiters} {markers : List Marker}
    (hmarkers : markersOf delimiters = .ok markers)
    (hslash : ∀ m ∈ markers, m.opening.head? ≠ some '\\') {m : Marker} (hm : m ∈ markers)
    {pre post : List Char} {n : Nat}
    (hpre : NoneStarts markers pre (List.replicate n '\\' ++ (m.opening ++ post)))
    (hlast : pre.getLast? ≠ some '\\')
    (hlongest : ∀ other ∈ markers, other.opening <+: m.opening ++ post →
      other.opening.length ≤ m.opening.length) {text : List Char}
    (htext : text = pre ++ (List.replicate n '\\' ++ (m.opening ++ post))) (line : Nat) :
    (n = 0 → readText markers text = ⟨pre, pre, m.opening ++ post⟩ ∧
      segmentsFrom markers line text =
        segmentsOpened markers line ⟨pre, pre, m.opening ++ post⟩ m post) ∧
    (n = 1 → readText markers text =
        (readText markers post).behind (pre ++ '\\' :: m.opening) (pre ++ m.opening) ∧
      segmentsFrom markers line text = segmentsBehind markers line
        ((readText markers post).behind (pre ++ '\\' :: m.opening) (pre ++ m.opening))) ∧
    (2 ≤ n → readText markers text = ⟨pre ++ List.replicate n '\\',
        pre ++ List.replicate (n - 1) '\\', m.opening ++ post⟩ ∧
      segmentsFrom markers line text =
        segmentsOpened markers line ⟨pre ++ List.replicate n '\\',
          pre ++ List.replicate (n - 1) '\\', m.opening ++ post⟩ m post) := by
  have hopens := opensWith?_of_longest hmarkers hm hlongest
  have hread := hpre.readText_append hlast
  rw [← htext] at hread
  rw [segmentsFrom_eq_segmentsBehind]
  refine ⟨?_, ?_, ?_⟩
  · rintro rfl
    have hhead := head?_opening_append hslash hm post
    have hrun : readText markers text = ⟨pre, pre, m.opening ++ post⟩ := by
      rw [hread, List.replicate_zero, List.nil_append, readText_of_opensWith? hhead hopens,
        TextUnit.behind, List.append_nil]
    rw [hrun]
    exact ⟨rfl, segmentsBehind_of_opensWith? hopens line pre pre⟩
  · rintro rfl
    have hrun : readText markers text =
        (readText markers post).behind (pre ++ '\\' :: m.opening) (pre ++ m.opening) := by
      rw [hread, List.replicate_one, List.singleton_append,
        readText_backslash_marker hslash hopens]
      simp [TextUnit.behind]
    rw [hrun]
    exact ⟨rfl, rfl⟩
  · intro hn
    obtain ⟨k, rfl⟩ := Nat.exists_eq_add_of_le' hn
    have hrun := hread
    rw [readText_backslashes_marker hslash hopens] at hrun
    rw [hrun]
    exact ⟨rfl, segmentsBehind_of_opensWith? hopens line _ _⟩

/-- Three backslashes in front of the longer of two markers, behind text with a backslash of its own
and the start of a marker that goes no further. -/
theorem segmentsFrom_backslashes_three :
    NoneStarts defaultMarkers "C:\\a\x7b".toList
      (List.replicate 3 '\\' ++ (unsanitizedMarker.opening ++ " $x !\x7d\x7d".toList)) ∧
    readText defaultMarkers "C:\\a\x7b\\\\\\\x7b\x7b! $x !\x7d\x7d".toList =
      ⟨"C:\\a\x7b\\\\\\".toList, "C:\\a\x7b\\\\".toList, "\x7b\x7b! $x !\x7d\x7d".toList⟩ ∧
    segmentsFrom defaultMarkers 1 "C:\\a\x7b\\\\\\\x7b\x7b! $x !\x7d\x7d".toList =
      segmentsOpened defaultMarkers 1
        ⟨"C:\\a\x7b\\\\\\".toList, "C:\\a\x7b\\\\".toList, "\x7b\x7b! $x !\x7d\x7d".toList⟩
        unsanitizedMarker " $x !\x7d\x7d".toList := by
  have hpre : NoneStarts defaultMarkers "C:\\a\x7b".toList
      (List.replicate 3 '\\' ++ (unsanitizedMarker.opening ++ " $x !\x7d\x7d".toList)) := by
    decide
  exact ⟨hpre, (segmentsFrom_backslashes markersOf_default (by decide) (by simp [defaultMarkers])
    hpre (by decide) (by decide) rfl 1).2.2 (by decide)⟩

end ViewTemplate.Template
