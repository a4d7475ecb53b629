import Mathlib.Tactic.Common
import ViewTemplate.Proofs.SourceLines

/-!
# Newlines in markers

The line counter moves over literal text and over what stands between two markers, but not over the
markers themselves.  Delimiters may hold newlines: a closing marker that takes the line break behind
it along is accepted.  From such a marker on, every line that is reported is too small.

How far the counter is behind is a matter of the tokens alone.  `placedFrom` gives each token of a
cut the text in front of it, and `Lags` goes through the tokens with the number of newlines that the
markers so far have hidden.  One construct keeps the two together (`Construct.Spans.lags`), so a
whole cut does (`lags_of_segmentsFrom`), and `line_add_hiddenNewlines` reads off the line of every
marker: it is right exactly if no marker in front of it holds a newline.
-/

namespace ViewTemplate.Template

open ViewTemplate.Text (newlines lineBehind newlines_append newlines_eq_zero lineBehind_append)

/-! ## Tokens in their places -/

namespace Token

/-- Whether a token is an opening or a closing marker. -/
def isMarker (token : Token) : Bool :=
  token.kind.isOpening || token.kind.isClosing

/-- The newlines of a token that the line counter passes over. -/
def hiddenNewlines (token : Token) : Nat :=
  if token.isMarker then newlines token.text.toList else 0

end Token

/-- The newlines that the line counter passes over in the markers among some tokens. -/
def hiddenNewlines : List Token → Nat
  | [] => 0
  | token :: rest => token.hiddenNewlines + hiddenNewlines rest

lemma Token.hiddenNewlines_eq_zero_iff {token : Token} :
    token.hiddenNewlines = 0 ↔ (token.isMarker = true → '\n' ∉ token.text.toList) := by
  simp [Token.hiddenNewlines, newlines, List.count_eq_zero]

lemma hiddenNewlines_eq_zero_iff {tokens : List Token} :
    hiddenNewlines tokens = 0 ↔ ∀ t ∈ tokens, t.isMarker = true → '\n' ∉ t.text.toList := by
  induction tokens with
  | nil => simp [hiddenNewlines]
  | cons token rest ih =>
    rw [hiddenNewlines, Nat.add_eq_zero_iff, ih, Token.hiddenNewlines_eq_zero_iff,
      List.forall_mem_cons]

/-- The tokens of a segment that stands behind `before`, each with all the text in front of it.
What a body shows is trimmed; its place is that of the body. -/
def Segment.placed (passes : String → Bool) (before : List Char) :
    Segment → List (List Char × Token)
  | text _ shown line => [(before, ⟨.text, String.ofList shown, line⟩)]
  | block kind opening body closing line =>
    [(before, ⟨.opens (.body kind), String.ofList opening, line⟩),
      (before ++ opening,
        ⟨.text, String.ofList (Script.markCalls passes (Text.trim body)), line⟩),
      (before ++ opening ++ body,
        ⟨.closes (.body kind), String.ofList closing, line + newlines body⟩)]
  | directive opening lead name body closing line =>
    let nameLine := line + newlines lead
    let argument := Text.trim body
    [(before, ⟨.opens .directive, String.ofList opening, line⟩),
      (before ++ opening ++ lead, ⟨.directiveName, String.ofList name, nameLine⟩)] ++
    (if argument.isEmpty then []
      else [(before ++ opening ++ lead ++ name,
        ⟨.text, String.ofList (Script.markCalls passes argument), nameLine⟩)]) ++
    [(before ++ opening ++ lead ++ name ++ body,
      ⟨.closes .directive, String.ofList closing, nameLine + newlines body⟩)]

/-- The tokens of a cut that stands behind `before`, each with all the text in front of it. -/
def placedFrom (passes : String → Bool) (before : List Char) :
    List Segment → List (List Char × Token)
  | [] => []
  | segment :: cut =>
    segment.placed passes before ++ placedFrom passes (before ++ segment.source) cut

section

variable (passes : String → Bool) (before : List Char)

lemma Segment.map_placed (segment : Segment) :
    (segment.placed passes before).map Prod.snd = segment.tokens passes := by
  cases segment with
  | text raw shown line => rfl
  | block kind opening body closing line => rfl
  | directive opening lead name body closing line =>
    simp only [placed, tokens]
    split <;> rfl

lemma map_placedFrom (cut : List Segment) :
    (placedFrom passes before cut).map Prod.snd = cut.flatMap (Segment.tokens passes) := by
  induction cut generalizing before with
  | nil => rfl
  | cons segment cut ih =>
    rw [placedFrom, List.map_append, Segment.map_placed, ih, List.flatMap_cons]

lemma placedFrom_append (front cut : List Segment) :
    placedFrom passes before (front ++ cut) =
      placedFrom passes before front ++
        placedFrom passes (before ++ front.flatMap Segment.source) cut := by
  induction front generalizing before with
  | nil => simp [placedFrom]
  | cons segment front ih => simp [placedFrom, ih]

end

lemma Segment.exists_behind {passes : String → Bool} {before place : List Char} {segment : Segment}
    {token : Token} (h : (place, token) ∈ segment.placed passes before)
    (hmarker : token.isMarker = true) :
    ∃ behind, before ++ segment.source = place ++ (token.text.toList ++ behind) := by
  cases segment with
  | text raw shown line =>
    obtain ⟨-, rfl⟩ := Prod.mk.inj (List.mem_singleton.1 h)
    cases hmarker
  | block kind opening body closing line =>
    simp only [placed, List.mem_cons, Prod.mk.injEq, List.not_mem_nil, or_false] at h
    obtain ⟨rfl, rfl⟩ | ⟨-, rfl⟩ | ⟨rfl, rfl⟩ := h
    · exact ⟨body ++ closing, by simp [source]⟩
    · cases hmarker
    · exact ⟨[], by simp [source]⟩
  | directive opening lead name body closing line =>
    -- of the tokens of a directive only the first and the last are markers
    have hends : (place, token) = (before, ⟨.opens .directive, String.ofList opening, line⟩) ∨
        (place, token) = (before ++ opening ++ lead ++ name ++ body,
          ⟨.closes .directive, String.ofList closing, line + newlines lead + newlines body⟩) := by
      simp only [placed, List.mem_append, List.mem_cons, List.not_mem_nil, or_false] at h
      obtain (((h | h) | h) | h) := h
      · exact .inl h
      · obtain ⟨-, rfl⟩ := Prod.mk.inj h
        cases hmarker
      · split at h
        · cases h
        · obtain ⟨-, rfl⟩ := Prod.mk.inj (List.mem_singleton.1 h)
          cases hmarker
      · exact .inr h
    obtain h | h := hends
    · obtain ⟨rfl, rfl⟩ := Prod.mk.inj h
      exact ⟨lead ++ name ++ body ++ closing, by simp [source]⟩
    · obtain ⟨rfl, rfl⟩ := Prod.mk.inj h
      exact ⟨[], by simp [source]⟩

/-- A marker of a cut stands at its place. -/
lemma exists_behind_of_mem_placedFrom {passes : String → Bool} {before place : List Char}
    {cut : List Segment} {token : Token} (h : (place, token) ∈ placedFrom passes before cut)
    (hmarker : token.isMarker = true) :
    ∃ behind, before ++ cut.flatMap Segment.source = place ++ (token.text.toList ++ behind) := by
  induction cut generalizing before with
  | nil => cases h
  | cons segment cut ih =>
    rw [List.flatMap_cons, ← List.append_assoc]
    obtain h | h := List.mem_append.1 h
    · obtain ⟨behind, hbehind⟩ := Segment.exists_behind h hmarker
      exact ⟨behind ++ cut.flatMap Segment.source, by simp [hbehind]⟩
    · exact ih h

lemma eq_flatMap_source_of_segmentsFrom {markers : List Marker} {line : Nat} {text : List Char}
    {cut : List Segment} (h : segmentsFrom markers line text = .ok cut) :
    text = cut.flatMap Segment.source := by
  fun_induction segmentsFrom markers line text generalizing cut with
  | case1 line text run =>
    rename_i hopens
    obtain rfl := Except.ok.inj h
    have hrest : run.rest = [] := by
      refine (readText_rest markers text).resolve_right ?_
      change ¬(opensWith? markers run.rest).isSome = true
      simp [hopens]
    calc text = run.raw ++ run.rest := (readText_source markers text).symm
      _ = run.raw := by rw [hrest, List.append_nil]
      _ = (textSegment run line).flatMap Segment.source :=
          (flatMap_source_textSegment markers text line).symm
  | case2 => simp at h
  | case3 => simp at h
  | case4 line text run constructLine m after hopens segment rest hread _ others =>
    rename_i hothers ih
    obtain rfl := Except.ok.inj h
    obtain ⟨inner, hinner, hafter⟩ := readConstruct_eq_ok hread
    calc text = run.raw ++ run.rest := (readText_source markers text).symm
      _ = run.raw ++ (m.opening ++ (inner ++ rest)) := by
          rw [(opensWith?_eq_some hopens).2, hafter]
      _ = run.raw ++ (segment.source ++ others.flatMap Segment.source) := by
          rw [hinner, List.append_assoc, ← ih hothers]
      _ = (textSegment run line ++ segment :: others).flatMap Segment.source := by
          rw [List.flatMap_append, flatMap_source_textSegment, List.flatMap_cons]

/-! ## How far the counter is behind -/

/-- Each marker is reported with the line of its place, less the `hidden` newlines of the markers so
far. -/
inductive Lags : (hidden : Nat) → List (List Char × Token) → Prop
  | nil (hidden : Nat) : Lags hidden []
  | marker {hidden : Nat} {before : List Char} {token : Token} {placed : List (List Char × Token)}
      (hmarker : token.isMarker = true) (hline : token.line + hidden = lineBehind before)
      (h : Lags (hidden + newlines token.text.toList) placed) :
      Lags hidden ((before, token) :: placed)
  | other {hidden : Nat} {before : List Char} {token : Token} {placed : List (List Char × Token)}
      (hother : token.isMarker = false) (h : Lags hidden placed) :
      Lags hidden ((before, token) :: placed)

lemma Lags.line_add {hidden : Nat} {placed : List (List Char × Token)} (h : Lags hidden placed)
    {k : Nat} {before : List Char} {token : Token} (hk : placed[k]? = some (before, token))
    (hmarker : token.isMarker = true) :
    token.line + (hidden + hiddenNewlines ((placed.map Prod.snd).take k)) = lineBehind before := by
  induction h generalizing k with
  | nil hidden => simp at hk
  | @marker hidden place first placed hfirst hline _ ih =>
    cases k with
    | zero =>
      obtain ⟨rfl, rfl⟩ := Prod.mk.inj (Option.some.inj hk)
      exact hline
    | succ k =>
      -- the newlines of this marker are hidden from those behind it
      have hrest := ih hk
      rw [← hrest]
      simp [hiddenNewlines, Token.hiddenNewlines, hfirst, Nat.add_assoc]
  | @other hidden place first placed hfirst _ ih =>
    cases k with
    | zero =>
      obtain ⟨rfl, rfl⟩ := Prod.mk.inj (Option.some.inj hk)
      rw [hmarker] at hfirst
      cases hfirst
    | succ k =>
      have hrest := ih hk
      rw [← hrest]
      simp [hiddenNewlines, Token.hiddenNewlines, hfirst]

section

variable (passes : String → Bool)

lemma Lags.textSegment {hidden : Nat} {placed : List (List Char × Token)} (h : Lags hidden placed)
    (before : List Char) (run : TextUnit) (line : Nat) :
    Lags hidden (placedFrom passes before (Template.textSegment run line) ++ placed) := by
  unfold Template.textSegment
  split
  · exact h
  · exact .other rfl h

/-- One construct: its two markers are reported behind by what was hidden so far, and what they hide
is added. -/
lemma Construct.Spans.lags {m : Marker} {line : Nat} {segment : Segment} {inner : List Char}
    (h : Construct.Spans m line segment inner) {hidden : Nat} {before : List Char}
    (hline : line + hidden = lineBehind before) {placed : List (List Char × Token)}
    (hplaced : Lags (hidden + newlines m.opening + newlines m.closing) placed) :
    Lags hidden (segment.placed passes before ++ placed) := by
  cases h with
  | block hkind body =>
    refine .marker rfl hline (.other rfl (.marker rfl ?_ ?_))
    · simp only [lineBehind_append, String.toList_ofList]
      omega
    · simpa only [String.toList_ofList] using! hplaced
  | @directive hkind lead name hlead hname hne body hbody =>
    -- a name has no newline, so its line is the one that blanks in front of it lead to
    have hnamed := newlines_eq_zero (newline_notMem_name hname)
    have hcloses : Lags (hidden + newlines m.opening)
        ((before ++ m.opening ++ lead ++ name ++ body, ⟨.closes .directive,
          String.ofList m.closing, line + newlines lead + newlines body⟩) :: placed) := by
      refine .marker rfl ?_ (by simpa only [String.toList_ofList] using hplaced)
      simp only [lineBehind_append]
      omega
    refine .marker rfl hline (.other rfl ?_)
    simp only [String.toList_ofList]
    split
    · exact hcloses
    · exact .other rfl hcloses

/-- Behind a construct the counter has fallen behind by the newlines of its two markers. -/
lemma Construct.Spans.lineAfter_add {m : Marker} {line : Nat} {segment : Segment}
    {inner : List Char} (h : Construct.Spans m line segment inner) :
    segment.lineAfter + (newlines m.opening + newlines m.closing) =
      line + newlines segment.source := by
  cases h with
  | block hkind body =>
    simp only [Segment.lineAfter, Segment.source, newlines_append]
    omega
  | directive hkind hlead hname hne hbody =>
    have hnamed := newlines_eq_zero (newline_notMem_name hname)
    simp only [Segment.lineAfter, Segment.source, newlines_append]
    omega

/-- A whole cut, from a place where the counter is behind by what is hidden so far. -/
lemma lags_of_segmentsFrom {markers : List Marker} {line hidden : Nat} {before text : List Char}
    (hline : line + hidden = lineBehind before) {cut : List Segment}
    (h : segmentsFrom markers line text = .ok cut) :
    Lags hidden (placedFrom passes before cut) := by
  fun_induction segmentsFrom markers line text generalizing hidden before cut with
  | case1 line text run =>
    obtain rfl := Except.ok.inj h
    simpa using (Lags.nil hidden).textSegment passes before run line
  | case2 => simp at h
  | case3 => simp at h
  | case4 line text run constructLine m after hopens segment rest hread _ others =>
    rename_i hothers ih
    obtain rfl := Except.ok.inj h
    obtain ⟨inner, hspans, -⟩ := spans_of_readConstruct hread
    have hplace : constructLine + hidden = lineBehind (before ++ run.raw) := by
      have hshown : newlines run.shown = newlines run.raw := newlines_shown markers text
      rw [lineBehind_append, ← hline, ← hshown]
      exact Nat.add_right_comm line (newlines run.shown) hidden
    have hafter : segment.lineAfter + (hidden + newlines m.opening + newlines m.closing) =
        lineBehind (before ++ run.raw ++ segment.source) := by
      have hmoved := hspans.lineAfter_add
      rw [lineBehind_append, ← hplace]
      omega
    rw [placedFrom_append, flatMap_source_textSegment]
    exact (hspans.lags passes hplace (ih hafter hothers)).textSegment passes before run line

end

/-! ## Templates -/

lemma exists_segments_of_tokens {delimiters : Delimiters} {names : List String} {source : String}
    {toks : List Token} (h : tokens delimiters names source = .ok toks) :
    ∃ markers cut, markersOf delimiters = .ok markers ∧ segments markers source.toList = .ok cut ∧
      cut.flatMap (Segment.tokens (passesThrough names)) = toks := by
  unfold tokens at h
  split at h
  · simp at h
  · rename_i markers hmarkers
    cases hcut : segments markers source.toList with
    | error e => simp [hcut, Except.map] at h
    | ok cut =>
      rw [hcut] at h
      exact ⟨markers, cut, hmarkers, hcut, Except.ok.inj h⟩

/-- The counter starts behind the margin that is trimmed, and there it is right. -/
lemma lags_of_segments (passes : String → Bool) {markers : List Marker} {source : List Char}
    {cut : List Segment} (h : segments markers source = .ok cut) :
    ∃ margin back, source = margin ++ cut.flatMap Segment.source ++ back ∧
      (∀ c ∈ margin ++ back, Text.isBlank c = true) ∧ Lags 0 (placedFrom passes margin cut) := by
  obtain ⟨margin, back, hsource, hblank, hskipped⟩ := Text.exists_margins source
  have hkept : (Text.trimBlankLines source).kept = cut.flatMap Segment.source :=
    eq_flatMap_source_of_segmentsFrom h
  refine ⟨margin, back, ?_, hblank, ?_⟩
  · rw [← hkept, List.append_assoc]
    exact hsource
  · unfold segments at h
    dsimp only at h
    obtain hempty | hskipped := hskipped
    · -- Nothing visible: there is no segment, whatever was skipped.
      rw [hempty, segmentsFrom_nil] at h
      obtain rfl := Except.ok.inj h
      exact .nil 0
    · rw [hskipped] at h
      have hstart : 1 + newlines margin + 0 = lineBehind margin := rfl
      exact lags_of_segmentsFrom passes hstart h

/-- **Newlines in markers are not counted.**  Whatever the delimiters, every marker of a template
that can be cut stands where its token is placed, in the untrimmed source.  The line of the token
and the newlines in the markers in front of it make up the line of that place.  So the line is right
exactly if no marker in front of it holds a newline. -/
theorem line_add_hiddenNewlines {delimiters : Delimiters} {names : List String} {source : String}
    {toks : List Token} (h : tokens delimiters names source = .ok toks) :
    ∃ markers margin cut back, markersOf delimiters = .ok markers ∧
      segments markers source.toList = .ok cut ∧
      source.toList = margin ++ cut.flatMap Segment.source ++ back ∧
      (∀ c ∈ margin ++ back, Text.isBlank c = true) ∧
      (placedFrom (passesThrough names) margin cut).map Prod.snd = toks ∧
      ∀ k before token,
        (placedFrom (passesThrough names) margin cut)[k]? = some (before, token) →
        token.isMarker = true →
        (∃ behind, source.toList = before ++ (token.text.toList ++ behind)) ∧
        token.line + hiddenNewlines (toks.take k) = lineBehind before ∧
        (token.line = lineBehind before ↔
          ∀ t ∈ toks.take k, t.isMarker = true → '\n' ∉ t.text.toList) := by
  obtain ⟨markers, cut, hmarkers, hcut, rfl⟩ := exists_segments_of_tokens h
  obtain ⟨margin, back, hsource, hblank, hlags⟩ := lags_of_segments (passesThrough names) hcut
  refine ⟨markers, margin, cut, back, hmarkers, hcut, hsource, hblank, map_placedFrom _ _ _, ?_⟩
  intro k before token hk hmarker
  have hline := hlags.line_add hk hmarker
  rw [map_placedFrom, Nat.zero_add] at hline
  refine ⟨?_, hline, ?_⟩
  · obtain ⟨behind, hbehind⟩ := exists_behind_of_mem_placedFrom (List.mem_of_getElem? hk) hmarker
    refine ⟨behind ++ back, ?_⟩
    rw [hsource, hbehind, List.append_assoc, List.append_assoc]
  · rw [← hiddenNewlines_eq_zero_iff]
    omega

/-- A tag with newlines in both of its markers and in its body, and a directive behind it. -/
theorem line_add_hiddenNewlines_tag :
    ∃ toks, tokens { sanitized := ⟨"\x7b\x7b\n", "\x7d\x7d\n"⟩ } []
        "\n a \x7b\x7b\n$x\n\x7d\x7d\n<%\nif $y %>" = .ok toks ∧
      toks.map Token.line = [2, 2, 2, 3, 3, 4, 4, 4] ∧
      ∃ markers margin cut back,
        markersOf { sanitized := ⟨"\x7b\x7b\n", "\x7d\x7d\n"⟩ } = .ok markers ∧
        segments markers "\n a \x7b\x7b\n$x\n\x7d\x7d\n<%\nif $y %>".toList = .ok cut ∧
        "\n a \x7b\x7b\n$x\n\x7d\x7d\n<%\nif $y %>".toList =
          margin ++ cut.flatMap Segment.source ++ back ∧
        (∀ c ∈ margin ++ back, Text.isBlank c = true) ∧
        (placedFrom (passesThrough []) margin cut).map Prod.snd = toks ∧
        ∀ k before token,
          (placedFrom (passesThrough []) margin cut)[k]? = some (before, token) →
          token.isMarker = true →
          (∃ behind, "\n a \x7b\x7b\n$x\n\x7d\x7d\n<%\nif $y %>".toList =
            before ++ (token.text.toList ++ behind)) ∧
          token.line + hiddenNewlines (toks.take k) = lineBehind before ∧
          (token.line = lineBehind before ↔
            ∀ t ∈ toks.take k, t.isMarker = true → '\n' ∉ t.text.toList) := by
  have htokens : tokens { sanitized := ⟨"\x7b\x7b\n", "\x7d\x7d\n"⟩ } []
      "\n a \x7b\x7b\n$x\n\x7d\x7d\n<%\nif $y %>" =
        .ok [⟨.text, " a ", 2⟩, ⟨.opens (.body .sanitized), "\x7b\x7b\n", 2⟩, ⟨.text, "$x", 2⟩,
          ⟨.closes (.body .sanitized), "\x7d\x7d\n", 3⟩, ⟨.opens .directive, "<%", 3⟩,
          ⟨.directiveName, "if", 4⟩, ⟨.text, "$y", 4⟩, ⟨.closes .directive, "%>", 4⟩] := by
    decide +kernel
  exact ⟨_, htokens, rfl, line_add_hiddenNewlines htokens⟩

/-- A comment whose closing marker takes the line break along: the tag behind it is on the second
line, and both of its markers are reported on the first. -/
theorem line_behind_comment_too_small :
    tokens { comment := ⟨"\x7b#", "#\x7d\n"⟩ } [] "\x7b# a #\x7d\n\x7b\x7b $x \x7d\x7d" =
      .ok [⟨.opens (.body .comment), "\x7b#", 1⟩, ⟨.text, "a", 1⟩,
        ⟨.closes (.body .comment), "#\x7d\n", 1⟩,
        ⟨.opens (.body .sanitized), "\x7b\x7b", 1⟩, ⟨.text, "$x", 1⟩,
        ⟨.closes (.body .sanitized), "\x7d\x7d", 1⟩] ∧
    "\x7b# a #\x7d\n\x7b\x7b $x \x7d\x7d".toList =
      "\x7b# a #\x7d\n".toList ++ "\x7b\x7b $x \x7d\x7d".toList ∧
    lineBehind "\x7b# a #\x7d\n".toList = 2 ∧
    lineBehind "\x7b# a #\x7d\n\x7b\x7b $x ".toList = 2 := by
  refine ⟨by decide +kernel, by decide, by decide, by decide⟩

end ViewTemplate.Template
