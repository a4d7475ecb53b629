import Mathlib.Tactic.Common
import ViewTemplate.Proofs.BodyScan
import ViewTemplate.Proofs.EmbeddedScripts
import ViewTemplate.Proofs.Tiling
import ViewTemplate.Proofs.TrimmedLines

/-!
# The lines of a template

The scanner keeps a line counter: it starts behind the blank lines that were dropped, moves over
literal text by what the text shows, and over a construct by its blanks and its body only.  Markers,
names and the backslashes that escape are passed over without a count.

Here the counter is compared with the place itself.  `Cuts` cuts a template like the scanner does,
but keeps the whole text in front of the place, and gives every segment the line of that text
(`Text.lineBehind`).  The two agree as long as no marker holds a newline, and so does the line of
every error: a construct that cannot be read is reported on the line of its opening marker, or on
the line of the bracket that closes nothing.
-/

namespace ViewTemplate.Text

/-! ## Counting lines -/

/-- The line of what stands behind a text.  The first line is line one. -/
def lineBehind (before : List Char) : Nat :=
  1 + newlines before

lemma lineBehind_append (before more : List Char) :
    lineBehind (before ++ more) = lineBehind before + newlines more := by
  rw [lineBehind, lineBehind, newlines_append, Nat.add_assoc]

/-- What trimming keeps stands in the source between blank margins, and as many lines were skipped
as the front margin has.  Of a source without a visible character nothing is kept. -/
lemma exists_margins (source : List Char) :
    ∃ margin back, source = margin ++ ((trimBlankLines source).kept ++ back) ∧
      (∀ c ∈ margin ++ back, isBlank c = true) ∧
      ((trimBlankLines source).kept = [] ∨ (trimBlankLines source).skipped = newlines margin) := by
  obtain ⟨back, hsource, -, hcases⟩ := exists_dropped source
  refine ⟨_, back, hsource, List.forall_mem_append.2 ⟨blank_leadingBlankLines source, ?_⟩, ?_⟩
  · obtain ⟨-, -, rfl⟩ | ⟨-, -, -, hfollows⟩ := hcases
    · exact List.forall_mem_nil _
    · exact hfollows.blank
  · obtain ⟨-, hnil, -⟩ | ⟨-, -, hskipped, -⟩ := hcases
    · exact .inl hnil
    · exact .inr hskipped

end ViewTemplate.Text

namespace ViewTemplate.Template

open ViewTemplate.Text (newlines lineBehind newlines_append newlines_eq_zero lineBehind_append)

/-! ## Literal text and markers -/

lemma newlines_shown_unit {markers : List Marker} {text : List Char} {unit : TextUnit}
    (h : textUnit? markers text = some unit) : newlines unit.shown = newlines unit.raw := by
  obtain ⟨front, rest, -, -, rfl⟩ | ⟨c, rest, -, -, -, rfl⟩ := textUnit?_cases h
  · simp [newlines]
  · rfl

lemma newlines_shown (markers : List Marker) (text : List Char) :
    newlines (readText markers text).shown = newlines (readText markers text).raw := by
  fun_induction readText markers text with
  | case1 => rfl
  | case2 text unit hunit _ run ih =>
    rw [newlines_append, newlines_append, newlines_shown_unit hunit, ih]

/-- A marker without a newline. -/
def Marker.OneLine (m : Marker) : Prop :=
  '\n' ∉ m.opening ∧ '\n' ∉ m.closing

instance (m : Marker) : Decidable m.OneLine :=
  inferInstanceAs (Decidable (_ ∧ _))

lemma oneLine_default : ∀ m ∈ defaultMarkers, m.OneLine := by
  decide

/-! ## Segments on their lines -/

namespace Segment

def line : Segment → Nat
  | text _ _ line => line
  | block _ _ _ _ line => line
  | directive _ _ _ _ _ line => line

end Segment

lemma newline_notMem_name {name : List Char} (h : ∀ c ∈ name, isNameChar c = true) :
    '\n' ∉ name := by
  intro hmem
  have hnot : isNameChar '\n' = false := by decide
  rw [h _ hmem] at hnot
  cases hnot

/-- Behind a construct the counter has moved by the newlines of its text. -/
lemma Construct.Spans.lines {m : Marker} (hm : m.OneLine) {line : Nat} {segment : Segment}
    {inner : List Char} (h : Construct.Spans m line segment inner) :
    segment.line = line ∧ segment.source = m.opening ++ inner ∧
      segment.lineAfter = line + newlines (m.opening ++ inner) := by
  have hopening := newlines_eq_zero hm.1
  have hclosing := newlines_eq_zero hm.2
  cases h with
  | block hkind body =>
    refine ⟨rfl, by simp [Segment.source], ?_⟩
    simp only [Segment.lineAfter, newlines_append]
    omega
  | directive hkind hlead hname hne hbody =>
    have hnamed := newlines_eq_zero (newline_notMem_name hname)
    refine ⟨rfl, by simp [Segment.source], ?_⟩
    simp only [Segment.lineAfter, newlines_append]
    omega

/-- A text that stands behind `before` is cut into segments, up to a rest.  Each segment has the
line of the place where it starts. -/
inductive Cuts (markers : List Marker) : (before text : List Char) → List Segment →
    (rest : List Char) → Prop
  | stops (before text : List Char) : Cuts markers before text [] text
  | text {before text rest : List Char} {segments : List Segment}
      (hne : (readText markers text).raw ≠ [])
      (h : Cuts markers (before ++ (readText markers text).raw) (readText markers text).rest
        segments rest) :
      Cuts markers before text
        (.text (readText markers text).raw (readText markers text).shown (lineBehind before) ::
          segments) rest
  | construct {m : Marker} {before inner behind rest : List Char} {segment : Segment}
      {segments : List Segment}
      (hopens : opensWith? markers (m.opening ++ (inner ++ behind)) = some (m, inner ++ behind))
      (hreads : readConstruct m (lineBehind before) (inner ++ behind) = .ok (segment, behind))
      (h : Cuts markers (before ++ (m.opening ++ inner)) behind segments rest) :
      Cuts markers before (m.opening ++ (inner ++ behind)) (segment :: segments) rest

namespace Cuts

variable {markers : List Marker} {before text rest : List Char} {segments : List Segment}

lemma textSegment (h : Cuts markers (before ++ (readText markers text).raw)
    (readText markers text).rest segments rest) :
    Cuts markers before text
      (Template.textSegment (readText markers text) (lineBehind before) ++ segments) rest := by
  unfold Template.textSegment
  split
  · rename_i hshown
    have hraw := readText_raw_eq_nil (List.isEmpty_iff.1 hshown)
    have hsource := readText_source markers text
    rw [hraw, List.nil_append] at hsource
    rwa [hraw, hsource, List.append_nil] at h
  · rename_i hshown
    refine .text ?_ h
    intro hraw
    have hcount := showLiteral?_readText markers text
    rw [hraw, showLiteral?] at hcount
    exact hshown (by rw [← Option.some.inj hcount]; rfl)

/-- Segments put together are the text they were cut from, and each is on the line of its place. -/
lemma lines (hmarkers : ∀ m ∈ markers, m.OneLine) (h : Cuts markers before text segments rest) :
    text = segments.flatMap Segment.source ++ rest ∧
      ∀ k segment, segments[k]? = some segment →
        segment.line = lineBehind (before ++ (segments.take k).flatMap Segment.source) := by
  induction h with
  | stops before text => exact ⟨rfl, by simp⟩
  | @text before text rest segments hne _ ih =>
    obtain ⟨htext, hlines⟩ := ih
    refine ⟨?_, ?_⟩
    · rw [List.flatMap_cons, Segment.source, List.append_assoc, ← htext, readText_source]
    · intro k segment hk
      cases k with
      | zero =>
        obtain rfl := Option.some.inj hk
        simp [Segment.line]
      | succ k => simpa [Segment.source] using hlines k segment hk
  | @construct m before inner behind rest first segments hopens hreads _ ih =>
    obtain ⟨htext, hlines⟩ := ih
    obtain ⟨inner', hspans, hinner⟩ := spans_of_readConstruct hreads
    obtain rfl := List.append_cancel_right hinner
    obtain ⟨hline, hsource, -⟩ := hspans.lines (hmarkers m (opensWith?_eq_some hopens).1)
    refine ⟨?_, ?_⟩
    · rw [List.flatMap_cons, hsource, List.append_assoc, List.append_assoc, ← htext]
    · intro k segment hk
      cases k with
      | zero =>
        obtain rfl := Option.some.inj hk
        simpa using hline
      | succ k => simpa [hsource] using hlines k segment hk

end Cuts

/-! ## Bodies that cannot be read -/

/-- A closing bracket that closes nothing: the scan of a body comes to it and cannot go on. -/
def Offends (inner : List Char) (bracket : Char) : Prop :=
  ∃ state, inner.foldlM BodyState.next? (.code []) = some state ∧ state.next? bracket = none

/-- The scan of a body stops at the first bracket that closes nothing. -/
lemma scanBody_eq_unbalanced {closing text before : List Char} {bracket : Char} {state : BodyState}
    (h : scanBody closing state text = .unbalanced before bracket) :
    ∃ behind last, text = before ++ bracket :: behind ∧
      before.foldlM BodyState.next? state = some last ∧ last.next? bracket = none := by
  induction text generalizing state before with
  | nil => simp [scanBody] at h
  | cons c text ih =>
    unfold scanBody at h
    split at h
    · simp at h
    · split at h
      · rename_i hnone
        obtain ⟨rfl, rfl⟩ := BodyEnd.unbalanced.inj h
        exact ⟨text, state, rfl, rfl, hnone⟩
      · rename_i next hnext
        cases hs : scanBody closing next text with
        | closed body rest => simp [hs, BodyEnd.cons] at h
        | unterminated => simp [hs, BodyEnd.cons] at h
        | unbalanced inner found =>
          rw [hs] at h
          obtain ⟨rfl, rfl⟩ := BodyEnd.unbalanced.inj h
          obtain ⟨behind, last, rfl, hlast, hnone⟩ := ih hs
          refine ⟨behind, last, rfl, ?_, hnone⟩
          rw [List.foldlM_cons, hnext]
          exact hlast

lemma isQuiet_of_blank_or_name {c : Char} (h : Text.isBlank c = true ∨ isNameChar c = true) :
    isQuiet c = true := by
  by_contra hloud
  simp only [isQuiet, List.contains_eq_mem, List.mem_cons, List.not_mem_nil, or_false,
    Bool.not_eq_true', decide_eq_false_iff_not, not_not] at hloud
  obtain rfl | rfl | rfl | rfl | rfl | rfl := hloud <;> revert h <;> decide

lemma foldlM_of_quiet {text : List Char} (h : ∀ c ∈ text, isQuiet c = true) :
    text.foldlM BodyState.next? (.code []) = some (.code []) := by
  induction text with
  | nil => rfl
  | cons c text ih =>
    rw [List.foldlM_cons, next?_of_isQuiet (h c List.mem_cons_self)]
    exact ih fun d hd => h d (.tail c hd)

/-- A construct that opens behind `before`, with `after` behind its opening marker, is refused with
an error on the right line. -/
inductive Fails (m : Marker) (before after : List Char) : ScanError → Prop
  | unterminated : Fails m before after (.unterminated m.construct (lineBehind before))
  | missingDirectiveName (hm : m.construct = .directive) :
      Fails m before after (.missingDirectiveName (lineBehind before))
  | unbalancedBracket {inner behind : List Char} {bracket : Char}
      (hafter : after = inner ++ bracket :: behind) (hoffends : Offends inner bracket) :
      Fails m before after
        (.unbalancedBracket m.construct bracket (lineBehind (before ++ (m.opening ++ inner))))

/-- A body behind blanks and a name that cannot be read. -/
lemma fails_of_readBody {m : Marker} (hm : m.OneLine) {before body : List Char} {bodyLine : Nat}
    (front : List Char) (hfront : ∀ c ∈ front, isQuiet c = true)
    (hline : bodyLine = lineBehind before + newlines front) {e : ScanError}
    (h : readBody m.construct m.closing (lineBehind before) bodyLine body = .error e) :
    Fails m before (front ++ body) e := by
  rw [readBody_eq] at h
  split at h
  · simp at h
  · rename_i inner bracket hscan
    obtain rfl := Except.error.inj h
    obtain ⟨behind, last, rfl, hlast, hnone⟩ := scanBody_eq_unbalanced hscan
    have hplace : bodyLine + newlines inner =
        lineBehind (before ++ (m.opening ++ (front ++ inner))) := by
      rw [lineBehind_append, newlines_append, newlines_append, newlines_eq_zero hm.1, hline]
      omega
    rw [hplace]
    refine .unbalancedBracket (List.append_assoc _ _ _).symm ⟨last, ?_, hnone⟩
    rw [List.foldlM_append, foldlM_of_quiet hfront]
    exact hlast
  · obtain rfl := Except.error.inj h
    exact .unterminated

lemma fails_of_readConstruct {m : Marker} (hm : m.OneLine) {before after : List Char}
    {e : ScanError} (h : readConstruct m (lineBehind before) after = .error e) :
    Fails m before after e := by
  -- a block has neither blanks nor a name in front of its body
  have hblock {kind : BodyKind} (hkind : m.construct = .body kind)
      (hread : readBlock m kind (lineBehind before) after = .error e) : Fails m before after e := by
    unfold readBlock at hread
    split at hread
    · simp at hread
    · rename_i hbody
      obtain rfl := Except.error.inj hread
      rw [← hkind] at hbody
      exact fails_of_readBody hm [] (by simp) rfl hbody
  unfold readConstruct at h
  split at h
  · rename_i hcomment
    unfold readComment at h
    split at h
    · simp at h
    · obtain rfl := Except.error.inj h
      rw [← hcomment]
      exact .unterminated
  · rename_i hkind
    exact hblock hkind h
  · rename_i hdirective
    unfold readDirective readNamed at h
    split at h
    · obtain rfl := Except.error.inj h
      rw [← hdirective]
      exact .unterminated
    · split at h
      · obtain rfl := Except.error.inj h
        exact .missingDirectiveName hdirective
      · split at h
        · simp at h
        · rename_i hbody
          obtain rfl := Except.error.inj h
          -- the body of a directive starts behind the blanks and the name
          set lead := after.takeWhile Text.isBlank with hlead
          set named := after.dropWhile Text.isBlank with hnamed
          set name := named.takeWhile isNameChar with hname
          have hafter : after = lead ++ name ++ named.dropWhile isNameChar := by
            rw [List.append_assoc, hname, List.takeWhile_append_dropWhile, hlead, hnamed,
              List.takeWhile_append_dropWhile]
          rw [hafter]
          rw [← hdirective] at hbody
          refine fails_of_readBody hm (lead ++ name) ?_ ?_ hbody
          · intro c hc
            obtain hc | hc := List.mem_append.1 hc
            · exact isQuiet_of_blank_or_name (.inl (List.mem_takeWhile_imp hc))
            · exact isQuiet_of_blank_or_name (.inr (List.mem_takeWhile_imp hc))
          · have hline : '\n' ∉ name :=
              newline_notMem_name fun c hc => List.mem_takeWhile_imp hc
            rw [newlines_append, newlines_eq_zero hline, Nat.add_zero]

/-! ## The scanner and the places -/

lemma flatMap_source_textSegment (markers : List Marker) (text : List Char) (line : Nat) :
    (textSegment (readText markers text) line).flatMap Segment.source =
      (readText markers text).raw := by
  unfold textSegment
  split
  · rename_i hshown
    exact (readText_raw_eq_nil (List.isEmpty_iff.1 hshown)).symm
  · exact List.append_nil _

/-- A text that stands behind `before` is cut up to a construct, and that construct is refused. -/
def CutFails (markers : List Marker) (before text : List Char) (e : ScanError) : Prop :=
  ∃ front m after, Cuts markers before text front (m.opening ++ after) ∧
    opensWith? markers (m.opening ++ after) = some (m, after) ∧
    readConstruct m (lineBehind (before ++ front.flatMap Segment.source)) after = .error e ∧
    Fails m (before ++ front.flatMap Segment.source) after e

namespace CutFails

variable {markers : List Marker} {before text : List Char} {e : ScanError}

lemma mono {more behind : List Char} {cut : List Segment}
    (hcut : ∀ {segments rest}, Cuts markers (before ++ more) behind segments rest →
      Cuts markers before text (cut ++ segments) rest)
    (hmore : cut.flatMap Segment.source = more)
    (h : CutFails markers (before ++ more) behind e) : CutFails markers before text e := by
  obtain ⟨front, m, after, hfront, hopens, hreads, hfails⟩ := h
  rw [List.append_assoc, ← hmore, ← List.flatMap_append] at hreads hfails
  exact ⟨cut ++ front, m, after, hcut hfront, hopens, hreads, hfails⟩

end CutFails

lemma cuts_last {markers : List Marker} {before text : List Char}
    (hopens : opensWith? markers (readText markers text).rest = none) :
    Cuts markers before text (textSegment (readText markers text) (lineBehind before)) [] := by
  have hrest : (readText markers text).rest = [] := by
    refine (readText_rest markers text).resolve_right ?_
    simp [hopens]
  have hstops : Cuts markers (before ++ (readText markers text).raw) (readText markers text).rest
      [] [] := by
    rw [hrest]
    exact .stops _ []
  simpa using hstops.textSegment

section

variable {markers : List Marker} (hmarkers : ∀ m ∈ markers, m.OneLine)
include hmarkers

/-- One round of the scanner, over a run of literal text and a construct: the line counter follows
the place. -/
lemma cuts_round {before text after rest : List Char} {m : Marker} {segment : Segment}
    (hopens : opensWith? markers (readText markers text).rest = some (m, after))
    (hread : readConstruct m (lineBehind before + newlines (readText markers text).shown) after =
      .ok (segment, rest)) :
    segment.lineAfter = lineBehind (before ++ ((readText markers text).raw ++ segment.source)) ∧
      ∀ {segments : List Segment} {final : List Char},
        Cuts markers (before ++ ((readText markers text).raw ++ segment.source)) rest
          segments final →
        Cuts markers before text
          (textSegment (readText markers text) (lineBehind before) ++ [segment] ++ segments)
          final := by
  rw [newlines_shown, ← lineBehind_append] at hread
  obtain ⟨inner, hspans, rfl⟩ := spans_of_readConstruct hread
  obtain ⟨hm, hrest⟩ := opensWith?_eq_some hopens
  obtain ⟨-, hsource, hafter⟩ := hspans.lines (hmarkers m hm)
  rw [hafter, hsource, ← List.append_assoc before]
  refine ⟨(lineBehind_append _ _).symm, ?_⟩
  intro segments final hcuts
  rw [List.append_assoc]
  apply Cuts.textSegment
  rw [hrest] at hopens ⊢
  exact .construct hopens hread hcuts

/-- What the scanner cuts has the lines of the source. -/
lemma cuts_of_segmentsFrom {line : Nat} {before text : List Char} (hline : line = lineBehind before)
    {segments : List Segment} (h : segmentsFrom markers line text = .ok segments) :
    Cuts markers before text segments [] := by
  fun_induction segmentsFrom markers line text generalizing before segments with
  | case1 line text run =>
    rename_i hopens
    obtain rfl := Except.ok.inj h
    subst hline
    exact cuts_last hopens
  | case2 => simp at h
  | case3 => simp at h
  | case4 line text run constructLine m after hopens segment rest hread _ others hothers =>
    rename_i ih
    obtain rfl := Except.ok.inj h
    subst hline
    obtain ⟨hafter, hcut⟩ := cuts_round hmarkers hopens hread
    have hall := hcut (ih hafter hothers)
    rwa [List.append_assoc, List.singleton_append] at hall

/-- A scanner that stops does so at a construct that fails, and reports a line of the source. -/
lemma cutFails_of_segmentsFrom {line : Nat} {before text : List Char}
    (hline : line = lineBehind before) {e : ScanError}
    (h : segmentsFrom markers line text = .error e) : CutFails markers before text e := by
  fun_induction segmentsFrom markers line text generalizing before with
  | case1 => simp at h
  | case2 line text run constructLine m after hopens e' =>
    rename_i hread
    obtain rfl := Except.error.inj h
    subst hline
    obtain ⟨hm, hrest⟩ := opensWith?_eq_some hopens
    have hcuts : Cuts markers before text (textSegment run (lineBehind before) ++ [])
        (m.opening ++ after) := by
      apply Cuts.textSegment
      rw [← hrest]
      exact .stops _ _
    have hread' : readConstruct m (lineBehind (before ++ run.raw)) after = .error e' := by
      rw [lineBehind_append, ← newlines_shown]
      exact hread
    refine ⟨textSegment run (lineBehind before) ++ [], m, after, hcuts, hrest ▸ hopens, ?_⟩
    rw [List.append_nil, flatMap_source_textSegment]
    exact ⟨hread', fails_of_readConstruct (hmarkers m hm) hread'⟩
  | case3 line text run constructLine m after hopens segment rest hread _ e' hothers =>
    rename_i ih
    obtain rfl := Except.error.inj h
    subst hline
    obtain ⟨hafter, hcut⟩ := cuts_round hmarkers hopens hread
    refine (ih hafter hothers).mono hcut ?_
    rw [List.flatMap_append, flatMap_source_textSegment, List.flatMap_singleton]
  | case4 => simp at h

end

/-! ## Templates -/

/-- A template that is cut to its end has its segments on the lines of the untrimmed source, and one
that is not is refused on a line of the untrimmed source. -/
lemma segments_lines {markers : List Marker} (hmarkers : ∀ m ∈ markers, m.OneLine)
    (source : List Char) :
    ∃ margin back, source = margin ++ ((Text.trimBlankLines source).kept ++ back) ∧
      (∀ c ∈ margin ++ back, Text.isBlank c = true) ∧
      (∀ cut, segments markers source = .ok cut →
        Cuts markers margin (Text.trimBlankLines source).kept cut []) ∧
      ∀ e, segments markers source = .error e →
        CutFails markers margin (Text.trimBlankLines source).kept e := by
  obtain ⟨margin, back, hsource, hblank, hline⟩ := Text.exists_margins source
  refine ⟨margin, back, hsource, hblank, ?_⟩
  unfold segments
  dsimp only
  obtain hempty | hskipped := hline
  · rw [hempty, segmentsFrom_nil]
    refine ⟨?_, by simp⟩
    intro cut hcut
    obtain rfl := Except.ok.inj hcut
    exact .stops margin []
  · rw [hskipped]
    exact ⟨fun cut => cuts_of_segmentsFrom hmarkers rfl,
      fun e => cutFails_of_segmentsFrom hmarkers rfl⟩

end ViewTemplate.Template
