import Mathlib.Data.List.Infix
import Mathlib.Tactic.Common
import ViewTemplate.Page.Compiler
import ViewTemplate.Proofs.EmbeddedScripts
import ViewTemplate.Proofs.InnerViews

/-!
# Pages of plain text

A template in which no construct opens is shown as it stands, but for its margins: the cut trims
the template and rendering trims the output once more.  This file says what the two together leave.

`StripsTo source lines` is the text without the blank lines at its ends, by a description that
mentions neither the margins of `trimBlankLines` nor the order in which it drops them.  Every text
strips to one text (`stripsTo_iff`), and trimming keeps that text without one carriage return at its
end (`kept_trimBlankLines`).  Stripping twice is stripping once, but every trimming drops a carriage
return of its own (`kept_trimBlankLines_twice`).

A plain text is read as one run of literal text, whatever the delimiters and whatever backslashes
are in it (`Plain.readText_eq`), and its program writes it.  So the page is the text trimmed twice
(`Engine.output_of_plain`).
-/

namespace ViewTemplate.Text

/-! ## Lines that are not blank -/

/-- A text with a character that is not blank. -/
def Visible (text : List Char) : Prop :=
  ∃ c ∈ text, isBlank c = false

/-- What is left of a text without the blank lines at its ends.  It starts and ends with a line that
is not blank; the newline behind its last line belongs to what is left out. -/
inductive StripsTo : (source lines : List Char) → Prop
  | blank {source : List Char} (h : ∀ c ∈ source, isBlank c = true) : StripsTo source []
  | lines {front lines back : List Char}
      (hfront : ∀ c ∈ front, isBlank c = true) (hends : ∀ c ∈ front.getLast?, c = '\n')
      (hfirst : Visible (firstLine lines)) (hlast : Visible (lastLine lines))
      (hstarts : ∀ c ∈ back.head?, c = '\n') (hback : ∀ c ∈ back, isBlank c = true) :
      StripsTo (front ++ (lines ++ back)) lines

lemma not_visible_iff {text : List Char} : ¬ Visible text ↔ ∀ c ∈ text, isBlank c = true := by
  simp [Visible]

lemma visible_append {text text' : List Char} :
    Visible (text ++ text') ↔ Visible text ∨ Visible text' := by
  simp only [Visible, List.mem_append, or_and_right, exists_or]

lemma visible_reverse {text : List Char} : Visible text.reverse ↔ Visible text := by
  simp only [Visible, List.mem_reverse]

section

variable {text : List Char} (h : Visible text)
include h

lemma dropWhile_isBlank_append (rest : List Char) :
    (text ++ rest).dropWhile isBlank = text.dropWhile isBlank ++ rest := by
  obtain ⟨c, hc, hvisible⟩ := h
  rw [List.dropWhile_append, if_neg]
  rw [List.isEmpty_iff, List.dropWhile_eq_nil_iff]
  intro hblank
  simp [hblank c hc] at hvisible

lemma takeWhile_isBlank_append (rest : List Char) :
    (text ++ rest).takeWhile isBlank = text.takeWhile isBlank := by
  have hwhole : (text ++ rest).takeWhile isBlank ++ (text.dropWhile isBlank ++ rest) =
      text.takeWhile isBlank ++ (text.dropWhile isBlank ++ rest) := by
    rw [← List.append_assoc (text.takeWhile isBlank), List.takeWhile_append_dropWhile,
      ← dropWhile_isBlank_append h, List.takeWhile_append_dropWhile]
  exact List.append_cancel_right hwhole

lemma visible_dropWhile : Visible (text.dropWhile isBlank) := by
  rw [← List.takeWhile_append_dropWhile (p := isBlank) (l := text), visible_append] at h
  exact h.resolve_left (not_visible_iff.2 fun c hc => List.mem_takeWhile_imp hc)

end

/-! ## First and last lines -/

lemma lastLine_eq (text : List Char) : lastLine text = (firstLine text.reverse).reverse := rfl

lemma firstLine_subset (text : List Char) : firstLine text ⊆ text :=
  (List.takeWhile_sublist _).subset

lemma Visible.of_firstLine {text : List Char} (h : Visible (firstLine text)) : Visible text := by
  obtain ⟨c, hc, hvisible⟩ := h
  exact ⟨c, firstLine_subset text hc, hvisible⟩

lemma firstLine_cons {c : Char} (hc : c ≠ '\n') (text : List Char) :
    firstLine (c :: text) = c :: firstLine text := by
  simp [firstLine, hc]

lemma firstLine_eq_self {text : List Char} (h : '\n' ∉ text) : firstLine text = text := by
  rw [firstLine, List.takeWhile_eq_self_iff]
  intro c hc
  exact bne_iff_ne.2 (ne_of_mem_of_not_mem hc h)

lemma lastLine_eq_self {text : List Char} (h : '\n' ∉ text) : lastLine text = text := by
  rw [lastLine_eq, firstLine_eq_self (List.mem_reverse.not.2 h), List.reverse_reverse]

/-- Lines behind a text do not belong to its first line. -/
lemma firstLine_append {back : List Char} (hstarts : ∀ c ∈ back.head?, c = '\n')
    (text : List Char) : firstLine (text ++ back) = firstLine text := by
  induction text with
  | nil =>
    cases back with
    | nil => rfl
    | cons c back =>
      obtain rfl := hstarts c rfl
      rfl
  | cons c text ih =>
    unfold firstLine at ih ⊢
    rw [List.cons_append, List.takeWhile_cons, List.takeWhile_cons, ih]

lemma lastLine_append {front : List Char} (hends : ∀ c ∈ front.getLast?, c = '\n')
    (text : List Char) : lastLine (front ++ text) = lastLine text := by
  rw [lastLine_eq, lastLine_eq, List.reverse_append, firstLine_append]
  rwa [List.head?_reverse]

/-- A first line does not become visible by blanks behind the text. -/
lemma visible_firstLine_of_append {text back : List Char} (hback : ∀ c ∈ back, isBlank c = true)
    (h : Visible (firstLine (text ++ back))) : Visible (firstLine text) := by
  rw [firstLine, List.takeWhile_append] at h
  split at h
  · rename_i hlength
    have hline : firstLine text = text := (List.takeWhile_prefix _).eq_of_length hlength
    rw [hline]
    refine (visible_append.1 h).resolve_right (not_visible_iff.2 fun c hc => hback c ?_)
    exact firstLine_subset back hc
  · exact h

lemma visible_lastLine_of_append {front text : List Char} (hfront : ∀ c ∈ front, isBlank c = true)
    (h : Visible (lastLine (front ++ text))) : Visible (lastLine text) := by
  rw [lastLine_eq, visible_reverse] at h ⊢
  rw [List.reverse_append] at h
  exact visible_firstLine_of_append (by simpa using hfront) h

/-- The blanks in front of a first line that is not blank are blanks of that line. -/
lemma newline_notMem_takeWhile {text : List Char} (h : Visible (firstLine text)) :
    '\n' ∉ text.takeWhile isBlank := by
  induction text with
  | nil => simp
  | cons d text ih =>
    by_cases hd : isBlank d = true
    · have hline : d ≠ '\n' := by
        rintro rfl
        obtain ⟨c, hc, -⟩ := h
        cases hc
      have hsplit : Visible ([d] ++ firstLine text) := by rwa [firstLine_cons hline] at h
      have hrest : Visible (firstLine text) :=
        (visible_append.1 hsplit).resolve_left (not_visible_iff.2 (by simpa using hd))
      rw [List.takeWhile_cons_of_pos hd, List.mem_cons, not_or]
      exact ⟨Ne.symm hline, ih hrest⟩
    · simp [List.takeWhile_cons_of_neg hd]

/-! ## Trimming is stripping -/

/-- A text is what trimming its end leaves of it, and the blanks behind. -/
lemma trimEnd_append_blanks (text : List Char) :
    trimEnd text ++ (text.reverse.takeWhile isBlank).reverse = text := by
  rw [trimEnd, ← List.reverse_append, List.takeWhile_append_dropWhile, List.reverse_reverse]

lemma trimEnd_append {back : List Char} (hback : ∀ c ∈ back, isBlank c = true) (text : List Char) :
    trimEnd (text ++ back) = trimEnd text := by
  rw [trimEnd, List.reverse_append, List.dropWhile_append_of_pos (by simpa using hback), trimEnd]

/-- The margin in front of lines: blank lines, and the blanks of the first line behind them. -/
lemma lastLine_takeWhile_append {front lines : List Char} (hfront : ∀ c ∈ front, isBlank c = true)
    (hends : ∀ c ∈ front.getLast?, c = '\n') (hfirst : Visible (firstLine lines)) :
    lastLine ((front ++ lines).takeWhile isBlank) = lines.takeWhile isBlank := by
  rw [List.takeWhile_append_of_pos hfront, lastLine_append hends,
    lastLine_eq_self (newline_notMem_takeWhile hfirst)]

lemma firstLine_takeWhile_append {lines back : List Char} (hlast : Visible (lastLine lines))
    (hstarts : ∀ c ∈ back.head?, c = '\n') (hback : ∀ c ∈ back, isBlank c = true) :
    firstLine ((lines ++ back).reverse.takeWhile isBlank).reverse =
      (lines.reverse.takeWhile isBlank).reverse := by
  have hmargin : lastLine ((back.reverse ++ lines.reverse).takeWhile isBlank) =
      lines.reverse.takeWhile isBlank := by
    apply lastLine_takeWhile_append
    · simpa using hback
    · simpa using hstarts
    · rwa [lastLine_eq, visible_reverse] at hlast
  rw [List.reverse_append, ← hmargin, lastLine_eq, List.reverse_reverse]

/-- What trimming leaves of a text before it drops a carriage return. -/
def stripped (source : List Char) : List Char :=
  let body := source.dropWhile isBlank
  if body.isEmpty then []
  else
    lastLine (source.takeWhile isBlank) ++ trimEnd body ++
      firstLine (body.reverse.takeWhile isBlank).reverse

lemma kept_trimBlankLines (source : List Char) :
    (trimBlankLines source).kept = dropCarriageReturn (stripped source) := by
  simp only [trimBlankLines, stripped]
  split <;> rfl

lemma StripsTo.eq_stripped {source lines : List Char} (h : StripsTo source lines) :
    lines = stripped source := by
  cases h with
  | blank h =>
    have hbody : source.dropWhile isBlank = [] := List.dropWhile_eq_nil_iff.2 h
    simp [stripped, hbody]
  | @lines front _ back hfront hends hfirst hlast hstarts hback =>
    have hseen : Visible lines := hfirst.of_firstLine
    have hmargin : lastLine ((front ++ (lines ++ back)).takeWhile isBlank) =
        lines.takeWhile isBlank := by
      rw [← takeWhile_isBlank_append hseen back]
      exact lastLine_takeWhile_append hfront hends (firstLine_append hstarts lines ▸ hfirst)
    have hbody : (front ++ (lines ++ back)).dropWhile isBlank =
        lines.dropWhile isBlank ++ back := by
      rw [List.dropWhile_append_of_pos hfront, dropWhile_isBlank_append hseen]
    have hne : (lines.dropWhile isBlank ++ back).isEmpty = false := by
      obtain ⟨c, hc, -⟩ := visible_dropWhile hseen
      exact List.isEmpty_eq_false_iff_exists_mem.2 ⟨c, List.mem_append_left _ hc⟩
    -- the last line is not blank, and it stays so without the blanks in front of all lines
    have hbodyLast : Visible (lastLine (lines.dropWhile isBlank)) := by
      rw [← List.takeWhile_append_dropWhile (p := isBlank) (l := lines)] at hlast
      exact visible_lastLine_of_append (fun c hc => List.mem_takeWhile_imp hc) hlast
    have htail := firstLine_takeWhile_append hbodyLast hstarts hback
    simp only [stripped, hbody, hne, hmargin, htail, trimEnd_append hback]
    rw [if_neg Bool.false_ne_true, List.append_assoc, trimEnd_append_blanks,
      List.takeWhile_append_dropWhile]

/-- The blank lines in front of a text that is not blank. -/
lemma exists_blank_front {text : List Char} (h : Visible text) :
    ∃ front rest, text = front ++ rest ∧ (∀ c ∈ front, isBlank c = true) ∧
      (∀ c ∈ front.getLast?, c = '\n') ∧ Visible (firstLine rest) := by
  induction text with
  | nil =>
    obtain ⟨c, hc, -⟩ := h
    cases hc
  | cons c text ih =>
    by_cases hvisible : Visible (firstLine (c :: text))
    · exact ⟨[], c :: text, rfl, by simp, by simp, hvisible⟩
    · -- the first line is blank, so a visible character can only stand behind its newline
      have hline : Visible ([c] ++ firstLine text) → c = '\n' := by
        intro hseen
        by_contra hc
        exact hvisible (firstLine_cons hc text ▸ hseen)
      have hc : ¬ Visible [c] := by
        intro hseen
        obtain rfl := hline (visible_append.2 (.inl hseen))
        exact absurd hseen (by simp [Visible]; decide)
      have hsplit : Visible ([c] ++ text) := h
      obtain ⟨front, rest, rfl, hfront, hends, hfirst⟩ :=
        ih ((visible_append.1 hsplit).resolve_left hc)
      refine ⟨c :: front, rest, rfl, ?_, ?_, hfirst⟩
      · exact List.forall_mem_cons.2 ⟨not_visible_iff.1 hc c (List.mem_singleton_self c), hfront⟩
      · cases front with
        | nil => simpa using hline (visible_append.2 (.inr hfirst))
        | cons d front => simpa [List.getLast?_cons_cons] using hends

lemma exists_stripsTo (source : List Char) : ∃ lines, StripsTo source lines := by
  by_cases hvisible : Visible source
  · obtain ⟨front, rest, rfl, hfront, hends, hfirst⟩ := exists_blank_front hvisible
    -- the blank lines behind the text are those in front of the text read backwards
    have hrest : Visible rest.reverse := visible_reverse.2 hfirst.of_firstLine
    obtain ⟨back, lines, hsplit, hback, hstarts, hlast⟩ := exists_blank_front hrest
    obtain rfl : rest = lines.reverse ++ back.reverse := by
      rw [← List.reverse_append, ← hsplit, List.reverse_reverse]
    have hback' : ∀ c ∈ back.reverse, isBlank c = true := by simpa using hback
    refine ⟨lines.reverse, .lines hfront hends (visible_firstLine_of_append hback' hfirst) ?_ ?_
      hback'⟩
    · rwa [lastLine_eq, visible_reverse, List.reverse_reverse]
    · simpa using hstarts
  · exact ⟨[], .blank (not_visible_iff.1 hvisible)⟩

lemma StripsTo.isInfix {source lines : List Char} (h : StripsTo source lines) :
    lines <:+: source := by
  cases h with
  | blank h => exact List.nil_infix
  | @lines front _ back => exact ⟨front, back, List.append_assoc front lines back⟩

/-- A text without the blank lines at its ends is what trimming looks at. -/
lemma stripsTo_iff {source lines : List Char} :
    StripsTo source lines ↔ lines = stripped source := by
  constructor
  · exact StripsTo.eq_stripped
  · rintro rfl
    obtain ⟨lines, hlines⟩ := exists_stripsTo source
    exact hlines.eq_stripped ▸ hlines

/-! ## Carriage returns -/

lemma dropCarriageReturn_concat (text : List Char) :
    dropCarriageReturn (text ++ ['\r']) = text := by
  simp [dropCarriageReturn]

lemma dropCarriageReturn_of_ne {text : List Char} (h : text.getLast? ≠ some '\r') :
    dropCarriageReturn text = text := by
  unfold dropCarriageReturn
  split
  · contradiction
  · rfl

lemma carriageReturn_cases (text : List Char) :
    (∃ front, text = front ++ ['\r']) ∨ text.getLast? ≠ some '\r' := by
  by_cases h : text.getLast? = some '\r'
  · exact .inl (List.getLast?_eq_some_iff.1 h)
  · exact .inr h

lemma dropCarriageReturn_isPrefix (text : List Char) : dropCarriageReturn text <+: text := by
  obtain ⟨front, rfl⟩ | h := carriageReturn_cases text
  · rw [dropCarriageReturn_concat]
    exact List.prefix_append front _
  · rw [dropCarriageReturn_of_ne h]

lemma dropCarriageReturn_eq_self_iff {text : List Char} :
    dropCarriageReturn text = text ↔ text.getLast? ≠ some '\r' := by
  obtain ⟨front, rfl⟩ | h := carriageReturn_cases text
  · rw [dropCarriageReturn_concat]
    simp
  · simp [h, dropCarriageReturn_of_ne h]

/-- A second carriage return is dropped just from the texts that end in two of them. -/
lemma dropCarriageReturn_twice_eq_iff (text : List Char) :
    dropCarriageReturn (dropCarriageReturn text) = dropCarriageReturn text ↔
      ¬ ['\r', '\r'] <:+ text := by
  rw [dropCarriageReturn_eq_self_iff, not_iff_not]
  obtain ⟨front, rfl⟩ | h := carriageReturn_cases text
  · rw [dropCarriageReturn_concat, List.getLast?_eq_some_iff]
    constructor
    · rintro ⟨u, rfl⟩
      exact ⟨u, by simp⟩
    · rintro ⟨u, hu⟩
      have hconcat : u ++ ['\r'] ++ ['\r'] = front ++ ['\r'] := by simpa using hu
      exact ⟨u, (List.append_cancel_right hconcat).symm⟩
  · rw [dropCarriageReturn_of_ne h]
    refine iff_of_false h ?_
    rintro ⟨u, rfl⟩
    simp at h

lemma stripsTo_self {lines : List Char} (hfirst : Visible (firstLine lines))
    (hlast : Visible (lastLine lines)) : StripsTo lines lines := by
  have hstrips : StripsTo ([] ++ (lines ++ [])) lines :=
    .lines (by simp) (by simp) hfirst hlast (by simp) (by simp)
  rwa [List.nil_append, List.append_nil] at hstrips

/-- Lines have no blank lines at their ends, and so they do without a carriage return. -/
lemma StripsTo.dropCarriageReturn {source lines : List Char} (h : StripsTo source lines) :
    StripsTo (dropCarriageReturn lines) (dropCarriageReturn lines) := by
  cases h with
  | blank h => exact .blank (by simp [Text.dropCarriageReturn])
  | lines _ _ hfirst hlast =>
    obtain ⟨front, rfl⟩ | hne := carriageReturn_cases lines
    · have hreturn : ∀ c ∈ ['\r'], isBlank c = true := List.forall_mem_singleton.2 (by decide)
      have hconcat : lastLine (front ++ ['\r']) = lastLine front ++ ['\r'] := by
        simp [lastLine]
      rw [dropCarriageReturn_concat]
      apply stripsTo_self
      · exact visible_firstLine_of_append hreturn hfirst
      · rw [hconcat, visible_append] at hlast
        exact hlast.resolve_right (not_visible_iff.2 hreturn)
    · rw [dropCarriageReturn_of_ne hne]
      exact stripsTo_self hfirst hlast

/-- Trimming twice drops up to two carriage returns. -/
lemma kept_trimBlankLines_twice (source : List Char) :
    (trimBlankLines (trimBlankLines source).kept).kept =
      dropCarriageReturn (dropCarriageReturn (stripped source)) := by
  have hlines := (stripsTo_iff.2 rfl : StripsTo source (stripped source)).dropCarriageReturn
  rw [kept_trimBlankLines source, kept_trimBlankLines, ← hlines.eq_stripped]

end ViewTemplate.Text

namespace ViewTemplate.Template

/-! ## Texts without markers -/

/-- A text in which no construct opens. -/
def Plain (markers : List Marker) (text : List Char) : Prop :=
  ∀ m ∈ markers, ¬ m.opening <:+: text

namespace Plain

variable {markers : List Marker} {text : List Char}

lemma of_isInfix {part : List Char} (h : Plain markers text) (hpart : part <:+: text) :
    Plain markers part :=
  fun m hm hopening => h m hm (hopening.trans hpart)

lemma tail {c : Char} (h : Plain markers (c :: text)) : Plain markers text :=
  h.of_isInfix (List.suffix_cons c text).isInfix

lemma opensWith?_eq_none (h : Plain markers text) : opensWith? markers text = none := by
  cases hopens : opensWith? markers text with
  | none => rfl
  | some found =>
    obtain ⟨m, after⟩ := found
    obtain ⟨hm, rfl⟩ := opensWith?_eq_some hopens
    exact absurd (List.prefix_append m.opening after).isInfix (h m hm)

lemma textUnit?_cons {c : Char} (h : Plain markers (c :: text)) :
    textUnit? markers (c :: text) = some ⟨[c], [c], text⟩ := by
  have htext : Plain markers text := h.tail
  simp only [textUnit?, h.opensWith?_eq_none, htext.opensWith?_eq_none]
  split
  · split
    · rename_i escaped hescaped
      split at hescaped
      · simp [htext.tail.opensWith?_eq_none] at hescaped
      · simp at hescaped
    · rfl
  · rfl

lemma readText_eq (h : Plain markers text) : readText markers text = ⟨text, text, []⟩ := by
  induction text with
  | nil => exact readText_nil markers
  | cons c text ih =>
    have hunit := h.textUnit?_cons
    rw [readText]
    split
    · rename_i hnone
      simp [hunit] at hnone
    · rename_i unit hsome
      obtain rfl := Option.some.inj (hunit.symm.trans hsome)
      rw [ih h.tail]
      rfl

/-- The cut of a plain text has one segment, or none if there is no text. -/
lemma segmentsFrom_eq_ok (h : Plain markers text) (line : Nat) :
    segmentsFrom markers line text = .ok (textSegment ⟨text, text, []⟩ line) := by
  rw [segmentsFrom_eq, h.readText_eq, opensWith?_nil]

end Plain

end ViewTemplate.Template

namespace ViewTemplate.Program

/-! ## Pages without markers -/

lemma assemble_act (a : Action) (line : Nat) :
    assemble [⟨.act a, line⟩] = .ok (actOps a line) :=
  by simp [assemble_eq_map_link, blocksOf, blocksFrom, Except.map, link, linkAll, Block.link]

end ViewTemplate.Program

namespace ViewTemplate.Engine

open ViewTemplate.Program
open ViewTemplate.Template (Marker Node Plain markersOf)
open ViewTemplate.Text (StripsTo dropCarriageReturn stripped trimBlankLines trimBlankLinesString)

/-- The nodes of a plain text: one, or none if there is no text. -/
def plainNodes (text : List Char) (line : Nat) : List Node :=
  if text.isEmpty then [] else [.text (String.ofList text) line]

lemma nodes_of_plain (engine : Engine) {view : View} {markers : List Marker}
    (hmarkers : markersOf view.delimiters = .ok markers)
    (hplain : Plain markers (trimBlankLines view.contents.toList).kept) :
    ∃ line, engine.nodes view =
      .ok (plainNodes (trimBlankLines view.contents.toList).kept line) := by
  refine ⟨1 + (trimBlankLines view.contents.toList).skipped, ?_⟩
  simp only [nodes, Template.tokens, hmarkers, Template.segments, hplain.segmentsFrom_eq_ok,
    Except.map]
  generalize (trimBlankLines view.contents.toList).kept = kept
  cases kept <;> rfl

/-- The program of a plain text writes it, unless there is no text. -/
lemma program_of_plain (engine : Engine) {view : View} {markers : List Marker}
    (hmarkers : markersOf view.delimiters = .ok markers)
    (hplain : Plain markers (trimBlankLines view.contents.toList).kept) :
    ∃ line, engine.program view =
      .ok (actOps (.text (String.ofList (trimBlankLines view.contents.toList).kept)) line) := by
  obtain ⟨line, hnodes⟩ := engine.nodes_of_plain hmarkers hplain
  refine ⟨line, ?_⟩
  rw [program, hnodes, plainNodes]
  split
  · rename_i hempty
    rw [List.isEmpty_iff.1 hempty]
    rfl
  · simp only [instructionsOfAll, instructionsOf, bind, Except.bind, List.append_nil, assemble_act]

/-- An operation that writes a text leaves it behind, also if there is no such operation. -/
lemma runAll_text {φ : Type} (engine : Engine) (create : ViewSource φ) (place : ViewPlace)
    (inner : RenderInner φ) (shown : String) (line steps : Nat) (scope : Vars)
    (shared : Shared φ) :
    (engine.machine create place inner).runAll (actOps (.text shown) line) (steps + 2)
        ⟨scope, {}, none, shared⟩ =
      .done ⟨scope, { text := shown }, none, shared⟩ := by
  unfold actOps
  split
  · rename_i hidle
    obtain rfl : shown = "" := by simpa [Action.isIdle] using hidle
    rfl
  · have hwritten : (⟨scope, {}, none, shared⟩ : Running φ).write shown =
        ⟨scope, { text := "" ++ shown }, none, shared⟩ := rfl
    rw [String.empty_append] at hwritten
    exact congrArg Outcome.done hwritten

/-- A page of plain text shows the text, trimmed twice. -/
lemma renderPage_of_plain {φ : Type} {engine : Engine} (hdepth : 0 < engine.maxDepth) {view : View}
    {markers : List Marker} (hmarkers : markersOf view.delimiters = .ok markers)
    (hplain : Plain markers (trimBlankLines view.contents.toList).kept) (create : ViewSource φ)
    (steps : Nat) (source : φ) :
    engine.renderPage create (steps + 2) view source =
      .done (trimBlankLinesString (trimBlankLinesString view.contents)) view { source } := by
  obtain ⟨room, hroom⟩ := Nat.exists_eq_add_of_lt hdepth
  rw [Nat.zero_add] at hroom
  obtain ⟨line, hprogram⟩ := engine.program_of_plain hmarkers hplain
  have hcycle : cycle? [] view.name = none := by
    simp [cycle?]
  have hpage : engine.renderPage create (steps + 2) view source =
      Request.render ⟨0, view.vars, view, { source }⟩ (engine.renderWith create (steps + 2)
        (engine.render create (steps + 2) room [view.name])) := by
    rw [renderPage, hroom, render, hcycle]
    rfl
  rw [hpage, renderWith_of_program (q := ⟨0, view.vars, view, { source }⟩) hprogram]
  show finish _ _ _ (Machine.runAll _ _ _ ⟨view.vars, {}, none, { source }⟩) = _
  rw [runAll_text, finish, conclude_of_outermost]
  all_goals rfl

lemma output_of_plain {engine : Engine} (hdepth : 0 < engine.maxDepth) {view : View}
    {markers : List Marker} (hmarkers : markersOf view.delimiters = .ok markers)
    (hplain : Plain markers (trimBlankLines view.contents.toList).kept) (factory : Factory) :
    engine.output view factory =
      (.ok (trimBlankLinesString (trimBlankLinesString view.contents)), factory) := by
  have hsteps : unlimitedSteps = unlimitedSteps - 2 + 2 := rfl
  rw [output, hsteps, renderPage_of_plain hdepth hmarkers hplain]

/-- **A page of plain text shows the text without the blank lines at its ends, and without up to
two carriage returns at the end of what is left.**  Trimming the template drops one of them and
trimming the output another one, so the page shows what trimming keeps of the template exactly if
what is left does not end in two carriage returns. -/
theorem output_of_plain_text {engine : Engine} (hdepth : 0 < engine.maxDepth) {view : View}
    {markers : List Marker} (hmarkers : markersOf view.delimiters = .ok markers)
    (hplain : ∀ m ∈ markers, ¬ m.opening <:+: view.contents.toList) (factory : Factory) :
    ∃ lines, (∀ other, StripsTo view.contents.toList other ↔ other = lines) ∧
      trimBlankLinesString view.contents = String.ofList (dropCarriageReturn lines) ∧
      engine.output view factory =
        (.ok (String.ofList (dropCarriageReturn (dropCarriageReturn lines))), factory) ∧
      (engine.output view factory = (.ok (trimBlankLinesString view.contents), factory) ↔
        ¬ ['\r', '\r'] <:+ lines) := by
  have hlines : StripsTo view.contents.toList (stripped view.contents.toList) :=
    Text.stripsTo_iff.2 rfl
  have hkept : Plain markers (trimBlankLines view.contents.toList).kept := by
    rw [Text.kept_trimBlankLines]
    exact Plain.of_isInfix hplain
      ((Text.dropCarriageReturn_isPrefix _).isInfix.trans hlines.isInfix)
  have honce : trimBlankLinesString view.contents =
      String.ofList (dropCarriageReturn (stripped view.contents.toList)) := by
    rw [trimBlankLinesString, Text.kept_trimBlankLines]
  have htwice : engine.output view factory =
      (.ok (String.ofList (dropCarriageReturn (dropCarriageReturn
        (stripped view.contents.toList)))), factory) := by
    rw [output_of_plain hdepth hmarkers hkept, trimBlankLinesString, trimBlankLinesString,
      String.toList_ofList, Text.kept_trimBlankLines_twice]
  refine ⟨stripped view.contents.toList, fun other => Text.stripsTo_iff, honce, htwice, ?_⟩
  rw [htwice, honce, ← Text.dropCarriageReturn_twice_eq_iff]
  simp [String.ofList_inj]

/-- Blank lines around two lines that end in carriage returns.  Braces open nothing here. -/
def marginPage : View where
  contents := "\u2003\n  a \\\x7b\x7b b\r\n \n c\t\r\n\n"
  delimiters := Delimiters.set {} .sanitized ⟨"[[", "]]"⟩

/-- The page shows its lines, the first one with its blanks and the last one without its end. -/
theorem output_of_plain_text_margins :
    ∃ markers, markersOf marginPage.delimiters = .ok markers ∧
      (∀ m ∈ markers, ¬ m.opening <:+: marginPage.contents.toList) ∧
      StripsTo marginPage.contents.toList "  a \\\x7b\x7b b\r\n \n c\t\r".toList ∧
      Engine.output {} marginPage {} = (.ok "  a \\\x7b\x7b b\r\n \n c\t", {}) := by
  have hstrips : StripsTo marginPage.contents.toList
      "  a \\\x7b\x7b b\r\n \n c\t\r".toList :=
    Text.stripsTo_iff.2 (by decide +kernel)
  obtain ⟨markers, hmarkers, hplain⟩ : ∃ markers, markersOf marginPage.delimiters = .ok markers ∧
      ∀ m ∈ markers, ¬ m.opening <:+: marginPage.contents.toList := ⟨_, rfl, by decide +kernel⟩
  have hdepth : 0 < ({} : Engine).maxDepth := by decide
  obtain ⟨lines, hlines, -, houtput, -⟩ := output_of_plain_text hdepth hmarkers hplain {}
  obtain rfl := (hlines _).1 hstrips
  exact ⟨markers, hmarkers, hplain, hstrips, houtput⟩

/-- A page that ends in two carriage returns. -/
def returnsPage : View where
  contents := "a\r\r"

/-- Neither of them is shown, though trimming the template keeps one. -/
theorem output_drops_second_return :
    trimBlankLinesString returnsPage.contents = "a\r" ∧
      Engine.output {} returnsPage {} = (.ok "a", {}) ∧
      Engine.output {} returnsPage {} ≠ (.ok (trimBlankLinesString returnsPage.contents), {}) := by
  have hkept : trimBlankLinesString returnsPage.contents = "a\r" := by decide
  have hplain : Plain Template.defaultMarkers
      (trimBlankLines returnsPage.contents.toList).kept := by
    unfold Plain
    decide +kernel
  have houtput : Engine.output {} returnsPage {} = (.ok "a", {}) :=
    output_of_plain (by decide) Template.markersOf_default hplain {}
  refine ⟨hkept, houtput, ?_⟩
  rw [hkept, houtput]
  intro h
  have hsame : "a" = "a\r" := Except.ok.inj (Prod.mk.inj h).1
  exact absurd hsame (by decide)

end ViewTemplate.Engine
