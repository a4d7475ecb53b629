import Mathlib.Tactic.Common
import ViewTemplate.Proofs.Lineage
import ViewTemplate.Proofs.PlainText

/-!
# What trimming drops, line by line

`trimBlankLines` looks at the blanks at both ends of a text and cuts them at newlines.  Here the
same is said by lines: `linesOf` cuts a text behind every newline, what is dropped in front are the
blank lines up to the first line that is not blank, and what is dropped behind starts with the end
of the last line that is not blank.

The proof follows `StripsTo`.  A text that is not blank is lines between two margins, the margins
fall into lines of their own (`linesOf_append`), and so the lines of the whole text can be told
apart into those of the front margin, those that are kept and those of the margin behind.

Every page that is rendered has been trimmed last, so it is empty or starts and ends with a line
that is not blank (`Engine.exists_trimmed`).
-/

namespace ViewTemplate.Text

/-! ## First and last lines -/

lemma newlines_append (text more : List Char) :
    newlines (text ++ more) = newlines text + newlines more :=
  List.count_append

lemma newlines_eq_zero {text : List Char} (h : '\n' ∉ text) : newlines text = 0 :=
  List.count_eq_zero_of_not_mem h

lemma newline_notMem_firstLine (text : List Char) : '\n' ∉ firstLine text := by
  intro h
  simpa using List.mem_takeWhile_imp h

/-- A newline stands behind the first line, or nothing does. -/
lemma exists_firstLine_append (text : List Char) :
    ∃ more, text = firstLine text ++ more ∧ ∀ c ∈ more.head?, c = '\n' := by
  refine ⟨text.dropWhile (· != '\n'), List.takeWhile_append_dropWhile.symm, ?_⟩
  intro c hc
  have hhead := List.head?_dropWhile_not (· != '\n') text
  rw [Option.mem_def.1 hc] at hhead
  simpa using hhead

lemma exists_append_lastLine (text : List Char) :
    ∃ front, text = front ++ lastLine text ∧ ∀ c ∈ front.getLast?, c = '\n' := by
  obtain ⟨more, hmore, hstarts⟩ := exists_firstLine_append text.reverse
  refine ⟨more.reverse, ?_, ?_⟩
  · rw [lastLine_eq, ← List.reverse_append, ← hmore, List.reverse_reverse]
  · rwa [List.getLast?_reverse]

/-! ## Lines -/

/-- The lines of a text, each with its newline; the last one may have none. -/
def linesOf : List Char → List (List Char)
  | [] => []
  | c :: text =>
    if c = '\n' then [c] :: linesOf text
    else (c :: (linesOf text).headD []) :: (linesOf text).tail

lemma linesOf_newline (text : List Char) : linesOf ('\n' :: text) = ['\n'] :: linesOf text := by
  rw [linesOf, if_pos rfl]

lemma linesOf_cons {c : Char} (h : c ≠ '\n') (text : List Char) :
    linesOf (c :: text) = (c :: (linesOf text).headD []) :: (linesOf text).tail := by
  rw [linesOf, if_neg h]

lemma flatten_linesOf (text : List Char) : (linesOf text).flatten = text := by
  induction text with
  | nil => rfl
  | cons c text ih =>
    by_cases hc : c = '\n'
    · rw [hc, linesOf_newline, List.flatten_cons, ih, List.singleton_append]
    · rw [linesOf_cons hc, List.flatten_cons, List.cons_append]
      cases hlines : linesOf text with
      | nil => simpa [hlines] using ih
      | cons line lines => simpa [hlines] using ih

lemma linesOf_ne_nil {text : List Char} (h : text ≠ []) : linesOf text ≠ [] := by
  intro hnil
  apply h
  rw [← flatten_linesOf text, hnil, List.flatten_nil]

/-- A text that ends with a newline falls into lines of its own. -/
lemma linesOf_append {front : List Char} (hends : ∀ c ∈ front.getLast?, c = '\n')
    (text : List Char) : linesOf (front ++ text) = linesOf front ++ linesOf text := by
  induction front with
  | nil => rfl
  | cons c front ih =>
    by_cases hlast : front = []
    · obtain rfl : c = '\n' := hends c (by simp [hlast])
      rw [hlast, List.singleton_append, linesOf_newline, linesOf_newline, linesOf,
        List.singleton_append]
    · have hrest : linesOf (front ++ text) = linesOf front ++ linesOf text := by
        apply ih
        rwa [List.getLast?_cons_of_ne_nil hlast] at hends
      by_cases hc : c = '\n'
      · rw [hc, List.cons_append, linesOf_newline, linesOf_newline, hrest, List.cons_append]
      · obtain ⟨line, lines, hlines⟩ := List.exists_cons_of_ne_nil (linesOf_ne_nil hlast)
        rw [List.cons_append, linesOf_cons hc, linesOf_cons hc, hrest, hlines]
        rfl

/-- A line that has text reaches up to the newline behind it, or to the end. -/
lemma exists_line {line back : List Char} (hne : line ≠ []) (hline : '\n' ∉ line)
    (hstarts : ∀ c ∈ back.head?, c = '\n') :
    ∃ newline after, linesOf (line ++ back) = (line ++ newline) :: after ∧
      (newline = [] ∨ newline = ['\n']) ∧ back = newline ++ after.flatten := by
  induction line with
  | nil => contradiction
  | cons c line ih =>
    have hc : c ≠ '\n' := fun heq => hline (heq ▸ List.mem_cons_self)
    by_cases hlast : line = []
    · rw [hlast, List.singleton_append, linesOf_cons hc]
      cases back with
      | nil => exact ⟨[], [], rfl, .inl rfl, rfl⟩
      | cons d rest =>
        -- the line reaches up to a newline, which belongs to it
        obtain rfl : d = '\n' := hstarts d rfl
        refine ⟨['\n'], linesOf rest, ?_, .inr rfl, ?_⟩
        · rw [linesOf_newline]
          rfl
        · rw [flatten_linesOf, List.singleton_append]
    · obtain ⟨newline, after, hlines, hnewline, hback⟩ :=
        ih hlast fun hmem => hline (List.mem_cons_of_mem c hmem)
      refine ⟨newline, after, ?_, hnewline, hback⟩
      rw [List.cons_append, linesOf_cons hc, hlines]
      rfl

lemma lineCount_cons (c : Char) {text : List Char} (h : text ≠ []) :
    lineCount (c :: text) = newlines [c] + lineCount text := by
  have hnewlines : newlines (c :: text) = newlines [c] + newlines text :=
    newlines_append [c] text
  unfold lineCount
  rw [List.getLast?_cons_of_ne_nil h, hnewlines]
  split
  · rename_i hnone
    exact absurd (List.getLast?_eq_none_iff.1 hnone) h
  · rfl
  · exact Nat.add_assoc _ _ _

lemma length_linesOf (text : List Char) : (linesOf text).length = lineCount text := by
  induction text with
  | nil => rfl
  | cons c text ih =>
    by_cases htext : text = []
    · rw [htext]
      by_cases hc : c = '\n'
      · rw [hc, linesOf_newline]
        rfl
      · simp [linesOf, lineCount, newlines, hc]
    · rw [lineCount_cons c htext, ← ih]
      by_cases hc : c = '\n'
      · rw [hc, linesOf_newline, List.length_cons, Nat.add_comm]
        rfl
      · have hzero : newlines [c] = 0 := newlines_eq_zero (by simpa using Ne.symm hc)
        have hpos : 0 < (linesOf text).length := List.length_pos_iff.2 (linesOf_ne_nil htext)
        rw [linesOf_cons hc, List.length_cons, List.length_tail, hzero]
        omega

/-! ## Blank lines -/

/-- Whether a line has blanks only. -/
def isBlankLine (line : List Char) : Bool :=
  line.all isBlank

/-- The blank lines in front of the first line that is not blank. -/
def leadingBlankLines (source : List Char) : List (List Char) :=
  (linesOf source).takeWhile isBlankLine

lemma isBlankLine_iff {line : List Char} : isBlankLine line = true ↔ ¬ Visible line := by
  rw [not_visible_iff, isBlankLine, List.all_eq_true]

lemma isBlankLine_of_mem {text line : List Char} (h : ∀ c ∈ text, isBlank c = true)
    (hline : line ∈ linesOf text) : isBlankLine line = true := by
  rw [isBlankLine, List.all_eq_true]
  intro c hc
  apply h
  rw [← flatten_linesOf text]
  exact List.mem_flatten_of_mem hline hc

lemma leadingBlankLines_of_blank {source : List Char} (h : ∀ c ∈ source, isBlank c = true) :
    leadingBlankLines source = linesOf source :=
  List.takeWhile_eq_self_iff.2 fun _ => isBlankLine_of_mem h

lemma Visible.ne_nil {text : List Char} (h : Visible text) : text ≠ [] := by
  rintro rfl
  obtain ⟨c, hc, -⟩ := h
  exact List.not_mem_nil hc

lemma blank_leadingBlankLines (source : List Char) :
    ∀ c ∈ (leadingBlankLines source).flatten, isBlank c = true := by
  intro c hc
  obtain ⟨line, hline, hc⟩ := List.mem_flatten.1 hc
  have hblank : isBlankLine line = true := List.mem_takeWhile_imp hline
  exact List.all_eq_true.1 hblank c hc

/-- A first line that is not blank ends the blank lines in front of it. -/
lemma leadingBlankLines_append {front rest : List Char} (hfront : ∀ c ∈ front, isBlank c = true)
    (hends : ∀ c ∈ front.getLast?, c = '\n') (hfirst : Visible (firstLine rest)) :
    leadingBlankLines (front ++ rest) = linesOf front := by
  obtain ⟨more, hrest, hstarts⟩ := exists_firstLine_append rest
  obtain ⟨newline, after, hlines, -, -⟩ :=
    exists_line hfirst.ne_nil (newline_notMem_firstLine rest) hstarts
  have hseen : ¬ isBlankLine (firstLine rest ++ newline) = true := by
    rw [isBlankLine_iff, not_not, visible_append]
    exact .inl hfirst
  rw [← hrest] at hlines
  rw [leadingBlankLines, linesOf_append hends,
    List.takeWhile_append_of_pos fun _ => isBlankLine_of_mem hfront, hlines,
    List.takeWhile_cons_of_neg hseen, List.append_nil]

/-! ## The end of a line -/

/-- A line without its end, and the end: the newline, if there is one, with one carriage return in
front of it, if there is one. -/
inductive LineParts : (text lineEnd : List Char) → Prop
  | plain {text newline : List Char} (hline : '\n' ∉ text) (hreturn : text.getLast? ≠ some '\r')
      (hnewline : newline = [] ∨ newline = ['\n']) : LineParts text newline
  | returned {text newline : List Char} (hline : '\n' ∉ text)
      (hnewline : newline = [] ∨ newline = ['\n']) : LineParts text ('\r' :: newline)

/-- What follows the text of the last line that is not blank: the end of that line, and blank
lines. -/
def FollowsLastLine (source back : List Char) : Prop :=
  ∃ before text lineEnd after, linesOf source = before ++ (text ++ lineEnd) :: after ∧
    Visible text ∧ LineParts text lineEnd ∧ (∀ line ∈ after, ¬ Visible line) ∧
    back = lineEnd ++ after.flatten

lemma LineParts.blank {text lineEnd : List Char} (h : LineParts text lineEnd) :
    ∀ c ∈ lineEnd, isBlank c = true := by
  have hall : ∀ newline, newline = [] ∨ newline = ['\n'] →
      ∀ c ∈ '\r' :: newline, isBlank c = true := by
    rintro newline (rfl | rfl)
    · exact List.all_eq_true.1 (by decide)
    · exact List.all_eq_true.1 (by decide)
  cases h with
  | plain _ _ hnewline => exact fun c hc => hall _ hnewline c (List.mem_cons_of_mem '\r' hc)
  | returned _ hnewline => exact hall _ hnewline

lemma FollowsLastLine.blank {source back : List Char} (h : FollowsLastLine source back) :
    ∀ c ∈ back, isBlank c = true := by
  obtain ⟨before, text, lineEnd, after, -, -, hend, hafter, rfl⟩ := h
  intro c hc
  obtain hc | hc := List.mem_append.1 hc
  · exact hend.blank c hc
  · obtain ⟨line, hline, hc⟩ := List.mem_flatten.1 hc
    exact not_visible_iff.1 (hafter line hline) c hc

/-- One carriage return at most belongs to the end of a line. -/
lemma exists_lineParts {line newline : List Char} (hline : '\n' ∉ line)
    (hnewline : newline = [] ∨ newline = ['\n']) :
    ∃ lineEnd, line ++ newline = dropCarriageReturn line ++ lineEnd ∧
      LineParts (dropCarriageReturn line) lineEnd := by
  obtain ⟨front, rfl⟩ | hne := carriageReturn_cases line
  · rw [dropCarriageReturn_concat]
    refine ⟨'\r' :: newline, List.append_assoc front ['\r'] newline, .returned ?_ hnewline⟩
    exact fun hmem => hline (List.mem_append_left ['\r'] hmem)
  · rw [dropCarriageReturn_of_ne hne]
    exact ⟨newline, rfl, .plain hline hne hnewline⟩

lemma dropCarriageReturn_append (front : List Char) {line : List Char} (h : line ≠ []) :
    dropCarriageReturn (front ++ line) = front ++ dropCarriageReturn line := by
  obtain ⟨text, rfl⟩ | hne := carriageReturn_cases line
  · rw [← List.append_assoc, dropCarriageReturn_concat, dropCarriageReturn_concat]
  · rw [dropCarriageReturn_of_ne hne, dropCarriageReturn_of_ne]
    rwa [List.getLast?_append_of_ne_nil front h]

lemma Visible.dropCarriageReturn {text : List Char} (h : Visible text) :
    Visible (dropCarriageReturn text) := by
  obtain ⟨front, rfl⟩ | hne := carriageReturn_cases text
  · have hreturn : ¬ Visible ['\r'] := not_visible_iff.2 (List.forall_mem_singleton.2 (by decide))
    rw [dropCarriageReturn_concat]
    exact (visible_append.1 h).resolve_right hreturn
  · rwa [dropCarriageReturn_of_ne hne]

/-- What stands behind the lines that are kept starts with the end of the last one. -/
lemma exists_back {front lines back : List Char} (hends : ∀ c ∈ front.getLast?, c = '\n')
    (hlast : Visible (lastLine lines)) (hstarts : ∀ c ∈ back.head?, c = '\n')
    (hback : ∀ c ∈ back, isBlank c = true) :
    ∃ dropped, lines ++ back = dropCarriageReturn lines ++ dropped ∧
      FollowsLastLine (front ++ (lines ++ back)) dropped := by
  obtain ⟨before, hlines, hbefore⟩ := exists_append_lastLine lines
  have hline : '\n' ∉ lastLine lines := by
    rw [lastLine_eq, List.mem_reverse]
    exact newline_notMem_firstLine _
  obtain ⟨newline, after, hcut, hnewline, hafter⟩ := exists_line hlast.ne_nil hline hstarts
  obtain ⟨lineEnd, hparts, hend⟩ := exists_lineParts hline hnewline
  have hsplit : lines ++ back = before ++ (lastLine lines ++ back) := by
    rw [← List.append_assoc, ← hlines]
  have hkept : dropCarriageReturn lines = before ++ dropCarriageReturn (lastLine lines) := by
    rw [← dropCarriageReturn_append before hlast.ne_nil, ← hlines]
  have hblank : ∀ line ∈ after, ¬ Visible line := by
    intro line hmem
    refine not_visible_iff.2 fun c hc => hback c ?_
    rw [hafter]
    exact List.mem_append_right newline (List.mem_flatten_of_mem hmem hc)
  refine ⟨lineEnd ++ after.flatten, ?_, linesOf front ++ linesOf before,
    dropCarriageReturn (lastLine lines), lineEnd, after, ?_, hlast.dropCarriageReturn, hend, hblank,
    rfl⟩
  · calc lines ++ back = before ++ (lastLine lines ++ newline ++ after.flatten) := by
          rw [hsplit, hafter, List.append_assoc]
      _ = dropCarriageReturn lines ++ (lineEnd ++ after.flatten) := by
          rw [hparts, hkept, List.append_assoc, List.append_assoc]
  · rw [hsplit, linesOf_append hends, linesOf_append hbefore, hcut, hparts, List.append_assoc]

/-! ## What trimming drops -/

lemma StripsTo.visible_ends {source lines : List Char} (h : StripsTo source lines) :
    lines = [] ∨ Visible (firstLine lines) ∧ Visible (lastLine lines) := by
  cases h with
  | blank h => exact .inl rfl
  | lines _ _ hfirst hlast => exact .inr ⟨hfirst, hlast⟩

/-- What trimming keeps is empty, or it starts and ends with a line that is not blank. -/
lemma visible_ends_trimBlankLines (source : List Char) :
    (trimBlankLines source).kept = [] ∨ Visible (firstLine (trimBlankLines source).kept) ∧
      Visible (lastLine (trimBlankLines source).kept) := by
  have hstrips : StripsTo source (stripped source) := stripsTo_iff.2 rfl
  rw [kept_trimBlankLines]
  exact hstrips.dropCarriageReturn.visible_ends

/-- The blank lines in front are counted by their newlines. -/
lemma skipped_trimBlankLines {front rest : List Char} (hfront : ∀ c ∈ front, isBlank c = true)
    (hfirst : Visible (firstLine rest)) :
    (trimBlankLines (front ++ rest)).skipped = newlines front := by
  have hbody : ¬ ((front ++ rest).dropWhile isBlank).isEmpty = true := by
    rw [List.isEmpty_iff, List.dropWhile_eq_nil_iff, ← not_visible_iff, not_not, visible_append]
    exact .inr hfirst.of_firstLine
  rw [trimBlankLines]
  dsimp only
  rw [if_neg hbody]
  show newlines ((front ++ rest).takeWhile isBlank) = newlines front
  rw [List.takeWhile_append_of_pos hfront, newlines_append,
    newlines_eq_zero (newline_notMem_takeWhile hfirst), Nat.add_zero]

lemma trimBlankLines_of_blank {source : List Char} (h : ∀ c ∈ source, isBlank c = true) :
    trimBlankLines source = ⟨[], lineCount source⟩ := by
  have hbody : (source.dropWhile isBlank).isEmpty = true := by
    rwa [List.isEmpty_iff, List.dropWhile_eq_nil_iff]
  rw [trimBlankLines]
  dsimp only
  rw [if_pos hbody]

lemma lineCount_of_ends {front : List Char} (hends : ∀ c ∈ front.getLast?, c = '\n') :
    lineCount front = newlines front := by
  unfold lineCount
  split
  · rename_i hnone
    rw [List.getLast?_eq_none_iff.1 hnone]
    rfl
  · rfl
  · rename_i c hne hlast
    exact absurd (hends c hlast) hne

/-- Trimming splits a text into the blank lines in front, what it keeps, and what follows the text
of the last line that is not blank. -/
lemma exists_dropped (source : List Char) :
    ∃ back, source = (leadingBlankLines source).flatten ++ ((trimBlankLines source).kept ++ back) ∧
      (trimBlankLines source).skipped = (leadingBlankLines source).length ∧
      ((¬ Visible source ∧ (trimBlankLines source).kept = [] ∧ back = []) ∨
        Visible source ∧ (trimBlankLines source).kept ≠ [] ∧
          (trimBlankLines source).skipped = newlines (leadingBlankLines source).flatten ∧
          FollowsLastLine source back) := by
  have hstrips : StripsTo source (stripped source) := stripsTo_iff.2 rfl
  have hkept := kept_trimBlankLines source
  generalize stripped source = lines at hstrips hkept
  cases hstrips with
  | blank hblank =>
    have hlines := leadingBlankLines_of_blank hblank
    have htrim := trimBlankLines_of_blank hblank
    refine ⟨[], ?_, ?_, .inl ⟨not_visible_iff.2 hblank, ?_, rfl⟩⟩
    · rw [hlines, flatten_linesOf, htrim, List.append_nil, List.append_nil]
    · rw [hlines, length_linesOf, htrim]
    · rw [htrim]
  | @lines front _ back hfront hends hfirst hlast hstarts hback =>
    have hrest : Visible (firstLine (lines ++ back)) := by
      rwa [firstLine_append hstarts]
    have hlines := leadingBlankLines_append hfront hends hrest
    have hskipped := skipped_trimBlankLines hfront hrest
    have hseen : Visible lines := hfirst.of_firstLine
    obtain ⟨dropped, hdropped, hfollows⟩ := exists_back hends hlast hstarts hback
    refine ⟨dropped, ?_, ?_, .inr ⟨?_, ?_, ?_, hfollows⟩⟩
    · rw [hlines, flatten_linesOf, hkept, hdropped]
    · rw [hlines, length_linesOf, hskipped, lineCount_of_ends hends]
    · rw [visible_append, visible_append]
      exact .inr (.inl hseen)
    · rw [hkept]
      exact hseen.dropCarriageReturn.ne_nil
    · rw [hlines, flatten_linesOf, hskipped]

end ViewTemplate.Text

namespace ViewTemplate.Engine

open ViewTemplate.Text

lemma exists_trimmed {φ : Type} {engine : Engine} {create : ViewSource φ} {steps : Nat}
    {view after : View} {views : φ} {text : String} {shared : Shared φ}
    (h : engine.renderPage create steps view views = .done text after shared) :
    ∃ out, text = trimBlankLinesString out := by
  have hpage : engine.rendering create steps (.page engine view views) = .done text after shared :=
    h
  obtain ⟨-, r, -, -, ⟨-, rfl, -, -⟩ | ⟨parent, outer, above, -, -, rfl, -⟩⟩ :=
    rendering_eq_done hpage
  · exact ⟨_, rfl⟩
  · exact ⟨_, rfl⟩

/-- **Trimming removes exactly the blank lines at both ends.**  In front go the blank lines up to
the first line that is not blank, and they are counted.  Behind goes the end of the last line that
is not blank, a carriage return and a newline, with the blank lines after it.  Nothing is kept of a
text exactly if it is blank, and what is kept starts and ends with a line that is not blank.  So
does every page that is rendered, unless it is empty. -/
theorem trimming_drops_blank_lines (source : List Char) :
    (∃ front back, source = front ++ ((trimBlankLines source).kept ++ back) ∧
      front = ((linesOf source).takeWhile isBlankLine).flatten ∧
      (trimBlankLines source).skipped = ((linesOf source).takeWhile isBlankLine).length ∧
      ((trimBlankLines source).kept ≠ [] → (trimBlankLines source).skipped = newlines front) ∧
      (∀ c ∈ back, isBlank c = true) ∧
      ((trimBlankLines source).kept = [] ∧ back = [] ∨ FollowsLastLine source back)) ∧
    ((trimBlankLines source).kept = [] ↔ ∀ c ∈ source, isBlank c = true) ∧
    ((trimBlankLines source).kept ≠ [] → Visible (firstLine (trimBlankLines source).kept) ∧
      Visible (lastLine (trimBlankLines source).kept)) ∧
    ∀ (φ : Type) (engine : Engine) (create : ViewSource φ) (steps : Nat) (view after : View)
      (views : φ) (text : String) (shared : Shared φ),
      engine.renderPage create steps view views = .done text after shared →
        text = "" ∨ Visible (firstLine text.toList) ∧ Visible (lastLine text.toList) := by
  obtain ⟨back, hsource, hskipped, hcases⟩ := exists_dropped source
  refine ⟨⟨_, back, hsource, rfl, hskipped, ?_, ?_, ?_⟩, ?_, ?_, ?_⟩
  · intro hkept
    obtain ⟨-, hnil, -⟩ | ⟨-, -, hnewlines, -⟩ := hcases
    · contradiction
    · exact hnewlines
  · obtain ⟨-, -, rfl⟩ | ⟨-, -, -, hfollows⟩ := hcases
    · exact fun c hc => absurd hc List.not_mem_nil
    · exact hfollows.blank
  · obtain ⟨-, hempty⟩ | ⟨-, -, -, hfollows⟩ := hcases
    · exact .inl hempty
    · exact .inr hfollows
  · rw [← not_visible_iff]
    obtain ⟨hblank, hnil, -⟩ | ⟨hvisible, hne, -, -⟩ := hcases
    · exact iff_of_true hnil hblank
    · exact iff_of_false hne (not_not.2 hvisible)
  · exact (visible_ends_trimBlankLines source).resolve_left
  · intro φ engine create steps view after views text shared hpage
    obtain ⟨out, rfl⟩ := exists_trimmed hpage
    rw [trimBlankLinesString, String.toList_ofList, String.ofList_eq_empty_iff]
    exact visible_ends_trimBlankLines out.toList

end ViewTemplate.Engine
