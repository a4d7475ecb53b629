import Mathlib.Data.List.Induction
import Mathlib.Tactic.Common
import ViewTemplate.Proofs.BodyEnds
import ViewTemplate.Proofs.JoinedScripts

/-!
# Where a text is cut at a separator

`splitTopLevel` walks over a text once and keeps track of quotes, escapes and open brackets.
`splitTopLevel_cuts` says what comes out without a walk.  The parts and the separators between them
are the text, whatever the separator is.  A separator that is neither a quote nor a bracket is a cut
exactly if the text in front of it is at top level: its quoted strings are closed, and no bracket is
open at its end (`LeavesOpen`).  Text need not be well formed: a closing bracket that closes nothing
counts for nothing, the two kinds of brackets are not told apart, and a string without an end runs
to the end of the text.

The walk moves in the same way whatever the separator is (`Standing.next`), and `leavesOpen_iff`
ties it to the grammar.  Each character of the text then either makes a cut or goes to the front of
the first part behind it (`partsFrom_cons`), and the results are inductions over that equation.
-/

namespace ViewTemplate.Directive

open ViewTemplate.Template (IsQuote QuoteBody BracketPair isQuiet char_cases)

/-! ## Open brackets and open strings -/

/-- The quoted strings of a text are closed, and it leaves brackets open: an opening bracket opens
one more, and a closing bracket one less if there is one. -/
inductive LeavesOpen : (text : List Char) → (depth : Nat) → Prop
  | nil : LeavesOpen [] 0
  | plain {text : List Char} {depth : Nat} {c : Char} (h : LeavesOpen text depth)
      (hc : isQuiet c = true) : LeavesOpen (text ++ [c]) depth
  | quoted {text body : List Char} {depth : Nat} {quote : Char} (h : LeavesOpen text depth)
      (hquote : IsQuote quote) (hbody : QuoteBody quote body) :
      LeavesOpen (text ++ quote :: (body ++ [quote])) depth
  | opening {text : List Char} {depth : Nat} {opening closing : Char} (h : LeavesOpen text depth)
      (hpair : BracketPair opening closing) : LeavesOpen (text ++ [opening]) (depth + 1)
  | closing {text : List Char} {depth : Nat} {opening closing : Char} (h : LeavesOpen text depth)
      (hpair : BracketPair opening closing) : LeavesOpen (text ++ [closing]) (depth - 1)

/-- Behind the text, a place is outside of strings and brackets. -/
def AtTopLevel (text : List Char) : Prop :=
  LeavesOpen text 0

/-- Behind the text, a place is inside of brackets. -/
def InBrackets (text : List Char) : Prop :=
  ∃ depth, LeavesOpen text (depth + 1)

/-- Behind the text, a place is inside of a quoted string, perhaps right behind a backslash. -/
def InString (text : List Char) : Prop :=
  ∃ before quote body depth, text = before ++ quote :: body ∧ LeavesOpen before depth ∧
    IsQuote quote ∧ (QuoteBody quote body ∨ ∃ inner, body = inner ++ ['\\'] ∧ QuoteBody quote inner)

/-! ## The walk over the text -/

/-- Where the walk stands: with respect to quotes, and how many brackets are open. -/
structure Standing where
  quoting : Quoting
  depth : Nat
  deriving DecidableEq

namespace Standing

/-- Outside of quotes and brackets. -/
def top : Standing := ⟨.outside, 0⟩

/-- Move over one character. -/
def next : Standing → Char → Standing
  | ⟨.inside quote, depth⟩, c => ⟨insideNext quote c, depth⟩
  | ⟨.escaped quote, depth⟩, _ => ⟨.inside quote, depth⟩
  | ⟨.outside, depth⟩, c =>
    if c = '"' ∨ c = '\'' then ⟨.inside c, depth⟩
    else if c = '(' ∨ c = '[' then ⟨.outside, depth + 1⟩
    else if c = ')' ∨ c = ']' then ⟨.outside, depth - 1⟩
    else ⟨.outside, depth⟩

/-- Move over a text. -/
def after (s : Standing) (text : List Char) : Standing :=
  text.foldl next s

lemma after_append (s : Standing) (text more : List Char) :
    s.after (text ++ more) = (s.after text).after more :=
  List.foldl_append

lemma after_cons (s : Standing) (c : Char) (text : List Char) :
    s.after (c :: text) = (s.next c).after text :=
  rfl

lemma next_quote {quote : Char} (h : IsQuote quote) (depth : Nat) :
    next ⟨.outside, depth⟩ quote = ⟨.inside quote, depth⟩ :=
  if_pos h

lemma next_opening {opening closing : Char} (h : BracketPair opening closing) (depth : Nat) :
    next ⟨.outside, depth⟩ opening = ⟨.outside, depth + 1⟩ := by
  cases h <;> rfl

lemma next_closing {opening closing : Char} (h : BracketPair opening closing) (depth : Nat) :
    next ⟨.outside, depth⟩ closing = ⟨.outside, depth - 1⟩ := by
  cases h <;> rfl

lemma next_of_isQuiet {c : Char} (h : isQuiet c = true) (depth : Nat) :
    next ⟨.outside, depth⟩ c = ⟨.outside, depth⟩ := by
  simp only [isQuiet, List.contains_eq_mem, List.mem_cons, List.not_mem_nil, or_false,
    Bool.not_eq_true', decide_eq_false_iff_not, not_or] at h
  simp only [next, h, or_self, if_false]

lemma after_quoteBody {quote : Char} {body : List Char} (h : QuoteBody quote body) (depth : Nat) :
    after ⟨.inside quote, depth⟩ body = ⟨.inside quote, depth⟩ := by
  induction h with
  | nil => rfl
  | plain _ hquote hescape ih =>
    rw [after_append, ih]
    simp [after, next, insideNext, hquote, hescape]
  | escape _ c ih =>
    rw [after_append, ih]
    simp [after, next, insideNext]

lemma after_of_leavesOpen {text : List Char} {depth : Nat} (h : LeavesOpen text depth) :
    top.after text = ⟨.outside, depth⟩ := by
  induction h with
  | nil => rfl
  | plain _ hc ih =>
    rw [after_append, ih]
    exact next_of_isQuiet hc _
  | @quoted text body depth quote _ hquote hbody ih =>
    have hescape : quote ≠ '\\' := by obtain rfl | rfl := hquote <;> decide
    rw [after_append, ih, after_cons, next_quote hquote, after_append, after_quoteBody hbody]
    simp [after, next, insideNext, hescape]
  | opening _ hpair ih =>
    rw [after_append, ih]
    exact next_opening hpair _
  | closing _ hpair ih =>
    rw [after_append, ih]
    exact next_closing hpair _

/-- What the text is behind which the walk stands. -/
def Behind (text : List Char) : Standing → Prop
  | ⟨.outside, depth⟩ => LeavesOpen text depth
  | ⟨.inside quote, depth⟩ => ∃ before body, text = before ++ quote :: body ∧
      LeavesOpen before depth ∧ IsQuote quote ∧ QuoteBody quote body
  | ⟨.escaped quote, depth⟩ => ∃ before body, text = before ++ quote :: (body ++ ['\\']) ∧
      LeavesOpen before depth ∧ IsQuote quote ∧ QuoteBody quote body

lemma Behind.next {text : List Char} {s : Standing} (h : s.Behind text) (c : Char) :
    (s.next c).Behind (text ++ [c]) := by
  obtain ⟨quoting, depth⟩ := s
  cases quoting with
  | outside =>
    have hopen : LeavesOpen text depth := h
    -- outside of quotes a closing bracket counts even if nothing is open
    obtain hquote | ⟨closing, hpair⟩ | ⟨opening, hpair⟩ | hquiet := char_cases c
    · rw [next_quote hquote]
      exact ⟨text, [], rfl, hopen, hquote, .nil⟩
    · rw [next_opening hpair]
      exact hopen.opening hpair
    · rw [next_closing hpair]
      exact hopen.closing hpair
    · rw [next_of_isQuiet hquiet]
      exact hopen.plain hquiet
  | inside quote =>
    obtain ⟨before, body, rfl, hopen, hquote, hbody⟩ := h
    by_cases hescape : c = '\\'
    · rw [Standing.next, insideNext, if_pos hescape, hescape]
      exact ⟨before, body, by simp, hopen, hquote, hbody⟩
    · by_cases hclose : c = quote
      · rw [Standing.next, insideNext, if_neg hescape, if_pos hclose, hclose, List.append_assoc]
        exact hopen.quoted hquote hbody
      · rw [Standing.next, insideNext, if_neg hescape, if_neg hclose]
        exact ⟨before, body ++ [c], by simp, hopen, hquote, hbody.plain hclose hescape⟩
  | escaped quote =>
    obtain ⟨before, body, rfl, hopen, hquote, hbody⟩ := h
    exact ⟨before, body ++ ['\\', c], by simp, hopen, hquote, hbody.escape c⟩

lemma behind_after (text : List Char) : (top.after text).Behind text := by
  induction text using List.reverseRecOn with
  | nil => exact .nil
  | append_singleton text c ih =>
    rw [after_append]
    exact ih.next c

end Standing

lemma leavesOpen_iff {text : List Char} {depth : Nat} :
    LeavesOpen text depth ↔ Standing.top.after text = ⟨.outside, depth⟩ := by
  refine ⟨Standing.after_of_leavesOpen, fun h => ?_⟩
  have hbehind := Standing.behind_after text
  rwa [h] at hbehind

lemma atTopLevel_iff {text : List Char} : AtTopLevel text ↔ Standing.top.after text = .top :=
  leavesOpen_iff

/-- A place that is not at top level is inside of a string or of brackets. -/
lemma inString_or_inBrackets {text : List Char} (h : Standing.top.after text ≠ .top) :
    InString text ∨ InBrackets text := by
  have hbehind := Standing.behind_after text
  generalize Standing.top.after text = s at h hbehind
  obtain ⟨quoting, depth⟩ := s
  cases quoting with
  | outside =>
    cases depth with
    | zero => exact absurd rfl h
    | succ depth => exact .inr ⟨depth, hbehind⟩
  | inside quote =>
    obtain ⟨before, body, htext, hopen, hquote, hbody⟩ := hbehind
    exact .inl ⟨before, quote, body, depth, htext, hopen, hquote, .inl hbody⟩
  | escaped quote =>
    obtain ⟨before, body, htext, hopen, hquote, hbody⟩ := hbehind
    exact .inl ⟨before, quote, _, depth, htext, hopen, hquote, .inr ⟨body, rfl, hbody⟩⟩

/-! ## Cuts -/

/-- The parts of a text are cut between `front` and `behind`, where a separator stands. -/
def IsCut (separator : Char) (parts : List (List Char)) (front behind : List Char) : Prop :=
  ∃ before after, parts = before ++ after ∧ before ≠ [] ∧ after ≠ [] ∧
    [separator].intercalate before = front ∧ [separator].intercalate after = behind

section

variable {separator c : Char} {parts : List (List Char)} {front behind : List Char}

lemma not_isCut_singleton (part : List Char) : ¬IsCut separator [part] front behind := by
  rintro ⟨before, after, hparts, hbefore, hafter, -⟩
  obtain ⟨rfl, -⟩ | ⟨more, -, hmore⟩ := List.cons_eq_append_iff.1 hparts
  · exact hbefore rfl
  · exact hafter (List.append_eq_nil_iff.1 hmore.symm).2

/-- An empty first part stands for a cut at the very front. -/
lemma isCut_nil_cons (hne : parts ≠ []) : IsCut separator ([] :: parts) front behind ↔
    (front = [] ∧ [separator].intercalate parts = behind) ∨
      ∃ more, front = separator :: more ∧ IsCut separator parts more behind := by
  constructor
  · rintro ⟨before, after, hparts, hbefore, hafter, rfl, rfl⟩
    obtain ⟨rfl, -⟩ | ⟨others, rfl, rfl⟩ := List.cons_eq_append_iff.1 hparts
    · exact absurd rfl hbefore
    · by_cases hothers : others = []
      · exact .inl (by simp [hothers])
      · refine .inr ⟨_, ?_, others, after, rfl, hothers, hafter, rfl, rfl⟩
        rw [List.intercalate_cons_of_ne_nil hothers]
        rfl
  · rintro (⟨rfl, rfl⟩ | ⟨more, rfl, before, after, rfl, hbefore, hafter, rfl, rfl⟩)
    · exact ⟨[[]], parts, rfl, by simp, hne, by simp, rfl⟩
    · refine ⟨[] :: before, after, rfl, by simp, hafter, ?_, rfl⟩
      rw [List.intercalate_cons_of_ne_nil hbefore]
      rfl

lemma intercalate_cons_eq_flatMap (part : List Char) :
    [separator].intercalate (part :: parts) = part ++ parts.flatMap (separator :: ·) := by
  induction parts generalizing part with
  | nil => simp
  | cons next parts ih => simp [List.intercalate_cons_cons, ih]

lemma intercalate_modifyHead (hne : parts ≠ []) :
    [separator].intercalate (parts.modifyHead (c :: ·)) = c :: [separator].intercalate parts := by
  obtain ⟨part, others, rfl⟩ := List.exists_cons_of_ne_nil hne
  cases others <;> simp

/-- A character at the front of the first part stands in front of every cut. -/
lemma isCut_modifyHead (hne : parts ≠ []) :
    IsCut separator (parts.modifyHead (c :: ·)) front behind ↔
      ∃ more, front = c :: more ∧ IsCut separator parts more behind := by
  obtain ⟨part, others, rfl⟩ := List.exists_cons_of_ne_nil hne
  constructor
  · rintro ⟨before, after, hparts, hbefore, hafter, rfl, rfl⟩
    obtain ⟨rfl, -⟩ | ⟨firsts, rfl, rfl⟩ := List.cons_eq_append_iff.1 hparts
    · exact absurd rfl hbefore
    · exact ⟨_, intercalate_modifyHead (List.cons_ne_nil part firsts), part :: firsts, after, rfl,
        by simp, hafter, rfl, rfl⟩
  · rintro ⟨more, rfl, before, after, hparts, hbefore, hafter, rfl, rfl⟩
    refine ⟨before.modifyHead (c :: ·), after, ?_, by simpa using hbefore, hafter,
      intercalate_modifyHead hbefore, rfl⟩
    obtain ⟨first, firsts, rfl⟩ := List.exists_cons_of_ne_nil hbefore
    obtain ⟨rfl, rfl⟩ := List.cons.inj hparts
    rfl

end

/-! ## The parts of a text -/

/-- The parts of a text behind a place of the walk. -/
def partsFrom (separator : Char) (s : Standing) (text : List Char) : List (List Char) :=
  (splitFrom separator s.quoting s.depth text).1 :: (splitFrom separator s.quoting s.depth text).2

lemma partsFrom_ne_nil (separator : Char) (s : Standing) (text : List Char) :
    partsFrom separator s text ≠ [] :=
  List.cons_ne_nil _ _

lemma intercalate_partsFrom (separator : Char) (s : Standing) (text : List Char) :
    [separator].intercalate (partsFrom separator s text) = text := by
  rw [partsFrom, intercalate_cons_eq_flatMap, Script.splitFrom_append]

section

variable {separator : Char} (hseparator : isQuiet separator = true)
include hseparator

/-- A character is a cut, or it stands at the front of the first part behind it. -/
lemma partsFrom_cons (s : Standing) (c : Char) (text : List Char) :
    partsFrom separator s (c :: text) =
      if s = .top ∧ c = separator then [] :: partsFrom separator .top text
      else (partsFrom separator (s.next c) text).modifyHead (c :: ·) := by
  obtain ⟨quoting, depth⟩ := s
  cases quoting with
  | inside quote | escaped quote => rw [if_neg (by simp [Standing.top])]; rfl
  | outside =>
    -- quotes and brackets separate nothing
    have hother : isQuiet c = false → ¬(Standing.mk .outside depth = .top ∧ c = separator) := by
      rintro hloud ⟨-, rfl⟩
      rw [hseparator] at hloud
      cases hloud
    obtain hquote | ⟨closing, hpair⟩ | ⟨opening, hpair⟩ | hquiet := char_cases c
    · rw [if_neg (hother (by obtain rfl | rfl := hquote <;> rfl)), Standing.next_quote hquote]
      obtain rfl | rfl := hquote <;> rfl
    · rw [if_neg (hother (by cases hpair <;> rfl)), Standing.next_opening hpair]
      cases hpair <;> rfl
    · rw [if_neg (hother (by cases hpair <;> rfl)), Standing.next_closing hpair]
      cases hpair <;> rfl
    · rw [Standing.next_of_isQuiet hquiet]
      simp only [isQuiet, List.contains_eq_mem, List.mem_cons, List.not_mem_nil, or_false,
        Bool.not_eq_true', decide_eq_false_iff_not, not_or] at hquiet
      simp only [partsFrom, splitFrom, hquiet, or_self, if_false, Standing.top,
        Standing.mk.injEq, true_and]
      by_cases hcut : c = separator ∧ depth = 0
      · obtain ⟨rfl, rfl⟩ := hcut
        simp
      · rw [if_neg hcut, if_neg fun h => hcut h.symm]
        rfl

/-- The cuts are the separators in front of which the walk stands outside of quotes and brackets. -/
lemma isCut_partsFrom (s : Standing) (text front behind : List Char) :
    IsCut separator (partsFrom separator s text) front behind ↔
      text = front ++ separator :: behind ∧ s.after front = .top := by
  induction text generalizing s front with
  | nil => exact iff_of_false (not_isCut_singleton []) (by simp)
  | cons c text ih =>
    rw [partsFrom_cons hseparator]
    split
    · -- a cut right here: it comes first, and the others stand behind it
      rename_i hcut
      obtain ⟨rfl, rfl⟩ := hcut
      have hstay : Standing.top.next c = .top := Standing.next_of_isQuiet hseparator 0
      rw [isCut_nil_cons (partsFrom_ne_nil c .top text), intercalate_partsFrom]
      simp only [ih]
      constructor
      · rintro (⟨rfl, rfl⟩ | ⟨more, rfl, rfl, hmore⟩)
        · exact ⟨rfl, rfl⟩
        · rw [Standing.after_cons, hstay]
          exact ⟨rfl, hmore⟩
      · rintro ⟨htext, hfront⟩
        obtain ⟨rfl, hbehind⟩ | ⟨more, rfl, rfl⟩ := List.cons_eq_append_iff.1 htext
        · exact .inl ⟨rfl, (List.cons.inj hbehind).2.symm⟩
        · rw [Standing.after_cons, hstay] at hfront
          exact .inr ⟨more, rfl, rfl, hfront⟩
    · -- no cut here, so every cut stands behind the character
      rename_i hkept
      rw [isCut_modifyHead (partsFrom_ne_nil separator _ text)]
      simp only [ih]
      constructor
      · rintro ⟨more, rfl, rfl, hmore⟩
        exact ⟨rfl, hmore⟩
      · rintro ⟨htext, hfront⟩
        obtain ⟨rfl, hbehind⟩ | ⟨more, rfl, rfl⟩ := List.cons_eq_append_iff.1 htext
        · exact absurd ⟨hfront, (List.cons.inj hbehind).1.symm⟩ hkept
        · exact ⟨more, rfl, rfl, hfront⟩

/-- A part has no separator in it in front of which the walk stands outside of quotes and
brackets. -/
lemma after_ne_top_of_partsFrom {s : Standing} {text part : List Char} {parts : List (List Char)}
    (h : partsFrom separator s text = part :: parts) :
    (∀ front behind, part = front ++ separator :: behind → s.after front ≠ .top) ∧
      ∀ other ∈ parts, ∀ front behind, other = front ++ separator :: behind →
        Standing.top.after front ≠ .top := by
  induction text generalizing s part parts with
  | nil =>
    obtain ⟨rfl, rfl⟩ := List.cons.inj h
    simp [splitFrom]
  | cons c text ih =>
    rw [partsFrom_cons hseparator] at h
    split at h
    · obtain ⟨rfl, rfl⟩ := List.cons.inj h
      obtain ⟨hfirst, hothers⟩ := ih rfl
      exact ⟨by simp, List.forall_mem_cons.2 ⟨hfirst, hothers⟩⟩
    · rename_i hkept
      obtain ⟨rfl, rfl⟩ := List.cons.inj h
      obtain ⟨hfirst, hothers⟩ := ih rfl
      refine ⟨fun front behind hpart => ?_, hothers⟩
      obtain ⟨rfl, hc⟩ | ⟨more, rfl, hmore⟩ := List.cons_eq_append_iff.1 hpart
      · intro hs
        exact hkept ⟨hs, (List.cons.inj hc).1.symm⟩
      · exact hfirst more behind hmore

end

/-- **Splitting loses nothing and cuts where it should.**  The parts with separators between them
are the text.  If the separator is neither a quote nor a bracket, the cuts are the separators at top
level, and every separator in a part is inside of a string or of brackets of that part. -/
theorem splitTopLevel_cuts (separator : Char) (text : List Char) :
    [separator].intercalate (splitTopLevel separator text) = text ∧
    (separator ∉ ['"', '\'', '(', ')', '[', ']'] →
      (∀ front behind, IsCut separator (splitTopLevel separator text) front behind ↔
        text = front ++ separator :: behind ∧ AtTopLevel front) ∧
      ∀ part ∈ splitTopLevel separator text, ∀ front behind, part = front ++ separator :: behind →
        InString front ∨ InBrackets front) := by
  have hparts : splitTopLevel separator text = partsFrom separator .top text := rfl
  rw [hparts]
  refine ⟨intercalate_partsFrom separator .top text, fun hplain => ?_⟩
  have hseparator : isQuiet separator = true := by simpa [isQuiet] using hplain
  refine ⟨fun front behind => ?_, fun part hpart front behind hfront => ?_⟩
  · rw [isCut_partsFrom hseparator, atTopLevel_iff]
  · obtain ⟨hfirst, hothers⟩ := after_ne_top_of_partsFrom hseparator
      (rfl : partsFrom separator .top text = _)
    refine inString_or_inBrackets ?_
    obtain rfl | hpart := List.mem_cons.1 hpart
    · exact hfirst front behind hfront
    · exact hothers part hpart front behind hfront

/-- A bracket that closes nothing, separators in brackets and behind an escaped quote, and a string
without an end: two cuts, and a separator that is left in the last part. -/
theorem splitTopLevel_cuts_unclosed :
    splitTopLevel ';' "x);é['a;\\';b';1];\";".toList =
      ["x)".toList, "é['a;\\';b';1]".toList, "\";".toList] ∧
    AtTopLevel "x);é['a;\\';b';1]".toList ∧
    IsCut ';' (splitTopLevel ';' "x);é['a;\\';b';1];\";".toList) "x);é['a;\\';b';1]".toList
      "\";".toList ∧
    (InString "\"".toList ∨ InBrackets "\"".toList) := by
  have hparts : splitTopLevel ';' "x);é['a;\\';b';1];\";".toList =
      ["x)".toList, "é['a;\\';b';1]".toList, "\";".toList] := by
    decide
  have htop : AtTopLevel "x);é['a;\\';b';1]".toList := atTopLevel_iff.2 (by decide)
  obtain ⟨hcuts, hkept⟩ := (splitTopLevel_cuts ';' "x);é['a;\\';b';1];\";".toList).2 (by decide)
  refine ⟨hparts, htop, (hcuts _ _).2 ⟨rfl, htop⟩, ?_⟩
  exact hkept "\";".toList (by rw [hparts]; simp) _ [] rfl

end ViewTemplate.Directive
