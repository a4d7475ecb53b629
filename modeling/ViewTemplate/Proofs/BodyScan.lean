import Mathlib.Tactic.Common
import ViewTemplate.Proofs.Nesting
import ViewTemplate.Proofs.PieceShapes
import ViewTemplate.Proofs.Readers
import ViewTemplate.Template.Segment

/-!
# Scanning a script for the end of a construct

A template finds the end of a construct by scanning for its closing marker outside of quotes and
brackets, character by character, without cutting the script into tokens.  `passes_pieces` says that
this scan passes over a script whose brackets are nested: it agrees with the tokens about where
quotes and brackets end, and none of the closing markers of the default delimiters starts in
between.

A closing marker has two first characters.  For tags one of them is a brace, which no token holds
outside of quotes.  For directives and host code the second one is `>`, which never follows `?` or
`%` because the walk over the tokens (`Nesting.after?`) forbids it.
-/

namespace ViewTemplate.Template

open Script

/-! ## Passing over text -/

/-- The end of a body with more text at its front. -/
def BodyEnd.prepend (front : List Char) (e : BodyEnd) : BodyEnd :=
  front.foldr BodyEnd.cons e

lemma prepend_closed (front body rest : List Char) :
    (BodyEnd.closed body rest).prepend front = .closed (front ++ body) rest := by
  induction front with
  | nil => rfl
  | cons c front ih =>
    change BodyEnd.cons c ((BodyEnd.closed body rest).prepend front) = _
    rw [ih]
    rfl

/-- The scan passes over `front` from one state to another when `rest` follows. -/
def Passes (closing : List Char) (state : BodyState) (front : List Char) (next : BodyState)
    (rest : List Char) : Prop :=
  scanBody closing state (front ++ rest) = (scanBody closing next rest).prepend front

namespace Passes

variable {closing front more rest : List Char} {state next last : BodyState}

lemma nil : Passes closing state [] state rest := rfl

lemma append (h : Passes closing state front next (more ++ rest))
    (hmore : Passes closing next more last rest) :
    Passes closing state (front ++ more) last rest := by
  unfold Passes at *
  rw [List.append_assoc, h, hmore, BodyEnd.prepend, BodyEnd.prepend, BodyEnd.prepend,
    List.foldr_append]

/-- The scan passes over a character that moves the state and starts no marker. -/
lemma char {c : Char} (hnext : state.next? c = some next)
    (hclear : state = .code [] → Text.afterMarker? closing (c :: rest) = none) :
    Passes closing state [c] next rest := by
  unfold Passes
  rw [List.singleton_append, scanBody]
  have hmarker : (if state = .code [] then Text.afterMarker? closing (c :: rest) else none) =
      none := by
    split
    · exact hclear ‹_›
    · rfl
  rw [hmarker, hnext]
  rfl

lemma cons {c : Char} (h : Passes closing state [c] next (front ++ rest))
    (hfront : Passes closing next front last rest) :
    Passes closing state (c :: front) last rest :=
  h.append hfront

end Passes

/-- No marker starts inside of `front` when `rest` follows. -/
def Clear (closing : List Char) : (front rest : List Char) → Prop
  | [], _ => True
  | c :: front, rest =>
    Text.afterMarker? closing (c :: (front ++ rest)) = none ∧ Clear closing front rest

lemma clear_of_first {k : Char} {closing front : List Char} (h : k ∉ front) (rest : List Char) :
    Clear (k :: closing) front rest := by
  induction front with
  | nil => trivial
  | cons c front ih =>
    obtain ⟨hc, hfront⟩ := not_or.1 (mt List.mem_cons.2 h)
    exact ⟨if_neg hc, ih hfront⟩

lemma clear_of_second {k l : Char} {closing front rest : List Char} (h : l ∉ front)
    (hrest : rest.head? ≠ some l) : Clear (k :: l :: closing) front rest := by
  induction front with
  | nil => trivial
  | cons c front ih =>
    obtain ⟨hc, hfront⟩ := not_or.1 (mt List.mem_cons.2 h)
    refine ⟨?_, ih hfront⟩
    rw [Text.afterMarker?]
    split
    · cases front with
      | nil =>
        cases rest with
        | nil => rfl
        | cons d rest => exact if_neg fun hd => hrest (by rw [hd, List.head?_cons])
      | cons d front =>
        have hd : l ≠ d := fun hd => hfront (by simp [hd])
        exact if_neg hd
    · rfl

/-- The characters that mean nothing to the scan outside of quotes. -/
def isQuiet (c : Char) : Bool :=
  !(['"', '\'', '(', ')', '[', ']'].contains c)

lemma next?_of_isQuiet {c : Char} (h : isQuiet c = true) (brackets : List Char) :
    (BodyState.code brackets).next? c = some (.code brackets) := by
  simp only [isQuiet, List.contains_eq_mem, List.mem_cons, List.not_mem_nil, or_false,
    Bool.not_eq_true', decide_eq_false_iff_not, not_or] at h
  obtain ⟨hdouble, hsingle, hopenParen, hcloseParen, hopenBracket, hcloseBracket⟩ := h
  have hmatching : matchingBracket? c = none := by
    unfold matchingBracket?
    split <;> simp_all
  simp [BodyState.next?, hdouble, hsingle, hopenParen, hopenBracket, hmatching]

lemma passes_quiet {closing front : List Char} (hquiet : ∀ c ∈ front, isQuiet c = true)
    {rest : List Char} (hclear : Clear closing front rest) (brackets : List Char) :
    Passes closing (.code brackets) front (.code brackets) rest := by
  induction front with
  | nil => exact .nil
  | cons c front ih =>
    have hc := next?_of_isQuiet (hquiet c List.mem_cons_self) brackets
    exact .cons (.char hc fun _ => hclear.1) (ih (fun d hd => hquiet d (.tail c hd)) hclear.2)

/-- The scan leaves quotes where the script does. -/
lemma passes_quoted {closing : List Char} {quote : Char} (hquote : quote ≠ '\\')
    {brackets text body after : List Char} (h : scanString quote text = (body, .closed, after))
    (rest : List Char) :
    Passes closing (.quoted quote brackets) (body ++ [quote]) (.code brackets) rest := by
  fun_induction scanString quote text generalizing body with
  | case1 => simp at h
  | case2 => simp at h
  | case3 c text _ inner ending follows hscan ih =>
    obtain ⟨rfl, rfl, rfl⟩ : '\\' :: c :: inner = body ∧ ending = .closed ∧ follows = after := by
      simpa using h
    have hescape : (BodyState.quoted quote brackets).next? '\\' =
        some (.escaped quote brackets) := by simp [BodyState.next?]
    have hescaped : (BodyState.escaped quote brackets).next? c =
        some (.quoted quote brackets) := rfl
    exact .cons (.char hescape (by simp)) (.cons (.char hescaped (by simp)) (ih hscan))
  | case4 text =>
    obtain ⟨rfl, rfl⟩ : [] = body ∧ text = after := by simpa using h
    exact .char (by simp [BodyState.next?, hquote]) (by simp)
  | case5 c text hbreak hescape hc inner ending follows hscan ih =>
    obtain ⟨rfl, rfl, rfl⟩ : c :: inner = body ∧ ending = .closed ∧ follows = after := by
      simpa using h
    have hplain : c ≠ '\\' := by
      -- A backslash at the very end escapes nothing and leaves the text open.
      rintro rfl
      cases text with
      | nil => simp [scanString] at hscan
      | cons d text => exact hescape d text rfl rfl
    have hnext : (BodyState.quoted quote brackets).next? c = some (.quoted quote brackets) := by
      simp [BodyState.next?, hplain, hc]
    exact .cons (.char hnext (by simp)) (ih hscan)

/-! ## Passing over pieces -/

lemma isQuiet_of_not_isMark {c : Char} (h : isMark c = false) : isQuiet c = true := by
  by_contra hquiet
  simp only [isQuiet, Bool.not_eq_true', Bool.not_eq_false, List.contains_eq_mem,
    decide_eq_true_eq] at hquiet
  have hall : ['"', '\'', '(', ')', '[', ']'].all isMark = true := by decide
  rw [List.all_eq_true.1 hall c hquiet] at h
  simp at h

lemma passes_symbol {closing rest : List Char} {s : Symbol} {n m : Nesting}
    (h : n.next? (.symbol s) = some m) (hclear : Clear closing s.spelling rest) :
    Passes closing (.code n.brackets) s.spelling (.code m.brackets) rest := by
  cases s
  -- the brackets of the script are those of the scan
  case openParen | openBracket =>
    obtain rfl := Option.some.inj h
    exact .char rfl fun _ => hclear.1
  case closeParen | closeBracket =>
    simp only [Nesting.next?] at h
    split at h
    · rename_i hopen
      obtain rfl := Option.some.inj h
      exact .char (by simp [BodyState.next?, matchingBracket?, hopen]) fun _ => hclear.1
    · simp at h
  case greater | greaterEqual =>
    simp only [Nesting.next?] at h
    split at h
    · simp at h
    · obtain rfl := Option.some.inj h
      exact passes_quiet (List.all_eq_true.1 (by decide)) hclear _
  all_goals
    obtain rfl := Option.some.inj h
    exact passes_quiet (List.all_eq_true.1 (by decide)) hclear _

/-- The closing markers of the default delimiters and of host code. -/
def defaultClosings : List (List Char) :=
  [['\x7d', '\x7d'], ['!', '\x7d', '\x7d'], ['%', '>'], ['?', '>']]

/-- The walk keeps `>` away from what is behind a question mark or a percent sign. -/
lemma hanging_of_next? {n m : Nesting} {s : Symbol} {k : Char}
    (h : n.next? (.symbol s) = some m) (hmark : k = '%' ∨ k = '?') (hk : k ∈ s.spelling) :
    m.hanging = true ∧ '>' ∉ s.spelling := by
  rcases hmark with rfl | rfl <;> cases s <;> simp [Symbol.spelling] at hk <;>
    (obtain rfl := Option.some.inj h; exact ⟨rfl, by decide⟩)

/-- A mark that is no quote stands at the front of pieces only if their first one is a symbol that
starts with it. -/
lemma symbol_at_head {ps : List Piece} (hcut : WellCut ps) (hjunk : JunkFree ps) {k : Char}
    (hmark : isMark k = true) (hdouble : k ≠ '"') (hsingle : k ≠ '\'') {tail : List Char}
    (htail : tail.head? ≠ some k) (h : (textOf ps ++ tail).head? = some k) :
    ∃ p rest s, ps = p :: rest ∧ p.kind = .token (.symbol s) ∧ s.spelling.head? = some k := by
  cases hcut with
  | nil => exact absurd h htail
  | @cons p rest hp hrest =>
    obtain ⟨c, more, htext, -⟩ := id hp
    rw [textOf_cons, htext, List.cons_append, List.cons_append, List.head?_cons,
      Option.some.injEq] at h
    subst h
    have hnotext : ∀ s, p.kind ≠ .token (.text s) := by
      intro s hs
      obtain ⟨quote, body, hquote, hbody, -⟩ := hp.shape.quoted_of_text hs
      obtain ⟨rfl, -⟩ := List.cons.inj (htext.symm.trans hbody)
      exact hquote.elim hdouble hsingle
    obtain ⟨s, hkind, hspelling⟩ := hp.shape.symbol_of_isMark (hjunk p List.mem_cons_self) hnotext
      (by simp [htext] : c ∈ p.text) hmark
    exact ⟨p, rest, s, rfl, hkind, by rw [← hspelling, htext, List.head?_cons]⟩

lemma head_ne_brace {ps : List Piece} (hcut : WellCut ps) (hjunk : JunkFree ps) {tail : List Char}
    (htail : tail.head? ≠ some '\x7d') : (textOf ps ++ tail).head? ≠ some '\x7d' := by
  intro h
  obtain ⟨p, rest, s, -, -, hs⟩ :=
    symbol_at_head hcut hjunk (by decide) (by decide) (by decide) htail h
  cases s <;> simp [Symbol.spelling] at hs

/-- What the walk lets stand behind a question mark or a percent sign does not start with `>`. -/
lemma head_ne_greater {ps : List Piece} (hcut : WellCut ps) (hjunk : JunkFree ps) {n m : Nesting}
    (hwalk : n.after? (tokensAmong ps) = some m) (hhanging : n.hanging = true) {tail : List Char}
    (htail : tail.head? ≠ some '>') : (textOf ps ++ tail).head? ≠ some '>' := by
  intro h
  obtain ⟨p, rest, s, rfl, hkind, hs⟩ :=
    symbol_at_head hcut hjunk (by decide) (by decide) (by decide) htail h
  rw [tokensAmong_cons_token hkind] at hwalk
  cases s <;> simp [Symbol.spelling] at hs <;>
    simp [Nesting.after?, Nesting.next?, hhanging] at hwalk

/-- No closing marker starts inside of a piece that is no text. -/
lemma clear_piece {closing : List Char} (hclosing : closing ∈ defaultClosings) {p : Piece}
    (h : p.Shape) (hjunk : p.kind ≠ .junk) (htext : ∀ s, p.kind ≠ .token (.text s))
    {rest : List Char} (hbrace : rest.head? ≠ some '\x7d')
    (hgreater : ∀ s k, p.kind = .token (.symbol s) → k = '%' ∨ k = '?' → k ∈ s.spelling →
      '>' ∉ s.spelling ∧ rest.head? ≠ some '>') :
    Clear closing p.text rest := by
  have hnobrace : '\x7d' ∉ p.text := by
    intro hmem
    obtain ⟨s, -, hspelling⟩ := h.symbol_of_isMark hjunk htext hmem (by decide)
    rw [hspelling] at hmem
    cases s <;> simp [Symbol.spelling] at hmem
  -- the other two end in `>`, which stands behind `%` or `?` neither here nor in what follows
  have hangled : ∀ k, k = '%' ∨ k = '?' → Clear [k, '>'] p.text rest := by
    intro k hk
    by_cases hmem : k ∈ p.text
    · have hmark : isMark k = true := by rcases hk with rfl | rfl <;> decide
      obtain ⟨s, hkind, hspelling⟩ := h.symbol_of_isMark hjunk htext hmem hmark
      obtain ⟨hinside, hbehind⟩ := hgreater s k hkind hk (hspelling ▸ hmem)
      exact clear_of_second (hspelling ▸ hinside) hbehind
    · exact clear_of_first hmem rest
  simp only [defaultClosings, List.mem_cons, List.not_mem_nil, or_false] at hclosing
  rcases hclosing with rfl | rfl | rfl | rfl
  · exact clear_of_first hnobrace rest
  · exact clear_of_second hnobrace hbrace
  · exact hangled '%' (.inl rfl)
  · exact hangled '?' (.inr rfl)

lemma passes_plain {closing : List Char} (hclosing : closing ∈ defaultClosings) {p : Piece}
    (h : p.Shape) (hjunk : p.kind ≠ .junk) (htext : ∀ s, p.kind ≠ .token (.text s))
    (hsymbol : ∀ s, p.kind ≠ .token (.symbol s)) {rest : List Char}
    (hbrace : rest.head? ≠ some '\x7d') (brackets : List Char) :
    Passes closing (.code brackets) p.text (.code brackets) rest := by
  refine passes_quiet (fun c hc => ?_) ?_ brackets
  · refine isQuiet_of_not_isMark (Bool.eq_false_iff.2 fun hmark => ?_)
    obtain ⟨s, hs, -⟩ := h.symbol_of_isMark hjunk htext hc hmark
    exact hsymbol s hs
  · exact clear_piece hclosing h hjunk htext hbrace fun s _ hs => absurd hs (hsymbol s)

lemma passes_text {closing : List Char} (hclosing : closing ∈ defaultClosings) {p : Piece}
    (h : p.Shape) {s : String} (hp : p.kind = .token (.text s)) (brackets rest : List Char) :
    Passes closing (.code brackets) p.text (.code brackets) rest := by
  obtain ⟨quote, body, hquote, htext, hscan⟩ := h.quoted_of_text hp
  have hescape : quote ≠ '\\' := by rcases hquote with rfl | rfl <;> decide
  have hopen : (BodyState.code brackets).next? quote = some (.quoted quote brackets) := by
    simp [BodyState.next?, hquote]
  have hclear : ∀ text, Text.afterMarker? closing (quote :: text) = none := by
    intro text
    simp only [defaultClosings, List.mem_cons, List.not_mem_nil, or_false] at hclosing
    rcases hclosing with rfl | rfl | rfl | rfl <;> rcases hquote with rfl | rfl <;> rfl
  rw [htext]
  exact .cons (.char hopen fun _ => hclear _) (passes_quoted hescape hscan rest)

/-- The scan passes over a nested script. -/
theorem passes_pieces {closing : List Char} (hclosing : closing ∈ defaultClosings)
    {ps : List Piece} (hcut : WellCut ps) (hjunk : JunkFree ps) {n m : Nesting}
    (hwalk : n.after? (tokensAmong ps) = some m) {tail : List Char}
    (hbrace : tail.head? ≠ some '\x7d') (hgreater : tail.head? ≠ some '>') :
    Passes closing (.code n.brackets) (textOf ps) (.code m.brackets) tail := by
  induction hcut generalizing n with
  | nil =>
    obtain rfl := Option.some.inj hwalk
    exact .nil
  | @cons p rest hp hrest ih =>
    have hjunkRest : JunkFree rest := fun q hq => hjunk q (.tail p hq)
    have hpjunk := hjunk p List.mem_cons_self
    have hbehind := head_ne_brace hrest hjunkRest hbrace
    rw [textOf_cons]
    cases hkind : p.kind with
    | junk => exact absurd hkind hpjunk
    | blank =>
      rw [tokensAmong_cons_blank hkind] at hwalk
      exact .append (passes_plain hclosing hp.shape hpjunk (by simp [hkind]) (by simp [hkind])
        hbehind n.brackets) (ih hjunkRest hwalk)
    | token t =>
      rw [tokensAmong_cons_token hkind, Nesting.after?] at hwalk
      obtain ⟨n', hnext, hmore⟩ := Option.bind_eq_some_iff.1 hwalk
      refine .append ?_ (ih hjunkRest hmore)
      cases t with
      | text s =>
        obtain rfl := Option.some.inj hnext
        exact passes_text hclosing hp.shape hkind n.brackets _
      | symbol s =>
        -- a closing marker may start in a symbol, but the walk keeps `>` from standing behind it
        have hclear : Clear closing p.text (textOf rest ++ tail) := by
          refine clear_piece hclosing hp.shape hpjunk (by simp [hkind]) hbehind ?_
          intro s' k hs' hk hmem
          obtain rfl : s = s' := by simpa [hkind] using hs'
          obtain ⟨hhanging, hinside⟩ := hanging_of_next? hnext hk hmem
          exact ⟨hinside, head_ne_greater hrest hjunkRest hmore hhanging hgreater⟩
        rw [hp.shape.spelling_of_symbol hkind] at hclear ⊢
        exact passes_symbol hnext hclear
      | var name | word name | integer n | float x =>
        obtain rfl := Option.some.inj hnext
        exact passes_plain hclosing hp.shape hpjunk (by simp [hkind]) (by simp [hkind]) hbehind _

end ViewTemplate.Template
