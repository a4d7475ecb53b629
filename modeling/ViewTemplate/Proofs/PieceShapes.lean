import Mathlib.Tactic.Common
import ViewTemplate.Proofs.PieceBoundaries
import ViewTemplate.Text.Blank

/-!
# What the text of a piece looks like

A piece carries its kind and the text it covers.  `Piece.Shape` says how the two belong together:
words and variables are made of word characters, numbers of digits and points, a symbol is its
spelling, and a text is what stands between two quotes that no character in between closes.
`Piece.StandsBefore.shape` gets it for every piece of a script, once and for all kinds, so that what
is proved about the text of a script can be proved kind by kind.
-/

namespace ViewTemplate.Script

/-- The kind of a piece and the text it covers belong together. -/
inductive Piece.Shape : Piece → Prop
  | blank {text : List Char} (h : ∀ c ∈ text, isSpacing c = true) : Shape ⟨.blank, text⟩
  | word {c : Char} {rest : List Char} (hc : isWordStart c = true)
      (h : ∀ d ∈ rest, isWordPart d = true) :
      Shape ⟨.token (.word (String.ofList (c :: rest))), c :: rest⟩
  | var {c : Char} {rest : List Char} (hc : isWordStart c = true)
      (h : ∀ d ∈ rest, isWordPart d = true) :
      Shape ⟨.token (.var (String.ofList (c :: rest))), '$' :: c :: rest⟩
  | integer {n : Nat} {text : List Char} (h : ∀ c ∈ text, c.isDigit = true) :
      Shape ⟨.token (.integer n), text⟩
  | float {x : Float} {text : List Char} (h : ∀ c ∈ text, c.isDigit = true ∨ c = '.') :
      Shape ⟨.token (.float x), text⟩
  | text {quote : Char} {body : List Char} (hquote : quote = '"' ∨ quote = '\'')
      (h : scanString quote (body ++ [quote]) = (body, .closed, [])) :
      Shape ⟨.token (.text (String.ofList (unescape body))), quote :: (body ++ [quote])⟩
  | symbol (s : Symbol) : Shape ⟨.token (.symbol s), s.spelling⟩
  | junk (text : List Char) : Shape ⟨.junk, text⟩

lemma shape_integerPiece {digits : List Char} (h : ∀ c ∈ digits, c.isDigit = true) :
    (integerPiece digits).Shape := by
  unfold integerPiece
  dsimp only
  split
  · exact .integer h
  · exact .junk digits

lemma shape_numberPiece {digits : List Char} (h : ∀ c ∈ digits, c.isDigit = true)
    (rest : List Char) : (numberPiece digits rest).1.Shape := by
  by_cases hfraction : NoFraction rest
  · rw [numberPiece_integer hfraction]
    exact shape_integerPiece h
  · simp only [NoFraction, not_forall, Bool.not_eq_false] at hfraction
    obtain ⟨d, more, rfl, hd⟩ := hfraction
    rw [numberPiece_float hd]
    refine .float fun c hc => ?_
    simp only [List.mem_append, List.mem_cons] at hc
    rcases hc with hc | rfl | rfl | hc
    · exact .inl (h c hc)
    · exact .inr rfl
    · exact .inl hd
    · exact .inl (List.mem_takeWhile_imp hc)

lemma shape_dollarPiece (rest : List Char) : (dollarPiece rest).1.Shape := by
  cases rest with
  | nil => exact .junk ['$']
  | cons c more =>
    by_cases hc : isWordStart c = true
    · simp only [dollarPiece, hc, if_true]
      exact .var hc fun d hd => List.mem_takeWhile_imp hd
    · simp only [dollarPiece, if_neg hc]
      exact .junk ['$']

lemma shape_stringPiece {quote : Char} (hquote : quote = '"' ∨ quote = '\'') (rest : List Char) :
    (stringPiece quote rest).1.Shape := by
  have hescape : quote ≠ '\\' := by rcases hquote with rfl | rfl <;> decide
  obtain ⟨⟨body, ending, follows⟩, hscan⟩ :
      ∃ scanned, scanString quote rest = scanned := ⟨_, rfl⟩
  rw [stringPiece, hscan]
  dsimp only
  by_cases hending : ending = .closed
  · subst hending
    rw [if_pos rfl]
    exact .text hquote (scanString_of_closed hescape hscan [])
  · rw [if_neg hending]
    exact .junk (quote :: body)

lemma shape_nextPiece (c : Char) (rest : List Char) : (nextPiece c rest).1.Shape := by
  unfold nextPiece
  split
  · rename_i hc
    refine .blank fun d hd => ?_
    rcases List.mem_cons.1 hd with rfl | hd
    · exact hc
    · exact List.mem_takeWhile_imp hd
  split
  · rename_i hc
    exact .word hc fun d hd => List.mem_takeWhile_imp hd
  split
  · exact shape_dollarPiece rest
  split
  · rename_i hc
    refine shape_numberPiece (fun d hd => ?_) _
    rcases List.mem_cons.1 hd with rfl | hd
    · exact hc
    · exact List.mem_takeWhile_imp hd
  split
  · rename_i hquote
    exact shape_stringPiece hquote rest
  split
  · exact .symbol _
  · exact .junk [c]

/-- A piece that stands in front of a text has a shape. -/
lemma Piece.StandsBefore.shape {p : Piece} {after : List Char} (h : p.StandsBefore after) :
    p.Shape := by
  obtain ⟨c, rest, -, hnext⟩ := h
  have hshape := shape_nextPiece c (rest ++ after)
  rwa [hnext] at hshape

/-- A piece that is not blank does not start with a blank. -/
lemma Piece.StandsBefore.stopsAt_isSpacing {p : Piece} {after : List Char}
    (h : p.StandsBefore after) (hp : p.kind ≠ .blank) (more : List Char) :
    StopsAt isSpacing (p.text ++ more) := by
  obtain ⟨c, rest, htext, hnext⟩ := h
  intro d hd
  rw [htext, List.cons_append, List.head?_cons, Option.some.injEq] at hd
  subst hd
  by_contra hspacing
  rw [Bool.not_eq_false] at hspacing
  simp only [nextPiece, hspacing, if_true, Prod.mk.injEq] at hnext
  exact hp (by rw [← hnext.1])

/-- A run of blanks ends where no blank follows. -/
lemma Piece.StandsBefore.stopsAt_of_blank {p : Piece} {after : List Char}
    (h : p.StandsBefore after) (hp : p.kind = .blank) : StopsAt isSpacing after := by
  obtain ⟨c, rest, htext, hnext⟩ := h
  have hshape := shape_nextPiece c (rest ++ after)
  rw [hnext] at hshape
  obtain ⟨kind, text⟩ := p
  cases hshape <;> simp only [reduceCtorEq] at hp
  rename_i hspacing
  simp only at htext
  simp only [nextPiece, hspacing c (by simp [htext]), if_true, Prod.mk.injEq] at hnext
  intro d hd
  have hstop := List.head?_dropWhile_not isSpacing (rest ++ after)
  rwa [hnext.2, hd] at hstop

/-! ## Reading off what a piece is -/

/-- A word piece covers its name, which is made of word characters. -/
lemma Piece.Shape.name_of_word {p : Piece} (h : p.Shape) {name : String}
    (hkind : p.kind = .token (.word name)) :
    ∃ letters, name = String.ofList letters ∧ ∀ c ∈ letters, isWordPart c = true := by
  obtain ⟨kind, text⟩ := p
  cases h <;> simp only [PieceKind.token.injEq, Token.word.injEq, reduceCtorEq] at hkind
  rename_i c rest hc hrest
  refine ⟨c :: rest, hkind.symm, fun d hd => ?_⟩
  rcases List.mem_cons.1 hd with rfl | hd
  · rw [isWordPart_iff]
    exact .inl hc
  · exact hrest d hd

lemma Piece.Shape.text_of_word {p : Piece} (h : p.Shape) {name : String}
    (hp : p.kind = .token (.word name)) : p.text = name.toList := by
  cases h <;> simp only [PieceKind.token.injEq, Token.word.injEq, reduceCtorEq] at hp
  rw [← hp, String.toList_ofList]

lemma Piece.Shape.spelling_of_symbol {p : Piece} (h : p.Shape) {s : Symbol}
    (hp : p.kind = .token (.symbol s)) : p.text = s.spelling := by
  cases h <;> simp only [PieceKind.token.injEq, Token.symbol.injEq, reduceCtorEq] at hp
  rw [hp]

lemma Piece.Shape.quoted_of_text {p : Piece} (h : p.Shape) {s : String}
    (hp : p.kind = .token (.text s)) :
    ∃ quote body, (quote = '"' ∨ quote = '\'') ∧ p.text = quote :: (body ++ [quote]) ∧
      scanString quote (body ++ [quote]) = (body, .closed, []) := by
  cases h <;> simp only [PieceKind.token.injEq, reduceCtorEq] at hp
  rename_i quote body hquote hscan
  exact ⟨quote, body, hquote, rfl, hscan⟩

/-- The characters that only symbols hold outside of quotes. -/
def isMark (c : Char) : Bool :=
  !(isSpacing c || isWordPart c || c == '$' || c == '.')

/-- Outside of quotes a mark stands in a symbol. -/
lemma Piece.Shape.symbol_of_isMark {p : Piece} (h : p.Shape) (hjunk : p.kind ≠ .junk)
    (htext : ∀ s, p.kind ≠ .token (.text s)) {c : Char} (hc : c ∈ p.text)
    (hmark : isMark c = true) :
    ∃ s, p.kind = .token (.symbol s) ∧ p.text = s.spelling := by
  simp only [isMark, Bool.not_eq_true', Bool.or_eq_false_iff, beq_eq_false_iff_ne] at hmark
  obtain ⟨⟨⟨hspacing, hword⟩, hdollar⟩, hdot⟩ := hmark
  -- blanks, words, variables and numbers are made of characters that are no marks
  cases h with
  | blank hall => simp [hall c hc] at hspacing
  | word hd hall =>
    rcases List.mem_cons.1 hc with rfl | hc
    · simp [isWordPart_iff.2 (.inl hd)] at hword
    · simp [hall c hc] at hword
  | var hd hall =>
    rcases List.mem_cons.1 hc with rfl | hc
    · exact absurd rfl hdollar
    · rcases List.mem_cons.1 hc with rfl | hc
      · simp [isWordPart_iff.2 (.inl hd)] at hword
      · simp [hall c hc] at hword
  | integer hall => simp [isWordPart_iff.2 (.inr (hall c hc))] at hword
  | float hall =>
    obtain hdigit | rfl := hall c hc
    · simp [isWordPart_iff.2 (.inr hdigit)] at hword
    · exact absurd rfl hdot
  | text => exact absurd rfl (htext _)
  | symbol s => exact ⟨s, rfl, rfl⟩
  | junk => exact absurd rfl hjunk

/-! ## Blanks -/

lemma isBlank_of_isSpacing {c : Char} (h : isSpacing c = true) : Text.isBlank c = true := by
  rw [isSpacing_iff] at h
  simp only [Text.isBlank, Bool.or_eq_true, Bool.and_eq_true, decide_eq_true_eq, beq_iff_eq]
  omega

lemma isBlank_eq_false_of_isWordPart {c : Char} (h : isWordPart c = true) :
    Text.isBlank c = false := by
  rw [isWordPart_iff, isWordStart_iff, isDigit_iff] at h
  simp only [Text.isBlank, Bool.or_eq_false_iff, Bool.and_eq_false_iff, decide_eq_false_iff_not,
    beq_eq_false_iff_ne]
  omega

lemma Symbol.isBlank_eq_false_of_mem_spelling {s : Symbol} {c : Char} (h : c ∈ s.spelling) :
    Text.isBlank c = false := by
  have hall : ∀ t ∈ Symbol.all, t.spelling.all (fun d => !Text.isBlank d) = true := by decide
  have hc := List.all_eq_true.1 (hall s (Symbol.mem_all s)) c h
  rwa [Bool.not_eq_true'] at hc

lemma Piece.StandsBefore.not_all_isBlank {p : Piece} {after : List Char} {t : Token}
    (h : p.StandsBefore after) (hp : p.kind = .token t) : p.text.all Text.isBlank = false := by
  obtain ⟨c, rest, htext, -⟩ := id h
  suffices hc : Text.isBlank c = false by
    rw [htext, List.all_cons, hc, Bool.false_and]
  have hshape := h.shape
  obtain ⟨kind, text⟩ := p
  have hmem : c ∈ text := by simp only at htext; simp [htext]
  cases hshape with
  | blank => simp at hp
  | junk => simp at hp
  | word hd hrest =>
    obtain ⟨rfl, -⟩ := List.cons.inj htext
    exact isBlank_eq_false_of_isWordPart (isWordPart_iff.2 (.inl hd))
  | var =>
    obtain ⟨rfl, -⟩ := List.cons.inj htext
    decide
  | integer hdigits =>
    exact isBlank_eq_false_of_isWordPart (isWordPart_iff.2 (.inr (hdigits c hmem)))
  | float hdigits =>
    obtain hdigit | rfl := hdigits c hmem
    · exact isBlank_eq_false_of_isWordPart (isWordPart_iff.2 (.inr hdigit))
    · decide
  | text hquote =>
    obtain ⟨rfl, -⟩ := List.cons.inj htext
    obtain rfl | rfl := hquote <;> decide
  | symbol s => exact Symbol.isBlank_eq_false_of_mem_spelling hmem

/-- Two runs of blanks never stand side by side. -/
lemma WellCut.kind_ne_blank {blank p : Piece} {rest : List Piece}
    (h : WellCut (blank :: p :: rest)) (hblank : blank.kind = .blank) : p.kind ≠ .blank := by
  intro hp
  obtain _ | ⟨hstands, _ | ⟨hnext, -⟩⟩ := h
  have hstop := hstands.stopsAt_of_blank hblank
  obtain ⟨c, more, htext, -⟩ := id hnext
  have hspacing : isSpacing c = true := by
    have hshape := hnext.shape
    obtain ⟨kind, text⟩ := p
    cases hshape <;> simp only [reduceCtorEq] at hp
    rename_i hall
    exact hall c (by simp only at htext; simp [htext])
  have hc := hstop c (by rw [textOf_cons, htext]; rfl)
  simp [hspacing] at hc

end ViewTemplate.Script
