import Mathlib.Tactic.Common
import ViewTemplate.Proofs.PieceShapes
import ViewTemplate.Script.Calls

/-!
# Marking calls edits the cut, not only the text

`markCalls` writes a text, and the next reader cuts that text into pieces again.
`pieces_markCalls` says that this second cut finds exactly the pieces that were written: those that
were copied, and for each marked call the front of the explicit form.  It holds of every text, junk
included.

Two facts carry it.  What is written behind a copied piece looks like what stood behind it
(`looksLike_markPieces`): the texts are the same up to the next marked call, and there both go on
with a word.  And the pieces of an explicit front stand before whatever follows them, the blank in
front of the arguments because the blanks that stood there are left out.
-/

namespace ViewTemplate.Script

variable {passes : String → Bool}

/-! ## One step of marking -/

lemma Piece.eq_of_isSymbol {p : Piece} {s : Symbol} (h : p.isSymbol s = true) :
    p.kind = .token (.symbol s) := by
  unfold Piece.isSymbol at h
  split at h
  · rename_i t ht
    rw [ht, of_decide_eq_true h]
  · simp at h

/-- A call that is marked has its parenthesis right behind its name. -/
lemma viewCall?_eq_some {before : Option Token} {p : Piece} {rest : List Piece} {name : String}
    {arguments : Bool} (h : viewCall? passes before p rest = some (name, arguments)) :
    p.kind = .token (.word name) ∧ allowsCall before = true ∧ isViewName passes name = true ∧
      callAhead? rest = some arguments ∧
      ∃ paren more, rest = paren :: more ∧ paren.kind = .token (.symbol .openParen) := by
  unfold viewCall? at h
  split at h
  · rename_i word found hkind hahead
    split at h
    · rename_i hallowed
      obtain ⟨rfl, rfl⟩ := Prod.mk.inj (Option.some.inj h)
      rw [Bool.and_eq_true] at hallowed
      refine ⟨hkind, hallowed.1, hallowed.2, hahead, ?_⟩
      cases rest with
      | nil => simp [callAhead?] at hahead
      | cons paren more =>
        simp only [callAhead?] at hahead
        split at hahead
        · rename_i hparen
          exact ⟨paren, more, rfl, Piece.eq_of_isSymbol hparen⟩
        · simp at hahead
    · simp at h
  · simp at h

lemma markPieces_nothing (before : Option Token) (p : Piece) (rest : List Piece) :
    markPieces passes .nothing before (p :: rest) =
      match viewCall? passes before p rest with
      | some (name, arguments) =>
        viewCallFront name arguments ++
          markPieces passes (.paren arguments) (some (.word name)) rest
      | none => p :: markPieces passes .nothing (p.token?.or before) rest := by
  rw [markPieces]
  · exact if_neg (by simp)
  · exact fun _ h => nomatch h

lemma markPieces_blanks (before : Option Token) (p : Piece) (rest : List Piece) :
    markPieces passes .blanks before (p :: rest) =
      if p.text.all Text.isBlank then markPieces passes .blanks before rest
      else markPieces passes .nothing before (p :: rest) := by
  rw [markPieces_nothing, markPieces]
  · exact if_congr (by simp) rfl rfl
  · exact fun _ h => nomatch h

/-! ## What is written looks like what was read -/

lemma textOf_viewCallFront (name : String) (arguments : Bool) :
    ∃ more, textOf (viewCallFront name arguments) = '_' :: more :=
  ⟨_, rfl⟩

lemma textOf_append (ps qs : List Piece) : textOf (ps ++ qs) = textOf ps ++ textOf qs :=
  List.flatMap_append

lemma looksLike_markPieces {ps : List Piece} (h : WellCut ps) (before : Option Token) :
    LooksLike (textOf ps) (textOf (markPieces passes .nothing before ps)) := by
  induction h generalizing before with
  | nil =>
    rw [markPieces]
    exact .ends
  | @cons p rest hp _ ih =>
    rw [markPieces_nothing]
    cases hcall : viewCall? passes before p rest with
    | none => exact (ih _).append p.text
    | some call =>
      obtain ⟨name, arguments⟩ := call
      have hkind := (viewCall?_eq_some hcall).1
      obtain ⟨more, hfront⟩ := textOf_viewCallFront name arguments
      simp only [textOf_append, hfront, textOf_cons]
      have hshape := hp.shape
      obtain ⟨kind, text⟩ := p
      cases hshape <;> simp only [PieceKind.token.injEq, reduceCtorEq] at hkind
      rename_i c letters hc _
      exact .word hc (by decide) _ _

/-! ## The front of a call is well cut -/

/-- The word of the explicit form ends at its parenthesis. -/
lemma standsBefore_viewCallWord (after : List Char) :
    (⟨.token (.word viewCallWord), viewCallWord.toList⟩ : Piece).StandsBefore ('(' :: after) := by
  refine ⟨'_', "_view_fn".toList, rfl, ?_⟩
  have hrun : ("_view_fn".toList ++ '(' :: after).takeWhile isWordPart = "_view_fn".toList := by
    rw [takeWhile_eq_self_iff]
    refine ⟨List.all_eq_true.1 (by decide), fun c hc => ?_⟩
    obtain rfl := Option.some.inj hc
    decide
  have hdrop : ("_view_fn".toList ++ '(' :: after).dropWhile isWordPart = '(' :: after := by
    obtain ⟨hall, hstop⟩ := takeWhile_eq_self_iff.1 hrun
    exact dropWhile_append_of_stopsAt hall hstop
  rw [nextPiece, if_neg (by decide), if_pos (by decide)]
  simp only [hrun, hdrop]
  rfl

lemma standsBefore_openParen (after : List Char) :
    (symbolPiece .openParen).StandsBefore after := by
  refine ⟨'(', [], rfl, ?_⟩
  rw [nextPiece, if_neg (by decide), if_neg (by decide), if_neg (by decide), if_neg (by decide),
    if_neg (by decide)]
  rfl

lemma standsBefore_comma (after : List Char) : (symbolPiece .comma).StandsBefore after := by
  refine ⟨',', [], rfl, ?_⟩
  rw [nextPiece, if_neg (by decide), if_neg (by decide), if_neg (by decide), if_neg (by decide),
    if_neg (by decide)]
  rfl

lemma standsBefore_blank {after : List Char} (h : StopsAt isSpacing after) :
    (⟨.blank, [' ']⟩ : Piece).StandsBefore after := by
  refine ⟨' ', [], rfl, ?_⟩
  have htake : ([] ++ after).takeWhile isSpacing = [] :=
    takeWhile_eq_self_iff.2 ⟨by simp, h⟩
  have hdrop : ([] ++ after).dropWhile isSpacing = after :=
    dropWhile_append_of_stopsAt (by simp) h
  rw [nextPiece, if_pos (by decide), htake, hdrop]

lemma isWordPart_ne {c k : Char} (h : isWordPart c = true) (hk : isWordPart k = false) :
    c ≠ k := by
  rintro rfl
  simp [hk] at h

lemma scanString_word {letters : List Char} (h : ∀ c ∈ letters, isWordPart c = true)
    (after : List Char) :
    scanString '"' (letters ++ '"' :: after) = (letters, .closed, after) := by
  induction letters with
  | nil => exact scanString_quote (by decide) after
  | cons c letters ih =>
    have hc : isWordPart c = true := h c List.mem_cons_self
    rw [List.cons_append, scanString_plain (isWordPart_ne hc (by decide))
      (isWordPart_ne hc (by decide)), ih fun d hd => h d (List.mem_cons_of_mem c hd)]

lemma unescape_word {letters : List Char} (h : ∀ c ∈ letters, isWordPart c = true) :
    unescape letters = letters := by
  induction letters with
  | nil => rfl
  | cons c letters ih =>
    have hc : c ≠ '\\' := isWordPart_ne (h c List.mem_cons_self) (by decide)
    rw [unescape, ih fun d hd => h d (List.mem_cons_of_mem c hd)]
    all_goals exact fun _ h => absurd h hc

/-- A name in quotes is a piece whatever follows it. -/
lemma standsBefore_name {letters : List Char} (h : ∀ c ∈ letters, isWordPart c = true)
    (after : List Char) :
    (⟨.token (.text (String.ofList letters)),
      '"' :: (String.ofList letters).toList ++ ['"']⟩ : Piece).StandsBefore after := by
  refine ⟨'"', letters ++ ['"'], by simp, ?_⟩
  rw [nextPiece, if_neg (by decide), if_neg (by decide), if_neg (by decide), if_neg (by decide),
    if_pos (by decide), stringPiece, List.append_assoc, List.singleton_append, scanString_word h]
  simp [unescape_word h]

/-- The front of a call is well cut before what is left of the call. -/
lemma wellCut_viewCallFront {name : List Char} (h : ∀ c ∈ name, isWordPart c = true)
    {arguments : Bool} {ps : List Piece} (hps : WellCut ps)
    (hblank : arguments = true → StopsAt isSpacing (textOf ps)) :
    WellCut (viewCallFront (String.ofList name) arguments ++ ps) := by
  cases arguments with
  | false =>
    exact .cons (standsBefore_viewCallWord _) <| .cons (standsBefore_openParen _) <|
      .cons (standsBefore_name h _) hps
  | true =>
    exact .cons (standsBefore_viewCallWord _) <| .cons (standsBefore_openParen _) <|
      .cons (standsBefore_name h _) <| .cons (standsBefore_comma _) <|
      .cons (standsBefore_blank (hblank rfl)) hps

/-! ## Marked pieces are well cut -/

/-- A piece that is kept where blanks are left out does not start with a blank. -/
lemma stopsAt_markPieces_blanks {ps : List Piece} (h : WellCut ps) (before : Option Token) :
    StopsAt isSpacing (textOf (markPieces passes .blanks before ps)) := by
  induction h with
  | nil =>
    rw [markPieces, textOf_nil]
    exact fun c hc => nomatch hc
  | @cons p rest hp hrest ih =>
    rw [markPieces_blanks]
    by_cases hblank : p.text.all Text.isBlank = true
    · rw [if_pos hblank]
      exact ih
    · rw [if_neg hblank]
      have hkind : p.kind ≠ .blank := by
        intro hkind
        have hshape := hp.shape
        obtain ⟨kind, text⟩ := p
        cases hshape <;> simp only [reduceCtorEq] at hkind
        rename_i hspacing
        exact hblank (List.all_eq_true.2 fun c hc => isBlank_of_isSpacing (hspacing c hc))
      exact (looksLike_markPieces (.cons hp hrest) before).stopsAt wordBlind_isSpacing
        (hp.stopsAt_isSpacing hkind (textOf rest))

lemma wellCut_markPieces {ps : List Piece} (h : WellCut ps) (omission : Omission)
    (before : Option Token) : WellCut (markPieces passes omission before ps) := by
  induction h generalizing omission before with
  | nil =>
    rw [markPieces]
    exact .nil
  | @cons p rest hp hrest ih =>
    -- A piece is written in the same way whether or not blanks are being left out.
    have hkept : ∀ before, WellCut (markPieces passes .nothing before (p :: rest)) := by
      intro before
      rw [markPieces_nothing]
      cases hcall : viewCall? passes before p rest with
      | none => exact .cons (hp.congr (looksLike_markPieces hrest _)) (ih _ _)
      | some call =>
        obtain ⟨name, arguments⟩ := call
        obtain ⟨hkind, -, -, -, paren, more, rfl, -⟩ := viewCall?_eq_some hcall
        obtain ⟨letters, rfl, hletters⟩ := hp.shape.name_of_word hkind
        refine wellCut_viewCallFront hletters (ih _ _) fun harguments => ?_
        cases hrest with
        | cons _ hmore =>
          rw [harguments, markPieces, if_pos rfl]
          exact stopsAt_markPieces_blanks hmore _
    cases omission with
    | nothing => exact hkept before
    | paren arguments =>
      rw [markPieces]
      exact ih _ _
    | blanks =>
      rw [markPieces_blanks]
      split
      · exact ih _ _
      · exact hkept before

/-- Cutting a marked script gives the pieces that were written. -/
theorem pieces_markCalls (passes : String → Bool) (source : List Char) :
    pieces (markCalls passes source) = markPieces passes .nothing none (pieces source) :=
  pieces_eq_of_wellCut (wellCut_markPieces (wellCut_pieces source) .nothing none)

end ViewTemplate.Script
