import Mathlib.Tactic.Common
import ViewTemplate.Proofs.MarkedPieces
import ViewTemplate.Proofs.PlainText
import ViewTemplate.Proofs.Readers

/-!
# Scripts without their ends

What is left of a script when something at its ends is taken away is cut and read as before, as far
as it goes.  A token looks at the text behind it only to see whether it could be longer, so it stays
the same token in front of any other text that ends it too (`Piece.StandsBefore.of_endsAlike`), and
a text that is cut short does.  And a phrase looks at the tokens behind it only to see whether one
of them carries it on, so it is read as before when they are taken away (`Reads.of_append`).

For blanks at both ends this gives that a script is read like the trimmed script
(`parseExpression_trim`).
-/

namespace ViewTemplate.Script

/-! ## Tokens in front of another text -/

/-- What ends a token in front of `text` ends it in front of `other` as well. -/
structure EndsAlike (text other : List Char) : Prop where
  word : StopsAt isWordPart text → StopsAt isWordPart other
  digits : StopsAt Char.isDigit text → StopsAt Char.isDigit other
  integer : NoFraction text → NoFraction other
  symbol : ∀ s, Symbol.split? (s.spelling ++ text) = some (s, text) →
    Symbol.split? (s.spelling ++ other) = some (s, other)

lemma StopsAt.append_left {q : Char → Bool} {text other : List Char} (more : List Char)
    (hq : StopsAt q text → StopsAt q other) (h : StopsAt q (more ++ text)) :
    StopsAt q (more ++ other) := by
  cases more with
  | nil => exact hq h
  | cons d more => exact h

lemma takeWhile_of_stopsAt {q : Char → Bool} {run text other : List Char}
    (h : (run ++ text).takeWhile q = run) (hq : StopsAt q text → StopsAt q other) :
    (run ++ other).takeWhile q = run ∧ (run ++ other).dropWhile q = other := by
  obtain ⟨hall, hstop⟩ := takeWhile_eq_self_iff.1 h
  exact ⟨takeWhile_eq_self_iff.2 ⟨hall, hq hstop⟩, dropWhile_append_of_stopsAt hall (hq hstop)⟩

section Alike

variable {text other more : List Char} {p : Piece}

lemma numberPiece_of_endsAlike {digits : List Char}
    (h : numberPiece digits (more ++ text) = (p, text)) (hp : p.text = digits ++ more)
    (halike : EndsAlike text other) : numberPiece digits (more ++ other) = (p, other) := by
  by_cases hfraction : NoFraction (more ++ text)
  · rw [numberPiece_integer hfraction, Prod.mk.injEq] at h
    obtain ⟨rfl, -⟩ := h
    obtain rfl : more = [] := by simpa [integerPiece] using hp.symm
    exact numberPiece_integer (halike.integer hfraction) digits
  · simp only [NoFraction, not_forall, Bool.not_eq_false] at hfraction
    obtain ⟨d, rest, hrest, hd⟩ := hfraction
    rw [hrest, numberPiece_float hd, Prod.mk.injEq] at h
    obtain ⟨rfl, -⟩ := h
    obtain rfl : more = '.' :: d :: rest.takeWhile Char.isDigit := by
      simpa [floatPiece] using hp.symm
    rw [List.cons_append, List.cons_append, List.cons.injEq, List.cons.injEq] at hrest
    obtain ⟨htake, hdrop⟩ :=
      takeWhile_of_stopsAt (congrArg (List.takeWhile Char.isDigit) hrest.2.2) halike.digits
    rw [List.cons_append, List.cons_append, numberPiece_float hd, htake, hdrop]

lemma dollarPiece_of_endsAlike (h : dollarPiece (more ++ text) = (p, text))
    (hp : p.text = '$' :: more) (hjunk : p.kind ≠ .junk) (halike : EndsAlike text other) :
    dollarPiece (more ++ other) = (p, other) := by
  unfold dollarPiece at h
  split at h
  · obtain ⟨rfl, -⟩ := Prod.mk.inj h
    exact absurd rfl hjunk
  · rename_i c follows heq
    dsimp only at h
    split at h
    · rename_i hc
      obtain ⟨rfl, -⟩ := Prod.mk.inj h
      obtain rfl : more = c :: follows.takeWhile isWordPart := by simpa using hp.symm
      rw [List.cons_append, List.cons.injEq] at heq
      obtain ⟨htake, hdrop⟩ :=
        takeWhile_of_stopsAt (congrArg (List.takeWhile isWordPart) heq.2) halike.word
      simp only [List.cons_append, dollarPiece, hc, if_true, htake, hdrop]
    · obtain ⟨rfl, -⟩ := Prod.mk.inj h
      exact absurd rfl hjunk

lemma stringPiece_of_closed {quote : Char} (hquote : quote ≠ '\\')
    (h : stringPiece quote (more ++ text) = (p, text)) (hp : p.text = quote :: more)
    (hjunk : p.kind ≠ .junk) (other : List Char) :
    stringPiece quote (more ++ other) = (p, other) := by
  obtain ⟨⟨body, ending, follows⟩, hscan⟩ :
      ∃ scanned, scanString quote (more ++ text) = scanned := ⟨_, rfl⟩
  rw [stringPiece, hscan] at h
  dsimp only at h
  split at h
  · rename_i hending
    subst hending
    obtain ⟨rfl, rfl⟩ := Prod.mk.inj h
    obtain rfl : more = body ++ [quote] := by simpa using hp.symm
    rw [stringPiece, List.append_assoc, List.singleton_append, scanString_of_closed hquote hscan]
    rfl
  · obtain ⟨rfl, -⟩ := Prod.mk.inj h
    exact absurd rfl hjunk

/-- A token stays a piece in front of another text that ends it, and so does a row of blanks. -/
lemma Piece.StandsBefore.of_endsAlike (h : p.StandsBefore text) (hjunk : p.kind ≠ .junk)
    (hblank : p.kind = .blank → StopsAt isSpacing text → StopsAt isSpacing other)
    (halike : EndsAlike text other) : p.StandsBefore other := by
  obtain ⟨c, rest, htext, hnext⟩ := h
  refine ⟨c, rest, htext, ?_⟩
  unfold nextPiece at hnext ⊢
  by_cases hspacing : isSpacing c = true
  · simp only [hspacing, if_true, Prod.mk.injEq] at hnext ⊢
    obtain ⟨rfl, -⟩ := hnext
    have hrun : (rest ++ text).takeWhile isSpacing = rest := by simpa using htext
    obtain ⟨htake, hdrop⟩ := takeWhile_of_stopsAt hrun (hblank rfl)
    rw [hrun, htake]
    exact ⟨rfl, hdrop⟩
  rw [if_neg hspacing] at hnext ⊢
  by_cases hword : isWordStart c = true
  · simp only [hword, if_true, Prod.mk.injEq] at hnext ⊢
    obtain ⟨rfl, -⟩ := hnext
    have hrun : (rest ++ text).takeWhile isWordPart = rest := by simpa using htext
    obtain ⟨htake, hdrop⟩ := takeWhile_of_stopsAt hrun halike.word
    rw [hrun, htake]
    exact ⟨rfl, hdrop⟩
  rw [if_neg hword] at hnext ⊢
  by_cases hdollar : c = '$'
  · rw [if_pos hdollar] at hnext ⊢
    exact dollarPiece_of_endsAlike hnext (by rw [htext, hdollar]) hjunk halike
  rw [if_neg hdollar] at hnext ⊢
  by_cases hdigit : c.isDigit = true
  · rw [if_pos hdigit] at hnext ⊢
    -- The first digits, and what the number has behind them if it is a float.
    obtain ⟨digits, hdigits⟩ : ∃ digits, (rest ++ text).takeWhile Char.isDigit = digits :=
      ⟨_, rfl⟩
    obtain ⟨follows, hfollows⟩ : ∃ follows, (rest ++ text).dropWhile Char.isDigit = follows :=
      ⟨_, rfl⟩
    have hparts : digits ++ follows = rest ++ text := by
      rw [← hdigits, ← hfollows, List.takeWhile_append_dropWhile]
    rw [hdigits, hfollows] at hnext
    obtain ⟨more, hmore⟩ := numberPiece_text (c :: digits) follows
    rw [hnext, htext, List.cons_append, List.cons.injEq] at hmore
    obtain ⟨-, rfl⟩ := hmore
    rw [List.append_assoc] at hdigits hparts ⊢
    obtain rfl := List.append_cancel_left hparts
    obtain ⟨htake, hdrop⟩ := takeWhile_of_stopsAt hdigits (StopsAt.append_left more halike.digits)
    rw [htake, hdrop]
    exact numberPiece_of_endsAlike hnext htext halike
  rw [if_neg hdigit] at hnext ⊢
  by_cases hquote : c = '"' ∨ c = '\''
  · rw [if_pos hquote] at hnext ⊢
    have hescape : c ≠ '\\' := by rcases hquote with rfl | rfl <;> decide
    exact stringPiece_of_closed hescape hnext htext hjunk other
  rw [if_neg hquote] at hnext ⊢
  split at hnext
  · rename_i s after hsplit
    obtain ⟨rfl, rfl⟩ := Prod.mk.inj hnext
    have hspelling : s.spelling = c :: rest := htext
    rw [← List.cons_append, ← hspelling] at hsplit
    rw [← List.cons_append, ← hspelling, halike.symbol s hsplit]
  · obtain ⟨rfl, -⟩ := Prod.mk.inj hnext
    exact absurd rfl hjunk

end Alike

/-! ## Tokens in front of a text that is cut short -/

lemma StopsAt.of_append {q : Char → Bool} {text tail : List Char} (h : StopsAt q (text ++ tail)) :
    StopsAt q text := by
  intro c hc
  obtain ⟨more, rfl⟩ := List.head?_eq_some_iff.1 hc
  exact h c rfl

lemma NoFraction.of_append {text tail : List Char} (h : NoFraction (text ++ tail)) :
    NoFraction text := by
  rintro d rest rfl
  exact h d (rest ++ tail) rfl

lemma afterMarker?_append_right {marker text rest : List Char}
    (h : Text.afterMarker? marker text = some rest) (tail : List Char) :
    Text.afterMarker? marker (text ++ tail) = some (rest ++ tail) := by
  rw [Text.afterMarker?_eq_some h, List.append_assoc, Text.afterMarker?_append]

/-- A symbol stays the longest one when the text behind it is cut short. -/
lemma Symbol.split?_of_append {s : Symbol} {rest tail : List Char}
    (h : split? (s.spelling ++ (rest ++ tail)) = some (s, rest ++ tail)) :
    split? (s.spelling ++ rest) = some (s, rest) := by
  unfold split? at h ⊢
  generalize all = symbols at h ⊢
  induction symbols with
  | nil => cases h
  | cons t symbols ih =>
    rw [List.findSome?_cons] at h ⊢
    cases ht : Text.afterMarker? t.spelling (s.spelling ++ rest) with
    | none =>
      cases hlong : Text.afterMarker? t.spelling (s.spelling ++ (rest ++ tail)) with
      | none =>
        rw [hlong] at h
        exact ih h
      | some after =>
        -- the symbol found is `s` itself, which fits the shorter text too
        rw [hlong] at h
        obtain ⟨rfl, -⟩ := Prod.mk.inj (Option.some.inj h)
        rw [Text.afterMarker?_append] at ht
        cases ht
    | some after =>
      have hlong := afterMarker?_append_right ht tail
      rw [List.append_assoc] at hlong
      rw [hlong] at h
      obtain ⟨rfl, -⟩ := Prod.mk.inj (Option.some.inj h)
      rw [Text.afterMarker?_append] at ht
      obtain rfl := Option.some.inj ht
      rfl

/-- A token stays a piece when the text behind it is cut short. -/
lemma Piece.StandsBefore.of_append {p : Piece} {text tail : List Char}
    (h : p.StandsBefore (text ++ tail)) (hjunk : p.kind ≠ .junk) : p.StandsBefore text :=
  h.of_endsAlike hjunk (fun _ => StopsAt.of_append)
    ⟨StopsAt.of_append, StopsAt.of_append, NoFraction.of_append, fun _ => Symbol.split?_of_append⟩

/-! ## Parts of a cut -/

/-- The front of a cut without junk is well cut. -/
lemma WellCut.of_append {front behind : List Piece} (h : WellCut (front ++ behind))
    (hjunk : JunkFree front) : WellCut front := by
  induction front with
  | nil => exact .nil
  | cons p front ih =>
    rw [List.cons_append] at h
    obtain _ | ⟨hp, hrest⟩ := h
    rw [textOf_append] at hp
    exact .cons (hp.of_append (hjunk p List.mem_cons_self))
      (ih hrest fun q hq => hjunk q (.tail p hq))

lemma WellCut.behind {front behind : List Piece} (h : WellCut (front ++ behind)) :
    WellCut behind := by
  induction front with
  | nil => exact h
  | cons p front ih =>
    rw [List.cons_append] at h
    obtain _ | ⟨-, hrest⟩ := h
    exact ih hrest

/-- A row of pieces that is well cut is read by the grammar alone. -/
lemma parseExpression_textOf {ps : List Piece} (h : WellCut ps) {e : Expr} :
    parseExpression (textOf ps) = .ok e ↔
      JunkFree ps ∧ Reads .expression (tokensAmong ps) (.expr e) [] := by
  rw [parseExpression_eq_ok_iff, pieces_eq_of_wellCut h]

/-! ## Trimmed scripts -/

lemma Piece.Shape.isBlank_eq_false {p : Piece} (h : p.Shape) {t : Token} (hp : p.kind = .token t)
    (htext : ∀ s, t ≠ .text s) {c : Char} (hc : c ∈ p.text) : Text.isBlank c = false := by
  cases h with
  | blank => simp at hp
  | junk => simp at hp
  | text => exact absurd (PieceKind.token.inj hp).symm (htext _)
  | word hd hrest =>
    obtain rfl | hc := List.mem_cons.1 hc
    · exact isBlank_eq_false_of_isWordPart (isWordPart_iff.2 (.inl hd))
    · exact isBlank_eq_false_of_isWordPart (hrest c hc)
  | var hd hrest =>
    obtain rfl | hc := List.mem_cons.1 hc
    · decide
    obtain rfl | hc := List.mem_cons.1 hc
    · exact isBlank_eq_false_of_isWordPart (isWordPart_iff.2 (.inl hd))
    · exact isBlank_eq_false_of_isWordPart (hrest c hc)
  | integer hdigits =>
    exact isBlank_eq_false_of_isWordPart (isWordPart_iff.2 (.inr (hdigits c hc)))
  | float hdigits =>
    obtain hdigit | rfl := hdigits c hc
    · exact isBlank_eq_false_of_isWordPart (isWordPart_iff.2 (.inr hdigit))
    · decide
  | symbol s => exact Symbol.isBlank_eq_false_of_mem_spelling hc

/-- A token starts and ends with characters that are not blank. -/
lemma Piece.StandsBefore.ends {p : Piece} {after : List Char} (h : p.StandsBefore after) {t : Token}
    (hp : p.kind = .token t) :
    (∃ c rest, p.text = c :: rest ∧ Text.isBlank c = false) ∧
      ∃ front d, p.text = front ++ [d] ∧ Text.isBlank d = false := by
  by_cases htext : ∃ s, t = .text s
  · obtain ⟨s, rfl⟩ := htext
    obtain ⟨quote, body, hquote, hbody, -⟩ := h.shape.quoted_of_text hp
    have hvisible : Text.isBlank quote = false := by obtain rfl | rfl := hquote <;> decide
    exact ⟨⟨quote, body ++ [quote], hbody, hvisible⟩, ⟨quote :: body, quote, hbody, hvisible⟩⟩
  · have hall : ∀ c ∈ p.text, Text.isBlank c = false :=
      fun c hc => h.shape.isBlank_eq_false hp (not_exists.1 htext) hc
    obtain ⟨c, rest, hfirst, -⟩ := h
    refine ⟨⟨c, rest, hfirst, hall c (by simp [hfirst])⟩, ?_⟩
    obtain hnil | ⟨front, d, hlast⟩ := p.text.eq_nil_or_concat'
    · rw [hnil] at hfirst
      cases hfirst
    · exact ⟨front, d, hlast, hall d (by simp [hlast])⟩

lemma Piece.StandsBefore.isBlank_of_blank {p : Piece} {after : List Char} (h : p.StandsBefore after)
    (hp : p.kind = .blank) : ∀ c ∈ p.text, Text.isBlank c = true := by
  have hshape := h.shape
  obtain ⟨kind, text⟩ := p
  cases hshape <;> simp only [reduceCtorEq] at hp
  rename_i hspacing
  exact fun c hc => isBlank_of_isSpacing (hspacing c hc)

/-- The pieces `qs` are a cut of `text` without junk that has the tokens `ts`. -/
structure CutsTo (qs : List Piece) (text : List Char) (ts : List Token) : Prop where
  wellCut : WellCut qs
  junkFree : JunkFree qs
  text : textOf qs = text
  tokens : tokensAmong qs = ts

/-- Without the blanks in front of it a script has the same tokens. -/
lemma CutsTo.trimStart {ps : List Piece} {text : List Char} {ts : List Token}
    (h : CutsTo ps text ts) : ∃ qs, CutsTo qs (Text.trimStart text) ts := by
  obtain ⟨hcut, hjunk, rfl, rfl⟩ := h
  induction hcut with
  | nil => exact ⟨[], .nil, hjunk, rfl, rfl⟩
  | @cons p rest hp hrest ih =>
    have hrestJunk : JunkFree rest := fun q hq => hjunk q (.tail p hq)
    cases hkind : p.kind with
    | junk => exact absurd hkind (hjunk p List.mem_cons_self)
    | blank =>
      rw [tokensAmong_cons_blank hkind, textOf_cons, Text.trimStart,
        List.dropWhile_append_of_pos (hp.isBlank_of_blank hkind)]
      exact ih hrestJunk
    | token t =>
      obtain ⟨⟨c, more, htext, hc⟩, -⟩ := hp.ends hkind
      refine ⟨p :: rest, .cons hp hrest, hjunk, ?_, rfl⟩
      rw [textOf_cons, htext, List.cons_append, Text.trimStart,
        List.dropWhile_cons_of_neg (by simp [hc])]

lemma CutsTo.trimEnd {ps : List Piece} {text : List Char} {ts : List Token}
    (h : CutsTo ps text ts) : ∃ qs, CutsTo qs (Text.trimEnd text) ts := by
  obtain ⟨hcut, hjunk, rfl, rfl⟩ := h
  induction ps using List.reverseRecOn with
  | nil => exact ⟨[], .nil, hjunk, rfl, rfl⟩
  | append_singleton rest p ih =>
    have hrestJunk : JunkFree rest := fun q hq => hjunk q (List.mem_append_left _ hq)
    have hp : p.StandsBefore (textOf []) := by
      obtain _ | ⟨hp, -⟩ := hcut.behind
      exact hp
    cases hkind : p.kind with
    | junk => exact absurd hkind (hjunk p (by simp))
    | blank =>
      rw [tokensAmong_append, tokensAmong_cons_blank hkind, tokensAmong_nil, List.append_nil,
        textOf_append, textOf_cons, textOf_nil, List.append_nil,
        Text.trimEnd_append (hp.isBlank_of_blank hkind)]
      exact ih (hcut.of_append hrestJunk) hrestJunk
    | token t =>
      -- a token does not end with a blank, so nothing is trimmed from it
      obtain ⟨-, front, d, htext, hd⟩ := hp.ends hkind
      refine ⟨rest ++ [p], hcut, hjunk, ?_, rfl⟩
      rw [textOf_append, textOf_cons, textOf_nil, List.append_nil, htext, ← List.append_assoc,
        Template.trimEnd_of_last hd]

/-- A script is read like the script without the blanks around it. -/
lemma parseExpression_trim {source : List Char} {e : Expr} (h : parseExpression source = .ok e) :
    parseExpression (Text.trim source) = .ok e := by
  obtain ⟨hjunk, hreads⟩ := parseExpression_eq_ok_iff.1 h
  have hcuts : CutsTo (pieces source) source (tokensAmong (pieces source)) :=
    ⟨wellCut_pieces source, hjunk, textOf_pieces source, rfl⟩
  obtain ⟨qs, hstart⟩ := hcuts.trimStart
  obtain ⟨rs, hends⟩ := hstart.trimEnd
  rw [Text.trim, ← hends.text, parseExpression_textOf hends.wellCut, hends.tokens]
  exact ⟨hends.junkFree, hreads⟩

/-! ## Phrases without what follows them -/

lemma not_starts_of_append {s : Symbol} {front tail : List Token} (h : ¬Starts s (front ++ tail)) :
    ¬Starts s front := by
  rintro ⟨more, rfl⟩
  exact h ⟨more ++ tail, rfl⟩

/-- A phrase is read as before when tokens are taken away that it leaves alone. -/
lemma Reads.of_append {p : Phrase} {ts rest : List Token} {found : Found}
    (h : Reads p ts found rest) {tail : List Token} (kept : List Token)
    (hrest : rest = kept ++ tail) : ∃ front, ts = front ++ tail ∧ Reads p front found kept := by
  induction h generalizing kept with
  | alone h hstop ih =>
    obtain ⟨front, rfl, hfront⟩ := ih kept hrest
    subst hrest
    exact ⟨front, rfl, .alone hfront (not_starts_of_append hstop)⟩
  | coalesce h hother ih ihOther =>
    obtain ⟨more, rfl, hmore⟩ := ihOther kept hrest
    obtain ⟨front, rfl, hfront⟩ := ih (_ :: more) rfl
    exact ⟨front, rfl, .coalesce hfront hmore⟩
  | condition h hstop ih =>
    obtain ⟨front, rfl, hfront⟩ := ih kept hrest
    subst hrest
    exact ⟨front, rfl, .condition hfront (not_starts_of_append hstop)⟩
  | ternary h hyes hno ih ihYes ihNo =>
    obtain ⟨behindYes, rfl, hbehindYes⟩ := ihNo kept hrest
    obtain ⟨more, rfl, hmore⟩ := ihYes (_ :: behindYes) rfl
    obtain ⟨front, rfl, hfront⟩ := ih (_ :: more) rfl
    exact ⟨front, rfl, .ternary hfront hmore hbehindYes⟩
  | binary h hrest' ih ihRest =>
    obtain ⟨more, rfl, hmore⟩ := ihRest kept hrest
    obtain ⟨front, rfl, hfront⟩ := ih more rfl
    exact ⟨front, rfl, .binary hfront hmore⟩
  | noOperator hstop =>
    subst hrest
    refine ⟨kept, rfl, .noOperator fun s op hs => hstop s op ?_⟩
    obtain ⟨more, rfl⟩ := hs
    exact ⟨more ++ tail, rfl⟩
  | operator hop hlevel h hrest' ih ihRest =>
    obtain ⟨more, rfl, hmore⟩ := ihRest kept hrest
    obtain ⟨front, rfl, hfront⟩ := ih more rfl
    exact ⟨_ :: front, rfl, .operator hop hlevel hfront hmore⟩
  | not h ih =>
    obtain ⟨front, rfl, hfront⟩ := ih kept hrest
    exact ⟨_ :: front, rfl, .not hfront⟩
  | negate h ih =>
    obtain ⟨front, rfl, hfront⟩ := ih kept hrest
    exact ⟨_ :: front, rfl, .negate hfront⟩
  | unsigned hnot hminus h ih =>
    obtain ⟨front, rfl, hfront⟩ := ih kept hrest
    exact ⟨front, rfl, .unsigned (not_starts_of_append hnot) (not_starts_of_append hminus) hfront⟩
  | steps h hrest' ih ihRest =>
    obtain ⟨more, rfl, hmore⟩ := ihRest kept hrest
    obtain ⟨front, rfl, hfront⟩ := ih more rfl
    exact ⟨front, rfl, .steps hfront hmore⟩
  | noStep hbracket harrow =>
    subst hrest
    exact ⟨kept, rfl, .noStep (not_starts_of_append hbracket) (not_starts_of_append harrow)⟩
  | index h hrest' ih ihRest =>
    obtain ⟨more, rfl, hmore⟩ := ihRest kept hrest
    obtain ⟨front, rfl, hfront⟩ := ih (_ :: more) rfl
    exact ⟨_ :: front, rfl, .index hfront hmore⟩
  | property hstop hrest' ihRest =>
    obtain ⟨more, rfl, hmore⟩ := ihRest kept hrest
    exact ⟨_ :: _ :: more, rfl, .property (not_starts_of_append hstop) hmore⟩
  | method h hrest' ih ihRest =>
    obtain ⟨more, rfl, hmore⟩ := ihRest kept hrest
    obtain ⟨front, rfl, hfront⟩ := ih more rfl
    exact ⟨_ :: _ :: _ :: front, rfl, .method hfront hmore⟩
  | var => exact ⟨_ :: kept, by rw [hrest]; rfl, .var⟩
  | integer => exact ⟨_ :: kept, by rw [hrest]; rfl, .integer⟩
  | float => exact ⟨_ :: kept, by rw [hrest]; rfl, .float⟩
  | text => exact ⟨_ :: kept, by rw [hrest]; rfl, .text⟩
  | group h ih =>
    obtain ⟨front, rfl, hfront⟩ := ih (_ :: kept) (by rw [hrest]; rfl)
    exact ⟨_ :: front, rfl, .group hfront⟩
  | array h ih =>
    obtain ⟨front, rfl, hfront⟩ := ih kept hrest
    exact ⟨_ :: front, rfl, .array hfront⟩
  | literal hliteral => exact ⟨_ :: kept, by rw [hrest]; rfl, .literal hliteral⟩
  | viewCall h ih =>
    obtain ⟨front, rfl, hfront⟩ := ih kept hrest
    exact ⟨_ :: _ :: _ :: _ :: front, rfl, .viewCall hfront⟩
  | viewCallAlone => exact ⟨_ :: _ :: _ :: _ :: kept, by rw [hrest]; rfl, .viewCallAlone⟩
  | staticCall hliteral hname h ih =>
    obtain ⟨front, rfl, hfront⟩ := ih kept hrest
    exact ⟨_ :: _ :: _ :: _ :: front, rfl, .staticCall hliteral hname hfront⟩
  | call hliteral hname h ih =>
    obtain ⟨front, rfl, hfront⟩ := ih kept hrest
    exact ⟨_ :: _ :: front, rfl, .call hliteral hname hfront⟩
  | noArguments => exact ⟨_ :: kept, by rw [hrest]; rfl, .noArguments⟩
  | someArguments hstop h ih =>
    obtain ⟨front, rfl, hfront⟩ := ih kept hrest
    exact ⟨front, rfl, .someArguments (not_starts_of_append hstop) hfront⟩
  | lastArgument h ih =>
    obtain ⟨front, rfl, hfront⟩ := ih (_ :: kept) (by rw [hrest]; rfl)
    exact ⟨front, rfl, .lastArgument hfront⟩
  | argument h hrest' ih ihRest =>
    obtain ⟨more, rfl, hmore⟩ := ihRest kept hrest
    obtain ⟨front, rfl, hfront⟩ := ih (_ :: more) rfl
    exact ⟨front, rfl, .argument hfront hmore⟩
  | noEntries => exact ⟨_ :: kept, by rw [hrest]; rfl, .noEntries⟩
  | lastEntry hstop h ih =>
    obtain ⟨front, rfl, hfront⟩ := ih (_ :: kept) (by rw [hrest]; rfl)
    exact ⟨front, rfl, .lastEntry (not_starts_of_append hstop) hfront⟩
  | someEntries hstop h hrest' ih ihRest =>
    obtain ⟨more, rfl, hmore⟩ := ihRest kept hrest
    obtain ⟨front, rfl, hfront⟩ := ih (_ :: more) rfl
    exact ⟨front, rfl, .someEntries (not_starts_of_append hstop) hfront hmore⟩
  | item h hstop ih =>
    obtain ⟨front, rfl, hfront⟩ := ih kept hrest
    subst hrest
    exact ⟨front, rfl, .item hfront (not_starts_of_append hstop)⟩
  | pair h hvalue ih ihValue =>
    obtain ⟨more, rfl, hmore⟩ := ihValue kept hrest
    obtain ⟨front, rfl, hfront⟩ := ih (_ :: more) rfl
    exact ⟨front, rfl, .pair hfront hmore⟩

end ViewTemplate.Script
