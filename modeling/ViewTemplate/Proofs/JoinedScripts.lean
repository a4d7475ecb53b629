import Mathlib.Tactic.Common
import ViewTemplate.Proofs.LoopClauses

/-!
# Scripts with a text around them

A clause is read by itself, but the calls in it were marked while it was a part of a longer text.
So the pieces of the clause have to be found again among those of the text.  In front of a clause
stands something that is a row of whole pieces, and behind it a blank, a closing parenthesis, a
semicolon or nothing.  None of these makes a token longer (`EndsTokens`), so the tokens of a script
without junk stay what they are with such a text behind them (`Piece.StandsBefore.append`).

`StandsIn ts text` says what is left of this once the clause has been read: its tokens are a
stretch of the tokens of the text, and a bare call may stand at their front.  It holds for whatever
a directive reads out of its argument (`standsIn_stripParens`, `standsIn_subject`,
`standsIn_clauses`).
-/

namespace ViewTemplate.Script

open ViewTemplate.Directive

/-! ## Texts that end a token -/

/-- The characters that make no token longer. -/
def isBarrier (c : Char) : Bool :=
  Text.isBlank c || c == ')' || c == ';'

/-- No token goes on into a text. -/
def EndsTokens (text : List Char) : Prop :=
  ∀ c, text.head? = some c → isBarrier c = true

lemma isBarrier_of_isBlank {c : Char} (h : Text.isBlank c = true) : isBarrier c = true := by
  simp [isBarrier, h]

lemma isWordPart_eq_false_of_isBarrier {c : Char} (h : isBarrier c = true) :
    isWordPart c = false := by
  by_contra hword
  rw [Bool.not_eq_false] at hword
  simp only [isBarrier, isBlank_eq_false_of_isWordPart hword, Bool.false_or, Bool.or_eq_true,
    beq_iff_eq] at h
  obtain rfl | rfl := h <;> exact absurd hword (by decide)

lemma isWordPart_eq_false_iff {c : Char} :
    isWordPart c = false ↔ isWordStart c = false ∧ c.isDigit = false := by
  simp only [← Bool.not_eq_true, isWordPart_iff, not_or]

/-- A symbol that holds such a character holds no other one. -/
lemma Symbol.spelling_of_isBarrier {s : Symbol} {c : Char} (hc : c ∈ s.spelling)
    (h : isBarrier c = true) : s.spelling = [c] := by
  have hall : ∀ t ∈ Symbol.all,
      t.spelling.all (fun d => !isBarrier d || decide (t.spelling = [d])) = true := by decide
  have hsingle := List.all_eq_true.1 (hall s (Symbol.mem_all s)) c hc
  simpa [h] using hsingle

namespace EndsTokens

variable {text tail : List Char}

lemma nil : EndsTokens [] :=
  fun _ h => nomatch h

lemma cons {c : Char} (h : isBarrier c = true) (rest : List Char) : EndsTokens (c :: rest) :=
  fun _ hd => Option.some.inj hd ▸ h

lemma append_blanks {blanks : List Char} (hblanks : ∀ c ∈ blanks, Text.isBlank c = true)
    (h : EndsTokens tail) : EndsTokens (blanks ++ tail) := by
  cases blanks with
  | nil => exact h
  | cons c blanks => exact cons (isBarrier_of_isBlank (hblanks c List.mem_cons_self)) _

lemma stopsAt_isWordPart (h : EndsTokens tail) : StopsAt isWordPart tail :=
  fun c hc => isWordPart_eq_false_of_isBarrier (h c hc)

lemma stopsAt_isDigit (h : EndsTokens tail) : StopsAt Char.isDigit tail :=
  fun c hc => (isWordPart_eq_false_iff.1 (h.stopsAt_isWordPart c hc)).2

end EndsTokens

/-! ## Tokens in front of a text that goes on -/

lemma StopsAt.append {q : Char → Bool} {text tail : List Char} (h : StopsAt q text)
    (htail : text = [] → StopsAt q tail) : StopsAt q (text ++ tail) := by
  cases text with
  | nil => exact htail rfl
  | cons d text => exact fun c hc => h c hc

lemma NoFraction.append {text tail : List Char} (h : NoFraction text) (htail : EndsTokens tail) :
    NoFraction (text ++ tail) := by
  intro d rest heq
  match text with
  | [] =>
    rw [List.nil_append] at heq
    exact absurd (htail '.' (by rw [heq]; rfl)) (by decide)
  | [c] =>
    rw [List.singleton_append, List.cons.injEq] at heq
    exact htail.stopsAt_isDigit d (by rw [heq.2]; rfl)
  | c :: e :: more =>
    rw [List.cons_append, List.cons_append, List.cons.injEq, List.cons.injEq] at heq
    obtain ⟨rfl, rfl, -⟩ := heq
    exact h e more rfl

section Longer

variable {text tail : List Char}

/-- No symbol reaches over another one into a text that ends tokens. -/
lemma Symbol.not_reaches {s t : Symbol} {after : List Char} (htail : EndsTokens tail)
    (h : s.spelling ++ (text ++ tail) = t.spelling ++ after) :
    ∃ rest, s.spelling ++ text = t.spelling ++ rest := by
  rw [← List.append_assoc] at h
  obtain ⟨rest, ht, hrest⟩ | ⟨rest, hs, -⟩ := List.append_eq_append_iff.1 h
  · cases rest with
    | nil => exact ⟨[], by rw [ht, List.append_nil, List.append_nil]⟩
    | cons c rest =>
      exfalso
      have hbarrier : isBarrier c = true := htail c (by rw [hrest]; rfl)
      have hsingle := t.spelling_of_isBarrier (by simp [ht]) hbarrier
      have hpos : 0 < s.spelling.length := by cases s <;> decide
      have hlength := congrArg List.length (ht.symm.trans hsingle)
      simp only [List.length_append, List.length_cons, List.length_nil] at hlength
      omega
  · exact ⟨rest, hs⟩

/-- A symbol stays the longest one when the text behind it goes on. -/
lemma Symbol.split?_append_right {s : Symbol} (h : split? (s.spelling ++ text) = some (s, text))
    (htail : EndsTokens tail) :
    split? (s.spelling ++ (text ++ tail)) = some (s, text ++ tail) := by
  unfold split? at h ⊢
  generalize all = symbols at h ⊢
  induction symbols with
  | nil => cases h
  | cons t symbols ih =>
    rw [List.findSome?_cons] at h ⊢
    cases ht : Text.afterMarker? t.spelling (s.spelling ++ text) with
    | none =>
      -- a symbol that fits only the longer text would reach over `s` into the tail
      have hlong : Text.afterMarker? t.spelling (s.spelling ++ (text ++ tail)) = none := by
        by_contra hfound
        obtain ⟨after, hafter⟩ := Option.ne_none_iff_exists'.1 hfound
        obtain ⟨rest, hrest⟩ := not_reaches htail (Text.afterMarker?_eq_some hafter)
        rw [hrest, Text.afterMarker?_append] at ht
        cases ht
      rw [ht] at h
      rw [hlong]
      exact ih h
    | some after =>
      have hlong := afterMarker?_append_right ht tail
      rw [List.append_assoc] at hlong
      rw [ht] at h
      rw [hlong]
      obtain ⟨rfl, rfl⟩ := Prod.mk.inj (Option.some.inj h)
      rfl

lemma EndsTokens.endsAlike (htail : EndsTokens tail) : EndsAlike text (text ++ tail) where
  word := fun h => h.append fun _ => htail.stopsAt_isWordPart
  digits := fun h => h.append fun _ => htail.stopsAt_isDigit
  integer := fun h => h.append htail
  symbol := fun _ h => Symbol.split?_append_right h htail

/-- A token stays a piece when the text behind it goes on with something that ends tokens, and so
do blanks that have something else behind them. -/
lemma Piece.StandsBefore.append {p : Piece} (h : p.StandsBefore text) (hjunk : p.kind ≠ .junk)
    (hblank : p.kind = .blank → text ≠ []) (htail : EndsTokens tail) :
    p.StandsBefore (text ++ tail) :=
  h.of_endsAlike hjunk (fun hkind hstop => hstop.append fun hnil => absurd hnil (hblank hkind))
    htail.endsAlike

end Longer

/-! ## Rows of whole pieces -/

/-- A text in front of another one is a row of whole pieces with the tokens `ts`. -/
def Parts (text : List Char) (ts : List Token) (rest : List Char) : Prop :=
  ∃ front, pieces (text ++ rest) = front ++ pieces rest ∧ tokensAmong front = ts

lemma pieces_of_standsBefore {p : Piece} {rest : List Char} (h : p.StandsBefore rest) :
    pieces (p.text ++ rest) = p :: pieces rest := by
  obtain ⟨c, more, htext, hnext⟩ := h
  rw [htext, List.cons_append, pieces, hnext]

/-- A blank that does not part tokens is junk by itself. -/
lemma standsBefore_wideBlank {c : Char} (hblank : Text.isBlank c = true)
    (hspacing : isSpacing c = false) (rest : List Char) :
    (⟨.junk, [c]⟩ : Piece).StandsBefore rest := by
  obtain ⟨hstart, hdigit⟩ := isWordPart_eq_false_iff.1
    (isWordPart_eq_false_of_isBarrier (isBarrier_of_isBlank hblank))
  have hplain : ∀ d, Text.isBlank d = false → c ≠ d := by
    rintro d hd rfl
    rw [hblank] at hd
    cases hd
  -- no symbol starts with a blank
  have hsymbol : Symbol.split? (c :: rest) = none := by
    by_contra hsome
    obtain ⟨⟨s, after⟩, hs⟩ := Option.ne_none_iff_exists'.1 hsome
    have heq := Symbol.split?_eq_some hs
    cases hspelling : s.spelling with
    | nil => cases s <;> cases hspelling
    | cons d spelling =>
      rw [hspelling, List.cons_append] at heq
      obtain ⟨rfl, -⟩ := List.cons.inj heq
      exact hplain c (Symbol.isBlank_eq_false_of_mem_spelling (hspelling ▸ List.mem_cons_self)) rfl
  refine ⟨c, [], rfl, ?_⟩
  rw [nextPiece, if_neg (by simp [hspacing]), if_neg (by simp [hstart]),
    if_neg (hplain '$' (by decide)), if_neg (by simp [hdigit]),
    if_neg (not_or.2 ⟨hplain '"' (by decide), hplain '\'' (by decide)⟩), List.nil_append, hsymbol]

/-- A script without junk that does not end with a blank keeps its pieces. -/
lemma pieces_append {text rest : List Char} (hjunk : JunkFree (pieces text))
    (hlast : ∀ c, text.getLast? = some c → Text.isBlank c = false) (hrest : EndsTokens rest) :
    pieces (text ++ rest) = pieces text ++ pieces rest := by
  have hcut := wellCut_pieces text
  rw [← textOf_pieces text] at hlast
  conv => lhs; rw [← textOf_pieces text]
  generalize pieces text = ps at *
  induction hcut with
  | nil => rfl
  | @cons p ps hp _ ih =>
    have hbehind : pieces (textOf ps ++ rest) = ps ++ pieces rest := by
      refine ih (fun q hq => hjunk q (.tail p hq)) fun c hc => hlast c ?_
      rw [textOf_cons, List.getLast?_append, hc, Option.some_or]
    -- blanks at the very end would grow, but the text does not end with them
    have hblank : p.kind = .blank → textOf ps ≠ [] := by
      intro hkind hnil
      obtain ⟨c, more, htext, -⟩ := id hp
      obtain ⟨front, d, hd⟩ := (List.eq_nil_or_concat' p.text).resolve_left (by simp [htext])
      have hvisible := hlast d (by rw [textOf_cons, hnil, hd]; simp)
      rw [hp.isBlank_of_blank hkind d (by simp [hd])] at hvisible
      cases hvisible
    rw [textOf_cons, List.append_assoc, List.cons_append, ← hbehind]
    exact pieces_of_standsBefore (hp.append (hjunk p List.mem_cons_self) hblank hrest)

namespace Parts

variable {text more rest : List Char} {ts us : List Token}

lemma nil : Parts [] [] rest :=
  ⟨[], rfl, rfl⟩

lemma append (h : Parts text ts (more ++ rest)) (hmore : Parts more us rest) :
    Parts (text ++ more) (ts ++ us) rest := by
  obtain ⟨front, hfront, rfl⟩ := h
  obtain ⟨behind, hbehind, rfl⟩ := hmore
  refine ⟨front ++ behind, ?_, tokensAmong_append front behind⟩
  rw [List.append_assoc, hfront, hbehind, List.append_assoc]

lemma cons {p : Piece} (hp : p.StandsBefore (text ++ rest)) (h : Parts text ts rest) :
    Parts (p.text ++ text) (p.token?.toList ++ ts) rest := by
  obtain ⟨front, hfront, rfl⟩ := h
  refine ⟨p :: front, ?_, ?_⟩
  · rw [List.append_assoc, pieces_of_standsBefore hp, hfront, List.cons_append]
  · cases htoken : p.token? <;> simp [tokensAmong, htoken]

lemma openParen : Parts ['('] [.symbol .openParen] rest :=
  ⟨[symbolPiece .openParen], pieces_openParen rest, rfl⟩

lemma semicolon : Parts [';'] [.symbol .semicolon] rest := by
  refine cons (p := symbolPiece .semicolon) ⟨';', [], rfl, ?_⟩ nil
  rw [nextPiece, if_neg (by decide), if_neg (by decide), if_neg (by decide), if_neg (by decide),
    if_neg (by decide)]
  rfl

lemma blanks (hblank : ∀ c ∈ text, Text.isBlank c = true) (hstop : StopsAt isSpacing rest) :
    Parts text [] rest := by
  -- Blanks that part tokens are one piece with those behind them.
  induction hlength : text.length using Nat.strong_induction_on generalizing text with
  | _ length ih =>
    cases text with
    | nil => exact nil
    | cons c text =>
      have hrest : ∀ d ∈ text, Text.isBlank d = true := fun d hd => hblank d (.tail c hd)
      by_cases hspacing : isSpacing c = true
      · have hrun : (text.takeWhile isSpacing ++ text.dropWhile isSpacing).takeWhile isSpacing =
            text.takeWhile isSpacing := by rw [List.takeWhile_append_dropWhile]
        obtain ⟨htake, hdrop⟩ := takeWhile_of_stopsAt hrun fun h => h.append fun _ => hstop
        have hfirst : (⟨.blank, c :: text.takeWhile isSpacing⟩ : Piece).StandsBefore
            (text.dropWhile isSpacing ++ rest) := by
          refine ⟨c, text.takeWhile isSpacing, rfl, ?_⟩
          rw [nextPiece, if_pos hspacing, htake, hdrop]
        have hlater : Parts (text.dropWhile isSpacing) [] rest := by
          refine ih _ ?_ (fun d hd => hrest d (List.dropWhile_subset _ hd)) rfl
          rw [← hlength]
          exact Nat.lt_succ_of_le (List.length_dropWhile_le _ _)
        have hall := cons hfirst hlater
        rwa [List.cons_append, List.takeWhile_append_dropWhile] at hall
      · rw [Bool.not_eq_true] at hspacing
        have hlater : Parts text [] rest := ih text.length (by simp [← hlength]) hrest rfl
        exact cons (standsBefore_wideBlank (hblank c List.mem_cons_self) hspacing _) hlater

end Parts

/-! ## Scripts between blanks -/

/-- A text is what trimming leaves of it, between blanks. -/
lemma exists_margins (text : List Char) :
    ∃ front back, text = front ++ (Text.trim text ++ back) ∧
      (∀ c ∈ front, Text.isBlank c = true) ∧ ∀ c ∈ back, Text.isBlank c = true := by
  refine ⟨text.takeWhile Text.isBlank,
    ((Text.trimStart text).reverse.takeWhile Text.isBlank).reverse, ?_, ?_, ?_⟩
  · rw [Text.trim, Text.trimEnd_append_blanks, Text.trimStart, List.takeWhile_append_dropWhile]
  · exact fun c hc => List.mem_takeWhile_imp hc
  · exact fun c hc => List.mem_takeWhile_imp (List.mem_reverse.1 hc)

lemma stopsAt_trim {text : List Char} (hne : Text.trim text ≠ []) (rest : List Char) :
    StopsAt isSpacing (Text.trim text ++ rest) := by
  intro c hc
  have hhead : (Text.trimStart text).head? = some c := by
    rw [← Text.trimEnd_append_blanks (Text.trimStart text)]
    cases htrim : Text.trim text with
    | nil => exact absurd htrim hne
    | cons d more =>
      rw [htrim] at hc
      rw [Text.trim] at htrim
      rw [htrim]
      exact hc
  have hvisible := List.head?_dropWhile_not Text.isBlank text
  rw [Text.trimStart] at hhead
  rw [hhead] at hvisible
  by_contra hspacing
  rw [Bool.not_eq_false] at hspacing
  exact absurd (isBlank_of_isSpacing hspacing) (Bool.eq_false_iff.1 hvisible)

/-- Blanks around a script without junk have no part in its tokens. -/
lemma trim_of_junkFree {source : List Char} (h : JunkFree (pieces source)) :
    JunkFree (pieces (Text.trim source)) ∧
      tokensAmong (pieces (Text.trim source)) = tokensAmong (pieces source) := by
  obtain ⟨qs, hstart⟩ := (cutsTo_pieces h).trimStart
  obtain ⟨rs, hends⟩ := hstart.trimEnd
  rw [Text.trim, ← hends.text, pieces_eq_of_wellCut hends.wellCut]
  exact ⟨hends.junkFree, hends.tokens⟩

lemma pieces_trim_append {text rest : List Char} (hjunk : JunkFree (pieces (Text.trim text)))
    (hrest : EndsTokens rest) :
    pieces (Text.trim text ++ rest) = pieces (Text.trim text) ++ pieces rest :=
  pieces_append hjunk (fun _ => isBlank_eq_false_of_trim) hrest

/-- A script between blanks is a row of whole pieces in front of a text that is not blank. -/
lemma Parts.clause {text rest : List Char} (hjunk : JunkFree (pieces (Text.trim text)))
    (hrest : EndsTokens rest) (hstop : StopsAt isSpacing rest) :
    Parts text (tokensAmong (pieces (Text.trim text))) rest := by
  obtain ⟨front, back, htext, hfront, hback⟩ := exists_margins text
  by_cases hne : Text.trim text = []
  · rw [hne, List.nil_append] at htext
    rw [hne, pieces]
    refine .blanks (fun c hc => ?_) hstop
    rw [htext] at hc
    exact (List.mem_append.1 hc).elim (hfront c) (hback c)
  · have hinner : Parts (Text.trim text) (tokensAmong (pieces (Text.trim text))) (back ++ rest) :=
      ⟨_, pieces_trim_append hjunk (hrest.append_blanks hback), rfl⟩
    have hwhole := hinner.append (.blanks hback hstop)
    have hall := Parts.append (.blanks hfront (by
      rw [List.append_assoc]
      exact stopsAt_trim hne _)) hwhole
    rwa [List.append_nil, List.nil_append, ← htext] at hall

/-! ## Scripts in their place -/

/-- The tokens `ts` of a script stand in a text, and a bare call may start them. -/
def StandsIn (ts : List Token) (text : List Char) : Prop :=
  ∃ front middle behind, pieces text = front ++ (middle ++ behind) ∧ JunkFree middle ∧
    tokensAmong middle = ts ∧ allowsCall (tokensAmong front).getLast? = true

lemma standsIn_nil (text : List Char) : StandsIn [] text :=
  ⟨[], [], pieces text, rfl, by simp [JunkFree], rfl, rfl⟩

lemma standsIn_self {text : List Char} (h : JunkFree (pieces text)) :
    StandsIn (tokensAmong (pieces text)) text :=
  ⟨[], pieces text, [], by rw [List.append_nil, List.nil_append], h, rfl, rfl⟩

/-- A script stands in a text if what is in front of it is a row of whole pieces and what is behind
it ends its last token. -/
lemma Parts.standsIn {before text behind : List Char} {us : List Token}
    (h : Parts before us (text ++ behind)) (hus : allowsCall us.getLast? = true)
    (hjunk : JunkFree (pieces (Text.trim text))) (hbehind : EndsTokens behind) :
    StandsIn (tokensAmong (pieces (Text.trim text))) (before ++ (text ++ behind)) := by
  obtain ⟨front, back, htext, hfront, hback⟩ := exists_margins text
  by_cases hne : Text.trim text = []
  · rw [hne, pieces]
    exact standsIn_nil _
  · have hplace : text ++ behind = front ++ (Text.trim text ++ (back ++ behind)) := by
      conv => lhs; rw [htext]
      rw [List.append_assoc, List.append_assoc]
    rw [hplace] at h ⊢
    have hinner := pieces_trim_append hjunk (hbehind.append_blanks hback)
    obtain ⟨outer, houter, htokens⟩ := h.append (.blanks hfront (stopsAt_trim hne _))
    rw [List.append_nil] at htokens
    refine ⟨outer, _, pieces (back ++ behind), ?_, hjunk, rfl, by rwa [htokens]⟩
    rw [← List.append_assoc before, houter, hinner]

/-! ## The clauses of directives -/

lemma cutAtClose?_eq_some {state : Quoting} {depth : Nat} {text before rest : List Char}
    (h : cutAtClose? state depth text = some (before, rest)) : text = before ++ ')' :: rest := by
  induction text generalizing state depth before with
  | nil => cases state <;> cases h
  | cons c text ih =>
    have hlater {state : Quoting} {depth : Nat}
        (h : (cutAtClose? state depth text).map (fun cut => (c :: cut.1, cut.2)) =
          some (before, rest)) : c :: text = before ++ ')' :: rest := by
      obtain ⟨⟨more, left⟩, hmore, heq⟩ := Option.map_eq_some_iff.1 h
      obtain ⟨rfl, rfl⟩ := Prod.mk.inj heq
      rw [ih hmore, List.cons_append]
    cases state with
    | inside quote => exact hlater h
    | escaped quote => exact hlater h
    | outside =>
      rw [cutAtClose?] at h
      split at h
      · rename_i hclose
        obtain ⟨rfl, rfl⟩ := Prod.mk.inj (Option.some.inj h)
        rw [hclose.1, List.nil_append]
      · exact hlater h

lemma stripParens_cases (text : List Char) :
    stripParens text = Text.trim text ∨ ∃ enclosed, stripParens text = Text.trim enclosed ∧
      Text.trim text = '(' :: (enclosed ++ [')']) := by
  unfold stripParens
  split
  · rename_i inner htrim
    split
    · rename_i enclosed hcut
      exact .inr ⟨enclosed, rfl, by rw [htrim, cutAtClose?_eq_some hcut]⟩
    · exact .inl htrim.symm
  · exact .inl rfl

/-- What is left of an argument without its parentheses, in the place where it stands. -/
lemma exists_around_stripParens {text : List Char} (hne : stripParens text ≠ []) :
    ∃ before us behind, text = before ++ (stripParens text ++ behind) ∧
      Parts before us (stripParens text ++ behind) ∧ allowsCall us.getLast? = true ∧
      EndsTokens behind := by
  obtain ⟨front, back, htext, hfront, hback⟩ := exists_margins text
  obtain hsame | ⟨enclosed, hstrip, htrim⟩ := stripParens_cases text
  · rw [hsame] at hne ⊢
    have hends := EndsTokens.nil.append_blanks hback
    rw [List.append_nil] at hends
    exact ⟨front, [], back, htext, .blanks hfront (stopsAt_trim hne _), rfl, hends⟩
  · rw [hstrip] at hne ⊢
    obtain ⟨inFront, inBack, hinner, hinFront, hinBack⟩ := exists_margins enclosed
    have hbehind : EndsTokens (inBack ++ ')' :: back) :=
      (EndsTokens.cons (by decide) back).append_blanks hinBack
    have hparen : Parts (['('] ++ inFront) [.symbol .openParen]
        (Text.trim enclosed ++ (inBack ++ ')' :: back)) :=
      Parts.openParen.append (.blanks hinFront (stopsAt_trim hne _))
    have hfront : Parts front [] ((['('] ++ inFront) ++ (Text.trim enclosed ++
        (inBack ++ ')' :: back))) :=
      .blanks hfront fun c hc => Option.some.inj hc ▸ (by decide)
    refine ⟨_, _, _, ?_, hfront.append hparen, rfl, hbehind⟩
    rw [htrim, hinner] at htext
    simpa using htext

lemma standsIn_stripParens {text : List Char} (hjunk : JunkFree (pieces (stripParens text))) :
    StandsIn (tokensAmong (pieces (stripParens text))) text := by
  by_cases hne : stripParens text = []
  · rw [hne, pieces]
    exact standsIn_nil text
  obtain ⟨before, us, behind, htext, hparts, hus, hbehind⟩ := exists_around_stripParens hne
  obtain ⟨htrim, htokens⟩ := trim_of_junkFree hjunk
  rw [← htokens]
  conv => rhs; rw [htext]
  exact hparts.standsIn hus htrim hbehind

lemma endsTokens_of_loopNames? {text : List Char} {names : Option (List Char) × List Char}
    (h : loopNames? text = some names) : EndsTokens text := by
  cases text with
  | nil => exact .nil
  | cons c text =>
    refine .cons ?_ text
    by_contra hbarrier
    have hblank : Text.isBlank c ≠ true := fun hblank => hbarrier (isBarrier_of_isBlank hblank)
    simp only [loopNames?, afterBlanks?, if_neg hblank] at h
    cases h

/-- The names of a loop over items stand behind its subject. -/
lemma itemClause?_eq_some {text : List Char} {clause : ItemClause}
    (h : itemClause? text = some clause) :
    ∃ names, text = clause.subject ++ names ∧ EndsTokens names := by
  induction text generalizing clause with
  | nil => cases h
  | cons c text ih =>
    rw [itemClause?] at h
    split at h
    · rename_i hnames
      obtain rfl := Option.some.inj h
      exact ⟨text, rfl, endsTokens_of_loopNames? hnames⟩
    · obtain ⟨shorter, hshorter, rfl⟩ := Option.map_eq_some_iff.1 h
      obtain ⟨names, rfl, hnames⟩ := ih hshorter
      exact ⟨names, rfl, hnames⟩

lemma standsIn_subject {text : List Char} {clause : ItemClause}
    (h : itemClause? (stripParens text) = some clause)
    (hjunk : JunkFree (pieces clause.subject)) :
    StandsIn (tokensAmong (pieces clause.subject)) text := by
  have hne : stripParens text ≠ [] := by
    intro hnil
    rw [hnil] at h
    cases h
  obtain ⟨names, hinner, hnames⟩ := itemClause?_eq_some h
  obtain ⟨before, us, behind, htext, hparts, hus, hbehind⟩ := exists_around_stripParens hne
  rw [hinner, List.append_assoc] at hparts htext
  have hends : EndsTokens (names ++ behind) := by
    cases names with
    | nil => exact hbehind
    | cons c names => exact .cons (hnames c rfl) _
  obtain ⟨htrim, htokens⟩ := trim_of_junkFree hjunk
  rw [← htokens, htext]
  exact hparts.standsIn hus htrim hends

/-- The parts of a text, with the separators in front of all but the first one, are the text. -/
lemma splitFrom_append (separator : Char) (state : Quoting) (depth : Nat) (text : List Char) :
    (splitFrom separator state depth text).1 ++
      (splitFrom separator state depth text).2.flatMap (separator :: ·) = text := by
  fun_induction splitFrom separator state depth text <;> simp_all

/-- Behind a script and a semicolon the next script may start. -/
lemma Parts.separated {before text rest : List Char} {us : List Token}
    (h : Parts before us (text ++ ([';'] ++ rest))) (hjunk : JunkFree (pieces (Text.trim text))) :
    ∃ vs, Parts (before ++ (text ++ [';'])) vs rest ∧ allowsCall vs.getLast? = true := by
  have hclause : Parts text (tokensAmong (pieces (Text.trim text))) ([';'] ++ rest) :=
    .clause hjunk (.cons (by decide) rest) fun c hc => Option.some.inj hc ▸ (by decide)
  rw [← List.append_assoc] at h
  exact ⟨_, h.append (hclause.append .semicolon), by simp [allowsCall]⟩

lemma standsIn_clauses {text start condition step : List Char}
    (h : splitTopLevel ';' (stripParens text) = [start, condition, step])
    (hstart : JunkFree (pieces start)) (hcondition : JunkFree (pieces (Text.trim condition)))
    (hstep : JunkFree (pieces step)) :
    StandsIn (tokensAmong (pieces start)) text ∧
      StandsIn (tokensAmong (pieces (Text.trim condition))) text ∧
      StandsIn (tokensAmong (pieces step)) text := by
  have hinner : stripParens text = start ++ ([';'] ++ (condition ++ ([';'] ++ step))) := by
    rw [splitTopLevel, List.cons.injEq] at h
    have happend := splitFrom_append ';' .outside 0 (stripParens text)
    rw [h.1, h.2] at happend
    simpa using happend.symm
  have hne : stripParens text ≠ [] := by simp [hinner]
  obtain ⟨before, us, behind, htext, hparts, hus, hbehind⟩ := exists_around_stripParens hne
  obtain ⟨hstart, hstartTokens⟩ := trim_of_junkFree hstart
  obtain ⟨hstep, hstepTokens⟩ := trim_of_junkFree hstep
  simp only [hinner, List.append_assoc] at htext hparts
  obtain ⟨vs, hsecond, hvs⟩ := hparts.separated hstart
  obtain ⟨ws, hthird, hws⟩ := hsecond.separated hcondition
  rw [← hstartTokens, ← hstepTokens]
  refine ⟨?_, ?_, ?_⟩
  · rw [htext]
    exact hparts.standsIn hus hstart (.cons (by decide) _)
  · have hplace := hsecond.standsIn hvs hcondition (.cons (by decide) _)
    simp only [List.append_assoc] at hplace
    rwa [htext]
  · have hplace := hthird.standsIn hws hstep hbehind
    simp only [List.append_assoc] at hplace
    rwa [htext]

end ViewTemplate.Script
