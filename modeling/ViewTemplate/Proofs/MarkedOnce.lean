import Mathlib.Tactic.Common
import ViewTemplate.Proofs.MarkedPieces
import ViewTemplate.Proofs.Readers

/-!
# Calls are marked once

Marking a script a second time changes nothing, whatever the script is: text without an end, junk
and prose included.  What marking leaves behind can be said without it.  A script has a bare call if
one of its words names a view function, has its parenthesis right behind it, and does not stand
behind a token that makes it a member or a definition (`HasBareCall`).  Marking leaves no bare call
(`callFree_markPieces`) and copies a script without one (`CallFree.markPieces_eq`), so the scripts
it does not change are exactly the scripts without a bare call, its own results among them.

Three things could bring a call back: a name could come to stand in front of a parenthesis, the
token in front of a name could change, and the text could be cut in another way.  The last one is
excluded by `pieces_markCalls`.
-/

namespace ViewTemplate.Script

variable {passes : String → Bool}

/-! ## Bare calls -/

/-- The parenthesis of a call stands at the front of pieces. -/
def OpensCall (ps : List Piece) : Prop :=
  ∃ paren more, ps = paren :: more ∧ paren.kind = .token (.symbol .openParen)

/-- A bare call of a view function stands in a script. -/
def HasBareCall (passes : String → Bool) (source : List Char) : Prop :=
  ∃ front word behind name, pieces source = front ++ word :: behind ∧
    word.kind = .token (.word name) ∧ OpensCall behind ∧
    allowsCall (tokensAmong front).getLast? = true ∧ isViewName passes name = true

/-- No bare call of a view function stands among pieces behind the token `before`. -/
inductive CallFree (passes : String → Bool) : (before : Option Token) → List Piece → Prop
  | nil (before : Option Token) : CallFree passes before []
  | cons {before : Option Token} {p : Piece} {rest : List Piece}
      (h : ∀ name, p.kind = .token (.word name) → OpensCall rest →
        (allowsCall before && isViewName passes name) = false)
      (hrest : CallFree passes (p.token?.or before) rest) :
      CallFree passes before (p :: rest)

lemma isSome_callAhead? {ps : List Piece} : (callAhead? ps).isSome = true ↔ OpensCall ps := by
  cases ps with
  | nil => simp [callAhead?, OpensCall]
  | cons p rest =>
    rw [callAhead?]
    split
    · rename_i hparen
      refine iff_of_true ?_ ⟨p, rest, rfl, Piece.eq_of_isSymbol hparen⟩
      split <;> rfl
    · rename_i hparen
      refine iff_of_false (by simp) ?_
      rintro ⟨paren, more, heq, hkind⟩
      obtain ⟨rfl, -⟩ := List.cons.inj heq
      exact hparen (by simp [Piece.isSymbol, hkind])

lemma viewCall?_eq_none_iff {before : Option Token} {p : Piece} {rest : List Piece} :
    viewCall? passes before p rest = none ↔
      ∀ name, p.kind = .token (.word name) → OpensCall rest →
        (allowsCall before && isViewName passes name) = false := by
  simp only [← isSome_callAhead?]
  unfold viewCall?
  split
  · rename_i name arguments hkind hahead
    simp [hkind, hahead]
  · rename_i hother
    refine iff_of_true rfl fun name hkind hahead => ?_
    obtain ⟨arguments, hahead⟩ := Option.isSome_iff_exists.1 hahead
    exact absurd hahead (hother name arguments hkind)

lemma getLast?_tokensAmong_cons (p : Piece) (ps : List Piece) (before : Option Token) :
    (tokensAmong (p :: ps)).getLast?.or before =
      (tokensAmong ps).getLast?.or (p.token?.or before) := by
  rw [tokensAmong, tokensAmong, List.filterMap_cons]
  cases p.token? with
  | none => rfl
  | some t => rw [List.getLast?_cons]; cases (List.filterMap Piece.token? ps).getLast? <;> rfl

/-- Pieces are free of calls if no word among them is the name of one. -/
lemma callFree_iff {before : Option Token} {ps : List Piece} :
    CallFree passes before ps ↔
      ∀ front word behind name, ps = front ++ word :: behind → word.kind = .token (.word name) →
        OpensCall behind →
        (allowsCall ((tokensAmong front).getLast?.or before) && isViewName passes name) =
          false := by
  constructor
  · intro h
    induction h with
    | nil before => simp
    | @cons before p rest hp _ ih =>
      intro front word behind name hps hword hopens
      cases front with
      | nil =>
        obtain ⟨rfl, rfl⟩ := List.cons.inj hps
        exact hp name hword hopens
      | cons q front =>
        obtain ⟨rfl, rfl⟩ := List.cons.inj hps
        rw [getLast?_tokensAmong_cons]
        exact ih front word behind name rfl hword hopens
  · intro h
    induction ps generalizing before with
    | nil => exact .nil before
    | cons p rest ih =>
      refine .cons (fun name => h [] p rest name rfl) (ih ?_)
      intro front word behind name hrest hword hopens
      rw [← getLast?_tokensAmong_cons]
      exact h (p :: front) word behind name (by rw [hrest]; rfl) hword hopens

lemma not_hasBareCall_iff {source : List Char} :
    ¬HasBareCall passes source ↔ CallFree passes none (pieces source) := by
  simp only [callFree_iff, HasBareCall, Option.or_none, not_exists, not_and, Bool.not_eq_true,
    Bool.and_eq_false_imp]

/-! ## Marking leaves no bare call -/

lemma CallFree.markPieces_eq {before : Option Token} {ps : List Piece}
    (h : CallFree passes before ps) : markPieces passes .nothing before ps = ps := by
  induction h with
  | nil before => rw [markPieces]
  | cons hp _ ih => simp only [markPieces_nothing, viewCall?_eq_none_iff.2 hp, ih]

lemma opensCall_of_markPieces {before : Option Token} {ps : List Piece}
    (h : OpensCall (markPieces passes .nothing before ps)) : OpensCall ps := by
  obtain ⟨paren, more, heq, hkind⟩ := h
  cases ps with
  | nil =>
    rw [markPieces] at heq
    cases heq
  | cons p rest =>
    rw [markPieces_nothing] at heq
    split at heq
    · obtain ⟨rfl, -⟩ := List.cons.inj heq
      cases hkind
    · obtain ⟨rfl, -⟩ := List.cons.inj heq
      exact ⟨p, rest, rfl, hkind⟩

/-- The front of a call in the explicit form has no bare call in it, and a name may follow it. -/
lemma callFree_viewCallFront (before : Option Token) (name : String) (arguments : Bool)
    {ps : List Piece} (h : ∀ t, allowsCall (some t) = true → CallFree passes (some t) ps) :
    CallFree passes before (viewCallFront name arguments ++ ps) := by
  have hword : ∀ word, PieceKind.token (.word viewCallWord) = .token (.word word) →
      (allowsCall before && isViewName passes word) = false := by
    intro word hkind
    obtain rfl := Token.word.inj (PieceKind.token.inj hkind)
    simp [isViewName]
  cases arguments with
  | false =>
    exact .cons (fun word hkind _ => hword word hkind) <| .cons (fun _ hkind => nomatch hkind) <|
      .cons (fun _ hkind => nomatch hkind) (h _ rfl)
  | true =>
    exact .cons (fun word hkind _ => hword word hkind) <| .cons (fun _ hkind => nomatch hkind) <|
      .cons (fun _ hkind => nomatch hkind) <| .cons (fun _ hkind => nomatch hkind) <|
      .cons (fun _ hkind => nomatch hkind) (h _ rfl)

/-- The token in front of what is copied next: a parenthesis that is left out has been written. -/
def Omission.front (before : Option Token) : Omission → Option Token
  | .paren _ => some (.symbol .openParen)
  | _ => before

/-- Marked pieces have no bare call in them.  The token in front of them may be another one than in
the script, as long as it tells the same about a name behind it. -/
lemma callFree_markPieces (ps : List Piece) (omission : Omission) {before before' : Option Token}
    (h : allowsCall before' = allowsCall (omission.front before)) :
    CallFree passes before' (markPieces passes omission before ps) := by
  induction ps generalizing omission before before' with
  | nil =>
    rw [markPieces]
    exact .nil before'
  | cons p rest ih =>
    have hkept : ∀ {before}, allowsCall before' = allowsCall before →
        CallFree passes before' (markPieces passes .nothing before (p :: rest)) := by
      intro before hbefore
      rw [markPieces_nothing]
      cases hcall : viewCall? passes before p rest with
      | none =>
        -- a piece that is copied is no call behind the other token either
        have hkept := viewCall?_eq_none_iff.1 hcall
        refine .cons (fun name hkind hopens => ?_) (ih .nothing ?_)
        · rw [hbefore]
          exact hkept name hkind (opensCall_of_markPieces hopens)
        · change allowsCall (p.token?.or before') = allowsCall (p.token?.or before)
          cases p.token? with
          | none => exact hbefore
          | some t => rfl
      | some call =>
        exact callFree_viewCallFront before' call.1 call.2 fun t ht => ih (.paren call.2) ht
    cases omission with
    | nothing => exact hkept h
    | paren arguments =>
      rw [markPieces]
      cases arguments with
      | false => exact ih .nothing h
      | true => exact ih .blanks h
    | blanks =>
      rw [markPieces_blanks]
      split
      · exact ih .blanks h
      · exact hkept h

/-- **Calls are marked once.**  Marking a marked script changes nothing, and the scripts that
marking does not change are those without a bare call of a view function. -/
theorem markCalls_idempotent (passes : String → Bool) (source : List Char) :
    markCalls passes (markCalls passes source) = markCalls passes source ∧
      (markCalls passes source = source ↔ ¬HasBareCall passes source) := by
  have hfixed : ∀ text, ¬HasBareCall passes text → markCalls passes text = text := by
    intro text hfree
    rw [not_hasBareCall_iff] at hfree
    rw [markCalls, hfree.markPieces_eq, textOf_pieces]
  have hmarked : ¬HasBareCall passes (markCalls passes source) := by
    rw [not_hasBareCall_iff, pieces_markCalls]
    exact callFree_markPieces (pieces source) .nothing rfl
  refine ⟨hfixed _ hmarked, ?_, hfixed source⟩
  intro hsame
  rwa [hsame] at hmarked

end ViewTemplate.Script
