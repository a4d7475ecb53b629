import Mathlib.Tactic.Common
import ViewTemplate.Proofs.CallMarking
import ViewTemplate.Proofs.JoinedScripts
import ViewTemplate.Proofs.MarkedOnce
import ViewTemplate.Proofs.ScriptErrors

/-!
# Where the calls of a script are written

Every function that a script calls is named by tokens of the script: a plain function by a word with
a parenthesis behind it, a view function by a text in the explicit form (`CalledIn`).  What stands
in front of the word matters too.  Behind an arrow it is a member and behind `function` a
definition, and marking leaves both alone.  But an operand is never read behind one of these, so
every word that the grammar reads as the name of a call could have been marked.

The grammar is followed rule by rule, with the token in front of the place that has been reached
(`Behind`) and the calls in what has been read already (`Written`).

In a marked script this tells the two kinds of calls apart.  A plain function is one that marking
has left alone (`isViewName_eq_false_of_calledIn`), and a view function is one that marking has
found, unless the explicit form stood in the script before (`isViewName_of_calledIn`).
-/

namespace ViewTemplate.Script

/-! ## Calls in tokens -/

/-- A row of tokens names a function that is called: a plain one by a word that a bare call may
start with, unless it is the member of a class, and a view function in the explicit form. -/
def CalledIn (all : List Token) : Callee → Prop
  | .plain name => isPlainName name = false ∨ name ≠ viewCallWord ∧ ∃ front rest,
      all = front ++ .word name :: .symbol .openParen :: rest ∧ allowsCall front.getLast? = true
  | .view name => ∃ front rest,
      all = front ++ .word viewCallWord :: .symbol .openParen :: .text name :: rest

/-- Functions are called in a row of tokens, unless they are known to be called before. -/
def Written (all : List Token) (known callees : List Callee) : Prop :=
  ∀ c ∈ callees, c ∈ known ∨ CalledIn all c

namespace Written

variable {all : List Token} {known more callees others : List Callee}

lemma refl : Written all known known :=
  fun _ hc => .inl hc

lemma nil : Written all known [] :=
  fun _ hc => nomatch hc

lemma append (h : Written all known callees) (hothers : Written all known others) :
    Written all known (callees ++ others) :=
  fun c hc => (List.mem_append.1 hc).elim (h c) (hothers c)

lemma cons {c : Callee} (hc : CalledIn all c) (h : Written all known callees) :
    Written all known (c :: callees) := by
  intro d hd
  obtain rfl | hd := List.mem_cons.1 hd
  · exact .inr hc
  · exact h d hd

lemma trans (h : Written all more callees) (hmore : Written all known more) :
    Written all known callees :=
  fun c hc => (h c hc).elim (hmore c) .inr

lemma weaken (h : Written all [] callees) : Written all known callees :=
  h.trans nil

end Written

/-- The functions that what a phrase reads calls. -/
def Found.callees : Found → List Callee
  | .expr e => e.callees
  | .exprs es => calleesOfAll es
  | .entries items => calleesOfItems items
  | .entry none value => value.callees
  | .entry (some key) value => key.callees ++ value.callees

/-- The functions called in what has been read in front of a phrase. -/
def Phrase.callees : Phrase → List Callee
  | .binaryRest _ e => e.callees
  | .stepsRest e => e.callees
  | _ => []

lemma calleesOfItems_cons (key : Option Expr) (value : Expr) (rest : List (Option Expr × Expr)) :
    calleesOfItems ((key, value) :: rest) =
      (Found.entry key value).callees ++ calleesOfItems rest := by
  cases key <;> rfl

/-- The tokens `ts` are the end of the row `all`, behind the token `before`. -/
def Behind (all ts : List Token) (before : Option Token) : Prop :=
  ∃ front, all = front ++ ts ∧ front.getLast? = before

namespace Behind

variable {all ts : List Token} {before : Option Token}

lemma start (all : List Token) : Behind all all none :=
  ⟨[], rfl, rfl⟩

lemma cons {t : Token} (h : Behind all (t :: ts) before) : Behind all ts (some t) := by
  obtain ⟨front, rfl, -⟩ := h
  exact ⟨front ++ [t], by rw [List.append_assoc, List.singleton_append], by simp⟩

lemma plain {name : String} (h : Behind all (.word name :: .symbol .openParen :: ts) before)
    (hbefore : allowsCall before = true) (hname : name ≠ viewCallWord) :
    CalledIn all (.plain name) := by
  obtain ⟨front, rfl, rfl⟩ := h
  exact .inr ⟨hname, front, ts, rfl, hbefore⟩

lemma view {name : String}
    (h : Behind all (.word viewCallWord :: .symbol .openParen :: .text name :: ts) before) :
    CalledIn all (.view name) := by
  obtain ⟨front, rfl, -⟩ := h
  exact ⟨front, ts, rfl⟩

end Behind

/-! ## Calls that the grammar reads -/

/-- The calls in what a phrase reads are calls in its tokens, or have been read before. -/
theorem Reads.written {all : List Token} {p : Phrase} {ts rest : List Token} {found : Found}
    (h : Reads p ts found rest) {before : Option Token} (hat : Behind all ts before)
    (hbefore : p.startsFresh = true → allowsCall before = true) :
    (∃ last, Behind all rest last) ∧ Written all p.callees found.callees := by
  induction h generalizing before with
  | alone h hstop ih => exact ih hat hbefore
  | coalesce h hother ih ihOther =>
    obtain ⟨⟨_, hmid⟩, hleft⟩ := ih hat hbefore
    obtain ⟨hlast, hright⟩ := ihOther hmid.cons fun _ => rfl
    exact ⟨hlast, hleft.append hright⟩
  | condition h hstop ih => exact ih hat hbefore
  | ternary h hyes hno ih ihYes ihNo =>
    obtain ⟨⟨_, hmid⟩, hcondition⟩ := ih hat hbefore
    obtain ⟨⟨_, hmidYes⟩, hyes⟩ := ihYes hmid.cons fun _ => rfl
    obtain ⟨hlast, hno⟩ := ihNo hmidYes.cons fun _ => rfl
    exact ⟨hlast, (hcondition.append hyes).append hno⟩
  | binary h hrest ih ihRest =>
    obtain ⟨⟨_, hmid⟩, hfirst⟩ := ih hat hbefore
    obtain ⟨hlast, hall⟩ := ihRest hmid (fun hfresh => nomatch hfresh)
    exact ⟨hlast, hall.trans hfirst⟩
  | noOperator hstop => exact ⟨⟨_, hat⟩, .refl⟩
  | operator hop hlevel h hrest ih ihRest =>
    obtain ⟨⟨_, hmid⟩, hright⟩ := ih hat.cons fun _ => allowsCall_of_ofSymbol? hop
    obtain ⟨hlast, hall⟩ := ihRest hmid (fun hfresh => nomatch hfresh)
    exact ⟨hlast, hall.trans (Written.refl.append hright.weaken)⟩
  | not h ih => exact ih hat.cons fun _ => rfl
  | negate h ih => exact ih hat.cons fun _ => rfl
  | unsigned hnot hminus h ih => exact ih hat hbefore
  | steps h hrest ih ihRest =>
    obtain ⟨⟨_, hmid⟩, hfirst⟩ := ih hat hbefore
    obtain ⟨hlast, hall⟩ := ihRest hmid (fun hfresh => nomatch hfresh)
    exact ⟨hlast, hall.trans hfirst⟩
  | noStep hbracket harrow => exact ⟨⟨_, hat⟩, .refl⟩
  | index h hrest ih ihRest =>
    obtain ⟨⟨_, hmid⟩, hposition⟩ := ih hat.cons fun _ => rfl
    obtain ⟨hlast, hall⟩ := ihRest hmid.cons (fun hfresh => nomatch hfresh)
    exact ⟨hlast, hall.trans (Written.refl.append hposition.weaken)⟩
  | property hstop hrest ihRest => exact ihRest hat.cons.cons (fun hfresh => nomatch hfresh)
  | method h hrest ih ihRest =>
    obtain ⟨⟨_, hmid⟩, hargs⟩ := ih hat.cons.cons.cons fun _ => rfl
    obtain ⟨hlast, hall⟩ := ihRest hmid (fun hfresh => nomatch hfresh)
    exact ⟨hlast, hall.trans (Written.refl.append hargs.weaken)⟩
  | var | integer | float | text | literal => exact ⟨⟨_, hat.cons⟩, .nil⟩
  | group h ih =>
    obtain ⟨⟨_, hmid⟩, hcalls⟩ := ih hat.cons fun _ => rfl
    exact ⟨⟨_, hmid.cons⟩, hcalls⟩
  | array h ih => exact ih hat.cons fun _ => rfl
  | viewCall h ih =>
    obtain ⟨hlast, hargs⟩ := ih hat.cons.cons.cons.cons fun _ => rfl
    exact ⟨hlast, .cons hat.view hargs⟩
  | viewCallAlone => exact ⟨⟨_, hat.cons.cons.cons.cons⟩, .cons hat.view .nil⟩
  | staticCall hliteral hname h ih =>
    obtain ⟨hlast, hargs⟩ := ih hat.cons.cons.cons.cons fun _ => rfl
    exact ⟨hlast, .cons (.inl (isPlainName_static _ _)) hargs⟩
  | call hliteral hname h ih =>
    obtain ⟨hlast, hargs⟩ := ih hat.cons.cons fun _ => rfl
    exact ⟨hlast, .cons (hat.plain (hbefore rfl) hname) hargs⟩
  | noArguments => exact ⟨⟨_, hat.cons⟩, .nil⟩
  | someArguments hstop h ih => exact ih hat hbefore
  | lastArgument h ih =>
    obtain ⟨⟨_, hmid⟩, hcalls⟩ := ih hat hbefore
    exact ⟨⟨_, hmid.cons⟩, hcalls.append .nil⟩
  | argument h hrest ih ihRest =>
    obtain ⟨⟨_, hmid⟩, hcalls⟩ := ih hat hbefore
    obtain ⟨hlast, hothers⟩ := ihRest hmid.cons fun _ => rfl
    exact ⟨hlast, hcalls.append hothers⟩
  | noEntries => exact ⟨⟨_, hat.cons⟩, .nil⟩
  | lastEntry hstop h ih =>
    obtain ⟨⟨_, hmid⟩, hcalls⟩ := ih hat hbefore
    refine ⟨⟨_, hmid.cons⟩, ?_⟩
    rw [Found.callees, calleesOfItems_cons]
    exact hcalls.append .nil
  | someEntries hstop h hrest ih ihRest =>
    obtain ⟨⟨_, hmid⟩, hcalls⟩ := ih hat hbefore
    obtain ⟨hlast, hothers⟩ := ihRest hmid.cons fun _ => rfl
    refine ⟨hlast, ?_⟩
    rw [Found.callees, calleesOfItems_cons]
    exact hcalls.append hothers
  | item h hstop ih => exact ih hat hbefore
  | pair h hvalue ih ihValue =>
    obtain ⟨⟨_, hmid⟩, hkey⟩ := ih hat hbefore
    obtain ⟨hlast, hvalue⟩ := ihValue hmid.cons fun _ => rfl
    exact ⟨hlast, hkey.append hvalue⟩

lemma ReadsRow.written {all ts rest : List Token} {es : List Expr} (h : ReadsRow ts es rest)
    {before : Option Token} (hat : Behind all ts before) (hbefore : allowsCall before = true) :
    (∃ last, Behind all rest last) ∧ Written all [] (calleesOfAll es) := by
  induction h generalizing before with
  | last h hstop =>
    obtain ⟨hlast, hcalls⟩ := h.written hat fun _ => hbefore
    exact ⟨hlast, hcalls.append .nil⟩
  | cons h hrest ih =>
    obtain ⟨⟨_, hmid⟩, hcalls⟩ := h.written hat fun _ => hbefore
    obtain ⟨hlast, hothers⟩ := ih hmid.cons rfl
    exact ⟨hlast, hcalls.append hothers⟩

lemma allowsCall_of_assign {s : Symbol} {op : AssignOp} (h : AssignOp.ofSymbol? s = some op) :
    allowsCall (some (.symbol s)) = true := by
  cases s <;> simp_all [AssignOp.ofSymbol?, allowsCall]

lemma ReadsStatement.written {all ts rest : List Token} {s : Stmt} (h : ReadsStatement ts s rest)
    {before : Option Token} (hat : Behind all ts before) (hbefore : allowsCall before = true) :
    (∃ last, Behind all rest last) ∧ Written all [] s.callees := by
  cases h with
  | echo h => exact h.written hat.cons rfl
  | incrementFirst h _ | decrementFirst h _ => exact h.written hat.cons fun _ => rfl
  | incrementLast _ h _ | decrementLast _ h _ =>
    obtain ⟨⟨_, hmid⟩, hcalls⟩ := h.written hat fun _ => hbefore
    exact ⟨⟨_, hmid.cons⟩, hcalls⟩
  | assign _ h hop _ hvalue =>
    obtain ⟨⟨_, hmid⟩, htarget⟩ := h.written hat fun _ => hbefore
    obtain ⟨hlast, hvalue⟩ := hvalue.written hmid.cons fun _ => allowsCall_of_assign hop
    exact ⟨hlast, htarget.append hvalue⟩
  | expr _ h _ _ _ => exact h.written hat fun _ => hbefore

lemma ReadsStatements.written {all ts : List Token} {statements : List Stmt}
    (h : ReadsStatements ts statements) {before : Option Token} (hat : Behind all ts before)
    (hbefore : allowsCall before = true) :
    ∀ s ∈ statements, Written all [] s.callees := by
  induction h generalizing before with
  | nil => simp
  | semicolon h ih => exact ih hat.cons rfl
  | last h =>
    intro s hs
    rw [List.mem_singleton.1 hs]
    exact (h.written hat hbefore).2
  | cons h hrest ih =>
    obtain ⟨⟨_, hmid⟩, hcalls⟩ := h.written hat hbefore
    intro s hs
    obtain rfl | hs := List.mem_cons.1 hs
    · exact hcalls
    · exact ih hmid.cons rfl s hs

/-! ## Calls that are read from a source -/

variable {source : List Char}

lemma calledIn_of_parseExpression {e : Expr} (h : parseExpression source = .ok e) :
    JunkFree (pieces source) ∧ ∀ c ∈ e.callees, CalledIn (tokensAmong (pieces source)) c := by
  obtain ⟨hjunk, hreads⟩ := parseExpression_eq_ok_iff.1 h
  have hwritten := (hreads.written (.start _) fun _ => rfl).2
  exact ⟨hjunk, fun c hc => (hwritten c hc).resolve_left List.not_mem_nil⟩

lemma calledIn_of_parseStatements {statements : List Stmt}
    (h : parseStatements source = .ok statements) :
    JunkFree (pieces source) ∧ ∀ s ∈ statements, s.HasPlace ∧
      ∀ c ∈ s.callees, CalledIn (tokensAmong (pieces source)) c := by
  obtain ⟨hjunk, hreads⟩ := readsStatements_of_parseStatements h
  refine ⟨hjunk, fun s hs => ⟨hreads.hasPlace s hs, fun c hc => ?_⟩⟩
  exact (hreads.written (.start _) rfl s hs c hc).resolve_left List.not_mem_nil

lemma calledIn_of_parseArguments {args : List Expr} (h : parseArguments source = .ok args) :
    JunkFree (pieces source) ∧ ∀ e ∈ args, ∀ c ∈ e.callees,
      CalledIn (tokensAmong (pieces source)) c := by
  unfold parseArguments at h
  obtain ⟨⟨left, sourceEnd⟩, hleft, h⟩ := bind_eq_ok_iff.1 h
  obtain ⟨hjunk, rfl, rfl⟩ := lexemesOf_eq_ok_iff.1 hleft
  refine ⟨hjunk, ?_⟩
  dsimp only at h
  split at h
  · obtain rfl := Except.ok.inj h
    simp
  · obtain ⟨found, hfound, h⟩ := bind_eq_ok_iff.1 h
    obtain rfl := atEnd_eq_ok_iff.1 h
    have hreads := readsRow_of_expressionList hfound
    rw [tokensOf_lexemesFrom] at hreads
    have hwritten := (hreads.written (.start _) rfl).2
    intro e he c hc
    exact (hwritten c (callees_subset_of_mem he hc)).resolve_left List.not_mem_nil

/-! ## Spaced calls in marked scripts -/

section Marked

variable {passes : String → Bool} {before : Option Token} {ps : List Piece}

/-- What a spaced call is made of. -/
lemma hasSpacedCall_iff :
    hasSpacedCall ps = true ↔ ∃ front word blank paren behind name,
      ps = front ++ word :: blank :: paren :: behind ∧ word.kind = .token (.word name) ∧
        blank.kind = .blank ∧ paren.kind = .token (.symbol .openParen) := by
  constructor
  · intro h
    fun_induction hasSpacedCall ps with
    | case1 => cases h
    | case2 name _ _ _ rest => exact ⟨[], _, _, _, rest, name, rfl, rfl, rfl, rfl⟩
    | case3 p rest _ ih =>
      obtain ⟨front, word, blank, paren, behind, name, rfl, hkinds⟩ := ih h
      exact ⟨p :: front, word, blank, paren, behind, name, rfl, hkinds⟩
  · rintro ⟨front, ⟨_, _⟩, ⟨_, _⟩, ⟨_, _⟩, behind, name, rfl, rfl, rfl, rfl⟩
    induction front with
    | nil => rfl
    | cons p front ih =>
      by_contra hnone
      rw [Bool.not_eq_true, List.cons_append] at hnone
      rw [hasSpacedCall_tail hnone] at ih
      cases ih

/-- A part of a row without spaced calls has none. -/
lemma hasSpacedCall_infix {front middle behind : List Piece}
    (h : hasSpacedCall (front ++ (middle ++ behind)) = false) : hasSpacedCall middle = false := by
  by_contra hspaced
  rw [Bool.not_eq_false, hasSpacedCall_iff] at hspaced
  obtain ⟨first, word, blank, paren, last, name, rfl, hkinds⟩ := hspaced
  have hwhole := hasSpacedCall_iff.2
    ⟨front ++ first, word, blank, paren, last ++ behind, name, rfl, hkinds⟩
  simp only [List.append_assoc, List.cons_append] at h hwhole
  rw [h] at hwhole
  cases hwhole

/-- A piece at the front of marked pieces that is no word has been copied. -/
lemma markPieces_eq_cons {p : Piece} {more : List Piece}
    (h : markPieces passes .nothing before ps = p :: more)
    (hp : ∀ name, p.kind ≠ .token (.word name)) :
    ∃ rest, ps = p :: rest ∧ more = markPieces passes .nothing (p.token?.or before) rest := by
  cases ps with
  | nil =>
    rw [markPieces] at h
    cases h
  | cons q rest =>
    rw [markPieces_nothing] at h
    split at h
    · obtain ⟨rfl, -⟩ := List.cons.inj h
      exact absurd rfl (hp viewCallWord)
    · obtain ⟨rfl, rfl⟩ := List.cons.inj h
      exact ⟨rest, rfl, rfl⟩

/-- Marking parts no name from its parenthesis. -/
lemma hasSpacedCall_markPieces (h : hasSpacedCall ps = false) (omission : Omission)
    (before : Option Token) : hasSpacedCall (markPieces passes omission before ps) = false := by
  induction ps generalizing omission before with
  | nil =>
    rw [markPieces]
    rfl
  | cons p rest ih =>
    have ih := ih (hasSpacedCall_tail h)
    have hkept (before : Option Token) :
        hasSpacedCall (markPieces passes .nothing before (p :: rest)) = false := by
      rw [markPieces_nothing]
      split
      · rename_i name arguments _
        cases arguments <;> exact ih _ _
      · by_contra hspaced
        rw [Bool.not_eq_false, hasSpacedCall_iff] at hspaced
        obtain ⟨front, word, blank, paren, behind, name, heq, hword, hblank, hparen⟩ := hspaced
        cases front with
        | nil =>
          -- The blank and the parenthesis behind the word have been copied.
          obtain ⟨rfl, hmarked⟩ := List.cons.inj heq
          obtain ⟨more, rfl, hbehind⟩ := markPieces_eq_cons hmarked (by simp [hblank])
          obtain ⟨last, rfl, -⟩ := markPieces_eq_cons hbehind.symm (by simp [hparen])
          have hraw := hasSpacedCall_iff.2
            ⟨[], p, blank, paren, last, name, rfl, hword, hblank, hparen⟩
          rw [List.nil_append, h] at hraw
          cases hraw
        | cons q front =>
          have hrest := hasSpacedCall_iff.2
            ⟨front, word, blank, paren, behind, name, (List.cons.inj heq).2, hword, hblank, hparen⟩
          rw [ih] at hrest
          cases hrest
    cases omission with
    | nothing => exact hkept before
    | paren arguments =>
      rw [markPieces]
      exact ih _ _
    | blanks =>
      rw [markPieces_blanks]
      split
      · exact ih _ _
      · exact hkept before

/-! ## Explicit calls in marked scripts -/

lemma tokensAmong_cons_some {p : Piece} {t : Token} (h : p.token? = some t) (ps : List Piece) :
    tokensAmong (p :: ps) = t :: tokensAmong ps :=
  List.filterMap_cons_some h

lemma tokensAmong_cons_none {p : Piece} (h : p.token? = none) (ps : List Piece) :
    tokensAmong (p :: ps) = tokensAmong ps :=
  List.filterMap_cons_none h

/-- An explicit call starts with the first token or stands behind it. -/
lemma calledIn_view_cons {t : Token} {ts : List Token} {name : String} :
    CalledIn (t :: ts) (.view name) ↔
      (t = .word viewCallWord ∧ ∃ rest, ts = .symbol .openParen :: .text name :: rest) ∨
        CalledIn ts (.view name) := by
  constructor
  · rintro ⟨front, rest, heq⟩
    cases front with
    | nil =>
      obtain ⟨rfl, rfl⟩ := List.cons.inj heq
      exact .inl ⟨rfl, rest, rfl⟩
    | cons u front => exact .inr ⟨front, rest, (List.cons.inj heq).2⟩
  · rintro (⟨rfl, rest, rfl⟩ | ⟨front, rest, rfl⟩)
    · exact ⟨[], rest, rfl⟩
    · exact ⟨t :: front, rest, rfl⟩

/-- The first token of marked pieces has been copied if it is no word. -/
lemma tokensAmong_markPieces_eq_cons {t : Token} {ts : List Token}
    (h : tokensAmong (markPieces passes .nothing before ps) = t :: ts)
    (ht : ∀ name, t ≠ .word name) :
    ∃ rest last, tokensAmong ps = t :: tokensAmong rest ∧
      ts = tokensAmong (markPieces passes .nothing last rest) := by
  induction ps generalizing before with
  | nil =>
    rw [markPieces] at h
    cases h
  | cons p rest ih =>
    rw [markPieces_nothing] at h
    split at h
    · -- a marked call would start with a word
      obtain ⟨rfl, -⟩ := List.cons.inj h
      exact absurd rfl (ht viewCallWord)
    · cases htoken : p.token? with
      | none =>
        rw [tokensAmong_cons_none htoken] at h ⊢
        exact ih h
      | some u =>
        rw [tokensAmong_cons_some htoken] at h ⊢
        obtain ⟨rfl, rfl⟩ := List.cons.inj h
        exact ⟨rest, _, rfl, rfl⟩

/-- A view function is called in marked pieces because the call has been marked or was written out
before. -/
lemma calledIn_view_of_markPieces {omission : Omission} {name : String}
    (h : CalledIn (tokensAmong (markPieces passes omission before ps)) (.view name)) :
    isViewName passes name = true ∨ CalledIn (tokensAmong ps) (.view name) := by
  induction ps generalizing omission before with
  | nil =>
    rw [markPieces] at h
    exact .inr h
  | cons p rest ih =>
    have hlater {omission : Omission} {before : Option Token}
        (h : CalledIn (tokensAmong (markPieces passes omission before rest)) (.view name)) :
        isViewName passes name = true ∨ CalledIn (tokensAmong (p :: rest)) (.view name) := by
      refine (ih h).imp_right fun hrest => ?_
      cases htoken : p.token? with
      | none => rwa [tokensAmong_cons_none htoken]
      | some t =>
        rw [tokensAmong_cons_some htoken, calledIn_view_cons]
        exact .inr hrest
    have hkept {before : Option Token}
        (h : CalledIn (tokensAmong (markPieces passes .nothing before (p :: rest)))
          (.view name)) :
        isViewName passes name = true ∨ CalledIn (tokensAmong (p :: rest)) (.view name) := by
      rw [markPieces_nothing] at h
      split at h
      · -- a call is marked here: the explicit call at the front is that call, or a later one
        rename_i found arguments hcall
        obtain ⟨-, -, hview, -⟩ := viewCall?_eq_some hcall
        rw [tokensAmong_append, tokensAmong_viewCallFront, List.cons_append, List.cons_append,
          List.cons_append, calledIn_view_cons, calledIn_view_cons, calledIn_view_cons] at h
        obtain ⟨-, _, htext⟩ | ⟨hword, -⟩ | ⟨hword, -⟩ | h := h
        · obtain ⟨hname, -⟩ := List.cons.inj (List.cons.inj htext).2
          rw [← Token.text.inj hname]
          exact .inl hview
        · cases hword
        · cases hword
        · cases arguments with
          | false => exact hlater h
          | true =>
            obtain ⟨hword, -⟩ | h := calledIn_view_cons.1 h
            · cases hword
            · exact hlater h
      · cases htoken : p.token? with
        | none =>
          rw [tokensAmong_cons_none htoken] at h
          rw [tokensAmong_cons_none htoken]
          exact ih h
        | some t =>
          rw [tokensAmong_cons_some htoken, calledIn_view_cons] at h
          obtain ⟨rfl, more, hmarked⟩ | h := h
          · -- The parenthesis and the text behind the word have been copied.
            obtain ⟨others, _, hparen, hbehind⟩ :=
              tokensAmong_markPieces_eq_cons hmarked (by simp)
            obtain ⟨last, _, htext, -⟩ :=
              tokensAmong_markPieces_eq_cons hbehind.symm (by simp)
            refine .inr ⟨[], tokensAmong last, ?_⟩
            rw [tokensAmong_cons_some htoken, hparen, htext, List.nil_append]
          · exact hlater h
    cases omission with
    | nothing => exact hkept h
    | paren arguments =>
      rw [markPieces] at h
      exact hlater h
    | blanks =>
      rw [markPieces_blanks] at h
      split at h
      · exact hlater h
      · exact hkept h

/-! ## Calls in the clauses of marked scripts -/

variable {ts : List Token} {name : String}

/-- A plain function that a clause of a marked script calls is none that would have been marked. -/
theorem isViewName_eq_false_of_calledIn (hspaced : hasSpacedCall (pieces source) = false)
    (hplace : StandsIn ts (markCalls passes source)) (h : CalledIn ts (.plain name))
    (hplain : isPlainName name = true) : isViewName passes name = false := by
  obtain hstatic | ⟨-, before, rest, rfl, hbefore⟩ := h
  · rw [hplain] at hstatic
    cases hstatic
  obtain ⟨front, middle, behind, hpieces, hjunk, htokens, hfront⟩ := hplace
  obtain ⟨first, word, after, rfl, hword, rfl, hafter⟩ := exists_cut_of_tokensAmong htokens
  have hmarked : hasSpacedCall (pieces (markCalls passes source)) = false := by
    rw [pieces_markCalls]
    exact hasSpacedCall_markPieces hspaced .nothing none
  have hcut := wellCut_pieces (markCalls passes source)
  rw [hpieces] at hmarked hcut
  -- The parenthesis is the next piece behind the name.
  have hparen : OpensCall (after ++ behind) := by
    have hinner : WellCut (first ++ word :: after) := hcut.behind.of_append hjunk
    have hafterCut : WellCut after := by
      obtain _ | ⟨-, hrest⟩ := hinner.behind
      exact hrest
    have hspacedAfter : hasSpacedCall (word :: after) = false := by
      have hmiddle := hasSpacedCall_infix hmarked
      rw [← List.append_nil (word :: after)] at hmiddle
      exact hasSpacedCall_infix hmiddle
    obtain ⟨paren, more, rfl, hparen⟩ := paren_behind_word hafterCut
      (fun q hq => hjunk q (by simp [hq])) hspacedAfter hword ⟨rest, hafter⟩
    exact ⟨paren, more ++ behind, rfl, hparen⟩
  have hallows : allowsCall (tokensAmong (front ++ first)).getLast? = true := by
    rw [tokensAmong_append, List.getLast?_append]
    cases hlast : (tokensAmong first).getLast? with
    | none => exact hfront
    | some t => rwa [hlast] at hbefore
  have hfree : CallFree passes none (pieces (markCalls passes source)) := by
    rw [pieces_markCalls]
    exact callFree_markPieces (pieces source) .nothing rfl
  have hkept := callFree_iff.1 hfree (front ++ first) word (after ++ behind) name
    (by rw [hpieces]; simp) hword hparen
  rwa [Option.or_none, hallows, Bool.true_and] at hkept

/-- A view function that a clause of a marked script calls would be marked, or the call is written
out in the script. -/
theorem isViewName_of_calledIn (hplace : StandsIn ts (markCalls passes source))
    (h : CalledIn ts (.view name)) :
    isViewName passes name = true ∨ CalledIn (tokensAmong (pieces source)) (.view name) := by
  obtain ⟨front, middle, behind, hpieces, -, rfl, -⟩ := hplace
  obtain ⟨before, rest, hmiddle⟩ := h
  have hall : CalledIn (tokensAmong (pieces (markCalls passes source))) (.view name) := by
    refine ⟨tokensAmong front ++ before, rest ++ tokensAmong behind, ?_⟩
    rw [hpieces, tokensAmong_append, tokensAmong_append, hmiddle]
    simp
  rw [pieces_markCalls] at hall
  exact calledIn_view_of_markPieces hall

end Marked

end ViewTemplate.Script
