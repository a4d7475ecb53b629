import Mathlib.Tactic.Common
import ViewTemplate.Proofs.MarkedPieces
import ViewTemplate.Proofs.Readers

/-!
# Marking calls changes which functions are called, and nothing else

`markCalls` edits the text of a script.  `parseExpression_markCalls` says what that does to the
expression the script is read as: every bare call of a view function, at any depth, becomes a view
call with the same name and arguments, and everything else stays (`Expr.marked`).  Names must not be
parted from their parentheses by blanks: such a call is read as a call but not marked.

The proof goes over the tokens.  The pieces of the marked text are known (`pieces_markCalls`), so
its tokens are the tokens of the script with the calls marked (`tokensAmong_markPieces`), and along
the rules of the grammar those are read as the marked expression (`Reads.marked`).  What makes the
induction go through is that no reader stops in front of a parenthesis behind a word it has read as
a literal: there the word would be marked although it is no call.
-/

namespace ViewTemplate.Script

variable {passes : String → Bool}

/-! ## Marked expressions -/

/-- Whether a name is that of a plain function and not that of a member of a class. -/
def isPlainName (name : String) : Bool :=
  !Text.hasMarker [':', ':'] name.toList

lemma hasMarker_append (marker before rest : List Char) :
    Text.hasMarker marker (before ++ marker ++ rest) = true := by
  unfold Text.hasMarker
  induction before with
  | nil =>
    cases marker with
    | nil => cases rest <;> simp [Text.splitAtMarker?, Text.afterMarker?]
    | cons m marker =>
      have hfront := Text.afterMarker?_append (m :: marker) rest
      rw [List.cons_append] at hfront
      simp [Text.splitAtMarker?, hfront]
  | cons c before ih =>
    rw [List.cons_append, List.cons_append, Text.splitAtMarker?]
    split
    · rfl
    · rw [Option.isSome_map]
      exact ih

lemma hasMarker_eq_false {m : Char} {marker text : List Char} (h : m ∉ text) :
    Text.hasMarker (m :: marker) text = false := by
  unfold Text.hasMarker
  induction text with
  | nil => rfl
  | cons c text ih =>
    obtain ⟨hc, htext⟩ := not_or.1 (mt List.mem_cons.2 h)
    rw [Text.splitAtMarker?, Text.afterMarker?, if_neg hc, Option.isSome_map]
    exact ih htext

lemma isPlainName_static (name member : String) : isPlainName (name ++ "::" ++ member) = false := by
  have hmarker := hasMarker_append [':', ':'] name.toList member.toList
  simpa [isPlainName] using hmarker

lemma isPlainName_word {letters : List Char} (h : ∀ c ∈ letters, isWordPart c = true) :
    isPlainName (String.ofList letters) = true := by
  have hcolon : ':' ∉ letters := fun hmem => absurd (h ':' hmem) (by decide)
  simp [isPlainName, hasMarker_eq_false hcolon]

mutual

/-- The expression with every bare call of a view function turned into a view call. -/
def Expr.marked (passes : String → Bool) : Expr → Expr
  | .literal v => .literal v
  | .var name => .var name
  | .array items => .array (markedEntries passes items)
  | .index target position => .index (target.marked passes) (position.marked passes)
  | .property target name => .property (target.marked passes) name
  | .call name args =>
    if isPlainName name && isViewName passes name then .viewCall name (markedAll passes args)
    else .call name (markedAll passes args)
  | .viewCall name args => .viewCall name (markedAll passes args)
  | .method target name args => .method (target.marked passes) name (markedAll passes args)
  | .unary op operand => .unary op (operand.marked passes)
  | .binary op left right => .binary op (left.marked passes) (right.marked passes)
  | .coalesce left right => .coalesce (left.marked passes) (right.marked passes)
  | .ternary condition yes no =>
    .ternary (condition.marked passes) (yes.marked passes) (no.marked passes)
termination_by structural e => e

/-- Expressions, each with its calls marked. -/
def markedAll (passes : String → Bool) : List Expr → List Expr
  | [] => []
  | e :: rest => e.marked passes :: markedAll passes rest
termination_by structural es => es

/-- The entries of an array literal, each with its calls marked. -/
def markedEntries (passes : String → Bool) :
    List (Option Expr × Expr) → List (Option Expr × Expr)
  | [] => []
  | (none, value) :: rest => (none, value.marked passes) :: markedEntries passes rest
  | (some key, value) :: rest =>
    (some (key.marked passes), value.marked passes) :: markedEntries passes rest
termination_by structural es => es

end

lemma markedEntries_cons (key : Option Expr) (value : Expr) (rest : List (Option Expr × Expr)) :
    markedEntries passes ((key, value) :: rest) =
      (key.map (Expr.marked passes), value.marked passes) :: markedEntries passes rest := by
  cases key <;> rfl

/-- What a phrase reads, with its calls marked. -/
def Found.marked (passes : String → Bool) : Found → Found
  | .expr e => .expr (e.marked passes)
  | .exprs es => .exprs (markedAll passes es)
  | .entries es => .entries (markedEntries passes es)
  | .entry key value => .entry (key.map (Expr.marked passes)) (value.marked passes)

/-- A phrase, with the calls marked in what has been read already. -/
def Phrase.marked (passes : String → Bool) : Phrase → Phrase
  | .binaryRest level e => .binaryRest level (e.marked passes)
  | .stepsRest e => .stepsRest (e.marked passes)
  | p => p

/-! ## Marked tokens -/

/-- Whether a call whose tokens behind the parenthesis are given has arguments. -/
def argumentsAhead : List Token → Bool
  | .symbol .closeParen :: _ => false
  | _ => true

/-- The tokens with every bare call of a view function in the explicit form.  `before` is the token
in front of them. -/
def markTokens (passes : String → Bool) : (before : Option Token) → List Token → List Token
  | _, [] => []
  | before, .word name :: .symbol .openParen :: rest =>
    (if allowsCall before && isViewName passes name then
      tokensAmong (viewCallFront name (argumentsAhead rest))
    else [.word name, .symbol .openParen]) ++
      markTokens passes (some (.symbol .openParen)) rest
  | _, t :: rest => t :: markTokens passes (some t) rest

lemma argumentsAhead_eq_true {ts : List Token} (h : ¬Starts .closeParen ts) :
    argumentsAhead ts = true := by
  unfold argumentsAhead
  split
  · exact absurd ⟨_, rfl⟩ h
  · rfl

/-- A token is copied unless it is the name in a call that is marked. -/
lemma markTokens_cons {before : Option Token} {t : Token} {rest : List Token}
    (h : ∀ name, t = .word name → Starts .openParen rest →
      (allowsCall before && isViewName passes name) = false) :
    markTokens passes before (t :: rest) = t :: markTokens passes (some t) rest := by
  by_cases hcall : ∃ name, t = .word name ∧ Starts .openParen rest
  · obtain ⟨name, rfl, hstarts⟩ := hcall
    have hkept := h name rfl hstarts
    obtain ⟨more, rfl⟩ := hstarts
    rw [markTokens, hkept, markTokens]
    · rfl
    · exact fun _ _ h => nomatch h
  · rw [markTokens]
    rintro name more rfl rfl
    exact hcall ⟨name, rfl, more, rfl⟩

lemma tokensAmong_viewCallFront (name : String) (arguments : Bool) :
    tokensAmong (viewCallFront name arguments) =
      .word viewCallWord :: .symbol .openParen :: .text name ::
        if arguments then [.symbol .comma] else [] := by
  cases arguments <;> rfl

lemma starts_markTokens {s : Symbol} {before : Option Token} {ts : List Token} :
    Starts s (markTokens passes before ts) ↔ Starts s ts := by
  fun_cases markTokens passes before ts with
  | case1 => rfl
  | case2 before name rest =>
    by_cases hcall : (allowsCall before && isViewName passes name) = true
    · rw [if_pos hcall, tokensAmong_viewCallFront]
      simp
    · rw [if_neg hcall]
      simp
  | case3 before t rest => simp

/-- The tokens `ts'` are the tokens `ts`, all words of which are plain names, with the calls
marked. -/
structure Marked (passes : String → Bool) (before : Option Token) (ts ts' : List Token) :
    Prop where
  plain : ∀ name, .word name ∈ ts → isPlainName name = true
  eq : ts' = markTokens passes before ts

namespace Marked

variable {before : Option Token} {ts ts' : List Token}

lemma starts_iff (h : Marked passes before ts ts') {s : Symbol} : Starts s ts' ↔ Starts s ts := by
  rw [h.eq]
  exact starts_markTokens

lemma cons {t : Token} (h : Marked passes before (t :: ts) ts')
    (hkept : ∀ name, t = .word name → Starts .openParen ts →
      (allowsCall before && isViewName passes name) = false) :
    ∃ more, ts' = t :: more ∧ Marked passes (some t) ts more :=
  ⟨_, h.eq.trans (markTokens_cons hkept), fun name hname => h.plain name (.tail t hname), rfl⟩

lemma symbol {s : Symbol} (h : Marked passes before (.symbol s :: ts) ts') :
    ∃ more, ts' = .symbol s :: more ∧ Marked passes (some (.symbol s)) ts more :=
  h.cons fun _ hword => nomatch hword

lemma call {name : String} (h : Marked passes before (.word name :: .symbol .openParen :: ts) ts')
    (hbefore : allowsCall before = true) (hview : isViewName passes name = true) :
    ∃ more, ts' = tokensAmong (viewCallFront name (argumentsAhead ts)) ++ more ∧
      Marked passes (some (.symbol .openParen)) ts more := by
  refine ⟨markTokens passes (some (.symbol .openParen)) ts, ?_,
    fun other hother => h.plain other (.tail _ (.tail _ hother)), rfl⟩
  rw [h.eq, markTokens, hbefore, hview, Bool.and_self, if_pos rfl]

end Marked

/-! ## Marked tokens are read as the marked expression -/

lemma allowsCall_of_ofSymbol? {s : Symbol} {op : BinaryOp} (h : BinaryOp.ofSymbol? s = some op) :
    allowsCall (some (.symbol s)) = true := by
  cases s <;> simp_all [BinaryOp.ofSymbol?, allowsCall]

/-- The word of the explicit form is never marked itself. -/
lemma not_marked_viewCallWord {before : Option Token} {name : String}
    (h : Token.word viewCallWord = .word name) :
    (allowsCall before && isViewName passes name) = false := by
  simp [← Token.word.inj h, isViewName]

/-- What follows an operand does not start with a parenthesis if nothing behind it does. -/
lemma Reads.not_starts_of_rest {p : Phrase} {ts rest : List Token} {found : Found}
    (h : Reads p ts found rest) (hp : p.startsFresh = false) (hrest : ¬Starts .openParen rest) :
    ¬Starts .openParen ts := by
  cases h <;> simp_all [Phrase.startsFresh]
  rintro rfl
  simp_all [BinaryOp.ofSymbol?]

/-- Along the grammar, marked tokens are read as what the tokens are read as, marked. -/
theorem Reads.marked {p : Phrase} {ts rest : List Token} {found : Found}
    (h : Reads p ts found rest) (before : Option Token) (ts' : List Token)
    (hm : Marked passes before ts ts')
    (hbefore : p.startsFresh = true → allowsCall before = true)
    (hrest : p.endsClosed = false → ¬Starts .openParen rest) :
    ∃ before' rest', Marked passes before' rest rest' ∧
      Reads (p.marked passes) ts' (found.marked passes) rest' := by
  induction h generalizing before ts' with
  | alone h hstop ih =>
    obtain ⟨b, rest', hm', hreads⟩ := ih before ts' hm hbefore hrest
    exact ⟨b, rest', hm', .alone hreads (mt hm'.starts_iff.1 hstop)⟩
  | coalesce h hother ih ihOther =>
    obtain ⟨b, mid, hmid, hreads⟩ := ih before ts' hm hbefore (by simp)
    obtain ⟨more, rfl, hmore⟩ := hmid.symbol
    obtain ⟨b', rest', hm', hreads'⟩ := ihOther _ more hmore (fun _ => rfl) hrest
    exact ⟨b', rest', hm', .coalesce hreads hreads'⟩
  | condition h hstop ih =>
    obtain ⟨b, rest', hm', hreads⟩ := ih before ts' hm hbefore hrest
    exact ⟨b, rest', hm', .condition hreads (mt hm'.starts_iff.1 hstop)⟩
  | ternary h hyes hno ih ihYes ihNo =>
    obtain ⟨b, mid, hmid, hreads⟩ := ih before ts' hm hbefore (by simp)
    obtain ⟨more, rfl, hmore⟩ := hmid.symbol
    obtain ⟨bYes, midYes, hmidYes, hreadsYes⟩ := ihYes _ more hmore (fun _ => rfl) (by simp)
    obtain ⟨moreYes, rfl, hmoreYes⟩ := hmidYes.symbol
    obtain ⟨b', rest', hm', hreads'⟩ := ihNo _ moreYes hmoreYes (fun _ => rfl) hrest
    exact ⟨b', rest', hm', .ternary hreads hreadsYes hreads'⟩
  | binary h hrest' ih ihRest =>
    have hstop := hrest'.not_starts_of_rest rfl (hrest rfl)
    obtain ⟨b, mid, hmid, hreads⟩ := ih before ts' hm hbefore (fun _ => hstop)
    obtain ⟨b', rest', hm', hreads'⟩ := ihRest b mid hmid (by simp [Phrase.startsFresh]) hrest
    exact ⟨b', rest', hm', .binary hreads hreads'⟩
  | noOperator hstop =>
    exact ⟨before, ts', hm, .noOperator fun s op hs => hstop s op (hm.starts_iff.1 hs)⟩
  | operator hop hlevel h hrest' ih ihRest =>
    obtain ⟨more, rfl, hmore⟩ := hm.symbol
    have hstop := hrest'.not_starts_of_rest rfl (hrest rfl)
    obtain ⟨b, mid, hmid, hreads⟩ :=
      ih _ more hmore (fun _ => allowsCall_of_ofSymbol? hop) (fun _ => hstop)
    obtain ⟨b', rest', hm', hreads'⟩ := ihRest b mid hmid (by simp [Phrase.startsFresh]) hrest
    exact ⟨b', rest', hm', .operator hop hlevel hreads hreads'⟩
  | not h ih =>
    obtain ⟨more, rfl, hmore⟩ := hm.symbol
    obtain ⟨b', rest', hm', hreads⟩ := ih _ more hmore (fun _ => rfl) hrest
    exact ⟨b', rest', hm', .not hreads⟩
  | negate h ih =>
    obtain ⟨more, rfl, hmore⟩ := hm.symbol
    obtain ⟨b', rest', hm', hreads⟩ := ih _ more hmore (fun _ => rfl) hrest
    exact ⟨b', rest', hm', .negate hreads⟩
  | unsigned hnot hminus h ih =>
    obtain ⟨b', rest', hm', hreads⟩ := ih before ts' hm hbefore hrest
    exact ⟨b', rest', hm', .unsigned (mt hm.starts_iff.1 hnot) (mt hm.starts_iff.1 hminus) hreads⟩
  | steps h hrest' ih ihRest =>
    have hstop := hrest'.not_starts_of_rest rfl (hrest rfl)
    obtain ⟨b, mid, hmid, hreads⟩ := ih before ts' hm hbefore (fun _ => hstop)
    obtain ⟨b', rest', hm', hreads'⟩ := ihRest b mid hmid (by simp [Phrase.startsFresh]) hrest
    exact ⟨b', rest', hm', .steps hreads hreads'⟩
  | noStep hbracket harrow =>
    exact ⟨before, ts', hm, .noStep (mt hm.starts_iff.1 hbracket) (mt hm.starts_iff.1 harrow)⟩
  | index h hrest' ih ihRest =>
    obtain ⟨more, rfl, hmore⟩ := hm.symbol
    obtain ⟨b, mid, hmid, hreads⟩ := ih _ more hmore (fun _ => rfl) (by simp)
    obtain ⟨behind, rfl, hbehind⟩ := hmid.symbol
    obtain ⟨b', rest', hm', hreads'⟩ :=
      ihRest _ behind hbehind (by simp [Phrase.startsFresh]) hrest
    exact ⟨b', rest', hm', .index hreads hreads'⟩
  | property hstop hrest' ihRest =>
    obtain ⟨more, rfl, hmore⟩ := hm.symbol
    obtain ⟨behind, rfl, hbehind⟩ := hmore.cons fun _ _ _ => rfl
    obtain ⟨b', rest', hm', hreads'⟩ :=
      ihRest _ behind hbehind (by simp [Phrase.startsFresh]) hrest
    exact ⟨b', rest', hm', .property (mt hbehind.starts_iff.1 hstop) hreads'⟩
  | method h hrest' ih ihRest =>
    obtain ⟨more, rfl, hmore⟩ := hm.symbol
    obtain ⟨behind, rfl, hbehind⟩ := hmore.cons fun _ _ _ => rfl
    obtain ⟨inner, rfl, hinner⟩ := hbehind.symbol
    obtain ⟨b, mid, hmid, hreads⟩ := ih _ inner hinner (fun _ => rfl) (by simp [Phrase.endsClosed])
    obtain ⟨b', rest', hm', hreads'⟩ := ihRest b mid hmid (by simp [Phrase.startsFresh]) hrest
    exact ⟨b', rest', hm', .method hreads hreads'⟩
  | var =>
    obtain ⟨more, rfl, hmore⟩ := hm.cons fun _ hword => nomatch hword
    exact ⟨_, more, hmore, .var⟩
  | integer =>
    obtain ⟨more, rfl, hmore⟩ := hm.cons fun _ hword => nomatch hword
    exact ⟨_, more, hmore, .integer⟩
  | float =>
    obtain ⟨more, rfl, hmore⟩ := hm.cons fun _ hword => nomatch hword
    exact ⟨_, more, hmore, .float⟩
  | text =>
    obtain ⟨more, rfl, hmore⟩ := hm.cons fun _ hword => nomatch hword
    exact ⟨_, more, hmore, .text⟩
  | group h ih =>
    obtain ⟨more, rfl, hmore⟩ := hm.symbol
    obtain ⟨b, mid, hmid, hreads⟩ := ih _ more hmore (fun _ => rfl) (by simp)
    obtain ⟨rest', rfl, hm'⟩ := hmid.symbol
    exact ⟨_, rest', hm', .group hreads⟩
  | array h ih =>
    obtain ⟨more, rfl, hmore⟩ := hm.symbol
    obtain ⟨b', rest', hm', hreads⟩ := ih _ more hmore (fun _ => rfl) (by simp [Phrase.endsClosed])
    exact ⟨b', rest', hm', .array hreads⟩
  | literal hliteral =>
    obtain ⟨more, rfl, hmore⟩ := hm.cons fun _ _ hstarts => absurd hstarts (hrest rfl)
    exact ⟨_, more, hmore, .literal hliteral⟩
  | viewCall h ih =>
    obtain ⟨more, rfl, hmore⟩ := hm.cons fun _ hword _ => not_marked_viewCallWord hword
    obtain ⟨inner, rfl, hinner⟩ := hmore.symbol
    obtain ⟨behind, rfl, hbehind⟩ := hinner.cons fun _ hword => nomatch hword
    obtain ⟨args, rfl, hargs⟩ := hbehind.symbol
    obtain ⟨b', rest', hm', hreads⟩ := ih _ args hargs (fun _ => rfl) (by simp [Phrase.endsClosed])
    exact ⟨b', rest', hm', .viewCall hreads⟩
  | viewCallAlone =>
    obtain ⟨more, rfl, hmore⟩ := hm.cons fun _ hword _ => not_marked_viewCallWord hword
    obtain ⟨inner, rfl, hinner⟩ := hmore.symbol
    obtain ⟨behind, rfl, hbehind⟩ := hinner.cons fun _ hword => nomatch hword
    obtain ⟨rest', rfl, hm'⟩ := hbehind.symbol
    exact ⟨_, rest', hm', .viewCallAlone⟩
  | staticCall hliteral hname h ih =>
    obtain ⟨more, rfl, hmore⟩ := hm.cons (by simp)
    obtain ⟨member, rfl, hmember⟩ := hmore.symbol
    obtain ⟨behind, rfl, hbehind⟩ := hmember.cons fun _ _ _ => rfl
    obtain ⟨args, rfl, hargs⟩ := hbehind.symbol
    obtain ⟨b', rest', hm', hreads⟩ := ih _ args hargs (fun _ => rfl) (by simp [Phrase.endsClosed])
    refine ⟨b', rest', hm', ?_⟩
    rw [Found.marked, Expr.marked, isPlainName_static, Bool.false_and, if_neg (by simp)]
    exact .staticCall hliteral hname hreads
  | @call name ts rest args hliteral hname h ih =>
    have hplain := hm.plain name List.mem_cons_self
    rw [Found.marked, Expr.marked, hplain, Bool.true_and]
    cases hview : isViewName passes name with
    | false =>
      obtain ⟨more, rfl, hmore⟩ := hm.cons fun other hother _ => by
        rw [← Token.word.inj hother, hview, Bool.and_false]
      obtain ⟨args, rfl, hargs⟩ := hmore.symbol
      obtain ⟨b', rest', hm', hreads⟩ :=
        ih _ args hargs (fun _ => rfl) (by simp [Phrase.endsClosed])
      exact ⟨b', rest', hm', .call hliteral hname hreads⟩
    | true =>
      obtain ⟨more, rfl, hmore⟩ := hm.call (hbefore rfl) hview
      obtain ⟨b', rest', hm', hreads⟩ :=
        ih _ more hmore (fun _ => rfl) (by simp [Phrase.endsClosed])
      refine ⟨b', rest', hm', ?_⟩
      rw [tokensAmong_viewCallFront]
      -- The name is followed by a comma exactly if the call has arguments.
      cases h with
      | noArguments =>
        obtain ⟨rest'', rfl, -⟩ := hmore.symbol
        cases hreads with
        | noArguments => exact .viewCallAlone
        | someArguments hstop => simp at hstop
      | someArguments hstop =>
        rw [argumentsAhead_eq_true hstop]
        exact .viewCall hreads
  | noArguments =>
    obtain ⟨more, rfl, hmore⟩ := hm.symbol
    exact ⟨_, more, hmore, .noArguments⟩
  | someArguments hstop h ih =>
    obtain ⟨b', rest', hm', hreads⟩ := ih before ts' hm hbefore (by simp [Phrase.endsClosed])
    exact ⟨b', rest', hm', .someArguments (mt hm.starts_iff.1 hstop) hreads⟩
  | lastArgument h ih =>
    obtain ⟨b, mid, hmid, hreads⟩ := ih before ts' hm hbefore (by simp)
    obtain ⟨rest', rfl, hm'⟩ := hmid.symbol
    exact ⟨_, rest', hm', .lastArgument hreads⟩
  | argument h hrest' ih ihRest =>
    obtain ⟨b, mid, hmid, hreads⟩ := ih before ts' hm hbefore (by simp)
    obtain ⟨more, rfl, hmore⟩ := hmid.symbol
    obtain ⟨b', rest', hm', hreads'⟩ :=
      ihRest _ more hmore (fun _ => rfl) (by simp [Phrase.endsClosed])
    exact ⟨b', rest', hm', .argument hreads hreads'⟩
  | noEntries =>
    obtain ⟨more, rfl, hmore⟩ := hm.symbol
    exact ⟨_, more, hmore, .noEntries⟩
  | lastEntry hstop h ih =>
    obtain ⟨b, mid, hmid, hreads⟩ := ih before ts' hm hbefore (by simp)
    obtain ⟨rest', rfl, hm'⟩ := hmid.symbol
    refine ⟨_, rest', hm', ?_⟩
    rw [Found.marked, markedEntries_cons]
    exact .lastEntry (mt hm.starts_iff.1 hstop) hreads
  | someEntries hstop h hrest' ih ihRest =>
    obtain ⟨b, mid, hmid, hreads⟩ := ih before ts' hm hbefore (by simp)
    obtain ⟨more, rfl, hmore⟩ := hmid.symbol
    obtain ⟨b', rest', hm', hreads'⟩ :=
      ihRest _ more hmore (fun _ => rfl) (by simp [Phrase.endsClosed])
    refine ⟨b', rest', hm', ?_⟩
    rw [Found.marked, markedEntries_cons]
    exact .someEntries (mt hm.starts_iff.1 hstop) hreads hreads'
  | item h hstop ih =>
    obtain ⟨b', rest', hm', hreads⟩ := ih before ts' hm hbefore hrest
    exact ⟨b', rest', hm', .item hreads (mt hm'.starts_iff.1 hstop)⟩
  | pair h hvalue ih ihValue =>
    obtain ⟨b, mid, hmid, hreads⟩ := ih before ts' hm hbefore (by simp)
    obtain ⟨more, rfl, hmore⟩ := hmid.symbol
    obtain ⟨b', rest', hm', hreads'⟩ := ihValue _ more hmore (fun _ => rfl) hrest
    exact ⟨b', rest', hm', .pair hreads hreads'⟩

/-! ## The tokens of marked pieces -/

/-- Whether a name is parted from the parenthesis behind it by blanks. -/
def hasSpacedCall : List Piece → Bool
  | [] => false
  | ⟨.token (.word _), _⟩ :: ⟨.blank, _⟩ :: ⟨.token (.symbol .openParen), _⟩ :: _ => true
  | _ :: rest => hasSpacedCall rest

lemma hasSpacedCall_tail {p : Piece} {rest : List Piece} (h : hasSpacedCall (p :: rest) = false) :
    hasSpacedCall rest = false := by
  unfold hasSpacedCall at h
  split at h
  · simp_all
  · simp at h
  · simp_all

/-- Without spaced calls and junk, a parenthesis that is the next token behind a word is the next
piece. -/
lemma paren_behind_word {p : Piece} {rest : List Piece} {name : String} (hcut : WellCut rest)
    (hjunk : JunkFree rest) (hspaced : hasSpacedCall (p :: rest) = false)
    (hp : p.kind = .token (.word name)) (hstarts : Starts .openParen (tokensAmong rest)) :
    ∃ paren more, rest = paren :: more ∧ paren.kind = .token (.symbol .openParen) := by
  obtain _ | ⟨q, more⟩ := rest
  · simp at hstarts
  · cases hq : q.kind with
    | token t =>
      rw [tokensAmong_cons_token hq, starts_cons] at hstarts
      exact ⟨q, more, rfl, by rw [hq, hstarts]⟩
    | junk => exact absurd hq (hjunk q List.mem_cons_self)
    | blank =>
      -- one run of blanks between the name and the parenthesis is a spaced call
      exfalso
      rw [tokensAmong_cons_blank hq] at hstarts
      obtain _ | ⟨r, more⟩ := more
      · simp at hstarts
      · cases hr : r.kind with
        | token t =>
          rw [tokensAmong_cons_token hr, starts_cons] at hstarts
          obtain ⟨_, _⟩ := p
          obtain ⟨_, _⟩ := q
          obtain ⟨_, _⟩ := r
          simp only at hp hq hr
          simp [hp, hq, hr, hstarts, hasSpacedCall] at hspaced
        | junk => exact hjunk r (by simp) hr
        | blank => exact hcut.kind_ne_blank hq hr

lemma callAhead?_paren {paren : Piece} (h : paren.kind = .token (.symbol .openParen))
    (more : List Piece) :
    callAhead? (paren :: more) = some (argumentsAhead (tokensAmong more)) := by
  have hparen : paren.isSymbol .openParen = true := by simp [Piece.isSymbol, h]
  have hhead : more.findSome? Piece.token? = (tokensAmong more).head? :=
    List.head?_filterMap.symm
  rw [callAhead?, if_pos hparen, hhead, argumentsAhead.eq_def]
  cases tokensAmong more with
  | nil => rfl
  | cons t ts =>
    rw [List.head?_cons]
    split <;> split <;> simp_all

/-- The tokens of marked pieces are the tokens of the pieces, marked.  Where a parenthesis has been
written already, it is left out. -/
lemma tokensAmong_markPieces {ps : List Piece} (hcut : WellCut ps) (hjunk : JunkFree ps)
    (hspaced : hasSpacedCall ps = false) (omission : Omission) (before : Option Token) :
    tokensAmong (markPieces passes omission before ps) =
      match omission with
      | .paren _ => markTokens passes (some (.symbol .openParen)) (tokensAmong ps.tail)
      | _ => markTokens passes before (tokensAmong ps) := by
  induction hcut generalizing omission before with
  | nil =>
    rw [markPieces]
    cases omission <;> simp [markTokens]
  | @cons p rest hp hrest ih =>
    have ih := ih (fun q hq => hjunk q (.tail p hq)) (hasSpacedCall_tail hspaced)
    -- the piece at the front, where nothing is left out
    have hkept : ∀ before, tokensAmong (markPieces passes .nothing before (p :: rest)) =
        markTokens passes before (tokensAmong (p :: rest)) := by
      intro before
      rw [markPieces_nothing]
      cases hcall : viewCall? passes before p rest with
      | some call =>
        obtain ⟨name, arguments⟩ := call
        obtain ⟨hkind, hallows, hview, hahead, paren, more, rfl, hparen⟩ := viewCall?_eq_some hcall
        rw [callAhead?_paren hparen, Option.some.injEq] at hahead
        rw [tokensAmong_append, ih (.paren arguments), List.tail_cons, tokensAmong_cons_token hkind,
          tokensAmong_cons_token hparen, markTokens, hallows, hview, Bool.and_self, if_pos rfl,
          hahead]
      | none =>
        cases hkind : p.kind with
        | junk => exact absurd hkind (hjunk p List.mem_cons_self)
        | blank =>
          have htoken : p.token? = none := by simp [Piece.token?, hkind]
          rw [tokensAmong_cons_blank hkind, tokensAmong_cons_blank hkind, ih .nothing, htoken,
            Option.none_or]
        | token t =>
          have htoken : p.token? = some t := by simp [Piece.token?, hkind]
          rw [tokensAmong_cons_token hkind, tokensAmong_cons_token hkind, ih .nothing, htoken,
            Option.some_or, markTokens_cons]
          rintro name rfl hstarts
          obtain ⟨paren, more, rfl, hparen⟩ :=
            paren_behind_word hrest (fun q hq => hjunk q (.tail p hq)) hspaced hkind hstarts
          simp only [viewCall?, hkind, callAhead?_paren hparen] at hcall
          simpa using hcall
    cases omission with
    | nothing => exact hkept before
    | paren arguments =>
      rw [markPieces, ih]
      cases arguments <;> rfl
    | blanks =>
      rw [markPieces_blanks]
      split
      · -- only blanks are left out behind the parenthesis, and they have no tokens
        rename_i hblank
        have hkind : p.kind = .blank := by
          cases hkind : p.kind with
          | token t => rw [hp.not_all_isBlank hkind] at hblank; simp at hblank
          | junk => exact absurd hkind (hjunk p List.mem_cons_self)
          | blank => rfl
        rw [ih, tokensAmong_cons_blank hkind]
      · exact hkept before

lemma junkFree_viewCallFront (name : String) (arguments : Bool) :
    JunkFree (viewCallFront name arguments) := by
  cases arguments <;> simp [JunkFree, viewCallFront, symbolPiece]

lemma junkFree_markPieces {ps : List Piece} (h : JunkFree ps) (omission : Omission)
    (before : Option Token) : JunkFree (markPieces passes omission before ps) := by
  induction ps generalizing omission before with
  | nil =>
    rw [markPieces]
    exact h
  | cons p rest ih =>
    have ih := ih fun q hq => h q (.tail p hq)
    have hkept : ∀ before, JunkFree (markPieces passes .nothing before (p :: rest)) := by
      intro before q hq
      rw [markPieces_nothing] at hq
      split at hq
      · rename_i name arguments _
        rcases List.mem_append.1 hq with hfront | hbehind
        · exact junkFree_viewCallFront name arguments q hfront
        · exact ih _ _ q hbehind
      · rcases List.mem_cons.1 hq with rfl | hq
        · exact h q List.mem_cons_self
        · exact ih _ _ q hq
    cases omission with
    | nothing => exact hkept before
    | paren arguments =>
      rw [markPieces]
      exact ih _ _
    | blanks =>
      rw [markPieces_blanks]
      split
      · exact ih _ _
      · exact hkept before

/-! ## Marked scripts -/

/-- The words of a script are plain names. -/
lemma isPlainName_of_mem_tokensAmong {ps : List Piece} (h : WellCut ps) {name : String}
    (hname : .word name ∈ tokensAmong ps) : isPlainName name = true := by
  induction h with
  | nil => simp at hname
  | @cons p rest hp _ ih =>
    obtain ⟨q, hq, htoken⟩ := List.mem_filterMap.1 hname
    rcases List.mem_cons.1 hq with rfl | hq
    · have hkind : q.kind = .token (.word name) := by
        unfold Piece.token? at htoken
        split at htoken
        · rename_i t hkind
          rw [hkind, Option.some.inj htoken]
        · simp at htoken
      obtain ⟨letters, rfl, hletters⟩ := hp.shape.name_of_word hkind
      exact isPlainName_word hletters
    · exact ih (List.mem_filterMap.2 ⟨q, hq, htoken⟩)

/-- A script in which no name is parted from its parenthesis, and which is read as an expression, is
read as the marked expression once its calls are marked. -/
theorem parseExpression_markCalls (passes : String → Bool) {source : List Char} {e : Expr}
    (hspaced : hasSpacedCall (pieces source) = false) (h : parseExpression source = .ok e) :
    parseExpression (markCalls passes source) = .ok (e.marked passes) := by
  obtain ⟨hjunk, hreads⟩ := parseExpression_eq_ok_iff.1 h
  have hcut := wellCut_pieces source
  have hmarked : Marked passes none (tokensAmong (pieces source))
      (tokensAmong (markPieces passes .nothing none (pieces source))) :=
    ⟨fun name hname => isPlainName_of_mem_tokensAmong hcut hname,
      tokensAmong_markPieces hcut hjunk hspaced .nothing none⟩
  obtain ⟨before, rest, hrest, hreads'⟩ := hreads.marked none _ hmarked (fun _ => rfl) (by simp)
  obtain rfl : rest = [] := hrest.eq
  rw [parseExpression_eq_ok_iff, pieces_markCalls]
  exact ⟨junkFree_markPieces hjunk .nothing none, hreads'⟩

/-- Calls at every depth: in arguments, array entries, static calls and method calls. -/
theorem parseExpression_markCalls_nested :
    hasSpacedCall (pieces "f([trim($x), A::b(g())], $o->m(h(1)))".toList) = false ∧
    parseExpression "f([trim($x), A::b(g())], $o->m(h(1)))".toList =
      .ok (.call "f" [.array [(none, .call "trim" [.var "x"]),
          (none, .call "A::b" [.call "g" []])],
        .method (.var "o") "m" [.call "h" [.literal (.ofNat 1)]]]) ∧
    parseExpression (markCalls (· == "trim") "f([trim($x), A::b(g())], $o->m(h(1)))".toList) =
      .ok (.viewCall "f" [.array [(none, .call "trim" [.var "x"]),
          (none, .call "A::b" [.viewCall "g" []])],
        .method (.var "o") "m" [.viewCall "h" [.literal (.ofNat 1)]]]) := by
  have hspaced : hasSpacedCall (pieces "f([trim($x), A::b(g())], $o->m(h(1)))".toList) = false := by
    decide +kernel
  have hlexemes : strictLexemes "f([trim($x), A::b(g())], $o->m(h(1)))".toList =
      .ok [⟨.word "f", 0, 1⟩, ⟨.symbol .openParen, 1, 2⟩, ⟨.symbol .openBracket, 2, 3⟩,
        ⟨.word "trim", 3, 7⟩, ⟨.symbol .openParen, 7, 8⟩, ⟨.var "x", 8, 10⟩,
        ⟨.symbol .closeParen, 10, 11⟩, ⟨.symbol .comma, 11, 12⟩, ⟨.word "A", 13, 14⟩,
        ⟨.symbol .doubleColon, 14, 16⟩, ⟨.word "b", 16, 17⟩, ⟨.symbol .openParen, 17, 18⟩,
        ⟨.word "g", 18, 19⟩, ⟨.symbol .openParen, 19, 20⟩, ⟨.symbol .closeParen, 20, 21⟩,
        ⟨.symbol .closeParen, 21, 22⟩, ⟨.symbol .closeBracket, 22, 23⟩, ⟨.symbol .comma, 23, 24⟩,
        ⟨.var "o", 25, 27⟩, ⟨.symbol .arrow, 27, 29⟩, ⟨.word "m", 29, 30⟩,
        ⟨.symbol .openParen, 30, 31⟩, ⟨.word "h", 31, 32⟩, ⟨.symbol .openParen, 32, 33⟩,
        ⟨.integer 1, 33, 34⟩, ⟨.symbol .closeParen, 34, 35⟩, ⟨.symbol .closeParen, 35, 36⟩,
        ⟨.symbol .closeParen, 36, 37⟩] := by
    decide +kernel
  have hparse : parseExpression "f([trim($x), A::b(g())], $o->m(h(1)))".toList =
      .ok (.call "f" [.array [(none, .call "trim" [.var "x"]),
          (none, .call "A::b" [.call "g" []])],
        .method (.var "o") "m" [.call "h" [.literal (.ofNat 1)]]]) := by
    simp only [parseExpression, lexemesOf, hlexemes]
    rfl
  exact ⟨hspaced, hparse, parseExpression_markCalls (· == "trim") hspaced hparse⟩

end ViewTemplate.Script
