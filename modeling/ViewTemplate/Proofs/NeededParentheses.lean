import Mathlib.Tactic.Common
import ViewTemplate.Proofs.WrittenExpressions

/-!
# The parentheses of a written expression are needed

An expression is written with parentheses only around parts that bind less tightly than their places
ask for.  This file shows that fewer will not do: a row of tokens that is read as an expression has
at least the parentheses of what is written for it (`Reads.bounds`).  With the results on
`Expr.tokens`, reading undoes writing, and it undoes nothing shorter in parentheses.

The count goes along the grammar.  A part that was read in a place has parentheses for that place;
but the operand in front of an operator was read before the operator was seen.  So the phrases that
go on from an operand carry the parentheses it was read with as a credit, and an operator that
follows never binds tighter than the one before it (`Reads.precedence_lt`).
-/

namespace ViewTemplate.Script

/-! ## Counting parentheses -/

/-- Whether a token is an opening parenthesis. -/
def Token.isParen : Token → Bool
  | .symbol .openParen => true
  | _ => false

/-- The number of opening parentheses in a row of tokens. -/
def parens (ts : List Token) : Nat :=
  ts.countP Token.isParen

@[simp] lemma parens_nil : parens [] = 0 := rfl

@[simp] lemma parens_append (ts us : List Token) : parens (ts ++ us) = parens ts + parens us :=
  List.countP_append

@[simp] lemma parens_cons (t : Token) (ts : List Token) :
    parens (t :: ts) = parens ts + if t.isParen then 1 else 0 :=
  List.countP_cons

lemma isParen_of_ofSymbol? {s : Symbol} {op : BinaryOp} (h : BinaryOp.ofSymbol? s = some op) :
    (Token.symbol s).isParen = false := by
  cases s <;> first | rfl | simp [BinaryOp.ofSymbol?] at h

lemma parens_literalTokens (v : Value) : parens (literalTokens v) = 0 := by
  fun_cases literalTokens v <;> rfl

lemma parens_calleeTokens (name : String) : parens (calleeTokens name) = 0 := by
  fun_cases calleeTokens name <;> rfl

lemma parens_separated_cons (row : List Token) (rows : List (List Token)) :
    parens (separated (row :: rows)) = parens row + parens (separated rows) := by
  cases rows <;> simp [separated, Token.isParen]

section Places

variable (e : Expr) {level other : Level}

/-- A place that asks for tighter binding puts an expression in parentheses. -/
lemma parens_tokensAt (level : Level) :
    parens (e.tokensAt level) = parens e.tokens + if e.level.rank < level.rank then 1 else 0 := by
  show parens (if e.level.rank < level.rank then
    Token.symbol .openParen :: (e.tokens ++ [Token.symbol .closeParen]) else e.tokens) = _
  split
  · rw [parens_cons, parens_append]
    rfl
  · rfl

lemma parens_tokens_le (level : Level) : parens e.tokens ≤ parens (e.tokensAt level) := by
  rw [parens_tokensAt]
  exact Nat.le_add_right _ _

lemma parens_tokensAt_le (level : Level) : parens (e.tokensAt level) ≤ parens e.tokens + 1 := by
  rw [parens_tokensAt]
  split <;> omega

lemma parens_tokensAt_mono (h : level.rank ≤ other.rank) :
    parens (e.tokensAt level) ≤ parens (e.tokensAt other) := by
  rw [parens_tokensAt, parens_tokensAt]
  split <;> split <;> omega

lemma tokensAt_coalesce : e.tokensAt .coalesce = e.tokens :=
  rfl

end Places

/-- The parentheses of an expression are those of its parts in their places, and one for a call. -/
lemma parens_tokensAt_level (e : Expr) :
    parens (e.tokensAt e.level) =
      match e with
      | .literal _ | .var _ => 0
      | .array items => parens (separated (entryRows items))
      | .index target position => parens (target.tokensAt .step) + parens position.tokens
      | .property target _ => parens (target.tokensAt .step)
      | .call _ args | .viewCall _ args => parens (separated (rows args)) + 1
      | .method target _ args => parens (target.tokensAt .step) + parens (separated (rows args)) + 1
      | .unary _ operand => parens (operand.tokensAt .sign)
      | .binary op left right =>
        parens (left.tokensAt (.operator op.precedence)) +
          parens (right.tokensAt (.operator (op.precedence + 1)))
      | .coalesce left right => parens (left.tokensAt .ternary) + parens right.tokens
      | .ternary condition yes no =>
        parens (condition.tokensAt (.operator 1)) + parens yes.tokens +
          parens (no.tokensAt .ternary) := by
  -- at its own level an expression stands without parentheses around it
  have hown : e.tokensAt e.level = e.tokens := if_neg (Nat.lt_irrefl _)
  rw [hown]
  unfold Expr.tokensAt
  cases e with
  | literal v => exact parens_literalTokens v
  | viewCall name args =>
    simp [Expr.tokens, Token.isParen, parens_separated_cons]
  | unary op operand => cases op <;> simp [Expr.tokens, Token.isParen, UnaryOp.symbol]
  | binary op left right =>
    simp [Expr.tokens, isParen_of_ofSymbol? op.ofSymbol?_symbol]
  | _ => simp [Expr.tokens, Token.isParen, parens_calleeTokens, Nat.add_assoc]

/-! ## Counting along the grammar -/

/-- The level of the phrases that go on with operators. -/
def Phrase.level? : Phrase → Option Nat
  | .binary level | .binaryRest level _ => some level
  | _ => none

/-- An operator that is left binds too weakly to be read. -/
lemma Reads.precedence_lt {p : Phrase} {ts rest : List Token} {found : Found} {level : Nat}
    (h : Reads p ts found rest) (hp : p.level? = some level) {s : Symbol} {op : BinaryOp}
    (hs : Starts s rest) (hop : BinaryOp.ofSymbol? s = some op) : op.precedence < level := by
  induction h with
  | binary h hrest ih ihRest => exact ihRest hp hs
  | noOperator hstop =>
    obtain rfl := Option.some.inj hp
    exact hstop s op hs hop
  | operator hop hlevel h hrest ih ihRest => exact ihRest hp hs
  | _ => simp [Phrase.level?] at hp

/-- The tokens that a phrase reads have at least the parentheses of what is written for what it
reads.  A phrase that goes on from an operand has as many to its credit as were read with the
operand; they must do for the place that the next operator gives it. -/
def Phrase.Bounds : Phrase → List Token → Found → List Token → Prop
  | .expression, ts, .expr e, rest => parens e.tokens + parens rest ≤ parens ts
  | .conditional, ts, .expr e, rest => parens (e.tokensAt .ternary) + parens rest ≤ parens ts
  | .binary level, ts, .expr e, rest =>
    level ≤ 7 → parens (e.tokensAt (.operator level)) + parens rest ≤ parens ts
  | .binaryRest level first, ts, .expr e, rest =>
    level ≤ 7 → ∀ credit, parens (first.tokensAt (.operator level)) ≤ credit →
      (∀ s op, Starts s ts → BinaryOp.ofSymbol? s = some op →
        parens (first.tokensAt (.operator op.precedence)) ≤ credit) →
      parens (e.tokensAt (.operator level)) + parens rest ≤ credit + parens ts
  | .unary, ts, .expr e, rest => parens (e.tokensAt .sign) + parens rest ≤ parens ts
  | .stepsRest first, ts, .expr e, rest =>
    parens (e.tokensAt .step) + parens rest ≤ parens (first.tokensAt .step) + parens ts
  | .steps, ts, .expr e, rest | .primary, ts, .expr e, rest =>
    parens (e.tokensAt .step) + parens rest ≤ parens ts
  | .arguments, ts, .exprs es, rest | .argumentsRest, ts, .exprs es, rest =>
    parens (separated (rows es)) + parens rest ≤ parens ts
  | .entries, ts, .entries items, rest =>
    parens (separated (entryRows items)) + parens rest ≤ parens ts
  | .entry, ts, .entry key value, rest => parens (entryTokens key value) + parens rest ≤ parens ts
  | _, _, _, _ => True

section Bounds

variable {ts more rest : List Token}

/-- An operator takes its operands in their places: the left one as it was read, and the whole as
the operand of whatever operator follows. -/
lemma bounds_operator {level : Nat} {s : Symbol} {op : BinaryOp} {first right e : Expr}
    (hop : BinaryOp.ofSymbol? s = some op) (hlevel : level ≤ op.precedence)
    (h : Reads (.binary (op.precedence + 1)) ts (.expr right) more)
    (hright : (Phrase.binary (op.precedence + 1)).Bounds ts (.expr right) more)
    (hrest : (Phrase.binaryRest level (.binary op first right)).Bounds more (.expr e) rest) :
    (Phrase.binaryRest level first).Bounds (.symbol s :: ts) (.expr e) rest := by
  intro hbound credit _ hcredit
  have hleft := hcredit s op ⟨ts, rfl⟩ hop
  have hright := hright (Nat.succ_le_succ op.precedence_bounds.2)
  have htokens : parens ((Expr.binary op first right).tokensAt (.operator op.precedence)) =
      parens (first.tokensAt (.operator op.precedence)) +
        parens (right.tokensAt (.operator (op.precedence + 1))) := parens_tokensAt_level _
  -- The operators that follow bind no tighter, so the whole needs no parentheses in their places.
  have hplace : ∀ precedence ≤ op.precedence,
      parens ((Expr.binary op first right).tokensAt (.operator precedence)) ≤
        credit + parens (right.tokensAt (.operator (op.precedence + 1))) := by
    intro precedence hprecedence
    have hlower : parens ((Expr.binary op first right).tokensAt (.operator precedence)) ≤
        parens ((Expr.binary op first right).tokensAt (.operator op.precedence)) :=
      parens_tokensAt_mono _ (Nat.succ_le_succ hprecedence)
    omega
  have hfound := hrest hbound _ (hplace level hlevel) fun t other ht hother =>
    hplace other.precedence (Nat.le_of_lt_succ (h.precedence_lt rfl ht hother))
  have hsymbol : parens (.symbol s :: ts) = parens ts := by
    simp [isParen_of_ofSymbol? hop]
  omega

lemma bounds_binary {level : Nat} {first e : Expr}
    (h : Phrase.unary.Bounds ts (.expr first) more)
    (hrest : (Phrase.binaryRest level first).Bounds more (.expr e) rest) :
    (Phrase.binary level).Bounds ts (.expr e) rest := by
  intro hlevel
  have hfirst : parens (first.tokensAt .sign) + parens more ≤ parens ts := h
  have hplace : ∀ precedence ≤ 7,
      parens (first.tokensAt (.operator precedence)) ≤ parens (first.tokensAt .sign) :=
    fun precedence hprecedence => parens_tokensAt_mono first
      (show precedence + 1 ≤ 9 by omega)
  have hfound := hrest hlevel (parens (first.tokensAt .sign)) (hplace level hlevel)
    fun s op _ _ => hplace op.precedence (Nat.le_succ_of_le op.precedence_bounds.2)
  omega

lemma bounds_leaf {e : Expr} (h : parens (e.tokensAt .step) = 0) (t : Token) :
    Phrase.primary.Bounds (t :: rest) (.expr e) rest := by
  show parens (e.tokensAt .step) + parens rest ≤ parens (t :: rest)
  rw [h, parens_cons]
  omega

/-- A call has a parenthesis in front of its arguments. -/
lemma bounds_call {args : List Expr} {e : Expr} (front : List Token)
    (htokens : parens (e.tokensAt .step) = parens (separated (rows args)) + 1)
    (h : Phrase.arguments.Bounds ts (.exprs args) rest) :
    Phrase.primary.Bounds (front ++ .symbol .openParen :: ts) (.expr e) rest := by
  have hargs : parens (separated (rows args)) + parens rest ≤ parens ts := h
  have hparen : parens (.symbol .openParen :: ts) = parens ts + 1 := parens_cons _ _
  show parens (e.tokensAt .step) + parens rest ≤ parens (front ++ .symbol .openParen :: ts)
  rw [parens_append]
  omega

end Bounds

/-- Along the grammar, no tokens are read that have fewer parentheses than what is written. -/
lemma Reads.bounds {p : Phrase} {ts rest : List Token} {found : Found}
    (h : Reads p ts found rest) : p.Bounds ts found rest := by
  -- A token that is no parenthesis does not count, so that what an induction hypothesis says of
  -- the tokens behind it can be taken as it stands.
  induction h with
  | @alone ts rest e h hstop ih =>
    have hplace := parens_tokens_le e .ternary
    exact Nat.le_trans (Nat.add_le_add_right hplace _) ih
  | @coalesce ts more rest e other h hother ih ihOther =>
    have htokens : parens ((Expr.coalesce e other).tokensAt .coalesce) =
        parens (e.tokensAt .ternary) + parens other.tokens := parens_tokensAt_level _
    have hleft : parens (e.tokensAt .ternary) + parens more ≤ parens ts := ih
    have hright : parens other.tokens + parens rest ≤ parens more := ihOther
    rw [tokensAt_coalesce] at htokens
    show parens (Expr.coalesce e other).tokens + parens rest ≤ parens ts
    omega
  | @condition ts rest e h hstop ih =>
    have hplace : parens (e.tokensAt .ternary) ≤ parens (e.tokensAt (.operator 1)) :=
      parens_tokensAt_mono e (by decide)
    exact Nat.le_trans (Nat.add_le_add_right hplace _) (ih (by decide))
  | @ternary ts behindCondition behindYes rest condition yes no h hyes hno ih ihYes ihNo =>
    have htokens : parens ((Expr.ternary condition yes no).tokensAt .ternary) =
        parens (condition.tokensAt (.operator 1)) + parens yes.tokens +
          parens (no.tokensAt .ternary) := parens_tokensAt_level _
    have hcondition : parens (condition.tokensAt (.operator 1)) + parens behindCondition ≤
        parens ts := ih (by decide)
    have hyes : parens yes.tokens + parens behindYes ≤ parens behindCondition := ihYes
    have hno : parens (no.tokensAt .ternary) + parens rest ≤ parens behindYes := ihNo
    show parens ((Expr.ternary condition yes no).tokensAt .ternary) + parens rest ≤ parens ts
    omega
  | binary h hrest ih ihRest => exact bounds_binary ih ihRest
  | noOperator hstop => exact fun _ _ hcredit _ => Nat.add_le_add_right hcredit _
  | operator hop hlevel h hrest ih ihRest => exact bounds_operator hop hlevel h ih ihRest
  | @not ts rest e h ih =>
    have htokens : parens ((Expr.unary .not e).tokensAt .sign) = parens (e.tokensAt .sign) :=
      parens_tokensAt_level _
    exact Nat.le_trans (Nat.add_le_add_right (Nat.le_of_eq htokens) _) ih
  | @negate ts rest e h ih =>
    have htokens : parens ((Expr.unary .negate e).tokensAt .sign) = parens (e.tokensAt .sign) :=
      parens_tokensAt_level _
    exact Nat.le_trans (Nat.add_le_add_right (Nat.le_of_eq htokens) _) ih
  | @unsigned ts rest e hnot hminus h ih =>
    have hplace : parens (e.tokensAt .sign) ≤ parens (e.tokensAt .step) :=
      parens_tokensAt_mono e (by decide)
    exact Nat.le_trans (Nat.add_le_add_right hplace _) ih
  | @steps ts more rest first e h hrest ih ihRest =>
    have hfirst : parens (first.tokensAt .step) + parens more ≤ parens ts := ih
    exact Nat.le_trans ihRest hfirst
  | noStep hbracket harrow => exact Nat.le_refl _
  | @index ts more rest first position e h hrest ih ihRest =>
    have htokens : parens ((Expr.index first position).tokensAt .step) =
        parens (first.tokensAt .step) + parens position.tokens := parens_tokensAt_level _
    have hposition : parens position.tokens + parens more ≤ parens ts := ih
    have hfound : parens (e.tokensAt .step) + parens rest ≤
        parens ((Expr.index first position).tokensAt .step) + parens more := ihRest
    show parens (e.tokensAt .step) + parens rest ≤ parens (first.tokensAt .step) + parens ts
    omega
  | @property name ts rest first e hstop hrest ihRest =>
    have htokens : parens ((Expr.property first name).tokensAt .step) =
        parens (first.tokensAt .step) := parens_tokensAt_level _
    have hfound : parens (e.tokensAt .step) + parens rest ≤
        parens ((Expr.property first name).tokensAt .step) + parens ts := ihRest
    rwa [htokens] at hfound
  | @method name ts more rest first args e h hrest ih ihRest =>
    have htokens : parens ((Expr.method first name args).tokensAt .step) =
        parens (first.tokensAt .step) + parens (separated (rows args)) + 1 :=
      parens_tokensAt_level _
    have hargs : parens (separated (rows args)) + parens more ≤ parens ts := ih
    have hfound : parens (e.tokensAt .step) + parens rest ≤
        parens ((Expr.method first name args).tokensAt .step) + parens more := ihRest
    have hparen : parens (.symbol .openParen :: ts) = parens ts + 1 := parens_cons _ _
    show parens (e.tokensAt .step) + parens rest ≤
      parens (first.tokensAt .step) + parens (.symbol .openParen :: ts)
    omega
  | @var name rest => exact bounds_leaf (parens_tokensAt_level (.var name)) _
  | integer => exact bounds_leaf (parens_tokensAt_level (.literal _)) _
  | float => exact bounds_leaf (parens_tokensAt_level (.literal _)) _
  | text => exact bounds_leaf (parens_tokensAt_level (.literal _)) _
  | @group ts rest e h ih =>
    have hplace := parens_tokensAt_le e .step
    have hinner : parens e.tokens + parens rest ≤ parens ts := ih
    have hparen : parens (.symbol .openParen :: ts) = parens ts + 1 := parens_cons _ _
    show parens (e.tokensAt .step) + parens rest ≤ parens (.symbol .openParen :: ts)
    omega
  | @array ts rest items h ih =>
    have htokens : parens ((Expr.array items).tokensAt .step) =
        parens (separated (entryRows items)) := parens_tokensAt_level _
    exact Nat.le_trans (Nat.add_le_add_right (Nat.le_of_eq htokens) _) ih
  | literal h => exact bounds_leaf (parens_tokensAt_level (.literal _)) _
  | @viewCall function ts rest args h ih =>
    exact bounds_call [.word viewCallWord] (parens_tokensAt_level _) ih
  | @viewCallAlone function rest =>
    exact bounds_call [.word viewCallWord] (parens_tokensAt_level (.viewCall function []))
      (Nat.le_of_eq (Nat.zero_add _))
  | @staticCall name member ts rest args hliteral hname h ih =>
    exact bounds_call [.word name, .symbol .doubleColon, .word member] (parens_tokensAt_level _) ih
  | @call name ts rest args hliteral hname h ih =>
    exact bounds_call [.word name] (parens_tokensAt_level _) ih
  | noArguments => exact Nat.le_of_eq (Nat.zero_add _)
  | someArguments hstop h ih => exact ih
  | lastArgument h ih => exact ih
  | @argument ts more rest e args h hrest ih ihRest =>
    have hrows := parens_separated_cons e.tokens (rows args)
    have hfirst : parens e.tokens + parens more ≤ parens ts := ih
    have hothers : parens (separated (rows args)) + parens rest ≤ parens more := ihRest
    show parens (separated (e.tokens :: rows args)) + parens rest ≤ parens ts
    omega
  | noEntries => exact Nat.le_of_eq (Nat.zero_add _)
  | @lastEntry ts rest key value hstop h ih =>
    have hentry : parens (entryTokens key value) + parens rest ≤ parens ts := ih
    show parens (separated (entryRows [(key, value)])) + parens rest ≤ parens ts
    rwa [entryRows_cons]
  | @someEntries ts more rest key value items hstop h hrest ih ihRest =>
    have hrows := parens_separated_cons (entryTokens key value) (entryRows items)
    have hentry : parens (entryTokens key value) + parens more ≤ parens ts := ih
    have hothers : parens (separated (entryRows items)) + parens rest ≤ parens more := ihRest
    show parens (separated (entryRows ((key, value) :: items))) + parens rest ≤ parens ts
    rw [entryRows_cons]
    omega
  | item h hstop ih => exact ih
  | @pair ts more rest key value h hvalue ih ihValue =>
    have hkey : parens key.tokens + parens more ≤ parens ts := ih
    have hvalue : parens value.tokens + parens rest ≤ parens more := ihValue
    have hentry : parens (entryTokens (some key) value) = parens key.tokens + parens value.tokens :=
      parens_append _ _
    show parens (entryTokens (some key) value) + parens rest ≤ parens ts
    omega

/-! ## Reading what is written -/

/-- **Reading undoes writing.**  An expression that can be written is read from its tokens,
wherever they stand in a source, and none of them are left.  No row of tokens that is read as the
expression has fewer parentheses, so those that are written are needed. -/
theorem expression_tokens {e : Expr} (h : e.isWritable = true) (sourceEnd : Nat) :
    (∀ row, tokensOf row = e.tokens → expression sourceEnd (enoughFuel row) row = .ok (e, [])) ∧
    ∀ row, expression sourceEnd (enoughFuel row) row = .ok (e, []) →
      parens e.tokens ≤ parens (tokensOf row) := by
  constructor
  · intro row hrow
    have hreads := (Expr.readsAt_level h).expression [] .nil
    rw [List.append_nil, ← hrow] at hreads
    obtain ⟨last, hgives, hlast⟩ := hreads.gives (enoughFuel row) row rfl
      (by simp [Phrase.rank, enoughFuel, tokensOf])
    obtain rfl := List.map_eq_nil_iff.1 hlast
    exact hgives
  · intro row hrow
    exact (reads_of_expression hrow).bounds

/-- An expression that needs parentheses at every level below the steps. -/
def nestedExpr : Expr :=
  .coalesce (.coalesce (.var "a") (.var "b"))
    (.ternary
      (.binary .or (.var "a")
        (.unary .not (.binary .subtract (.var "b") (.binary .subtract (.var "c") (.var "d")))))
      (.coalesce (.call "A::f" [.array [(some (.literal (.text "k")), .literal .null)]])
        (.literal (.bool true)))
      (.index (.unary .negate (.method (.var "o") "m" [.viewCall "v" []]))
        (.literal (.number (.float 0.5)))))

/-- `($a ?? $b) ?? $a || !($b - ($c - $d)) ? A::f(["k" => null]) ?? true :
(-$o->m(__view_fn("v")))[0.5]`, all of it at the start of a source. -/
def nestedRow : List Lexeme :=
  [.symbol .openParen, .var "a", .symbol .coalesce, .var "b", .symbol .closeParen,
    .symbol .coalesce, .var "a", .symbol .or, .symbol .not,
    .symbol .openParen, .var "b", .symbol .minus, .symbol .openParen, .var "c", .symbol .minus,
    .var "d", .symbol .closeParen, .symbol .closeParen,
    .symbol .question, .word "A", .symbol .doubleColon, .word "f", .symbol .openParen,
    .symbol .openBracket, .text "k", .symbol .fatArrow, .word "null", .symbol .closeBracket,
    .symbol .closeParen, .symbol .coalesce, .word "true", .symbol .colon,
    .symbol .openParen, .symbol .minus, .var "o", .symbol .arrow, .word "m", .symbol .openParen,
    .word "__view_fn", .symbol .openParen, .text "v", .symbol .closeParen, .symbol .closeParen,
    .symbol .closeParen, .symbol .openBracket, .float 0.5, .symbol .closeBracket].map (⟨·, 0, 0⟩)

theorem expression_tokens_nested :
    nestedExpr.isWritable = true ∧ tokensOf nestedRow = nestedExpr.tokens ∧
      expression 0 (enoughFuel nestedRow) nestedRow = .ok (nestedExpr, []) := by
  have hwritable : nestedExpr.isWritable = true := by decide +kernel
  have hrow : tokensOf nestedRow = nestedExpr.tokens := rfl
  exact ⟨hwritable, hrow, (expression_tokens hwritable 0).1 nestedRow hrow⟩

end ViewTemplate.Script
