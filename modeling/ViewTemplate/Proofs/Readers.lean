import Mathlib.Tactic.Common
import ViewTemplate.Proofs.Grammar

/-!
# The readers follow the grammar

`Phrase.Gives` says that the reader of a phrase gives an answer with some fuel.  Two theorems tie it
to the grammar: what a reader gives, the grammar derives (`followsGrammar`), and what the grammar
derives, the reader gives with ten units of fuel for each token and a few more (`Reads.gives`).
So the fuel that whole sources are read with never runs out, and `parseExpression_eq_ok_iff` and
`parseStatements_eq_ok_iff` say which expressions and statements are accepted without mentioning
fuel or positions.
-/

namespace ViewTemplate.Script

variable {sourceEnd fuel : Nat}

def tokensOf (left : List Lexeme) : List Token :=
  left.map (·.token)

@[simp] lemma tokensOf_nil : tokensOf [] = [] := rfl

@[simp] lemma tokensOf_cons (l : Lexeme) (left : List Lexeme) :
    tokensOf (l :: left) = l.token :: tokensOf left := rfl

/-! ## What stands at the front -/

lemma tokensOf_eq_cons {left : List Lexeme} {t : Token} {ts : List Token}
    (h : tokensOf left = t :: ts) : ∃ l rest, left = l :: rest ∧ l.token = t ∧ tokensOf rest = ts :=
  List.map_eq_cons_iff.1 h

lemma eat?_eq_some_iff {s : Symbol} {left rest : List Lexeme} :
    eat? s left = some rest ↔ ∃ l, left = l :: rest ∧ l.token = .symbol s := by
  unfold eat?
  split
  · rename_i t start stop more
    by_cases ht : t = s
    · simp only [ht, if_true, Option.some.injEq, List.cons.injEq]
      exact ⟨fun h => ⟨_, ⟨rfl, h⟩, rfl⟩, fun ⟨_, h, _⟩ => h.2⟩
    · simp only [if_neg ht, reduceCtorEq, List.cons.injEq, false_iff, not_exists, not_and]
      rintro l ⟨rfl, -⟩ hl
      exact ht (Token.symbol.inj hl)
  · rename_i hleft
    simp only [reduceCtorEq, false_iff, not_exists, not_and]
    rintro ⟨t, start, stop⟩ rfl ht
    exact hleft s start stop rest (by rw [← ht])

lemma tokensOf_of_eat? {s : Symbol} {left rest : List Lexeme} (h : eat? s left = some rest) :
    tokensOf left = .symbol s :: tokensOf rest := by
  obtain ⟨l, rfl, hl⟩ := eat?_eq_some_iff.1 h
  rw [tokensOf_cons, hl]

lemma eat?_of_tokensOf {s : Symbol} {left : List Lexeme} {ts : List Token}
    (h : tokensOf left = .symbol s :: ts) :
    ∃ rest, eat? s left = some rest ∧ tokensOf rest = ts := by
  obtain ⟨l, rest, rfl, hl, hrest⟩ := tokensOf_eq_cons h
  exact ⟨rest, eat?_eq_some_iff.2 ⟨l, rfl, hl⟩, hrest⟩

lemma eat?_eq_none_iff {s : Symbol} {left : List Lexeme} :
    eat? s left = none ↔ ¬Starts s (tokensOf left) := by
  rw [Option.eq_none_iff_forall_ne_some]
  constructor
  · rintro h ⟨ts, hts⟩
    obtain ⟨rest, hrest, -⟩ := eat?_of_tokensOf hts
    exact h rest hrest
  · intro h rest hrest
    exact h ⟨tokensOf rest, tokensOf_of_eat? hrest⟩

lemma expect_eq_ok_iff {s : Symbol} {what : Expectation} {left rest : List Lexeme} :
    expect sourceEnd s what left = .ok rest ↔ eat? s left = some rest := by
  unfold expect
  split
  · rename_i found hfound
    simp [hfound]
  · rename_i hnone
    simp [hnone, faultAt]

lemma expectWord_eq_ok_iff {what : Expectation} {left rest : List Lexeme} {name : String} :
    expectWord sourceEnd what left = .ok (name, rest) ↔
      ∃ l, left = l :: rest ∧ l.token = .word name := by
  unfold expectWord
  split
  · rename_i word start stop more
    simp only [Except.ok.injEq, Prod.mk.injEq, List.cons.injEq]
    constructor
    · rintro ⟨rfl, rfl⟩
      exact ⟨_, ⟨rfl, rfl⟩, rfl⟩
    · rintro ⟨l, ⟨rfl, rfl⟩, hl⟩
      exact ⟨Token.word.inj hl, rfl⟩
  · rename_i hleft
    simp only [faultAt, reduceCtorEq, false_iff, not_exists, not_and]
    rintro ⟨t, start, stop⟩ rfl ht
    exact hleft name start stop rest (by rw [← ht])

lemma expectText_eq_ok_iff {what : Expectation} {left rest : List Lexeme} {s : String} :
    expectText sourceEnd what left = .ok (s, rest) ↔
      ∃ l, left = l :: rest ∧ l.token = .text s := by
  unfold expectText
  split
  · rename_i text start stop more
    simp only [Except.ok.injEq, Prod.mk.injEq, List.cons.injEq]
    constructor
    · rintro ⟨rfl, rfl⟩
      exact ⟨_, ⟨rfl, rfl⟩, rfl⟩
    · rintro ⟨l, ⟨rfl, rfl⟩, hl⟩
      exact ⟨Token.text.inj hl, rfl⟩
  · rename_i hleft
    simp only [faultAt, reduceCtorEq, false_iff, not_exists, not_and]
    rintro ⟨t, start, stop⟩ rfl ht
    exact hleft s start stop rest (by rw [← ht])

lemma binaryOp?_eq_some_iff {left rest : List Lexeme} {op : BinaryOp} :
    binaryOp? left = some (op, rest) ↔
      ∃ l s, left = l :: rest ∧ l.token = .symbol s ∧ BinaryOp.ofSymbol? s = some op := by
  unfold binaryOp?
  split
  · rename_i s start stop more
    simp only [Option.map_eq_some_iff, Prod.mk.injEq, List.cons.injEq]
    constructor
    · rintro ⟨op, hop, rfl, rfl⟩
      exact ⟨_, s, ⟨rfl, rfl⟩, rfl, hop⟩
    · rintro ⟨l, t, ⟨rfl, rfl⟩, hl, hop⟩
      exact ⟨op, by rwa [Token.symbol.inj hl], rfl, rfl⟩
  · rename_i hleft
    simp only [reduceCtorEq, false_iff, not_exists, not_and]
    rintro ⟨t, start, stop⟩ s rfl ht
    exact absurd (by rw [← ht]) (hleft s start stop rest)

/-! ## The grammar derives what a reader gives -/

/-- A step that follows another succeeds when both do. -/
lemma bind_eq_ok_iff {ε α β : Type} {x : Except ε α} {f : α → Except ε β} {b : β} :
    (x >>= f) = .ok b ↔ ∃ a, x = .ok a ∧ f a = .ok b := by
  cases x with
  | error e => exact ⟨fun h => (nomatch h), fun ⟨_, h, _⟩ => (nomatch h)⟩
  | ok a => exact ⟨fun h => ⟨a, rfl, h⟩, fun ⟨_, ha, h⟩ => by rwa [Except.ok.inj ha]⟩

/-- The reader of a phrase gives an answer. -/
def Phrase.Gives (sourceEnd fuel : Nat) : Phrase → List Lexeme → Found → List Lexeme → Prop
  | .expression, left, .expr e, rest => Script.expression sourceEnd fuel left = .ok (e, rest)
  | .conditional, left, .expr e, rest => Script.conditional sourceEnd fuel left = .ok (e, rest)
  | .binary level, left, .expr e, rest =>
    Script.binary sourceEnd fuel level left = .ok (e, rest)
  | .binaryRest level first, left, .expr e, rest =>
    Script.binaryRest sourceEnd fuel level first left = .ok (e, rest)
  | .unary, left, .expr e, rest => Script.unary sourceEnd fuel left = .ok (e, rest)
  | .steps, left, .expr e, rest => Script.steps sourceEnd fuel left = .ok (e, rest)
  | .stepsRest first, left, .expr e, rest =>
    Script.stepsRest sourceEnd fuel first left = .ok (e, rest)
  | .primary, left, .expr e, rest => Script.primary sourceEnd fuel left = .ok (e, rest)
  | .arguments, left, .exprs es, rest => Script.arguments sourceEnd fuel left = .ok (es, rest)
  | .argumentsRest, left, .exprs es, rest =>
    Script.argumentsRest sourceEnd fuel left = .ok (es, rest)
  | .entries, left, .entries es, rest => Script.entries sourceEnd fuel left = .ok (es, rest)
  | .entry, left, .entry key value, rest =>
    Script.entry sourceEnd fuel left = .ok ((key, value), rest)
  | _, _, _, _ => False

/-- With some fuel, whatever a reader gives is derived. -/
def FollowsGrammar (sourceEnd fuel : Nat) : Prop :=
  ∀ p left found rest, Phrase.Gives sourceEnd fuel p left found rest →
    Reads p (tokensOf left) found (tokensOf rest)

section Steps

variable {left rest : List Lexeme} {e : Expr}

lemma reads_expression (ih : FollowsGrammar sourceEnd fuel)
    (h : expression sourceEnd (fuel + 1) left = .ok (e, rest)) :
    Reads .expression (tokensOf left) (.expr e) (tokensOf rest) := by
  rw [expression] at h
  obtain ⟨⟨first, more⟩, hfirst, h⟩ := bind_eq_ok_iff.1 h
  have hreads := ih .conditional left (.expr first) more hfirst
  dsimp only at h
  split at h
  · rename_i hnone
    obtain ⟨rfl, rfl⟩ := Prod.mk.inj (Except.ok.inj h)
    exact .alone hreads (eat?_eq_none_iff.1 hnone)
  · rename_i behind hsome
    obtain ⟨⟨other, last⟩, hother, h⟩ := bind_eq_ok_iff.1 h
    obtain ⟨rfl, rfl⟩ := Prod.mk.inj (Except.ok.inj h)
    rw [tokensOf_of_eat? hsome] at hreads
    exact .coalesce hreads (ih .expression _ (.expr _) _ hother)

lemma reads_conditional (ih : FollowsGrammar sourceEnd fuel)
    (h : conditional sourceEnd (fuel + 1) left = .ok (e, rest)) :
    Reads .conditional (tokensOf left) (.expr e) (tokensOf rest) := by
  rw [conditional] at h
  obtain ⟨⟨condition, more⟩, hcondition, h⟩ := bind_eq_ok_iff.1 h
  have hreads := ih (.binary 1) left (.expr condition) more hcondition
  dsimp only at h
  split at h
  · rename_i hnone
    obtain ⟨rfl, rfl⟩ := Prod.mk.inj (Except.ok.inj h)
    exact .condition hreads (eat?_eq_none_iff.1 hnone)
  · rename_i behind hsome
    obtain ⟨⟨yes, behindYes⟩, hyes, h⟩ := bind_eq_ok_iff.1 h
    obtain ⟨behindColon, hcolon, h⟩ := bind_eq_ok_iff.1 h
    obtain ⟨⟨no, last⟩, hno, h⟩ := bind_eq_ok_iff.1 h
    obtain ⟨rfl, rfl⟩ := Prod.mk.inj (Except.ok.inj h)
    rw [tokensOf_of_eat? hsome] at hreads
    have hyes := ih .expression _ (.expr _) _ hyes
    rw [tokensOf_of_eat? (expect_eq_ok_iff.1 hcolon)] at hyes
    exact .ternary hreads hyes (ih .conditional _ (.expr _) _ hno)

lemma reads_binary (ih : FollowsGrammar sourceEnd fuel) {level : Nat}
    (h : binary sourceEnd (fuel + 1) level left = .ok (e, rest)) :
    Reads (.binary level) (tokensOf left) (.expr e) (tokensOf rest) := by
  rw [binary] at h
  obtain ⟨⟨first, more⟩, hfirst, h⟩ := bind_eq_ok_iff.1 h
  exact .binary (ih .unary _ (.expr first) more hfirst)
    (ih (.binaryRest level first) _ (.expr e) _ h)

lemma reads_binaryRest (ih : FollowsGrammar sourceEnd fuel) {level : Nat} {first : Expr}
    (h : binaryRest sourceEnd (fuel + 1) level first left = .ok (e, rest)) :
    Reads (.binaryRest level first) (tokensOf left) (.expr e) (tokensOf rest) := by
  rw [binaryRest] at h
  split at h
  · -- no operator follows at all
    rename_i hnone
    obtain ⟨rfl, rfl⟩ := Prod.mk.inj (Except.ok.inj h)
    refine .noOperator fun s op ⟨ts, hs⟩ hop => ?_
    obtain ⟨l, more, rfl, hl, -⟩ := tokensOf_eq_cons hs
    have hsome : binaryOp? (l :: more) = some (op, more) :=
      binaryOp?_eq_some_iff.2 ⟨l, s, rfl, hl, hop⟩
    simp [hnone] at hsome
  · rename_i op more hsome
    obtain ⟨l, s, rfl, hl, hop⟩ := binaryOp?_eq_some_iff.1 hsome
    split at h
    · -- one follows, but it binds too weakly for this level
      rename_i hlevel
      obtain ⟨rfl, rfl⟩ := Prod.mk.inj (Except.ok.inj h)
      refine .noOperator fun t other ht hother => ?_
      rw [tokensOf_cons, starts_cons, hl, Token.symbol.injEq] at ht
      rw [← ht, hop, Option.some.injEq] at hother
      rwa [← hother]
    · rename_i hlevel
      -- its right operand is read one level up, so operators of one level group to the left
      obtain ⟨⟨right, behind⟩, hright, h⟩ := bind_eq_ok_iff.1 h
      rw [tokensOf_cons, hl]
      exact .operator hop (Nat.le_of_not_lt hlevel)
        (ih (.binary (op.precedence + 1)) _ (.expr right) _ hright)
        (ih (.binaryRest level (.binary op first right)) _ (.expr e) _ h)

lemma reads_unary (ih : FollowsGrammar sourceEnd fuel)
    (h : unary sourceEnd (fuel + 1) left = .ok (e, rest)) :
    Reads .unary (tokensOf left) (.expr e) (tokensOf rest) := by
  rw [unary] at h
  split at h
  · rename_i behind hsome
    obtain ⟨⟨operand, last⟩, hoperand, h⟩ := bind_eq_ok_iff.1 h
    obtain ⟨rfl, rfl⟩ := Prod.mk.inj (Except.ok.inj h)
    rw [tokensOf_of_eat? hsome]
    exact .not (ih .unary _ (.expr _) _ hoperand)
  · rename_i hnot
    split at h
    · rename_i behind hsome
      obtain ⟨⟨operand, last⟩, hoperand, h⟩ := bind_eq_ok_iff.1 h
      obtain ⟨rfl, rfl⟩ := Prod.mk.inj (Except.ok.inj h)
      rw [tokensOf_of_eat? hsome]
      exact .negate (ih .unary _ (.expr _) _ hoperand)
    · rename_i hminus
      exact .unsigned (eat?_eq_none_iff.1 hnot) (eat?_eq_none_iff.1 hminus)
        (ih .steps _ (.expr e) _ h)

lemma reads_steps (ih : FollowsGrammar sourceEnd fuel)
    (h : steps sourceEnd (fuel + 1) left = .ok (e, rest)) :
    Reads .steps (tokensOf left) (.expr e) (tokensOf rest) := by
  rw [steps] at h
  obtain ⟨⟨first, more⟩, hfirst, h⟩ := bind_eq_ok_iff.1 h
  exact .steps (ih .primary _ (.expr first) more hfirst) (ih (.stepsRest first) _ (.expr e) _ h)

lemma reads_stepsRest (ih : FollowsGrammar sourceEnd fuel) {first : Expr}
    (h : stepsRest sourceEnd (fuel + 1) first left = .ok (e, rest)) :
    Reads (.stepsRest first) (tokensOf left) (.expr e) (tokensOf rest) := by
  rw [stepsRest] at h
  split at h
  · rename_i behind hsome
    obtain ⟨⟨position, more⟩, hposition, h⟩ := bind_eq_ok_iff.1 h
    obtain ⟨behindBracket, hbracket, h⟩ := bind_eq_ok_iff.1 h
    have hposition := ih .expression _ (.expr position) _ hposition
    rw [tokensOf_of_eat? (expect_eq_ok_iff.1 hbracket)] at hposition
    rw [tokensOf_of_eat? hsome]
    exact .index hposition (ih (.stepsRest (.index first position)) _ (.expr e) _ h)
  · rename_i hbracket
    split at h
    · rename_i harrow
      obtain ⟨rfl, rfl⟩ := Prod.mk.inj (Except.ok.inj h)
      exact .noStep (eat?_eq_none_iff.1 hbracket) (eat?_eq_none_iff.1 harrow)
    · rename_i behind hsome
      obtain ⟨⟨name, more⟩, hname, hmore⟩ := bind_eq_ok_iff.1 h
      obtain ⟨l, rfl, hl⟩ := expectWord_eq_ok_iff.1 hname
      rw [tokensOf_of_eat? hsome, tokensOf_cons, hl]
      dsimp only at hmore
      split at hmore
      · -- an arrow and a name: a property, or a method if a parenthesis follows
        rename_i hparen
        exact .property (eat?_eq_none_iff.1 hparen)
          (ih (.stepsRest (.property first name)) _ (.expr e) _ hmore)
      · rename_i behindParen hparen
        obtain ⟨⟨args, last⟩, hargs, hlast⟩ := bind_eq_ok_iff.1 hmore
        rw [tokensOf_of_eat? hparen]
        exact .method (ih .arguments _ (.exprs args) _ hargs)
          (ih (.stepsRest (.method first name args)) _ (.expr e) _ hlast)

/-- The reader of what a word starts takes its own unit of fuel. -/
lemma reads_named (ih : FollowsGrammar sourceEnd fuel) {name : String}
    (h : named sourceEnd (fuel + 1) name left = .ok (e, rest)) :
    Reads .primary (.word name :: tokensOf left) (.expr e) (tokensOf rest) := by
  rw [named] at h
  split at h
  · rename_i v hliteral
    obtain ⟨rfl, rfl⟩ := Prod.mk.inj (Except.ok.inj h)
    exact .literal hliteral
  · rename_i hliteral
    split at h
    · -- the word of the explicit form, whose first argument is the name of the function
      rename_i hname
      subst hname
      obtain ⟨behindParen, hparen, h⟩ := bind_eq_ok_iff.1 h
      obtain ⟨⟨function, more⟩, hfunction, hmore⟩ := bind_eq_ok_iff.1 h
      obtain ⟨l, rfl, hl⟩ := expectText_eq_ok_iff.1 hfunction
      rw [tokensOf_of_eat? (expect_eq_ok_iff.1 hparen), tokensOf_cons, hl]
      dsimp only at hmore
      split at hmore
      · rename_i behindComma hcomma
        obtain ⟨⟨args, last⟩, hargs, hlast⟩ := bind_eq_ok_iff.1 hmore
        obtain ⟨rfl, rfl⟩ := Prod.mk.inj (Except.ok.inj hlast)
        rw [tokensOf_of_eat? hcomma]
        exact .viewCall (ih .arguments _ (.exprs args) _ hargs)
      · obtain ⟨last, hclose, hlast⟩ := bind_eq_ok_iff.1 hmore
        obtain ⟨rfl, rfl⟩ := Prod.mk.inj (Except.ok.inj hlast)
        rw [tokensOf_of_eat? (expect_eq_ok_iff.1 hclose)]
        exact .viewCallAlone
    · rename_i hname
      split at h
      · -- a static call
        rename_i behindColon hcolon
        obtain ⟨⟨member, more⟩, hmember, h⟩ := bind_eq_ok_iff.1 h
        obtain ⟨behindParen, hparen, h⟩ := bind_eq_ok_iff.1 h
        obtain ⟨⟨args, last⟩, hargs, h⟩ := bind_eq_ok_iff.1 h
        obtain ⟨rfl, rfl⟩ := Prod.mk.inj (Except.ok.inj h)
        obtain ⟨l, rfl, hl⟩ := expectWord_eq_ok_iff.1 hmember
        rw [tokensOf_of_eat? hcolon, tokensOf_cons, hl,
          tokensOf_of_eat? (expect_eq_ok_iff.1 hparen)]
        exact .staticCall hliteral hname (ih .arguments _ (.exprs args) _ hargs)
      · split at h
        · rename_i behindParen hparen
          obtain ⟨⟨args, last⟩, hargs, h⟩ := bind_eq_ok_iff.1 h
          obtain ⟨rfl, rfl⟩ := Prod.mk.inj (Except.ok.inj h)
          rw [tokensOf_of_eat? hparen]
          exact .call hliteral hname (ih .arguments _ (.exprs args) _ hargs)
        · simp [faultAt] at h

lemma reads_primary (ih : FollowsGrammar sourceEnd fuel)
    (ihNamed : ∀ m, m + 1 = fuel → FollowsGrammar sourceEnd m)
    (h : primary sourceEnd (fuel + 1) left = .ok (e, rest)) :
    Reads .primary (tokensOf left) (.expr e) (tokensOf rest) := by
  cases left with
  | nil => simp [primary, faultAt] at h
  | cons l left =>
    obtain ⟨t, start, stop⟩ := l
    simp only [primary] at h
    rw [tokensOf_cons]
    split at h
    · obtain ⟨rfl, rfl⟩ := Prod.mk.inj (Except.ok.inj h)
      exact .var
    · obtain ⟨rfl, rfl⟩ := Prod.mk.inj (Except.ok.inj h)
      exact .integer
    · obtain ⟨rfl, rfl⟩ := Prod.mk.inj (Except.ok.inj h)
      exact .float
    · obtain ⟨rfl, rfl⟩ := Prod.mk.inj (Except.ok.inj h)
      exact .text
    · obtain ⟨⟨inner, more⟩, hinner, h⟩ := bind_eq_ok_iff.1 h
      obtain ⟨last, hclose, h⟩ := bind_eq_ok_iff.1 h
      obtain ⟨rfl, rfl⟩ := Prod.mk.inj (Except.ok.inj h)
      have hinner := ih .expression _ (.expr _) _ hinner
      rw [tokensOf_of_eat? (expect_eq_ok_iff.1 hclose)] at hinner
      exact .group hinner
    · obtain ⟨⟨items, last⟩, hitems, h⟩ := bind_eq_ok_iff.1 h
      obtain ⟨rfl, rfl⟩ := Prod.mk.inj (Except.ok.inj h)
      exact .array (ih .entries _ (.entries _) _ hitems)
    · simp [faultAt] at h
    · -- a word is handed on with one unit of fuel less
      cases fuel with
      | zero => simp [named, faultAt] at h
      | succ fuel => exact reads_named (ihNamed fuel rfl) h

lemma reads_arguments (ih : FollowsGrammar sourceEnd fuel) {args : List Expr}
    (h : arguments sourceEnd (fuel + 1) left = .ok (args, rest)) :
    Reads .arguments (tokensOf left) (.exprs args) (tokensOf rest) := by
  rw [arguments] at h
  split at h
  · rename_i behind hsome
    obtain ⟨rfl, rfl⟩ := Prod.mk.inj (Except.ok.inj h)
    rw [tokensOf_of_eat? hsome]
    exact .noArguments
  · rename_i hnone
    exact .someArguments (eat?_eq_none_iff.1 hnone) (ih .argumentsRest _ (.exprs args) _ h)

lemma reads_argumentsRest (ih : FollowsGrammar sourceEnd fuel) {args : List Expr}
    (h : argumentsRest sourceEnd (fuel + 1) left = .ok (args, rest)) :
    Reads .argumentsRest (tokensOf left) (.exprs args) (tokensOf rest) := by
  rw [argumentsRest] at h
  obtain ⟨⟨first, more⟩, hfirst, h⟩ := bind_eq_ok_iff.1 h
  have hfirst := ih .expression _ (.expr first) _ hfirst
  dsimp only at h
  split at h
  · rename_i behind hsome
    obtain ⟨rfl, rfl⟩ := Prod.mk.inj (Except.ok.inj h)
    rw [tokensOf_of_eat? hsome] at hfirst
    exact .lastArgument hfirst
  · obtain ⟨behind, hcomma, h⟩ := bind_eq_ok_iff.1 h
    obtain ⟨⟨others, last⟩, hothers, h⟩ := bind_eq_ok_iff.1 h
    obtain ⟨rfl, rfl⟩ := Prod.mk.inj (Except.ok.inj h)
    rw [tokensOf_of_eat? (expect_eq_ok_iff.1 hcomma)] at hfirst
    exact .argument hfirst (ih .argumentsRest _ (.exprs _) _ hothers)

lemma reads_entries (ih : FollowsGrammar sourceEnd fuel) {items : List (Option Expr × Expr)}
    (h : entries sourceEnd (fuel + 1) left = .ok (items, rest)) :
    Reads .entries (tokensOf left) (.entries items) (tokensOf rest) := by
  rw [entries] at h
  split at h
  · rename_i behind hsome
    obtain ⟨rfl, rfl⟩ := Prod.mk.inj (Except.ok.inj h)
    rw [tokensOf_of_eat? hsome]
    exact .noEntries
  · rename_i hnone
    obtain ⟨⟨⟨key, value⟩, more⟩, hentry, h⟩ := bind_eq_ok_iff.1 h
    have hentry := ih .entry _ (.entry key value) _ hentry
    dsimp only at h
    split at h
    · rename_i behind hcomma
      obtain ⟨⟨others, last⟩, hothers, h⟩ := bind_eq_ok_iff.1 h
      obtain ⟨rfl, rfl⟩ := Prod.mk.inj (Except.ok.inj h)
      rw [tokensOf_of_eat? hcomma] at hentry
      exact .someEntries (eat?_eq_none_iff.1 hnone) hentry (ih .entries _ (.entries _) _ hothers)
    · split at h
      · rename_i behind hclose
        obtain ⟨rfl, rfl⟩ := Prod.mk.inj (Except.ok.inj h)
        rw [tokensOf_of_eat? hclose] at hentry
        exact .lastEntry (eat?_eq_none_iff.1 hnone) hentry
      · simp [faultAt] at h

lemma reads_entry (ih : FollowsGrammar sourceEnd fuel) {key : Option Expr} {value : Expr}
    (h : entry sourceEnd (fuel + 1) left = .ok ((key, value), rest)) :
    Reads .entry (tokensOf left) (.entry key value) (tokensOf rest) := by
  rw [entry] at h
  obtain ⟨⟨first, more⟩, hfirst, h⟩ := bind_eq_ok_iff.1 h
  have hfirst := ih .expression _ (.expr first) _ hfirst
  dsimp only at h
  split at h
  · rename_i hnone
    obtain ⟨hentry, rfl⟩ := Prod.mk.inj (Except.ok.inj h)
    obtain ⟨rfl, rfl⟩ := Prod.mk.inj hentry
    exact .item hfirst (eat?_eq_none_iff.1 hnone)
  · rename_i behind hsome
    obtain ⟨⟨second, last⟩, hsecond, h⟩ := bind_eq_ok_iff.1 h
    obtain ⟨hentry, rfl⟩ := Prod.mk.inj (Except.ok.inj h)
    obtain ⟨rfl, rfl⟩ := Prod.mk.inj hentry
    rw [tokensOf_of_eat? hsome] at hfirst
    exact .pair hfirst (ih .expression _ (.expr _) _ hsecond)

end Steps

/-- Without fuel a reader gives nothing. -/
lemma not_gives_zero {p : Phrase} {left rest : List Lexeme} {found : Found} :
    ¬p.Gives sourceEnd 0 left found rest := by
  cases p <;> cases found <;>
    simp [Phrase.Gives, expression, conditional, binary, binaryRest, unary, steps, stepsRest,
      primary, arguments, argumentsRest, entries, entry, faultAt]

/-- The grammar derives what a reader gives. -/
theorem followsGrammar (sourceEnd fuel : Nat) : FollowsGrammar sourceEnd fuel := by
  induction fuel using Nat.strongRecOn with
  | ind fuel ih =>
    intro p left found rest h
    cases fuel with
    | zero => exact absurd h not_gives_zero
    | succ fuel =>
      have ih' := ih fuel (Nat.lt_succ_self fuel)
      cases p <;> cases found <;> try exact False.elim h
      case expression.expr => exact reads_expression ih' h
      case conditional.expr => exact reads_conditional ih' h
      case binary.expr => exact reads_binary ih' h
      case binaryRest.expr => exact reads_binaryRest ih' h
      case unary.expr => exact reads_unary ih' h
      case steps.expr => exact reads_steps ih' h
      case stepsRest.expr => exact reads_stepsRest ih' h
      case primary.expr => exact reads_primary ih' (fun m hm => ih m (by omega)) h
      case arguments.exprs => exact reads_arguments ih' h
      case argumentsRest.exprs => exact reads_argumentsRest ih' h
      case entries.entries => exact reads_entries ih' h
      case entry.entry => exact reads_entry ih' h

/-! ## A reader gives what the grammar derives -/

/-- How much fuel the reader of a phrase takes at most before it has read a token. -/
def Phrase.rank : Phrase → Nat
  | .arguments | .entries => 9
  | .argumentsRest | .entry => 8
  | .expression => 7
  | .conditional => 6
  | .binary _ => 5
  | .unary => 4
  | .steps => 3
  | .primary => 2
  | .binaryRest _ _ | .stepsRest _ => 1

@[simp] lemma ok_bind {ε α β : Type} (a : α) (f : α → Except ε β) :
    ((.ok a : Except ε α) >>= f) = f a := rfl

lemma literalWord?_viewCallWord : literalWord? viewCallWord = none := by decide

lemma expect_of_eat? {s : Symbol} {what : Expectation} {left rest : List Lexeme}
    (h : eat? s left = some rest) : expect sourceEnd s what left = .ok rest :=
  expect_eq_ok_iff.2 h

/-- A reader gives what the grammar derives. -/
theorem Reads.gives {p : Phrase} {ts rest : List Token} {found : Found}
    (h : Reads p ts found rest) (fuel : Nat) (left : List Lexeme) (hleft : tokensOf left = ts)
    (hfuel : 10 * ts.length + p.rank ≤ fuel) :
    ∃ last, p.Gives sourceEnd fuel left found last ∧ tokensOf last = rest := by
  -- Every rule costs one unit.  A rule that reads no token goes on with a phrase of lower rank, and
  -- one that reads a token has ten more units to go on with.
  induction h generalizing fuel left <;>
    (obtain _ | fuel := fuel; · simp [Phrase.rank] at hfuel) <;>
    simp only [Phrase.rank, List.length_cons, Phrase.Gives] at *
  case alone ts rest e h hstop ih =>
    obtain ⟨last, hgives, rfl⟩ := ih fuel left hleft (by omega)
    exact ⟨last, by simp only [expression, hgives, ok_bind, eat?_eq_none_iff.2 hstop], rfl⟩
  case coalesce ts more rest e other h hother ih ihOther =>
    have hlen : more.length + 1 ≤ ts.length := h.length_le
    obtain ⟨mid, hgives, hmid⟩ := ih fuel left hleft (by omega)
    obtain ⟨behind, heat, hbehind⟩ := eat?_of_tokensOf hmid
    obtain ⟨last, hlast, rfl⟩ := ihOther fuel behind hbehind (by omega)
    exact ⟨last, by simp only [expression, hgives, ok_bind, heat, hlast], rfl⟩
  case condition ts rest e h hstop ih =>
    obtain ⟨last, hgives, rfl⟩ := ih fuel left hleft (by omega)
    exact ⟨last, by simp only [conditional, hgives, ok_bind, eat?_eq_none_iff.2 hstop], rfl⟩
  case ternary ts behindCondition behindYes rest condition yes no h hyes hno ih ihYes ihNo =>
    have hlen : behindCondition.length + 1 ≤ ts.length := h.length_le
    have hlenYes : behindYes.length + 1 ≤ behindCondition.length := hyes.length_le
    obtain ⟨mid, hgives, hmid⟩ := ih fuel left hleft (by omega)
    obtain ⟨behind, heat, hbehind⟩ := eat?_of_tokensOf hmid
    obtain ⟨midYes, hgivesYes, hmidYes⟩ := ihYes fuel behind hbehind (by omega)
    obtain ⟨behindColon, hcolon, hbehindColon⟩ := eat?_of_tokensOf hmidYes
    obtain ⟨last, hlast, rfl⟩ := ihNo fuel behindColon hbehindColon (by omega)
    exact ⟨last, by simp only [conditional, hgives, ok_bind, heat, hgivesYes,
      expect_of_eat? hcolon, hlast], rfl⟩
  case binary level ts more rest first e h hrest ih ihRest =>
    have hlen := h.length_le
    obtain ⟨mid, hgives, rfl⟩ := ih fuel left hleft (by omega)
    obtain ⟨last, hlast, rfl⟩ := ihRest fuel mid rfl (by omega)
    exact ⟨last, by simp only [Script.binary, hgives, ok_bind, hlast], rfl⟩
  case noOperator level e rest hstop =>
    subst hleft
    refine ⟨left, ?_, rfl⟩
    rw [binaryRest]
    split
    · rfl
    · rename_i op more hop
      obtain ⟨l, s, rfl, hl, hs⟩ := binaryOp?_eq_some_iff.1 hop
      rw [if_pos (hstop s op (by rw [tokensOf_cons, hl, starts_cons]) hs)]
  case operator level s op ts more rest first right e hop hlevel h hrest ih ihRest =>
    have hlen := h.length_le
    obtain ⟨l, behind, rfl, hl, hbehind⟩ := tokensOf_eq_cons hleft
    have hoperator : binaryOp? (l :: behind) = some (op, behind) :=
      binaryOp?_eq_some_iff.2 ⟨l, s, rfl, hl, hop⟩
    obtain ⟨mid, hgives, rfl⟩ := ih fuel behind hbehind (by omega)
    obtain ⟨last, hlast, rfl⟩ := ihRest fuel mid rfl (by omega)
    exact ⟨last, by simp only [binaryRest, hoperator, if_neg (Nat.not_lt.2 hlevel), hgives, ok_bind,
      hlast], rfl⟩
  case not ts rest e h ih =>
    obtain ⟨behind, heat, hbehind⟩ := eat?_of_tokensOf hleft
    obtain ⟨last, hlast, rfl⟩ := ih fuel behind hbehind (by omega)
    exact ⟨last, by simp only [unary, heat, hlast, ok_bind], rfl⟩
  case negate ts rest e h ih =>
    obtain ⟨behind, heat, hbehind⟩ := eat?_of_tokensOf hleft
    obtain ⟨last, hlast, rfl⟩ := ih fuel behind hbehind (by omega)
    have hnot : eat? .not left = none := by simp [eat?_eq_none_iff, hleft]
    exact ⟨last, by simp only [unary, hnot, heat, hlast, ok_bind], rfl⟩
  case unsigned ts rest e hnot hminus h ih =>
    obtain ⟨last, hlast, rfl⟩ := ih fuel left hleft (by omega)
    subst hleft
    exact ⟨last, by simp only [unary, eat?_eq_none_iff.2 hnot, eat?_eq_none_iff.2 hminus, hlast],
      rfl⟩
  case steps ts more rest first e h hrest ih ihRest =>
    have hlen := h.length_le
    obtain ⟨mid, hgives, rfl⟩ := ih fuel left hleft (by omega)
    obtain ⟨last, hlast, rfl⟩ := ihRest fuel mid rfl (by omega)
    exact ⟨last, by simp only [Script.steps, hgives, ok_bind, hlast], rfl⟩
  case noStep e rest hbracket harrow =>
    subst hleft
    exact ⟨left, by simp only [stepsRest, eat?_eq_none_iff.2 hbracket, eat?_eq_none_iff.2 harrow],
      rfl⟩
  case index ts more rest first position e h hrest ih ihRest =>
    have hlen : more.length + 1 ≤ ts.length := h.length_le
    obtain ⟨behind, heat, hbehind⟩ := eat?_of_tokensOf hleft
    obtain ⟨mid, hgives, hmid⟩ := ih fuel behind hbehind (by omega)
    obtain ⟨behindBracket, hclose, rfl⟩ := eat?_of_tokensOf hmid
    obtain ⟨last, hlast, rfl⟩ := ihRest fuel behindBracket rfl (by omega)
    exact ⟨last, by simp only [stepsRest, heat, hgives, ok_bind, expect_of_eat? hclose, hlast], rfl⟩
  case property name ts rest first e hstop hrest ihRest =>
    obtain ⟨behind, heat, hbehind⟩ := eat?_of_tokensOf hleft
    obtain ⟨l, more, rfl, hl, rfl⟩ := tokensOf_eq_cons hbehind
    have hbracket : eat? .openBracket left = none := by simp [eat?_eq_none_iff, hleft]
    obtain ⟨last, hlast, rfl⟩ := ihRest fuel more rfl (by omega)
    exact ⟨last, by simp only [stepsRest, hbracket, heat, expectWord_eq_ok_iff.2 ⟨l, rfl, hl⟩,
      ok_bind, eat?_eq_none_iff.2 hstop, hlast], rfl⟩
  case method name ts more rest first args e h hrest ih ihRest =>
    have hlen := h.length_le
    obtain ⟨behind, heat, hbehind⟩ := eat?_of_tokensOf hleft
    obtain ⟨l, behindName, rfl, hl, hname⟩ := tokensOf_eq_cons hbehind
    obtain ⟨behindParen, hparen, hbehindParen⟩ := eat?_of_tokensOf hname
    have hbracket : eat? .openBracket left = none := by simp [eat?_eq_none_iff, hleft]
    obtain ⟨mid, hgives, rfl⟩ := ih fuel behindParen hbehindParen (by omega)
    obtain ⟨last, hlast, rfl⟩ := ihRest fuel mid rfl (by omega)
    exact ⟨last, by simp only [stepsRest, hbracket, heat, expectWord_eq_ok_iff.2 ⟨l, rfl, hl⟩,
      ok_bind, hparen, hgives, hlast], rfl⟩
  case var name rest =>
    obtain ⟨l, last, rfl, hl, rfl⟩ := tokensOf_eq_cons hleft
    exact ⟨last, by simp only [primary, hl], rfl⟩
  case integer n rest =>
    obtain ⟨l, last, rfl, hl, rfl⟩ := tokensOf_eq_cons hleft
    exact ⟨last, by simp only [primary, hl], rfl⟩
  case float x rest =>
    obtain ⟨l, last, rfl, hl, rfl⟩ := tokensOf_eq_cons hleft
    exact ⟨last, by simp only [primary, hl], rfl⟩
  case text s rest =>
    obtain ⟨l, last, rfl, hl, rfl⟩ := tokensOf_eq_cons hleft
    exact ⟨last, by simp only [primary, hl], rfl⟩
  case group ts rest e h ih =>
    obtain ⟨l, behind, rfl, hl, hbehind⟩ := tokensOf_eq_cons hleft
    obtain ⟨mid, hgives, hmid⟩ := ih fuel behind hbehind (by omega)
    obtain ⟨last, hclose, rfl⟩ := eat?_of_tokensOf hmid
    exact ⟨last, by simp only [primary, hl, hgives, ok_bind, expect_of_eat? hclose], rfl⟩
  case array ts rest items h ih =>
    obtain ⟨l, behind, rfl, hl, hbehind⟩ := tokensOf_eq_cons hleft
    obtain ⟨last, hgives, rfl⟩ := ih fuel behind hbehind (by omega)
    exact ⟨last, by simp only [primary, hl, hgives, ok_bind], rfl⟩
  case literal name v rest hliteral =>
    obtain ⟨l, last, rfl, hl, rfl⟩ := tokensOf_eq_cons hleft
    obtain ⟨fuel, rfl⟩ : ∃ m, fuel = m + 1 := ⟨fuel - 1, by omega⟩
    exact ⟨last, by simp only [primary, hl, named, hliteral], rfl⟩
  case viewCall function ts rest args h ih =>
    obtain ⟨l, behind, rfl, hl, hbehind⟩ := tokensOf_eq_cons hleft
    obtain ⟨behindParen, hparen, hbehindParen⟩ := eat?_of_tokensOf hbehind
    obtain ⟨name, behindName, rfl, hname, hbehindName⟩ := tokensOf_eq_cons hbehindParen
    obtain ⟨behindComma, hcomma, hbehindComma⟩ := eat?_of_tokensOf hbehindName
    obtain ⟨fuel, rfl⟩ : ∃ m, fuel = m + 1 := ⟨fuel - 1, by omega⟩
    obtain ⟨last, hgives, rfl⟩ := ih fuel behindComma hbehindComma (by omega)
    exact ⟨last, by simp only [primary, hl, named, literalWord?_viewCallWord, if_true, ok_bind,
      expect_of_eat? hparen, expectText_eq_ok_iff.2 ⟨name, rfl, hname⟩, hcomma, hgives], rfl⟩
  case viewCallAlone function rest =>
    obtain ⟨l, behind, rfl, hl, hbehind⟩ := tokensOf_eq_cons hleft
    obtain ⟨behindParen, hparen, hbehindParen⟩ := eat?_of_tokensOf hbehind
    obtain ⟨name, behindName, rfl, hname, hbehindName⟩ := tokensOf_eq_cons hbehindParen
    obtain ⟨last, hclose, rfl⟩ := eat?_of_tokensOf hbehindName
    have hcomma : eat? .comma behindName = none := by simp [eat?_eq_none_iff, hbehindName]
    obtain ⟨fuel, rfl⟩ : ∃ m, fuel = m + 1 := ⟨fuel - 1, by omega⟩
    exact ⟨last, by simp only [primary, hl, named, literalWord?_viewCallWord, if_true, ok_bind,
      expect_of_eat? hparen, expectText_eq_ok_iff.2 ⟨name, rfl, hname⟩, hcomma,
      expect_of_eat? hclose], rfl⟩
  case staticCall name member ts rest args hliteral hname h ih =>
    obtain ⟨l, behind, rfl, hl, hbehind⟩ := tokensOf_eq_cons hleft
    obtain ⟨behindColon, hcolon, hbehindColon⟩ := eat?_of_tokensOf hbehind
    obtain ⟨m, behindMember, rfl, hm, hbehindMember⟩ := tokensOf_eq_cons hbehindColon
    obtain ⟨behindParen, hparen, hbehindParen⟩ := eat?_of_tokensOf hbehindMember
    obtain ⟨fuel, rfl⟩ : ∃ m, fuel = m + 1 := ⟨fuel - 1, by omega⟩
    obtain ⟨last, hgives, rfl⟩ := ih fuel behindParen hbehindParen (by omega)
    exact ⟨last, by simp only [primary, hl, named, hliteral, if_neg hname, ok_bind, hcolon,
      expectWord_eq_ok_iff.2 ⟨m, rfl, hm⟩, expect_of_eat? hparen, hgives], rfl⟩
  case call name ts rest args hliteral hname h ih =>
    obtain ⟨l, behind, rfl, hl, hbehind⟩ := tokensOf_eq_cons hleft
    obtain ⟨behindParen, hparen, hbehindParen⟩ := eat?_of_tokensOf hbehind
    have hcolon : eat? .doubleColon behind = none := by simp [eat?_eq_none_iff, hbehind]
    obtain ⟨fuel, rfl⟩ : ∃ m, fuel = m + 1 := ⟨fuel - 1, by omega⟩
    obtain ⟨last, hgives, rfl⟩ := ih fuel behindParen hbehindParen (by omega)
    exact ⟨last, by simp only [primary, hl, named, hliteral, if_neg hname, ok_bind, hcolon, hparen,
      hgives], rfl⟩
  case noArguments rest =>
    obtain ⟨last, hclose, rfl⟩ := eat?_of_tokensOf hleft
    exact ⟨last, by simp only [arguments, hclose], rfl⟩
  case someArguments ts rest args hstop h ih =>
    obtain ⟨last, hgives, rfl⟩ := ih fuel left hleft (by omega)
    subst hleft
    exact ⟨last, by simp only [arguments, eat?_eq_none_iff.2 hstop, hgives], rfl⟩
  case lastArgument ts rest e h ih =>
    obtain ⟨mid, hgives, hmid⟩ := ih fuel left hleft (by omega)
    obtain ⟨last, hclose, rfl⟩ := eat?_of_tokensOf hmid
    exact ⟨last, by simp only [argumentsRest, hgives, ok_bind, hclose], rfl⟩
  case argument ts more rest e args h hrest ih ihRest =>
    have hlen : more.length + 1 ≤ ts.length := h.length_le
    obtain ⟨mid, hgives, hmid⟩ := ih fuel left hleft (by omega)
    obtain ⟨behind, hcomma, hbehind⟩ := eat?_of_tokensOf hmid
    have hclose : eat? .closeParen mid = none := by simp [eat?_eq_none_iff, hmid]
    obtain ⟨last, hlast, rfl⟩ := ihRest fuel behind hbehind (by omega)
    exact ⟨last, by simp only [argumentsRest, hgives, ok_bind, hclose, expect_of_eat? hcomma,
      hlast], rfl⟩
  case noEntries rest =>
    obtain ⟨last, hclose, rfl⟩ := eat?_of_tokensOf hleft
    exact ⟨last, by simp only [entries, hclose], rfl⟩
  case lastEntry ts rest key value hstop h ih =>
    obtain ⟨mid, hgives, hmid⟩ := ih fuel left hleft (by omega)
    obtain ⟨last, hclose, rfl⟩ := eat?_of_tokensOf hmid
    have hcomma : eat? .comma mid = none := by simp [eat?_eq_none_iff, hmid]
    subst hleft
    exact ⟨last, by simp only [entries, eat?_eq_none_iff.2 hstop, hgives, ok_bind, hcomma, hclose],
      rfl⟩
  case someEntries ts more rest key value items hstop h hrest ih ihRest =>
    have hlen : more.length + 1 ≤ ts.length := h.length_le
    obtain ⟨mid, hgives, hmid⟩ := ih fuel left hleft (by omega)
    obtain ⟨behind, hcomma, hbehind⟩ := eat?_of_tokensOf hmid
    obtain ⟨last, hlast, rfl⟩ := ihRest fuel behind hbehind (by omega)
    subst hleft
    exact ⟨last, by simp only [entries, eat?_eq_none_iff.2 hstop, hgives, ok_bind, hcomma, hlast],
      rfl⟩
  case item ts rest value h hstop ih =>
    obtain ⟨last, hgives, rfl⟩ := ih fuel left hleft (by omega)
    exact ⟨last, by simp only [entry, hgives, ok_bind, eat?_eq_none_iff.2 hstop], rfl⟩
  case pair ts more rest key value h hvalue ih ihValue =>
    have hlen : more.length + 1 ≤ ts.length := h.length_le
    obtain ⟨mid, hgives, hmid⟩ := ih fuel left hleft (by omega)
    obtain ⟨behind, harrow, hbehind⟩ := eat?_of_tokensOf hmid
    obtain ⟨last, hlast, rfl⟩ := ihValue fuel behind hbehind (by omega)
    exact ⟨last, by simp only [entry, hgives, ok_bind, harrow, hlast], rfl⟩

/-! ## Whole sources -/

/-- The tokens among pieces. -/
def tokensAmong (ps : List Piece) : List Token :=
  ps.filterMap Piece.token?

@[simp] lemma tokensAmong_nil : tokensAmong [] = [] := rfl

lemma tokensAmong_cons_token {p : Piece} {t : Token} (h : p.kind = .token t) (ps : List Piece) :
    tokensAmong (p :: ps) = t :: tokensAmong ps := by
  simp [tokensAmong, Piece.token?, h]

lemma tokensAmong_cons_blank {p : Piece} (h : p.kind = .blank) (ps : List Piece) :
    tokensAmong (p :: ps) = tokensAmong ps := by
  simp [tokensAmong, Piece.token?, h]

lemma tokensAmong_append (ps qs : List Piece) :
    tokensAmong (ps ++ qs) = tokensAmong ps ++ tokensAmong qs :=
  List.filterMap_append

def JunkFree (ps : List Piece) : Prop :=
  ∀ p ∈ ps, p.kind ≠ .junk

lemma junkFrom?_eq_none_iff {offset : Nat} {ps : List Piece} :
    junkFrom? offset ps = none ↔ JunkFree ps := by
  induction ps generalizing offset with
  | nil => simp [junkFrom?, JunkFree]
  | cons p ps ih =>
    rw [junkFrom?, JunkFree, List.forall_mem_cons]
    split
    · rename_i hkind
      simp [hkind]
    · rename_i hkind
      rw [ih]
      exact ⟨fun h => ⟨hkind, h⟩, And.right⟩

lemma tokensOf_lexemesFrom (offset : Nat) (ps : List Piece) :
    tokensOf (lexemesFrom offset ps) = tokensAmong ps := by
  induction ps generalizing offset with
  | nil => rfl
  | cons p ps ih =>
    obtain ⟨kind, text⟩ := p
    cases kind <;> simp [lexemesFrom, tokensAmong, List.filterMap_cons, Piece.token?, ih]

lemma lexemesOf_eq_ok_iff {source : List Char} {found : List Lexeme} {sourceEnd : Nat} :
    lexemesOf source = .ok (found, sourceEnd) ↔
      JunkFree (pieces source) ∧ found = lexemesFrom 0 (pieces source) ∧
        sourceEnd = byteSize source := by
  rw [← @junkFrom?_eq_none_iff 0]
  simp only [lexemesOf, strictLexemes]
  cases junkFrom? 0 (pieces source) with
  | none =>
    simp only [Except.ok.injEq, Prod.mk.injEq, true_and]
    exact ⟨fun ⟨h, h'⟩ => ⟨h.symm, h'.symm⟩, fun ⟨h, h'⟩ => ⟨h.symm, h'.symm⟩⟩
  | some offset => simp

lemma atEnd_eq_ok_iff {α : Type} {found : Read α} {a : α} :
    atEnd sourceEnd found = .ok a ↔ found = (a, []) := by
  obtain ⟨b, left⟩ := found
  cases left <;> simp [atEnd, faultAt]

/-- A source is read as an expression exactly when it has no junk and the grammar derives the
expression from its tokens, with none left. -/
theorem parseExpression_eq_ok_iff {source : List Char} {e : Expr} :
    parseExpression source = .ok e ↔
      JunkFree (pieces source) ∧
        Reads .expression (tokensAmong (pieces source)) (.expr e) [] := by
  unfold parseExpression
  constructor
  · intro h
    obtain ⟨⟨left, sourceEnd⟩, hleft, h⟩ := bind_eq_ok_iff.1 h
    obtain ⟨⟨e', rest⟩, hread, h⟩ := bind_eq_ok_iff.1 h
    obtain ⟨rfl, rfl⟩ := Prod.mk.inj (atEnd_eq_ok_iff.1 h)
    obtain ⟨hjunk, rfl, rfl⟩ := lexemesOf_eq_ok_iff.1 hleft
    refine ⟨hjunk, ?_⟩
    rw [← tokensOf_lexemesFrom 0]
    exact followsGrammar _ _ .expression _ (.expr _) [] hread
  · rintro ⟨hjunk, hreads⟩
    have hleft := lexemesOf_eq_ok_iff.2 ⟨hjunk, rfl, rfl⟩
    rw [← tokensOf_lexemesFrom 0] at hreads
    obtain ⟨last, hgives, hlast⟩ :=
      hreads.gives (enoughFuel (lexemesFrom 0 (pieces source))) _ rfl
        (by simp [Phrase.rank, enoughFuel, tokensOf])
    obtain rfl := List.map_eq_nil_iff.1 hlast
    simp only [hleft, ok_bind]
    rw [show expression (byteSize source) _ _ = .ok (e, []) from hgives, ok_bind]
    rfl

/-! ## Statements -/

/-- What the reader of expressions gives, the grammar derives. -/
lemma reads_of_expression {left rest : List Lexeme} {e : Expr}
    (h : expression sourceEnd fuel left = .ok (e, rest)) :
    Reads .expression (tokensOf left) (.expr e) (tokensOf rest) :=
  followsGrammar sourceEnd fuel .expression left (.expr e) rest h

lemma asPlace_eq_ok_iff {e target : Expr} :
    asPlace e = .ok target ↔ e.isPlace = true ∧ target = e := by
  unfold asPlace
  split
  · rename_i hplace
    simp only [hplace, Except.ok.injEq, true_and]
    exact eq_comm
  · rename_i hplace
    simp [hplace]

lemma readsRow_of_expressionList {left rest : List Lexeme} {es : List Expr}
    (h : expressionList sourceEnd fuel left = .ok (es, rest)) :
    ReadsRow (tokensOf left) es (tokensOf rest) := by
  induction fuel generalizing left es with
  | zero => simp [expressionList, faultAt] at h
  | succ fuel ih =>
    rw [expressionList] at h
    obtain ⟨⟨e, more⟩, he, h⟩ := bind_eq_ok_iff.1 h
    have hreads := reads_of_expression he
    dsimp only at h
    split at h
    · rename_i hnone
      obtain ⟨rfl, rfl⟩ := Prod.mk.inj (Except.ok.inj h)
      exact .last hreads (eat?_eq_none_iff.1 hnone)
    · rename_i behind hsome
      obtain ⟨⟨others, last⟩, hothers, h⟩ := bind_eq_ok_iff.1 h
      obtain ⟨rfl, rfl⟩ := Prod.mk.inj (Except.ok.inj h)
      rw [tokensOf_of_eat? hsome] at hreads
      exact .cons hreads (ih hothers)

/-- The statement that an expression at the front becomes. -/
lemma readsStatement_of_finishStatement {left mid rest : List Lexeme} {e : Expr} {s : Stmt}
    (hecho : (tokensOf left).head? ≠ some (.word "echo"))
    (he : Reads .expression (tokensOf left) (.expr e) (tokensOf mid))
    (h : finishStatement sourceEnd e mid = .ok (s, rest)) :
    ReadsStatement (tokensOf left) s (tokensOf rest) := by
  unfold finishStatement at h
  split at h
  · obtain ⟨target, htarget, h⟩ := bind_eq_ok_iff.1 h
    obtain ⟨rfl, rfl⟩ := Prod.mk.inj (Except.ok.inj h)
    obtain ⟨hplace, rfl⟩ := asPlace_eq_ok_iff.1 htarget
    exact .incrementLast hecho he hplace
  · obtain ⟨target, htarget, h⟩ := bind_eq_ok_iff.1 h
    obtain ⟨rfl, rfl⟩ := Prod.mk.inj (Except.ok.inj h)
    obtain ⟨hplace, rfl⟩ := asPlace_eq_ok_iff.1 htarget
    exact .decrementLast hecho he hplace
  · -- some other symbol follows, which may be one of the assignments
    rename_i symbol start stop more hincrement hdecrement
    split at h
    · rename_i hnone
      obtain ⟨rfl, rfl⟩ := Prod.mk.inj (Except.ok.inj h)
      refine .expr hecho he ?_ ?_ ?_ <;> simp_all
    · rename_i op hop
      obtain ⟨target, htarget, h⟩ := bind_eq_ok_iff.1 h
      obtain ⟨⟨value, last⟩, hvalue, h⟩ := bind_eq_ok_iff.1 h
      obtain ⟨rfl, rfl⟩ := Prod.mk.inj (Except.ok.inj h)
      obtain ⟨hplace, rfl⟩ := asPlace_eq_ok_iff.1 htarget
      exact .assign hecho he hop hplace (reads_of_expression hvalue)
  · rename_i hother
    obtain ⟨rfl, rfl⟩ := Prod.mk.inj (Except.ok.inj h)
    have hstarts : ∀ t, ¬Starts t (tokensOf mid) := by
      rintro t ⟨ts, hts⟩
      obtain ⟨⟨token, start, stop⟩, more, rfl, hl, -⟩ := tokensOf_eq_cons hts
      exact hother t start stop more (by rw [← hl])
    exact .expr hecho he (hstarts _) (hstarts _) fun t ht => absurd ht (hstarts t)

lemma readsStatement_of_statement {left rest : List Lexeme} {s : Stmt}
    (h : statement sourceEnd left = .ok (s, rest)) :
    ReadsStatement (tokensOf left) s (tokensOf rest) := by
  unfold statement at h
  split at h
  · obtain ⟨⟨values, last⟩, hvalues, h⟩ := bind_eq_ok_iff.1 h
    obtain ⟨rfl, rfl⟩ := Prod.mk.inj (Except.ok.inj h)
    exact .echo (readsRow_of_expressionList hvalues)
  · obtain ⟨⟨e, last⟩, he, h⟩ := bind_eq_ok_iff.1 h
    obtain ⟨target, htarget, h⟩ := bind_eq_ok_iff.1 h
    obtain ⟨rfl, rfl⟩ := Prod.mk.inj (Except.ok.inj h)
    obtain ⟨hplace, rfl⟩ := asPlace_eq_ok_iff.1 htarget
    exact .incrementFirst (followsGrammar _ _ .steps _ (.expr _) _ he) hplace
  · obtain ⟨⟨e, last⟩, he, h⟩ := bind_eq_ok_iff.1 h
    obtain ⟨target, htarget, h⟩ := bind_eq_ok_iff.1 h
    obtain ⟨rfl, rfl⟩ := Prod.mk.inj (Except.ok.inj h)
    obtain ⟨hplace, rfl⟩ := asPlace_eq_ok_iff.1 htarget
    exact .decrementFirst (followsGrammar _ _ .steps _ (.expr _) _ he) hplace
  · rename_i hecho hincrement hdecrement
    obtain ⟨⟨e, mid⟩, he, h⟩ := bind_eq_ok_iff.1 h
    refine readsStatement_of_finishStatement ?_ (reads_of_expression he) h
    obtain _ | ⟨⟨token, start, stop⟩, more⟩ := left
    · simp
    · rintro hhead
      obtain rfl := Option.some.inj hhead
      exact hecho start stop more rfl

lemma readsStatements_of_statements {left : List Lexeme} {ss : List Stmt}
    (h : statements sourceEnd fuel left = .ok ss) : ReadsStatements (tokensOf left) ss := by
  induction fuel generalizing left ss with
  | zero =>
    cases left with
    | nil =>
      rw [statements] at h
      obtain rfl := Except.ok.inj h
      exact .nil
    | cons l left => simp [statements, faultAt] at h
  | succ fuel ih =>
    cases left with
    | nil =>
      rw [statements] at h
      obtain rfl := Except.ok.inj h
      exact .nil
    | cons l left =>
      rw [statements] at h
      split at h
      · -- an empty statement
        rename_i rest hsome
        rw [tokensOf_of_eat? hsome]
        exact .semicolon (ih h)
      · obtain ⟨⟨s, rest⟩, hs, h⟩ := bind_eq_ok_iff.1 h
        have hstatement := readsStatement_of_statement hs
        dsimp only at h
        split at h
        · obtain rfl := Except.ok.inj h
          exact .last hstatement
        · obtain ⟨behind, hbehind, h⟩ := bind_eq_ok_iff.1 h
          obtain ⟨others, hothers, h⟩ := bind_eq_ok_iff.1 h
          obtain rfl := Except.ok.inj h
          rw [tokensOf_of_eat? (expect_eq_ok_iff.1 hbehind)] at hstatement
          exact .cons hstatement (ih hothers)

/-- A source that is read as statements has no junk, and the grammar derives the statements from its
tokens. -/
theorem readsStatements_of_parseStatements {source : List Char} {ss : List Stmt}
    (h : parseStatements source = .ok ss) :
    JunkFree (pieces source) ∧ ReadsStatements (tokensAmong (pieces source)) ss := by
  unfold parseStatements at h
  obtain ⟨⟨left, sourceEnd⟩, hleft, h⟩ := bind_eq_ok_iff.1 h
  obtain ⟨hjunk, rfl, rfl⟩ := lexemesOf_eq_ok_iff.1 hleft
  rw [← tokensOf_lexemesFrom 0]
  exact ⟨hjunk, readsStatements_of_statements h⟩

/-! ## Statements that the grammar derives -/

section DerivedStatements

variable (sourceEnd)

/-- Whether an expression may start with a token. -/
def Token.startsOperand : Token → Bool
  | .symbol .not | .symbol .minus | .symbol .openParen | .symbol .openBracket => true
  | .symbol _ => false
  | _ => true

/-- An expression starts with an operand or the sign of one. -/
lemma Reads.startsOperand {p : Phrase} {ts rest : List Token} {found : Found}
    (h : Reads p ts found rest) (hfresh : p.startsFresh = true) (hends : p.endsClosed = false) :
    ∃ t more, ts = t :: more ∧ t.startsOperand = true := by
  induction h with
  | alone _ _ ih | condition _ _ ih | unsigned _ _ _ ih | item _ _ ih => exact ih rfl rfl
  | coalesce _ _ ih _ | binary _ _ ih _ | steps _ _ ih _ | pair _ _ ih _ => exact ih rfl rfl
  | ternary _ _ _ ih _ _ => exact ih rfl rfl
  | not | negate | var | integer | float | text | group | array | literal | viewCall
  | viewCallAlone | staticCall | call => exact ⟨_, _, rfl, rfl⟩
  | noOperator | operator | noStep | index | property | method => cases hfresh
  | noArguments | someArguments | lastArgument | argument | noEntries | lastEntry | someEntries =>
    cases hends

/-- The reader of expressions gives what the grammar derives. -/
lemma Reads.expression_gives {ts rest : List Token} {e : Expr}
    (h : Reads .expression ts (.expr e) rest) {left : List Lexeme} (hleft : tokensOf left = ts) :
    ∃ last, expression sourceEnd (enoughFuel left) left = .ok (e, last) ∧ tokensOf last = rest := by
  subst hleft
  exact h.gives (enoughFuel left) left rfl (by simp [Phrase.rank, enoughFuel, tokensOf])

lemma Reads.steps_gives {ts rest : List Token} {e : Expr} (h : Reads .steps ts (.expr e) rest)
    {left : List Lexeme} (hleft : tokensOf left = ts) :
    ∃ last, Script.steps sourceEnd (enoughFuel left) left = .ok (e, last) ∧
      tokensOf last = rest := by
  subst hleft
  exact h.gives (enoughFuel left) left rfl (by simp [Phrase.rank, enoughFuel, tokensOf])

lemma ReadsRow.gives {ts rest : List Token} {es : List Expr} (h : ReadsRow ts es rest) (fuel : Nat)
    (left : List Lexeme) (hleft : tokensOf left = ts) (hfuel : ts.length < fuel) :
    ∃ last, expressionList sourceEnd fuel left = .ok (es, last) ∧ tokensOf last = rest := by
  induction h generalizing fuel left with
  | last h hstop =>
    obtain _ | fuel := fuel
    · cases hfuel
    obtain ⟨last, hlast, rfl⟩ := h.expression_gives sourceEnd hleft
    exact ⟨last, by simp only [expressionList, hlast, ok_bind, eat?_eq_none_iff.2 hstop], rfl⟩
  | @cons ts more rest e es h hrest ih =>
    obtain _ | fuel := fuel
    · cases hfuel
    have hlen : more.length + 1 ≤ ts.length := h.length_le
    obtain ⟨mid, hmid, htokens⟩ := h.expression_gives sourceEnd hleft
    obtain ⟨behind, heat, hbehind⟩ := eat?_of_tokensOf htokens
    obtain ⟨last, hlast, rfl⟩ := ih fuel behind hbehind (by omega)
    exact ⟨last, by simp only [expressionList, hmid, ok_bind, heat, hlast], rfl⟩

lemma asPlace_of_isPlace {e : Expr} (h : e.isPlace = true) : asPlace e = .ok e :=
  asPlace_eq_ok_iff.2 ⟨h, rfl⟩

/-- A statement that starts with an expression is finished behind it. -/
lemma statement_of_expression {ts mid : List Token} {e : Expr}
    (hecho : ts.head? ≠ some (.word "echo")) (h : Reads .expression ts (.expr e) mid)
    {left : List Lexeme} (hleft : tokensOf left = ts) :
    ∃ last, statement sourceEnd left = finishStatement sourceEnd e last ∧ tokensOf last = mid := by
  obtain ⟨last, hlast, hmid⟩ := h.expression_gives sourceEnd hleft
  obtain ⟨t, more, rfl, ht⟩ := h.startsOperand rfl rfl
  obtain ⟨⟨token, start, stop⟩, others, rfl, rfl, -⟩ := tokensOf_eq_cons hleft
  refine ⟨last, ?_, hmid⟩
  unfold statement
  split
  · rename_i heq
    cases heq
    exact absurd rfl hecho
  · rename_i heq
    cases heq
    cases ht
  · rename_i heq
    cases heq
    cases ht
  · rw [hlast, ok_bind]

lemma ReadsStatement.gives {ts rest : List Token} {s : Stmt} (h : ReadsStatement ts s rest)
    (left : List Lexeme) (hleft : tokensOf left = ts) :
    ∃ last, statement sourceEnd left = .ok (s, last) ∧ tokensOf last = rest := by
  cases h with
  | echo h =>
    obtain ⟨⟨_, start, stop⟩, behind, rfl, rfl, hbehind⟩ := tokensOf_eq_cons hleft
    obtain ⟨last, hlast, rfl⟩ := h.gives sourceEnd (behind.length + 1) behind hbehind
      (by simp [← hbehind, tokensOf])
    exact ⟨last, by simp only [statement, hlast, ok_bind], rfl⟩
  | incrementFirst h hplace =>
    obtain ⟨⟨_, start, stop⟩, behind, rfl, rfl, hbehind⟩ := tokensOf_eq_cons hleft
    obtain ⟨last, hlast, rfl⟩ := h.steps_gives sourceEnd hbehind
    exact ⟨last, by simp only [statement, hlast, ok_bind, asPlace_of_isPlace hplace], rfl⟩
  | decrementFirst h hplace =>
    obtain ⟨⟨_, start, stop⟩, behind, rfl, rfl, hbehind⟩ := tokensOf_eq_cons hleft
    obtain ⟨last, hlast, rfl⟩ := h.steps_gives sourceEnd hbehind
    exact ⟨last, by simp only [statement, hlast, ok_bind, asPlace_of_isPlace hplace], rfl⟩
  | incrementLast hecho h hplace =>
    obtain ⟨mid, hmid, htokens⟩ := statement_of_expression sourceEnd hecho h hleft
    obtain ⟨⟨_, start, stop⟩, behind, rfl, rfl, rfl⟩ := tokensOf_eq_cons htokens
    exact ⟨behind, by simp only [hmid, finishStatement, ok_bind, asPlace_of_isPlace hplace], rfl⟩
  | decrementLast hecho h hplace =>
    obtain ⟨mid, hmid, htokens⟩ := statement_of_expression sourceEnd hecho h hleft
    obtain ⟨⟨_, start, stop⟩, behind, rfl, rfl, rfl⟩ := tokensOf_eq_cons htokens
    exact ⟨behind, by simp only [hmid, finishStatement, ok_bind, asPlace_of_isPlace hplace], rfl⟩
  | @assign _ _ _ _ symbol op _ hecho h hop hplace hvalue =>
    obtain ⟨mid, hmid, htokens⟩ := statement_of_expression sourceEnd hecho h hleft
    obtain ⟨⟨_, start, stop⟩, behind, rfl, rfl, hbehind⟩ := tokensOf_eq_cons htokens
    obtain ⟨last, hlast, rfl⟩ := hvalue.expression_gives sourceEnd hbehind
    refine ⟨last, ?_, rfl⟩
    -- the symbol is one of the assignments, so the other branches cannot be taken
    rw [hmid]
    unfold finishStatement
    split
    · rename_i heq
      cases heq
      cases hop
    · rename_i heq
      cases heq
      cases hop
    · rename_i heq
      cases heq
      simp only [hop, asPlace_of_isPlace hplace, hlast, ok_bind]
    · rename_i hother
      exact absurd rfl (hother symbol start stop behind)
  | expr hecho h hincrement hdecrement hstop =>
    obtain ⟨mid, hmid, rfl⟩ := statement_of_expression sourceEnd hecho h hleft
    refine ⟨mid, ?_, rfl⟩
    rw [hmid]
    unfold finishStatement
    split
    · exact absurd ⟨_, rfl⟩ hincrement
    · exact absurd ⟨_, rfl⟩ hdecrement
    · rw [hstop _ ⟨_, rfl⟩]
    · rfl

/-- No statement starts with a semicolon. -/
lemma ReadsStatement.not_starts_semicolon {ts rest : List Token} {s : Stmt}
    (h : ReadsStatement ts s rest) : ts ≠ [] ∧ ¬Starts .semicolon ts := by
  have hexpr {e : Expr} {mid : List Token} (h : Reads .expression ts (.expr e) mid) :
      ts ≠ [] ∧ ¬Starts .semicolon ts := by
    obtain ⟨t, more, rfl, ht⟩ := h.startsOperand rfl rfl
    refine ⟨List.cons_ne_nil t more, ?_⟩
    rw [starts_cons]
    rintro rfl
    cases ht
  cases h with
  | echo _ | incrementFirst _ _ | decrementFirst _ _ => simp
  | incrementLast _ h _ | decrementLast _ h _ | assign _ h _ _ _ | expr _ h _ _ _ => exact hexpr h

lemma ReadsRow.length_le {ts rest : List Token} {es : List Expr} (h : ReadsRow ts es rest) :
    rest.length ≤ ts.length := by
  induction h with
  | last h _ => exact h.length_le
  | cons h _ ih => exact Nat.le_trans (Nat.le_succ_of_le ih) h.length_le

lemma ReadsStatement.length_le {ts rest : List Token} {s : Stmt} (h : ReadsStatement ts s rest) :
    rest.length ≤ ts.length := by
  cases h with
  | echo h => exact Nat.le_succ_of_le h.length_le
  | incrementFirst h _ | decrementFirst h _ => exact Nat.le_succ_of_le h.length_le
  | incrementLast _ h _ | decrementLast _ h _ => exact Nat.le_trans (Nat.le_succ _) h.length_le
  | assign _ h _ _ hvalue => exact Nat.le_trans (Nat.le_succ_of_le hvalue.length_le) h.length_le
  | expr _ h _ _ _ => exact h.length_le

lemma ReadsStatements.gives {ts : List Token} {ss : List Stmt} (h : ReadsStatements ts ss)
    (fuel : Nat) (left : List Lexeme) (hleft : tokensOf left = ts) (hfuel : ts.length < fuel) :
    statements sourceEnd fuel left = .ok ss := by
  induction h generalizing fuel left with
  | nil =>
    obtain rfl := List.map_eq_nil_iff.1 hleft
    rw [statements]
  | semicolon h ih =>
    obtain _ | fuel := fuel
    · cases hfuel
    obtain ⟨rest, heat, hrest⟩ := eat?_of_tokensOf hleft
    obtain ⟨l, more, rfl, -, -⟩ := tokensOf_eq_cons hleft
    rw [statements, heat]
    exact ih fuel rest hrest (by simpa using hfuel)
  | last h =>
    obtain _ | fuel := fuel
    · cases hfuel
    obtain ⟨hne, hsemicolon⟩ := h.not_starts_semicolon
    obtain ⟨last, hlast, hnil⟩ := h.gives sourceEnd left hleft
    obtain rfl := List.map_eq_nil_iff.1 hnil
    obtain _ | ⟨l, more⟩ := left
    · exact absurd hleft.symm hne
    rw [← hleft] at hsemicolon
    simp only [statements, eat?_eq_none_iff.2 hsemicolon, hlast, ok_bind]
  | @cons ts more statement ss h hrest ih =>
    obtain _ | fuel := fuel
    · cases hfuel
    -- a statement takes at least one token, which pays for the fuel of the rest
    have hlen : more.length + 1 ≤ ts.length := h.length_le
    obtain ⟨hne, hsemicolon⟩ := h.not_starts_semicolon
    obtain ⟨last, hlast, htokens⟩ := h.gives sourceEnd left hleft
    obtain ⟨behind, heat, hbehind⟩ := eat?_of_tokensOf htokens
    have hothers := ih fuel behind hbehind (by omega)
    obtain _ | ⟨l, left⟩ := left
    · exact absurd hleft.symm hne
    obtain ⟨l', last, rfl, -, -⟩ := tokensOf_eq_cons htokens
    rw [← hleft] at hsemicolon
    simp only [statements, eat?_eq_none_iff.2 hsemicolon, hlast, ok_bind, expect_of_eat? heat,
      hothers]

end DerivedStatements

/-- A source is read as statements exactly when it has no junk and the grammar derives the
statements from its tokens. -/
theorem parseStatements_eq_ok_iff {source : List Char} {ss : List Stmt} :
    parseStatements source = .ok ss ↔
      JunkFree (pieces source) ∧ ReadsStatements (tokensAmong (pieces source)) ss := by
  refine ⟨readsStatements_of_parseStatements, ?_⟩
  rintro ⟨hjunk, hreads⟩
  have hleft := lexemesOf_eq_ok_iff.2 ⟨hjunk, rfl, rfl⟩
  rw [← tokensOf_lexemesFrom 0] at hreads
  simp only [parseStatements, hleft, ok_bind]
  exact hreads.gives _ _ _ rfl (by simp [tokensOf])

end ViewTemplate.Script
