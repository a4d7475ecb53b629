import Mathlib.Tactic.Common
import ViewTemplate.Proofs.Grammar

/-!
# Brackets in the tokens of a script

A walk over tokens keeps the brackets that are open.  It fails at a closing bracket that does not
fit, and where the symbol `>` comes next behind one of `?`, `??` and `%`, which would make the two
look like the end of a construct.  `Reads.after?` says that the walk over what a phrase reads never
fails and closes exactly the brackets that it opens: walking on from its front is walking on from
its end.  For whole scripts that gives `after?_of_reads` and `after?_of_readsStatements`.
-/

namespace ViewTemplate.Script

/-- Where a walk over tokens stands. -/
structure Nesting where
  /-- The brackets that are open, the innermost first. -/
  brackets : List Char
  /-- Whether the last token may not be followed by `>`. -/
  hanging : Bool

namespace Nesting

/-- Move over one token. -/
def next? (n : Nesting) : Token → Option Nesting
  | .symbol .openParen => some ⟨'(' :: n.brackets, false⟩
  | .symbol .openBracket => some ⟨'[' :: n.brackets, false⟩
  | .symbol .closeParen =>
    if n.brackets.head? = some '(' then some ⟨n.brackets.tail, false⟩ else none
  | .symbol .closeBracket =>
    if n.brackets.head? = some '[' then some ⟨n.brackets.tail, false⟩ else none
  | .symbol .question | .symbol .coalesce | .symbol .percent => some ⟨n.brackets, true⟩
  | .symbol .greater | .symbol .greaterEqual =>
    if n.hanging then none else some ⟨n.brackets, false⟩
  | _ => some ⟨n.brackets, false⟩

/-- Move over a row of tokens. -/
def after? (n : Nesting) : List Token → Option Nesting
  | [] => some n
  | t :: ts => (n.next? t).bind fun m => m.after? ts

lemma after?_cons {n m : Nesting} {t : Token} (h : n.next? t = some m) (ts : List Token) :
    n.after? (t :: ts) = m.after? ts := by
  rw [after?, h, Option.bind_some]

lemma after?_closeParen (brackets : List Char) (hanging : Bool) (ts : List Token) :
    after? ⟨'(' :: brackets, hanging⟩ (.symbol .closeParen :: ts) = after? ⟨brackets, false⟩ ts :=
  after?_cons (by simp [next?]) ts

lemma after?_closeBracket (brackets : List Char) (hanging : Bool) (ts : List Token) :
    after? ⟨'[' :: brackets, hanging⟩ (.symbol .closeBracket :: ts) =
      after? ⟨brackets, false⟩ ts :=
  after?_cons (by simp [next?]) ts

/-- An operator between two operands changes no brackets. -/
lemma next?_operator {s : Symbol} {op : BinaryOp} (h : BinaryOp.ofSymbol? s = some op)
    (brackets : List Char) :
    ∃ hanging, next? ⟨brackets, false⟩ (.symbol s) = some ⟨brackets, hanging⟩ := by
  cases s <;> simp [BinaryOp.ofSymbol?] at h <;> exact ⟨_, rfl⟩

lemma next?_assign {s : Symbol} {op : AssignOp} (h : AssignOp.ofSymbol? s = some op)
    (brackets : List Char) :
    next? ⟨brackets, false⟩ (.symbol s) = some ⟨brackets, false⟩ := by
  cases s <;> simp [AssignOp.ofSymbol?] at h <;> rfl

end Nesting

open Nesting

/-- The bracket that a phrase starts behind and closes. -/
def Phrase.bracket : Phrase → List Char
  | .arguments | .argumentsRest => ['(']
  | .entries => ['[']
  | _ => []

/-- Walking on from the front of a phrase is walking on from its end, with the bracket closed that
the phrase started behind. -/
theorem Reads.after? {p : Phrase} {ts rest : List Token} {found : Found}
    (h : Reads p ts found rest) (brackets : List Char) (hanging : Bool)
    (hfresh : p.startsFresh = false → hanging = false) :
    Nesting.after? ⟨p.bracket ++ brackets, hanging⟩ ts = Nesting.after? ⟨brackets, false⟩ rest := by
  induction h generalizing brackets hanging with
  | alone h hstop ih => exact ih brackets hanging hfresh
  | coalesce h hother ih ihOther =>
    exact (ih brackets hanging hfresh).trans (ihOther brackets true (by simp [Phrase.startsFresh]))
  | condition h hstop ih => exact ih brackets hanging hfresh
  | ternary h hyes hno ih ihYes ihNo =>
    have hyes' := ihYes brackets true (by simp [Phrase.startsFresh])
    have hno' := ihNo brackets false (fun _ => rfl)
    exact ((ih brackets hanging hfresh).trans hyes').trans hno'
  | binary h hrest ih ihRest =>
    exact (ih brackets hanging hfresh).trans (ihRest brackets false fun _ => rfl)
  | noOperator hstop =>
    obtain rfl := hfresh rfl
    rfl
  | operator hop hlevel h hrest ih ihRest =>
    obtain rfl := hfresh rfl
    obtain ⟨hanging, hnext⟩ := next?_operator hop brackets
    have hright := ih brackets hanging (by simp [Phrase.startsFresh])
    exact ((after?_cons hnext _).trans hright).trans (ihRest brackets false fun _ => rfl)
  | not h ih => exact ih brackets false fun _ => rfl
  | negate h ih => exact ih brackets false fun _ => rfl
  | unsigned hnot hminus h ih => exact ih brackets hanging hfresh
  | steps h hrest ih ihRest =>
    exact (ih brackets hanging hfresh).trans (ihRest brackets false fun _ => rfl)
  | noStep hbracket harrow =>
    obtain rfl := hfresh rfl
    rfl
  | index h hrest ih ihRest =>
    have hinner := (ih ('[' :: brackets) false fun _ => rfl).trans (after?_closeBracket _ _ _)
    exact hinner.trans (ihRest brackets false fun _ => rfl)
  | property hstop hrest ihRest => exact ihRest brackets false fun _ => rfl
  | method h hrest ih ihRest =>
    exact (ih brackets false fun _ => rfl).trans (ihRest brackets false fun _ => rfl)
  | var => rfl
  | integer => rfl
  | float => rfl
  | text => rfl
  | group h ih => exact (ih ('(' :: brackets) false fun _ => rfl).trans (after?_closeParen _ _ _)
  | array h ih => exact ih brackets false fun _ => rfl
  | literal hliteral => rfl
  | viewCall h ih => exact ih brackets false fun _ => rfl
  | viewCallAlone => exact after?_closeParen brackets false _
  | staticCall hliteral hname h ih => exact ih brackets false fun _ => rfl
  | call hliteral hname h ih => exact ih brackets false fun _ => rfl
  | noArguments => exact after?_closeParen _ _ _
  | someArguments hstop h ih => exact ih brackets hanging hfresh
  | lastArgument h ih =>
    exact (ih ('(' :: brackets) hanging hfresh).trans (after?_closeParen _ _ _)
  | argument h hrest ih ihRest =>
    exact (ih ('(' :: brackets) hanging hfresh).trans (ihRest brackets false fun _ => rfl)
  | noEntries => exact after?_closeBracket _ _ _
  | lastEntry hstop h ih =>
    exact (ih ('[' :: brackets) hanging hfresh).trans (after?_closeBracket _ _ _)
  | someEntries hstop h hrest ih ihRest =>
    exact (ih ('[' :: brackets) hanging hfresh).trans (ihRest brackets false fun _ => rfl)
  | item h hstop ih => exact ih brackets hanging hfresh
  | pair h hvalue ih ihValue =>
    exact (ih brackets hanging hfresh).trans (ihValue brackets false fun _ => rfl)

/-! ## Statements -/

lemma ReadsRow.after? {ts rest : List Token} {es : List Expr} (h : ReadsRow ts es rest)
    (brackets : List Char) :
    Nesting.after? ⟨brackets, false⟩ ts = Nesting.after? ⟨brackets, false⟩ rest := by
  induction h with
  | last h hstop => exact h.after? brackets false fun _ => rfl
  | cons h hrest ih => exact (h.after? brackets false fun _ => rfl).trans ih

lemma ReadsStatement.after? {ts rest : List Token} {s : Stmt} (h : ReadsStatement ts s rest)
    (brackets : List Char) :
    Nesting.after? ⟨brackets, false⟩ ts = Nesting.after? ⟨brackets, false⟩ rest := by
  cases h with
  | echo h => exact h.after? brackets
  | incrementFirst h _ | decrementFirst h _ => exact h.after? brackets false fun _ => rfl
  | incrementLast _ h _ | decrementLast _ h _ => exact h.after? brackets false fun _ => rfl
  | assign _ h hop _ hvalue =>
    have htarget := (h.after? brackets false fun _ => rfl).trans
      (after?_cons (next?_assign hop brackets) _)
    exact htarget.trans (hvalue.after? brackets false fun _ => rfl)
  | expr _ h _ _ _ => exact h.after? brackets false fun _ => rfl

/-- A script that is read as an expression opens and closes its brackets. -/
lemma after?_of_reads {ts : List Token} {e : Expr} (h : Reads .expression ts (.expr e) [])
    (brackets : List Char) :
    Nesting.after? ⟨brackets, false⟩ ts = some ⟨brackets, false⟩ :=
  h.after? brackets false fun _ => rfl

/-- A script that is read as statements opens and closes its brackets. -/
lemma after?_of_readsStatements {ts : List Token} {ss : List Stmt} (h : ReadsStatements ts ss)
    (brackets : List Char) :
    Nesting.after? ⟨brackets, false⟩ ts = some ⟨brackets, false⟩ := by
  induction h with
  | nil => rfl
  | semicolon _ ih => exact ih
  | last h => exact h.after? brackets
  | cons h _ ih => exact (h.after? brackets).trans ih

end ViewTemplate.Script
