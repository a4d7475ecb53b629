import Mathlib.Tactic.Common
import ViewTemplate.Script.Parser

/-!
# The grammar of expressions

The readers of expressions walk a row of lexemes with fuel and report faults with positions.  The
grammar says what they read without any of that: `Reads p ts found rest` holds when the phrase `p`
reads `found` from the front of the tokens `ts` and leaves `rest`.  There is one rule for each way a
reader can succeed, and the look-ahead that makes a reader stop is a premise of its rule, so a row
of tokens is read in at most one way.

`Proofs/Readers.lean` shows that the readers give exactly what the grammar derives.  What is proved
about scripts by induction is then proved along the rules, over every nesting at once.
-/

namespace ViewTemplate.Script

/-- The phrases of the grammar, one for each reader.  Where a reader goes on behind what has been
read already, its phrase carries that. -/
inductive Phrase where
  | expression
  | conditional
  | binary (level : Nat)
  | binaryRest (level : Nat) (e : Expr)
  | unary
  | steps
  | stepsRest (e : Expr)
  | primary
  | arguments
  | argumentsRest
  | entries
  | entry

/-- Whether a phrase starts with an operand and not with what follows one. -/
def Phrase.startsFresh : Phrase → Bool
  | .binaryRest _ _ | .stepsRest _ => false
  | _ => true

/-- Whether a phrase ends with a closing bracket. -/
def Phrase.endsClosed : Phrase → Bool
  | .arguments | .argumentsRest | .entries => true
  | _ => false

/-- What a phrase reads. -/
inductive Found where
  | expr (e : Expr)
  | exprs (es : List Expr)
  | entries (es : List (Option Expr × Expr))
  | entry (key : Option Expr) (value : Expr)

/-- The tokens start with a symbol. -/
def Starts (s : Symbol) (ts : List Token) : Prop :=
  ∃ more, ts = .symbol s :: more

@[simp] lemma starts_cons {s : Symbol} {t : Token} {ts : List Token} :
    Starts s (t :: ts) ↔ t = .symbol s := by
  simp [Starts]

@[simp] lemma not_starts_nil {s : Symbol} : ¬Starts s [] := by
  simp [Starts]

/-- The rules of the grammar. -/
inductive Reads : Phrase → List Token → Found → List Token → Prop
  | alone {ts rest e} (h : Reads .conditional ts (.expr e) rest)
      (hstop : ¬Starts .coalesce rest) :
      Reads .expression ts (.expr e) rest
  | coalesce {ts more rest e other}
      (h : Reads .conditional ts (.expr e) (.symbol .coalesce :: more))
      (hother : Reads .expression more (.expr other) rest) :
      Reads .expression ts (.expr (.coalesce e other)) rest
  | condition {ts rest e} (h : Reads (.binary 1) ts (.expr e) rest)
      (hstop : ¬Starts .question rest) :
      Reads .conditional ts (.expr e) rest
  | ternary {ts behindCondition behindYes rest condition yes no}
      (h : Reads (.binary 1) ts (.expr condition) (.symbol .question :: behindCondition))
      (hyes : Reads .expression behindCondition (.expr yes) (.symbol .colon :: behindYes))
      (hno : Reads .conditional behindYes (.expr no) rest) :
      Reads .conditional ts (.expr (.ternary condition yes no)) rest
  | binary {level ts more rest first e} (h : Reads .unary ts (.expr first) more)
      (hrest : Reads (.binaryRest level first) more (.expr e) rest) :
      Reads (.binary level) ts (.expr e) rest
  | noOperator {level e rest}
      (hstop : ∀ s op, Starts s rest → BinaryOp.ofSymbol? s = some op → op.precedence < level) :
      Reads (.binaryRest level e) rest (.expr e) rest
  | operator {level s op ts more rest first right e} (hop : BinaryOp.ofSymbol? s = some op)
      (hlevel : level ≤ op.precedence)
      (h : Reads (.binary (op.precedence + 1)) ts (.expr right) more)
      (hrest : Reads (.binaryRest level (.binary op first right)) more (.expr e) rest) :
      Reads (.binaryRest level first) (.symbol s :: ts) (.expr e) rest
  | not {ts rest e} (h : Reads .unary ts (.expr e) rest) :
      Reads .unary (.symbol .not :: ts) (.expr (.unary .not e)) rest
  | negate {ts rest e} (h : Reads .unary ts (.expr e) rest) :
      Reads .unary (.symbol .minus :: ts) (.expr (.unary .negate e)) rest
  | unsigned {ts rest e} (hnot : ¬Starts .not ts) (hminus : ¬Starts .minus ts)
      (h : Reads .steps ts (.expr e) rest) :
      Reads .unary ts (.expr e) rest
  | steps {ts more rest first e} (h : Reads .primary ts (.expr first) more)
      (hrest : Reads (.stepsRest first) more (.expr e) rest) :
      Reads .steps ts (.expr e) rest
  | noStep {e rest} (hbracket : ¬Starts .openBracket rest) (harrow : ¬Starts .arrow rest) :
      Reads (.stepsRest e) rest (.expr e) rest
  | index {ts more rest first position e}
      (h : Reads .expression ts (.expr position) (.symbol .closeBracket :: more))
      (hrest : Reads (.stepsRest (.index first position)) more (.expr e) rest) :
      Reads (.stepsRest first) (.symbol .openBracket :: ts) (.expr e) rest
  | property {name ts rest first e} (hstop : ¬Starts .openParen ts)
      (hrest : Reads (.stepsRest (.property first name)) ts (.expr e) rest) :
      Reads (.stepsRest first) (.symbol .arrow :: .word name :: ts) (.expr e) rest
  | method {name ts more rest first args e} (h : Reads .arguments ts (.exprs args) more)
      (hrest : Reads (.stepsRest (.method first name args)) more (.expr e) rest) :
      Reads (.stepsRest first) (.symbol .arrow :: .word name :: .symbol .openParen :: ts)
        (.expr e) rest
  | var {name rest} : Reads .primary (.var name :: rest) (.expr (.var name)) rest
  | integer {n rest} : Reads .primary (.integer n :: rest) (.expr (.literal (.ofNat n))) rest
  | float {x rest} : Reads .primary (.float x :: rest) (.expr (.literal (.ofFloat x))) rest
  | text {s rest} : Reads .primary (.text s :: rest) (.expr (.literal (.text s))) rest
  | group {ts rest e} (h : Reads .expression ts (.expr e) (.symbol .closeParen :: rest)) :
      Reads .primary (.symbol .openParen :: ts) (.expr e) rest
  | array {ts rest items} (h : Reads .entries ts (.entries items) rest) :
      Reads .primary (.symbol .openBracket :: ts) (.expr (.array items)) rest
  | literal {name v rest} (h : literalWord? name = some v) :
      Reads .primary (.word name :: rest) (.expr (.literal v)) rest
  | viewCall {function ts rest args} (h : Reads .arguments ts (.exprs args) rest) :
      Reads .primary (.word viewCallWord :: .symbol .openParen :: .text function ::
        .symbol .comma :: ts) (.expr (.viewCall function args)) rest
  | viewCallAlone {function rest} :
      Reads .primary (.word viewCallWord :: .symbol .openParen :: .text function ::
        .symbol .closeParen :: rest) (.expr (.viewCall function [])) rest
  | staticCall {name member ts rest args} (hliteral : literalWord? name = none)
      (hname : name ≠ viewCallWord) (h : Reads .arguments ts (.exprs args) rest) :
      Reads .primary (.word name :: .symbol .doubleColon :: .word member :: .symbol .openParen ::
        ts) (.expr (.call (name ++ "::" ++ member) args)) rest
  | call {name ts rest args} (hliteral : literalWord? name = none) (hname : name ≠ viewCallWord)
      (h : Reads .arguments ts (.exprs args) rest) :
      Reads .primary (.word name :: .symbol .openParen :: ts) (.expr (.call name args)) rest
  | noArguments {rest} : Reads .arguments (.symbol .closeParen :: rest) (.exprs []) rest
  | someArguments {ts rest args} (hstop : ¬Starts .closeParen ts)
      (h : Reads .argumentsRest ts (.exprs args) rest) :
      Reads .arguments ts (.exprs args) rest
  | lastArgument {ts rest e}
      (h : Reads .expression ts (.expr e) (.symbol .closeParen :: rest)) :
      Reads .argumentsRest ts (.exprs [e]) rest
  | argument {ts more rest e args} (h : Reads .expression ts (.expr e) (.symbol .comma :: more))
      (hrest : Reads .argumentsRest more (.exprs args) rest) :
      Reads .argumentsRest ts (.exprs (e :: args)) rest
  | noEntries {rest} : Reads .entries (.symbol .closeBracket :: rest) (.entries []) rest
  | lastEntry {ts rest key value} (hstop : ¬Starts .closeBracket ts)
      (h : Reads .entry ts (.entry key value) (.symbol .closeBracket :: rest)) :
      Reads .entries ts (.entries [(key, value)]) rest
  | someEntries {ts more rest key value items} (hstop : ¬Starts .closeBracket ts)
      (h : Reads .entry ts (.entry key value) (.symbol .comma :: more))
      (hrest : Reads .entries more (.entries items) rest) :
      Reads .entries ts (.entries ((key, value) :: items)) rest
  | item {ts rest value} (h : Reads .expression ts (.expr value) rest)
      (hstop : ¬Starts .fatArrow rest) :
      Reads .entry ts (.entry none value) rest
  | pair {ts more rest key value}
      (h : Reads .expression ts (.expr key) (.symbol .fatArrow :: more))
      (hvalue : Reads .expression more (.expr value) rest) :
      Reads .entry ts (.entry (some key) value) rest

/-- Reading does not add tokens. -/
lemma Reads.length_le {p : Phrase} {ts rest : List Token} {found : Found}
    (h : Reads p ts found rest) : rest.length ≤ ts.length := by
  induction h <;> grind

/-! ## Statements -/

/-- A row of expressions separated by commas. -/
inductive ReadsRow : List Token → List Expr → List Token → Prop
  | last {ts rest e} (h : Reads .expression ts (.expr e) rest) (hstop : ¬Starts .comma rest) :
      ReadsRow ts [e] rest
  | cons {ts more rest e es} (h : Reads .expression ts (.expr e) (.symbol .comma :: more))
      (hrest : ReadsRow more es rest) :
      ReadsRow ts (e :: es) rest

/-- The rules of one statement.  The word `echo` at the front is never a name. -/
inductive ReadsStatement : List Token → Stmt → List Token → Prop
  | echo {ts rest values} (h : ReadsRow ts values rest) :
      ReadsStatement (.word "echo" :: ts) (.echo values) rest
  | incrementFirst {ts rest e} (h : Reads .steps ts (.expr e) rest) (hplace : e.isPlace = true) :
      ReadsStatement (.symbol .increment :: ts) (.increment e) rest
  | decrementFirst {ts rest e} (h : Reads .steps ts (.expr e) rest) (hplace : e.isPlace = true) :
      ReadsStatement (.symbol .decrement :: ts) (.decrement e) rest
  | incrementLast {ts rest e} (hecho : ts.head? ≠ some (.word "echo"))
      (h : Reads .expression ts (.expr e) (.symbol .increment :: rest))
      (hplace : e.isPlace = true) :
      ReadsStatement ts (.increment e) rest
  | decrementLast {ts rest e} (hecho : ts.head? ≠ some (.word "echo"))
      (h : Reads .expression ts (.expr e) (.symbol .decrement :: rest))
      (hplace : e.isPlace = true) :
      ReadsStatement ts (.decrement e) rest
  | assign {ts more rest e s op value} (hecho : ts.head? ≠ some (.word "echo"))
      (h : Reads .expression ts (.expr e) (.symbol s :: more))
      (hop : AssignOp.ofSymbol? s = some op) (hplace : e.isPlace = true)
      (hvalue : Reads .expression more (.expr value) rest) :
      ReadsStatement ts (.assign e op value) rest
  | expr {ts rest e} (hecho : ts.head? ≠ some (.word "echo"))
      (h : Reads .expression ts (.expr e) rest) (hincrement : ¬Starts .increment rest)
      (hdecrement : ¬Starts .decrement rest)
      (hstop : ∀ s, Starts s rest → AssignOp.ofSymbol? s = none) :
      ReadsStatement ts (.expr e) rest

/-- The rules of a row of statements. -/
inductive ReadsStatements : List Token → List Stmt → Prop
  | nil : ReadsStatements [] []
  | semicolon {ts statements} (h : ReadsStatements ts statements) :
      ReadsStatements (.symbol .semicolon :: ts) statements
  | last {ts statement} (h : ReadsStatement ts statement []) : ReadsStatements ts [statement]
  | cons {ts more statement statements}
      (h : ReadsStatement ts statement (.symbol .semicolon :: more))
      (hrest : ReadsStatements more statements) :
      ReadsStatements ts (statement :: statements)

end ViewTemplate.Script
