import Mathlib.Tactic.Common
import ViewTemplate.Proofs.Readers

/-!
# Expressions are read as they are written

`Expr.tokens` writes an expression as a row of tokens, with parentheses around a part only if the
part binds less tightly than its place asks for (`Expr.tokensAt`).  The places are `Level`s: `??`
binds weakest, then `? :`, the binary operators by their precedence, the signs, and the steps into a
value.  Operators of one precedence lean to the left, `??` and the last part of `? :` to the right.

The grammar gives the expression back whatever its nesting (`Expr.readsAt_level`).  What carries the
proof is `ReadsAt level ts e`: the reader of a level comes through the tokens `ts` to the expression
`e`.  Where a reader goes on from the left, with another operator or another step, it says that
reading `ts` and what follows is going on from `e` as far as the reader goes.  So a chain of
operators is read operand by operand although its tree leans to the left, and every construct is one
lemma about `ReadsAt`.
-/

namespace ViewTemplate.Script

/-- A property of expressions that passes from the parts of an expression to the expression itself
holds of all of them. -/
theorem Expr.induction {P : Expr → Prop} (literal : ∀ v, P (.literal v))
    (var : ∀ name, P (.var name))
    (array : ∀ items, (∀ item ∈ items, (∀ key ∈ item.1, P key) ∧ P item.2) → P (.array items))
    (index : ∀ target position, P target → P position → P (.index target position))
    (property : ∀ target name, P target → P (.property target name))
    (call : ∀ name args, (∀ e ∈ args, P e) → P (.call name args))
    (viewCall : ∀ name args, (∀ e ∈ args, P e) → P (.viewCall name args))
    (method : ∀ target name args, P target → (∀ e ∈ args, P e) → P (.method target name args))
    (unary : ∀ op operand, P operand → P (.unary op operand))
    (binary : ∀ op left right, P left → P right → P (.binary op left right))
    (coalesce : ∀ left right, P left → P right → P (.coalesce left right))
    (ternary : ∀ condition yes no, P condition → P yes → P no → P (.ternary condition yes no))
    (e : Expr) : P e :=
  @Expr.rec P (fun items => ∀ item ∈ items, (∀ key ∈ item.1, P key) ∧ P item.2)
    (fun es => ∀ e ∈ es, P e) (fun item => (∀ key ∈ item.1, P key) ∧ P item.2)
    (fun key => ∀ e ∈ key, P e)
    literal var array index property call viewCall method unary binary coalesce ternary
    (by simp) (fun _ _ hhead htail => List.forall_mem_cons.2 ⟨hhead, htail⟩)
    (by simp) (fun _ _ hhead htail => List.forall_mem_cons.2 ⟨hhead, htail⟩)
    (fun _ _ hkey hvalue => ⟨hkey, hvalue⟩) (by simp) (fun _ hkey => by simpa using hkey) e

/-! ## Levels -/

/-- How tightly a construct binds. -/
inductive Level where
  | coalesce
  | ternary
  /-- Operators of a precedence. -/
  | operator (precedence : Nat)
  | sign
  /-- Steps into a value, and what needs no parentheses anywhere. -/
  | step
  deriving Repr, DecidableEq

/-- The levels in their order, those that bind weakest first. -/
def Level.rank : Level → Nat
  | coalesce => 0
  | ternary => 1
  | operator precedence => precedence + 1
  | sign => 9
  | step => 10

/-- Operators have the precedences one to six, and their right operands bind tighter by one. -/
def Level.InRange : Level → Prop
  | operator precedence => 1 ≤ precedence ∧ precedence ≤ 7
  | _ => True

/-- The level of the outermost construct of an expression. -/
def Expr.level : Expr → Level
  | .coalesce _ _ => .coalesce
  | .ternary _ _ _ => .ternary
  | .binary op _ _ => .operator op.precedence
  | .unary _ _ => .sign
  | _ => .step

lemma BinaryOp.precedence_bounds (op : BinaryOp) : 1 ≤ op.precedence ∧ op.precedence ≤ 6 := by
  cases op <;> decide

lemma Expr.inRange_level (e : Expr) : e.level.InRange := by
  cases e with
  | binary op left right =>
    obtain ⟨hpos, hbound⟩ := op.precedence_bounds
    exact ⟨hpos, by omega⟩
  | _ => trivial

/-! ## Writing -/

/-- The symbol of an operator between two operands. -/
def BinaryOp.symbol : BinaryOp → Symbol
  | or => .or
  | and => .and
  | equal => .equal
  | notEqual => .notEqual
  | identical => .identical
  | notIdentical => .notIdentical
  | less => .less
  | lessEqual => .lessEqual
  | greater => .greater
  | greaterEqual => .greaterEqual
  | add => .plus
  | subtract => .minus
  | concat => .dot
  | multiply => .star
  | divide => .slash
  | modulo => .percent

@[simp] lemma BinaryOp.ofSymbol?_symbol (op : BinaryOp) : ofSymbol? op.symbol = some op := by
  cases op <;> rfl

/-- The symbol of an operator in front of its operand. -/
def UnaryOp.symbol : UnaryOp → Symbol
  | not => .not
  | negate => .minus

/-- The token of a literal.  Lists and maps are no literals. -/
def literalTokens : Value → List Token
  | .null => [.word "null"]
  | .bool true => [.word "true"]
  | .bool false => [.word "false"]
  | .number (.int n) => [.integer n.toNat]
  | .number (.float x) => [.float x]
  | .text s => [.text s]
  | .list _ | .map _ => []

/-- The class and the member that the name of a function stands for, or its only word. -/
def calleeWords (name : String) : String × Option String :=
  match Text.splitAtMarker? [':', ':'] name.toList with
  | some (front, member) => (String.ofList front, some (String.ofList member))
  | none => (name, none)

/-- The tokens of the name of a function. -/
def calleeTokens (name : String) : List Token :=
  match calleeWords name with
  | (front, some member) => [.word front, .symbol .doubleColon, .word member]
  | (front, none) => [.word front]

/-- Rows with a comma between any two. -/
def separated : List (List Token) → List Token
  | [] => []
  | [row] => row
  | row :: rows => row ++ .symbol .comma :: separated rows

/-- The tokens of an expression whose outermost construct has level `own`, in a place of a level. -/
def grouped (own level : Level) (ts : List Token) : List Token :=
  if own.rank < level.rank then .symbol .openParen :: (ts ++ [Token.symbol .closeParen]) else ts

mutual

/-- The tokens of an expression, with parentheses only where they are needed. -/
def Expr.tokens : Expr → List Token
  | .literal v => literalTokens v
  | .var name => [.var name]
  | .array items => .symbol .openBracket :: (separated (entryRows items) ++ [.symbol .closeBracket])
  | .index target position =>
    grouped target.level .step target.tokens ++
      .symbol .openBracket :: (position.tokens ++ [.symbol .closeBracket])
  | .property target name =>
    grouped target.level .step target.tokens ++ [.symbol .arrow, .word name]
  | .call name args =>
    calleeTokens name ++ .symbol .openParen :: (separated (rows args) ++ [.symbol .closeParen])
  | .viewCall name args =>
    .word viewCallWord :: .symbol .openParen ::
      (separated ([.text name] :: rows args) ++ [.symbol .closeParen])
  | .method target name args =>
    grouped target.level .step target.tokens ++
      .symbol .arrow :: .word name :: .symbol .openParen ::
        (separated (rows args) ++ [.symbol .closeParen])
  | .unary op operand => .symbol op.symbol :: grouped operand.level .sign operand.tokens
  | .binary op left right =>
    grouped left.level (.operator op.precedence) left.tokens ++
      .symbol op.symbol :: grouped right.level (.operator (op.precedence + 1)) right.tokens
  | .coalesce left right =>
    grouped left.level .ternary left.tokens ++ .symbol .coalesce :: right.tokens
  | .ternary condition yes no =>
    grouped condition.level (.operator 1) condition.tokens ++
      .symbol .question :: (yes.tokens ++
        .symbol .colon :: grouped no.level .ternary no.tokens)
termination_by structural e => e

/-- The tokens of each of a row of expressions. -/
def rows : List Expr → List (List Token)
  | [] => []
  | e :: rest => e.tokens :: rows rest
termination_by structural es => es

/-- The tokens of each entry of an array literal. -/
def entryRows : List (Option Expr × Expr) → List (List Token)
  | [] => []
  | (none, value) :: rest => value.tokens :: entryRows rest
  | (some key, value) :: rest => (key.tokens ++ .symbol .fatArrow :: value.tokens) :: entryRows rest
termination_by structural es => es

end

/-- The tokens of an entry of an array literal. -/
def entryTokens : Option Expr → Expr → List Token
  | none, value => value.tokens
  | some key, value => key.tokens ++ .symbol .fatArrow :: value.tokens

lemma entryRows_cons (key : Option Expr) (value : Expr) (rest : List (Option Expr × Expr)) :
    entryRows ((key, value) :: rest) = entryTokens key value :: entryRows rest := by
  cases key <;> rfl

/-- The tokens of an expression in a place of a level. -/
def Expr.tokensAt (level : Level) (e : Expr) : List Token :=
  grouped e.level level e.tokens

/-! ## What can be written -/

/-- Whether a value is a literal: null, a boolean, a text, an integer of 64 bits that is not
negative, or a finite float. -/
def isLiteral : Value → Bool
  | .null | .bool _ | .text _ => true
  | .number (.int n) => decide (0 ≤ n ∧ n ≤ Decimal.maxInt64)
  | .number (.float x) => Decimal.isFinite x
  | .list _ | .map _ => false

/-- Whether a name can be that of a function: its first word is no literal and not the word of view
calls. -/
def isCallee (name : String) : Bool :=
  (literalWord? (calleeWords name).1).isNone && (calleeWords name).1 != viewCallWord

mutual

/-- Whether an expression can be written: its literals are literals and its functions have names. -/
def Expr.isWritable : Expr → Bool
  | .literal v => isLiteral v
  | .var _ => true
  | .array items => entriesWritable items
  | .index target position => target.isWritable && position.isWritable
  | .property target _ => target.isWritable
  | .call name args => isCallee name && allWritable args
  | .viewCall _ args => allWritable args
  | .method target _ args => target.isWritable && allWritable args
  | .unary _ operand => operand.isWritable
  | .binary _ left right => left.isWritable && right.isWritable
  | .coalesce left right => left.isWritable && right.isWritable
  | .ternary condition yes no => condition.isWritable && yes.isWritable && no.isWritable
termination_by structural e => e

/-- Whether all of a row of expressions can be written. -/
def allWritable : List Expr → Bool
  | [] => true
  | e :: rest => e.isWritable && allWritable rest
termination_by structural es => es

/-- Whether the entries of an array literal can be written. -/
def entriesWritable : List (Option Expr × Expr) → Bool
  | [] => true
  | (none, value) :: rest => value.isWritable && entriesWritable rest
  | (some key, value) :: rest => key.isWritable && value.isWritable && entriesWritable rest
termination_by structural es => es

end

lemma isWritable_of_mem {es : List Expr} (h : allWritable es = true) :
    ∀ e ∈ es, e.isWritable = true := by
  induction es with
  | nil => simp
  | cons e rest ih =>
    rw [allWritable, Bool.and_eq_true] at h
    exact List.forall_mem_cons.2 ⟨h.1, ih h.2⟩

lemma isWritable_of_mem_entries {items : List (Option Expr × Expr)}
    (h : entriesWritable items = true) :
    ∀ item ∈ items, (∀ key ∈ item.1, key.isWritable = true) ∧ item.2.isWritable = true := by
  induction items with
  | nil => simp
  | cons item rest ih =>
    obtain ⟨key, value⟩ := item
    cases key with
    | none =>
      rw [entriesWritable, Bool.and_eq_true] at h
      exact List.forall_mem_cons.2 ⟨⟨by simp, h.1⟩, ih h.2⟩
    | some key =>
      rw [entriesWritable, Bool.and_eq_true, Bool.and_eq_true] at h
      exact List.forall_mem_cons.2 ⟨⟨by simpa using h.1.1, h.1.2⟩, ih h.2⟩

/-! ## What may follow -/

/-- The level of what a symbol behind an expression makes of it.  Behind a property a parenthesis
makes a method of it. -/
def Symbol.joins? : Symbol → Option Level
  | .coalesce => some .coalesce
  | .question => some .ternary
  | .openBracket | .arrow | .openParen => some .step
  | s => (BinaryOp.ofSymbol? s).map fun op => .operator op.precedence

lemma joins?_of_ofSymbol? {s : Symbol} {op : BinaryOp} (h : BinaryOp.ofSymbol? s = some op) :
    s.joins? = some (.operator op.precedence) := by
  cases s <;> simp_all [BinaryOp.ofSymbol?, Symbol.joins?]

/-- What follows joins an expression only at levels below a bound. -/
def Stops (bound : Nat) (rest : List Token) : Prop :=
  ∀ s level, Starts s rest → s.joins? = some level → level.rank < bound

namespace Stops

variable {bound other : Nat} {rest : List Token}

lemma mono (h : Stops bound rest) (hle : bound ≤ other) : Stops other rest :=
  fun s level hs hlevel => Nat.lt_of_lt_of_le (h s level hs hlevel) hle

lemma nil : Stops bound [] :=
  fun _ _ hs => absurd hs not_starts_nil

lemma cons {s : Symbol} (h : s.joins? = none) : Stops bound (.symbol s :: rest) := by
  intro t level ht hlevel
  obtain rfl := Token.symbol.inj (starts_cons.1 ht)
  rw [h] at hlevel
  cases hlevel

lemma of_joins {s : Symbol} {level : Level} (h : s.joins? = some level) (hlt : level.rank < bound) :
    Stops bound (.symbol s :: rest) := by
  intro t found ht hfound
  obtain rfl := Token.symbol.inj (starts_cons.1 ht)
  rw [h] at hfound
  rwa [← Option.some.inj hfound]

lemma not_starts (h : Stops bound rest) {s : Symbol} {level : Level} (hs : s.joins? = some level)
    (hle : bound ≤ level.rank) : ¬Starts s rest :=
  fun hstarts => absurd (h s level hstarts hs) (Nat.not_lt.2 hle)

/-- No operator of a level follows. -/
lemma noOperator {level : Nat} (h : Stops (level + 1) rest) (e : Expr) :
    Reads (.binaryRest level e) rest (.expr e) rest := by
  refine .noOperator fun s op hs hop => ?_
  have hlt := h s _ hs (joins?_of_ofSymbol? hop)
  exact Nat.lt_of_succ_lt_succ hlt

lemma noStep (h : Stops 10 rest) (e : Expr) : Reads (.stepsRest e) rest (.expr e) rest :=
  .noStep (h.not_starts rfl (Nat.le_refl _)) (h.not_starts rfl (Nat.le_refl _))

end Stops

/-! ## What stands at the front -/

/-- The symbols that the tokens of a phrase may start with. -/
def Phrase.fronts : Phrase → List Symbol
  | .steps | .primary => [.openParen, .openBracket]
  | .expression | .conditional | .binary _ | .unary | .argumentsRest | .entry =>
    [.not, .minus, .openParen, .openBracket]
  | _ => Symbol.all

lemma Reads.mem_fronts {p : Phrase} {ts rest : List Token} {found : Found}
    (h : Reads p ts found rest) {s : Symbol} (hs : Starts s ts) : s ∈ p.fronts := by
  induction h with
  | unsigned hnot hminus h ih => exact List.mem_cons_of_mem _ (List.mem_cons_of_mem _ (ih hs))
  | not | negate | group | array => simp_all [Phrase.fronts]
  | var | integer | float | text | literal | viewCall | viewCallAlone | staticCall | call =>
    simp at hs
  | noOperator | operator | noStep | index | property | method | noArguments | someArguments
  | noEntries | lastEntry | someEntries => exact Symbol.mem_all s
  | alone h hstop ih => exact ih hs
  | coalesce h hother ih ihOther => exact ih hs
  | condition h hstop ih => exact ih hs
  | ternary h hyes hno ih ihYes ihNo => exact ih hs
  | binary h hrest ih ihRest => exact ih hs
  | steps h hrest ih ihRest => exact ih hs
  | lastArgument h ih => exact ih hs
  | argument h hrest ih ihRest => exact ih hs
  | item h hstop ih => exact ih hs
  | pair h hvalue ih ihValue => exact ih hs

/-! ## Reading at a level -/

/-- The reader of a level comes through `ts` to `e`. -/
def ReadsAt : Level → List Token → Expr → Prop
  | .coalesce, ts, e => ∀ rest, Stops 0 rest → Reads .expression (ts ++ rest) (.expr e) rest
  | .ternary, ts, e => ∀ rest, Stops 1 rest → Reads .conditional (ts ++ rest) (.expr e) rest
  | .operator precedence, ts, e => ∀ level more found rest, level ≤ precedence →
      Stops (precedence + 2) more → Reads (.binaryRest level e) more (.expr found) rest →
      Reads (.binary level) (ts ++ more) (.expr found) rest
  | .sign, ts, e => ∀ rest, Stops 10 rest → Reads .unary (ts ++ rest) (.expr e) rest
  | .step, ts, e => ∀ more found rest, ¬Starts .openParen more →
      Reads (.stepsRest e) more (.expr found) rest → Reads .steps (ts ++ more) (.expr found) rest

namespace ReadsAt

variable {ts : List Token} {e : Expr}

lemma sign_of_step (h : ReadsAt .step ts e) : ReadsAt .sign ts e := by
  intro rest hrest
  have hreads := h rest e rest (hrest.not_starts rfl (Nat.le_refl _)) (hrest.noStep e)
  refine .unsigned (fun hs => ?_) (fun hs => ?_) hreads
  · exact absurd (hreads.mem_fronts hs) (by decide)
  · exact absurd (hreads.mem_fronts hs) (by decide)

lemma operator_of_sign (h : ReadsAt .sign ts e) {precedence : Nat} (hle : precedence ≤ 7) :
    ReadsAt (.operator precedence) ts e := by
  intro level more found rest hlevel hmore hrest
  exact .binary (h more (hmore.mono (by omega))) hrest

lemma operator_of_operator {precedence lower : Nat} (h : ReadsAt (.operator precedence) ts e)
    (hle : lower ≤ precedence) : ReadsAt (.operator lower) ts e := by
  intro level more found rest hlevel hmore hrest
  exact h level more found rest (by omega) (hmore.mono (by omega)) hrest

/-- An operand of a level, with nothing behind it that goes on at the level. -/
lemma operand {precedence : Nat} (h : ReadsAt (.operator precedence) ts e) {rest : List Token}
    (hrest : Stops (precedence + 1) rest) :
    Reads (.binary precedence) (ts ++ rest) (.expr e) rest :=
  h precedence rest e rest (Nat.le_refl _) (hrest.mono (Nat.le_succ _)) (hrest.noOperator e)

lemma ternary_of_operator {precedence : Nat} (h : ReadsAt (.operator precedence) ts e)
    (hle : 1 ≤ precedence) : ReadsAt .ternary ts e := by
  intro rest hrest
  exact .condition ((h.operator_of_operator hle).operand (hrest.mono (by omega)))
    (hrest.not_starts rfl (Nat.le_refl _))

lemma coalesce_of_ternary (h : ReadsAt .ternary ts e) : ReadsAt .coalesce ts e := by
  intro rest hrest
  exact .alone (h rest (hrest.mono (by omega))) (hrest.not_starts rfl (Nat.le_refl _))

/-- Tokens that are read at a level can stand wherever a lower level is asked for. -/
lemma lower {own level : Level} (h : ReadsAt own ts e) (hown : own.InRange)
    (hlevel : level.InRange) (hle : level.rank ≤ own.rank) : ReadsAt level ts e := by
  -- one level after the other, from the tightest one down
  have hsign : Level.sign.rank ≤ own.rank → ReadsAt .sign ts e := by
    intro hrank
    cases own with
    | sign => exact h
    | step => exact h.sign_of_step
    | operator precedence =>
      have hbound := hown.2
      simp only [Level.rank] at hrank
      omega
    | coalesce | ternary => simp [Level.rank] at hrank
  have hoperator : ∀ precedence ≤ 7, (Level.operator precedence).rank ≤ own.rank →
      1 ≤ precedence → ReadsAt (.operator precedence) ts e := by
    intro precedence hbound hrank hpos
    by_cases hown' : Level.sign.rank ≤ own.rank
    · exact (hsign hown').operator_of_sign hbound
    · cases own with
      | operator other => exact h.operator_of_operator (by simpa [Level.rank] using hrank)
      | coalesce | ternary =>
        simp only [Level.rank] at hrank
        omega
      | sign | step => simp [Level.rank] at hown'
  have hternary : Level.ternary.rank ≤ own.rank → ReadsAt .ternary ts e := by
    intro hrank
    by_cases hown' : (Level.operator 1).rank ≤ own.rank
    · exact (hoperator 1 (by omega) hown' (by omega)).ternary_of_operator (by omega)
    · cases own with
      | ternary => exact h
      | operator precedence =>
        have hpos := hown.1
        simp only [Level.rank] at hown'
        omega
      | coalesce | sign | step => simp [Level.rank] at hrank hown'
  -- the levels that are asked for
  cases level with
  | coalesce =>
    by_cases hown' : Level.ternary.rank ≤ own.rank
    · exact (hternary hown').coalesce_of_ternary
    · cases own <;> simp [Level.rank] at hown'
      exact h
  | ternary => exact hternary hle
  | operator precedence => exact hoperator precedence hlevel.2 hle hlevel.1
  | sign => exact hsign hle
  | step =>
    cases own with
    | step => exact h
    | operator precedence =>
      have hbound := hown.2
      simp only [Level.rank] at hle
      omega
    | coalesce | ternary | sign => simp [Level.rank] at hle

/-- What is read as an expression can stand anywhere in parentheses. -/
lemma group (h : ReadsAt .coalesce ts e) :
    ReadsAt .step (.symbol .openParen :: (ts ++ [Token.symbol .closeParen])) e := by
  intro more found rest _ hrest
  have hinner := h (.symbol .closeParen :: more) (.cons rfl)
  refine .steps (.group ?_) hrest
  simpa using hinner

/-- An expression that is read at its own level is read where any expression may stand. -/
lemma expression (h : ReadsAt e.level e.tokens e) : ReadsAt .coalesce e.tokens e :=
  h.lower e.inRange_level trivial (Nat.zero_le _)

/-- An expression that is read at its own level is read at any level, in parentheses if need be. -/
lemma tokensAt (h : ReadsAt e.level e.tokens e) {level : Level} (hlevel : level.InRange) :
    ReadsAt level (e.tokensAt level) e := by
  unfold Expr.tokensAt grouped
  by_cases hlt : e.level.rank < level.rank
  · rw [if_pos hlt]
    refine h.expression.group.lower trivial hlevel ?_
    cases level with
    | operator precedence =>
      have hbound := hlevel.2
      simp only [Level.rank]
      omega
    | _ => decide
  · rw [if_neg hlt]
    exact h.lower e.inRange_level hlevel (Nat.le_of_not_lt hlt)

/-- What is read without steps behind it. -/
lemma of_primary
    (h : ∀ rest, ¬Starts .openParen rest → Reads .primary (ts ++ rest) (.expr e) rest) :
    ReadsAt .step ts e :=
  fun more _ _ hmore hrest => .steps (h more hmore) hrest

end ReadsAt

/-! ## Rows -/

/-- The arguments of a call are read through the closing parenthesis. -/
lemma reads_written_argumentsRest {es : List Expr} (hne : es ≠ [])
    (h : ∀ e ∈ es, ReadsAt .coalesce e.tokens e) (rest : List Token) :
    Reads .argumentsRest (separated (rows es) ++ .symbol .closeParen :: rest) (.exprs es) rest := by
  induction es with
  | nil => exact absurd rfl hne
  | cons e es ih =>
    have hfirst := h e List.mem_cons_self
    cases es with
    | nil => exact .lastArgument (hfirst _ (.cons rfl))
    | cons e' es =>
      have hothers := ih (by simp) fun e he => h e (.tail _ he)
      have hall := Reads.argument (hfirst _ (.cons rfl)) hothers
      simpa [rows, separated] using hall

lemma reads_written_arguments {es : List Expr} (h : ∀ e ∈ es, ReadsAt .coalesce e.tokens e)
    (rest : List Token) :
    Reads .arguments (separated (rows es) ++ .symbol .closeParen :: rest) (.exprs es) rest := by
  by_cases hne : es = []
  · subst hne
    exact .noArguments
  · have hreads := reads_written_argumentsRest hne h rest
    exact .someArguments (fun hs => absurd (hreads.mem_fronts hs) (by decide)) hreads

/-- The parts of an entry are read up to the comma or the bracket behind it. -/
lemma reads_written_entry {key : Option Expr} {value : Expr}
    (hkey : ∀ e ∈ key, ReadsAt .coalesce e.tokens e) (hvalue : ReadsAt .coalesce value.tokens value)
    {s : Symbol} (hs : s.joins? = none) (harrow : s ≠ .fatArrow) (rest : List Token) :
    Reads .entry (entryTokens key value ++ .symbol s :: rest) (.entry key value)
      (.symbol s :: rest) := by
  cases key with
  | none => exact .item (hvalue _ (.cons hs)) (by simpa using harrow)
  | some key =>
    have hpair := Reads.pair (hkey key rfl _ (.cons rfl)) (hvalue (.symbol s :: rest) (.cons hs))
    simpa [entryTokens] using hpair

/-- The entries of an array literal are read through the closing bracket. -/
lemma reads_written_entries {items : List (Option Expr × Expr)}
    (h : ∀ item ∈ items, (∀ key ∈ item.1, ReadsAt .coalesce key.tokens key) ∧
      ReadsAt .coalesce item.2.tokens item.2) (rest : List Token) :
    Reads .entries (separated (entryRows items) ++ .symbol .closeBracket :: rest) (.entries items)
      rest := by
  induction items with
  | nil => exact .noEntries
  | cons item items ih =>
    obtain ⟨key, value⟩ := item
    obtain ⟨hkey, hvalue⟩ := h _ List.mem_cons_self
    rw [entryRows_cons]
    cases items with
    | nil =>
      have hentry := reads_written_entry hkey hvalue (s := .closeBracket) rfl (by decide) rest
      exact .lastEntry (fun hs => absurd (hentry.mem_fronts hs) (by decide)) hentry
    | cons item' items =>
      have hentry := reads_written_entry hkey hvalue (s := .comma) rfl (by decide)
        (separated (entryRows (item' :: items)) ++ .symbol .closeBracket :: rest)
      have hothers := ih fun item hitem => h item (.tail _ hitem)
      have hall := Reads.someEntries (fun hs => absurd (hentry.mem_fronts hs) (by decide)) hentry
        hothers
      obtain ⟨key', value'⟩ := item'
      simpa [entryRows_cons, separated] using hall

/-! ## One lemma for each construct -/

lemma not_starts_cons {s t : Symbol} {rest : List Token} (h : t ≠ s) :
    ¬Starts s (.symbol t :: rest) := by
  intro hs
  exact h (Token.symbol.inj (starts_cons.1 hs))

lemma readsAt_literal {v : Value} (h : isLiteral v = true) :
    ReadsAt .step (literalTokens v) (.literal v) := by
  refine .of_primary fun rest _ => ?_
  match v with
  | .null => exact .literal rfl
  | .bool true => exact .literal rfl
  | .bool false => exact .literal rfl
  | .text s => exact .text
  | .number (.int n) =>
    obtain ⟨hpos, -⟩ := of_decide_eq_true h
    have hint : Value.ofNat n.toNat = .number (.int n) := by
      rw [Value.ofNat, Int.toNat_of_nonneg hpos]
    have hreads : Reads .primary (.integer n.toNat :: rest) _ rest := .integer
    rwa [hint] at hreads
  | .number (.float x) =>
    have hfloat : Value.ofFloat x = .number (.float x) := if_pos h
    have hreads : Reads .primary (.float x :: rest) _ rest := .float
    rwa [hfloat] at hreads

lemma readsAt_array {items : List (Option Expr × Expr)}
    (h : ∀ item ∈ items, (∀ key ∈ item.1, ReadsAt .coalesce key.tokens key) ∧
      ReadsAt .coalesce item.2.tokens item.2) :
    ReadsAt .step (Expr.array items).tokens (.array items) := by
  refine .of_primary fun rest _ => ?_
  have hentries := reads_written_entries h rest
  show Reads .primary (Token.symbol .openBracket ::
    (separated (entryRows items) ++ [Token.symbol .closeBracket]) ++ rest) _ _
  rw [List.cons_append, List.append_assoc]
  exact .array hentries

lemma readsAt_index {target position : Expr}
    (htarget : ReadsAt .step (target.tokensAt .step) target)
    (hposition : ReadsAt .coalesce position.tokens position) :
    ReadsAt .step (Expr.index target position).tokens (.index target position) := by
  intro more found rest _ hrest
  have hstep := Reads.index (hposition (.symbol .closeBracket :: more) (.cons rfl)) hrest
  show Reads .steps (target.tokensAt .step ++
    Token.symbol .openBracket :: (position.tokens ++ [Token.symbol .closeBracket]) ++ more) _ _
  rw [List.append_assoc, List.cons_append, List.append_assoc]
  exact htarget _ found rest (not_starts_cons (by decide)) hstep

lemma readsAt_property {target : Expr} (name : String)
    (htarget : ReadsAt .step (target.tokensAt .step) target) :
    ReadsAt .step (Expr.property target name).tokens (.property target name) := by
  intro more found rest hmore hrest
  show Reads .steps (target.tokensAt .step ++ [Token.symbol .arrow, Token.word name] ++ more) _ _
  rw [List.append_assoc]
  exact htarget _ found rest (not_starts_cons (by decide)) (.property hmore hrest)

lemma readsAt_method {target : Expr} (name : String) {args : List Expr}
    (htarget : ReadsAt .step (target.tokensAt .step) target)
    (hargs : ∀ e ∈ args, ReadsAt .coalesce e.tokens e) :
    ReadsAt .step (Expr.method target name args).tokens (.method target name args) := by
  intro more found rest _ hrest
  have hstep : Reads (.stepsRest target) (.symbol .arrow :: .word name :: .symbol .openParen :: _)
      (.expr found) rest := .method (reads_written_arguments hargs more) hrest
  show Reads .steps (target.tokensAt .step ++ Token.symbol .arrow :: Token.word name ::
    Token.symbol .openParen :: (separated (rows args) ++ [Token.symbol .closeParen]) ++ more) _ _
  rw [List.append_assoc, List.cons_append, List.cons_append, List.cons_append, List.append_assoc]
  exact htarget _ found rest (not_starts_cons (by decide)) hstep

lemma readsAt_call {name : String} {args : List Expr} (hname : isCallee name = true)
    (hargs : ∀ e ∈ args, ReadsAt .coalesce e.tokens e) :
    ReadsAt .step (Expr.call name args).tokens (.call name args) := by
  refine .of_primary fun rest _ => ?_
  have harguments := reads_written_arguments hargs rest
  simp only [isCallee, Bool.and_eq_true, Option.isNone_iff_eq_none, bne_iff_ne] at hname
  obtain ⟨hliteral, hword⟩ := hname
  show Reads .primary (calleeTokens name ++ Token.symbol .openParen ::
    (separated (rows args) ++ [Token.symbol .closeParen]) ++ rest) _ _
  rw [List.append_assoc, List.cons_append, List.append_assoc]
  cases hsplit : Text.splitAtMarker? [':', ':'] name.toList with
  | none =>
    have hwords : calleeWords name = (name, none) := by simp [calleeWords, hsplit]
    have htokens : calleeTokens name = [.word name] := by rw [calleeTokens, hwords]
    rw [hwords] at hliteral hword
    rw [htokens]
    exact .call hliteral hword harguments
  | some parts =>
    obtain ⟨front, member⟩ := parts
    have hwords : calleeWords name = (String.ofList front, some (String.ofList member)) := by
      simp [calleeWords, hsplit]
    have hjoined : String.ofList front ++ "::" ++ String.ofList member = name := by
      rw [← String.toList_inj, Text.splitAtMarker?_eq_some hsplit]
      simp
    have htokens : calleeTokens name = [.word (String.ofList front), .symbol .doubleColon,
        .word (String.ofList member)] := by rw [calleeTokens, hwords]
    rw [hwords] at hliteral hword
    rw [htokens, ← hjoined]
    exact .staticCall hliteral hword harguments

lemma readsAt_viewCall (name : String) {args : List Expr}
    (hargs : ∀ e ∈ args, ReadsAt .coalesce e.tokens e) :
    ReadsAt .step (Expr.viewCall name args).tokens (.viewCall name args) := by
  refine .of_primary fun rest _ => ?_
  cases args with
  | nil => exact .viewCallAlone
  | cons e args =>
    have harguments := reads_written_arguments hargs rest
    show Reads .primary (Token.word viewCallWord :: Token.symbol .openParen ::
      ([Token.text name] ++ Token.symbol .comma :: separated (rows (e :: args)) ++
        [Token.symbol .closeParen]) ++ rest) _ _
    rw [List.cons_append, List.cons_append, List.append_assoc, List.append_assoc, List.cons_append]
    exact .viewCall harguments

lemma readsAt_unary (op : UnaryOp) {operand : Expr}
    (h : ReadsAt .sign (operand.tokensAt .sign) operand) :
    ReadsAt .sign (Expr.unary op operand).tokens (.unary op operand) := by
  intro rest hrest
  cases op with
  | not => exact .not (h rest hrest)
  | negate => exact .negate (h rest hrest)

lemma readsAt_binary (op : BinaryOp) {left right : Expr}
    (hleft : ReadsAt (.operator op.precedence) (left.tokensAt (.operator op.precedence)) left)
    (hright : ReadsAt (.operator (op.precedence + 1))
      (right.tokensAt (.operator (op.precedence + 1))) right) :
    ReadsAt (.operator op.precedence) (Expr.binary op left right).tokens
      (.binary op left right) := by
  intro level more found rest hlevel hmore hrest
  have hoperator := Reads.operator op.ofSymbol?_symbol hlevel (hright.operand hmore) hrest
  show Reads _ (left.tokensAt (.operator op.precedence) ++
    Token.symbol op.symbol :: right.tokensAt (.operator (op.precedence + 1)) ++ more) _ _
  rw [List.append_assoc, List.cons_append]
  exact hleft level _ found rest hlevel
    (.of_joins (joins?_of_ofSymbol? op.ofSymbol?_symbol) (Nat.lt_succ_self _)) hoperator

lemma readsAt_coalesce {left right : Expr} (hleft : ReadsAt .ternary (left.tokensAt .ternary) left)
    (hright : ReadsAt .coalesce right.tokens right) :
    ReadsAt .coalesce (Expr.coalesce left right).tokens (.coalesce left right) := by
  intro rest hrest
  have hstop : Stops 1 (.symbol .coalesce :: (right.tokens ++ rest)) := .of_joins rfl (by decide)
  show Reads .expression
    (left.tokensAt .ternary ++ Token.symbol .coalesce :: right.tokens ++ rest) _ _
  rw [List.append_assoc, List.cons_append]
  exact .coalesce (hleft _ hstop) (hright rest hrest)

lemma readsAt_ternary {condition yes no : Expr}
    (hcondition : ReadsAt (.operator 1) (condition.tokensAt (.operator 1)) condition)
    (hyes : ReadsAt .coalesce yes.tokens yes) (hno : ReadsAt .ternary (no.tokensAt .ternary) no) :
    ReadsAt .ternary (Expr.ternary condition yes no).tokens (.ternary condition yes no) := by
  intro rest hrest
  have hstop : Stops 2 (.symbol .question :: (yes.tokens ++
      .symbol .colon :: (no.tokensAt .ternary ++ rest))) := .of_joins rfl (by decide)
  show Reads _ (condition.tokensAt (.operator 1) ++ Token.symbol .question ::
    (yes.tokens ++ Token.symbol .colon :: no.tokensAt .ternary) ++ rest) _ _
  rw [List.append_assoc, List.cons_append, List.append_assoc, List.cons_append]
  exact .ternary (hcondition.operand hstop) (hyes _ (.cons rfl)) (hno rest hrest)

/-- What is written for an expression is read at the level of the expression. -/
lemma Expr.readsAt_level {e : Expr} (h : e.isWritable = true) : ReadsAt e.level e.tokens e := by
  induction e using Expr.induction with
  | literal v => exact readsAt_literal h
  | var name => exact .of_primary fun rest _ => .var
  | array items ih =>
    have hitems := isWritable_of_mem_entries h
    refine readsAt_array fun item hitem => ⟨fun key hkey => ?_, ?_⟩
    · exact ((ih item hitem).1 key hkey ((hitems item hitem).1 key hkey)).expression
    · exact ((ih item hitem).2 (hitems item hitem).2).expression
  | index target position ihTarget ihPosition =>
    obtain ⟨htarget, hposition⟩ := Bool.and_eq_true_iff.1 h
    exact readsAt_index ((ihTarget htarget).tokensAt trivial) (ihPosition hposition).expression
  | property target name ihTarget => exact readsAt_property name ((ihTarget h).tokensAt trivial)
  | call name args ih =>
    obtain ⟨hname, hargs⟩ := Bool.and_eq_true_iff.1 h
    exact readsAt_call hname fun e he => (ih e he (isWritable_of_mem hargs e he)).expression
  | viewCall name args ih =>
    exact readsAt_viewCall name fun e he => (ih e he (isWritable_of_mem h e he)).expression
  | method target name args ihTarget ih =>
    obtain ⟨htarget, hargs⟩ := Bool.and_eq_true_iff.1 h
    exact readsAt_method name ((ihTarget htarget).tokensAt trivial) fun e he =>
      (ih e he (isWritable_of_mem hargs e he)).expression
  | unary op operand ih => exact readsAt_unary op ((ih h).tokensAt trivial)
  | binary op left right ihLeft ihRight =>
    obtain ⟨hleft, hright⟩ := Bool.and_eq_true_iff.1 h
    obtain ⟨hpos, hbound⟩ := op.precedence_bounds
    exact readsAt_binary op ((ihLeft hleft).tokensAt ⟨hpos, by omega⟩)
      ((ihRight hright).tokensAt ⟨by omega, by omega⟩)
  | coalesce left right ihLeft ihRight =>
    obtain ⟨hleft, hright⟩ := Bool.and_eq_true_iff.1 h
    exact readsAt_coalesce ((ihLeft hleft).tokensAt trivial) (ihRight hright).expression
  | ternary condition yes no ihCondition ihYes ihNo =>
    obtain ⟨hboth, hno⟩ := Bool.and_eq_true_iff.1 h
    obtain ⟨hcondition, hyes⟩ := Bool.and_eq_true_iff.1 hboth
    exact readsAt_ternary ((ihCondition hcondition).tokensAt ⟨by omega, by omega⟩)
      (ihYes hyes).expression ((ihNo hno).tokensAt trivial)

end ViewTemplate.Script
