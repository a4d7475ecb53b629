import ViewTemplate.Script.Lexeme
import ViewTemplate.Script.Calls
import ViewTemplate.Script.Error

/-!
# Reading expressions and statements

The readers walk a row of lexemes and give back what they read together with the lexemes that are
left.  Binary operators climb by precedence; `??` and `? :` bind weaker than all of them and to the
right.

Every reader takes `fuel`, which goes down with each call.  A chain of calls that reads no lexeme
passes through each reader at most once, from `arguments` and `entries` over `expression` down to
`named`, so ten steps for each lexeme and ten more are never used up; `enoughFuel` provides them.
-/

namespace ViewTemplate.Script

/-- What a reader gives back: what it read and the lexemes left. -/
abbrev Read (α : Type) := α × List Lexeme

/-- Where the next lexeme starts, or the end of the source. -/
def offsetOf (sourceEnd : Nat) : List Lexeme → Nat
  | [] => sourceEnd
  | l :: _ => l.start

/-- A fault at the front of the lexemes left. -/
def faultAt {α : Type} (sourceEnd : Nat) (left : List Lexeme) (fault : SyntaxFault) :
    Except ScriptError α :=
  .error (.malformed (offsetOf sourceEnd left) fault)

/-- The lexemes behind a symbol, if it stands at the front. -/
def eat? (s : Symbol) : List Lexeme → Option (List Lexeme)
  | ⟨.symbol t, _, _⟩ :: rest => if t = s then some rest else none
  | _ => none

/-- The lexemes behind a symbol that must stand at the front. -/
def expect (sourceEnd : Nat) (s : Symbol) (what : Expectation) (left : List Lexeme) :
    Except ScriptError (List Lexeme) :=
  match eat? s left with
  | some rest => .ok rest
  | none => faultAt sourceEnd left (.expected what)

/-- The binary operator at the front, and the lexemes behind it. -/
def binaryOp? : List Lexeme → Option (BinaryOp × List Lexeme)
  | ⟨.symbol s, _, _⟩ :: rest => (BinaryOp.ofSymbol? s).map fun op => (op, rest)
  | _ => none

/-- A word that must stand at the front.  The fault is reported behind whatever stands there. -/
def expectWord (sourceEnd : Nat) (what : Expectation) : List Lexeme →
    Except ScriptError (Read String)
  | ⟨.word name, _, _⟩ :: rest => .ok (name, rest)
  | left => faultAt sourceEnd (left.drop 1) (.expected what)

/-- A text that must stand at the front.  The fault is reported behind whatever stands there. -/
def expectText (sourceEnd : Nat) (what : Expectation) : List Lexeme →
    Except ScriptError (Read String)
  | ⟨.text s, _, _⟩ :: rest => .ok (s, rest)
  | left => faultAt sourceEnd (left.drop 1) (.expected what)

/-- The literal a word stands for in any letter case. -/
def literalWord? (name : String) : Option Value :=
  match String.ofList (name.toList.map Char.toLower) with
  | "true" => some (.bool true)
  | "false" => some (.bool false)
  | "null" => some .null
  | _ => none

mutual

/-- An expression: a conditional one, or two of which the second stands in for the first. -/
def expression (sourceEnd : Nat) : (fuel : Nat) → List Lexeme → Except ScriptError (Read Expr)
  | 0, left => faultAt sourceEnd left .unexpectedEnd
  | fuel + 1, left => do
    let (e, left) ← conditional sourceEnd fuel left
    match eat? .coalesce left with
    | none => .ok (e, left)
    | some left =>
      let (other, left) ← expression sourceEnd fuel left
      .ok (.coalesce e other, left)

/-- A conditional expression, or only its condition. -/
def conditional (sourceEnd : Nat) : (fuel : Nat) → List Lexeme → Except ScriptError (Read Expr)
  | 0, left => faultAt sourceEnd left .unexpectedEnd
  | fuel + 1, left => do
    let (condition, left) ← binary sourceEnd fuel 1 left
    match eat? .question left with
    | none => .ok (condition, left)
    | some left =>
      let (yes, left) ← expression sourceEnd fuel left
      let left ← expect sourceEnd .colon .colonInTernary left
      let (no, left) ← conditional sourceEnd fuel left
      .ok (.ternary condition yes no, left)

/-- Operands joined by operators that bind at least as tightly as `level`. -/
def binary (sourceEnd : Nat) : (fuel : Nat) → (level : Nat) → List Lexeme →
    Except ScriptError (Read Expr)
  | 0, _, left => faultAt sourceEnd left .unexpectedEnd
  | fuel + 1, level, left => do
    let (e, left) ← unary sourceEnd fuel left
    binaryRest sourceEnd fuel level e left

/-- The operators and operands after the first operand `e`, as far as they bind at least as tightly
as `level`. -/
def binaryRest (sourceEnd : Nat) : (fuel : Nat) → (level : Nat) → Expr → List Lexeme →
    Except ScriptError (Read Expr)
  | 0, _, _, left => faultAt sourceEnd left .unexpectedEnd
  | fuel + 1, level, e, left =>
    match binaryOp? left with
    | none => .ok (e, left)
    | some (op, rest) =>
      if op.precedence < level then .ok (e, left)
      else do
        let (right, left) ← binary sourceEnd fuel (op.precedence + 1) rest
        binaryRest sourceEnd fuel level (.binary op e right) left

/-- An operand with any number of signs in front. -/
def unary (sourceEnd : Nat) : (fuel : Nat) → List Lexeme → Except ScriptError (Read Expr)
  | 0, left => faultAt sourceEnd left .unexpectedEnd
  | fuel + 1, left =>
    match eat? .not left with
    | some left => do
      let (e, left) ← unary sourceEnd fuel left
      .ok (.unary .not e, left)
    | none =>
      match eat? .minus left with
      | some left => do
        let (e, left) ← unary sourceEnd fuel left
        .ok (.unary .negate e, left)
      | none => steps sourceEnd fuel left

/-- An operand with its index, property and method steps. -/
def steps (sourceEnd : Nat) : (fuel : Nat) → List Lexeme → Except ScriptError (Read Expr)
  | 0, left => faultAt sourceEnd left .unexpectedEnd
  | fuel + 1, left => do
    let (e, left) ← primary sourceEnd fuel left
    stepsRest sourceEnd fuel e left

/-- The steps after what has been read as `e`. -/
def stepsRest (sourceEnd : Nat) : (fuel : Nat) → Expr → List Lexeme → Except ScriptError (Read Expr)
  | 0, _, left => faultAt sourceEnd left .unexpectedEnd
  | fuel + 1, e, left =>
    match eat? .openBracket left with
    | some left => do
      let (position, left) ← expression sourceEnd fuel left
      let left ← expect sourceEnd .closeBracket .closeBracket left
      stepsRest sourceEnd fuel (.index e position) left
    | none =>
      match eat? .arrow left with
      | none => .ok (e, left)
      | some left => do
        let (name, left) ← expectWord sourceEnd .propertyName left
        match eat? .openParen left with
        | none => stepsRest sourceEnd fuel (.property e name) left
        | some left =>
          let (args, left) ← arguments sourceEnd fuel left
          stepsRest sourceEnd fuel (.method e name args) left

/-- A variable, a literal, a parenthesised expression, an array literal or a call. -/
def primary (sourceEnd : Nat) : (fuel : Nat) → List Lexeme → Except ScriptError (Read Expr)
  | 0, left => faultAt sourceEnd left .unexpectedEnd
  | _ + 1, [] => faultAt sourceEnd [] .unexpectedEnd
  | fuel + 1, l :: left =>
    match l.token with
    | .var name => .ok (.var name, left)
    | .integer n => .ok (.literal (.ofNat n), left)
    | .float x => .ok (.literal (.ofFloat x), left)
    | .text s => .ok (.literal (.text s), left)
    | .symbol .openParen => do
      let (e, left) ← expression sourceEnd fuel left
      let left ← expect sourceEnd .closeParen .closeParen left
      .ok (e, left)
    | .symbol .openBracket => do
      let (entries, left) ← entries sourceEnd fuel left
      .ok (.array entries, left)
    | .symbol s => faultAt sourceEnd (l :: left) (.unexpectedSymbol s)
    | .word name => named sourceEnd fuel name left

/-- What a word starts: a literal, a view call, a static call or a plain call. -/
def named (sourceEnd : Nat) : (fuel : Nat) → (name : String) → List Lexeme →
    Except ScriptError (Read Expr)
  | 0, _, left => faultAt sourceEnd left .unexpectedEnd
  | fuel + 1, name, left =>
    match literalWord? name with
    | some v => .ok (.literal v, left)
    | none =>
      if name = viewCallWord then do
        let left ← expect sourceEnd .openParen .viewCallParen left
        let (function, left) ← expectText sourceEnd .viewFunctionName left
        match eat? .comma left with
        | some left =>
          let (args, left) ← arguments sourceEnd fuel left
          .ok (.viewCall function args, left)
        | none =>
          let left ← expect sourceEnd .closeParen .closeParen left
          .ok (.viewCall function [], left)
      else
        match eat? .doubleColon left with
        | some left => do
          let (member, left) ← expectWord sourceEnd .staticName left
          let left ← expect sourceEnd .openParen .staticParen left
          let (args, left) ← arguments sourceEnd fuel left
          .ok (.call (name ++ "::" ++ member) args, left)
        | none =>
          match eat? .openParen left with
          | some left => do
            let (args, left) ← arguments sourceEnd fuel left
            .ok (.call name args, left)
          | none => faultAt sourceEnd left (.bareWord name)

/-- The arguments of a call behind its opening parenthesis, through the closing one. -/
def arguments (sourceEnd : Nat) : (fuel : Nat) → List Lexeme → Except ScriptError (Read (List Expr))
  | 0, left => faultAt sourceEnd left .unexpectedEnd
  | fuel + 1, left =>
    match eat? .closeParen left with
    | some left => .ok ([], left)
    | none => argumentsRest sourceEnd fuel left

/-- At least one argument, through the closing parenthesis. -/
def argumentsRest (sourceEnd : Nat) : (fuel : Nat) → List Lexeme →
    Except ScriptError (Read (List Expr))
  | 0, left => faultAt sourceEnd left .unexpectedEnd
  | fuel + 1, left => do
    let (e, left) ← expression sourceEnd fuel left
    match eat? .closeParen left with
    | some left => .ok ([e], left)
    | none =>
      let left ← expect sourceEnd .comma .argumentEnd left
      let (others, left) ← argumentsRest sourceEnd fuel left
      .ok (e :: others, left)

/-- The entries of an array literal behind its opening bracket, through the closing one.  A comma
may stand behind the last entry. -/
def entries (sourceEnd : Nat) : (fuel : Nat) → List Lexeme →
    Except ScriptError (Read (List (Option Expr × Expr)))
  | 0, left => faultAt sourceEnd left .unexpectedEnd
  | fuel + 1, left =>
    match eat? .closeBracket left with
    | some left => .ok ([], left)
    | none => do
      let (entry, left) ← entry sourceEnd fuel left
      match eat? .comma left with
      | some left =>
        let (others, left) ← entries sourceEnd fuel left
        .ok (entry :: others, left)
      | none =>
        match eat? .closeBracket left with
        | some left => .ok ([entry], left)
        | none => faultAt sourceEnd left (.expected .entryEnd)

/-- One entry of an array literal: a value, or a key and a value. -/
def entry (sourceEnd : Nat) : (fuel : Nat) → List Lexeme →
    Except ScriptError (Read (Option Expr × Expr))
  | 0, left => faultAt sourceEnd left .unexpectedEnd
  | fuel + 1, left => do
    let (first, left) ← expression sourceEnd fuel left
    match eat? .fatArrow left with
    | none => .ok ((none, first), left)
    | some left =>
      let (value, left) ← expression sourceEnd fuel left
      .ok ((some first, value), left)

end

/-! ## Statements -/

/-- The fuel that reading a row of lexemes cannot use up. -/
def enoughFuel (left : List Lexeme) : Nat :=
  10 * left.length + 10

/-- An expression that must name a place. -/
def asPlace (e : Expr) : Except ScriptError Expr :=
  if e.isPlace then .ok e else .error (.invalidAssignment e)

/-- At least one expression, separated by commas.  `fuel` bounds their number. -/
def expressionList (sourceEnd : Nat) : (fuel : Nat) → List Lexeme →
    Except ScriptError (Read (List Expr))
  | 0, left => faultAt sourceEnd left .unexpectedEnd
  | fuel + 1, left => do
    let (e, left) ← expression sourceEnd (enoughFuel left) left
    match eat? .comma left with
    | none => .ok ([e], left)
    | some left =>
      let (others, left) ← expressionList sourceEnd fuel left
      .ok (e :: others, left)

/-- What an expression at the front of a statement becomes: the target of an assignment, an
increment or a decrement, or a statement of its own. -/
def finishStatement (sourceEnd : Nat) (e : Expr) (left : List Lexeme) :
    Except ScriptError (Read Stmt) :=
  match left with
  | ⟨.symbol .increment, _, _⟩ :: rest => do
    let target ← asPlace e
    .ok (.increment target, rest)
  | ⟨.symbol .decrement, _, _⟩ :: rest => do
    let target ← asPlace e
    .ok (.decrement target, rest)
  | ⟨.symbol s, _, _⟩ :: rest =>
    match AssignOp.ofSymbol? s with
    | none => .ok (.expr e, left)
    | some op => do
      let target ← asPlace e
      let (value, rest) ← expression sourceEnd (enoughFuel rest) rest
      .ok (.assign target op value, rest)
  | _ => .ok (.expr e, left)

def statement (sourceEnd : Nat) (left : List Lexeme) : Except ScriptError (Read Stmt) :=
  match left with
  | ⟨.word "echo", _, _⟩ :: rest => do
    let (values, rest) ← expressionList sourceEnd (rest.length + 1) rest
    .ok (.echo values, rest)
  | ⟨.symbol .increment, _, _⟩ :: rest => do
    let (e, rest) ← steps sourceEnd (enoughFuel rest) rest
    let target ← asPlace e
    .ok (.increment target, rest)
  | ⟨.symbol .decrement, _, _⟩ :: rest => do
    let (e, rest) ← steps sourceEnd (enoughFuel rest) rest
    let target ← asPlace e
    .ok (.decrement target, rest)
  | _ => do
    let (e, rest) ← expression sourceEnd (enoughFuel left) left
    finishStatement sourceEnd e rest

/-- Statements separated by semicolons, empty ones left out.  `fuel` bounds their number. -/
def statements (sourceEnd : Nat) : (fuel : Nat) → List Lexeme → Except ScriptError (List Stmt)
  | _, [] => .ok []
  | 0, left => faultAt sourceEnd left .unexpectedEnd
  | fuel + 1, l :: left =>
    match eat? .semicolon (l :: left) with
    | some rest => statements sourceEnd fuel rest
    | none => do
      let (s, rest) ← statement sourceEnd (l :: left)
      match rest with
      | [] => .ok [s]
      | _ =>
        let rest ← expect sourceEnd .semicolon .statementEnd rest
        let others ← statements sourceEnd fuel rest
        .ok (s :: others)

/-! ## Whole sources -/

/-- The lexemes of a source and the position of its end. -/
def lexemesOf (source : List Char) : Except ScriptError (List Lexeme × Nat) :=
  match strictLexemes source with
  | .ok found => .ok (found, byteSize source)
  | .error offset => .error (.malformed offset .unrecognised)

/-- Nothing may be left. -/
def atEnd {α : Type} (sourceEnd : Nat) (found : Read α) : Except ScriptError α :=
  match found.2 with
  | [] => .ok found.1
  | left => faultAt sourceEnd left .trailing

/-- Read a source that is one expression. -/
def parseExpression (source : List Char) : Except ScriptError Expr := do
  let (found, sourceEnd) ← lexemesOf source
  atEnd sourceEnd (← expression sourceEnd (enoughFuel found) found)

/-- Read a source that is a row of expressions separated by commas, possibly empty. -/
def parseArguments (source : List Char) : Except ScriptError (List Expr) := do
  let (found, sourceEnd) ← lexemesOf source
  match found with
  | [] => .ok []
  | _ => atEnd sourceEnd (← expressionList sourceEnd (found.length + 1) found)

/-- Read a source that is a row of statements. -/
def parseStatements (source : List Char) : Except ScriptError (List Stmt) := do
  let (found, sourceEnd) ← lexemesOf source
  statements sourceEnd (found.length + 1) found

end ViewTemplate.Script
