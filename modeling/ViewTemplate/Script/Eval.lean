import ViewTemplate.Script.Arithmetic

/-!
# The value of an expression

Expressions are evaluated against variables, which they cannot change, and against the functions
that calls go to.  `&&`, `||`, `?:` and `??` evaluate only the operands they need.
-/

namespace ViewTemplate.Script

/-- Where the calls of a script go. -/
structure Functions where
  /-- The plain functions. -/
  plain : String → List Value → Except ScriptError Value
  /-- The view functions. -/
  view : String → List Value → Except FunctionError Value

/-- Whether an error says that what was read is not there. -/
def isMissing : ScriptError → Bool
  | .undefinedVariable _ => true
  | .undefinedIndex _ => true
  | _ => false

/-- The result of a view function inside a script. -/
def liftFunction : Except FunctionError Value → Except ScriptError Value
  | .ok v => .ok v
  | .error e => .error (.viewFunction e)

/-- The least number from `start` on whose numeral is no name of the map.  Among one more candidates
than the map has names one is always free. -/
def freeIndex (entries : Bindings Value) (start : Nat) : Nat :=
  let isFree (i : Nat) := !Bindings.has entries (Decimal.natText (start + i))
  start + ((List.range (entries.length + 1)).find? isFree).getD 0

mutual

/-- The value of an expression. -/
def eval (functions : Functions) (vars : Vars) : Expr → Except ScriptError Value
  | .literal v => .ok v
  | .var name =>
    match Bindings.find? vars name with
    | some v => .ok v
    | none => .error (.undefinedVariable name)
  | .array entries =>
    if entries.all (·.1.isNone) then (evalItems functions vars entries).map .list
    else (evalEntries functions vars [] 0 entries).map .map
  | .index target position => do
    let t ← eval functions vars target
    let p ← eval functions vars position
    indexed t p
  | .property target name => do
    let t ← eval functions vars target
    indexed t (.text name)
  | .call name args => do
    let vs ← evalAll functions vars args
    functions.plain name vs
  | .viewCall name args => do
    let vs ← evalAll functions vars args
    liftFunction (functions.view name vs)
  | .method _ name _ => .error (.methodCall name)
  | .unary op operand => do
    let v ← eval functions vars operand
    op.apply v
  | .binary .or left right => do
    let a ← eval functions vars left
    if a.truthy then .ok (.bool true)
    else
      let b ← eval functions vars right
      .ok (.bool b.truthy)
  | .binary .and left right => do
    let a ← eval functions vars left
    if a.truthy then
      let b ← eval functions vars right
      .ok (.bool b.truthy)
    else .ok (.bool false)
  | .binary op left right => do
    let a ← eval functions vars left
    let b ← eval functions vars right
    op.apply a b
  | .coalesce left right =>
    match eval functions vars left with
    | .ok .null => eval functions vars right
    | .ok v => .ok v
    | .error e => if isMissing e then eval functions vars right else .error e
  | .ternary condition yes no => do
    let c ← eval functions vars condition
    if c.truthy then eval functions vars yes else eval functions vars no
termination_by structural e => e

/-- The values of expressions, from left to right. -/
def evalAll (functions : Functions) (vars : Vars) : List Expr → Except ScriptError (List Value)
  | [] => .ok []
  | e :: rest => do
    let v ← eval functions vars e
    let vs ← evalAll functions vars rest
    .ok (v :: vs)
termination_by structural es => es

/-- The values of the entries of an array literal without keys. -/
def evalItems (functions : Functions) (vars : Vars) :
    List (Option Expr × Expr) → Except ScriptError (List Value)
  | [] => .ok []
  | (_, e) :: rest => do
    let v ← eval functions vars e
    let vs ← evalItems functions vars rest
    .ok (v :: vs)
termination_by structural es => es

/-- The map of an array literal with keys.  An entry without one goes under the least number, from
`next` on, that is no name yet. -/
def evalEntries (functions : Functions) (vars : Vars) (entries : Bindings Value) (next : Nat) :
    List (Option Expr × Expr) → Except ScriptError (Bindings Value)
  | [] => .ok entries
  | (some key, e) :: rest => do
    let k ← eval functions vars key
    let v ← eval functions vars e
    evalEntries functions vars (Bindings.bind entries k.display v) next rest
  | (none, e) :: rest => do
    let free := freeIndex entries next
    let v ← eval functions vars e
    evalEntries functions vars (Bindings.bind entries (Decimal.natText free) v) free rest
termination_by structural es => es

end

end ViewTemplate.Script
