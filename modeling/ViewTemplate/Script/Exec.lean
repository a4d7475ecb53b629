import ViewTemplate.Script.Place

/-!
# Running statements

Statements change variables and write text.  A run that fails keeps what the statements before the
failing one did, and what the failing one had written.
-/

namespace ViewTemplate.Script

/-- What a run of statements leaves behind. -/
structure Run where
  vars : Vars
  /-- The text written so far. -/
  out : String
  /-- Why the run stopped early, if it did. -/
  error : Option ScriptError

/-- Write the values of expressions, up to the first that fails. -/
def echo (functions : Functions) (vars : Vars) : String → List Expr → Run
  | out, [] => ⟨vars, out, none⟩
  | out, e :: rest =>
    match eval functions vars e with
    | .ok v => echo functions vars (out ++ v.display) rest
    | .error err => ⟨vars, out, some err⟩

/-- The variables after an assignment. -/
def runAssign (functions : Functions) (vars : Vars) (target : Expr) (op : AssignOp) (value : Expr) :
    Except ScriptError Vars := do
  let v ← eval functions vars value
  match op.combine? with
  | none => assign functions vars target v
  | some op =>
    let old ← current functions vars target
    let v ← op.apply old v
    assign functions vars target v

/-- The variables after one has been added to a place or taken from it. -/
def runStep (functions : Functions) (vars : Vars) (target : Expr) (op : ArithmeticOp) :
    Except ScriptError Vars := do
  let old ← current functions vars target
  let v ← arithmetic op old (.ofInt 1)
  assign functions vars target v

/-- Go on with changed variables, or stop with the ones before. -/
def Run.ofVars (vars : Vars) (out : String) : Except ScriptError Vars → Run
  | .ok changed => ⟨changed, out, none⟩
  | .error e => ⟨vars, out, some e⟩

def runStatement (functions : Functions) (vars : Vars) (out : String) : Stmt → Run
  | .echo values => echo functions vars out values
  | .expr e => .ofVars vars out ((eval functions vars e).map fun _ => vars)
  | .assign target op value => .ofVars vars out (runAssign functions vars target op value)
  | .increment target => .ofVars vars out (runStep functions vars target .add)
  | .decrement target => .ofVars vars out (runStep functions vars target .subtract)

/-- Run statements in order, up to the first that fails. -/
def runStatements (functions : Functions) : Vars → String → List Stmt → Run
  | vars, out, [] => ⟨vars, out, none⟩
  | vars, out, s :: rest =>
    match runStatement functions vars out s with
    | ⟨vars, out, none⟩ => runStatements functions vars out rest
    | stopped => stopped

end ViewTemplate.Script
