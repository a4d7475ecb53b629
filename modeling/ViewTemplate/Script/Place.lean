import ViewTemplate.Script.Eval

/-!
# Places and assignments

A place is a variable and a path of keys and property names into its value.  Storing a value at a
place makes the maps on the way that are not there yet, and puts an item behind the last one of a
list; it either succeeds as a whole or changes nothing.
-/

namespace ViewTemplate.Script

/-- One step of a path. -/
inductive PathStep where
  /-- A computed key: a position in a list or a name in a map. -/
  | key (k : Value)
  /-- A property name, which only maps have. -/
  | property (name : String)

/-- A variable and the path into its value. -/
structure Place where
  root : String
  path : List PathStep

/-- The place an expression names.  The keys are evaluated from the last one to the first. -/
def placeOf (functions : Functions) (vars : Vars) : Expr → Except ScriptError Place
  | .var name => .ok ⟨name, []⟩
  | .index target position => do
    let k ← eval functions vars position
    let place ← placeOf functions vars target
    .ok { place with path := place.path ++ [.key k] }
  | .property target name => do
    let place ← placeOf functions vars target
    .ok { place with path := place.path ++ [.property name] }
  | e => .error (.invalidAssignment e)

/-- The value with `v` stored at the end of a path.  Null stands for an empty map. -/
def store (v : Value) : (path : List PathStep) → Value → Except ScriptError Value
  | [], _ => .ok v
  | step :: path, old =>
    let container : Value := match old with
      | .null => .map []
      | other => other
    match container, step with
    | .list items, .key k =>
      match k with
      | .number n =>
        match n.toIndex? with
        | none => .error (.wrongType (.badListKey k))
        | some i =>
          if i = items.length then do
            let item ← store v path .null
            .ok (.list (items ++ [item]))
          else
            match items[i]? with
            | none => .error (.undefinedIndex (Decimal.natText i))
            | some item => do
              let item ← store v path item
              .ok (.list (items.set i item))
      | _ => .error (.wrongType (.badListKey k))
    | .map entries, .key k => do
      let item ← store v path ((Bindings.find? entries k.display).getD .null)
      .ok (.map (Bindings.bind entries k.display item))
    | .map entries, .property name => do
      let item ← store v path ((Bindings.find? entries name).getD .null)
      .ok (.map (Bindings.bind entries name item))
    | other, _ => .error (.wrongType (.notAssignable other.kind))

/-- Store a value at a place. -/
def assignPlace (vars : Vars) (place : Place) (v : Value) : Except ScriptError Vars := do
  let value ← store v place.path ((Bindings.find? vars place.root).getD .null)
  .ok (Bindings.bind vars place.root value)

/-- Store a value at the place an expression names. -/
def assign (functions : Functions) (vars : Vars) (target : Expr) (v : Value) :
    Except ScriptError Vars := do
  let place ← placeOf functions vars target
  assignPlace vars place v

/-- The value at the place an expression names; what is not there reads as null. -/
def current (functions : Functions) (vars : Vars) (target : Expr) : Except ScriptError Value :=
  match eval functions vars target with
  | .ok v => .ok v
  | .error e => if isMissing e then .ok .null else .error e

end ViewTemplate.Script
