import ViewTemplate.Script.Error

/-!
# View functions

View functions are called from templates by name.  A function that fails says why; the call adds its
name.
-/

namespace ViewTemplate

/-- A function that templates can call. -/
abbrev ViewFunction := List Value → Except String Value

abbrev ViewFunctions := Bindings ViewFunction

namespace ViewFunctions

def call (functions : ViewFunctions) (name : String) (args : List Value) :
    Except FunctionError Value :=
  match Bindings.find? functions name with
  | none => .error (.unknown name)
  | some run =>
    match run args with
    | .ok v => .ok v
    | .error reason => .error (.failed name reason)

end ViewFunctions

/-- Names in their order as texts. -/
def sortedNames (names : List String) : List String :=
  names.mergeSort fun a b => decide (a ≤ b)

end ViewTemplate
