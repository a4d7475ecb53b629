import ViewTemplate.View.Basic

/-!
# Factories

A factory makes views by name from templates it holds in memory.  Builders registered under a name
prepare every view made under it, in the order in which they were registered.  A builder may
register further builders; those prepare only views made later.

What a builder does may depend on the view it sees, so a factory leaves open what its builders are
(`FactoryOf`).  `Factory` is the one whose builders are written down once and for all.
-/

namespace ViewTemplate

/-- Why there is no view of a name. -/
inductive FactoryError where
  | notFound (name : String)
  | load (path reason : String)
  deriving Repr, DecidableEq

def FactoryError.message : FactoryError → String
  | notFound name => "view '" ++ name ++ "' not found"
  | load path reason => "could not load view '" ++ path ++ "': " ++ reason

/-- A change to a view that is being made. -/
inductive Edit where
  | setVar (name : String) (v : Value)
  | setVars (vars : Vars)
  | setContents (contents : String)
  | setDelimiters (kind : DelimiterKind) (pair : DelimiterPair)

/-- The view after a change.  Its name never changes. -/
def Edit.apply (view : View) : Edit → View
  | setVar name v => view.setVar name v
  | setVars vars => view.setVars vars
  | setContents contents => view.setContents contents
  | setDelimiters kind pair => view.setDelimiters kind pair

/-- What a builder does when it sees a view: it changes the view, and it registers builders under
names. -/
structure Preparation (β : Type) where
  edits : List Edit
  registers : List (String × β)

/-- The view after a builder has prepared it. -/
def Preparation.apply {β : Type} (p : Preparation β) (view : View) : View :=
  p.edits.foldl Edit.apply view

/-- Templates in memory, builders by name, and the delimiters of the views made. -/
structure FactoryOf (β : Type) where
  templates : Bindings String := []
  builders : Bindings (List β) := []
  delimiters : Delimiters := {}

namespace FactoryOf

variable {β : Type}

def addTemplate (f : FactoryOf β) (name contents : String) : FactoryOf β :=
  { f with templates := Bindings.bind f.templates name contents }

/-- The builders registered under a name, in order. -/
def buildersOf (f : FactoryOf β) (name : String) : List β :=
  (Bindings.find? f.builders name).getD []

/-- Register a builder under a name, behind the others. -/
def register (f : FactoryOf β) (name : String) (b : β) : FactoryOf β :=
  { f with builders := Bindings.bind f.builders name (f.buildersOf name ++ [b]) }

def has (f : FactoryOf β) (name : String) : Bool :=
  Bindings.has f.templates name

/-- Let a builder prepare a view and register what it registers.  `prepare` tells what a builder
does. -/
def build (prepare : β → View → Preparation β) (made : View × FactoryOf β) (b : β) :
    View × FactoryOf β :=
  let p := prepare b made.1
  (p.apply made.1, p.registers.foldl (fun f entry => f.register entry.1 entry.2) made.2)

/-- Make a view.  The builders that run are those registered when it starts. -/
def create (prepare : β → View → Preparation β) (f : FactoryOf β) (name : String) :
    Except FactoryError View × FactoryOf β :=
  match Bindings.find? f.templates name with
  | none => (.error (.notFound name), f)
  | some contents =>
    let made := (f.buildersOf name).foldl (build prepare)
      ({ name, contents, delimiters := f.delimiters }, f)
    (.ok made.1, made.2)

end FactoryOf

/-- A builder that does the same with every view: the changes it makes, and the builders it
registers under the names given. -/
inductive Builder where
  | mk (edits : List Edit) (registers : List (String × Builder))
  deriving Inhabited

/-- What a builder does with a view. -/
def Builder.prepare : Builder → View → Preparation Builder
  | mk edits registers, _ => ⟨edits, registers⟩

/-- A factory whose builders do the same with every view. -/
abbrev Factory := FactoryOf Builder

def Factory.create (f : Factory) (name : String) : Except FactoryError View × Factory :=
  FactoryOf.create Builder.prepare f name

end ViewTemplate
