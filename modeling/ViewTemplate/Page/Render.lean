import ViewTemplate.Page.Engine
import ViewTemplate.Page.Parts
import ViewTemplate.Program.Machine
import ViewTemplate.Script.Exec

/-!
# Rendering a page

A view is rendered by running its program.  While it runs it may put other views in places of its
own; when it has run and has named a parent, the parent is rendered behind it, one generation
further out.  All views of a page share one table of parts and the source that makes views by name.

Rendering is recursive in the number of views that may still be rendered inside of one another, so a
page of views that call each other without end stops with an error.
-/

namespace ViewTemplate

open ViewTemplate.Program (Action Linked Machine Outcome)

/-- What makes views by name.  Making a view may change what makes it. -/
abbrev ViewSource (φ : Type) := φ → String → Except FactoryError View × φ

/-- What all views of a page share. -/
structure Shared (φ : Type) where
  parts : PartTable := {}
  source : φ

/-- The state of a view that runs. -/
structure Running (φ : Type) where
  scope : Vars
  out : Output
  /-- The name of the parent, if the view has named one. -/
  parent : Option String
  shared : Shared φ

/-- How the rendering of a view ends. -/
inductive Rendering (φ : Type) where
  /-- The text, and the view with the variables of its ancestors. -/
  | done (text : String) (view : View) (shared : Shared φ)
  /-- The error, and the view as the failure left it. -/
  | failed (e : PageError) (view : View) (shared : Shared φ)
  /-- A program used up its steps. -/
  | unfinished

/-- How a view inside of another one is rendered: at a generation and with a scope. -/
abbrev RenderInner (φ : Type) := (generation : Nat) → Vars → View → Shared φ → Rendering φ

/-- A view that runs, and its place in the page. -/
structure ViewPlace where
  /-- The name of the view. -/
  view : String
  generation : Nat

namespace Running

variable {φ : Type}

/-- Write to the output. -/
def write (r : Running φ) (s : String) : Running φ :=
  { r with out := r.out.write s }

/-- Write the text of a part. -/
def writePart (r : Running φ) (name : String) : Running φ :=
  r.write (r.shared.parts.resolve name)

def define (r : Running φ) (name : String) (generation : Nat) (text : String) : Running φ :=
  { r with shared := { r.shared with parts := r.shared.parts.define name generation text } }

/-- Close the innermost open part and define it, if there is one. -/
def endPart? (r : Running φ) (generation : Nat) : Option (OpenPart × Running φ) :=
  r.out.closePart?.map fun (part, out) =>
    (part, { r with out }.define part.name generation part.text)

end Running

/-- The variables a value stands for when another view is put in place. -/
def explicitVars (line : Nat) : Value → Except PageError Vars
  | .map entries => .ok entries
  | .list [] => .ok []
  | .null => .ok []
  | v => .error (.script line (.invalidArgument "include" (.notVariables v.kind)))

/-- The items that a loop over a value goes through. -/
def loopItems (v : Value) (line : Nat) : Except PageError (List (Value × Value)) :=
  match v.items? with
  | some items => .ok items
  | none => .error (.script line (.wrongType (.notIterable v.kind)))

/-- The scope of a loop body: its names bound to an item and the key of the item. -/
def bindItem (key : Option String) (value : String) (item : Value × Value) (scope : Vars) : Vars :=
  let scope := match key with
    | some name => Bindings.bind scope name item.1
    | none => scope
  Bindings.bind scope value item.2

namespace Engine

variable {φ : Type}

/-- The value of an expression on a line of a page. -/
def evalAt (engine : Engine) (e : Script.Expr) (line : Nat) (scope : Vars) :
    Except PageError Value :=
  match Script.eval engine.calls scope e with
  | .ok v => .ok v
  | .error err => .error (.ofScript line err)

/-- Evaluate an expression and go on, or stop with its error. -/
def withValue (engine : Engine) (e : Script.Expr) (line : Nat) (r : Running φ)
    (go : Value → Outcome PageError (Running φ)) : Outcome PageError (Running φ) :=
  match engine.evalAt e line r.scope with
  | .ok v => go v
  | .error err => .failed err r

/-- Put another view in place, with its scope and more variables. -/
def embed (create : ViewSource φ) (inner : RenderInner φ) (generation : Nat) (name : String)
    (explicit : Vars) (r : Running φ) : Outcome PageError (Running φ) :=
  let (made, source) := create r.shared.source name
  let r := { r with shared := { r.shared with source } }
  match made with
  | .error e => .failed (.factory e) r
  | .ok view =>
    let scope := Bindings.overlay (Bindings.overlay r.scope view.vars) explicit
    match inner generation scope view r.shared with
    | .done text _ shared => .done ({ r with shared }.write text)
    | .failed e _ shared => .failed e { r with shared }
    | .unfinished => .unfinished

/-- Do what an action says. -/
def perform (engine : Engine) (create : ViewSource φ) (place : ViewPlace) (inner : RenderInner φ)
    (a : Action) (line : Nat) (r : Running φ) : Outcome PageError (Running φ) :=
  match a with
  | .text s => .done (r.write s)
  | .echo e sanitize =>
    engine.withValue e line r fun v =>
      .done (r.write (if sanitize then engine.sanitize v.display else v.display))
  | .run statements =>
    match Script.runStatements engine.calls r.scope "" statements with
    | ⟨scope, out, none⟩ => .done ({ r with scope }.write out)
    | ⟨_, _, some e⟩ => .failed (.ofScript line e) r
  | .inherit name =>
    engine.withValue name line r fun v =>
      match r.parent with
      | some parent => .failed (.multipleParents place.view parent line) r
      | none => .done { r with parent := some v.display }
  | .embed name none =>
    engine.withValue name line r fun v =>
      embed create inner place.generation v.display [] r
  | .embed name (some vars) =>
    engine.withValue name line r fun v =>
      engine.withValue vars line r fun more =>
        match explicitVars line more with
        | .error e => .failed e r
        | .ok explicit => embed create inner place.generation v.display explicit r
  | .startPart name =>
    engine.withValue name line r fun v => .done { r with out := r.out.openPart v.display line }
  | .endPart =>
    match r.endPart? place.generation with
    | some (_, r) => .done r
    | none => .failed (.noOpenPart "endpart" line) r
  | .parent =>
    if r.out.parts.isEmpty then .failed (.noOpenPart "parent" line) r
    else .done (r.write parentPlace)
  | .showPart none =>
    match r.endPart? place.generation with
    | some (part, r) => .done (r.writePart part.name)
    | none =>
      match r.shared.parts.lastDefined with
      | some name => .done (r.writePart name)
      | none => .done r
  | .showPart (some name) => engine.withValue name line r fun v => .done (r.writePart v.display)

/-- The machine that runs the program of a view. -/
def machine (engine : Engine) (create : ViewSource φ) (place : ViewPlace) (inner : RenderInner φ) :
    Machine PageError (Running φ) where
  act := engine.perform create place inner
  eval e line r := engine.evalAt e line r.scope
  items := loopItems
  bind key value item r := { r with scope := bindItem key value item r.scope }

/-- The views from the first rendering of a name on and the name again, if a view of that name is
being rendered.  Views without a name are never the same. -/
def cycle? (active : List String) (name : String) : Option (List String) :=
  if name.isEmpty then none
  else if active.contains name then some (active.dropWhile (· != name) ++ [name])
  else none

/-- What is left to do when the program of a view has run: trim the output and, if the view has
named a parent, render the parent behind it. -/
def conclude (create : ViewSource φ) (inner : RenderInner φ) (generation : Nat) (view : View)
    (r : Running φ) : Rendering φ :=
  match r.out.parts with
  | part :: _ => .failed (.unclosedPart part.name part.line) view r.shared
  | [] =>
    let text := Text.trimBlankLinesString r.out.text
    match r.parent with
    | none => .done text view r.shared
    | some name =>
      let (made, source) := create r.shared.source name
      let shared := { r.shared with source }
      match made with
      | .error e => .failed (.factory e) view shared
      | .ok parent =>
        match inner (generation + 1) (Bindings.overlay parent.vars r.scope) parent shared with
        | .done outer parent shared =>
          .done (Text.trimBlankLinesString (text ++ outer)) (view.inherit parent) shared
        | .failed e _ shared => .failed e view shared
        | .unfinished => .unfinished

/-- Run the program of a view and then render its parent.  `inner` renders the parent and the views
that are put in place. -/
def renderWith (engine : Engine) (create : ViewSource φ) (steps : Nat) (inner : RenderInner φ) :
    RenderInner φ := fun generation scope view shared =>
  match engine.program view with
  | .error e => .failed e view shared
  | .ok program =>
    let machine := engine.machine create ⟨view.name, generation⟩ inner
    match machine.runAll program steps ⟨scope, {}, none, shared⟩ with
    | .unfinished => .unfinished
    | .failed e r => .failed e view r.shared
    | .done r => conclude create inner generation view r

/-- Render a view.  `room` is the number of views that may still be rendered inside of one another,
`active` are the names of those being rendered, the outermost first.  Every program may take `steps`
steps. -/
def render (engine : Engine) (create : ViewSource φ) (steps : Nat) :
    (room : Nat) → (active : List String) → RenderInner φ
  | 0, _, _, _, view, shared => .failed (.depthExceeded engine.maxDepth) view shared
  | room + 1, active, generation, scope, view, shared =>
    match cycle? active view.name with
    | some chain => .failed (.inheritanceCycle chain) view shared
    | none =>
      engine.renderWith create steps (engine.render create steps room (active ++ [view.name]))
        generation scope view shared

/-- Render a page: a view with its own variables, nothing defined yet. -/
def renderPage (engine : Engine) (create : ViewSource φ) (steps : Nat) (view : View) (source : φ) :
    Rendering φ :=
  engine.render create steps engine.maxDepth [] 0 view.vars view { source }

end Engine

/-- As many steps as no program takes in any time that matters. -/
def unlimitedSteps : Nat := 0x4000000000000000

end ViewTemplate
