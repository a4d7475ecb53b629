import Mathlib.Tactic.Common
import ViewTemplate.Page.Render
import ViewTemplate.Proofs.BackPatching
import ViewTemplate.Proofs.BlockExecution
import ViewTemplate.Proofs.MachineSteps

/-!
# The views inside of a view

While a view is rendered it may ask for other views: those that its program puts in place, and its
parent.  `Engine.Asks` says which ones.  Nothing is said there of how the rendering ends, so it
also covers a rendering that fails behind the request or that never ends.

How a request is answered is all that an action gets to know of another view.  `perform_cases` says
this once for every action: what it does is either settled by the state, or it is one request and
what is made of the answer (`Running.resume`).  `Engine.Performs` lists what an action has done that
came to its end, and what every action keeps is read off that list (`performs_of_done`).
-/

namespace ViewTemplate

open ViewTemplate.Program (Action Ending Instruction Lined Linked Machine Outcome)

variable {φ : Type}

/-- A request to render a view: all that the rendering is given. -/
structure Request (φ : Type) where
  generation : Nat
  scope : Vars
  view : View
  shared : Shared φ

namespace Request

/-- How a request is answered. -/
def render (q : Request φ) (inner : RenderInner φ) : Rendering φ :=
  inner q.generation q.scope q.view q.shared

/-- The place of the requested view in the page. -/
def place (q : Request φ) : ViewPlace :=
  ⟨q.view.name, q.generation⟩

/-- Where the machine stands when the program of the requested view starts. -/
def start (q : Request φ) : Machine.State (Running φ) :=
  ⟨0, [], ⟨q.scope, {}, none, q.shared⟩⟩

end Request

/-- How a view goes on when the view it has put in place has been rendered. -/
def Running.resume (r : Running φ) : Rendering φ → Outcome PageError (Running φ)
  | .done text _ shared => .done ({ r with shared }.write text)
  | .failed e _ shared => .failed e { r with shared }
  | .unfinished => .unfinished

/-- The end of the rendering of a view with a known text, when the parent has been rendered. -/
def Rendering.behind (view : View) (text : String) : Rendering φ → Rendering φ
  | .done outer parent shared =>
    .done (Text.trimBlankLinesString (text ++ outer)) (view.inherit parent) shared
  | .failed e _ shared => .failed e view shared
  | .unfinished => .unfinished

namespace Engine

/-! ## The instructions of a view -/

/-- The instructions of the template of a view. -/
def instructions (engine : Engine) (view : View) : Except PageError (List (Lined Instruction)) := do
  let nodes ← engine.nodes view
  engine.instructionsOfAll nodes

/-- A program is assembled from the instructions of its view. -/
lemma exists_instructions {engine : Engine} {view : View} {program : Linked}
    (h : engine.program view = .ok program) :
    ∃ list, engine.instructions view = .ok list ∧ Program.assemble list = .ok program := by
  simp only [Engine.program, bind, Except.bind] at h
  cases hnodes : engine.nodes view with
  | error e => simp [hnodes] at h
  | ok nodes =>
    simp only [hnodes] at h
    cases hall : engine.instructionsOfAll nodes with
    | error e => simp [hall] at h
    | ok list =>
      simp only [hall] at h
      refine ⟨list, by simp [instructions, hnodes, hall, bind, Except.bind], ?_⟩
      cases hassemble : Program.assemble list with
      | error e => simp [hassemble] at h
      | ok linked => simpa [hassemble] using h

/-- The program of a view has no instruction of a kind.  A view without a program has none. -/
def Avoids (engine : Engine) (kind : Instruction → Bool) (view : View) : Prop :=
  ∀ list program, engine.instructions view = .ok list → Program.assemble list = .ok program →
    ∀ i ∈ list, kind i.item = false

/-- The check that a view has no instruction of a kind. -/
def avoids? (engine : Engine) (kind : Instruction → Bool) (view : View) : Bool :=
  (engine.instructions view).toOption.all fun list => list.all fun i => !kind i.item

lemma avoids_of_check {engine : Engine} {kind : Instruction → Bool} {view : View}
    (h : engine.avoids? kind view = true) : engine.Avoids kind view := by
  intro list program hlist _ i hi
  simp only [avoids?, hlist, Except.toOption, Option.all_some, List.all_eq_true] at h
  simpa using h i hi

/-- A program is linked from blocks without the instructions that its view avoids. -/
lemma Avoids.exists_blocks {engine : Engine} {kind : Instruction → Bool} {view : View}
    {program : Linked} (havoids : engine.Avoids kind view)
    (h : engine.program view = .ok program) :
    ∃ bs, program = Program.link bs ∧ ∀ i ∈ Program.flattenAll bs, kind i.item = false := by
  obtain ⟨list, hlist, hassemble⟩ := exists_instructions h
  obtain ⟨bs, rfl, rfl⟩ := Program.assemble_eq_ok hassemble
  exact ⟨bs, rfl, havoids _ _ hlist hassemble⟩

/-! ## Requests -/

/-- The variables given to a view that is put in place. -/
def explicitAt (engine : Engine) (vars : Option Script.Expr) (line : Nat) (scope : Vars) :
    Except PageError Vars :=
  match vars with
  | none => .ok []
  | some e =>
    match engine.evalAt e line scope with
    | .error err => .error err
    | .ok v => explicitVars line v

/-- The request for a view that has been made to be put in place. -/
def embedRequest (generation : Nat) (r : Running φ) (explicit : Vars) (view : View) (source : φ) :
    Request φ :=
  ⟨generation, Bindings.overlay (Bindings.overlay r.scope view.vars) explicit, view,
    { r.shared with source }⟩

/-- An action puts another view in place: the request it makes. -/
def Embeds (engine : Engine) (create : ViewSource φ) (generation : Nat) (a : Action) (line : Nat)
    (r : Running φ) (q : Request φ) : Prop :=
  ∃ name vars v explicit view source, a = .embed name vars ∧
    engine.evalAt name line r.scope = .ok v ∧ engine.explicitAt vars line r.scope = .ok explicit ∧
    create r.shared.source v.display = (.ok view, source) ∧
    q = embedRequest generation r explicit view source

/-- The request for the parent of a view that has run. -/
def parentRequest (generation : Nat) (r : Running φ) (parent : View) (source : φ) : Request φ :=
  ⟨generation + 1, Bindings.overlay parent.vars r.scope, parent, { r.shared with source }⟩

/-- The requests that are made while the program of a view runs, and then for its parent. -/
inductive Asks (engine : Engine) (create : ViewSource φ) (steps : Nat) (inner : RenderInner φ)
    (q : Request φ) : Request φ → Prop
  | embedded {program : Linked} {count : Nat} {state : Machine.State (Running φ)} {a : Action}
      {line : Nat} {other : Request φ} (hprogram : engine.program q.view = .ok program)
      (hgoes : (engine.machine create q.place inner).Goes program count q.start state)
      (hop : program[state.position]? = some ⟨.act a, line⟩)
      (hembeds : engine.Embeds create q.generation a line state.state other) :
      Asks engine create steps inner q other
  | parent {program : Linked} {r : Running φ} {name : String} {view : View} {source : φ}
      (hprogram : engine.program q.view = .ok program)
      (hrun : (engine.machine create q.place inner).runAll program steps q.start.state = .done r)
      (hparts : r.out.parts = []) (hname : r.parent = some name)
      (hmade : create r.shared.source name = (.ok view, source)) :
      Asks engine create steps inner q (parentRequest q.generation r view source)

variable {engine : Engine} {create : ViewSource φ}

lemma Embeds.parts_eq {generation : Nat} {a : Action} {line : Nat} {r : Running φ} {q : Request φ}
    (h : engine.Embeds create generation a line r q) : q.shared.parts = r.shared.parts := by
  obtain ⟨_, _, _, _, _, _, -, -, -, -, rfl⟩ := h
  rfl

/-! ## What an action does with another view -/

/-- Whatever renders the other views, an action ends in one way that is known beforehand. -/
def Settled (engine : Engine) (create : ViewSource φ) (place : ViewPlace) (a : Action) (line : Nat)
    (r : Running φ) : Prop :=
  ∃ ending : Ending PageError (Running φ), ∀ inner,
    engine.perform create place inner a line r = ending.outcome

lemma withValue_eq_done {e : Script.Expr} {line : Nat} {r r' : Running φ}
    {go : Value → Outcome PageError (Running φ)} (h : engine.withValue e line r go = .done r') :
    ∃ v, engine.evalAt e line r.scope = .ok v ∧ go v = .done r' := by
  unfold withValue at h
  split at h
  · exact ⟨_, ‹_›, h⟩
  · cases h

lemma settled_of_withValue {place : ViewPlace} {a : Action} {line : Nat} {r : Running φ}
    {e : Script.Expr} {go : Value → Outcome PageError (Running φ)}
    (h : ∀ inner, engine.perform create place inner a line r = engine.withValue e line r go)
    (hgo : ∀ v, ∃ ending : Ending PageError (Running φ), go v = ending.outcome) :
    engine.Settled create place a line r := by
  cases hv : engine.evalAt e line r.scope with
  | error err =>
    refine ⟨.failed err r, fun inner => ?_⟩
    rw [h inner, withValue, hv]
    rfl
  | ok v =>
    obtain ⟨ending, hending⟩ := hgo v
    refine ⟨ending, fun inner => ?_⟩
    rw [h inner, withValue, hv]
    exact hending

lemma embed_of_made {r : Running φ} {name : String} {view : View} {source : φ}
    (hmade : create r.shared.source name = (.ok view, source)) (inner : RenderInner φ)
    (generation : Nat) (explicit : Vars) :
    embed create inner generation name explicit r =
      r.resume ((embedRequest generation r explicit view source).render inner) := by
  simp only [embed, hmade, Request.render, embedRequest]
  cases inner generation (Bindings.overlay (Bindings.overlay r.scope view.vars) explicit) view
    { r.shared with source } <;> rfl

lemma embed_of_missing {r : Running φ} {name : String} {e : FactoryError} {source : φ}
    (hmade : create r.shared.source name = (.error e, source)) (inner : RenderInner φ)
    (generation : Nat) (explicit : Vars) :
    embed create inner generation name explicit r =
      .failed (.factory e) { r with shared := { r.shared with source } } := by
  simp only [embed, hmade]

lemma embed_eq_done {inner : RenderInner φ} {generation : Nat} {name : String} {explicit : Vars}
    {r r' : Running φ} (h : embed create inner generation name explicit r = .done r') :
    ∃ view source, create r.shared.source name = (.ok view, source) ∧
      r.resume ((embedRequest generation r explicit view source).render inner) = .done r' := by
  rcases hmade : create r.shared.source name with ⟨made, source⟩
  cases made with
  | error e =>
    rw [embed_of_missing hmade] at h
    cases h
  | ok view =>
    rw [embed_of_made hmade] at h
    exact ⟨view, source, rfl, h⟩

/-- Putting a view in place whose name and variables are known. -/
lemma perform_embed_cases {place : ViewPlace} {name : Script.Expr} {vars : Option Script.Expr}
    {line : Nat} {r : Running φ} {v : Value} (hv : engine.evalAt name line r.scope = .ok v)
    (explicit : Vars) (hexplicit : engine.explicitAt vars line r.scope = .ok explicit)
    (hperform : ∀ inner, engine.perform create place inner (.embed name vars) line r =
      embed create inner place.generation v.display explicit r) :
    engine.Settled create place (.embed name vars) line r ∨
    ∃ q, engine.Embeds create place.generation (.embed name vars) line r q ∧ ∀ inner,
      engine.perform create place inner (.embed name vars) line r = r.resume (q.render inner) := by
  rcases hmade : create r.shared.source v.display with ⟨made, source⟩
  cases made with
  | error e =>
    refine .inl ⟨.failed (.factory e) { r with shared := { r.shared with source } }, ?_⟩
    intro inner
    rw [hperform inner, embed_of_missing hmade]
    rfl
  | ok view =>
    refine .inr ⟨embedRequest place.generation r explicit view source,
      ⟨name, vars, v, explicit, view, source, rfl, hv, hexplicit, hmade, rfl⟩, ?_⟩
    intro inner
    rw [hperform inner, embed_of_made hmade]

/-- What an action does is either settled by the state, or it is a request and what is made of the
answer. -/
lemma perform_cases (engine : Engine) (create : ViewSource φ) (place : ViewPlace) (a : Action)
    (line : Nat) (r : Running φ) :
    engine.Settled create place a line r ∨
    ∃ q, engine.Embeds create place.generation a line r q ∧ ∀ inner,
      engine.perform create place inner a line r = r.resume (q.render inner) := by
  cases a with
  | text s => exact .inl ⟨.done (r.write s), fun _ => rfl⟩
  | echo e sanitize => exact .inl (settled_of_withValue (fun _ => rfl) fun v => ⟨.done _, rfl⟩)
  | run statements =>
    refine .inl ?_
    rcases hrun : Script.runStatements engine.calls r.scope "" statements with ⟨scope, out, error⟩
    cases error with
    | none => exact ⟨.done ({ r with scope }.write out), fun _ => by simp only [perform, hrun]; rfl⟩
    | some e => exact ⟨.failed (.ofScript line e) r, fun _ => by simp only [perform, hrun]; rfl⟩
  | inherit name =>
    refine .inl (settled_of_withValue (fun _ => rfl) fun v => ?_)
    cases r.parent with
    | none => exact ⟨.done _, rfl⟩
    | some parent => exact ⟨.failed _ r, rfl⟩
  -- only here is another view asked for, once its name and its variables are known
  | embed name vars =>
    cases hv : engine.evalAt name line r.scope with
    | error err =>
      refine .inl ⟨.failed err r, fun inner => ?_⟩
      cases vars <;> simp only [perform, withValue, hv] <;> rfl
    | ok v =>
      cases vars with
      | none =>
        refine perform_embed_cases hv [] rfl fun inner => ?_
        simp only [perform, withValue, hv]
      | some vars =>
        cases hmore : engine.evalAt vars line r.scope with
        | error err =>
          refine .inl ⟨.failed err r, fun inner => ?_⟩
          simp only [perform, withValue, hv, hmore]
          rfl
        | ok more =>
          cases hexplicit : explicitVars line more with
          | error err =>
            refine .inl ⟨.failed err r, fun inner => ?_⟩
            simp only [perform, withValue, hv, hmore, hexplicit]
            rfl
          | ok explicit =>
            refine perform_embed_cases hv explicit ?_ fun inner => ?_
            · simp only [explicitAt, hmore, hexplicit]
            · simp only [perform, withValue, hv, hmore, hexplicit]
  -- parts are written with what the page has already
  | startPart name => exact .inl (settled_of_withValue (fun _ => rfl) fun v => ⟨.done _, rfl⟩)
  | endPart =>
    refine .inl ?_
    cases hend : r.endPart? place.generation with
    | none => exact ⟨.failed _ r, fun _ => by simp only [perform, hend]; rfl⟩
    | some closed => exact ⟨.done closed.2, fun _ => by simp only [perform, hend]; rfl⟩
  | parent =>
    refine .inl ?_
    by_cases hopen : r.out.parts.isEmpty = true
    · exact ⟨.failed _ r, fun _ => by simp only [perform, hopen]; rfl⟩
    · exact ⟨.done _, fun _ => by simp only [perform, hopen]; rfl⟩
  | showPart name =>
    cases name with
    | some name => exact .inl (settled_of_withValue (fun _ => rfl) fun v => ⟨.done _, rfl⟩)
    | none =>
      refine .inl ?_
      cases hend : r.endPart? place.generation with
      | some closed =>
        exact ⟨.done (closed.2.writePart closed.1.name), fun _ => by simp only [perform, hend]; rfl⟩
      | none =>
        cases hlast : r.shared.parts.lastDefined with
        | none => exact ⟨.done r, fun _ => by simp only [perform, hend, hlast]; rfl⟩
        | some name =>
          exact ⟨.done (r.writePart name), fun _ => by simp only [perform, hend, hlast]; rfl⟩

/-- What an action has done that came to its end, one rule for each way. -/
inductive Performs (engine : Engine) (create : ViewSource φ) (place : ViewPlace)
    (inner : RenderInner φ) (line : Nat) (r : Running φ) : Action → Running φ → Prop
  | text (s : String) : Performs engine create place inner line r (.text s) (r.write s)
  | echo {e : Script.Expr} {v : Value} (sanitize : Bool)
      (hv : engine.evalAt e line r.scope = .ok v) :
      Performs engine create place inner line r (.echo e sanitize)
        (r.write (if sanitize then engine.sanitize v.display else v.display))
  | run {statements : List Script.Stmt} {scope : Vars} {out : String}
      (hrun : Script.runStatements engine.calls r.scope "" statements = ⟨scope, out, none⟩) :
      Performs engine create place inner line r (.run statements) ({ r with scope }.write out)
  | inherit {e : Script.Expr} {v : Value} (hv : engine.evalAt e line r.scope = .ok v)
      (hnone : r.parent = none) :
      Performs engine create place inner line r (.inherit e) { r with parent := some v.display }
  | embed {name : Script.Expr} {vars : Option Script.Expr} {q : Request φ} {r' : Running φ}
      (hembeds : engine.Embeds create place.generation (.embed name vars) line r q)
      (hresume : r.resume (q.render inner) = .done r') :
      Performs engine create place inner line r (.embed name vars) r'
  | startPart {e : Script.Expr} {v : Value} (hv : engine.evalAt e line r.scope = .ok v) :
      Performs engine create place inner line r (.startPart e)
        { r with out := r.out.openPart v.display line }
  | endPart {part : OpenPart} {closed : Running φ}
      (hend : r.endPart? place.generation = some (part, closed)) :
      Performs engine create place inner line r .endPart closed
  | parent (hopen : r.out.parts ≠ []) :
      Performs engine create place inner line r .parent (r.write parentPlace)
  | showNamed {e : Script.Expr} {v : Value} (hv : engine.evalAt e line r.scope = .ok v) :
      Performs engine create place inner line r (.showPart (some e)) (r.writePart v.display)
  | showEnded {part : OpenPart} {closed : Running φ}
      (hend : r.endPart? place.generation = some (part, closed)) :
      Performs engine create place inner line r (.showPart none) (closed.writePart part.name)
  | showLast {name : String} (hlast : r.shared.parts.lastDefined = some name) :
      Performs engine create place inner line r (.showPart none) (r.writePart name)
  | showNothing : Performs engine create place inner line r (.showPart none) r

lemma performs_embed {place : ViewPlace} {inner : RenderInner φ} {line : Nat} {r r' : Running φ}
    {name : Script.Expr} {vars : Option Script.Expr} {v : Value} {explicit : Vars}
    (hv : engine.evalAt name line r.scope = .ok v)
    (hexplicit : engine.explicitAt vars line r.scope = .ok explicit)
    (h : Engine.embed create inner place.generation v.display explicit r = .done r') :
    engine.Performs create place inner line r (.embed name vars) r' := by
  obtain ⟨view, source, hmade, hresume⟩ := embed_eq_done h
  exact .embed ⟨name, vars, v, explicit, view, source, rfl, hv, hexplicit, hmade, rfl⟩ hresume

lemma performs_of_done {place : ViewPlace} {inner : RenderInner φ} {a : Action} {line : Nat}
    {r r' : Running φ} (h : engine.perform create place inner a line r = .done r') :
    engine.Performs create place inner line r a r' := by
  cases a with
  | text s =>
    cases h
    exact .text s
  | echo e sanitize =>
    obtain ⟨v, hv, hdone⟩ := withValue_eq_done h
    cases hdone
    exact .echo sanitize hv
  | run statements =>
    simp only [perform] at h
    split at h
    · rename_i scope out hrun
      cases h
      exact .run hrun
    · cases h
  | inherit name =>
    obtain ⟨v, hv, hdone⟩ := withValue_eq_done h
    split at hdone
    · cases hdone
    · rename_i hnone
      cases hdone
      exact .inherit hv hnone
  -- the two forms differ only in where the variables come from
  | embed name vars =>
    obtain ⟨explicit, v, hv, hexplicit, hdone⟩ : ∃ explicit v,
        engine.evalAt name line r.scope = .ok v ∧
        engine.explicitAt vars line r.scope = .ok explicit ∧
        Engine.embed create inner place.generation v.display explicit r = .done r' := by
      cases vars with
      | none =>
        obtain ⟨v, hv, hdone⟩ := withValue_eq_done h
        exact ⟨[], v, hv, rfl, hdone⟩
      | some vars =>
        obtain ⟨v, hv, hdone⟩ := withValue_eq_done h
        obtain ⟨more, hmore, hdone⟩ := withValue_eq_done hdone
        split at hdone
        · cases hdone
        · rename_i explicit hexplicit
          exact ⟨explicit, v, hv, by rw [explicitAt, hmore]; exact hexplicit, hdone⟩
    exact performs_embed hv hexplicit hdone
  | startPart name =>
    obtain ⟨v, hv, hdone⟩ := withValue_eq_done h
    cases hdone
    exact .startPart hv
  | endPart =>
    simp only [perform] at h
    split at h
    · rename_i part closed hend
      cases h
      exact .endPart hend
    · cases h
  | parent =>
    simp only [perform] at h
    split at h
    · cases h
    · rename_i hopen
      cases h
      exact .parent (by simpa using hopen)
  | showPart name =>
    cases name with
    | some name =>
      obtain ⟨v, hv, hdone⟩ := withValue_eq_done h
      cases hdone
      exact .showNamed hv
    | none =>
      simp only [perform] at h
      split at h
      · rename_i part closed hend
        cases h
        exact .showEnded hend
      · split at h
        · rename_i name hlast
          cases h
          exact .showLast hlast
        · cases h
          exact .showNothing

/-! ## What follows the run of a program -/

/-- How a request is answered when the program of the view has come to an outcome. -/
def finish (create : ViewSource φ) (inner : RenderInner φ) (q : Request φ) :
    Outcome PageError (Running φ) → Rendering φ
  | .done r => conclude create inner q.generation q.view r
  | .failed e r => .failed e q.view r.shared
  | .unfinished => .unfinished

lemma renderWith_of_program {q : Request φ} {program : Linked}
    (h : engine.program q.view = .ok program) (steps : Nat) (inner : RenderInner φ) :
    q.render (engine.renderWith create steps inner) = finish create inner q
      ((engine.machine create q.place inner).runAll program steps q.start.state) := by
  simp only [Request.render, renderWith, h, Request.place, Request.start]
  cases (engine.machine create ⟨q.view.name, q.generation⟩ inner).runAll program steps
    ⟨q.scope, {}, none, q.shared⟩ <;> rfl

lemma renderWith_of_error {q : Request φ} {e : PageError} (h : engine.program q.view = .error e)
    (steps : Nat) (inner : RenderInner φ) :
    q.render (engine.renderWith create steps inner) = .failed e q.view q.shared := by
  simp only [Request.render, renderWith, h]

lemma conclude_of_made {r : Running φ} {name : String} {parent : View} {source : φ}
    (hparts : r.out.parts = []) (hname : r.parent = some name)
    (hmade : create r.shared.source name = (.ok parent, source)) (inner : RenderInner φ)
    (generation : Nat) (view : View) :
    conclude create inner generation view r =
      ((parentRequest generation r parent source).render inner).behind view
        (Text.trimBlankLinesString r.out.text) := by
  simp only [conclude, hparts, hname, hmade, Request.render, parentRequest]
  cases inner (generation + 1) (Bindings.overlay parent.vars r.scope) parent
    { r.shared with source } <;> rfl

lemma conclude_of_missing {r : Running φ} {name : String} {e : FactoryError} {source : φ}
    (hparts : r.out.parts = []) (hname : r.parent = some name)
    (hmade : create r.shared.source name = (.error e, source)) (inner : RenderInner φ)
    (generation : Nat) (view : View) :
    conclude create inner generation view r =
      .failed (.factory e) view { r.shared with source } := by
  simp only [conclude, hparts, hname, hmade]

lemma conclude_of_outermost {r : Running φ} (hparts : r.out.parts = []) (hnone : r.parent = none)
    (inner : RenderInner φ) (generation : Nat) (view : View) :
    conclude create inner generation view r =
      .done (Text.trimBlankLinesString r.out.text) view r.shared := by
  simp only [conclude, hparts, hnone]

lemma conclude_of_open {r : Running φ} {part : OpenPart} {parts : List OpenPart}
    (hparts : r.out.parts = part :: parts) (inner : RenderInner φ) (generation : Nat)
    (view : View) :
    conclude create inner generation view r =
      .failed (.unclosedPart part.name part.line) view r.shared := by
  simp only [conclude, hparts]

end Engine

end ViewTemplate
