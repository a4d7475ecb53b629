import Mathlib.Logic.Relation
import Mathlib.Tactic.Common
import ViewTemplate.Proofs.InnerViews
import ViewTemplate.Proofs.Lineage

/-!
# The visits of a page

Rendering a page visits views: the page itself, and from every view that is run the views it puts in
place and its parent (`Engine.Calls`).  A visit is entered if there is room for its view and the
view is not being rendered already; all others fail at once.

Every call has less room than the visit it is made from, so that what holds of a visit whenever it
holds of all calls holds of every visit (`Engine.visit_induction`).
-/

namespace ViewTemplate

variable {φ : Type}

namespace Visit

/-- What a visit asks for, without what it may use. -/
def request (v : Visit φ) : Request φ :=
  ⟨v.generation, v.scope, v.view, v.shared⟩

/-- The visited view is run: there is room for it, and it is not being rendered already. -/
def Entered (v : Visit φ) : Prop :=
  0 < v.room ∧ Engine.cycle? v.active v.view.name = none

/-- The visit of a view that a visited view asks for. -/
def inside (v : Visit φ) (q : Request φ) : Visit φ :=
  ⟨v.room - 1, v.active ++ [v.view.name], q.generation, q.scope, q.view, q.shared⟩

end Visit

namespace Engine

/-- How views inside of a visited view are rendered. -/
def renderInside (engine : Engine) (create : ViewSource φ) (steps : Nat) (v : Visit φ) :
    RenderInner φ :=
  engine.render create steps (v.room - 1) (v.active ++ [v.view.name])

/-- A view that is run asks for another one. -/
def Calls (engine : Engine) (create : ViewSource φ) (v w : Visit φ) : Prop :=
  v.Entered ∧ w.room = v.room - 1 ∧ w.active = v.active ++ [v.view.name] ∧
    ∃ steps, engine.Asks create steps (engine.renderInside create steps v) v.request w.request

/-- Rendering a page leads to a visit. -/
abbrev Visited (engine : Engine) (create : ViewSource φ) (view : View) (source : φ) :
    Visit φ → Prop :=
  Relation.ReflTransGen (engine.Calls create) (.page engine view source)

variable {engine : Engine} {create : ViewSource φ}

lemma calls_of_asks {v : Visit φ} (hentered : v.Entered) {steps : Nat} {q : Request φ}
    (h : engine.Asks create steps (engine.renderInside create steps v) v.request q) :
    engine.Calls create v (v.inside q) :=
  ⟨hentered, rfl, rfl, steps, h⟩

lemma Calls.room_lt {v w : Visit φ} (h : engine.Calls create v w) : w.room < v.room := by
  obtain ⟨⟨hpos, -⟩, hroom, -, -⟩ := h
  omega

/-- A view that is asked for is one that was made. -/
lemma Asks.made {steps : Nat} {inner : RenderInner φ} {q other : Request φ}
    (h : engine.Asks create steps inner q other) :
    ∃ source name, (create source name).1 = .ok other.view := by
  cases h with
  | embedded _ _ _ hembeds =>
    obtain ⟨_, _, _, _, view, source, -, -, -, hmade, rfl⟩ := hembeds
    exact ⟨_, _, congrArg Prod.fst hmade⟩
  | parent _ _ _ _ hmade => exact ⟨_, _, congrArg Prod.fst hmade⟩

lemma rendering_of_entered {v : Visit φ} (h : v.Entered) (steps : Nat) :
    engine.rendering create steps v =
      v.request.render (engine.renderWith create steps (engine.renderInside create steps v)) := by
  obtain ⟨hroom, hcycle⟩ := h
  obtain ⟨room, active, generation, scope, view, shared⟩ := v
  obtain ⟨left, rfl⟩ : ∃ left, room = left + 1 := ⟨room - 1, by simp only at hroom; omega⟩
  simp only at hcycle
  simp only [rendering, render, hcycle]
  rfl

lemma rendering_of_not_entered (engine : Engine) (create : ViewSource φ) {v : Visit φ}
    (h : ¬v.Entered) :
    ∃ e, ∀ steps, engine.rendering create steps v = .failed e v.view v.shared := by
  obtain ⟨room, active, generation, scope, view, shared⟩ := v
  cases room with
  | zero => exact ⟨.depthExceeded engine.maxDepth, fun _ => rfl⟩
  | succ room =>
    cases hcycle : cycle? active view.name with
    | none => exact absurd ⟨Nat.succ_pos room, hcycle⟩ h
    | some chain =>
      refine ⟨.inheritanceCycle chain, fun steps => ?_⟩
      simp only [rendering, render, hcycle]

lemma visit_induction (engine : Engine) (create : ViewSource φ) {P : Visit φ → Prop}
    (outside : ∀ v, ¬v.Entered → P v)
    (entered : ∀ v, v.Entered → (∀ w, engine.Calls create v w → P w) → P v) (v : Visit φ) :
    P v := by
  induction hroom : v.room using Nat.strongRecOn generalizing v with
  | ind room ih =>
    by_cases hentered : v.Entered
    · exact entered v hentered fun w hcalls => ih w.room (hroom ▸ hcalls.room_lt) w rfl
    · exact outside v hentered

end Engine

end ViewTemplate
