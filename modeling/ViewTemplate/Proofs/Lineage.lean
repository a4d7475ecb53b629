import Mathlib.Tactic.Lemma
import ViewTemplate.Page.Render

/-!
# The lineage of a view

A view that has run may have named a parent, the parent may name one in turn, and so on up to a view
that names none.  `Extends` says of one view that it does so and which view it gets: the one that
was made under the name, not one that has been changed since.  `Lineage` follows this to its end.

Neither speaks of how a rendering ends.  What a rendering does behind the run of its own program is
said once, in `rendering_eq_done`; the results about whole pages go along the lineage with it.
-/

namespace ViewTemplate

/-- A view that is to be rendered, with all that the rendering of it is given. -/
structure Visit (φ : Type) where
  /-- How many views may be rendered inside of one another, this one included. -/
  room : Nat
  /-- The names of the views that are being rendered, the outermost first. -/
  active : List String
  generation : Nat
  scope : Vars
  view : View
  shared : Shared φ

namespace Visit

variable {φ : Type}

/-- The visit that a page starts with. -/
def page (engine : Engine) (view : View) (source : φ) : Visit φ where
  room := engine.maxDepth
  active := []
  generation := 0
  scope := view.vars
  view
  shared := { source }

/-- The visit of a parent, one generation further out.  What the view that names it has bound goes
over the variables of the parent. -/
def toParent (v : Visit φ) (r : Running φ) (parent : View) (source : φ) : Visit φ where
  room := v.room - 1
  active := v.active ++ [v.view.name]
  generation := v.generation + 1
  scope := Bindings.overlay parent.vars r.scope
  view := parent
  shared := { r.shared with source }

end Visit

namespace Engine

variable {φ : Type} (engine : Engine) (create : ViewSource φ) (steps : Nat)

/-- How a visit ends. -/
def rendering (v : Visit φ) : Rendering φ :=
  engine.render create steps v.room v.active v.generation v.scope v.view v.shared

/-- The program of a visited view runs to its end and leaves a state behind. -/
def RunsTo (v : Visit φ) (r : Running φ) : Prop :=
  ∃ program, engine.program v.view = .ok program ∧
    (engine.machine create ⟨v.view.name, v.generation⟩
      (engine.render create steps (v.room - 1) (v.active ++ [v.view.name]))).runAll program steps
        ⟨v.scope, {}, none, v.shared⟩ = .done r

/-- A visited view names a parent, and there is a view of that name. -/
def Extends (v parent : Visit φ) : Prop :=
  ∃ r name view source, engine.RunsTo create steps v r ∧ r.parent = some name ∧
    create r.shared.source name = (.ok view, source) ∧ parent = v.toParent r view source

/-- The visits that a visit leads to outwards, the nearest first, up to a view without a parent. -/
inductive Lineage : Visit φ → List (Visit φ) → Prop where
  | outermost {v : Visit φ} {r : Running φ} :
      engine.RunsTo create steps v r → r.parent = none → Lineage v []
  | behind {v parent : Visit φ} {ancestors : List (Visit φ)} :
      engine.Extends create steps v parent → Lineage parent ancestors →
        Lineage v (parent :: ancestors)

variable {engine create steps}

/-! ## There is one lineage at most -/

lemma RunsTo.unique {v : Visit φ} {r r' : Running φ} (h : engine.RunsTo create steps v r)
    (h' : engine.RunsTo create steps v r') : r = r' := by
  obtain ⟨program, hprogram, hrun⟩ := h
  obtain ⟨program', hprogram', hrun'⟩ := h'
  obtain rfl : program = program' := Except.ok.inj (hprogram.symm.trans hprogram')
  exact Program.Outcome.done.inj (hrun.symm.trans hrun')

lemma Extends.unique {v parent parent' : Visit φ} (h : engine.Extends create steps v parent)
    (h' : engine.Extends create steps v parent') : parent = parent' := by
  obtain ⟨r, name, view, source, hrun, hname, hmade, rfl⟩ := h
  obtain ⟨r', name', view', source', hrun', hname', hmade', rfl⟩ := h'
  obtain rfl := hrun.unique hrun'
  obtain rfl : name = name' := Option.some.inj (hname.symm.trans hname')
  obtain ⟨hview, rfl⟩ := Prod.mk.inj (hmade.symm.trans hmade')
  obtain rfl : view = view' := Except.ok.inj hview
  rfl

lemma RunsTo.not_extends {v parent : Visit φ} {r : Running φ} (h : engine.RunsTo create steps v r)
    (hr : r.parent = none) : ¬engine.Extends create steps v parent := by
  rintro ⟨r', name, view, source, hrun, hname, -, -⟩
  obtain rfl := h.unique hrun
  exact Option.some_ne_none name (hname.symm.trans hr)

lemma Lineage.unique {v : Visit φ} {ancestors others : List (Visit φ)}
    (h : engine.Lineage create steps v ancestors) (h' : engine.Lineage create steps v others) :
    ancestors = others := by
  induction h generalizing others with
  | outermost hrun hr =>
    cases h' with
    | outermost => rfl
    | behind hparent => exact absurd hparent (hrun.not_extends hr)
  | behind hparent _ ih =>
    cases h' with
    | outermost hrun hr => exact absurd hparent (hrun.not_extends hr)
    | behind hparent' hrest =>
      obtain rfl := hparent.unique hparent'
      rw [ih hrest]

/-! ## What a rendering does behind the run of its program -/

/-- A rendering that is done has run its program, with every part closed again.  Either that was
all, or it has rendered the parent, has put the output of the parent behind its own and has given
the view the variables of the parent. -/
lemma rendering_eq_done {v : Visit φ} {text : String} {after : View} {shared : Shared φ}
    (h : engine.rendering create steps v = .done text after shared) :
    0 < v.room ∧ ∃ r, engine.RunsTo create steps v r ∧ r.out.parts = [] ∧
      ((r.parent = none ∧ text = Text.trimBlankLinesString r.out.text ∧ after = v.view ∧
          shared = r.shared) ∨
        ∃ parent outer above, engine.Extends create steps v parent ∧
          engine.rendering create steps parent = .done outer above shared ∧
          text = Text.trimBlankLinesString (Text.trimBlankLinesString r.out.text ++ outer) ∧
          after = v.view.inherit above) := by
  obtain ⟨room, active, generation, scope, view, start⟩ := v
  cases room with
  | zero => simp only [rendering, render, reduceCtorEq] at h
  | succ room =>
    refine ⟨Nat.succ_pos room, ?_⟩
    simp only [rendering, render, renderWith, conclude] at h
    split at h
    · cases h
    split at h
    · cases h
    rename_i program hprogram
    split at h
    · cases h
    · cases h
    rename_i r hrun
    split at h
    · cases h
    rename_i hparts
    -- the run is done and every part is closed
    have hruns : engine.RunsTo create steps ⟨room + 1, active, generation, scope, view, start⟩ r :=
      ⟨program, hprogram, hrun⟩
    refine ⟨r, hruns, hparts, ?_⟩
    split at h
    · rename_i hnone
      obtain ⟨rfl, rfl, rfl⟩ := Rendering.done.inj h
      exact .inl ⟨hnone, rfl, rfl, rfl⟩
    rename_i name hname
    -- the view extends another one, which has been made and rendered
    rcases hmade : create r.shared.source name with ⟨made, source⟩
    simp only [hmade] at h
    split at h
    · cases h
    rename_i parent
    split at h
    · rename_i outer above behind hparent
      obtain ⟨rfl, rfl, rfl⟩ := Rendering.done.inj h
      have hextends : engine.Extends create steps
          ⟨room + 1, active, generation, scope, view, start⟩
          (Visit.toParent ⟨room + 1, active, generation, scope, view, start⟩ r parent source) :=
        ⟨r, name, parent, source, hruns, hname, hmade, rfl⟩
      refine .inr ⟨_, outer, above, hextends, ?_, rfl, rfl⟩
      simpa only [rendering, Visit.toParent, Nat.add_sub_cancel] using hparent
    · cases h
    · cases h

/-- A rendering that fails leaves its view alone. -/
lemma rendering_failed_view {v : Visit φ} {e : PageError} {after : View} {shared : Shared φ}
    (h : engine.rendering create steps v = .failed e after shared) : after = v.view := by
  obtain ⟨room, active, generation, scope, view, start⟩ := v
  cases room with
  | zero =>
    simp only [rendering, render] at h
    cases h
    rfl
  | succ room =>
    simp only [rendering, render, renderWith, conclude] at h
    repeat' split at h
    all_goals first | (cases h; rfl) | cases h

/-- A rendering that is done has gone along a lineage. -/
lemma exists_lineage_of_rendering {v : Visit φ} {text : String} {after : View} {shared : Shared φ}
    (h : engine.rendering create steps v = .done text after shared) :
    ∃ ancestors, engine.Lineage create steps v ancestors := by
  induction hroom : v.room generalizing v text after shared with
  | zero =>
    have hpos := (rendering_eq_done h).1
    omega
  | succ room ih =>
    obtain ⟨-, r, hruns, -, hend⟩ := rendering_eq_done h
    rcases hend with ⟨hnone, -⟩ | ⟨parent, outer, above, hextends, hparent, -, -⟩
    · exact ⟨[], .outermost hruns hnone⟩
    · have hless : parent.room = room := by
        obtain ⟨_, _, _, _, -, -, -, rfl⟩ := hextends
        simp [Visit.toParent, hroom]
      obtain ⟨ancestors, hancestors⟩ := ih hparent hless
      exact ⟨parent :: ancestors, .behind hextends hancestors⟩

end Engine

end ViewTemplate
