import Mathlib.Tactic.Common
import ViewTemplate.Page.Render
import ViewTemplate.Proofs.InheritedVars

/-!
# Views that a factory makes

A factory makes a view from one of its templates: the builders of its name prepare the view one
after the other (`prepared`), and what they register on the way is registered in the same order
(`registrations`).  `FactoryOf.create_of_some` and `FactoryOf.create_of_none` say so, and nothing
else looks into `FactoryOf.create`.

What every change to a view keeps, all builders keep (`prepared_of_edit`), and what can be checked
of the view of every template holds of every view that is made (`Factory.check_of_create`).
-/

namespace ViewTemplate.Bindings

variable {α : Type}

lemma find?_eq_none {b : Bindings α} {name : String} (h : name ∉ keys b) :
    find? b name = none := by
  have hhas : has b name ≠ true := (has_iff b name).not.2 h
  simpa [has] using hhas

end ViewTemplate.Bindings

namespace ViewTemplate

variable {β : Type}

/-! ## Builders at work -/

/-- A view after builders have prepared it one after the other. -/
def prepared (prepare : β → View → Preparation β) : List β → View → View
  | [], view => view
  | b :: bs, view => prepared prepare bs ((prepare b view).apply view)

/-- What builders register while they prepare a view one after the other. -/
def registrations (prepare : β → View → Preparation β) : List β → View → List (String × β)
  | [], _ => []
  | b :: bs, view =>
    (prepare b view).registers ++ registrations prepare bs ((prepare b view).apply view)

lemma Preparation.apply_of_edit {P : View → Prop}
    (hedit : ∀ view edit, P view → P (Edit.apply view edit)) (p : Preparation β) {view : View}
    (h : P view) : P (p.apply view) := by
  unfold Preparation.apply
  generalize p.edits = edits
  induction edits generalizing view with
  | nil => exact h
  | cons edit edits ih => exact ih (hedit view edit h)

/-- What every change keeps, builders keep. -/
lemma prepared_of_edit {P : View → Prop} (hedit : ∀ view edit, P view → P (Edit.apply view edit))
    (prepare : β → View → Preparation β) (bs : List β) {view : View} (h : P view) :
    P (prepared prepare bs view) := by
  induction bs generalizing view with
  | nil => exact h
  | cons b bs ih => exact ih ((prepare b view).apply_of_edit hedit h)

namespace FactoryOf

/-- Register builders one after the other, each under its name. -/
def registerAll (f : FactoryOf β) (entries : List (String × β)) : FactoryOf β :=
  entries.foldl (fun f entry => f.register entry.1 entry.2) f

lemma registerAll_append (f : FactoryOf β) (front back : List (String × β)) :
    f.registerAll (front ++ back) = (f.registerAll front).registerAll back :=
  List.foldl_append

lemma foldl_build (prepare : β → View → Preparation β) (bs : List β) (view : View)
    (f : FactoryOf β) :
    bs.foldl (build prepare) (view, f) =
      (prepared prepare bs view, f.registerAll (registrations prepare bs view)) := by
  induction bs generalizing view f with
  | nil => rfl
  | cons b bs ih =>
    rw [List.foldl_cons, build, ih, registrations, registerAll_append]
    rfl

lemma create_of_none {f : FactoryOf β} {name : String}
    (h : Bindings.find? f.templates name = none) (prepare : β → View → Preparation β) :
    f.create prepare name = (.error (.notFound name), f) := by
  rw [create, h]

lemma create_of_some {f : FactoryOf β} {name contents : String}
    (h : Bindings.find? f.templates name = some contents) (prepare : β → View → Preparation β) :
    f.create prepare name =
      (.ok (prepared prepare (f.buildersOf name)
          { name, contents, vars := [], delimiters := f.delimiters }),
        f.registerAll (registrations prepare (f.buildersOf name)
          { name, contents, vars := [], delimiters := f.delimiters })) := by
  rw [create, h]
  dsimp only
  rw [foldl_build]

end FactoryOf

/-! ## Views of a factory -/

/-- What holds of the view of every template holds of every view that is made. -/
lemma Factory.check_of_create {f : Factory} {check : View → Bool}
    (hall : ∀ name ∈ Bindings.keys f.templates, (f.create name).1.toOption.all check = true)
    {name : String} {view : View} (h : (f.create name).1 = .ok view) : check view = true := by
  have hname : name ∈ Bindings.keys f.templates := by
    by_contra hnone
    rw [Factory.create, FactoryOf.create_of_none (Bindings.find?_eq_none hnone)] at h
    cases h
  have hcheck := hall name hname
  rwa [h] at hcheck

/-- A factory that stays as it is. -/
def fixedSource (f : Factory) : ViewSource Unit := fun source name => ((f.create name).1, source)

end ViewTemplate
