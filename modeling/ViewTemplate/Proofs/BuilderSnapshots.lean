import Mathlib.Tactic.Common
import ViewTemplate.Proofs.MadeViews

/-!
# The builders that prepare a view

A factory is called again and again: templates are added, builders are registered, and views are
made, each of which may let builders register further ones.  What the calls have done so far is told
by two records that only grow, the templates added and the builders registered, each entry with the
name it is for (`Past`).  Entries of the second kind are written by calls and by builders that run.

`create_snapshot` says what the next view is in terms of these records alone: it is made from the
latest template of its name, and the builders that prepare it are all those entered under its name
when it starts, in the order of the record.  What they register is entered behind, so that it is
seen only by what is made later, under the same name too.
-/

namespace ViewTemplate

variable {α β : Type}

/-- The entries of a record that are for a name. -/
def under (name : String) (entries : List (String × α)) : List α :=
  entries.filterMap fun entry => if entry.1 = name then some entry.2 else none

@[simp] lemma under_append (name : String) (front back : List (String × α)) :
    under name (front ++ back) = under name front ++ under name back :=
  List.filterMap_append

@[simp] lemma under_cons_self (name : String) (a : α) (rest : List (String × α)) :
    under name ((name, a) :: rest) = a :: under name rest := by
  simp [under]

lemma under_cons_of_ne {name other : String} (h : other ≠ name) (a : α)
    (rest : List (String × α)) : under name ((other, a) :: rest) = under name rest := by
  simp [under, h]

lemma mem_under {name : String} {entries : List (String × α)} {a : α} :
    a ∈ under name entries ↔ (name, a) ∈ entries := by
  simp only [under, List.mem_filterMap, Option.ite_none_right_eq_some, Option.some_inj]
  constructor
  · rintro ⟨⟨_, _⟩, hmem, rfl, rfl⟩
    exact hmem
  · exact fun h => ⟨_, h, rfl, rfl⟩

lemma Edit.name_apply (edit : Edit) (view : View) : (edit.apply view).name = view.name := by
  cases edit with
  | setVar | setVars | setContents | setDelimiters => rfl

/-! ## Registering -/

namespace FactoryOf

lemma buildersOf_register (f : FactoryOf β) (name : String) (b : β) (other : String) :
    (f.register name b).buildersOf other = f.buildersOf other ++ under other [(name, b)] := by
  by_cases h : name = other
  · subst h
    rw [buildersOf, register, Bindings.find?_bind_self, under_cons_self]
    rfl
  · rw [buildersOf, register, Bindings.find?_bind_of_ne _ _ (Ne.symm h), under_cons_of_ne h]
    exact (List.append_nil _).symm

lemma buildersOf_registerAll (f : FactoryOf β) (entries : List (String × β)) (name : String) :
    (f.registerAll entries).buildersOf name = f.buildersOf name ++ under name entries := by
  induction entries generalizing f with
  | nil => exact (List.append_nil _).symm
  | cons entry entries ih =>
    have hstep := ih (f.register entry.1 entry.2)
    rw [buildersOf_register, List.append_assoc, ← under_append] at hstep
    exact hstep

/-- Registering changes nothing but the builders. -/
lemma registerAll_frame (f : FactoryOf β) (entries : List (String × β)) :
    (f.registerAll entries).templates = f.templates ∧
      (f.registerAll entries).delimiters = f.delimiters := by
  induction entries generalizing f with
  | nil => exact ⟨rfl, rfl⟩
  | cons entry entries ih => exact ih (f.register entry.1 entry.2)

end FactoryOf

/-! ## What the calls have done -/

/-- A call of a factory. -/
inductive FactoryCall (β : Type) where
  | addTemplate (name contents : String)
  | register (name : String) (b : β)
  | create (name : String)

/-- The template that a call adds, with its name. -/
def FactoryCall.added? : FactoryCall β → Option (String × String)
  | addTemplate name contents => some (name, contents)
  | _ => none

lemma FactoryCall.mem_filterMap_added? {calls : List (FactoryCall β)} {name contents : String} :
    (name, contents) ∈ calls.filterMap added? ↔ .addTemplate name contents ∈ calls := by
  rw [List.mem_filterMap]
  constructor
  · rintro ⟨call, hcall, hadded⟩
    cases call with
    | addTemplate n c =>
      obtain ⟨rfl, rfl⟩ := Prod.mk.inj (Option.some.inj hadded)
      exact hcall
    | register | create => cases hadded
  · exact fun h => ⟨_, h, rfl⟩

namespace FactoryOf

/-- The factory after a call. -/
def call (prepare : β → View → Preparation β) (f : FactoryOf β) : FactoryCall β → FactoryOf β
  | .addTemplate name contents => f.addTemplate name contents
  | .register name b => f.register name b
  | .create name => (f.create prepare name).2

/-- A factory with given delimiters after calls. -/
def after (prepare : β → View → Preparation β) (d : Delimiters) (calls : List (FactoryCall β)) :
    FactoryOf β :=
  calls.foldl (call prepare) { delimiters := d }

end FactoryOf

/-- The templates that have been added to a factory and the builders that have been registered, each
with its name and in order. -/
structure Past (β : Type) where
  templates : List (String × String) := []
  registered : List (String × β) := []

namespace Past

/-- The view that builders are to prepare: it has the latest contents of its name and no
variables. -/
def fresh? (d : Delimiters) (past : Past β) (name : String) : Option View :=
  (under name past.templates).getLast?.map fun contents =>
    { name, contents, vars := [], delimiters := d }

/-- Enter what a call does.  The builders that run are those entered under the name so far. -/
def enter (prepare : β → View → Preparation β) (d : Delimiters) (past : Past β) :
    FactoryCall β → Past β
  | .addTemplate name contents =>
    { past with templates := past.templates ++ [(name, contents)] }
  | .register name b => { past with registered := past.registered ++ [(name, b)] }
  | .create name =>
    { past with
      registered := past.registered ++
        (past.fresh? d name).elim [] (registrations prepare (under name past.registered)) }

/-- What calls have done. -/
def after (prepare : β → View → Preparation β) (d : Delimiters) (calls : List (FactoryCall β)) :
    Past β :=
  calls.foldl (enter prepare d) {}

lemma templates_after (prepare : β → View → Preparation β) (d : Delimiters)
    (calls : List (FactoryCall β)) :
    (after prepare d calls).templates = calls.filterMap FactoryCall.added? := by
  have hfold : ∀ past : Past β, (calls.foldl (enter prepare d) past).templates =
      past.templates ++ calls.filterMap FactoryCall.added? := by
    induction calls with
    | nil => exact fun past => (List.append_nil _).symm
    | cons call calls ih =>
      intro past
      rw [List.foldl_cons, ih]
      cases call with
      | addTemplate name contents => exact List.append_assoc ..
      | register | create => rfl
  exact hfold {}

/-- There is nothing to prepare exactly if no template of the name has been added. -/
lemma fresh?_after_eq_none_iff (prepare : β → View → Preparation β) (d : Delimiters)
    (calls : List (FactoryCall β)) (name : String) :
    (after prepare d calls).fresh? d name = none ↔
      ∀ contents, .addTemplate name contents ∉ calls := by
  rw [fresh?, Option.map_eq_none_iff, List.getLast?_eq_none_iff, List.eq_nil_iff_forall_not_mem,
    templates_after]
  simp only [mem_under, FactoryCall.mem_filterMap_added?]

/-- The last template added under a name is the one that counts. -/
lemma fresh?_after_addTemplate (prepare : β → View → Preparation β) (d : Delimiters)
    (front : List (FactoryCall β)) (name contents : String) {back : List (FactoryCall β)}
    (h : ∀ other, .addTemplate name other ∉ back) :
    (after prepare d (front ++ .addTemplate name contents :: back)).fresh? d name =
      some { name, contents, vars := [], delimiters := d } := by
  have hback : under name (back.filterMap FactoryCall.added?) = [] := by
    rw [List.eq_nil_iff_forall_not_mem]
    simpa only [mem_under, FactoryCall.mem_filterMap_added?] using h
  rw [fresh?, templates_after, List.filterMap_append, List.filterMap_cons, FactoryCall.added?]
  dsimp only
  rw [under_append, under_cons_self, hback, List.getLast?_concat, Option.map_some]

/-- A factory holds what the records tell. -/
structure Tracks (d : Delimiters) (past : Past β) (f : FactoryOf β) : Prop where
  delimiters : f.delimiters = d
  templates : ∀ name, Bindings.find? f.templates name = (under name past.templates).getLast?
  builders : ∀ name, f.buildersOf name = under name past.registered

variable {prepare : β → View → Preparation β} {d : Delimiters} {past : Past β} {f : FactoryOf β}
  {name : String}

lemma Tracks.create_of_none (h : Tracks d past f) (hfresh : past.fresh? d name = none) :
    f.create prepare name = (.error (.notFound name), f) :=
  FactoryOf.create_of_none ((h.templates name).trans (Option.map_eq_none_iff.1 hfresh)) prepare

lemma Tracks.create_of_some (h : Tracks d past f) {view : View}
    (hfresh : past.fresh? d name = some view) :
    f.create prepare name =
      (.ok (prepared prepare (under name past.registered) view),
        f.registerAll (registrations prepare (under name past.registered) view)) := by
  obtain ⟨contents, hlast, rfl⟩ := Option.map_eq_some_iff.1 hfresh
  rw [FactoryOf.create_of_some ((h.templates name).trans hlast) prepare, h.builders, h.delimiters]

lemma Tracks.addTemplate (h : Tracks d past f) (name contents : String) :
    Tracks d { past with templates := past.templates ++ [(name, contents)] }
      (f.addTemplate name contents) := by
  refine ⟨h.delimiters, fun other => ?_, h.builders⟩
  rw [FactoryOf.addTemplate]
  by_cases hname : name = other
  · subst hname
    rw [Bindings.find?_bind_self, under_append, under_cons_self]
    exact List.getLast?_concat.symm
  · rw [Bindings.find?_bind_of_ne _ _ (Ne.symm hname), h.templates, under_append,
      under_cons_of_ne hname]
    exact congrArg _ (List.append_nil _).symm

lemma Tracks.registerAll (h : Tracks d past f) (entries : List (String × β)) :
    Tracks d { past with registered := past.registered ++ entries } (f.registerAll entries) where
  delimiters := (f.registerAll_frame entries).2.trans h.delimiters
  templates name := by rw [(f.registerAll_frame entries).1, h.templates]
  builders name := by rw [f.buildersOf_registerAll, h.builders, under_append]

lemma Tracks.call (h : Tracks d past f) (call : FactoryCall β) :
    Tracks d (past.enter prepare d call) (f.call prepare call) := by
  cases call with
  | addTemplate name contents => exact h.addTemplate name contents
  | register name b => exact h.registerAll [(name, b)]
  | create name =>
    rw [enter, FactoryOf.call]
    -- All that a creation leaves behind is what the builders that ran have registered.
    cases hfresh : past.fresh? d name with
    | none =>
      rw [h.create_of_none hfresh]
      simpa using h
    | some view =>
      rw [h.create_of_some hfresh]
      exact h.registerAll _

lemma tracks_after (prepare : β → View → Preparation β) (d : Delimiters)
    (calls : List (FactoryCall β)) : Tracks d (after prepare d calls) (.after prepare d calls) := by
  have hfold : ∀ (past : Past β) (f : FactoryOf β), Tracks d past f →
      Tracks d (calls.foldl (enter prepare d) past) (calls.foldl (.call prepare) f) := by
    induction calls with
    | nil => exact fun past f h => h
    | cons call calls ih => exact fun past f h => ih _ _ (h.call call)
  exact hfold _ _ ⟨rfl, fun name => rfl, fun name => rfl⟩

end Past

/-- **The builders that run are those registered before.**  Making a view after any calls fails
exactly if no template of its name was added.  Otherwise the latest one is prepared by the builders
registered under the name up to then, once each and in order, and what these register goes behind
all that was registered.  The view has the name it was made under. -/
theorem create_snapshot (prepare : β → View → Preparation β) (d : Delimiters)
    (calls : List (FactoryCall β)) (name : String) :
    let f := FactoryOf.after prepare d calls
    let registered := (Past.after prepare d calls).registered
    ((f.create prepare name).1 = .error (.notFound name) ↔
        ∀ contents, .addTemplate name contents ∉ calls) ∧
      (∀ front contents back, calls = front ++ .addTemplate name contents :: back →
        (∀ other, .addTemplate name other ∉ back) →
        let view : View := { name, contents, vars := [], delimiters := d }
        (f.create prepare name).1 = .ok (prepared prepare (under name registered) view) ∧
          ∀ other, (f.create prepare name).2.buildersOf other =
            under other (registered ++ registrations prepare (under name registered) view)) ∧
      ∀ view, (f.create prepare name).1 = .ok view → view.name = name := by
  intro f registered
  have htracks := Past.tracks_after prepare d calls
  have hnone := Past.fresh?_after_eq_none_iff prepare d calls name
  refine ⟨?_, ?_, ?_⟩
  · rw [← hnone]
    cases hfresh : (Past.after prepare d calls).fresh? d name with
    | none => simp [f, htracks.create_of_none hfresh]
    | some view => simp [f, htracks.create_of_some hfresh]
  · -- the last template of the name is the one that is prepared
    rintro front contents back rfl hback view
    have hfresh := Past.fresh?_after_addTemplate prepare d front name contents hback
    have hcreate : f.create prepare name =
        (.ok (prepared prepare (under name registered) view),
          f.registerAll (registrations prepare (under name registered) view)) :=
      htracks.create_of_some hfresh
    rw [hcreate]
    exact ⟨rfl, (htracks.registerAll _).builders⟩
  · intro view hview
    cases hfresh : (Past.after prepare d calls).fresh? d name with
    | none =>
      rw [htracks.create_of_none hfresh] at hview
      cases hview
    | some fresh =>
      rw [htracks.create_of_some hfresh] at hview
      -- a fresh view has the name asked for, and no change renames it
      obtain ⟨contents, -, rfl⟩ := Option.map_eq_some_iff.1 hfresh
      rw [← Except.ok.inj hview]
      exact prepared_of_edit (P := fun view => view.name = name)
        (fun view edit hview => (edit.name_apply view).trans hview) _ _ rfl

/-- A builder that sets a variable and registers another one under the same name.  The view made
second is prepared by the one that was registered while the first was made, and once only. -/
theorem create_snapshot_self_registering :
    let inner := Builder.mk [.setVar "by" (.text "inner")] []
    let outer := Builder.mk [.setVar "by" (.text "outer")] [("home", inner)]
    let made := Factory.create (.after Builder.prepare {}
      [.addTemplate "home" "Hi", .register "home" outer, .create "home"]) "home"
    made.1 = .ok
        { name := "home", contents := "Hi", vars := [("by", .text "inner")],
          distinct := List.nodup_singleton _ } ∧
      made.2.buildersOf "home" = [outer, inner, inner] := by
  intro inner outer made
  obtain ⟨-, hmade, -⟩ := create_snapshot Builder.prepare {}
    [.addTemplate "home" "Hi", .register "home" outer, .create "home"] "home"
  obtain ⟨hview, hbuilders⟩ := hmade [] "Hi" _ rfl (by simp)
  exact ⟨hview, hbuilders "home"⟩

end ViewTemplate
