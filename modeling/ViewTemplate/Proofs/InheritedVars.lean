import Mathlib.Data.List.Nodup
import Mathlib.Tactic.Common
import ViewTemplate.Proofs.Lineage

/-!
# The variables a view has after it is rendered

A view that is rendered gets the variables of its ancestors.  This happens from the outside in: each
ancestor has taken over what stands further out before the next one takes over from it.  The result
reads from the inside out: the variables of the view itself, then what the parent adds to them, then
what the parent of the parent adds, and so on (`vars_after_rendering`).

The two agree because filling from bindings that were filled themselves is filling from both, one
behind the other (`Bindings.fill_fill`).
-/

namespace ViewTemplate.Bindings

variable {α : Type}

/-- The entries whose names are not present, of each name the first. -/
def newEntries (present : List String) : Bindings α → Bindings α
  | [] => []
  | (name, v) :: rest =>
    if name ∈ present then newEntries present rest
    else (name, v) :: newEntries (present ++ [name]) rest

/-- Filling keeps what is there and puts the new entries behind it. -/
lemma fill_eq_append (b more : Bindings α) : fill b more = b ++ newEntries (keys b) more := by
  induction more generalizing b with
  | nil => simp [fill, newEntries]
  | cons entry more ih =>
    obtain ⟨name, v⟩ := entry
    by_cases h : name ∈ keys b
    · have hstep : fill b ((name, v) :: more) = fill b more := by
        simp [fill, (has_iff b name).2 h]
      rw [hstep, ih, newEntries, if_pos h]
    · have hhas : has b name = false := by
        rw [← Bool.not_eq_true, has_iff]
        exact h
      have hstep : fill b ((name, v) :: more) = fill (b ++ [(name, v)]) more := by
        simp [fill, hhas, bind_of_notMem v h]
      have hkeys : keys (b ++ [(name, v)]) = keys b ++ [name] := by simp [keys]
      rw [hstep, ih, hkeys, newEntries, if_neg h, List.append_assoc, List.singleton_append]

lemma newEntries_congr {present other : List String} (h : ∀ name, name ∈ present ↔ name ∈ other)
    (b : Bindings α) : newEntries present b = newEntries other b := by
  induction b generalizing present other with
  | nil => rfl
  | cons entry rest ih =>
    have hmore : ∀ name, name ∈ present ++ [entry.1] ↔ name ∈ other ++ [entry.1] := by
      intro name
      simp [h name]
    simp only [newEntries, h, ih h, ih hmore]

lemma newEntries_append (present : List String) (b c : Bindings α) :
    newEntries present (b ++ c) = newEntries present b ++ newEntries (present ++ keys b) c := by
  induction b generalizing present with
  | nil => simp [newEntries, keys]
  | cons entry rest ih =>
    obtain ⟨name, v⟩ := entry
    by_cases h : name ∈ present
    · -- a name that is present already makes no difference to the entries behind it
      have hsame : ∀ n, n ∈ present ++ keys rest ↔ n ∈ present ++ keys ((name, v) :: rest) := by
        intro n
        simp only [keys, List.map_cons, List.mem_append, List.mem_cons]
        constructor
        · rintro (hn | hn)
          · exact .inl hn
          · exact .inr (.inr hn)
        · rintro (hn | rfl | hn)
          · exact .inl hn
          · exact .inl h
          · exact .inr hn
      rw [List.cons_append, newEntries, if_pos h, ih, newEntries, if_pos h, newEntries_congr hsame]
    · have hsame : present ++ [name] ++ keys rest = present ++ keys ((name, v) :: rest) := by
        simp [keys]
      rw [List.cons_append, newEntries, if_neg h, ih, newEntries, if_neg h, hsame,
        List.cons_append]

lemma newEntries_newEntries {present fewer : List String} (h : fewer ⊆ present) (b : Bindings α) :
    newEntries present (newEntries fewer b) = newEntries present b := by
  induction b generalizing present fewer with
  | nil => rfl
  | cons entry rest ih =>
    obtain ⟨name, v⟩ := entry
    by_cases hfewer : name ∈ fewer
    · rw [newEntries, if_pos hfewer, ih h, newEntries, if_pos (h hfewer)]
    · rw [newEntries, if_neg hfewer, newEntries, newEntries]
      by_cases hpresent : name ∈ present
      · have hsub : fewer ++ [name] ⊆ present := by
          intro n hn
          rcases List.mem_append.1 hn with hn | hn
          · exact h hn
          · rwa [List.mem_singleton.1 hn]
        rw [if_pos hpresent, if_pos hpresent, ih hsub]
      · have hsub : fewer ++ [name] ⊆ present ++ [name] :=
          List.append_subset.2 ⟨List.subset_append_of_subset_left _ h, List.subset_append_right ..⟩
        rw [if_neg hpresent, if_neg hpresent, ih hsub]

/-- Filling from bindings that were filled themselves is filling from both. -/
lemma fill_fill (b c d : Bindings α) : fill b (fill c d) = fill b (c ++ d) := by
  have hsub : keys c ⊆ keys b ++ keys c := List.subset_append_right ..
  rw [fill_eq_append, fill_eq_append, fill_eq_append, newEntries_append, newEntries_append,
    newEntries_newEntries hsub]

end ViewTemplate.Bindings

namespace ViewTemplate.Engine

variable {φ : Type}

lemma rendering_done_view {engine : Engine} {create : ViewSource φ} {steps : Nat} {v : Visit φ}
    {ancestors : List (Visit φ)} (hline : engine.Lineage create steps v ancestors) {text : String}
    {after : View} {shared : Shared φ}
    (h : engine.rendering create steps v = .done text after shared) :
    ∃ distinct, after = { v.view with
      vars := Bindings.fill v.view.vars (ancestors.flatMap fun a => a.view.vars), distinct } := by
  -- along the lineage, since each ancestor is filled before the view below it is
  induction hline generalizing text after shared with
  | @outermost v _ hruns hnone =>
    obtain ⟨-, r, -, -, hend⟩ := rendering_eq_done h
    rcases hend with ⟨-, -, rfl, -⟩ | ⟨parent, -, -, hextends, -⟩
    · exact ⟨v.view.distinct, rfl⟩
    · exact absurd hextends (hruns.not_extends hnone)
  | @behind v parent ancestors hextends _ ih =>
    obtain ⟨-, r, hruns, -, hend⟩ := rendering_eq_done h
    rcases hend with ⟨hnone, -⟩ | ⟨other, outer, above, hother, hrendered, -, rfl⟩
    · exact absurd hextends (hruns.not_extends hnone)
    · obtain rfl := hextends.unique hother
      obtain ⟨_, rfl⟩ := ih hrendered
      refine ⟨Bindings.nodup_keys_fill v.view.distinct _, ?_⟩
      simp only [View.inherit, Bindings.fill_fill, List.flatMap_cons]

/-- Once a page is rendered its view has its own variables as they were and behind them, from the
nearest ancestor to the furthest, the variables of the ancestors whose names were not there before.
The ancestors count as they were made, whatever their programs bind.  A page that fails leaves its
view as it was. -/
theorem vars_after_rendering (engine : Engine) (create : ViewSource φ) (steps : Nat) (view : View)
    (source : φ) :
    (∀ text after shared, engine.renderPage create steps view source = .done text after shared →
      (∃! ancestors, engine.Lineage create steps (.page engine view source) ancestors) ∧
      ∀ ancestors, engine.Lineage create steps (.page engine view source) ancestors →
        ∃ distinct, after = { view with
          vars := view.vars ++ Bindings.newEntries (Bindings.keys view.vars)
            (ancestors.flatMap fun a => a.view.vars), distinct }) ∧
    ∀ e after shared, engine.renderPage create steps view source = .failed e after shared →
      after = view := by
  refine ⟨?_, ?_⟩
  · intro text after shared h
    have hpage : engine.rendering create steps (.page engine view source) =
        .done text after shared := h
    obtain ⟨ancestors, hancestors⟩ := exists_lineage_of_rendering hpage
    refine ⟨⟨ancestors, hancestors, fun others hothers => hothers.unique hancestors⟩, ?_⟩
    intro ancestors hline
    rw [← Bindings.fill_eq_append]
    exact rendering_done_view hline hpage
  · intro e after shared h
    have hpage : engine.rendering create steps (.page engine view source) =
        .failed e after shared := h
    exact rendering_failed_view hpage

/-- Two layouts, one behind the other, that both set the language.  The program of the inner one
binds a name of its own. -/
def twoLayouts : Factory where
  templates := [("inner", "<?host $made = 1; ?><% extends(\"outer\") %>"), ("outer", "top")]
  builders :=
    [("inner", [.mk [.setVar "title" (.text "inner"), .setVar "lang" (.text "en")] []]),
      ("outer", [.mk [.setVar "lang" (.text "fr"), .setVar "size" (.text "wide")] []])]

/-- A page in a layout. -/
def layoutPage (layout : String) : View where
  contents := "<% extends(\"" ++ layout ++ "\") %>"
  vars := [("title", .text "page")]
  distinct := List.nodup_singleton _

/-- The variables of the view, as texts, or the message. -/
def shownVars : Rendering φ → Except String (List (String × String))
  | .done _ view _ => .ok (view.vars.map fun (name, v) => (name, v.display))
  | .failed e _ _ => .error e.message
  | .unfinished => .error ""

theorem vars_after_rendering_layouts :
    (∃ text after shared ancestors,
      renderPage {} Factory.create 20 (layoutPage "inner") twoLayouts = .done text after shared ∧
      Lineage {} Factory.create 20 (.page {} (layoutPage "inner") twoLayouts) ancestors ∧
      after.vars = (layoutPage "inner").vars ++
        Bindings.newEntries ["title"] (ancestors.flatMap fun a => a.view.vars) ∧
      after.vars.map (fun (name, v) => (name, v.display)) =
        [("title", "page"), ("lang", "en"), ("size", "wide")]) ∧
    ∃ e after shared,
      renderPage {} Factory.create 20 (layoutPage "none") twoLayouts = .failed e after shared ∧
      e.message = "view 'none' not found" ∧ after = layoutPage "none" := by
  refine ⟨?_, ?_⟩
  · have hshown : shownVars (renderPage {} Factory.create 20 (layoutPage "inner") twoLayouts) =
        .ok [("title", "page"), ("lang", "en"), ("size", "wide")] := by
      decide +kernel
    cases hpage : renderPage {} Factory.create 20 (layoutPage "inner") twoLayouts with
    | done text after shared =>
      obtain ⟨⟨ancestors, hline, -⟩, hvars⟩ :=
        (vars_after_rendering {} Factory.create 20 (layoutPage "inner") twoLayouts).1 text after
          shared hpage
      rw [hpage] at hshown
      obtain ⟨_, hafter⟩ := hvars ancestors hline
      exact ⟨text, after, shared, ancestors, rfl, hline, congrArg View.vars hafter,
        Except.ok.inj hshown⟩
    | failed e after shared => simp [hpage, shownVars] at hshown
    | unfinished => simp [hpage, shownVars] at hshown
  · have hshown : shownVars (renderPage {} Factory.create 20 (layoutPage "none") twoLayouts) =
        .error "view 'none' not found" := by
      decide +kernel
    cases hpage : renderPage {} Factory.create 20 (layoutPage "none") twoLayouts with
    | done text after shared => simp [hpage, shownVars] at hshown
    | failed e after shared =>
      rw [hpage] at hshown
      exact ⟨e, after, shared, rfl, Except.error.inj hshown,
        (vars_after_rendering {} Factory.create 20 (layoutPage "none") twoLayouts).2 e after shared
          hpage⟩
    | unfinished =>
      rw [hpage] at hshown
      exact absurd (Except.error.inj hshown) (by decide)

end ViewTemplate.Engine
