import Mathlib.Tactic.Common
import ViewTemplate.Proofs.InheritedVars
import ViewTemplate.Proofs.InnerViews
import ViewTemplate.Proofs.MadeViews

/-!
# Scopes along a lineage

The variables of a view reach its ancestors in two ways.  On the way outwards every ancestor is
rendered in a scope, the scope of the view below it laid over its own variables.  On the way back
every view takes over those variables of its parent that it does not have.  Both let the nearest
view win, and the result here is that they agree (`scopes_along_lineage`) as long as no program
binds names of its own.

A program binds names only by host code and by loops that do so: `Instruction.bindsNames`.  Without
such instructions no operation changes the scope (`scope_of_runsTo`), and then the scopes along the
lineage are a matter of bindings alone.
-/

namespace ViewTemplate.Bindings

variable {α : Type}

/-! ## Names laid over others -/

lemma find?_cons (b : Bindings α) (k name : String) (v : α) :
    find? ((k, v) :: b) name = if name = k then some v else find? b name := by
  by_cases h : name = k
  · simp [find?, h]
  · have hne : (name == k) = false := by simpa using h
    simp [find?, List.lookup_cons, hne, h]

/-- A name is looked up in what lies on top first. -/
lemma find?_overlay (b : Bindings α) {more : Bindings α} (h : (keys more).Nodup) (name : String) :
    find? (overlay b more) name = (find? more name).or (find? b name) := by
  induction more generalizing b with
  | nil => rfl
  | cons entry more ih =>
    obtain ⟨k, v⟩ := entry
    obtain ⟨hk, hmore⟩ := List.nodup_cons.1 h
    have hstep : overlay b ((k, v) :: more) = overlay (bind b k v) more := rfl
    rw [hstep, ih (bind b k v) hmore, find?_cons]
    by_cases hname : name = k
    · subst hname
      rw [if_pos rfl, find?_eq_none hk, find?_bind_self]
      rfl
    · rw [if_neg hname, find?_bind_of_ne b v hname]

/-! ## Names filled in -/

lemma find?_append (b c : Bindings α) (name : String) :
    find? (b ++ c) name = (find? b name).or (find? c name) := by
  induction b with
  | nil => rfl
  | cons entry b ih =>
    obtain ⟨k, v⟩ := entry
    rw [List.cons_append, find?_cons, find?_cons, ih]
    split <;> rfl

lemma find?_newEntries {present : List String} {name : String} (h : name ∉ present)
    (b : Bindings α) : find? (newEntries present b) name = find? b name := by
  induction b generalizing present with
  | nil => rfl
  | cons entry b ih =>
    obtain ⟨k, v⟩ := entry
    rw [newEntries, find?_cons]
    by_cases hk : k ∈ present
    · have hne : name ≠ k := fun hname => h (hname ▸ hk)
      rw [if_pos hk, if_neg hne, ih h]
    · rw [if_neg hk, find?_cons]
      by_cases hname : name = k
      · rw [if_pos hname, if_pos hname]
      · have hmore : name ∉ present ++ [k] := by simp [h, hname]
        rw [if_neg hname, if_neg hname, ih hmore]

lemma find?_fill (b more : Bindings α) (name : String) :
    find? (fill b more) name = (find? b name).or (find? more name) := by
  rw [fill_eq_append, find?_append]
  by_cases h : name ∈ keys b
  · obtain ⟨v, hv⟩ := Option.isSome_iff_exists.1 ((has_iff b name).2 h)
    rw [hv]
    rfl
  · rw [find?_newEntries h]

lemma find?_flatMap {β : Type} (f : β → Bindings α) (l : List β) (name : String) :
    find? (l.flatMap f) name = l.findSome? fun x => find? (f x) name := by
  induction l with
  | nil => rfl
  | cons x l ih =>
    rw [List.flatMap_cons, find?_append, ih, List.findSome?_cons]
    cases find? (f x) name <;> rfl

end ViewTemplate.Bindings

namespace ViewTemplate.Program

/-! ## Programs that bind no names -/

/-- Whether an instruction can bind names: host code, and the loops that bind an item or run
statements. -/
def Instruction.bindsNames : Instruction → Bool
  | .act (.run _) => true
  | .forEach _ _ _ => true
  | .forLoop _ _ _ => true
  | _ => false

/-- Whether an operation can bind names. -/
def Op.bindsNames : Op → Bool
  | .act (.run _) => true
  | .loopStart _ _ _ _ => true
  | .loopNext _ => true
  | _ => false

lemma bindsNames_act (a : Action) : (Op.act a).bindsNames = (Instruction.act a).bindsNames := by
  cases a <;> rfl

mutual

lemma bindsNames_link (b : Block) (start : Nat)
    (h : ∀ i ∈ b.flatten, i.item.bindsNames = false) :
    ∀ op ∈ b.link start, op.item.bindsNames = false := by
  cases b with
  | act a line =>
    intro op hop
    have ha : (Instruction.act a).bindsNames = false := h ⟨.act a, line⟩ (by simp [Block.flatten])
    simp only [Block.link, actOps] at hop
    split at hop
    · simp at hop
    · obtain rfl := List.mem_singleton.1 hop
      rwa [← bindsNames_act] at ha
  | comment s line => simp [Block.link]
  | ifElse condition line body rest =>
    simp only [Block.flatten, List.mem_cons, List.mem_append] at h
    simp only [Block.link, List.mem_cons, List.mem_append]
    rintro op (rfl | hop | hop)
    · rfl
    · exact bindsNames_linkAll body _ (fun i hi => h i (.inr (.inl hi))) op hop
    · exact bindsNames_chain rest _ _ (fun i hi => h i (.inr (.inr hi))) op hop
  | forEach subject key value line body closeLine =>
    have hhead := h ⟨.forEach subject key value, line⟩ (by simp [Block.flatten])
    simp [Instruction.bindsNames] at hhead
  | forLoop first condition step line body closeLine =>
    have hhead := h ⟨.forLoop first condition step, line⟩ (by simp [Block.flatten])
    simp [Instruction.bindsNames] at hhead
  | whileLoop condition line body closeLine =>
    simp only [Block.flatten, List.mem_cons, List.mem_append] at h
    simp only [Block.link, List.mem_cons, List.mem_append, List.not_mem_nil, or_false]
    rintro op (rfl | hop | rfl)
    · rfl
    · exact bindsNames_linkAll body _ (fun i hi => h i (.inr (.inl hi))) op hop
    · rfl
termination_by structural b

lemma bindsNames_linkAll (bs : List Block) (start : Nat)
    (h : ∀ i ∈ flattenAll bs, i.item.bindsNames = false) :
    ∀ op ∈ linkAll start bs, op.item.bindsNames = false := by
  cases bs with
  | nil => simp [linkAll]
  | cons b rest =>
    simp only [flattenAll, List.mem_append] at h
    simp only [linkAll, List.mem_append]
    rintro op (hop | hop)
    · exact bindsNames_link b _ (fun i hi => h i (.inl hi)) op hop
    · exact bindsNames_linkAll rest _ (fun i hi => h i (.inr hi)) op hop
termination_by structural bs

lemma bindsNames_chain (c : Chain) (start exit : Nat)
    (h : ∀ i ∈ c.flatten, i.item.bindsNames = false) :
    ∀ op ∈ c.link start exit, op.item.bindsNames = false := by
  cases c with
  | close line => simp [Chain.link]
  | elseIf condition line body rest =>
    simp only [Chain.flatten, List.mem_cons, List.mem_append] at h
    simp only [Chain.link, List.mem_cons, List.mem_append]
    rintro op (rfl | rfl | hop | hop)
    · rfl
    · rfl
    · exact bindsNames_linkAll body _ (fun i hi => h i (.inr (.inl hi))) op hop
    · exact bindsNames_chain rest _ _ (fun i hi => h i (.inr (.inr hi))) op hop
  | otherwise line body closeLine =>
    simp only [Chain.flatten, List.mem_cons, List.mem_append] at h
    simp only [Chain.link, List.mem_cons]
    rintro op (rfl | hop)
    · rfl
    · exact bindsNames_linkAll body _ (fun i hi => h i (.inr (.inl hi))) op hop
termination_by structural c

end

end ViewTemplate.Program

namespace ViewTemplate.Engine

open ViewTemplate.Program (Action Instruction Machine)

variable {φ : Type}

lemma scope_of_resume {r r' : Running φ} {answer : Rendering φ} (h : r.resume answer = .done r') :
    r'.scope = r.scope := by
  cases answer with
  | done text view shared =>
    cases h
    rfl
  | failed e view shared => cases h
  | unfinished => cases h

lemma scope_of_endPart? {r r' : Running φ} {generation : Nat} {part : OpenPart}
    (h : r.endPart? generation = some (part, r')) : r'.scope = r.scope := by
  obtain ⟨closed, -, hclosed⟩ := Option.map_eq_some_iff.1 h
  obtain ⟨-, rfl⟩ := Prod.mk.inj hclosed
  rfl

/-- Only statements change the scope of a view that runs. -/
lemma scope_of_perform {engine : Engine} {create : ViewSource φ} {place : ViewPlace}
    {inner : RenderInner φ} {a : Action} {line : Nat} {r r' : Running φ}
    (ha : (Program.Op.act a).bindsNames = false)
    (h : engine.perform create place inner a line r = .done r') : r'.scope = r.scope := by
  cases performs_of_done h with
  | run => simp [Program.Op.bindsNames] at ha
  | embed hembeds hresume => exact scope_of_resume hresume
  | endPart hend => exact scope_of_endPart? hend
  | @showEnded part closed hend => exact (scope_of_endPart? hend : closed.scope = r.scope)
  | text | echo | inherit | startPart | parent | showNamed | showLast | showNothing => rfl

lemma scope_of_step {engine : Engine} {create : ViewSource φ} {place : ViewPlace}
    {inner : RenderInner φ} {op : Program.Op} {line : Nat} {s t : Machine.State (Running φ)}
    (hop : op.bindsNames = false)
    (h : (engine.machine create place inner).step op line s = .next t) :
    t.state.scope = s.state.scope := by
  cases op with
  | act a =>
    simp only [Machine.step] at h
    split at h
    · rename_i r hact
      cases h
      exact scope_of_perform hop hact
    · cases h
    · cases h
  | jumpUnless condition target =>
    simp only [Machine.step] at h
    split at h
    · cases h
    · cases h
      rfl
  | jump target =>
    cases h
    rfl
  | loopStart subject key value exit => simp [Program.Op.bindsNames] at hop
  | loopNext body => simp [Program.Op.bindsNames] at hop

/-- A view without instructions that bind names has the same scope at its end as at its start. -/
lemma scope_of_runsTo {engine : Engine} {create : ViewSource φ} {steps : Nat} {v : Visit φ}
    {r : Running φ} (hquiet : engine.Avoids Instruction.bindsNames v.view)
    (h : engine.RunsTo create steps v r) :
    r.scope = v.scope := by
  obtain ⟨program, hprogram, hrun⟩ := h
  obtain ⟨bs, rfl, hbs⟩ := hquiet.exists_blocks hprogram
  have hops := Program.bindsNames_linkAll bs 0 hbs
  obtain ⟨count, t, hgoes, -, rfl⟩ := Machine.exists_goes_of_run hrun
  exact hgoes.keeps (I := fun s => s.state.scope = v.scope)
    (fun op hop s t hs hstep => (scope_of_step (hops op hop) hstep).trans hs) rfl

/-! ## Scopes and variables agree -/

/-- A parent is rendered in its own variables with the scope of the view below it on top. -/
lemma find?_scope_of_extends {engine : Engine} {create : ViewSource φ} {steps : Nat}
    {v parent : Visit φ} (hextends : engine.Extends create steps v parent)
    (hquiet : engine.Avoids Instruction.bindsNames v.view) (hscope : (Bindings.keys v.scope).Nodup)
    (name : String) :
    Bindings.find? parent.scope name =
      (Bindings.find? v.scope name).or (Bindings.find? parent.view.vars name) := by
  obtain ⟨r, -, view, source, hruns, -, -, rfl⟩ := hextends
  have hkept : r.scope = v.scope := scope_of_runsTo hquiet hruns
  have hparent : (v.toParent r view source).scope = Bindings.overlay view.vars v.scope := by
    rw [← hkept]
    rfl
  rw [hparent, Bindings.find?_overlay view.vars hscope]
  rfl

lemma nodup_keys_scope_of_extends {engine : Engine} {create : ViewSource φ} {steps : Nat}
    {v parent : Visit φ} (hextends : engine.Extends create steps v parent) :
    (Bindings.keys parent.scope).Nodup := by
  obtain ⟨r, -, view, source, -, -, -, rfl⟩ := hextends
  exact Bindings.nodup_keys_overlay view.distinct r.scope

/-- The scope of the `i`-th visit of a lineage binds a name as the scope of the first one does, or
else as the nearest ancestor up to the `i`-th one does. -/
lemma find?_scope_of_lineage {engine : Engine} {create : ViewSource φ} {steps : Nat} {v : Visit φ}
    {ancestors : List (Visit φ)} (hline : engine.Lineage create steps v ancestors)
    (hquiet : ∀ u ∈ v :: ancestors, engine.Avoids Instruction.bindsNames u.view)
    (hscope : (Bindings.keys v.scope).Nodup) (name : String) {i : Nat} {u : Visit φ}
    (hu : (v :: ancestors)[i]? = some u) :
    Bindings.find? u.scope name = (Bindings.find? v.scope name).or
      ((ancestors.take i).findSome? fun a => Bindings.find? a.view.vars name) := by
  induction hline generalizing i with
  | outermost =>
    cases i with
    | zero =>
      obtain rfl : _ = u := Option.some.inj hu
      simp
    | succ i => simp at hu
  | @behind v parent ancestors hextends _ ih =>
    cases i with
    | zero =>
      obtain rfl : v = u := Option.some.inj hu
      simp
    | succ i =>
      -- one step along the lineage, and the rest of it as seen from the parent
      have hparent := nodup_keys_scope_of_extends hextends
      have hbehind := ih (fun a ha => hquiet a (List.mem_cons_of_mem v ha)) hparent hu
      rw [hbehind, find?_scope_of_extends hextends (hquiet v List.mem_cons_self) hscope,
        Option.or_assoc, List.take_succ_cons, List.findSome?_cons]
      cases Bindings.find? parent.view.vars name <;> rfl

/-- A page and its ancestors, none of which binds names of its own: the scope of every one of them
binds a name as the first view from the page up to it that sets the name, and the scope of the
outermost one agrees with the variables that the page has once it is rendered. -/
theorem scopes_along_lineage (engine : Engine) (create : ViewSource φ) (steps : Nat) (view : View)
    (source : φ) {text : String} {after : View} {shared : Shared φ} {ancestors : List (Visit φ)}
    (hdone : engine.renderPage create steps view source = .done text after shared)
    (hline : engine.Lineage create steps (.page engine view source) ancestors)
    (hquiet : ∀ v ∈ .page engine view source :: ancestors,
      engine.Avoids Instruction.bindsNames v.view) :
    (∀ v, (.page engine view source :: ancestors).getLast? = some v → ∀ name,
      Bindings.find? v.scope name = Bindings.find? after.vars name) ∧
    ∀ i v, (.page engine view source :: ancestors)[i]? = some v → ∀ name,
      Bindings.find? v.scope name = ((.page engine view source :: ancestors).take (i + 1)).findSome?
        fun u => Bindings.find? u.view.vars name := by
  have hpage : (Bindings.keys (Visit.page engine view source).scope).Nodup := view.distinct
  have hscopes : ∀ name {i v}, (.page engine view source :: ancestors)[i]? = some v →
      Bindings.find? v.scope name = (Bindings.find? view.vars name).or
        ((ancestors.take i).findSome? fun a => Bindings.find? a.view.vars name) :=
    fun name {i v} hv => find?_scope_of_lineage hline hquiet hpage name hv
  constructor
  · intro v hv name
    obtain ⟨_, hview⟩ := rendering_done_view hline hdone
    have hafter : after.vars = Bindings.fill view.vars (ancestors.flatMap fun a => a.view.vars) :=
      congrArg View.vars hview
    rw [List.getLast?_eq_getElem?, List.length_cons, Nat.add_sub_cancel] at hv
    rw [hscopes name hv, hafter, Bindings.find?_fill, Bindings.find?_flatMap, List.take_length]
  · intro i v hv name
    rw [hscopes name hv, List.take_succ_cons, List.findSome?_cons]
    have hfirst : (Visit.page engine view source).view.vars = view.vars := rfl
    rw [hfirst]
    cases Bindings.find? view.vars name <;> rfl

lemma Lineage.made {engine : Engine} {create : ViewSource φ} {steps : Nat} {v : Visit φ}
    {ancestors : List (Visit φ)} (hline : engine.Lineage create steps v ancestors) :
    ∀ u ∈ ancestors, ∃ source name, (create source name).1 = .ok u.view := by
  induction hline with
  | outermost => simp
  | behind hextends _ ih =>
    intro u hu
    rcases List.mem_cons.1 hu with rfl | hu
    · obtain ⟨r, name, view, source, -, -, hmade, rfl⟩ := hextends
      exact ⟨r.shared.source, name, congrArg Prod.fst hmade⟩
    · exact ih u hu

/-- The layouts that share names, without host code. -/
def plainLayouts : Factory where
  templates := [("inner", "<% extends(\"outer\") %>"), ("outer", "top")]
  builders := twoLayouts.builders

/-- Three views that share names: the page names the title, both layouts the language. -/
theorem scopes_along_lineage_layouts :
    ∃ text after shared ancestors outermost,
      renderPage {} (fixedSource plainLayouts) 20 (layoutPage "inner") () =
        .done text after shared ∧
      Lineage {} (fixedSource plainLayouts) 20 (.page {} (layoutPage "inner") ()) ancestors ∧
      (.page {} (layoutPage "inner") () :: ancestors).getLast? = some outermost ∧
      (∀ name, Bindings.find? outermost.scope name = Bindings.find? after.vars name) ∧
      after.vars.map (fun (name, v) => (name, v.display)) =
        [("title", "page"), ("lang", "en"), ("size", "wide")] := by
  have hshown : shownVars (renderPage {} (fixedSource plainLayouts) 20 (layoutPage "inner") ()) =
      .ok [("title", "page"), ("lang", "en"), ("size", "wide")] := by
    decide +kernel
  have hquiet : avoids? {} Instruction.bindsNames (layoutPage "inner") = true := by decide +kernel
  have hlayouts : ∀ name ∈ Bindings.keys plainLayouts.templates,
      (plainLayouts.create name).1.toOption.all (avoids? {} Instruction.bindsNames) = true := by
    decide +kernel
  cases hpage : renderPage {} (fixedSource plainLayouts) 20 (layoutPage "inner") () with
  | failed e after shared => simp [hpage, shownVars] at hshown
  | unfinished => simp [hpage, shownVars] at hshown
  | done text after shared =>
    obtain ⟨ancestors, hline⟩ := exists_lineage_of_rendering
      (v := .page {} (layoutPage "inner") ()) hpage
    have hlast := List.getLast?_eq_some_getLast
      (List.cons_ne_nil (Visit.page {} (layoutPage "inner") ()) ancestors)
    rw [hpage] at hshown
    refine ⟨text, after, shared, ancestors, _, rfl, hline, hlast, ?_, Except.ok.inj hshown⟩
    refine (scopes_along_lineage {} (fixedSource plainLayouts) 20 (layoutPage "inner") () hpage
      hline ?_).1 _ hlast
    intro v hv
    rcases List.mem_cons.1 hv with rfl | hv
    · exact avoids_of_check hquiet
    · obtain ⟨source, name, hview⟩ := hline.made v hv
      exact avoids_of_check (Factory.check_of_create hlayouts hview)

end ViewTemplate.Engine
