import Mathlib.Data.List.Nodup
import Mathlib.Tactic.Common
import ViewTemplate.Proofs.InnerViews

/-!
# The views that are being rendered

Rendering hands every view the names of the views around it.  Here the same names stand on one
stack that all views of a page share: a view that is entered is pushed, and popped again when it has
been rendered, however that ends (`Engine.renderOn`).  The two ways agree, and the stack is found
as it was left (`renderOn_onStack`).

`StackInvariant` is what holds of the stack at every moment: it has at most as many names as views
may be rendered inside of one another, and no name twice but the empty one.  `Requested` are the
requests that rendering a page comes to, at any depth; the result is `active_views`.
-/

namespace ViewTemplate.Program

variable {ε σ τ : Type}

/-! ## Machines that differ in their states only -/

/-- An outcome with its state changed. -/
def Outcome.map (f : σ → τ) : Outcome ε σ → Outcome ε τ
  | done s => .done (f s)
  | failed e s => .failed e (f s)
  | unfinished => .unfinished

namespace Machine

/-- Where the machine stands, with its state changed. -/
def State.map (f : σ → τ) (s : Machine.State σ) : Machine.State τ :=
  ⟨s.position, s.loops, f s.state⟩

/-- What a step leads to, with its state changed. -/
def Step.map (f : σ → τ) : Step ε σ → Step ε τ
  | next s => .next (s.map f)
  | failed e s => .failed e (f s)
  | unfinished => .unfinished

/-- A machine does on the images of states what another one does on the states. -/
structure Follows (m' : Machine ε τ) (m : Machine ε σ) (f : σ → τ) : Prop where
  act : ∀ a line s, m'.act a line (f s) = (m.act a line s).map f
  eval : ∀ e line s, m'.eval e line (f s) = m.eval e line s
  items : ∀ v line, m'.items v line = m.items v line
  bind : ∀ key value item s, m'.bind key value item (f s) = f (m.bind key value item s)

namespace Follows

variable {m : Machine ε σ} {m' : Machine ε τ} {f : σ → τ} {program : Linked}

lemma step (h : m'.Follows m f) (op : Op) (line : Nat) (s : Machine.State σ) :
    m'.step op line (s.map f) = (m.step op line s).map f := by
  obtain ⟨position, loops, s⟩ := s
  cases op with
  | act a =>
    simp only [Machine.step, State.map, h.act]
    cases m.act a line s <;> rfl
  | jumpUnless condition target =>
    simp only [Machine.step, State.map, h.eval]
    cases m.eval condition line s <;> rfl
  | jump target => rfl
  | loopStart subject key value exit =>
    simp only [Machine.step, State.map, h.eval]
    cases m.eval subject line s with
    | error e => rfl
    | ok v =>
      simp only [h.items]
      cases m.items v line with
      | error e => rfl
      | ok items =>
        cases items with
        | nil => rfl
        | cons item items =>
          simp only [h.bind]
          rfl
  | loopNext body =>
    cases loops with
    | nil => rfl
    | cons loop loops =>
      obtain ⟨items, key, value⟩ := loop
      cases items with
      | nil => rfl
      | cons item items =>
        simp only [Machine.step, State.map, h.bind]
        rfl

lemma run (h : m'.Follows m f) (fuel : Nat) (s : Machine.State σ) :
    m'.run program.toArray fuel (s.map f) = (m.run program.toArray fuel s).map f := by
  induction fuel generalizing s with
  | zero => rfl
  | succ fuel ih =>
    cases hop : program[s.position]? with
    | none =>
      rw [run_behind hop, run_behind (s := s.map f) hop]
      rfl
    | some op =>
      rw [run_succ hop, run_succ (s := s.map f) hop, h.step]
      cases m.step op.item op.line s with
      | next t => exact ih t
      | failed e t => rfl
      | unfinished => rfl

/-- The states that are reached from an image are images of states that are reached. -/
lemma goes (h : m'.Follows m f) {count : Nat} {s : Machine.State σ} {t' : Machine.State τ}
    (hgoes : m'.Goes program count (s.map f) t') :
    ∃ t, t' = t.map f ∧ m.Goes program count s t := by
  generalize hs : s.map f = s' at hgoes
  induction hgoes with
  | stays s' => exact ⟨s, hs.symm, .stays s⟩
  | step _ hop hstep ih =>
    obtain ⟨t, rfl, ht⟩ := ih hs
    rw [h.step] at hstep
    cases hnext : m.step _ _ t with
    | next u =>
      rw [hnext] at hstep
      exact ⟨u, (Step.next.inj hstep).symm, .step ht hop hnext⟩
    | failed e u => simp [hnext, Step.map] at hstep
    | unfinished => simp [hnext, Step.map] at hstep

end Follows

end Machine

end ViewTemplate.Program

namespace ViewTemplate

open ViewTemplate.Program (Action Lined Linked Machine Outcome)

variable {φ : Type}

/-! ## A stack that all views share -/

/-- What makes views by name, and the names of the views being rendered, the outermost first. -/
structure Stacked (φ : Type) where
  source : φ
  active : List String

/-- Making views leaves the stack alone. -/
def stackedSource (create : ViewSource φ) : ViewSource (Stacked φ) := fun s name =>
  ((create s.source name).1, { s with source := (create s.source name).2 })

/-- What the views of a page share, with a stack. -/
def Shared.onStack (active : List String) (shared : Shared φ) : Shared (Stacked φ) :=
  ⟨shared.parts, ⟨shared.source, active⟩⟩

/-- A view that runs, with a stack. -/
def Running.onStack (active : List String) (r : Running φ) : Running (Stacked φ) :=
  ⟨r.scope, r.out, r.parent, r.shared.onStack active⟩

/-- A request, with a stack. -/
def Request.onStack (active : List String) (q : Request φ) : Request (Stacked φ) :=
  ⟨q.generation, q.scope, q.view, q.shared.onStack active⟩

namespace Rendering

/-- The end of a rendering, with a stack. -/
def onStack (active : List String) : Rendering φ → Rendering (Stacked φ)
  | done text view shared => .done text view (shared.onStack active)
  | failed e view shared => .failed e view (shared.onStack active)
  | unfinished => .unfinished

/-- Take the innermost view off the stack, however its rendering has ended. -/
def leave : Rendering (Stacked φ) → Rendering (Stacked φ)
  | done text view ⟨parts, source⟩ =>
    .done text view (Shared.onStack source.active.dropLast ⟨parts, source.source⟩)
  | failed e view ⟨parts, source⟩ =>
    .failed e view (Shared.onStack source.active.dropLast ⟨parts, source.source⟩)
  | unfinished => .unfinished

end Rendering

/-- Put a view on the stack, unless there are too many views or one of its name already. -/
def enter (maxDepth : Nat) (active : List String) (name : String) :
    Except PageError (List String) :=
  if maxDepth ≤ active.length then .error (.depthExceeded maxDepth)
  else
    match Engine.cycle? active name with
    | some chain => .error (.inheritanceCycle chain)
    | none => .ok (active ++ [name])

namespace Request

/-- The stack that a request finds. -/
def active (q : Request (Stacked φ)) : List String :=
  q.shared.source.active

/-- The request with another stack. -/
def withActive (q : Request (Stacked φ)) (active : List String) : Request (Stacked φ) :=
  { q with shared := { q.shared with source := { q.shared.source with active } } }

end Request

namespace Engine

/-- Render views with the names of the active ones on a stack.  `depth` bounds the recursion. -/
def renderOn (engine : Engine) (create : ViewSource φ) (steps : Nat) :
    (depth : Nat) → RenderInner (Stacked φ)
  | 0, _, _, _, _ => .unfinished
  | depth + 1, generation, scope, view, shared =>
    match enter engine.maxDepth shared.source.active view.name with
    | .error e => .failed e view shared
    | .ok active =>
      (engine.renderWith (stackedSource create) steps (engine.renderOn create steps depth)
        generation scope view { shared with source := { shared.source with active } }).leave

variable {engine : Engine} {create : ViewSource φ} {active : List String}
  {inner : RenderInner φ} {inner' : RenderInner (Stacked φ)}

/-! ## The stack changes nothing else -/

/-- One way of rendering does with a stack what another one does without, and leaves the stack
alone. -/
def KeepsStack (active : List String) (inner' : RenderInner (Stacked φ))
    (inner : RenderInner φ) : Prop :=
  ∀ q : Request φ, (q.onStack active).render inner' = (q.render inner).onStack active

lemma withValue_onStack {e : Script.Expr} {line : Nat} {r : Running φ}
    {go : Value → Outcome PageError (Running φ)}
    {go' : Value → Outcome PageError (Running (Stacked φ))}
    (h : ∀ v, go' v = (go v).map (Running.onStack active)) :
    engine.withValue e line (r.onStack active) go' =
      (engine.withValue e line r go).map (Running.onStack active) := by
  simp only [withValue, Running.onStack]
  cases engine.evalAt e line r.scope with
  | error err => rfl
  | ok v => exact h v

lemma resume_onStack (r : Running φ) (answer : Rendering φ) :
    (r.onStack active).resume (answer.onStack active) =
      (r.resume answer).map (Running.onStack active) := by
  cases answer <;> rfl

lemma stackedSource_onStack {shared : Shared φ} {name : String} {made : Except FactoryError View}
    {source : φ} (h : create shared.source name = (made, source)) :
    stackedSource create (shared.onStack active).source name = (made, ⟨source, active⟩) := by
  simp [stackedSource, Shared.onStack, h]

lemma embed_onStack (h : KeepsStack active inner' inner) (generation : Nat) (name : String)
    (explicit : Vars) (r : Running φ) :
    embed (stackedSource create) inner' generation name explicit (r.onStack active) =
      (embed create inner generation name explicit r).map (Running.onStack active) := by
  rcases hmade : create r.shared.source name with ⟨made, source⟩
  have hstacked : stackedSource create (r.onStack active).shared.source name =
      (made, ⟨source, active⟩) := stackedSource_onStack hmade
  cases made with
  | error e =>
    rw [embed_of_missing hmade, embed_of_missing hstacked]
    rfl
  | ok view =>
    have hanswer := h (embedRequest generation r explicit view source)
    rw [embed_of_made hmade, embed_of_made hstacked, ← resume_onStack, ← hanswer]
    rfl

lemma endPart?_onStack (r : Running φ) (generation : Nat) :
    (r.onStack active).endPart? generation =
      (r.endPart? generation).map fun (part, r) => (part, r.onStack active) := by
  simp only [Running.endPart?, Running.onStack]
  cases r.out.closePart? <;> rfl

lemma perform_onStack (h : KeepsStack active inner' inner) (place : ViewPlace) (a : Action)
    (line : Nat) (r : Running φ) :
    engine.perform (stackedSource create) place inner' a line (r.onStack active) =
      (engine.perform create place inner a line r).map (Running.onStack active) := by
  cases a with
  | text s => rfl
  | echo e sanitize => exact withValue_onStack fun v => rfl
  | run statements =>
    simp only [perform, Running.onStack]
    rcases Script.runStatements engine.calls r.scope "" statements with ⟨scope, out, error⟩
    cases error <;> rfl
  -- the stack is no part of what decides an action, so both sides take the same branch
  | inherit name =>
    refine withValue_onStack fun v => ?_
    have hparent : (r.onStack active).parent = r.parent := rfl
    rw [hparent]
    cases r.parent <;> rfl
  | embed name vars =>
    cases vars with
    | none => exact withValue_onStack fun v => embed_onStack h place.generation v.display [] r
    | some vars =>
      refine withValue_onStack fun v => withValue_onStack fun more => ?_
      cases explicitVars line more with
      | error e => rfl
      | ok explicit => exact embed_onStack h place.generation v.display explicit r
  | startPart name => exact withValue_onStack fun v => rfl
  | endPart =>
    simp only [perform, endPart?_onStack]
    cases r.endPart? place.generation <;> rfl
  | parent =>
    have hparts : (r.onStack active).out = r.out := rfl
    simp only [perform, hparts]
    by_cases hopen : r.out.parts.isEmpty = true
    · rw [if_pos hopen, if_pos hopen]
      rfl
    · rw [if_neg hopen, if_neg hopen]
      rfl
  | showPart name =>
    cases name with
    | some name => exact withValue_onStack fun v => rfl
    | none =>
      simp only [perform, endPart?_onStack]
      cases r.endPart? place.generation with
      | some closed => rfl
      | none =>
        simp only [Running.onStack, Shared.onStack, Option.map_none]
        cases r.shared.parts.lastDefined <;> rfl

lemma machine_onStack (h : KeepsStack active inner' inner) (place : ViewPlace) :
    (engine.machine (stackedSource create) place inner').Follows
      (engine.machine create place inner) (Running.onStack active) where
  act a line r := perform_onStack h place a line r
  eval _ _ _ := rfl
  items _ _ := rfl
  bind _ _ _ _ := rfl

lemma behind_onStack (view : View) (text : String) (answer : Rendering φ) :
    (answer.onStack active).behind view text = (answer.behind view text).onStack active := by
  cases answer <;> rfl

lemma conclude_onStack (h : KeepsStack active inner' inner) (generation : Nat) (view : View)
    (r : Running φ) :
    conclude (stackedSource create) inner' generation view (r.onStack active) =
      (conclude create inner generation view r).onStack active := by
  cases hparts : r.out.parts with
  | cons part parts =>
    have hparts' : (r.onStack active).out.parts = part :: parts := hparts
    rw [conclude_of_open hparts, conclude_of_open hparts']
    rfl
  -- with every part closed, what is left to do depends on the parent
  | nil =>
    have hparts' : (r.onStack active).out.parts = [] := hparts
    cases hname : r.parent with
    | none =>
      have hname' : (r.onStack active).parent = none := hname
      rw [conclude_of_outermost hparts hname, conclude_of_outermost hparts' hname']
      rfl
    | some name =>
      have hname' : (r.onStack active).parent = some name := hname
      rcases hmade : create r.shared.source name with ⟨made, source⟩
      have hmade' : stackedSource create (r.onStack active).shared.source name =
          (made, ⟨source, active⟩) := stackedSource_onStack hmade
      cases made with
      | error e =>
        rw [conclude_of_missing hparts hname hmade, conclude_of_missing hparts' hname' hmade']
        rfl
      | ok parent =>
        have hanswer := h (parentRequest generation r parent source)
        rw [conclude_of_made hparts hname hmade, conclude_of_made hparts' hname' hmade',
          ← behind_onStack, ← hanswer]
        rfl

/-- Rendering a view keeps the stack if rendering the views inside of it does. -/
lemma renderWith_onStack (h : KeepsStack active inner' inner) (steps : Nat) :
    KeepsStack active (engine.renderWith (stackedSource create) steps inner')
      (engine.renderWith create steps inner) := by
  intro q
  cases hprogram : engine.program q.view with
  | error e =>
    have hprogram' : engine.program (q.onStack active).view = .error e := hprogram
    rw [renderWith_of_error hprogram, renderWith_of_error hprogram']
    rfl
  | ok program =>
    have hprogram' : engine.program (q.onStack active).view = .ok program := hprogram
    have hrun : (engine.machine (stackedSource create) (q.onStack active).place inner').runAll
        program steps (q.onStack active).start.state =
        ((engine.machine create q.place inner).runAll program steps q.start.state).map
          (Running.onStack active) :=
      (machine_onStack h q.place).run steps q.start
    rw [renderWith_of_program hprogram, renderWith_of_program hprogram', hrun]
    cases (engine.machine create q.place inner).runAll program steps q.start.state with
    | done r => exact conclude_onStack h q.generation q.view r
    | failed e r => rfl
    | unfinished => rfl

lemma leave_onStack (name : String) (answer : Rendering φ) :
    (answer.onStack (active ++ [name])).leave = answer.onStack active := by
  cases answer <;> simp [Rendering.onStack, Rendering.leave, Shared.onStack]

/-! ## Entering a view -/

/-- The views from the one of a name on, and the name again. -/
def IsCycle (active : List String) (name : String) (chain : List String) : Prop :=
  ∃ before between, active = before ++ name :: between ∧ name ∉ before ∧
    chain = name :: between ++ [name]

lemma dropWhile_before {name : String} {before : List String} (h : name ∉ before)
    (between : List String) :
    (before ++ name :: between).dropWhile (· != name) = name :: between := by
  induction before with
  | nil => simp
  | cons other before ih =>
    obtain ⟨hother, hbefore⟩ := not_or.1 (List.mem_cons.not.1 h)
    have hne : (other != name) = true := by simpa using Ne.symm hother
    simp [hne, ih hbefore]

lemma cycle?_eq_some_iff {name : String} {chain : List String} :
    cycle? active name = some chain ↔ name ≠ "" ∧ IsCycle active name chain := by
  unfold cycle?
  constructor
  · intro h
    split at h
    · cases h
    rename_i hname
    split at h
    · rename_i hmem
      obtain ⟨before, between, hactive, hbefore⟩ :=
        List.eq_append_cons_of_mem (List.contains_iff_mem.1 hmem)
      rw [hactive, dropWhile_before hbefore] at h
      exact ⟨by simpa using hname, before, between, hactive, hbefore, (Option.some.inj h).symm⟩
    · cases h
  · rintro ⟨hname, before, between, rfl, hbefore, rfl⟩
    have hempty : name.isEmpty = false := by simpa using hname
    simp [hempty, dropWhile_before hbefore]

lemma cycle?_eq_none_iff {name : String} :
    cycle? active name = none ↔ name = "" ∨ name ∉ active := by
  unfold cycle?
  by_cases hname : name = ""
  · simp [hname]
  · by_cases hmem : name ∈ active
    · simp [hname, hmem]
    · simp [hname, hmem]

lemma enter_eq_depthExceeded_iff {maxDepth : Nat} {name : String} :
    enter maxDepth active name = .error (.depthExceeded maxDepth) ↔ maxDepth ≤ active.length := by
  unfold enter
  by_cases h : maxDepth ≤ active.length
  · simp [h]
  · rw [if_neg h]
    cases cycle? active name <;> simp [h]

lemma enter_eq_cycle_iff {maxDepth : Nat} {name : String} {chain : List String} :
    enter maxDepth active name = .error (.inheritanceCycle chain) ↔
      active.length < maxDepth ∧ name ≠ "" ∧ IsCycle active name chain := by
  unfold enter
  by_cases h : maxDepth ≤ active.length
  · simp [h, Nat.not_lt.2 h]
  · rw [if_neg h, ← cycle?_eq_some_iff]
    cases cycle? active name <;> simp [Nat.lt_of_not_le h]

lemma enter_eq_ok_iff {maxDepth : Nat} {name : String} {entered : List String} :
    enter maxDepth active name = .ok entered ↔
      active.length < maxDepth ∧ (name = "" ∨ name ∉ active) ∧ entered = active ++ [name] := by
  unfold enter
  by_cases h : maxDepth ≤ active.length
  · simp [h, Nat.not_lt.2 h]
  · rw [if_neg h, ← cycle?_eq_none_iff]
    cases cycle? active name <;> simp [Nat.lt_of_not_le h, eq_comm]

/-- With a stack and with the names handed down, views are rendered alike, and the stack is found as
it was left.  There is room for as many views as are missing on the stack. -/
lemma renderOn_onStack (steps : Nat) {depth : Nat} (hactive : active.length ≤ engine.maxDepth)
    (hdepth : engine.maxDepth < active.length + depth) :
    KeepsStack active (engine.renderOn create steps depth)
      (engine.render create steps (engine.maxDepth - active.length) active) := by
  induction depth generalizing active with
  | zero => omega
  | succ depth ih =>
    intro q
    obtain ⟨generation, scope, view, shared⟩ := q
    have hstack : (shared.onStack active).source.active = active := rfl
    simp only [Request.render, Request.onStack, renderOn, hstack]
    rcases Nat.eq_or_lt_of_le hactive with hfull | hless
    · -- no room is left, which the one finds on its stack and the other in its depth
      rw [enter_eq_depthExceeded_iff.2 (Nat.le_of_eq hfull.symm), hfull, Nat.sub_self]
      rfl
    · obtain ⟨room, hroom⟩ : ∃ room, engine.maxDepth - active.length = room + 1 :=
        ⟨engine.maxDepth - active.length - 1, by omega⟩
      simp only [hroom, render]
      cases hcycle : cycle? active view.name with
      | some chain =>
        rw [enter_eq_cycle_iff.2 ⟨hless, cycle?_eq_some_iff.1 hcycle⟩]
        rfl
      | none =>
        rw [enter_eq_ok_iff.2 ⟨hless, cycle?_eq_none_iff.1 hcycle, rfl⟩]
        -- the view is entered, and with it on the stack the induction goes on inside of it
        have hlength : (active ++ [view.name]).length = active.length + 1 := by simp
        have hfits : (active ++ [view.name]).length ≤ engine.maxDepth := by omega
        have hinner := ih hfits (by omega)
        have hleft : engine.maxDepth - (active ++ [view.name]).length = room := by omega
        rw [hleft] at hinner
        have hview : KeepsStack (active ++ [view.name]) _
            (engine.renderWith create steps (engine.render create steps room _)) :=
          renderWith_onStack hinner steps
        have hanswer := hview ⟨generation, scope, view, shared⟩
        simp only [Request.render, Request.onStack] at hanswer
        rw [← leave_onStack view.name, ← hanswer]
        rfl

end Engine

/-! ## The stack at every moment -/

/-- There are at most as many names on the stack as views may be rendered inside of one another, and
no name stands there twice but the empty one. -/
structure StackInvariant (maxDepth : Nat) (active : List String) : Prop where
  bounded : active.length ≤ maxDepth
  distinct : (active.filter (· ≠ "")).Nodup

namespace StackInvariant

variable {maxDepth : Nat} {active entered chain : List String} {name : String}

lemma nil (maxDepth : Nat) : StackInvariant maxDepth [] :=
  ⟨Nat.zero_le maxDepth, List.nodup_nil⟩

/-- Entering a view keeps the invariant. -/
lemma enter (h : StackInvariant maxDepth active)
    (henter : ViewTemplate.enter maxDepth active name = .ok entered) :
    StackInvariant maxDepth entered := by
  obtain ⟨hless, hname, rfl⟩ := Engine.enter_eq_ok_iff.1 henter
  refine ⟨by simpa using Nat.succ_le_of_lt hless, ?_⟩
  rw [List.filter_append]
  rcases hname with rfl | hname
  · simpa using h.distinct
  · by_cases hempty : name = ""
    · simpa [hempty] using h.distinct
    · have hnew : ∀ other ∈ active.filter (· ≠ ""), other ≠ name := by
        rintro other hother rfl
        exact hname (List.mem_filter.1 hother).1
      have hsingle : [name].filter (· ≠ "") = [name] := by simp [hempty]
      rw [hsingle, List.nodup_append]
      refine ⟨h.distinct, by simp, fun other hother last hlast => ?_⟩
      rw [List.mem_singleton.1 hlast]
      exact hnew other hother

/-- A cycle starts and ends with one name, and between them no other name but the empty one stands
twice. -/
lemma cycle (h : StackInvariant maxDepth active) (hcycle : Engine.IsCycle active name chain) :
    chain.head? = some name ∧ chain.getLast? = some name ∧
      (chain.dropLast.filter (· ≠ "")).Nodup := by
  obtain ⟨before, between, rfl, -, rfl⟩ := hcycle
  refine ⟨rfl, List.getLast?_concat, ?_⟩
  have hpart := h.distinct
  rw [List.filter_append] at hpart
  rw [List.dropLast_concat]
  exact (List.nodup_append.1 hpart).2.1

end StackInvariant

namespace Engine

variable {engine : Engine} {create : ViewSource φ} {active : List String}
  {inner : RenderInner φ} {inner' : RenderInner (Stacked φ)}

/-- While a view runs the stack stays as it is. -/
lemma active_of_goes (h : KeepsStack active inner' inner) {q : Request φ} {program : Linked}
    {count : Nat} {state : Machine.State (Running (Stacked φ))}
    (hgoes : (engine.machine (stackedSource create) (q.onStack active).place inner').Goes program
      count (q.onStack active).start state) : state.state.shared.source.active = active := by
  obtain ⟨t, rfl, -⟩ := (machine_onStack h q.place).goes (s := q.start) hgoes
  rfl

/-- Every view inside of a view finds the stack as the view around it has left it. -/
lemma active_of_asks (h : KeepsStack active inner' inner) {steps : Nat} {q : Request φ}
    {other : Request (Stacked φ)}
    (hasks : engine.Asks (stackedSource create) steps inner' (q.onStack active) other) :
    other.active = active := by
  cases hasks with
  | embedded hprogram hgoes hop hembeds =>
    obtain ⟨name, vars, v, explicit, view, source, -, -, -, hmade, rfl⟩ := hembeds
    have hsource : source.active = _ := congrArg (fun made => made.2.active) hmade.symm
    exact hsource.trans (active_of_goes h hgoes)
  | parent hprogram hrun hparts hname hmade =>
    obtain ⟨count, state, hgoes, -, rfl⟩ := Machine.exists_goes_of_run hrun
    have hsource := congrArg (fun made => made.2.active) hmade.symm
    exact hsource.trans (active_of_goes h hgoes)

/-- The requests that rendering a page comes to, the one for the page itself included. -/
inductive Requested (engine : Engine) (create : ViewSource φ) (steps : Nat) (view : View)
    (source : φ) : (depth : Nat) → Request (Stacked φ) → Prop
  | page : Requested engine create steps view source (engine.maxDepth + 1)
      (Request.onStack [] ⟨0, view.vars, view, { source }⟩)
  | inner {depth : Nat} {q other : Request (Stacked φ)} {entered : List String}
      (h : Requested engine create steps view source (depth + 1) q)
      (henter : enter engine.maxDepth q.active q.view.name = .ok entered)
      (hasks : engine.Asks (stackedSource create) steps (engine.renderOn create steps depth)
        (q.withActive entered) other) :
      Requested engine create steps view source depth other

/-- A request with its stack put aside. -/
def unstacked (q : Request (Stacked φ)) : Request φ :=
  ⟨q.generation, q.scope, q.view, ⟨q.shared.parts, q.shared.source.source⟩⟩

lemma onStack_unstacked (q : Request (Stacked φ)) (active : List String) :
    (unstacked q).onStack active = q.withActive active := rfl

/-- What holds of the stack for every request: the invariant, and that there is as much depth left
as is missing on the stack. -/
lemma Requested.invariant {steps : Nat} {view : View} {source : φ} {depth : Nat}
    {q : Request (Stacked φ)} (h : Requested engine create steps view source depth q) :
    StackInvariant engine.maxDepth q.active ∧ q.active.length + depth = engine.maxDepth + 1 := by
  induction h with
  | page => exact ⟨.nil engine.maxDepth, by simp [Request.active, Request.onStack, Shared.onStack]⟩
  | @inner depth q other entered _ henter hasks ih =>
    obtain ⟨hstack, hdepth⟩ := ih
    have hentered := hstack.enter henter
    obtain ⟨hless, -, rfl⟩ := enter_eq_ok_iff.1 henter
    rw [← onStack_unstacked] at hasks
    have hlength : (q.active ++ [q.view.name]).length = q.active.length + 1 := by simp
    have hkeeps : KeepsStack (q.active ++ [q.view.name]) (engine.renderOn create steps depth) _ :=
      renderOn_onStack steps hentered.bounded (by omega)
    have hactive : other.active = q.active ++ [q.view.name] := active_of_asks hkeeps hasks
    rw [hactive]
    exact ⟨hentered, by omega⟩

/-- **The views being rendered.**  With their names on one stack a page is rendered as it is with
the names handed down.  For every request that the page comes to, at any depth: the stack keeps its
invariant; the request is answered with the stack as it was found; entering the view fails for
depth just if the stack is full, and else for a cycle just if the name is not empty and on the
stack, and the cycle goes from there back to the name; and a view that is entered stands on the
stack, alone behind what was there, for as long as its program runs. -/
theorem active_views (engine : Engine) (create : ViewSource φ) (steps : Nat) (view : View)
    (source : φ) :
    (Request.onStack [] ⟨0, view.vars, view, { source }⟩).render
        (engine.renderOn create steps (engine.maxDepth + 1)) =
      (engine.renderPage create steps view source).onStack [] ∧
    ∀ depth q, Requested engine create steps view source depth q →
      StackInvariant engine.maxDepth q.active ∧
      (∃ answer : Rendering φ,
        q.render (engine.renderOn create steps depth) = answer.onStack q.active) ∧
      (enter engine.maxDepth q.active q.view.name = .error (.depthExceeded engine.maxDepth) ↔
        engine.maxDepth ≤ q.active.length) ∧
      (∀ chain, enter engine.maxDepth q.active q.view.name = .error (.inheritanceCycle chain) ↔
        q.active.length < engine.maxDepth ∧ q.view.name ≠ "" ∧
          IsCycle q.active q.view.name chain) ∧
      (∀ chain, IsCycle q.active q.view.name chain → chain.head? = some q.view.name ∧
        chain.getLast? = some q.view.name ∧ (chain.dropLast.filter (· ≠ "")).Nodup) ∧
      (∀ e, enter engine.maxDepth q.active q.view.name = .error e →
        q.render (engine.renderOn create steps depth) = .failed e q.view q.shared) ∧
      ∀ entered, enter engine.maxDepth q.active q.view.name = .ok entered →
        entered = q.active ++ [q.view.name] ∧ StackInvariant engine.maxDepth entered ∧
        ∀ program count state, engine.program q.view = .ok program →
          (engine.machine (stackedSource create) q.place
            (engine.renderOn create steps (depth - 1))).Goes program count
              (q.withActive entered).start state →
          state.state.shared.source.active = entered := by
  refine ⟨?_, ?_⟩
  · have hempty : ([] : List String).length ≤ engine.maxDepth := Nat.zero_le _
    exact renderOn_onStack steps hempty (by simp) ⟨0, view.vars, view, { source }⟩
  · intro depth q hq
    obtain ⟨hstack, hdepth⟩ := hq.invariant
    have hbounded := hstack.bounded
    obtain ⟨depth, rfl⟩ : ∃ less, depth = less + 1 := ⟨depth - 1, by omega⟩
    have hkeeps : KeepsStack q.active (engine.renderOn create steps (depth + 1)) _ :=
      renderOn_onStack steps hbounded (by omega)
    refine ⟨hstack, ⟨_, hkeeps (unstacked q)⟩, enter_eq_depthExceeded_iff,
      fun chain => enter_eq_cycle_iff, fun chain hcycle => hstack.cycle hcycle, ?_, ?_⟩
    · intro e he
      have hfind : enter engine.maxDepth q.shared.source.active q.view.name = .error e := he
      simp only [Request.render, renderOn, hfind]
    · intro entered hentered
      have hinvariant := hstack.enter hentered
      obtain ⟨hless, -, rfl⟩ := enter_eq_ok_iff.1 hentered
      refine ⟨rfl, hinvariant, ?_⟩
      intro program count state hprogram hgoes
      have hlength : (q.active ++ [q.view.name]).length = q.active.length + 1 := by simp
      have hinner : KeepsStack (q.active ++ [q.view.name]) (engine.renderOn create steps depth) _ :=
        renderOn_onStack steps hinvariant.bounded (by omega)
      exact active_of_goes (q := unstacked q) hinner hgoes

/-- A view without a name that puts the view `next` in place, and tells it that `a` is the next. -/
def namelessViews : Factory where
  templates := [("", "<% include($next, [\"next\" => \"a\"]) %>"), ("a", "x")]

/-- A page of the name `a` around two views without a name. -/
def namelessPage : View where
  name := "a"
  contents := "<% include(\"\") %>"
  vars := [("next", .text "")]
  distinct := List.nodup_singleton _

/-- The name of the view that a program puts in place first, and the line. -/
def firstEmbed? : Linked → Option (String × Nat)
  | ⟨.act (.embed (.literal (.text name)) none), line⟩ :: _ => some (name, line)
  | _ => none

lemma getElem?_of_firstEmbed? {program : Linked} {name : String} {line : Nat}
    (h : firstEmbed? program = some (name, line)) :
    program[0]? = some ⟨.act (.embed (.literal (.text name)) none), line⟩ := by
  unfold firstEmbed? at h
  split at h
  · obtain ⟨rfl, rfl⟩ := Prod.mk.inj (Option.some.inj h)
    rfl
  · cases h

/-- The view inside of the page finds the page on the stack and is entered. -/
theorem active_views_nameless :
    ∃ depth q, Requested {} Factory.create 20 namelessPage namelessViews depth q ∧
      q.active = ["a"] ∧ q.view.name = "" ∧
      (∃ answer : Rendering Factory,
        q.render (renderOn {} Factory.create 20 depth) = answer.onStack ["a"]) ∧
      StackInvariant 32 ["a", ""] := by
  have hfirst : (Engine.program {} namelessPage).toOption.bind firstEmbed? = some ("", 1) := by
    decide +kernel
  obtain ⟨program, hprogram, hembed⟩ := Option.bind_eq_some_iff.1 hfirst
  have hok : Engine.program {} namelessPage = .ok program := by
    cases hcases : Engine.program {} namelessPage with
    | error e => simp [hcases, Except.toOption] at hprogram
    | ok made => simpa [hcases, Except.toOption] using hprogram
  have henter : enter 32 [] namelessPage.name = .ok ["a"] := rfl
  have hrequest : Requested {} Factory.create 20 namelessPage namelessViews 32 _ :=
    .inner .page henter
      (.embedded hok (.stays _) (getElem?_of_firstEmbed? hembed)
        ⟨_, none, .text "", [], _, _, rfl, rfl, rfl, rfl, rfl⟩)
  obtain ⟨-, hanswer, -, -, -, -, hentered⟩ :=
    (active_views {} Factory.create 20 namelessPage namelessViews).2 32 _ hrequest
  exact ⟨32, _, hrequest, rfl, rfl, hanswer, (hentered ["a", ""] rfl).2.1⟩

/-- The cycle that a rendering has failed with. -/
def cycleOf? : Rendering φ → Option (List String)
  | .failed (.inheritanceCycle chain) _ _ => some chain
  | _ => none

/-- Between its ends a cycle can name views without a name more than once. -/
theorem cycle_repeats_empty_name :
    ∃ chain, cycleOf? (renderPage {} Factory.create 20 namelessPage namelessViews) = some chain ∧
      ¬chain.tail.dropLast.Nodup :=
  ⟨["a", "", "", "a"], by decide +kernel, by decide⟩

end Engine

end ViewTemplate
