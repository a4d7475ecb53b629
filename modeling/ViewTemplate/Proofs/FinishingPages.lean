import Mathlib.Order.Filter.AtTopBot.Basic
import Mathlib.Tactic.Common
import ViewTemplate.Proofs.LinkedExecution
import ViewTemplate.Proofs.MadeViews
import ViewTemplate.Proofs.PageVisits

/-!
# Pages without open loops come to an end

A loop over the items of a collection goes through items that were fixed when it started; the other
two kinds of loop go on for as long as a condition holds, which may be forever.  A page whose views
have no loops of the second kind always comes to an end, whatever the views do to one another
(`renderPage_finishes`).

Rendering takes a bound on the steps of every program and hands it on to the views inside, so "comes
to an end" means that from some bound on there is one answer for all of them.  For the program of a
view this is carried by `Machine.Passed`: a state that the machines for all large bounds come to, in
the same number of steps.  Each way of putting pieces of a program together leads from the front of
the piece to its end (`Machine.Finishes`); a loop over items is an induction on the items.  Around
that stands an induction on the room that is left for views inside of one another.
-/

namespace ViewTemplate.Program

open Filter
open ViewTemplate.Script (Expr)

/-- Whether an instruction starts a loop that goes on for as long as a condition holds. -/
def Instruction.isOpenLoop : Instruction → Bool
  | .forLoop _ _ _ => true
  | .whileLoop _ => true
  | _ => false

namespace Machine

variable {ε σ : Type}

/-- All machines from some one on come to a state, in the same number of steps. -/
def Passed (m : ℕ → Machine ε σ) (program : Linked) (start state : Machine.State σ) : Prop :=
  ∃ count, ∀ᶠ n in atTop, (m n).Goes program count start state

/-- All machines from some one on fail in the same way, in the same number of steps. -/
def Fails (m : ℕ → Machine ε σ) (program : Linked) (start : Machine.State σ) : Prop :=
  ∃ count e t, ∀ᶠ n in atTop, ∀ fuel,
    (m n).run program.toArray (count + fuel) start = .failed e t

/-- Machines that differ in what actions do only, and that agree on an action in the end wherever
they come to it. -/
structure Converges (m : ℕ → Machine ε σ) (program : Linked) (start : Machine.State σ) : Prop where
  eval : ∀ n, (m n).eval = (m 0).eval
  items : ∀ n, (m n).items = (m 0).items
  bind : ∀ n, (m n).bind = (m 0).bind
  act : ∀ {state : Machine.State σ} {a : Action} {line : Nat}, Passed m program start state →
    program[state.position]? = some ⟨.act a, line⟩ →
    ∃ ending : Ending ε σ, ∀ᶠ n in atTop, (m n).act a line state.state = ending.outcome

/-- Whenever the machines stand at `entry` they come to `exit` with the same loops, or they fail. -/
def Finishes (m : ℕ → Machine ε σ) (program : Linked) (start : Machine.State σ)
    (entry exit : Nat) : Prop :=
  ∀ loops s, Passed m program start ⟨entry, loops, s⟩ →
    (∃ t, Passed m program start ⟨exit, loops, t⟩) ∨ Fails m program start

variable {m : ℕ → Machine ε σ} {program : Linked} {start : Machine.State σ}

lemma Passed.step {state next : Machine.State σ} {op : Lined Op} (h : Passed m program start state)
    (hop : program[state.position]? = some op)
    (hstep : ∀ᶠ n in atTop, (m n).step op.item op.line state = .next next) :
    Passed m program start next := by
  obtain ⟨count, hgoes⟩ := h
  refine ⟨count + 1, ?_⟩
  filter_upwards [hgoes, hstep] with n hgoes hstep
  exact .step hgoes hop hstep

lemma Passed.fails {state : Machine.State σ} {op : Lined Op} {e : ε} {t : σ}
    (h : Passed m program start state) (hop : program[state.position]? = some op)
    (hstep : ∀ᶠ n in atTop, (m n).step op.item op.line state = .failed e t) :
    Fails m program start := by
  obtain ⟨count, hgoes⟩ := h
  refine ⟨count + 1, e, t, ?_⟩
  filter_upwards [hgoes, hstep] with n hgoes hstep fuel
  have hrun := hgoes.run_add (fuel + 1)
  rw [run_succ hop, hstep] at hrun
  rwa [Nat.add_right_comm]

/-! ## How pieces are put together -/

namespace Finishes

variable {entry middle exit line : Nat}

lemma refl (entry : Nat) : Finishes m program start entry entry :=
  fun _ s h => .inl ⟨s, h⟩

lemma trans (hfirst : Finishes m program start entry middle)
    (hsecond : Finishes m program start middle exit) : Finishes m program start entry exit := by
  intro loops s h
  rcases hfirst loops s h with ⟨t, ht⟩ | hfails
  · exact hsecond loops t ht
  · exact .inr hfails

lemma jump (hop : program[entry]? = some ⟨.jump exit, line⟩) :
    Finishes m program start entry exit := by
  intro loops s h
  exact .inl ⟨s, h.step hop (.of_forall fun n => rfl)⟩

lemma act (hm : Converges m program start) {a : Action}
    (hop : program[entry]? = some ⟨.act a, line⟩) :
    Finishes m program start entry (entry + 1) := by
  intro loops s h
  obtain ⟨ending, hending⟩ := hm.act h hop
  cases ending with
  | done t =>
    refine .inl ⟨t, h.step hop ?_⟩
    filter_upwards [hending] with n hact
    simp only [Machine.step, hact, Ending.outcome]
  | failed e t =>
    refine .inr (h.fails hop (e := e) (t := t) ?_)
    filter_upwards [hending] with n hact
    simp only [Machine.step, hact, Ending.outcome]

lemma actOps (hm : Converges m program start) {a : Action}
    (hat : program.HasAt entry (actOps a line)) :
    Finishes m program start entry (entry + (Program.actOps a line).length) := by
  unfold Program.actOps at hat ⊢
  by_cases hidle : a.isIdle = true
  · rw [if_pos hidle]
    exact refl entry
  · rw [if_neg hidle] at hat ⊢
    exact act hm hat.get

/-- A jump on a condition leads to the piece behind it or to the piece it names. -/
lemma chooses (hm : Converges m program start) {condition : Expr} {target : Nat}
    (hop : program[entry]? = some ⟨.jumpUnless condition target, line⟩)
    (hyes : Finishes m program start (entry + 1) exit)
    (hno : Finishes m program start target exit) : Finishes m program start entry exit := by
  intro loops s h
  have hstep : ∀ n, (m n).step (.jumpUnless condition target) line ⟨entry, loops, s⟩ =
      (m 0).step (.jumpUnless condition target) line ⟨entry, loops, s⟩ := by
    intro n
    simp only [Machine.step, hm.eval n]
  cases hholds : (m 0).holds condition line s with
  | error e =>
    refine .inr (h.fails hop (e := e) (t := s) (.of_forall fun n => ?_))
    rw [hstep, step_jumpUnless, hholds]
  | ok b =>
    cases b with
    | true =>
      refine hyes loops s (h.step hop (.of_forall fun n => ?_))
      rw [hstep, step_jumpUnless, hholds]
    | false =>
      refine hno loops s (h.step hop (.of_forall fun n => ?_))
      rw [hstep, step_jumpUnless, hholds]

/-- The rounds of a loop over items, by induction on the items that are left. -/
lemma rounds (hm : Converges m program start) {bottom closeLine : Nat} {key : Option String}
    {value : String} (hbody : Finishes m program start entry bottom)
    (hbottom : program[bottom]? = some ⟨.loopNext entry, closeLine⟩)
    (items : List (Value × Value)) (loops : List Loop) (s : σ)
    (h : Passed m program start ⟨entry, ⟨items, key, value⟩ :: loops, s⟩) :
    (∃ t, Passed m program start ⟨bottom + 1, loops, t⟩) ∨ Fails m program start := by
  induction items generalizing s with
  | nil =>
    rcases hbody _ s h with ⟨t, ht⟩ | hfails
    · exact .inl ⟨t, ht.step hbottom (.of_forall fun n => rfl)⟩
    · exact .inr hfails
  | cons item items ih =>
    rcases hbody _ s h with ⟨t, ht⟩ | hfails
    · refine ih ((m 0).bind key value item t) (ht.step hbottom (.of_forall fun n => ?_))
      simp only [Machine.step, hm.bind n]
    · exact .inr hfails

lemma goesThrough (hm : Converges m program start) {subject : Expr} {key : Option String}
    {value : String} {bottom closeLine : Nat}
    (hop : program[entry]? = some ⟨.loopStart subject key value (bottom + 1), line⟩)
    (hbody : Finishes m program start (entry + 1) bottom)
    (hbottom : program[bottom]? = some ⟨.loopNext (entry + 1), closeLine⟩) :
    Finishes m program start entry (bottom + 1) := by
  intro loops s h
  -- all machines of the row agree on the start of the loop: only actions may differ
  have hstep : ∀ n, (m n).step (.loopStart subject key value (bottom + 1)) line
      ⟨entry, loops, s⟩ =
      (m 0).step (.loopStart subject key value (bottom + 1)) line ⟨entry, loops, s⟩ := by
    intro n
    simp only [Machine.step, hm.eval n, hm.items n, hm.bind n]
  cases hitems : (m 0).itemsOf subject line s with
  | error e =>
    refine .inr (h.fails hop (e := e) (t := s) (.of_forall fun n => ?_))
    rw [hstep, step_loopStart, hitems]
  | ok items =>
    cases items with
    | nil =>
      refine .inl ⟨s, h.step hop (.of_forall fun n => ?_)⟩
      rw [hstep, step_loopStart, hitems]
    | cons item items =>
      -- the first round, with the items behind the first one still to come
      have hentered : Passed m program start
          ⟨entry + 1, ⟨items, key, value⟩ :: loops, (m 0).bind key value item s⟩ := by
        refine h.step hop (.of_forall fun n => ?_)
        rw [hstep, step_loopStart, hitems]
      exact rounds hm hbody hbottom items loops _ hentered

end Finishes

/-! ## The operations of blocks -/

lemma finishes_leave {entry exit : Nat} (c : Chain) (hat : program.HasAt entry (c.link entry exit))
    (hexit : entry + c.size = exit) : Finishes m program start entry exit := by
  cases c with
  | close line =>
    obtain rfl : entry = exit := hexit
    exact .refl entry
  | elseIf condition line body rest =>
    rw [Chain.link] at hat
    exact .jump hat.get
  | otherwise line body closeLine =>
    rw [Chain.link] at hat
    exact .jump hat.get

mutual

lemma finishes_link (hm : Converges m program start) (b : Block)
    (hfree : ∀ i ∈ b.flatten, i.item.isOpenLoop = false) {entry : Nat}
    (hat : program.HasAt entry (b.link entry)) :
    Finishes m program start entry (entry + b.size) := by
  cases b with
  | act a line =>
    rw [Block.link] at hat
    rw [Block.size]
    exact .actOps hm hat
  | comment s line => exact .refl entry
  | ifElse condition line body rest =>
    simp only [Block.flatten, List.mem_cons, List.mem_append] at hfree
    rw [Block.link] at hat
    have hrest := hat.tail.right
    rw [length_linkAll] at hrest
    have hexit : entry + (Block.ifElse condition line body rest).size =
        entry + 1 + sizeAll body + rest.size := by
      rw [Block.size]; omega
    rw [hexit]
    have hbody := finishes_linkAll hm body (fun i hi => hfree i (.inr (.inl hi))) hat.tail.left
    exact .chooses hm hat.get (hbody.trans (finishes_leave rest hrest rfl))
      (finishes_chain hm rest (fun i hi => hfree i (.inr (.inr hi))) hrest rfl)
  | forEach subject key value line body closeLine =>
    simp only [Block.flatten, List.mem_cons, List.mem_append] at hfree
    rw [Block.link] at hat
    have hbottom := hat.tail.right
    rw [length_linkAll] at hbottom
    have hexit : entry + (Block.forEach subject key value line body closeLine).size =
        entry + 1 + sizeAll body + 1 := by
      rw [Block.size]; omega
    have hop := hat.get
    rw [show entry + 2 + sizeAll body = entry + 1 + sizeAll body + 1 by omega] at hop
    rw [hexit]
    exact .goesThrough hm hop
      (finishes_linkAll hm body (fun i hi => hfree i (.inr (.inl hi))) hat.tail.left) hbottom.get
  | forLoop first condition step line body closeLine =>
    have hhead := hfree ⟨.forLoop first condition step, line⟩ (by simp [Block.flatten])
    simp [Instruction.isOpenLoop] at hhead
  | whileLoop condition line body closeLine =>
    have hhead := hfree ⟨.whileLoop condition, line⟩ (by simp [Block.flatten])
    simp [Instruction.isOpenLoop] at hhead
termination_by structural b

lemma finishes_linkAll (hm : Converges m program start) (bs : List Block)
    (hfree : ∀ i ∈ flattenAll bs, i.item.isOpenLoop = false) {entry : Nat}
    (hat : program.HasAt entry (linkAll entry bs)) :
    Finishes m program start entry (entry + sizeAll bs) := by
  cases bs with
  | nil => exact .refl entry
  | cons b rest =>
    simp only [flattenAll, List.mem_append] at hfree
    rw [linkAll] at hat
    have hrest := hat.right
    rw [Block.length_link] at hrest
    rw [sizeAll, ← Nat.add_assoc]
    have hfirst := finishes_link hm b (fun i hi => hfree i (.inl hi)) hat.left
    exact hfirst.trans (finishes_linkAll hm rest (fun i hi => hfree i (.inr hi)) hrest)
termination_by structural bs

lemma finishes_chain (hm : Converges m program start) (c : Chain)
    (hfree : ∀ i ∈ c.flatten, i.item.isOpenLoop = false) {entry exit : Nat}
    (hat : program.HasAt entry (c.link entry exit)) (hexit : entry + c.size = exit) :
    Finishes m program start (c.entry entry) exit := by
  cases c with
  | close line =>
    obtain rfl : entry = exit := hexit
    exact .refl entry
  | elseIf condition line body rest =>
    simp only [Chain.flatten, List.mem_cons, List.mem_append] at hfree
    rw [Chain.link] at hat
    have hrest := hat.tail.tail.right
    rw [length_linkAll, show entry + 1 + 1 = entry + 2 from rfl] at hrest
    have hend : entry + 2 + sizeAll body + rest.size = exit := by
      rw [← hexit, Chain.size]; omega
    have hbody := finishes_linkAll hm body (fun i hi => hfree i (.inr (.inl hi))) hat.tail.tail.left
    exact .chooses hm hat.tail.get (hbody.trans (finishes_leave rest hrest hend))
      (finishes_chain hm rest (fun i hi => hfree i (.inr (.inr hi))) hrest hend)
  | otherwise line body closeLine =>
    simp only [Chain.flatten, List.mem_cons, List.mem_append] at hfree
    rw [Chain.link] at hat
    have hend : entry + 1 + sizeAll body = exit := by
      rw [← hexit, Chain.size]; omega
    rw [← hend]
    exact finishes_linkAll hm body (fun i hi => hfree i (.inr (.inl hi))) hat.tail
termination_by structural c

end

/-- Without open loops all machines from some one on come to one ending, with as many steps as the
machine has in the row. -/
lemma exists_ending_of_converges {bs : List Block} {s : σ}
    (hm : Converges m (link bs) ⟨0, [], s⟩)
    (hfree : ∀ i ∈ flattenAll bs, i.item.isOpenLoop = false) :
    ∃ ending : Ending ε σ, ∀ᶠ n in atTop, (m n).runAll (link bs) n s = ending.outcome := by
  have hstart : Passed m (link bs) ⟨0, [], s⟩ ⟨0, [], s⟩ := ⟨0, .of_forall fun n => .stays _⟩
  have hwhole := finishes_linkAll hm bs hfree (Linked.HasAt.whole (link bs))
  rcases hwhole [] s hstart with ⟨t, count, hgoes⟩ | ⟨count, e, t, hfails⟩
  · refine ⟨.done t, ?_⟩
    filter_upwards [hgoes, eventually_ge_atTop (count + 1)] with n hgoes hn
    obtain ⟨fuel, rfl⟩ : ∃ fuel, n = count + (fuel + 1) := ⟨n - count - 1, by omega⟩
    rw [runAll, hgoes.run_add, run_behind (getElem?_link_behind bs)]
    rfl
  · refine ⟨.failed e t, ?_⟩
    filter_upwards [hfails, eventually_ge_atTop count] with n hfails hn
    obtain ⟨fuel, rfl⟩ : ∃ fuel, n = count + fuel := ⟨n - count, by omega⟩
    exact hfails fuel

end Machine

end ViewTemplate.Program

namespace ViewTemplate

open Filter
open ViewTemplate.Program (Ending Instruction Linked Machine Outcome)

variable {φ : Type}

namespace Engine

/-- There is one answer for all large bounds on the steps, and it is an answer. -/
def Settles (f : ℕ → Rendering φ) : Prop :=
  ∃ result, result ≠ .unfinished ∧ ∀ᶠ steps in atTop, f steps = result

variable {engine : Engine} {create : ViewSource φ}

lemma settles_of_forall {f : ℕ → Rendering φ} {result : Rendering φ}
    (hresult : result ≠ .unfinished) (h : ∀ steps, f steps = result) : Settles f :=
  ⟨result, hresult, .of_forall h⟩

lemma Settles.resume {f : ℕ → Rendering φ} (h : Settles f) (r : Running φ) :
    ∃ ending : Ending PageError (Running φ), ∀ᶠ steps in atTop,
      r.resume (f steps) = ending.outcome := by
  obtain ⟨result, hresult, hf⟩ := h
  cases result with
  | done text view shared =>
    refine ⟨.done ({ r with shared }.write text), ?_⟩
    filter_upwards [hf] with steps hf
    rw [hf]
    rfl
  | failed e view shared =>
    refine ⟨.failed e { r with shared }, ?_⟩
    filter_upwards [hf] with steps hf
    rw [hf]
    rfl
  | unfinished => exact absurd rfl hresult

lemma Settles.behind {f : ℕ → Rendering φ} (h : Settles f) (view : View) (text : String) :
    Settles fun steps => (f steps).behind view text := by
  obtain ⟨result, hresult, hf⟩ := h
  refine ⟨result.behind view text, ?_, ?_⟩
  · cases result with
    | done outer parent shared => simp [Rendering.behind]
    | failed e parent shared => simp [Rendering.behind]
    | unfinished => exact absurd rfl hresult
  · filter_upwards [hf] with steps hf
    rw [hf]

section Inside

variable {q : Request φ} {inner : ℕ → RenderInner φ}
  (hasks : ∀ steps other, engine.Asks create steps (inner steps) q other →
    Settles fun n => other.render (inner n))

include hasks

/-- The machines of a view agree on its actions in the end if the views inside settle. -/
lemma converges_machine {program : Linked} (hprogram : engine.program q.view = .ok program) :
    Machine.Converges (fun n => engine.machine create q.place (inner n)) program q.start where
  eval _ := rfl
  items _ := rfl
  bind _ := rfl
  act := by
    intro state a line ⟨count, hgoes⟩ hop
    rcases engine.perform_cases create q.place a line state.state with
      ⟨ending, hsettled⟩ | ⟨other, hembeds, hresume⟩
    · exact ⟨ending, .of_forall fun n => hsettled (inner n)⟩
    · obtain ⟨n, hn⟩ := hgoes.exists
      have hother := hasks n other (.embedded hprogram hn hop hembeds)
      obtain ⟨ending, hending⟩ := hother.resume state.state
      refine ⟨ending, ?_⟩
      filter_upwards [hending] with n hending
      rw [← hending]
      exact hresume (inner n)

lemma settles_conclude {program : Linked} {r : Running φ}
    (hprogram : engine.program q.view = .ok program)
    (hrun : ∀ᶠ n in atTop,
      (engine.machine create q.place (inner n)).runAll program n q.start.state = .done r) :
    Settles fun n => conclude create (inner n) q.generation q.view r := by
  cases hparts : r.out.parts with
  | cons part parts =>
    exact settles_of_forall (by simp) fun n => conclude_of_open hparts (inner n) _ _
  | nil =>
    cases hname : r.parent with
    | none =>
      exact settles_of_forall (by simp) fun n => conclude_of_outermost hparts hname (inner n) _ _
    | some name =>
      rcases hmade : create r.shared.source name with ⟨made, source⟩
      cases made with
      | error e =>
        exact settles_of_forall (by simp) fun n =>
          conclude_of_missing hparts hname hmade (inner n) _ _
      | ok parent =>
        -- the parent is asked for by any of the machines that have come to the end
        obtain ⟨n, hn⟩ := hrun.exists
        have hparent := hasks n _ (.parent hprogram hn hparts hname hmade)
        simp only [conclude_of_made hparts hname hmade]
        exact hparent.behind _ _

/-- A view without open loops settles if the views that it asks for do. -/
lemma settles_renderWith (hfree : engine.Avoids Instruction.isOpenLoop q.view) :
    Settles fun n => q.render (engine.renderWith create n (inner n)) := by
  cases hprogram : engine.program q.view with
  | error e => exact settles_of_forall (by simp) fun n => renderWith_of_error hprogram n (inner n)
  | ok program =>
    have hm := converges_machine hasks hprogram
    obtain ⟨bs, rfl, hbs⟩ := hfree.exists_blocks hprogram
    obtain ⟨ending, hending⟩ : ∃ ending : Ending PageError (Running φ), ∀ᶠ n in atTop,
        (engine.machine create q.place (inner n)).runAll _ n q.start.state = ending.outcome :=
      Machine.exists_ending_of_converges hm hbs
    simp only [renderWith_of_program hprogram]
    cases ending with
    | failed e r =>
      refine ⟨.failed e q.view r.shared, by simp, ?_⟩
      filter_upwards [hending] with n hending
      rw [hending]
      rfl
    | done r =>
      obtain ⟨result, hresult, hconclude⟩ := settles_conclude hasks hprogram hending
      refine ⟨result, hresult, ?_⟩
      filter_upwards [hending, hconclude] with n hending hconclude
      rw [hending, ← hconclude]
      rfl

end Inside

/-! ## Whole pages -/

/-- Every call has less room than the visit it is made from, so that this is an induction on the
calls. -/
lemma settles_rendering (v : Visit φ)
    (hfree : ∀ w, Relation.ReflTransGen (engine.Calls create) v w → w.Entered →
      engine.Avoids Instruction.isOpenLoop w.view) :
    Settles fun steps => engine.rendering create steps v := by
  induction v using visit_induction engine create with
  | outside v hnot =>
    obtain ⟨e, hfails⟩ := engine.rendering_of_not_entered create hnot
    exact settles_of_forall (by simp) hfails
  | entered v hentered ih =>
    simp only [rendering_of_entered hentered]
    refine settles_renderWith ?_ (hfree v .refl hentered)
    intro steps other hasks
    have hcalls := calls_of_asks hentered hasks
    exact ih _ hcalls fun w hw => hfree w (.head hcalls hw)

/-- A page comes to an end if none of the views that are run for it has a loop that goes on for as
long as a condition holds: from some bound on the steps on, the answer is one and the same. -/
theorem renderPage_finishes (engine : Engine) (create : ViewSource φ) (view : View) (source : φ)
    (hfree : ∀ v, Relation.ReflTransGen (engine.Calls create) (.page engine view source) v →
      v.Entered → engine.Avoids Instruction.isOpenLoop v.view) :
    ∃ result, result ≠ .unfinished ∧ ∃ enough, ∀ steps, enough ≤ steps →
      engine.renderPage create steps view source = result := by
  obtain ⟨result, hresult, hsettled⟩ := settles_rendering (.page engine view source) hfree
  exact ⟨result, hresult, eventually_atTop.1 hsettled⟩

/-- A view that puts itself in place and one that is put in place in a loop. -/
def loopingViews : Factory where
  templates := [("row", "<?host echo $x; ?>"), ("tree", "<% include(\"tree\") %>")]

/-- A page with a loop inside of a loop, which gives new values to all that the loops go through. -/
def loopingPage : View where
  name := "page"
  contents := "<% foreach($all as $x) %><?host $all = [$x, $all]; ?><% foreach([1, 2] as $x) %>" ++
    "<?host $x = $x + 1; ?><% include(\"row\") %><% endforeach %><% endforeach %>" ++
    "<% include(\"tree\") %>"
  vars := [("all", .list [.text "a", .text "b"])]
  distinct := List.nodup_singleton _

/-- Loops over items, views in loops and a view inside of itself. -/
theorem renderPage_finishes_loops :
    (∀ v, Relation.ReflTransGen (Calls {} (fixedSource loopingViews)) (.page {} loopingPage ()) v →
      v.Entered → Avoids {} Instruction.isOpenLoop v.view) ∧
    ∃ result, result ≠ .unfinished ∧ ∃ enough, ∀ steps, enough ≤ steps →
      renderPage {} (fixedSource loopingViews) steps loopingPage () = result := by
  have hpage : avoids? {} Instruction.isOpenLoop loopingPage = true := by decide +kernel
  have hviews : ∀ name ∈ Bindings.keys loopingViews.templates,
      (loopingViews.create name).1.toOption.all (avoids? {} Instruction.isOpenLoop) = true := by
    decide +kernel
  have hfree : ∀ v, Relation.ReflTransGen (Calls {} (fixedSource loopingViews))
      (.page {} loopingPage ()) v → v.Entered → Avoids {} Instruction.isOpenLoop v.view := by
    intro v hreached _
    rcases hreached.cases_tail with rfl | ⟨u, -, -, -, -, steps, hasks⟩
    · exact avoids_of_check hpage
    · obtain ⟨source, name, hmade⟩ := hasks.made
      exact avoids_of_check (Factory.check_of_create hviews hmade)
  exact ⟨hfree, renderPage_finishes {} (fixedSource loopingViews) loopingPage () hfree⟩

end Engine

end ViewTemplate
