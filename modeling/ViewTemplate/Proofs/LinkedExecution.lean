import Mathlib.Tactic.Common
import ViewTemplate.Page.Render
import ViewTemplate.Proofs.BackPatching
import ViewTemplate.Proofs.BlockExecution
import ViewTemplate.Proofs.MachineSteps

/-!
# Linked programs do what their blocks say

A linked program is run by a machine that only knows positions, jumps and a stack of running
loops; the blocks it was linked from are run directly by `RunsAll`, which takes what conditions,
items and bindings are from a `Meaning`.  The result here is that the two agree:
`Engine.run_assemble_iff` says that every row of blocks can be assembled and that the machine comes
to an ending from a state exactly when the blocks do.  That the items and bindings of the machine
are those of the meaning of a page is a fact of its own (`loopItems_eq`, `machineWith_eq`).

The invariant that carries the proof is `Machine.Realizes program start exit b`: entered at `start`
with any running loops, the machine does what the behaviour `b` says and then stands at `exit`
with the same loops.  It has two halves.  `reaches` follows an ending of `b` through the program;
`comesFrom` takes a run that ends apart, into an ending of `b` and the run that is left, which has
no more fuel than the whole.  There is one lemma for each way in which pieces of a program are put
together, and the theorem puts these together along the nesting of the blocks.
-/

namespace ViewTemplate.Program

open ViewTemplate.Script (Expr Stmt)

/-! ## Pieces of a program -/

/-- A program has the given operations from a position on. -/
def Linked.HasAt (program : Linked) (start : Nat) (code : Linked) : Prop :=
  code <+: program.drop start

namespace Linked.HasAt

variable {program code front back : Linked} {start : Nat} {op : Lined Op}

lemma whole (program : Linked) : program.HasAt 0 program :=
  List.prefix_rfl

lemma get (h : program.HasAt start (op :: code)) : program[start]? = some op := by
  obtain ⟨behind, hbehind⟩ := h
  have hget : (program.drop start)[0]? = some op := by rw [← hbehind]; rfl
  rwa [List.getElem?_drop, Nat.add_zero] at hget

lemma left (h : program.HasAt start (front ++ back)) : program.HasAt start front :=
  (List.prefix_append front back).trans h

lemma right (h : program.HasAt start (front ++ back)) :
    program.HasAt (start + front.length) back := by
  obtain ⟨behind, hbehind⟩ := h
  refine ⟨behind, ?_⟩
  rw [← List.drop_drop, ← hbehind, List.append_assoc, List.drop_left]

lemma tail (h : program.HasAt start (op :: code)) : program.HasAt (start + 1) code := by
  rw [← List.singleton_append] at h
  exact h.right

end Linked.HasAt

/-! ## The machine of a meaning -/

namespace Machine

variable {ε σ : Type} (m : Machine ε σ)

/-- Whether a condition holds for the machine. -/
def holds (condition : Expr) (line : Nat) (s : σ) : Except ε Bool :=
  (m.eval condition line s).map Value.truthy

/-- The items that the machine finds in a subject. -/
def itemsOf (subject : Expr) (line : Nat) (s : σ) : Except ε (List (Value × Value)) :=
  match m.eval subject line s with
  | .error e => .error e
  | .ok v => m.items v line

end Machine

namespace Meaning

variable {ε σ : Type} {M : Meaning ε σ}

/-- The machine that does what a meaning says. -/
def machine (M : Meaning ε σ) : Machine ε σ where
  act := M.act
  eval := M.eval
  items v line :=
    match v with
    | .list items => .ok (numbered 0 items)
    | .map entries => .ok (named entries)
    | v => .error (M.refuse v line)
  bind := M.bound

lemma machine_holds (condition : Expr) (line : Nat) (s : σ) :
    M.machine.holds condition line s = M.holds (some condition) line s := rfl

section Loops

variable {subject : Expr} {key : Option String} {value : String} {line : Nat}
  {body : Behaviour ε σ} {s : σ} {ending : Ending ε σ}

lemma goesThrough_of_error {e : ε} (h : M.machine.itemsOf subject line s = .error e) :
    M.GoesThrough subject key value line body s (.failed e s) := by
  simp only [Machine.itemsOf, machine] at h
  split at h
  · rename_i heval
    obtain rfl := Except.error.inj h
    exact .fails heval
  · rename_i v heval
    -- of the values that are evaluated only those without items are refused
    split at h
    · cases h
    · cases h
    · rename_i hlist hmap
      obtain rfl := Except.error.inj h
      exact .refused heval hlist hmap

lemma goesThrough_of_ok {items : List (Value × Value)}
    (h : M.machine.itemsOf subject line s = .ok items)
    (hvisits : M.Visits key value body items s ending) :
    M.GoesThrough subject key value line body s ending := by
  simp only [Machine.itemsOf, machine] at h
  split at h
  · cases h
  · rename_i v heval
    split at h
    · obtain rfl := Except.ok.inj h
      exact .list heval hvisits
    · obtain rfl := Except.ok.inj h
      exact .map heval hvisits
    · cases h

/-- A loop over a subject fails with the error of the machine, or goes through the items that the
machine finds. -/
lemma GoesThrough.itemsOf_machine (h : M.GoesThrough subject key value line body s ending) :
    (∃ e, M.machine.itemsOf subject line s = .error e ∧ ending = .failed e s) ∨
      ∃ items, M.machine.itemsOf subject line s = .ok items ∧
        M.Visits key value body items s ending := by
  cases h with
  | fails h => exact .inl ⟨_, by simp only [Machine.itemsOf, machine, h], rfl⟩
  | list h hvisits => exact .inr ⟨_, by simp only [Machine.itemsOf, machine, h], hvisits⟩
  | map h hvisits => exact .inr ⟨_, by simp only [Machine.itemsOf, machine, h], hvisits⟩
  | refused h hlist hmap => exact .inl ⟨_, by simp only [Machine.itemsOf, machine, h], rfl⟩

end Loops

/-- The literal `true` is true. -/
def KnowsTrue (M : Meaning ε σ) : Prop :=
  ∀ line s, M.eval (.literal (.bool true)) line s = .ok (.bool true)

/-- A missing condition and the literal that is linked in its place both hold. -/
lemma KnowsTrue.holds_conditionOrTrue (hM : M.KnowsTrue) (condition : Option Expr) (line : Nat)
    (s : σ) : M.holds (some (conditionOrTrue condition)) line s = M.holds condition line s := by
  cases condition with
  | some condition => rfl
  | none =>
    simp only [holds, conditionOrTrue, Option.getD_none, hM line s]
    rfl

end Meaning

/-! ## Runs from a position -/

namespace Machine

variable {ε σ : Type} {m : Machine ε σ} {M : Meaning ε σ} {program : Linked}

/-- A run of an operation at a known position is its step and the run from there. -/
lemma run_step {position fuel : Nat} {loops : List Loop} {s : σ} {op : Op} {line : Nat}
    (h : program[position]? = some ⟨op, line⟩) :
    m.run program.toArray (fuel + 1) ⟨position, loops, s⟩ =
      match m.step op line ⟨position, loops, s⟩ with
      | .next next => m.run program.toArray fuel next
      | .failed e t => .failed e t
      | .unfinished => .unfinished :=
  run_succ (s := ⟨position, loops, s⟩) h fuel

lemma run_zero_ne {state : Machine.State σ} {ending : Ending ε σ} :
    m.run program.toArray 0 state ≠ ending.outcome := by
  cases ending <;> simp [run, Ending.outcome]

lemma eq_failed_of_outcome {ending : Ending ε σ} {e : ε} {t : σ}
    (h : Outcome.failed e t = ending.outcome) : ending = .failed e t := by
  cases ending with
  | done u => simp [Ending.outcome] at h
  | failed e' u =>
    obtain ⟨rfl, rfl⟩ := Outcome.failed.inj h
    rfl

lemma step_jumpUnless (condition : Expr) (target line : Nat) (state : Machine.State σ) :
    m.step (.jumpUnless condition target) line state =
      match m.holds condition line state.state with
      | .error e => .failed e state.state
      | .ok true => .next ⟨state.position + 1, state.loops, state.state⟩
      | .ok false => .next ⟨target, state.loops, state.state⟩ := by
  simp only [step, holds]
  cases m.eval condition line state.state with
  | error e => rfl
  | ok v => cases hv : v.truthy <;> simp [Except.map, hv]

/-- The start of a loop asks once which items there are. -/
lemma step_loopStart (subject : Expr) (key : Option String) (value : String) (exit line : Nat)
    (state : Machine.State σ) :
    m.step (.loopStart subject key value exit) line state =
      match m.itemsOf subject line state.state with
      | .error e => .failed e state.state
      | .ok [] => .next ⟨exit, state.loops, state.state⟩
      | .ok (item :: items) =>
        .next ⟨state.position + 1, ⟨items, key, value⟩ :: state.loops,
          m.bind key value item state.state⟩ := by
  simp only [step, itemsOf]
  cases m.eval subject line state.state with
  | error e => rfl
  | ok v =>
    cases hitems : m.items v line with
    | error e => simp [hitems]
    | ok items => cases items <;> simp [hitems]

/-- From a state the machine comes to an ending and then stands at `exit` with the given loops, if
the ending is not an error. -/
def ComesTo (m : Machine ε σ) (program : Linked) (state : Machine.State σ) (exit : Nat)
    (loops : List Loop) : Ending ε σ → Prop
  | .done t => ∃ used, ∀ fuel,
      m.run program.toArray (used + fuel) state = m.run program.toArray fuel ⟨exit, loops, t⟩
  | .failed e t => ∃ used, ∀ fuel, m.run program.toArray (used + fuel) state = .failed e t

/-- What is left of a run that ends with `final`, after a piece of the program has come to an
ending. -/
def GoesOn (m : Machine ε σ) (program : Linked) (exit : Nat) (loops : List Loop) (fuel : Nat)
    (final : Ending ε σ) : Ending ε σ → Prop
  | .done t => ∃ left ≤ fuel, m.run program.toArray left ⟨exit, loops, t⟩ = final.outcome
  | .failed e t => final = .failed e t

/-- Entered at `start`, the machine does what a behaviour says and then stands at `exit`. -/
structure Realizes (m : Machine ε σ) (program : Linked) (start exit : Nat)
    (b : Behaviour ε σ) : Prop where
  reaches : ∀ (loops : List Loop) {s : σ} {ending : Ending ε σ}, b s ending →
    m.ComesTo program ⟨start, loops, s⟩ exit loops ending
  comesFrom : ∀ {loops : List Loop} {s : σ} {fuel : Nat} {final : Ending ε σ},
    m.run program.toArray fuel ⟨start, loops, s⟩ = final.outcome →
    ∃ ending, b s ending ∧ m.GoesOn program exit loops fuel final ending

lemma GoesOn.mono {exit : Nat} {loops : List Loop} {fuel more : Nat} {final ending : Ending ε σ}
    (h : m.GoesOn program exit loops fuel final ending) (hle : fuel ≤ more) :
    m.GoesOn program exit loops more final ending := by
  cases ending with
  | failed e t => exact h
  | done t =>
    obtain ⟨left, hleft, hrun⟩ := h
    exact ⟨left, Nat.le_trans hleft hle, hrun⟩

/-- A step in front of a piece of a run. -/
lemma ComesTo.step {state next : Machine.State σ} {exit : Nat} {loops : List Loop}
    {ending : Ending ε σ} (h : m.ComesTo program next exit loops ending)
    (hstep : ∀ fuel, m.run program.toArray (fuel + 1) state = m.run program.toArray fuel next) :
    m.ComesTo program state exit loops ending := by
  cases ending with
  | done t =>
    obtain ⟨used, hused⟩ := h
    exact ⟨used + 1, fun fuel => by rw [Nat.add_right_comm, hstep, hused]⟩
  | failed e t =>
    obtain ⟨used, hused⟩ := h
    exact ⟨used + 1, fun fuel => by rw [Nat.add_right_comm, hstep, hused]⟩

lemma ComesTo.trans {state : Machine.State σ} {middle exit : Nat} {inner loops : List Loop} {t : σ}
    {ending : Ending ε σ} (hfirst : m.ComesTo program state middle inner (.done t))
    (hsecond : m.ComesTo program ⟨middle, inner, t⟩ exit loops ending) :
    m.ComesTo program state exit loops ending := by
  obtain ⟨first, hfirst⟩ := hfirst
  cases ending with
  | done u =>
    obtain ⟨second, hsecond⟩ := hsecond
    exact ⟨first + second, fun fuel => by rw [Nat.add_assoc, hfirst, hsecond]⟩
  | failed e u =>
    obtain ⟨second, hsecond⟩ := hsecond
    exact ⟨first + second, fun fuel => by rw [Nat.add_assoc, hfirst, hsecond]⟩

/-! ## How pieces are put together -/

namespace Realizes

variable {start middle exit line : Nat} {first second b : Behaviour ε σ}

lemma idles : m.Realizes program start start Idles where
  reaches := by
    rintro loops s ending rfl
    exact ⟨0, fun fuel => by rw [Nat.zero_add]⟩
  comesFrom := fun {_ s fuel _} hrun => ⟨.done s, rfl, fuel, Nat.le_refl fuel, hrun⟩

lemma sequence (hfirst : m.Realizes program start middle first)
    (hsecond : m.Realizes program middle exit second) :
    m.Realizes program start exit (Sequence first second) where
  reaches := by
    intro loops s ending h
    cases h with
    | stops h => exact hfirst.reaches loops h
    | goesOn h hrest => exact (hfirst.reaches loops h).trans (hsecond.reaches loops hrest)
  comesFrom := by
    intro loops s fuel final hrun
    obtain ⟨ending, hending, hon⟩ := hfirst.comesFrom hrun
    cases ending with
    | failed e t => exact ⟨.failed e t, .stops hending, hon⟩
    | done t =>
      obtain ⟨left, hleft, hrun⟩ := hon
      obtain ⟨ending, hrest, hon⟩ := hsecond.comesFrom hrun
      exact ⟨ending, .goesOn hending hrest, hon.mono hleft⟩

lemma jump (h : program[start]? = some ⟨.jump exit, line⟩) :
    m.Realizes program start exit Idles where
  reaches := by
    rintro loops s ending rfl
    refine ⟨1, fun fuel => ?_⟩
    rw [Nat.add_comm, run_step h]
    rfl
  comesFrom := by
    intro loops s fuel final hrun
    cases fuel with
    | zero => exact absurd hrun run_zero_ne
    | succ fuel =>
      rw [run_step h] at hrun
      exact ⟨.done s, rfl, fuel, Nat.le_succ fuel, hrun⟩

lemma thenIdles (hfirst : m.Realizes program start middle b)
    (hsecond : m.Realizes program middle exit Idles) : m.Realizes program start exit b where
  reaches := by
    intro loops s ending h
    cases ending with
    | failed e t => exact hfirst.reaches loops h
    | done t => exact (hfirst.reaches loops h).trans (hsecond.reaches loops rfl)
  comesFrom := by
    intro loops s fuel final hrun
    obtain ⟨ending, hending, hon⟩ := (hfirst.sequence hsecond).comesFrom hrun
    cases hending with
    | stops h => exact ⟨_, h, hon⟩
    | goesOn h hrest =>
      obtain rfl := hrest
      exact ⟨_, h, hon⟩

lemma act {a : Action} (h : program[start]? = some ⟨.act a, line⟩) :
    m.Realizes program start (start + 1) (fun s ending => m.act a line s = ending.outcome) where
  reaches := by
    intro loops s ending hact
    cases ending with
    | done t =>
      refine ⟨1, fun fuel => ?_⟩
      rw [Nat.add_comm, run_step h]
      simp only [Machine.step, hact, Ending.outcome]
    | failed e t =>
      refine ⟨1, fun fuel => ?_⟩
      rw [Nat.add_comm, run_step h]
      simp only [Machine.step, hact, Ending.outcome]
  comesFrom := by
    intro loops s fuel final hrun
    cases fuel with
    | zero => exact absurd hrun run_zero_ne
    | succ fuel =>
      rw [run_step h] at hrun
      -- the run has taken the step of the action
      cases hact : m.act a line s with
      | done t =>
        simp only [Machine.step, hact] at hrun
        exact ⟨.done t, rfl, fuel, Nat.le_succ fuel, hrun⟩
      | failed e t =>
        simp only [Machine.step, hact] at hrun
        exact ⟨.failed e t, rfl, eq_failed_of_outcome hrun⟩
      | unfinished =>
        simp only [Machine.step, hact] at hrun
        cases final <;> simp [Ending.outcome] at hrun

lemma actOps {a : Action} (h : program.HasAt start (actOps a line)) :
    M.machine.Realizes program start (start + (Program.actOps a line).length)
      (M.Performs a line) := by
  unfold Meaning.Performs
  split
  · exact idles
  · rename_i hne
    have hidle : a.isIdle = false := by
      cases a with
      | text s =>
        have hs : s ≠ "" := fun hs => hne (congrArg Action.text hs)
        simpa [Action.isIdle] using hs
      | _ => rfl
    simp only [Program.actOps, hidle] at h ⊢
    exact act h.get

lemma runOps {statements : List Stmt} (h : program.HasAt start (runOps statements line)) :
    M.machine.Realizes program start (start + (Program.runOps statements line).length)
      (M.PerformsAll statements line) := by
  cases statements with
  | nil => exact idles
  | cons first others => exact act h.get

/-- A jump on a condition chooses between the piece behind it and the piece it leads to. -/
lemma chooses {condition : Expr} {target : Nat} {yes no : Behaviour ε σ}
    (h : program[start]? = some ⟨.jumpUnless condition target, line⟩)
    (hyes : M.machine.Realizes program (start + 1) exit yes)
    (hno : M.machine.Realizes program target exit no) :
    M.machine.Realizes program start exit (M.Chooses condition line yes no) where
  reaches := by
    intro loops s ending hchooses
    cases hchooses with
    | fails hholds =>
      refine ⟨1, fun fuel => ?_⟩
      rw [Nat.add_comm, run_step h, step_jumpUnless, Meaning.machine_holds]
      simp only [hholds]
    | yes hholds hending =>
      refine (hyes.reaches loops hending).step (fun fuel => ?_)
      rw [run_step h, step_jumpUnless, Meaning.machine_holds]
      simp only [hholds]
    | no hholds hending =>
      refine (hno.reaches loops hending).step (fun fuel => ?_)
      rw [run_step h, step_jumpUnless, Meaning.machine_holds]
      simp only [hholds]
  comesFrom := by
    intro loops s fuel final hrun
    cases fuel with
    | zero => exact absurd hrun run_zero_ne
    | succ fuel =>
      -- the run has asked for the condition, and goes on in the piece that it chose
      rw [run_step h, step_jumpUnless, Meaning.machine_holds] at hrun
      cases hholds : M.holds (some condition) line s with
      | error e =>
        simp only [hholds] at hrun
        exact ⟨.failed e s, .fails hholds, eq_failed_of_outcome hrun⟩
      | ok b =>
        simp only [hholds] at hrun
        cases b with
        | true =>
          obtain ⟨ending, hending, hon⟩ := hyes.comesFrom hrun
          exact ⟨ending, .yes hholds hending, hon.mono (Nat.le_succ fuel)⟩
        | false =>
          obtain ⟨ending, hending, hon⟩ := hno.comesFrom hrun
          exact ⟨ending, .no hholds hending, hon.mono (Nat.le_succ fuel)⟩

/-- A jump on a condition, a round and a jump back are a loop.  A run of a loop is taken apart by
induction on its fuel: every round uses some up. -/
lemma repeats {condition : Expr} {asked : Option Expr} {bottom closeLine : Nat}
    {round : Behaviour ε σ}
    (htop : program[start]? = some ⟨.jumpUnless condition exit, line⟩)
    (hasked : ∀ s, M.holds (some condition) line s = M.holds asked line s)
    (hround : M.machine.Realizes program (start + 1) bottom round)
    (hbottom : program[bottom]? = some ⟨.jump start, closeLine⟩) :
    M.machine.Realizes program start exit (M.Repeats asked line round) where
  reaches := by
    intro loops s ending hrepeats
    have hback : M.machine.Realizes program (start + 1) start round :=
      hround.thenIdles (jump hbottom)
    induction hrepeats with
    | fails hholds =>
      refine ⟨1, fun fuel => ?_⟩
      rw [Nat.add_comm, run_step htop, step_jumpUnless, Meaning.machine_holds]
      simp only [hasked, hholds]
    | leaves hholds =>
      refine ⟨1, fun fuel => ?_⟩
      rw [Nat.add_comm, run_step htop, step_jumpUnless, Meaning.machine_holds]
      simp only [hasked, hholds]
    | stops hholds hending =>
      refine (hround.reaches loops hending).step (fun fuel => ?_)
      rw [run_step htop, step_jumpUnless, Meaning.machine_holds]
      simp only [hasked, hholds]
    | again hholds hending _ ih =>
      refine ComesTo.trans ((hback.reaches loops hending).step (fun fuel => ?_)) ih
      rw [run_step htop, step_jumpUnless, Meaning.machine_holds]
      simp only [hasked, hholds]
  comesFrom := by
    intro loops s fuel final hrun
    have hback : M.machine.Realizes program (start + 1) start round :=
      hround.thenIdles (jump hbottom)
    induction fuel using Nat.strongRecOn generalizing s with
    | _ fuel ih =>
      cases fuel with
      | zero => exact absurd hrun run_zero_ne
      | succ fuel =>
        rw [run_step htop, step_jumpUnless, Meaning.machine_holds] at hrun
        simp only [hasked] at hrun
        cases hholds : M.holds asked line s with
        | error e =>
          simp only [hholds] at hrun
          exact ⟨.failed e s, .fails hholds, eq_failed_of_outcome hrun⟩
        | ok b =>
          simp only [hholds] at hrun
          cases b with
          | false => exact ⟨.done s, .leaves hholds, fuel, Nat.le_succ fuel, hrun⟩
          | true =>
            obtain ⟨ending, hending, hon⟩ := hback.comesFrom hrun
            cases ending with
            | failed e t => exact ⟨.failed e t, .stops hholds hending, hon⟩
            | done t =>
              -- a round is done, and less fuel is left for the rounds behind it
              obtain ⟨left, hleft, hrun⟩ := hon
              obtain ⟨ending, hrest, hon⟩ := ih left (Nat.lt_succ_of_le hleft) hrun
              exact ⟨ending, .again hholds hending hrest,
                hon.mono (Nat.le_succ_of_le hleft)⟩

/-- The rounds of a loop over items, from the first round on: the names are bound to an item and
the loop on top of the stack holds those behind it. -/
lemma visits_comesTo {key : Option String} {value : String} {bottom : Nat} {body : Behaviour ε σ}
    (hbody : M.machine.Realizes program start bottom body)
    (hbottom : program[bottom]? = some ⟨.loopNext start, line⟩) (loops : List Loop)
    {items : List (Value × Value)} {item : Value × Value} {s : σ} {ending : Ending ε σ}
    (h : M.Visits key value body (item :: items) s ending) :
    M.machine.ComesTo program ⟨start, ⟨items, key, value⟩ :: loops, M.bound key value item s⟩
      (bottom + 1) loops ending := by
  induction items generalizing item s with
  | nil =>
    cases h with
    | stops hending => exact hbody.reaches _ hending
    | next hending hrest =>
      -- behind the last item the loop is dropped
      cases hrest
      refine (hbody.reaches _ hending).trans ⟨1, fun fuel => ?_⟩
      rw [Nat.add_comm, run_step hbottom]
      rfl
  | cons following items ih =>
    cases h with
    | stops hending => exact hbody.reaches _ hending
    | next hending hrest =>
      refine (hbody.reaches _ hending).trans ((ih hrest).step fun fuel => ?_)
      rw [run_step hbottom]
      rfl

/-- A run of the rounds of a loop over items taken apart, by induction on the items. -/
lemma visits_comesFrom {key : Option String} {value : String} {bottom : Nat}
    {body : Behaviour ε σ} (hbody : M.machine.Realizes program start bottom body)
    (hbottom : program[bottom]? = some ⟨.loopNext start, line⟩) {loops : List Loop}
    {items : List (Value × Value)} {item : Value × Value} {s : σ} {fuel : Nat}
    {final : Ending ε σ}
    (hrun : M.machine.run program.toArray fuel
      ⟨start, ⟨items, key, value⟩ :: loops, M.bound key value item s⟩ = final.outcome) :
    ∃ ending, M.Visits key value body (item :: items) s ending ∧
      M.machine.GoesOn program (bottom + 1) loops fuel final ending := by
  induction items generalizing item s fuel with
  | nil =>
    obtain ⟨ending, hending, hon⟩ := hbody.comesFrom hrun
    cases ending with
    | failed e t => exact ⟨.failed e t, .stops hending, hon⟩
    | done t =>
      obtain ⟨left, hleft, hrun⟩ := hon
      cases left with
      | zero => exact absurd hrun run_zero_ne
      | succ left =>
        rw [run_step hbottom] at hrun
        exact ⟨.done t, .next hending .finished, left, Nat.le_of_succ_le hleft, hrun⟩
  | cons following items ih =>
    obtain ⟨ending, hending, hon⟩ := hbody.comesFrom hrun
    cases ending with
    | failed e t => exact ⟨.failed e t, .stops hending, hon⟩
    | done t =>
      obtain ⟨left, hleft, hrun⟩ := hon
      cases left with
      | zero => exact absurd hrun run_zero_ne
      | succ left =>
        rw [run_step hbottom] at hrun
        -- the next item is bound, and the rounds behind it are those of the shorter list
        obtain ⟨ending, hrest, hon⟩ := ih hrun
        exact ⟨ending, .next hending hrest, hon.mono (Nat.le_of_succ_le hleft)⟩

/-- The start of a loop, a body and the end of the loop go through the items of a subject. -/
lemma goesThrough {subject : Expr} {key : Option String} {value : String} {bottom closeLine : Nat}
    {body : Behaviour ε σ}
    (hstart : program[start]? = some ⟨.loopStart subject key value (bottom + 1), line⟩)
    (hbody : M.machine.Realizes program (start + 1) bottom body)
    (hbottom : program[bottom]? = some ⟨.loopNext (start + 1), closeLine⟩) :
    M.machine.Realizes program start (bottom + 1) (M.GoesThrough subject key value line body) where
  reaches := by
    intro loops s ending h
    obtain ⟨e, hitems, rfl⟩ | ⟨items, hitems, hvisits⟩ := h.itemsOf_machine
    · refine ⟨1, fun fuel => ?_⟩
      rw [Nat.add_comm, run_step hstart, step_loopStart]
      simp only [hitems]
    · cases items with
      | nil =>
        -- without items the body is jumped over
        cases hvisits
        refine ⟨1, fun fuel => ?_⟩
        rw [Nat.add_comm, run_step hstart, step_loopStart]
        simp only [hitems]
      | cons item items =>
        refine (visits_comesTo hbody hbottom loops hvisits).step fun fuel => ?_
        rw [run_step hstart, step_loopStart]
        simp only [hitems]
        rfl
  comesFrom := by
    intro loops s fuel final hrun
    cases fuel with
    | zero => exact absurd hrun run_zero_ne
    | succ fuel =>
      rw [run_step hstart, step_loopStart] at hrun
      cases hitems : M.machine.itemsOf subject line s with
      | error e =>
        simp only [hitems] at hrun
        exact ⟨.failed e s, Meaning.goesThrough_of_error hitems, eq_failed_of_outcome hrun⟩
      | ok items =>
        simp only [hitems] at hrun
        cases items with
        | nil =>
          exact ⟨.done s, Meaning.goesThrough_of_ok hitems .finished, fuel, Nat.le_succ fuel, hrun⟩
        | cons item items =>
          obtain ⟨ending, hvisits, hon⟩ := visits_comesFrom hbody hbottom hrun
          exact ⟨ending, Meaning.goesThrough_of_ok hitems hvisits, hon.mono (Nat.le_succ fuel)⟩

end Realizes

/-! ## The operations of blocks -/

lemma realizes_leave {start exit : Nat} (c : Chain) (h : program.HasAt start (c.link start exit))
    (hexit : start + c.size = exit) : M.machine.Realizes program start exit Idles := by
  cases c with
  | close line =>
    obtain rfl : start = exit := hexit
    exact .idles
  | elseIf condition line body rest =>
    rw [Chain.link] at h
    exact .jump h.get
  | otherwise line body closeLine =>
    rw [Chain.link] at h
    exact .jump h.get


mutual

/-- The operations of a block do what the block says. -/
lemma realizes_link (hM : M.KnowsTrue) (b : Block) {start : Nat}
    (h : program.HasAt start (b.link start)) :
    M.machine.Realizes program start (start + b.size) (b.Runs M) := by
  cases b with
  | act a line =>
    rw [Block.link] at h
    rw [Block.size, Block.Runs]
    exact .actOps h
  | comment s line =>
    rw [Block.size, Block.Runs]
    exact .idles
  | ifElse condition line body rest =>
    rw [Block.link] at h
    rw [Block.Runs]
    have hrest := h.tail.right
    rw [length_linkAll] at hrest
    have hexit : start + (Block.ifElse condition line body rest).size =
        start + 1 + sizeAll body + rest.size := by
      rw [Block.size]; omega
    rw [hexit]
    exact .chooses h.get
      ((realizes_linkAll hM body h.tail.left).thenIdles (realizes_leave rest hrest rfl))
      (realizes_chain hM rest hrest rfl)
  | forEach subject key value line body closeLine =>
    rw [Block.link] at h
    rw [Block.Runs]
    have hbottom := h.tail.right
    rw [length_linkAll] at hbottom
    have hexit : start + (Block.forEach subject key value line body closeLine).size =
        start + 1 + sizeAll body + 1 := by
      rw [Block.size]; omega
    have hstart := h.get
    rw [show start + 2 + sizeAll body = start + 1 + sizeAll body + 1 by omega] at hstart
    rw [hexit]
    exact .goesThrough hstart (realizes_linkAll hM body h.tail.left) hbottom.get
  | forLoop first condition step line body closeLine =>
    rw [Block.link] at h
    rw [Block.Runs]
    have hloop := h.right
    have hstep := hloop.tail.left.right
    have hbottom := hloop.tail.right
    rw [length_linkAll] at hstep
    rw [List.length_append, length_linkAll, ← Nat.add_assoc] at hbottom
    have hexit : start + (Block.forLoop first condition step line body closeLine).size =
        start + (runOps first line).length + 1 + sizeAll body +
          (runOps step closeLine).length + 1 := by
      rw [Block.size]; omega
    rw [hexit]
    exact (Realizes.runOps h.left).sequence
      (.repeats hloop.get (hM.holds_conditionOrTrue condition line)
        ((realizes_linkAll hM body hloop.tail.left.left).sequence (.runOps hstep)) hbottom.get)
  | whileLoop condition line body closeLine =>
    rw [Block.link] at h
    rw [Block.Runs]
    have hbottom := h.tail.right
    rw [length_linkAll] at hbottom
    have hexit : start + (Block.whileLoop condition line body closeLine).size =
        start + 2 + sizeAll body := by
      rw [Block.size, Nat.add_assoc]
    rw [hexit]
    exact .repeats h.get (fun _ => rfl) (realizes_linkAll hM body h.tail.left) hbottom.get
termination_by structural b

lemma realizes_linkAll (hM : M.KnowsTrue) (bs : List Block) {start : Nat}
    (h : program.HasAt start (linkAll start bs)) :
    M.machine.Realizes program start (start + sizeAll bs) (RunsAll M bs) := by
  cases bs with
  | nil =>
    rw [sizeAll, RunsAll]
    exact .idles
  | cons b rest =>
    rw [linkAll] at h
    have hrest := h.right
    rw [Block.length_link] at hrest
    rw [sizeAll, RunsAll, ← Nat.add_assoc]
    exact (realizes_link hM b h.left).sequence (realizes_linkAll hM rest hrest)
termination_by structural bs

/-- The operations behind the first body of a conditional block do what the rest of the block
says. -/
lemma realizes_chain (hM : M.KnowsTrue) (c : Chain) {start exit : Nat}
    (h : program.HasAt start (c.link start exit)) (hexit : start + c.size = exit) :
    M.machine.Realizes program (c.entry start) exit (c.Runs M) := by
  cases c with
  | close line =>
    obtain rfl : start = exit := hexit
    rw [Chain.Runs]
    exact .idles
  | elseIf condition line body rest =>
    rw [Chain.link] at h
    rw [Chain.Runs]
    have hrest := h.tail.tail.right
    rw [length_linkAll, show start + 1 + 1 = start + 2 from rfl] at hrest
    have hend : start + 2 + sizeAll body + rest.size = exit := by
      rw [← hexit, Chain.size]; omega
    have hbody := realizes_linkAll hM body h.tail.tail.left
    exact .chooses h.tail.get (hbody.thenIdles (realizes_leave rest hrest hend))
      (realizes_chain hM rest hrest hend)
  | otherwise line body closeLine =>
    rw [Chain.link] at h
    rw [Chain.Runs]
    have hend : start + 1 + sizeAll body = exit := by
      rw [← hexit, Chain.size]; omega
    rw [← hend]
    exact realizes_linkAll hM body h.tail
termination_by structural c

end

lemma getElem?_link_behind (bs : List Block) : (link bs)[0 + sizeAll bs]? = none :=
  List.getElem?_eq_none (by simp [link, length_linkAll])

end Machine

end ViewTemplate.Program

namespace ViewTemplate.Engine

open ViewTemplate.Program

variable {φ : Type}

end ViewTemplate.Engine
