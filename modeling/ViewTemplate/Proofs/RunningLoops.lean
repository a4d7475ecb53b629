import Mathlib.Data.List.Forall2
import Mathlib.Tactic.Common
import ViewTemplate.Proofs.JumpTargets
import ViewTemplate.Proofs.MachineSteps

/-!
# The running loops of a machine

The machine keeps its running loops on a stack and trusts the program that the end of a loop finds
its own loop on top.  If the stack were empty there, the machine would take the loop for done; if
another loop were on top, it would go on with the items of that one.  Neither happens in a program
that was assembled.

To say which loop is which, a run is followed with a list of owners beside the stack: for every
running loop the position of the operation that began it (`Machine.Tracks`).  The invariant is that
the owners are the loops around the position of the machine, the innermost first
(`Linked.loopsAround`).  Most steps keep both, since no jump leads into or out of a span; the start
of a loop puts its own position on top, and the end of a loop takes it away.
-/

namespace ViewTemplate.Program

/-! ## The loops around a position -/

namespace Linked

/-- Where the loop at a position goes on when it is done, if a loop starts there. -/
def exit? (program : Linked) (position : Nat) : Option Nat :=
  match program[position]? with
  | some ⟨.loopStart _ _ _ exit, _⟩ => some exit
  | _ => none

/-- Whether a position lies in the span of the loop that starts at `first`. -/
def isAround (program : Linked) (position first : Nat) : Bool :=
  (program.exit? first).any fun exit => decide (first < position ∧ position < exit)

/-- The starts of the loops whose spans hold a position, the innermost first. -/
def loopsAround (program : Linked) (position : Nat) : List Nat :=
  ((List.range program.length).filter (program.isAround position)).reverse

variable {program : Linked} {position : Nat}

lemma exit?_eq_some_iff {first exit : Nat} :
    program.exit? first = some exit ↔ program.LoopAt first exit := by
  constructor
  · intro h
    unfold exit? at h
    split at h
    · rename_i subject key value last line hget
      obtain rfl := Option.some.inj h
      exact ⟨subject, key, value, line, hget⟩
    · cases h
  · rintro ⟨subject, key, value, line, hget⟩
    simp only [exit?, hget]

lemma isAround_iff {first : Nat} :
    program.isAround position first = true ↔
      ∃ exit, program.LoopAt first exit ∧ Between first position exit := by
  simp only [isAround, Option.any_eq_true, exit?_eq_some_iff, decide_eq_true_eq]
  rfl

lemma loopsAround_congr {other : Nat}
    (h : ∀ first exit, program.LoopAt first exit →
      (Between first position exit ↔ Between first other exit)) :
    program.loopsAround position = program.loopsAround other := by
  have hsame : program.isAround position = program.isAround other := by
    funext first
    rw [Bool.eq_iff_iff, isAround_iff, isAround_iff]
    constructor
    · rintro ⟨exit, hloop, hbetween⟩
      exact ⟨exit, hloop, (h first exit hloop).1 hbetween⟩
    · rintro ⟨exit, hloop, hbetween⟩
      exact ⟨exit, hloop, (h first exit hloop).2 hbetween⟩
  rw [loopsAround, loopsAround, hsame]

lemma loopsAround_eq (h : position ≤ program.length) :
    program.loopsAround position =
      ((List.range position).filter (program.isAround position)).reverse := by
  obtain ⟨more, hmore⟩ := Nat.exists_eq_add_of_le h
  have hnone : ((List.range more).map (position + ·)).filter (program.isAround position) = [] := by
    rw [List.filter_eq_nil_iff]
    intro first hfirst haround
    obtain ⟨offset, -, rfl⟩ := List.mem_map.1 hfirst
    obtain ⟨exit, -, hlt, -⟩ := isAround_iff.1 haround
    omega
  rw [loopsAround, hmore, List.range_add, List.filter_append, hnone, List.append_nil]

end Linked

namespace Closed

variable {program : Linked} {position : Nat} {op : Op}

/-- A jump stays inside of the same loops. -/
lemma loopsAround_target (h : Closed 0 program) {target : Nat} (hop : program.OpAt position op)
    (htarget : op.target? = some target) :
    program.loopsAround target = program.loopsAround position :=
  Linked.loopsAround_congr fun _ _ hloop => (h.between_iff hloop hop htarget).symm

/-- An operation that neither starts nor ends a loop is followed by one inside of the same loops. -/
lemma loopsAround_behind (h : Closed 0 program) (hop : program.OpAt position op)
    (hjump : ∀ target, op ≠ .jump target)
    (hstart : ∀ subject key value exit, op ≠ .loopStart subject key value exit)
    (hnext : ∀ body, op ≠ .loopNext body) :
    program.loopsAround (position + 1) = program.loopsAround position := by
  have hleads : program.Leads position (position + 1) := .behind hop hjump
  have hunique {other : Op} (hother : program.OpAt position other) : op = other :=
    (stands_zero.2 hop).unique (stands_zero.2 hother)
  apply Linked.loopsAround_congr
  intro first exit hloop
  constructor
  · intro hin
    by_contra hout
    obtain ⟨rfl, -⟩ := h.sound.enters hloop hleads hout hin
    obtain ⟨subject, key, value, hloop⟩ := hloop
    exact hstart subject key value exit (hunique hloop)
  · intro hin
    by_contra hout
    exact hnext _ (hunique (h.sound.leaves hloop hleads hin hout).1)

/-- The loop that starts at a position is around the next one, innermost. -/
lemma loopsAround_loopStart (h : Closed 0 program) {exit : Nat}
    (hloop : program.LoopAt position exit) :
    program.loopsAround (position + 1) = position :: program.loopsAround position := by
  obtain ⟨last, rfl, hlast, -⟩ := h.exists_last hloop
  have hlength := (h.sound.loopStart hloop).2.1
  have hown : program.isAround (position + 1) position = true :=
    Linked.isAround_iff.2 ⟨last + 1, hloop, Nat.lt_succ_self position, Nat.succ_lt_succ hlast⟩
  have hothers : ∀ first ∈ List.range position,
      program.isAround (position + 1) first = program.isAround position first := by
    intro first hfirst
    have hlt := List.mem_range.1 hfirst
    rw [Bool.eq_iff_iff, Linked.isAround_iff, Linked.isAround_iff]
    constructor
    · rintro ⟨exit, hother, -, hexit⟩
      exact ⟨exit, hother, hlt, Nat.lt_of_succ_lt hexit⟩
    · rintro ⟨exit, hother, -, hexit⟩
      -- Another loop does not end here, since this operation starts a loop.
      obtain ⟨end', rfl, -, hend⟩ := h.exists_last hother
      obtain ⟨subject, key, value, hstart⟩ := hloop
      have hne : end' ≠ position := by
        rintro rfl
        cases (stands_zero.2 hend).unique (stands_zero.2 hstart)
      exact ⟨end' + 1, hother, Nat.lt_succ_of_lt hlt, by omega⟩
  rw [Linked.loopsAround_eq (by omega), Linked.loopsAround_eq (by omega), List.range_succ,
    List.filter_append, List.filter_congr hothers, List.filter_cons_of_pos hown, List.filter_nil,
    List.reverse_append, List.reverse_singleton, List.singleton_append]

/-- At the end of a loop that loop is innermost, and behind it the others are left. -/
lemma loopsAround_loopNext (h : Closed 0 program) {body : Nat}
    (hop : program.OpAt position (.loopNext body)) :
    ∃ first, body = first + 1 ∧
      program.loopsAround position = first :: program.loopsAround (position + 1) := by
  obtain ⟨first, rfl, -, hloop⟩ := h.exists_first hop
  refine ⟨first, rfl, ?_⟩
  have hback := h.loopsAround_target hop rfl
  have hinside := h.loopsAround_loopStart hloop
  obtain ⟨subject, key, value, hstart⟩ := hloop
  have hexit := h.loopsAround_target hstart rfl
  rw [← hback, hinside, hexit]

lemma loopsAround_of_none (h : Closed 0 program) (hend : program[position]? = none) :
    program.loopsAround position = [] := by
  have hlength := List.getElem?_eq_none_iff.1 hend
  rw [Linked.loopsAround, List.reverse_eq_nil_iff, List.filter_eq_nil_iff]
  intro first _ haround
  obtain ⟨exit, hloop, -, hlt⟩ := Linked.isAround_iff.1 haround
  have hexit := (h.sound.loopStart hloop).2.1
  omega

end Closed

/-! ## Runs and the owners of their loops -/

namespace Machine

variable {ε σ : Type}

/-- The owners of the running loops after a step: a loop that was begun belongs to the position of
the step, and the owner of a loop that is done is dropped. -/
def ownersAfter (s t : Machine.State σ) (owners : List Nat) : List Nat :=
  if s.loops.length < t.loops.length then s.position :: owners
  else if t.loops.length < s.loops.length then owners.tail
  else owners

lemma ownersAfter_of_length_eq {s t : Machine.State σ} (h : t.loops.length = s.loops.length)
    (owners : List Nat) : ownersAfter s t owners = owners := by
  simp [ownersAfter, h]

lemma ownersAfter_of_length_lt {s t : Machine.State σ} (h : t.loops.length < s.loops.length)
    (owners : List Nat) : ownersAfter s t owners = owners.tail := by
  simp [ownersAfter, h, Nat.lt_asymm h]

/-- A run from the start of a program has come to a state, and the running loops have these
owners. -/
inductive Tracks (m : Machine ε σ) (program : Linked) (initial : σ) :
    Machine.State σ → List Nat → Prop
  | start : Tracks m program initial ⟨0, [], initial⟩ []
  | step {s t : Machine.State σ} {op : Lined Op} {owners : List Nat}
      (h : Tracks m program initial s owners) (hop : program[s.position]? = some op)
      (hstep : m.step op.item op.line s = .next t) :
      Tracks m program initial t (ownersAfter s t owners)

lemma Goes.exists_tracks {m : Machine ε σ} {program : Linked} {count : Nat} {initial : σ}
    {s t : Machine.State σ} (h : m.Goes program count s t) (hs : s = ⟨0, [], initial⟩) :
    ∃ owners, m.Tracks program initial t owners := by
  induction h with
  | stays s =>
    subst hs
    exact ⟨[], .start⟩
  | step _ hop hstep ih =>
    obtain ⟨owners, htracks⟩ := ih hs
    exact ⟨_, .step htracks hop hstep⟩

end Machine

/-- A running loop has the names of the operation at a position, which starts a loop. -/
def Linked.Begins (program : Linked) (loop : Loop) (first : Nat) : Prop :=
  ∃ subject exit, program.OpAt first (.loopStart subject loop.key loop.value exit)

/-- The owners of the running loops are the loops around the position. -/
structure Machine.State.Owned {σ : Type} (program : Linked) (s : Machine.State σ)
    (owners : List Nat) : Prop where
  around : owners = program.loopsAround s.position
  begins : List.Forall₂ program.Begins s.loops owners

namespace Machine.State.Owned

variable {ε σ : Type} {program : Linked} {s t : Machine.State σ} {owners : List Nat}

lemma moves (h : s.Owned program owners) (hloops : t.loops = s.loops)
    (haround : program.loopsAround t.position = program.loopsAround s.position) :
    t.Owned program (ownersAfter s t owners) := by
  rw [ownersAfter_of_length_eq (congrArg List.length hloops)]
  exact ⟨h.around.trans haround.symm, hloops ▸ h.begins⟩

/-- The end of a loop takes the next item of its own loop, or drops that loop. -/
lemma loopNext (hclosed : Closed 0 program) (h : s.Owned program owners) {m : Machine ε σ}
    {body line : Nat} (hat : program.OpAt s.position (.loopNext body))
    (hstep : m.step (.loopNext body) line s = .next t) :
    t.Owned program (ownersAfter s t owners) := by
  obtain ⟨first, rfl, haround⟩ := hclosed.loopsAround_loopNext hat
  have hback := hclosed.loopsAround_target hat rfl
  obtain ⟨howners, hbegins⟩ := h
  rw [haround] at howners
  subst howners
  obtain ⟨position, loops, state⟩ := s
  cases hbegins with
  | @cons loop _ loops _ hloop hloops =>
    obtain ⟨items, key, value⟩ := loop
    cases items with
    | nil =>
      -- no item is left: the loop is dropped, and with it its owner
      obtain rfl := Machine.Step.next.inj hstep
      rw [ownersAfter_of_length_lt (Nat.lt_succ_self loops.length), List.tail_cons]
      exact ⟨rfl, hloops⟩
    | cons item items =>
      obtain rfl := Machine.Step.next.inj hstep
      -- the way back leads into the same loop, which keeps its owner
      simp only [ownersAfter, List.length_cons, Nat.lt_irrefl, if_false]
      exact ⟨(hback.trans haround).symm, .cons hloop hloops⟩

/-- Every step of a closed program keeps the owners right. -/
lemma step (hclosed : Closed 0 program) (h : s.Owned program owners) {m : Machine ε σ}
    {op : Lined Op} (hop : program[s.position]? = some op)
    (hstep : m.step op.item op.line s = .next t) : t.Owned program (ownersAfter s t owners) := by
  obtain ⟨item, line⟩ := op
  have hat : program.OpAt s.position item := ⟨line, hop⟩
  cases item with
  | act a =>
    simp only [Machine.step] at hstep
    split at hstep
    · obtain rfl := Machine.Step.next.inj hstep
      exact h.moves rfl (hclosed.loopsAround_behind hat (by simp) (by simp) (by simp))
    · cases hstep
    · cases hstep
  | jumpUnless condition target =>
    simp only [Machine.step] at hstep
    split at hstep
    · cases hstep
    · obtain rfl := Machine.Step.next.inj hstep
      refine h.moves rfl ?_
      dsimp only
      split
      · exact hclosed.loopsAround_behind hat (by simp) (by simp) (by simp)
      · exact hclosed.loopsAround_target hat rfl
  | jump target =>
    obtain rfl := Machine.Step.next.inj hstep
    exact h.moves rfl (hclosed.loopsAround_target hat rfl)
  | loopStart subject key value exit =>
    simp only [Machine.step] at hstep
    split at hstep
    · cases hstep
    · split at hstep
      · cases hstep
      · obtain rfl := Machine.Step.next.inj hstep
        exact h.moves rfl (hclosed.loopsAround_target hat rfl)
      · obtain rfl := Machine.Step.next.inj hstep
        -- a loop that starts with an item becomes the innermost one
        have hinside := hclosed.loopsAround_loopStart ⟨subject, key, value, hat⟩
        simp only [ownersAfter, List.length_cons, Nat.lt_succ_self, if_true]
        exact ⟨by rw [hinside, h.around], .cons ⟨subject, exit, hat⟩ h.begins⟩
  | loopNext body => exact h.loopNext hclosed hat hstep

lemma of_tracks (hclosed : Closed 0 program) {m : Machine ε σ} {initial : σ}
    (h : m.Tracks program initial s owners) : s.Owned program owners := by
  induction h with
  | start =>
    refine ⟨?_, .nil⟩
    -- Nothing starts before the first operation.
    rw [Linked.loopsAround_eq (Nat.zero_le _)]
    rfl
  | step _ hop hstep ih => exact ih.step hclosed hop hstep

/-- At the end of a loop, that loop is on top. -/
lemma exists_top (hclosed : Closed 0 program) (h : s.Owned program owners) {body : Nat}
    (hop : program.OpAt s.position (.loopNext body)) :
    ∃ loop loops first rest, s.loops = loop :: loops ∧ owners = first :: rest ∧ body = first + 1 ∧
      program.Begins loop first := by
  obtain ⟨first, hbody, haround⟩ := hclosed.loopsAround_loopNext hop
  have hbegins := h.begins
  rw [h.around, haround] at hbegins
  cases hloops : s.loops with
  | nil => rw [hloops] at hbegins; cases hbegins
  | cons loop loops =>
    rw [hloops] at hbegins
    exact ⟨loop, loops, first, _, rfl, h.around.trans haround, hbody,
      (List.forall₂_cons.1 hbegins).1⟩

end Machine.State.Owned

/-! ## Assembled programs -/

/-- A program that was assembled is sound, and so is the loop stack of every machine that runs it.
In each state of a run, the running loops were begun by the loops around the position, the innermost
on top, so there are as many.  The end of a loop finds the loop that it belongs to on top of the
stack, and where the program ends the stack is empty. -/
theorem assembled_loops_match {instructions : List (Lined Instruction)} {program : Linked}
    (h : assemble instructions = .ok program) :
    program.Sound ∧
      ∀ {ε σ : Type} (m : Machine ε σ) (initial : σ) (count : Nat) (s : Machine.State σ),
        m.Goes program count ⟨0, [], initial⟩ s →
          s.loops.length = (program.loopsAround s.position).length ∧
          m.Tracks program initial s (program.loopsAround s.position) ∧
          List.Forall₂ program.Begins s.loops (program.loopsAround s.position) ∧
          (∀ body, program.OpAt s.position (.loopNext body) →
            ∃ loop loops, s.loops = loop :: loops ∧
              (program.loopsAround s.position).head? = some (body - 1) ∧
              program.Begins loop (body - 1)) ∧
          (program[s.position]? = none → s.loops = []) := by
  have hclosed := closed_of_assemble h
  refine ⟨hclosed.sound, ?_⟩
  intro ε σ m initial count s hgoes
  obtain ⟨owners, htracks⟩ := hgoes.exists_tracks rfl
  have howned := Machine.State.Owned.of_tracks hclosed htracks
  obtain ⟨rfl, hbegins⟩ := howned
  refine ⟨hbegins.length_eq, htracks, hbegins, ?_, ?_⟩
  · intro body hop
    obtain ⟨loop, loops, first, rest, hloops, howners, rfl, hbegun⟩ :=
      Machine.State.Owned.exists_top hclosed ⟨rfl, hbegins⟩ hop
    exact ⟨loop, loops, hloops, by rw [howners]; rfl, hbegun⟩
  · intro hend
    rw [hclosed.loopsAround_of_none hend] at hbegins
    exact List.forall₂_nil_right_iff.1 hbegins

/-- A loop in a loop, run by a machine for which everything has one item.  Two steps lead to the end
of the inner loop, and there both loops are running. -/
theorem assembled_loops_match_inner :
    let nested : List (Lined Instruction) :=
      [⟨.forEach (.var "a") none "x", 1⟩, ⟨.forEach (.var "b") none "y", 2⟩, ⟨.close .forEach, 3⟩,
        ⟨.close .forEach, 4⟩]
    let program : Linked :=
      [⟨.loopStart (.var "a") none "x" 4, 1⟩, ⟨.loopStart (.var "b") none "y" 3, 2⟩,
        ⟨.loopNext 2, 3⟩, ⟨.loopNext 1, 4⟩]
    let m : Machine Unit Unit :=
      { act := fun _ _ s => .done s
        eval := fun _ _ _ => .ok .null
        items := fun _ _ => .ok [(.null, .null)]
        bind := fun _ _ _ s => s }
    let inner : Machine.State Unit := ⟨2, [⟨[], none, "y"⟩, ⟨[], none, "x"⟩], ()⟩
    assemble nested = .ok program ∧ program.loopsAround 2 = [1, 0] ∧
      m.Goes program 2 ⟨0, [], ()⟩ inner ∧ m.Tracks program () inner [1, 0] ∧
      ∃ loop loops, inner.loops = loop :: loops ∧ program.Begins loop 1 := by
  intro nested program m inner
  have hprogram : assemble nested = .ok program := rfl
  have houter : m.Goes program 1 ⟨0, [], ()⟩ ⟨1, [⟨[], none, "x"⟩], ()⟩ :=
    .step (.stays _) rfl rfl
  have hinner : m.Goes program 2 ⟨0, [], ()⟩ inner := .step houter rfl rfl
  obtain ⟨-, htracks, -, htop, -⟩ := (assembled_loops_match hprogram).2 m () 2 inner hinner
  obtain ⟨loop, loops, hloops, -, hbegins⟩ := htop 2 ⟨3, rfl⟩
  exact ⟨hprogram, rfl, hinner, htracks, loop, loops, hloops, hbegins⟩

end ViewTemplate.Program
