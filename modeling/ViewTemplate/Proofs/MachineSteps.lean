import Mathlib.Tactic.Common
import ViewTemplate.Program.Machine

/-!
# The steps of a machine, counted

A run of a program is a row of steps, each from a state of the machine to the next one.
`Machine.Goes m program n s t` says that `n` steps lead from `s` to `t`.  It does not ask whether
the run comes to an end behind `t`, so it can speak of every state that a run passes, also of a run
that never ends.

A run and its steps are tied together by `run_add` (steps may be taken off the front of a run) and
`exists_goes_of_run` (a run that is done has gone to a position without an operation).
-/

namespace ViewTemplate.Program.Machine

variable {ε σ : Type}

/-- A number of steps leads from one state of the machine to another. -/
inductive Goes (m : Machine ε σ) (program : Linked) :
    (count : Nat) → (start reached : Machine.State σ) → Prop
  | stays (s : Machine.State σ) : Goes m program 0 s s
  | step {count : Nat} {s t u : Machine.State σ} {op : Lined Op} (h : Goes m program count s t)
      (hop : program[t.position]? = some op) (hstep : m.step op.item op.line t = .next u) :
      Goes m program (count + 1) s u

variable {m : Machine ε σ} {program : Linked}

lemma run_succ {s : Machine.State σ} {op : Lined Op} (hop : program[s.position]? = some op)
    (fuel : Nat) :
    m.run program.toArray (fuel + 1) s =
      match m.step op.item op.line s with
      | .next next => m.run program.toArray fuel next
      | .failed e t => .failed e t
      | .unfinished => .unfinished := by
  have hget : program.toArray[s.position]? = some op := by rw [List.getElem?_toArray, hop]
  cases hstep : m.step op.item op.line s <;> simp only [run, hget, hstep]

lemma run_behind {s : Machine.State σ} (hend : program[s.position]? = none) (fuel : Nat) :
    m.run program.toArray (fuel + 1) s = .done s.state := by
  have hget : program.toArray[s.position]? = none := by rw [List.getElem?_toArray, hend]
  simp only [run, hget]

/-- Steps can be taken off the front of a run. -/
lemma Goes.run_add {count : Nat} {s t : Machine.State σ} (h : m.Goes program count s t)
    (fuel : Nat) : m.run program.toArray (count + fuel) s = m.run program.toArray fuel t := by
  induction h generalizing fuel with
  | stays s => rw [Nat.zero_add]
  | step _ hop hstep ih =>
    have hrest := ih (fuel + 1)
    rw [run_succ hop, hstep] at hrest
    rw [Nat.add_right_comm]
    exact hrest

/-- All that a step does to the state: what an action does, or binding the names of a loop. -/
lemma step_eq_next {op : Op} {line : Nat} {s t : Machine.State σ} (h : m.step op line s = .next t) :
    (∃ a, op = .act a ∧ m.act a line s.state = .done t.state) ∨ t.state = s.state ∨
      ∃ key value item, t.state = m.bind key value item s.state := by
  cases op with
  | act a =>
    simp only [step] at h
    split at h
    · rename_i hact
      cases h
      exact .inl ⟨a, rfl, hact⟩
    · cases h
    · cases h
  | jumpUnless condition target =>
    simp only [step] at h
    split at h
    · cases h
    · cases h
      exact .inr (.inl rfl)
  | jump target =>
    cases h
    exact .inr (.inl rfl)
  -- a loop binds its names when it starts with an item, and again with each following one
  | loopStart subject key value exit =>
    simp only [step] at h
    split at h
    · cases h
    · split at h
      · cases h
      · cases h
        exact .inr (.inl rfl)
      · cases h
        exact .inr (.inr ⟨_, _, _, rfl⟩)
  | loopNext body =>
    simp only [step] at h
    split at h
    · cases h
      exact .inr (.inl rfl)
    · cases h
      exact .inr (.inl rfl)
    · cases h
      exact .inr (.inr ⟨_, _, _, rfl⟩)

lemma Goes.trans {first second : Nat} {s t u : Machine.State σ} (h : m.Goes program first s t)
    (h' : m.Goes program second t u) : m.Goes program (first + second) s u := by
  induction h' with
  | stays t => exact h
  | step _ hop hstep ih => exact .step (ih h) hop hstep

lemma Goes.cons {count : Nat} {s t u : Machine.State σ} {op : Lined Op}
    (hop : program[s.position]? = some op) (hstep : m.step op.item op.line s = .next t)
    (h : m.Goes program count t u) : m.Goes program (count + 1) s u := by
  induction h with
  | stays t => exact .step (.stays s) hop hstep
  | step _ hop' hstep' ih => exact .step (ih hstep) hop' hstep'

lemma Goes.exists_first {count : Nat} {s u : Machine.State σ} (h : m.Goes program (count + 1) s u) :
    ∃ op t, program[s.position]? = some op ∧ m.step op.item op.line s = .next t ∧
      m.Goes program count t u := by
  induction count generalizing u with
  | zero =>
    cases h with
    | step hgoes hop hstep =>
      cases hgoes with
      | stays => exact ⟨_, _, hop, hstep, .stays u⟩
  | succ count ih =>
    cases h with
    | step hgoes hop hstep =>
      obtain ⟨first, t, hfirst, ht, hrest⟩ := ih hgoes
      exact ⟨first, t, hfirst, ht, .step hrest hop hstep⟩

lemma exists_goes_of_run {fuel : Nat} {s : Machine.State σ} {final : σ}
    (h : m.run program.toArray fuel s = .done final) :
    ∃ count t, m.Goes program count s t ∧ program[t.position]? = none ∧ t.state = final := by
  induction fuel generalizing s with
  | zero => simp [run] at h
  | succ fuel ih =>
    cases hop : program[s.position]? with
    | none =>
      rw [run_behind hop] at h
      exact ⟨0, s, .stays s, hop, Outcome.done.inj h⟩
    | some op =>
      rw [run_succ hop] at h
      cases hstep : m.step op.item op.line s with
      | failed e t => simp [hstep] at h
      | unfinished => simp [hstep] at h
      | next next =>
        simp only [hstep] at h
        obtain ⟨count, t, hgoes, hend, hfinal⟩ := ih h
        exact ⟨count + 1, t, hgoes.cons hop hstep, hend, hfinal⟩

/-- A run that is done passes every state that can be come to, and goes on from there. -/
lemma Goes.exists_rest {count fuel : Nat} {s t : Machine.State σ} {final : σ}
    (h : m.Goes program count s t) (hrun : m.run program.toArray fuel s = .done final) :
    ∃ rest u, m.Goes program rest t u ∧ program[u.position]? = none ∧ u.state = final := by
  induction count generalizing fuel s with
  | zero =>
    cases h with
    | stays => exact exists_goes_of_run hrun
  | succ count ih =>
    obtain ⟨op, next, hop, hstep, hrest⟩ := h.exists_first
    cases fuel with
    | zero => simp [run] at hrun
    | succ fuel =>
      rw [run_succ hop, hstep] at hrun
      exact ih hrest hrun

/-- What every step keeps is kept on the way. -/
lemma Goes.keeps {I : Machine.State σ → Prop}
    (hkeeps : ∀ op ∈ program, ∀ s t, I s → m.step op.item op.line s = .next t → I t)
    {count : Nat} {s t : Machine.State σ} (h : m.Goes program count s t) (hs : I s) : I t := by
  induction h with
  | stays s => exact hs
  | step _ hop hstep ih => exact hkeeps _ (List.mem_of_getElem? hop) _ _ (ih hs) hstep

end ViewTemplate.Program.Machine
