import ViewTemplate.Program.Linked
import ViewTemplate.Value.Conversion

/-!
# Running a linked program

The machine runs the operations of a linked program one after the other.  What actions do, how
expressions are evaluated and how a loop binds its item is given from outside, so the machine itself
only moves through the program.

A program may run forever.  The machine takes `fuel`, one unit for each operation, and says
`unfinished` when it has used it up.
-/

namespace ViewTemplate.Program

open ViewTemplate.Script (Expr)

/-- How a run ends. -/
inductive Outcome (ε σ : Type) where
  | done (s : σ)
  /-- The run stopped with an error, and with the state it had reached. -/
  | failed (e : ε) (s : σ)
  /-- The fuel was used up. -/
  | unfinished

/-- What a program works on and what its operations mean. -/
structure Machine (ε σ : Type) where
  /-- Do what an action on a line says. -/
  act : Action → Nat → σ → Outcome ε σ
  /-- The value of an expression on a line. -/
  eval : Expr → Nat → σ → Except ε Value
  /-- The items of a value that a loop on a line goes through, each with its key. -/
  items : Value → Nat → Except ε (List (Value × Value))
  /-- Bind the names of a loop to an item and its key. -/
  bind : Option String → String → Value × Value → σ → σ

/-- A loop that is running: the items not yet taken and the names they are bound to. -/
structure Loop where
  items : List (Value × Value)
  key : Option String
  value : String

/-- Where a machine stands: the next position, the running loops, the innermost first, and the
state. -/
structure Machine.State (σ : Type) where
  position : Nat
  loops : List Loop
  state : σ

/-- What one operation leads to. -/
inductive Machine.Step (ε σ : Type) where
  | next (s : Machine.State σ)
  | failed (e : ε) (s : σ)
  | unfinished

namespace Machine

variable {ε σ : Type}

/-- Do one operation. -/
def step (m : Machine ε σ) (op : Op) (line : Nat) (s : Machine.State σ) : Step ε σ :=
  let behind : Nat := s.position + 1
  match op with
  | .act a =>
    match m.act a line s.state with
    | .done state => .next ⟨behind, s.loops, state⟩
    | .failed e state => .failed e state
    | .unfinished => .unfinished
  | .jumpUnless condition target =>
    match m.eval condition line s.state with
    | .error e => .failed e s.state
    | .ok v => .next ⟨if v.truthy then behind else target, s.loops, s.state⟩
  | .jump target => .next ⟨target, s.loops, s.state⟩
  | .loopStart subject key value exit =>
    match m.eval subject line s.state with
    | .error e => .failed e s.state
    | .ok v =>
      match m.items v line with
      | .error e => .failed e s.state
      | .ok [] => .next ⟨exit, s.loops, s.state⟩
      | .ok (item :: items) =>
        .next ⟨behind, ⟨items, key, value⟩ :: s.loops, m.bind key value item s.state⟩
  | .loopNext body =>
    match s.loops with
    | [] => .next ⟨behind, [], s.state⟩
    | ⟨[], _, _⟩ :: loops => .next ⟨behind, loops, s.state⟩
    | ⟨item :: items, key, value⟩ :: loops =>
      .next ⟨body, ⟨items, key, value⟩ :: loops, m.bind key value item s.state⟩

/-- Run a program from where the machine stands until it ends, fails or the fuel is used up. -/
def run (m : Machine ε σ) (program : Array (Lined Op)) : (fuel : Nat) → Machine.State σ →
    Outcome ε σ
  | 0, _ => .unfinished
  | fuel + 1, s =>
    match program[s.position]? with
    | none => .done s.state
    | some op =>
      match m.step op.item op.line s with
      | .next s => run m program fuel s
      | .failed e state => .failed e state
      | .unfinished => .unfinished

/-- Run a program from its start. -/
def runAll (m : Machine ε σ) (program : Linked) (fuel : Nat) (state : σ) : Outcome ε σ :=
  m.run program.toArray fuel ⟨0, [], state⟩

end Machine

end ViewTemplate.Program
