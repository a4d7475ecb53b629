import Mathlib.Tactic.Common
import ViewTemplate.Program.Machine
import ViewTemplate.Proofs.BlockTrees

/-!
# Running blocks directly

A row of blocks has a meaning of its own, without positions, jumps or a stack of running loops:
`RunsAll M bs s ending` says that the blocks, run from the state `s`, come to an end and how.
This file gives that meaning.  What actions do, how expressions are evaluated and how a variable is
set is given from outside, by a `Meaning`.

The blocks are run by recursion over their nesting.  Only three things need a rule of their own:
`Sequence` (one piece after the other), `Repeats` (a loop with a condition) and `GoesThrough` (a
loop over the items of a collection).  A collection is evaluated once, before its loop, so what the
body does to the variables it came from changes nothing about the items that are still to come.
The items of a list have their positions as keys and those of a map their names; every other value
stops the loop with an error.  For each item the key is set first, if the loop names it, and then
the value.

A run that does not end has no ending, be it a loop that goes on forever or an action that does.
-/

namespace ViewTemplate.Program

open ViewTemplate.Script (Expr Stmt)

/-- How a run that comes to an end ends: in a state, or with an error and the state it had
reached. -/
inductive Ending (ε σ : Type) where
  | done (s : σ)
  | failed (e : ε) (s : σ)

/-- The ending as an outcome of the machine. -/
def Ending.outcome {ε σ : Type} : Ending ε σ → Outcome ε σ
  | done s => .done s
  | failed e s => .failed e s

/-- What a piece of a program does: from which states it comes to which endings. -/
abbrev Behaviour (ε σ : Type) := σ → Ending ε σ → Prop

variable {ε σ : Type}

/-- To do nothing. -/
def Idles : Behaviour ε σ := fun s ending => ending = .done s

/-- One piece after the other; an error of the first one stops both. -/
inductive Sequence (first second : Behaviour ε σ) : Behaviour ε σ
  | stops {s t : σ} {e : ε} (h : first s (.failed e t)) : Sequence first second s (.failed e t)
  | goesOn {s t : σ} {ending : Ending ε σ} (h : first s (.done t)) (hrest : second t ending) :
      Sequence first second s ending

/-- What the pieces of a program mean. -/
structure Meaning (ε σ : Type) where
  /-- Do what an action on a line says. -/
  act : Action → Nat → σ → Outcome ε σ
  /-- The value of an expression on a line. -/
  eval : Expr → Nat → σ → Except ε Value
  /-- Set a variable to a value. -/
  assign : String → Value → σ → σ
  /-- The error of a loop on a line over a value that is no collection. -/
  refuse : Value → Nat → ε

/-- The items of a list with their positions, counted from a number on. -/
def numbered (position : Nat) : List Value → List (Value × Value)
  | [] => []
  | item :: items => (.number (.int position), item) :: numbered (position + 1) items

/-- The items of a map with their names. -/
def named : List (String × Value) → List (Value × Value)
  | [] => []
  | entry :: entries => (.text entry.1, entry.2) :: named entries

namespace Meaning

variable (M : Meaning ε σ)

/-- Do an action.  A text without characters shows nothing. -/
def Performs (a : Action) (line : Nat) : Behaviour ε σ :=
  match a with
  | .text "" => Idles
  | a => fun s ending => M.act a line s = ending.outcome

/-- Run the statements in the head of a loop, if there are any. -/
def PerformsAll (statements : List Stmt) (line : Nat) : Behaviour ε σ :=
  match statements with
  | [] => Idles
  | first :: others => fun s ending => M.act (.run (first :: others)) line s = ending.outcome

/-- Whether a condition holds.  One that is missing does. -/
def holds (condition : Option Expr) (line : Nat) (s : σ) : Except ε Bool :=
  match condition with
  | none => .ok true
  | some condition => (M.eval condition line s).map Value.truthy

/-- One of two pieces, chosen by a condition. -/
inductive Chooses (condition : Expr) (line : Nat) (yes no : Behaviour ε σ) : Behaviour ε σ
  | fails {s : σ} {e : ε} (h : M.holds (some condition) line s = .error e) :
      Chooses condition line yes no s (.failed e s)
  | yes {s : σ} {ending : Ending ε σ} (h : M.holds (some condition) line s = .ok true)
      (hyes : yes s ending) : Chooses condition line yes no s ending
  | no {s : σ} {ending : Ending ε σ} (h : M.holds (some condition) line s = .ok false)
      (hno : no s ending) : Chooses condition line yes no s ending

/-- Rounds of a loop for as long as its condition holds. -/
inductive Repeats (condition : Option Expr) (line : Nat) (round : Behaviour ε σ) : Behaviour ε σ
  | fails {s : σ} {e : ε} (h : M.holds condition line s = .error e) :
      Repeats condition line round s (.failed e s)
  | leaves {s : σ} (h : M.holds condition line s = .ok false) :
      Repeats condition line round s (.done s)
  | stops {s t : σ} {e : ε} (h : M.holds condition line s = .ok true)
      (hround : round s (.failed e t)) : Repeats condition line round s (.failed e t)
  | again {s t : σ} {ending : Ending ε σ} (h : M.holds condition line s = .ok true)
      (hround : round s (.done t)) (hrest : Repeats condition line round t ending) :
      Repeats condition line round s ending

/-- The state in which the body of a loop meets an item: the key is set first, if the loop has a
name for it, and then the value. -/
def bound (key : Option String) (value : String) (item : Value × Value) (s : σ) : σ :=
  match key with
  | none => M.assign value item.2 s
  | some key => M.assign value item.2 (M.assign key item.1 s)

/-- A body for each of the items. -/
inductive Visits (key : Option String) (value : String) (body : Behaviour ε σ) :
    List (Value × Value) → Behaviour ε σ
  | finished {s : σ} : Visits key value body [] s (.done s)
  | stops {item : Value × Value} {items : List (Value × Value)} {s t : σ} {e : ε}
      (hbody : body (M.bound key value item s) (.failed e t)) :
      Visits key value body (item :: items) s (.failed e t)
  | next {item : Value × Value} {items : List (Value × Value)} {s t : σ} {ending : Ending ε σ}
      (hbody : body (M.bound key value item s) (.done t))
      (hrest : Visits key value body items t ending) :
      Visits key value body (item :: items) s ending

/-- A loop over the items of a subject, which is evaluated once. -/
inductive GoesThrough (subject : Expr) (key : Option String) (value : String) (line : Nat)
    (body : Behaviour ε σ) : Behaviour ε σ
  | fails {s : σ} {e : ε} (h : M.eval subject line s = .error e) :
      GoesThrough subject key value line body s (.failed e s)
  | list {items : List Value} {s : σ} {ending : Ending ε σ}
      (h : M.eval subject line s = .ok (.list items))
      (hvisits : M.Visits key value body (numbered 0 items) s ending) :
      GoesThrough subject key value line body s ending
  | map {entries : List (String × Value)} {s : σ} {ending : Ending ε σ}
      (h : M.eval subject line s = .ok (.map entries))
      (hvisits : M.Visits key value body (named entries) s ending) :
      GoesThrough subject key value line body s ending
  | refused {v : Value} {s : σ} (h : M.eval subject line s = .ok v)
      (hlist : ∀ items, v ≠ .list items) (hmap : ∀ entries, v ≠ .map entries) :
      GoesThrough subject key value line body s (.failed (M.refuse v line) s)

end Meaning

mutual

/-- What a block does. -/
def Block.Runs (M : Meaning ε σ) : Block → Behaviour ε σ
  | .act a line => M.Performs a line
  | .comment _ _ => Idles
  | .ifElse condition line body rest => M.Chooses condition line (RunsAll M body) (rest.Runs M)
  | .forEach subject key value line body _ =>
    M.GoesThrough subject key value line (RunsAll M body)
  | .forLoop start condition step line body closeLine =>
    Sequence (M.PerformsAll start line)
      (M.Repeats condition line (Sequence (RunsAll M body) (M.PerformsAll step closeLine)))
  | .whileLoop condition line body _ => M.Repeats (some condition) line (RunsAll M body)
termination_by structural b => b

/-- What a row of blocks does. -/
def RunsAll (M : Meaning ε σ) : List Block → Behaviour ε σ
  | [] => Idles
  | b :: rest => Sequence (b.Runs M) (RunsAll M rest)
termination_by structural bs => bs

/-- What follows the first body of a conditional block does when no condition before it holds. -/
def Chain.Runs (M : Meaning ε σ) : Chain → Behaviour ε σ
  | .close _ => Idles
  | .elseIf condition line body rest => M.Chooses condition line (RunsAll M body) (rest.Runs M)
  | .otherwise _ body _ => RunsAll M body
termination_by structural c => c

end

end ViewTemplate.Program
