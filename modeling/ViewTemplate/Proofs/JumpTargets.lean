import Mathlib.Tactic.Common
import ViewTemplate.Proofs.BackPatching

/-!
# Where the jumps of a linked program lead

The targets of a linked program are positions, and the machine goes wherever they say.  This file
says what they can be.  A jump on a condition leads forward.  A jump leads forward too, or back to
the jump on a condition that leads behind it.  The start and the end of a loop over items know each
other, and between them stands a stretch of code, the span of the loop, that control enters only by
the start and leaves only by the end.

The invariant is `Closed start code`: code that is placed at a position has these properties by
itself, with every target inside of the code or right behind it.  It is kept when pieces are put
side by side (`Closed.append`), since no jump of one piece can lead into the other, and when a piece
is put into a block.  `Linked.Sound` is what it says of a whole program.
-/

namespace ViewTemplate.Program

open ViewTemplate.Script (Expr Stmt)

/-! ## Operations at positions -/

/-- A program has an operation at a position. -/
def Linked.OpAt (program : Linked) (position : Nat) (op : Op) : Prop :=
  ∃ line, program[position]? = some ⟨op, line⟩

/-- Code that is placed at `start` has an operation at a position. -/
def Stands (start : Nat) (code : Linked) (position : Nat) (op : Op) : Prop :=
  start ≤ position ∧ code.OpAt (position - start) op

/-- Where an operation can lead besides the next position. -/
def Op.target? : Op → Option Nat
  | .act _ => none
  | .jumpUnless _ target => some target
  | .jump target => some target
  | .loopStart _ _ _ exit => some exit
  | .loopNext body => some body

/-- A position strictly between two others. -/
def Between (low position high : Nat) : Prop :=
  low < position ∧ position < high

section Stands

variable {start position : Nat} {code front back : Linked} {op : Op} {first : Lined Op}

lemma not_stands_nil : ¬Stands start [] position op := by
  rintro ⟨-, line, h⟩
  simp at h

lemma stands_cons :
    Stands start (first :: code) position op ↔
      (position = start ∧ op = first.item) ∨ Stands (start + 1) code position op := by
  constructor
  · rintro ⟨hle, line, h⟩
    obtain rfl | hlt := Nat.eq_or_lt_of_le hle
    · rw [Nat.sub_self, List.getElem?_cons_zero, Option.some.injEq] at h
      exact .inl ⟨rfl, by rw [h]⟩
    · obtain ⟨n, rfl⟩ := Nat.exists_eq_add_of_lt hlt
      rw [Nat.add_assoc, Nat.add_sub_cancel_left, List.getElem?_cons_succ] at h
      exact .inr ⟨by omega, line, by rwa [show start + n + 1 - (start + 1) = n by omega]⟩
  · rintro (⟨rfl, rfl⟩ | ⟨hle, line, h⟩)
    · exact ⟨Nat.le_refl _, first.line, by simp⟩
    · obtain ⟨n, rfl⟩ := Nat.exists_eq_add_of_le hle
      rw [Nat.add_sub_cancel_left] at h
      refine ⟨by omega, line, ?_⟩
      rwa [show start + 1 + n - start = n + 1 by omega, List.getElem?_cons_succ]

lemma stands_append :
    Stands start (front ++ back) position op ↔
      Stands start front position op ∨ Stands (start + front.length) back position op := by
  induction front generalizing start with
  | nil => simp [not_stands_nil]
  | cons first front ih =>
    rw [List.cons_append, stands_cons, ih, stands_cons, List.length_cons, or_assoc,
      Nat.add_right_comm start 1, Nat.add_assoc]

lemma Stands.bounds (h : Stands start code position op) :
    start ≤ position ∧ position < start + code.length := by
  obtain ⟨hle, line, h⟩ := h
  have hlt : position - start < code.length := (List.getElem?_eq_some_iff.1 h).1
  omega

lemma Stands.unique {other : Op} (h : Stands start code position op)
    (hother : Stands start code position other) : op = other := by
  obtain ⟨-, line, h⟩ := h
  obtain ⟨-, line', hother⟩ := hother
  rw [h, Option.some.injEq] at hother
  exact congrArg Lined.item hother

end Stands

/-! ## Closed code -/

/-- The targets of an operation fit the code around it, which has the operations `has` and ends at
`finish`.  Forward targets stay inside, a jump back leads to the condition that leads behind it, and
the two ends of a loop know each other. -/
def Op.Fits (has : Nat → Op → Prop) (finish position : Nat) : Op → Prop
  | .act _ => True
  | .jumpUnless _ target => position < target ∧ target ≤ finish
  | .jump target => (position < target ∧ target ≤ finish) ∨
      (target < position ∧ ∃ condition, has target (.jumpUnless condition (position + 1)))
  | .loopStart _ _ _ exit => ∃ last, exit = last + 1 ∧ position < last ∧
      has last (.loopNext (position + 1))
  | .loopNext body => ∃ first subject key value, body = first + 1 ∧ first < position ∧
      has first (.loopStart subject key value (position + 1))

lemma Op.Fits.mono {has more : Nat → Op → Prop} {finish further position : Nat} {op : Op}
    (h : op.Fits has finish position) (hmore : ∀ {position op}, has position op → more position op)
    (hle : finish ≤ further) : op.Fits more further position := by
  cases op with
  | act a => trivial
  | jumpUnless condition target => exact ⟨h.1, Nat.le_trans h.2 hle⟩
  | jump target =>
    obtain hforward | ⟨hlt, condition, hcheck⟩ := h
    · exact .inl ⟨hforward.1, Nat.le_trans hforward.2 hle⟩
    · exact .inr ⟨hlt, condition, hmore hcheck⟩
  | loopStart subject key value exit =>
    obtain ⟨last, hexit, hlt, hlast⟩ := h
    exact ⟨last, hexit, hlt, hmore hlast⟩
  | loopNext body =>
    obtain ⟨first, subject, key, value, hbody, hlt, hfirst⟩ := h
    exact ⟨first, subject, key, value, hbody, hlt, hmore hfirst⟩

/-- Code that is placed at a position and whose targets fit: none leads out of the code further than
right behind it, and none into or out of the span of a loop. -/
structure Closed (start : Nat) (code : Linked) : Prop where
  fits : ∀ {position : Nat} {op : Op}, Stands start code position op →
    op.Fits (Stands start code) (start + code.length) position
  apart : ∀ {first exit position target : Nat} {subject : Expr} {key : Option String}
    {value : String} {op : Op}, Stands start code first (.loopStart subject key value exit) →
    Stands start code position op → op.target? = some target →
      (Between first position exit ↔ Between first target exit)

namespace Closed

variable {start : Nat} {code front back body : Linked} {line closeLine : Nat}

/-- Every target is inside of the code or right behind it. -/
lemma target_bounds (h : Closed start code) {position target : Nat} {op : Op}
    (hop : Stands start code position op) (htarget : op.target? = some target) :
    start ≤ target ∧ target ≤ start + code.length := by
  have hbounds := hop.bounds
  have hfits := h.fits hop
  cases op with
  | act a => simp [Op.target?] at htarget
  | jumpUnless condition t =>
    obtain rfl := Option.some.inj htarget
    exact ⟨Nat.le_trans hbounds.1 (Nat.le_of_lt hfits.1), hfits.2⟩
  | jump t =>
    obtain rfl := Option.some.inj htarget
    obtain hforward | ⟨-, condition, hback⟩ := hfits
    · exact ⟨Nat.le_trans hbounds.1 (Nat.le_of_lt hforward.1), hforward.2⟩
    · exact ⟨hback.bounds.1, Nat.le_of_lt hback.bounds.2⟩
  | loopStart subject key value exit =>
    obtain rfl := Option.some.inj htarget
    obtain ⟨last, rfl, -, hlast⟩ := hfits
    exact ⟨Nat.le_succ_of_le hlast.bounds.1, hlast.bounds.2⟩
  | loopNext b =>
    obtain rfl := Option.some.inj htarget
    obtain ⟨first, subject, key, value, rfl, -, hfirst⟩ := hfits
    exact ⟨Nat.le_succ_of_le hfirst.bounds.1, hfirst.bounds.2⟩

lemma exit_le (h : Closed start code) {first exit : Nat} {subject : Expr} {key : Option String}
    {value : String} (hloop : Stands start code first (.loopStart subject key value exit)) :
    exit ≤ start + code.length :=
  (h.target_bounds hloop rfl).2

lemma nil : Closed start [] where
  fits h := absurd h not_stands_nil
  apart h := absurd h not_stands_nil

lemma append (hfront : Closed start front) (hback : Closed (start + front.length) back) :
    Closed start (front ++ back) where
  fits h := by
    rw [List.length_append]
    obtain h | h := stands_append.1 h
    · exact (hfront.fits h).mono (fun h => stands_append.2 (.inl h)) (by omega)
    · exact (hback.fits h).mono (fun h => stands_append.2 (.inr h)) (by omega)
  apart hloop hop htarget := by
    obtain hloop | hloop := stands_append.1 hloop <;> obtain hop | hop := stands_append.1 hop
    · exact hfront.apart hloop hop htarget
    · -- The loop ends before the code of the jump and its target begins.
      have hexit := hfront.exit_le hloop
      have hbounds := hop.bounds
      have htargets := hback.target_bounds hop htarget
      simp only [Between]
      omega
    · -- The loop begins behind the jump, and not before its target.
      have hbegin := hloop.bounds
      have hbounds := hop.bounds
      have htargets := hfront.target_bounds hop htarget
      simp only [Between]
      omega
    · exact hback.apart hloop hop htarget

lemma act (a : Action) : Closed start [⟨.act a, line⟩] := by
  have hop {position : Nat} {op : Op} (h : Stands start [⟨.act a, line⟩] position op) :
      op = .act a := by
    obtain ⟨-, rfl⟩ | h := stands_cons.1 h
    · rfl
    · exact absurd h not_stands_nil
  constructor
  · intro position op h
    rw [hop h]
    trivial
  · intro first exit position target subject key value op hloop
    cases hop hloop

/-- A jump in front of closed code that leads forward and not into the span of a loop. -/
lemma forward {op : Op} {target : Nat}
    (hop : op = .jump target ∨ ∃ condition, op = .jumpUnless condition target)
    (h : Closed (start + 1) code) (hlt : start < target) (hle : target ≤ start + 1 + code.length)
    (hspan : ∀ {first exit subject key value},
      Stands (start + 1) code first (.loopStart subject key value exit) →
        ¬Between first target exit) :
    Closed start (⟨op, line⟩ :: code) where
  fits hstands := by
    rw [List.length_cons]
    obtain ⟨rfl, rfl⟩ | hstands := stands_cons.1 hstands
    · obtain rfl | ⟨condition, rfl⟩ := hop
      · exact .inl ⟨hlt, by omega⟩
      · exact ⟨hlt, by omega⟩
    · exact (h.fits hstands).mono (fun h => stands_cons.2 (.inr h)) (by omega)
  apart hloop hstands htarget := by
    have hown : op.target? = some target := by obtain rfl | ⟨condition, rfl⟩ := hop <;> rfl
    obtain ⟨-, hitem⟩ | hinner := stands_cons.1 hloop
    · obtain rfl | ⟨condition, rfl⟩ := hop <;> cases hitem
    · obtain ⟨rfl, rfl⟩ | hstands := stands_cons.1 hstands
      · -- the jump stands in front of every loop of the code, so neither of its ends is in a span
        have hbegin := hinner.bounds
        obtain rfl := Option.some.inj (hown.symm.trans htarget)
        exact iff_of_false (fun hbetween => by have := hbetween.1; omega) (hspan hinner)
      · exact h.apart hinner hstands htarget

lemma skips {exit : Nat} (h : Closed (start + 1) code) (hexit : exit = start + 1 + code.length) :
    Closed start (⟨.jump exit, line⟩ :: code) := by
  refine h.forward (.inl rfl) (by omega) (by omega) ?_
  rintro first last subject key value hloop ⟨-, hlast⟩
  have hend := h.exit_le hloop
  omega

/-- Operations around a body: in front of it, in it, and behind it. -/
lemma stands_around {position : Nat} {op first last : Op} :
    Stands start (⟨first, line⟩ :: (body ++ [⟨last, closeLine⟩])) position op ↔
      (position = start ∧ op = first) ∨ Stands (start + 1) body position op ∨
        (position = start + 1 + body.length ∧ op = last) := by
  rw [stands_cons, stands_append, stands_cons]
  simp [not_stands_nil]

/-- A body that is repeated while a condition holds. -/
lemma repeats {condition : Expr} {exit : Nat} (h : Closed (start + 1) body)
    (hexit : exit = start + 2 + body.length) :
    Closed start
      (⟨.jumpUnless condition exit, line⟩ :: (body ++ [⟨.jump start, closeLine⟩])) where
  fits hstands := by
    rw [List.length_cons, List.length_append, List.length_singleton]
    obtain ⟨rfl, rfl⟩ | hstands | ⟨rfl, rfl⟩ := stands_around.1 hstands
    · exact ⟨by omega, by omega⟩
    · exact (h.fits hstands).mono (fun h => stands_around.2 (.inr (.inl h))) (by omega)
    · have hback : exit = start + 1 + body.length + 1 := by omega
      exact .inr ⟨by omega, condition, stands_around.2 (.inl ⟨rfl, by rw [hback]⟩)⟩
  apart hloop hstands htarget := by
    obtain ⟨-, hitem⟩ | hloop | ⟨-, hitem⟩ := stands_around.1 hloop
    · cases hitem
    · -- loops stand inside of the body, and the two jumps lead around it
      have hbegin := hloop.bounds
      have hend := h.exit_le hloop
      obtain ⟨rfl, rfl⟩ | hstands | ⟨rfl, rfl⟩ := stands_around.1 hstands
      · obtain rfl := Option.some.inj htarget
        simp only [Between]
        omega
      · exact h.apart hloop hstands htarget
      · obtain rfl := Option.some.inj htarget
        simp only [Between]
        omega
    · cases hitem

/-- A body between the start and the end of a loop over items. -/
lemma each {subject : Expr} {key : Option String} {value : String} {exit : Nat}
    (h : Closed (start + 1) body) (hexit : exit = start + 2 + body.length) :
    Closed start (⟨.loopStart subject key value exit, line⟩ ::
      (body ++ [⟨.loopNext (start + 1), closeLine⟩])) where
  fits hstands := by
    rw [List.length_cons, List.length_append, List.length_singleton]
    have hlast : exit = start + 1 + body.length + 1 := by omega
    obtain ⟨rfl, rfl⟩ | hstands | ⟨rfl, rfl⟩ := stands_around.1 hstands
    · exact ⟨_, hlast, by omega, stands_around.2 (.inr (.inr ⟨rfl, rfl⟩))⟩
    · exact (h.fits hstands).mono (fun h => stands_around.2 (.inr (.inl h))) (by omega)
    · exact ⟨start, subject, key, value, rfl, by omega,
        stands_around.2 (.inl ⟨rfl, by rw [hlast]⟩)⟩
  apart hloop hstands htarget := by
    obtain ⟨rfl, hitem⟩ | hloop | ⟨-, hitem⟩ := stands_around.1 hloop
    · -- Its own span holds the body, and both ends of the way back.
      cases hitem
      obtain ⟨rfl, rfl⟩ | hstands | ⟨rfl, rfl⟩ := stands_around.1 hstands
      · obtain rfl := Option.some.inj htarget
        simp only [Between]
        omega
      · have hbounds := hstands.bounds
        have htargets := h.target_bounds hstands htarget
        simp only [Between]
        omega
      · obtain rfl := Option.some.inj htarget
        simp only [Between]
        omega
    · have hbegin := hloop.bounds
      have hend := h.exit_le hloop
      obtain ⟨rfl, rfl⟩ | hstands | ⟨rfl, rfl⟩ := stands_around.1 hstands
      · obtain rfl := Option.some.inj htarget
        simp only [Between]
        omega
      · exact h.apart hloop hstands htarget
      · obtain rfl := Option.some.inj htarget
        simp only [Between]
        omega
    · cases hitem

end Closed

/-! ## Linked blocks are closed -/

lemma closed_actOps (start : Nat) (a : Action) (line : Nat) : Closed start (actOps a line) := by
  unfold actOps
  split
  · exact .nil
  · exact .act a

lemma closed_runOps (start : Nat) (statements : List Stmt) (line : Nat) :
    Closed start (runOps statements line) := by
  unfold runOps
  split
  · exact .nil
  · exact .act _

/-- In the rest of a conditional block no loop starts in front of its entry. -/
lemma Chain.entry_le_of_loopStart {c : Chain} {start exit position e : Nat} {subject : Expr}
    {key : Option String} {value : String}
    (h : Stands start (c.link start exit) position (.loopStart subject key value e)) :
    c.entry start ≤ position := by
  cases c with
  | close line => exact h.bounds.1
  | elseIf condition line body rest =>
    obtain ⟨-, hitem⟩ | h := stands_cons.1 h
    · cases hitem
    · exact h.bounds.1
  | otherwise line body closeLine =>
    obtain ⟨-, hitem⟩ | h := stands_cons.1 h
    · cases hitem
    · exact h.bounds.1

/-- The entry of the rest of a conditional block is in it or right behind it. -/
lemma Chain.entry_bounds (c : Chain) (start : Nat) :
    start ≤ c.entry start ∧ c.entry start ≤ start + c.size := by
  cases c <;> simp only [Chain.entry, Chain.size] <;> omega

/-- A condition, the body behind it and the rest of a conditional block. -/
lemma Closed.arm {start next exit line : Nat} {condition : Expr} {body : Linked} {rest : Chain}
    (hbody : Closed (start + 1) body) (hnext : next = start + 1 + body.length)
    (hrest : Closed next (rest.link next exit)) :
    Closed start
      (⟨.jumpUnless condition (rest.entry next), line⟩ :: (body ++ rest.link next exit)) := by
  have hentry := rest.entry_bounds next
  have hlength := rest.length_link next exit
  subst hnext
  refine (hbody.append hrest).forward (.inr ⟨condition, rfl⟩) (by omega)
    (by rw [List.length_append, hlength]; omega) ?_
  rintro first last subject key value hloop ⟨hfirst, hlast⟩
  obtain hloop | hloop := stands_append.1 hloop
  · have hend := hbody.exit_le hloop
    omega
  · have hbegin := Chain.entry_le_of_loopStart hloop
    omega

mutual

lemma closed_link (start : Nat) (b : Block) : Closed start (b.link start) := by
  cases b with
  | act a line => exact closed_actOps start a line
  | comment s line => exact .nil
  | ifElse condition line body rest =>
    rw [Block.link]
    exact (closed_linkAll (start + 1) body).arm (by rw [length_linkAll]) (closed_chain _ rest)
  | forEach subject key value line body closeLine =>
    rw [Block.link]
    exact (closed_linkAll (start + 1) body).each (by rw [length_linkAll])
  | forLoop first condition step line body closeLine =>
    rw [Block.link]
    have hbody := (closed_linkAll (start + (runOps first line).length + 1) body).append
      (closed_runOps _ step closeLine)
    refine (closed_runOps start first line).append (hbody.repeats ?_)
    rw [List.length_append, length_linkAll]
    omega
  | whileLoop condition line body closeLine =>
    rw [Block.link]
    exact (closed_linkAll (start + 1) body).repeats (by rw [length_linkAll])
termination_by structural b

lemma closed_linkAll (start : Nat) (bs : List Block) : Closed start (linkAll start bs) := by
  cases bs with
  | nil => exact .nil
  | cons b rest =>
    rw [linkAll]
    refine (closed_link start b).append ?_
    rw [b.length_link]
    exact closed_linkAll (start + b.size) rest
termination_by structural bs

/-- The operations that follow the first body of a conditional block are closed if its end is right
behind them. -/
lemma closed_chain (start : Nat) (c : Chain) : Closed start (c.link start (start + c.size)) := by
  cases c with
  | close line => exact .nil
  | elseIf condition line body rest =>
    have hexit : start + (Chain.elseIf condition line body rest).size =
        start + 2 + sizeAll body + rest.size := by
      rw [Chain.size]
      omega
    rw [hexit, Chain.link]
    have hrest := closed_chain (start + 2 + sizeAll body) rest
    refine ((closed_linkAll (start + 2) body).arm (by rw [length_linkAll]) hrest).skips ?_
    rw [List.length_cons, List.length_append, length_linkAll, rest.length_link]
    omega
  | otherwise line body closeLine =>
    rw [Chain.link]
    refine (closed_linkAll (start + 1) body).skips ?_
    rw [length_linkAll, Chain.size]
    omega
termination_by structural c

end

/-! ## Whole programs -/

/-- A loop over items starts at a position and goes on at `exit` when it is done. -/
def Linked.LoopAt (program : Linked) (first exit : Nat) : Prop :=
  ∃ subject key value, program.OpAt first (.loopStart subject key value exit)

/-- Control can go from one position to another. -/
inductive Linked.Leads (program : Linked) (position : Nat) : Nat → Prop
  | behind {op : Op} (hop : program.OpAt position op) (hjump : ∀ target, op ≠ .jump target) :
      Leads program position (position + 1)
  | target {op : Op} {target : Nat} (hop : program.OpAt position op)
      (htarget : op.target? = some target) : Leads program position target

/-- The targets of a program are sound.  The span of a loop that starts at `first` and ends in front
of `exit` are the positions between the two. -/
structure Linked.Sound (program : Linked) : Prop where
  jumpUnless : ∀ {position target condition},
    program.OpAt position (.jumpUnless condition target) →
      position < target ∧ target ≤ program.length
  /-- A jump leads forward, or back to the condition that leads behind it. -/
  jump : ∀ {position target}, program.OpAt position (.jump target) →
    (position < target ∧ target ≤ program.length) ∨
      (target < position ∧
        ∃ condition, program.OpAt target (.jumpUnless condition (position + 1)))
  loopStart : ∀ {first exit}, program.LoopAt first exit →
    first < exit ∧ exit ≤ program.length ∧ program.OpAt (exit - 1) (.loopNext (first + 1))
  loopNext : ∀ {position body}, program.OpAt position (.loopNext body) →
    0 < body ∧ program.LoopAt (body - 1) (position + 1)
  /-- The span of a loop is entered by its start only. -/
  enters : ∀ {first exit position next}, program.LoopAt first exit → program.Leads position next →
    ¬Between first position exit → Between first next exit → position = first ∧ next = first + 1
  /-- The span of a loop is left by its end only. -/
  leaves : ∀ {first exit position next}, program.LoopAt first exit → program.Leads position next →
    Between first position exit → ¬Between first next exit →
      program.OpAt position (.loopNext (first + 1)) ∧ next = exit

lemma stands_zero {program : Linked} {position : Nat} {op : Op} :
    Stands 0 program position op ↔ program.OpAt position op := by
  simp [Stands]

namespace Closed

variable {program : Linked}

/-- The operations of a whole program fit. -/
lemma fits_opAt (h : Closed 0 program) {position : Nat} {op : Op}
    (hop : program.OpAt position op) : op.Fits program.OpAt program.length position :=
  (h.fits (stands_zero.2 hop)).mono (fun h => stands_zero.1 h) (by omega)

/-- A target is in the span of a loop exactly if the jump is. -/
lemma between_iff (h : Closed 0 program) {first exit position target : Nat} {op : Op}
    (hloop : program.LoopAt first exit) (hop : program.OpAt position op)
    (htarget : op.target? = some target) :
    Between first position exit ↔ Between first target exit := by
  obtain ⟨subject, key, value, hloop⟩ := hloop
  exact h.apart (stands_zero.2 hloop) (stands_zero.2 hop) htarget

lemma exists_last (h : Closed 0 program) {first exit : Nat} (hloop : program.LoopAt first exit) :
    ∃ last, exit = last + 1 ∧ first < last ∧ program.OpAt last (.loopNext (first + 1)) := by
  obtain ⟨subject, key, value, hloop⟩ := hloop
  exact h.fits_opAt hloop

lemma exists_first (h : Closed 0 program) {position body : Nat}
    (hop : program.OpAt position (.loopNext body)) :
    ∃ first, body = first + 1 ∧ first < position ∧ program.LoopAt first (position + 1) := by
  obtain ⟨first, subject, key, value, hbody, hlt, hloop⟩ := h.fits_opAt hop
  exact ⟨first, hbody, hlt, subject, key, value, hloop⟩

lemma sound (h : Closed 0 program) : program.Sound where
  jumpUnless hop := h.fits_opAt hop
  jump hop := h.fits_opAt hop
  loopStart hloop := by
    obtain ⟨last, rfl, hlt, hlast⟩ := h.exists_last hloop
    obtain ⟨line, hget⟩ := hlast
    have hlength := (List.getElem?_eq_some_iff.1 hget).1
    exact ⟨by omega, hlength, line, hget⟩
  loopNext hop := by
    obtain ⟨first, rfl, -, hloop⟩ := h.exists_first hop
    exact ⟨Nat.succ_pos first, hloop⟩
  enters := by
    intro first exit position next hloop hleads hout hin
    cases hleads with
    | target hop htarget => exact absurd ((h.between_iff hloop hop htarget).2 hin) hout
    | behind hop hjump =>
      -- going on to the next operation enters a span only at its start
      have hle : ¬first < position := fun hlt => hout ⟨hlt, Nat.lt_of_succ_lt hin.2⟩
      have hfirst := hin.1
      omega
  leaves := by
    intro first exit position next hloop hleads hin hout
    cases hleads with
    | target hop htarget => exact absurd ((h.between_iff hloop hop htarget).1 hin) hout
    | behind hop hjump =>
      -- going on to the next operation leaves a span only at its end
      obtain ⟨last, rfl, -, hlast⟩ := h.exists_last hloop
      have hle : ¬position + 1 < last + 1 := fun hlt => hout ⟨Nat.lt_succ_of_lt hin.1, hlt⟩
      obtain rfl : position = last := by
        have hexit := hin.2
        omega
      exact ⟨hlast, rfl⟩

end Closed

lemma closed_of_assemble {instructions : List (Lined Instruction)} {program : Linked}
    (h : assemble instructions = .ok program) : Closed 0 program := by
  obtain ⟨bs, -, rfl⟩ := assemble_eq_ok h
  exact closed_linkAll 0 bs

end ViewTemplate.Program
