import Mathlib.Tactic.Common
import ViewTemplate.Proofs.BackPatching

/-!
# Which instruction is to blame

A row of instructions nests if it is a row of blocks written out.  `assemble` accepts exactly these
rows, and where it refuses one it names an instruction.  The main result, `assemble_blames`, says
that the name is right.  An instruction that is out of place is the first one with which the row can
no longer be completed: up to the instruction before it, something can follow that makes the row
nest, and with it nothing can.  If a block is not closed, every instruction was in place, and the
block named is the last one that is still open.

A block is open at the end if its opening instruction is not the first one of a complete block.
That it is open is shown by counting: openings count one and closings minus one, a complete block
has the sum zero, and no front of a row of complete blocks has a sum below zero.
-/

namespace ViewTemplate.Program

/-! ## Rows that nest -/

/-- A row of instructions that is a row of blocks written out. -/
def Nests (instructions : List (Lined Instruction)) : Prop :=
  ∃ bs, flattenAll bs = instructions

/-- Something can follow a row that makes it nest. -/
def Completable (instructions : List (Lined Instruction)) : Prop :=
  ∃ more, Nests (instructions ++ more)

lemma Completable.mono {front instructions : List (Lined Instruction)}
    (h : Completable instructions) (hfront : front <+: instructions) : Completable front := by
  obtain ⟨rest, rfl⟩ := hfront
  obtain ⟨more, hmore⟩ := h
  exact ⟨rest ++ more, by rwa [← List.append_assoc]⟩

/-- Rows that can be assembled nest, and rows that nest can be assembled. -/
lemma exists_assemble_iff (instructions : List (Lined Instruction)) :
    (∃ program, assemble instructions = .ok program) ↔ Nests instructions := by
  constructor
  · rintro ⟨program, h⟩
    obtain ⟨bs, hbs, -⟩ := assemble_eq_ok h
    exact ⟨bs, hbs⟩
  · rintro ⟨bs, rfl⟩
    exact ⟨link bs, assemble_flattenAll bs⟩

/-! ## Reading one instruction after the other -/

/-- The instructions that a reader has read, given the blocks of the innermost body and the open
blocks. -/
def written (done : List Block) (opened : List OpenTree) : List (Lined Instruction) :=
  OpenTree.fronts opened ++ flattenAll done.reverse

lemma divide_cases (found : String) (line : Nat) (body : List Block) (opened : List OpenTree) :
    (∃ fault, divide found line body opened = .error (.unbalanced found line fault)) ∨
      ∃ division, divide found line body opened = .ok division := by
  unfold divide
  split
  · exact .inl ⟨_, rfl⟩
  · exact .inr ⟨_, rfl⟩
  · exact .inl ⟨_, rfl⟩
  · exact .inl ⟨_, rfl⟩

/-- An instruction is refused by its name and line, whatever follows, or the reader goes on with it
among what has been read. -/
lemma blocksFrom_cons_cases (done : List Block) (opened : List OpenTree) (i : Lined Instruction) :
    (∃ fault, ∀ rest,
      blocksFrom done opened (i :: rest) = .error (.unbalanced i.item.name i.line fault)) ∨
    ∃ done' opened', (∀ rest, blocksFrom done opened (i :: rest) = blocksFrom done' opened' rest) ∧
      written done' opened' = written done opened ++ [i] := by
  obtain ⟨i, line⟩ := i
  cases i with
  | act a =>
    exact .inr ⟨_, _, fun _ => rfl, by simp [written, flattenAll_append, flattenAll, Block.flatten]⟩
  | comment s =>
    exact .inr ⟨_, _, fun _ => rfl, by simp [written, flattenAll_append, flattenAll, Block.flatten]⟩
  | ifStart condition =>
    exact .inr ⟨_, _, fun _ => rfl, by
      simp [written, OpenTree.fronts, Header.front, Arm.front, flattenAll]⟩
  | forEach subject key value =>
    exact .inr ⟨_, _, fun _ => rfl, by
      simp [written, OpenTree.fronts, Header.front, flattenAll]⟩
  | forLoop start condition step =>
    exact .inr ⟨_, _, fun _ => rfl, by
      simp [written, OpenTree.fronts, Header.front, flattenAll]⟩
  | whileLoop condition =>
    exact .inr ⟨_, _, fun _ => rfl, by
      simp [written, OpenTree.fronts, Header.front, flattenAll]⟩
  -- of the instructions that open nothing, only divisions and ends can be refused
  | elseIf condition =>
    obtain ⟨fault, hdivide⟩ | ⟨⟨last, before, outside, outer⟩, hdivide⟩ :=
      divide_cases "elseif" line done.reverse opened
    · exact .inl ⟨fault, fun rest => by simp only [blocksFrom, Instruction.name, hdivide]⟩
    · refine .inr ⟨_, _, fun rest => by simp only [blocksFrom, Instruction.name, hdivide]; rfl, ?_⟩
      rw [written, written, fronts_of_divide hdivide]
      simp [OpenTree.fronts, Header.front, Arm.front, flattenAll]
  | otherwise =>
    obtain ⟨fault, hdivide⟩ | ⟨⟨last, before, outside, outer⟩, hdivide⟩ :=
      divide_cases "else" line done.reverse opened
    · exact .inl ⟨fault, fun rest => by simp only [blocksFrom, Instruction.name, hdivide]⟩
    · refine .inr ⟨_, _, fun rest => by simp only [blocksFrom, Instruction.name, hdivide]; rfl, ?_⟩
      rw [written, written, fronts_of_divide hdivide]
      simp [OpenTree.fronts, Header.front, flattenAll]
  | close kind =>
    cases opened with
    | nil => exact .inl ⟨_, fun _ => rfl⟩
    | cons innermost outer =>
      obtain ⟨header, outside⟩ := innermost
      by_cases hkind : header.kind = kind
      · refine .inr ⟨_, _, fun rest => by simp only [blocksFrom, if_pos hkind]; rfl, ?_⟩
        subst hkind
        simp [written, OpenTree.fronts, flattenAll_append, flattenAll, Header.flatten_block]
      · exact .inl ⟨_, fun rest => by simp only [blocksFrom, if_neg hkind]; rfl⟩

/-- The reader is stopped by an instruction, up to which it has read, or reads the whole row. -/
lemma blocksFrom_append_cases (done : List Block) (opened : List OpenTree)
    (instructions : List (Lined Instruction)) :
    (∃ before i behind fault, instructions = before ++ i :: behind ∧
      (∃ done' opened', ∀ rest,
        blocksFrom done opened (before ++ rest) = blocksFrom done' opened' rest) ∧
      ∀ rest, blocksFrom done opened (before ++ i :: rest) =
        .error (.unbalanced i.item.name i.line fault)) ∨
    ∃ done' opened', (∀ rest,
      blocksFrom done opened (instructions ++ rest) = blocksFrom done' opened' rest) ∧
      written done' opened' = written done opened ++ instructions := by
  induction instructions generalizing done opened with
  | nil => exact .inr ⟨done, opened, fun _ => rfl, by simp⟩
  | cons i rest ih =>
    obtain ⟨fault, hrefused⟩ | ⟨done', opened', hreads, hwritten⟩ :=
      blocksFrom_cons_cases done opened i
    · -- the first instruction is refused
      exact .inl ⟨[], i, rest, fault, rfl, ⟨done, opened, fun _ => rfl⟩, hrefused⟩
    · obtain ⟨before, j, behind, fault, rfl, ⟨done'', opened'', hbefore⟩, hrefused⟩ |
        ⟨done'', opened'', hrest, hwritten'⟩ := ih done' opened'
      · -- a later one is, and reading comes as far as that
        refine .inl ⟨i :: before, j, behind, fault, rfl, ⟨done'', opened'', ?_⟩, ?_⟩
        · intro more
          rw [List.cons_append, hreads, hbefore]
        · intro more
          rw [List.cons_append, hreads, hrefused]
      · refine .inr ⟨done'', opened'', ?_, ?_⟩
        · intro more
          rw [List.cons_append, hreads, hrest]
        · rw [hwritten', hwritten, List.append_assoc, List.singleton_append]

/-- All open blocks can be closed, the innermost first. -/
lemma exists_blocksFrom_eq_ok (done : List Block) (opened : List OpenTree) :
    ∃ more bs, blocksFrom done opened more = .ok bs := by
  induction opened generalizing done with
  | nil => exact ⟨[], done.reverse, rfl⟩
  | cons innermost outer ih =>
    obtain ⟨header, outside⟩ := innermost
    obtain ⟨more, bs, hmore⟩ := ih (header.block done.reverse 0 :: outside)
    exact ⟨⟨.close header.kind, 0⟩ :: more, bs, by simp only [blocksFrom, if_pos, hmore]⟩

lemma completable_of_reads {front : List (Lined Instruction)} {done : List Block}
    {opened : List OpenTree}
    (h : ∀ rest, blocksFrom [] [] (front ++ rest) = blocksFrom done opened rest) :
    Completable front := by
  obtain ⟨more, bs, hmore⟩ := exists_blocksFrom_eq_ok done opened
  exact ⟨more, bs, flattenAll_of_blocksOf (by rw [blocksOf, h, hmore])⟩

lemma blocksOf_of_nests {instructions : List (Lined Instruction)} (h : Nests instructions)
    (e : BlockError) : blocksOf instructions ≠ .error e := by
  obtain ⟨bs, rfl⟩ := h
  simp [blocksOf_flattenAll]

/-! ## Counting openings and closings -/

/-- The kind of the block that an instruction opens. -/
def Instruction.opens? : Instruction → Option BlockKind
  | .ifStart _ => some .ifElse
  | .forEach _ _ _ => some .forEach
  | .forLoop _ _ _ => some .forLoop
  | .whileLoop _ => some .whileLoop
  | _ => none

/-- One for an opening, minus one for a closing. -/
def Instruction.rise : Instruction → Int
  | .ifStart _ | .forEach _ _ _ | .forLoop _ _ _ | .whileLoop _ => 1
  | .close _ => -1
  | _ => 0

/-- How many more blocks a row opens than it closes. -/
def rise : List (Lined Instruction) → Int
  | [] => 0
  | i :: rest => i.item.rise + rise rest

lemma rise_append (front back : List (Lined Instruction)) :
    rise (front ++ back) = rise front + rise back := by
  induction front with
  | nil => simp [rise]
  | cons i front ih =>
    simp only [List.cons_append, rise, ih]
    omega

/-- A row rises by `total`, and no front of it falls below `low`. -/
structure Climbs (low total : Int) (instructions : List (Lined Instruction)) : Prop where
  total : rise instructions = total
  low : ∀ front, front <+: instructions → low ≤ rise front

namespace Climbs

variable {low total : Int} {front back instructions : List (Lined Instruction)}

lemma low_le (h : Climbs low total instructions) : low ≤ 0 :=
  h.low [] ⟨instructions, rfl⟩

lemma nil : Climbs 0 0 [] where
  total := rfl
  low := by simp [rise]

lemma append (hfront : Climbs 0 0 front) (hback : Climbs low total back) :
    Climbs low total (front ++ back) where
  total := by rw [rise_append, hfront.total, hback.total, Int.zero_add]
  low := by
    rintro part ⟨behind, hpart⟩
    obtain ⟨more, hmore, -⟩ | ⟨rest, rfl, hrest⟩ := List.append_eq_append_iff.1 hpart
    · exact Int.le_trans hback.low_le (hfront.low part ⟨more, hmore.symm⟩)
    · rw [rise_append, hfront.total, Int.zero_add]
      exact hback.low rest ⟨behind, hrest.symm⟩

lemma level {i : Lined Instruction} (hi : i.item.rise = 0) (h : Climbs low total instructions) :
    Climbs low total (i :: instructions) where
  total := by rw [rise, hi, h.total, Int.zero_add]
  low := by
    intro part hpart
    obtain rfl | ⟨rest, rfl, hrest⟩ := List.prefix_cons_iff.1 hpart
    · exact h.low_le
    · rw [rise, hi, Int.zero_add]
      exact h.low rest hrest

lemma opening {i : Lined Instruction} (hi : i.item.rise = 1) (h : Climbs (-1) (-1) instructions) :
    Climbs 0 0 (i :: instructions) where
  total := by
    rw [rise, hi, h.total]
    rfl
  low := by
    intro part hpart
    obtain rfl | ⟨rest, rfl, hrest⟩ := List.prefix_cons_iff.1 hpart
    · exact Int.le_refl 0
    · have hlow := h.low rest hrest
      rw [rise, hi]
      omega

lemma closing (h : Climbs 0 0 instructions) (kind : BlockKind) (line : Nat) :
    Climbs (-1) (-1) (instructions ++ [⟨.close kind, line⟩]) := by
  refine h.append ⟨rfl, ?_⟩
  intro part hpart
  obtain rfl | ⟨rest, rfl, hrest⟩ := List.prefix_cons_iff.1 hpart
  · decide
  · obtain rfl := List.prefix_nil.1 hrest
    exact Int.le_refl (-1)

end Climbs

mutual

/-- A complete block closes what it opens. -/
lemma climbs_flatten (b : Block) : Climbs 0 0 b.flatten := by
  cases b with
  | act a line => exact .level rfl .nil
  | comment s line => exact .level rfl .nil
  | ifElse condition line body chain =>
    exact .opening rfl ((climbs_flattenAll body).append (climbs_chain chain))
  | forEach subject key value line body closeLine =>
    exact .opening rfl ((climbs_flattenAll body).closing .forEach closeLine)
  | forLoop start condition step line body closeLine =>
    exact .opening rfl ((climbs_flattenAll body).closing .forLoop closeLine)
  | whileLoop condition line body closeLine =>
    exact .opening rfl ((climbs_flattenAll body).closing .whileLoop closeLine)
termination_by structural b

lemma climbs_flattenAll (bs : List Block) : Climbs 0 0 (flattenAll bs) := by
  cases bs with
  | nil => exact .nil
  | cons b rest => exact (climbs_flatten b).append (climbs_flattenAll rest)
termination_by structural bs

lemma climbs_chain (c : Chain) : Climbs (-1) (-1) c.flatten := by
  cases c with
  | close line => exact Climbs.nil.closing .ifElse line
  | elseIf condition line body rest =>
    exact .level rfl ((climbs_flattenAll body).append (climbs_chain rest))
  | otherwise line body closeLine =>
    exact .level rfl ((climbs_flattenAll body).closing .ifElse closeLine)
termination_by structural c

end

/-! ## Blocks that are complete -/

/-- Every opening in a row is the first instruction of a complete block of the row. -/
def Complete (instructions : List (Lined Instruction)) : Prop :=
  ∀ front i behind, instructions = front ++ i :: behind → i.item.opens?.isSome = true →
    ∃ b : Block, b.flatten <+: i :: behind

namespace Complete

variable {front back instructions : List (Lined Instruction)}

lemma nil : Complete [] := by
  intro front i behind h
  simp at h

lemma append (hfront : Complete front) (hback : Complete back) : Complete (front ++ back) := by
  intro before i behind h hopens
  obtain ⟨more, rfl, hmore⟩ | ⟨more, hmore, hbehind⟩ := List.append_eq_append_iff.1 h
  · exact hback more i behind hmore hopens
  · cases more with
    | nil => exact hback [] i behind hbehind.symm hopens
    | cons j more =>
      obtain ⟨rfl, rfl⟩ := List.cons.inj hbehind
      obtain ⟨b, hb⟩ := hfront before i more hmore hopens
      exact ⟨b, hb.trans (List.prefix_append (i :: more) back)⟩

lemma cons {i : Lined Instruction} (h : Complete instructions)
    (hi : i.item.opens?.isSome = true → ∃ b : Block, b.flatten <+: i :: instructions) :
    Complete (i :: instructions) := by
  intro before j behind heq hopens
  cases before with
  | nil =>
    obtain ⟨rfl, rfl⟩ := List.cons.inj heq
    exact hi hopens
  | cons k before =>
    obtain ⟨-, rfl⟩ := List.cons.inj heq
    exact h before j behind rfl hopens

lemma single {i : Lined Instruction} (hi : i.item.opens? = none) : Complete [i] :=
  nil.cons (by simp [hi])

end Complete

mutual

lemma complete_flatten (b : Block) : Complete b.flatten := by
  cases b with
  | act a line => exact .single rfl
  | comment s line => exact .single rfl
  | ifElse condition line body chain =>
    exact .cons ((complete_flattenAll body).append (complete_chain chain))
      fun _ => ⟨.ifElse condition line body chain, List.prefix_rfl⟩
  | forEach subject key value line body closeLine =>
    exact .cons ((complete_flattenAll body).append (.single rfl))
      fun _ => ⟨.forEach subject key value line body closeLine, List.prefix_rfl⟩
  | forLoop start condition step line body closeLine =>
    exact .cons ((complete_flattenAll body).append (.single rfl))
      fun _ => ⟨.forLoop start condition step line body closeLine, List.prefix_rfl⟩
  | whileLoop condition line body closeLine =>
    exact .cons ((complete_flattenAll body).append (.single rfl))
      fun _ => ⟨.whileLoop condition line body closeLine, List.prefix_rfl⟩
termination_by structural b

lemma complete_flattenAll (bs : List Block) : Complete (flattenAll bs) := by
  cases bs with
  | nil => exact .nil
  | cons b rest => exact (complete_flatten b).append (complete_flattenAll rest)
termination_by structural bs

lemma complete_chain (c : Chain) : Complete c.flatten := by
  cases c with
  | close line => exact .single rfl
  | elseIf condition line body rest =>
    exact .cons ((complete_flattenAll body).append (complete_chain rest))
      (by simp [Instruction.opens?])
  | otherwise line body closeLine =>
    exact .cons ((complete_flattenAll body).append (.single rfl)) (by simp [Instruction.opens?])
termination_by structural c

end

/-! ## Blocks that are open -/

/-- The instruction at a position opens a block that is never closed. -/
structure OpenAt (instructions : List (Lined Instruction)) (position : Nat) (kind : BlockKind)
    (line : Nat) : Prop where
  opens : ∃ i, instructions[position]? = some ⟨i, line⟩ ∧ i.opens? = some kind ∧ i.name = kind.name
  never_closed : ∀ b : Block, ¬b.flatten <+: instructions.drop position

/-- The last of the blocks that are never closed. -/
def InnermostOpen (instructions : List (Lined Instruction)) (kind : BlockKind) (line : Nat) :
    Prop :=
  ∃ position, OpenAt instructions position kind line ∧
    ∀ later, position < later → ∀ kind line, ¬OpenAt instructions later kind line

lemma Instruction.name_of_opens? {i : Instruction} {kind : BlockKind} (h : i.opens? = some kind) :
    i.name = kind.name := by
  cases i <;> simp only [Instruction.opens?, Option.some.injEq, reduceCtorEq] at h <;> subst h <;>
    rfl

/-- The front of a conditional block is its opening and complete bodies. -/
lemma Arm.exists_front (before : List Arm) (condition : Script.Expr) (line : Nat) :
    ∃ first inside, Arm.front before condition line =
      ⟨.ifStart first, Header.firstLine line before⟩ :: inside ∧
      Climbs 0 0 inside ∧ Complete inside := by
  induction before generalizing condition line with
  | nil => exact ⟨condition, [], rfl, .nil, .nil⟩
  | cons last before ih =>
    obtain ⟨first, inside, hfront, hclimbs, hcomplete⟩ := ih last.condition last.line
    refine ⟨first, inside ++ flattenAll last.body ++ [⟨.elseIf condition, line⟩], ?_, ?_, ?_⟩
    · rw [Arm.front, hfront]
      rfl
    · exact (hclimbs.append (climbs_flattenAll last.body)).append (.level rfl .nil)
    · exact (hcomplete.append (complete_flattenAll last.body)).append (.single rfl)

lemma Header.exists_front (header : Header) :
    ∃ i inside, header.front = ⟨i, header.line⟩ :: inside ∧ i.opens? = some header.kind ∧
      i.rise = 1 ∧ Climbs 0 0 inside ∧ Complete inside := by
  cases header with
  | arm before condition line =>
    obtain ⟨first, inside, hfront, hclimbs, hcomplete⟩ := Arm.exists_front before condition line
    exact ⟨.ifStart first, inside, hfront, rfl, rfl, hclimbs, hcomplete⟩
  | otherwise last before line =>
    obtain ⟨first, inside, hfront, hclimbs, hcomplete⟩ :=
      Arm.exists_front before last.condition last.line
    refine ⟨.ifStart first, inside ++ flattenAll last.body ++ [⟨.otherwise, line⟩], ?_, rfl, rfl,
      ?_, ?_⟩
    · rw [Header.front, hfront]
      rfl
    · exact (hclimbs.append (climbs_flattenAll last.body)).append (.level rfl .nil)
    · exact (hcomplete.append (complete_flattenAll last.body)).append (.single rfl)
  | forEach subject key value line =>
    exact ⟨.forEach subject key value, [], rfl, rfl, rfl, .nil, .nil⟩
  | forLoop start condition step line =>
    exact ⟨.forLoop start condition step, [], rfl, rfl, rfl, .nil, .nil⟩
  | whileLoop condition line => exact ⟨.whileLoop condition, [], rfl, rfl, rfl, .nil, .nil⟩

/-- An opening is never closed if only complete blocks follow it, and then it is the last one. -/
lemma innermostOpen_of_complete {outside inside : List (Lined Instruction)} {i : Instruction}
    {kind : BlockKind} (line : Nat) (hopens : i.opens? = some kind) (hrise : i.rise = 1)
    (hclimbs : Climbs 0 0 inside) (hcomplete : Complete inside) :
    InnermostOpen (outside ++ ⟨i, line⟩ :: inside) kind line := by
  have hdrop : (outside ++ ⟨i, line⟩ :: inside).drop outside.length = ⟨i, line⟩ :: inside :=
    List.drop_left
  refine ⟨outside.length, ⟨⟨i, ?_, hopens, i.name_of_opens? hopens⟩, ?_⟩, ?_⟩
  · simp
  · intro b hb
    rw [hdrop] at hb
    have htotal := (climbs_flatten b).total
    -- The fronts of the row rise by one or more, but a complete block rises by zero.
    obtain hnil | ⟨rest, hrest, hrestFront⟩ := List.prefix_cons_iff.1 hb
    · cases b <;> simp [Block.flatten] at hnil
    · have hlow := hclimbs.low rest hrestFront
      rw [hrest, rise] at htotal
      simp only [hrise] at htotal
      omega
  · rintro later hlater kind' line' ⟨⟨j, hget, hopens', -⟩, hnever⟩
    obtain ⟨offset, rfl⟩ := Nat.exists_eq_add_of_lt hlater
    have hlaterDrop : (outside ++ ⟨i, line⟩ :: inside).drop (outside.length + offset + 1) =
        inside.drop offset := by
      rw [Nat.add_assoc, ← List.drop_drop, hdrop, List.drop_succ_cons]
    have hgetInside : inside[offset]? = some ⟨j, line'⟩ := by
      rw [← hget, ← List.getElem?_drop (i := outside.length + offset + 1) (j := 0)]
      rw [hlaterDrop, List.getElem?_drop, Nat.add_zero]
    obtain ⟨hlt, hj⟩ := List.getElem?_eq_some_iff.1 hgetInside
    have hbehind : inside.drop offset = ⟨j, line'⟩ :: inside.drop (offset + 1) := by
      rw [List.drop_eq_getElem_cons hlt, hj]
    obtain ⟨b, hb⟩ := hcomplete (inside.take offset) _ _
      (by rw [← hbehind, List.take_append_drop]) (by simp [hopens'])
    apply hnever b
    rwa [hlaterDrop, hbehind]

/-! ## The error that is reported -/

/-- A refused instruction is the first one with which the row cannot be completed. -/
lemma blocksOf_eq_unbalanced {instructions : List (Lined Instruction)} {found : String} {line : Nat}
    {fault : BlockFault} (h : blocksOf instructions = .error (.unbalanced found line fault)) :
    ∃ k i, instructions[k]? = some i ∧ i.item.name = found ∧ i.line = line ∧
      (∀ j ≤ k, Completable (instructions.take j)) ∧ ¬Completable (instructions.take (k + 1)) := by
  obtain ⟨before, i, behind, fault', rfl, ⟨done, opened, hreads⟩, hrefused⟩ |
    ⟨done, opened, hreads, -⟩ := blocksFrom_append_cases [] [] instructions
  · rw [blocksOf, hrefused] at h
    obtain ⟨hname, hline, -⟩ := BlockError.unbalanced.inj (Except.error.inj h)
    refine ⟨before.length, i, by simp, hname, hline, fun j hj => ?_, ?_⟩
    · refine (completable_of_reads hreads).mono ?_
      rw [List.take_append_of_le_length hj]
      exact ⟨before.drop j, List.take_append_drop j before⟩
    · rintro ⟨more, hmore⟩
      have htake : (before ++ i :: behind).take (before.length + 1) = before ++ [i] :=
        List.take_length_add_append 1
      rw [htake, List.append_assoc, List.singleton_append] at hmore
      exact blocksOf_of_nests hmore _ (hrefused more)
  · have hend := hreads []
    rw [List.append_nil] at hend
    rw [blocksOf, hend] at h
    cases opened <;> simp [blocksFrom] at h

/-- If a block is not closed, every instruction was in place, and the block is the innermost one
that is open. -/
lemma blocksOf_eq_unclosed {instructions : List (Lined Instruction)} {kind : BlockKind} {line : Nat}
    (h : blocksOf instructions = .error (.unclosed kind line)) :
    Completable instructions ∧ InnermostOpen instructions kind line := by
  obtain ⟨before, i, behind, fault', rfl, -, hrefused⟩ | ⟨done, opened, hreads, hwritten⟩ :=
    blocksFrom_append_cases [] [] instructions
  · rw [blocksOf, hrefused] at h
    simp at h
  · refine ⟨completable_of_reads hreads, ?_⟩
    have hend := hreads []
    rw [List.append_nil] at hend
    rw [blocksOf, hend] at h
    cases opened with
    | nil => simp [blocksFrom] at h
    | cons innermost outer =>
      obtain ⟨header, outside⟩ := innermost
      obtain ⟨rfl, rfl⟩ := BlockError.unclosed.inj (Except.error.inj h)
      -- behind the opening of the innermost block stand complete blocks only
      obtain ⟨i, inside, hfront, hopens, hrise, hclimbs, hcomplete⟩ := header.exists_front
      have hrow : instructions = OpenTree.fronts outer ++ flattenAll outside.reverse ++
          ⟨i, header.line⟩ :: (inside ++ flattenAll done.reverse) := by
        simpa [written, OpenTree.fronts, flattenAll, hfront] using hwritten.symm
      rw [hrow]
      exact innermostOpen_of_complete header.line hopens hrise
        (hclimbs.append (climbs_flattenAll done.reverse))
        (hcomplete.append (complete_flattenAll done.reverse))

lemma blocksOf_of_assemble {instructions : List (Lined Instruction)} {e : BlockError}
    (h : assemble instructions = .error e) : blocksOf instructions = .error e := by
  rw [assemble_eq_map_link] at h
  cases hblocks : blocksOf instructions with
  | error e' => simpa [hblocks, Except.map] using h
  | ok bs => simp [hblocks, Except.map] at h

/-- **Exactly the rows that nest are assembled, and the right instruction is blamed.**  A row can be
assembled if and only if it is a row of blocks written out.  An instruction that is out of place is
the first one with which the row cannot be completed any more.  If a block is not closed, every
front of the row can be completed, and the block is the innermost one that is still open. -/
theorem assemble_blames (instructions : List (Lined Instruction)) :
    ((∃ program, assemble instructions = .ok program) ↔ Nests instructions) ∧
    (∀ found line fault, assemble instructions = .error (.unbalanced found line fault) →
      ∃ k i, instructions[k]? = some i ∧ i.item.name = found ∧ i.line = line ∧
        (∀ j ≤ k, Completable (instructions.take j)) ∧
        ¬Completable (instructions.take (k + 1))) ∧
    ∀ kind line, assemble instructions = .error (.unclosed kind line) →
      (∀ k, Completable (instructions.take k)) ∧ InnermostOpen instructions kind line := by
  refine ⟨exists_assemble_iff instructions, fun found line fault h => ?_, fun kind line h => ?_⟩
  · exact blocksOf_eq_unbalanced (blocksOf_of_assemble h)
  · obtain ⟨hcompletable, hopen⟩ := blocksOf_eq_unclosed (blocksOf_of_assemble h)
    exact ⟨fun k => hcompletable.mono ⟨_, List.take_append_drop k instructions⟩, hopen⟩

/-- The end of a conditional block inside of a loop, and a loop around a conditional block with a
complete loop in its second arm. -/
theorem assemble_blames_crossed :
    let crossed : List (Lined Instruction) :=
      [⟨.ifStart (.var "a"), 1⟩, ⟨.whileLoop (.var "b"), 2⟩, ⟨.close .ifElse, 3⟩]
    let unclosed : List (Lined Instruction) :=
      [⟨.whileLoop (.var "a"), 1⟩, ⟨.ifStart (.var "b"), 2⟩, ⟨.elseIf (.var "c"), 3⟩,
        ⟨.forEach (.var "d") none "e", 4⟩, ⟨.close .forEach, 5⟩]
    (assemble crossed = .error (.unbalanced "endif" 3 (.stillOpen .whileLoop 2)) ∧
      ∃ k i, crossed[k]? = some i ∧ i.item.name = "endif" ∧ i.line = 3 ∧
        (∀ j ≤ k, Completable (crossed.take j)) ∧ ¬Completable (crossed.take (k + 1))) ∧
    assemble unclosed = .error (.unclosed .ifElse 2) ∧
      (∀ k, Completable (unclosed.take k)) ∧ InnermostOpen unclosed .ifElse 2 := by
  intro crossed unclosed
  have hcrossed : assemble crossed = .error (.unbalanced "endif" 3 (.stillOpen .whileLoop 2)) := rfl
  have hunclosed : assemble unclosed = .error (.unclosed .ifElse 2) := rfl
  exact ⟨⟨hcrossed, (assemble_blames crossed).2.1 _ _ _ hcrossed⟩, hunclosed,
    (assemble_blames unclosed).2.2 _ _ hunclosed⟩

end ViewTemplate.Program
