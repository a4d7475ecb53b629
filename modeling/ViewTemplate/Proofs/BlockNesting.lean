import Mathlib.Tactic.Common
import ViewTemplate.Proofs.BlockTrees

/-!
# Blocks survive being written out

`flattenAll` writes a row of blocks as instructions and `blocksOf` reads instructions into
blocks.  The result here is that nothing is lost on the way: `blocksOf_flattenAll` reads back
exactly the blocks that were written, at every depth of nesting.  The other way around, what is read
is written as it stood (`flattenAll_of_blocksOf`), so what is said of instructions can be said of
their blocks.

The reader keeps what it has read so far on two stacks, the blocks of the innermost body and the
blocks that are still open, so the statements are about any such stacks and any instructions
behind the written ones.  A conditional block is the one case that is not closed by its own last
instruction alone: its arms pile up in the header of the open block, the last one first, and
`Arm.block` turns the pile around when the block ends.
-/

namespace ViewTemplate.Program

mutual

/-- Reading the instructions of a block puts the block on the innermost body. -/
lemma blocksFrom_flatten (b : Block) (done : List Block) (opened : List OpenTree)
    (rest : List (Lined Instruction)) :
    blocksFrom done opened (b.flatten ++ rest) = blocksFrom (b :: done) opened rest := by
  cases b with
  | act a line => simp [Block.flatten, blocksFrom]
  | comment s line => simp [Block.flatten, blocksFrom]
  | ifElse condition line body chain =>
    rw [Block.flatten, List.cons_append, List.append_assoc, blocksFrom,
      blocksFrom_flattenAll body, List.append_nil, blocksFrom_chain chain, List.reverse_reverse]
    rfl
  | forEach subject key value line body closeLine =>
    rw [Block.flatten, List.cons_append, List.append_assoc, blocksFrom,
      blocksFrom_flattenAll body]
    simp [blocksFrom, Header.kind, Header.block]
  | forLoop start condition step line body closeLine =>
    rw [Block.flatten, List.cons_append, List.append_assoc, blocksFrom,
      blocksFrom_flattenAll body]
    simp [blocksFrom, Header.kind, Header.block]
  | whileLoop condition line body closeLine =>
    rw [Block.flatten, List.cons_append, List.append_assoc, blocksFrom,
      blocksFrom_flattenAll body]
    simp [blocksFrom, Header.kind, Header.block]
termination_by structural b

lemma blocksFrom_flattenAll (bs : List Block) (done : List Block) (opened : List OpenTree)
    (rest : List (Lined Instruction)) :
    blocksFrom done opened (flattenAll bs ++ rest) =
      blocksFrom (bs.reverse ++ done) opened rest := by
  cases bs with
  | nil => simp [flattenAll]
  | cons b more =>
    rw [flattenAll, List.append_assoc, blocksFrom_flatten b, blocksFrom_flattenAll more,
      List.reverse_cons, List.append_assoc, List.singleton_append]
termination_by structural bs

/-- Reading what follows an arm of a conditional block closes the block.  The body of the arm is
what has been read of the innermost body. -/
lemma blocksFrom_chain (c : Chain) (done : List Block) (before : List Arm) (condition : Script.Expr)
    (line : Nat) (outside : List Block) (outer : List OpenTree)
    (rest : List (Lined Instruction)) :
    blocksFrom done (⟨.arm before condition line, outside⟩ :: outer) (c.flatten ++ rest) =
      blocksFrom (Arm.block ⟨condition, line, done.reverse⟩ c before :: outside) outer rest := by
  cases c with
  | close closeLine => simp [Chain.flatten, blocksFrom, Header.kind, Header.block]
  | elseIf nextCondition nextLine body more =>
    rw [Chain.flatten, List.cons_append, List.append_assoc]
    simp only [blocksFrom, divide]
    rw [blocksFrom_flattenAll body, List.append_nil, blocksFrom_chain more, List.reverse_reverse]
    rfl
  | otherwise elseLine body closeLine =>
    rw [Chain.flatten, List.cons_append, List.append_assoc]
    simp only [blocksFrom, divide]
    rw [blocksFrom_flattenAll body]
    simp [blocksFrom, Header.kind, Header.block]
termination_by structural c

end

/-- Blocks that are written out are read back as they were. -/
lemma blocksOf_flattenAll (bs : List Block) : blocksOf (flattenAll bs) = .ok bs := by
  have h := blocksFrom_flattenAll bs [] [] []
  rw [List.append_nil, List.append_nil] at h
  rw [blocksOf, h, blocksFrom, List.reverse_reverse]

/-! ## What is read is written as it stood -/

lemma flattenAll_append (bs cs : List Block) :
    flattenAll (bs ++ cs) = flattenAll bs ++ flattenAll cs := by
  induction bs with
  | nil => simp [flattenAll]
  | cons b bs ih => rw [List.cons_append, flattenAll, ih, flattenAll, List.append_assoc]

/-- The instructions of a conditional block up to the head of an arm, given the arms before it, the
last one first. -/
def Arm.front : (before : List Arm) → (condition : Script.Expr) → (line : Nat) →
    List (Lined Instruction)
  | [], condition, line => [⟨.ifStart condition, line⟩]
  | last :: before, condition, line =>
    front before last.condition last.line ++ flattenAll last.body ++ [⟨.elseIf condition, line⟩]

/-- The instructions of an open block up to the body that is being read. -/
def Header.front : Header → List (Lined Instruction)
  | .arm before condition line => Arm.front before condition line
  | .otherwise last before line =>
    Arm.front before last.condition last.line ++ flattenAll last.body ++ [⟨.otherwise, line⟩]
  | .forEach subject key value line => [⟨.forEach subject key value, line⟩]
  | .forLoop start condition step line => [⟨.forLoop start condition step, line⟩]
  | .whileLoop condition line => [⟨.whileLoop condition, line⟩]

/-- The instructions in front of the innermost body, given the open blocks, the innermost first. -/
def OpenTree.fronts : List OpenTree → List (Lined Instruction)
  | [] => []
  | ⟨header, before⟩ :: outer => fronts outer ++ flattenAll before.reverse ++ header.front

lemma Arm.flatten_block (arm : Arm) (rest : Chain) (before : List Arm) :
    (arm.block rest before).flatten =
      Arm.front before arm.condition arm.line ++ flattenAll arm.body ++ rest.flatten := by
  induction before generalizing arm rest with
  | nil => simp [Arm.block, Arm.front, Block.flatten]
  | cons last before ih => simp [Arm.block, Arm.front, Chain.flatten, ih last]

lemma Header.flatten_block (header : Header) (body : List Block) (closeLine : Nat) :
    (header.block body closeLine).flatten =
      header.front ++ flattenAll body ++ [⟨.close header.kind, closeLine⟩] := by
  cases header with
  | arm before condition line =>
    simp [Header.block, Header.front, Header.kind, Arm.flatten_block, Chain.flatten]
  | otherwise last before line =>
    simp [Header.block, Header.front, Header.kind, Arm.flatten_block, Chain.flatten]
  | forEach subject key value line => rfl
  | forLoop start condition step line => rfl
  | whileLoop condition line => rfl

/-- A division of a conditional block adds the body that has been read to the front. -/
lemma fronts_of_divide {found : String} {line : Nat} {body outside : List Block}
    {opened outer : List OpenTree} {last : Arm} {before : List Arm}
    (h : divide found line body opened = .ok (last, before, outside, outer)) :
    OpenTree.fronts opened ++ flattenAll body =
      OpenTree.fronts outer ++ flattenAll outside.reverse ++
        Arm.front before last.condition last.line ++ flattenAll last.body := by
  unfold divide at h
  split at h
  · cases h
  · obtain ⟨rfl, rfl, rfl, rfl⟩ : _ ∧ _ ∧ _ ∧ _ := by simpa using h
    rfl
  · cases h
  · cases h

/-- Reading keeps every instruction: those of the open blocks and of the innermost body so far, and
those still to be read, are the instructions of the blocks read in the end. -/
lemma flattenAll_of_blocksFrom {instructions : List (Lined Instruction)} {done bs : List Block}
    {opened : List OpenTree} (h : blocksFrom done opened instructions = .ok bs) :
    flattenAll bs = OpenTree.fronts opened ++ flattenAll done.reverse ++ instructions := by
  induction instructions generalizing done opened with
  | nil =>
    cases opened with
    | nil =>
      simp only [blocksFrom, Except.ok.injEq] at h
      simp [OpenTree.fronts, h]
    | cons innermost outer => simp [blocksFrom] at h
  | cons i rest ih =>
    obtain ⟨i, line⟩ := i
    cases i with
    | act a => simpa [flattenAll_append, flattenAll, Block.flatten] using ih h
    | comment s => simpa [flattenAll_append, flattenAll, Block.flatten] using ih h
    | ifStart condition =>
      simpa [OpenTree.fronts, Header.front, Arm.front, flattenAll] using ih h
    | forEach subject key value => simpa [OpenTree.fronts, Header.front, flattenAll] using ih h
    | forLoop start condition step =>
      simpa [OpenTree.fronts, Header.front, flattenAll] using ih h
    | whileLoop condition => simpa [OpenTree.fronts, Header.front, flattenAll] using ih h
    -- a division moves the body read so far into the front of its block, an end makes a block of it
    | elseIf condition =>
      simp only [blocksFrom] at h
      split at h
      · cases h
      · rename_i hdivide
        rw [fronts_of_divide hdivide]
        simpa [OpenTree.fronts, Header.front, Arm.front, flattenAll] using ih h
    | otherwise =>
      simp only [blocksFrom] at h
      split at h
      · cases h
      · rename_i hdivide
        rw [fronts_of_divide hdivide]
        simpa [OpenTree.fronts, Header.front, flattenAll] using ih h
    | close kind =>
      simp only [blocksFrom] at h
      cases opened with
      | nil => cases h
      | cons innermost outer =>
        obtain ⟨header, outside⟩ := innermost
        simp only at h
        split at h
        · rename_i hkind
          subst hkind
          simpa [OpenTree.fronts, flattenAll_append, flattenAll, Header.flatten_block] using ih h
        · cases h

lemma flattenAll_of_blocksOf {instructions : List (Lined Instruction)} {bs : List Block}
    (h : blocksOf instructions = .ok bs) : flattenAll bs = instructions := by
  simpa [OpenTree.fronts, flattenAll] using flattenAll_of_blocksFrom h

end ViewTemplate.Program
