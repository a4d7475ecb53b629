import Mathlib.Tactic.Common
import ViewTemplate.Program.Linked

/-!
# Blocks as trees

A row of instructions that nests well is a row of blocks, and a block is a tree.  `flatten` writes
a tree as instructions and `blocksOf` finds the trees of a row of instructions.

A tree can be linked without filling in anything later: the sizes of its parts say where each of its
jumps leads before the jump is written.  `link` does so.  It says what the program of a row of
blocks is to be, and what is said of programs by induction over blocks is said of `link`.
-/

namespace ViewTemplate.Program

open ViewTemplate.Script (Expr Stmt)

mutual

/-- An action or a block, with the lines of the instructions that make it up. -/
inductive Block where
  | act (a : Action) (line : Nat)
  | comment (s : String) (line : Nat)
  | ifElse (condition : Expr) (line : Nat) (body : List Block) (rest : Chain)
  | forEach (subject : Expr) (key : Option String) (value : String) (line : Nat)
      (body : List Block) (closeLine : Nat)
  | forLoop (start : List Stmt) (condition : Option Expr) (step : List Stmt) (line : Nat)
      (body : List Block) (closeLine : Nat)
  | whileLoop (condition : Expr) (line : Nat) (body : List Block) (closeLine : Nat)

/-- What follows the first body of a conditional block. -/
inductive Chain where
  | close (line : Nat)
  | elseIf (condition : Expr) (line : Nat) (body : List Block) (rest : Chain)
  | otherwise (line : Nat) (body : List Block) (closeLine : Nat)

end

/-! ## Blocks as instructions -/

mutual

/-- The instructions of a block. -/
def Block.flatten : Block → List (Lined Instruction)
  | .act a line => [⟨.act a, line⟩]
  | .comment s line => [⟨.comment s, line⟩]
  | .ifElse condition line body rest =>
    ⟨.ifStart condition, line⟩ :: (flattenAll body ++ rest.flatten)
  | .forEach subject key value line body closeLine =>
    ⟨.forEach subject key value, line⟩ :: (flattenAll body ++ [⟨.close .forEach, closeLine⟩])
  | .forLoop start condition step line body closeLine =>
    ⟨.forLoop start condition step, line⟩ :: (flattenAll body ++ [⟨.close .forLoop, closeLine⟩])
  | .whileLoop condition line body closeLine =>
    ⟨.whileLoop condition, line⟩ :: (flattenAll body ++ [⟨.close .whileLoop, closeLine⟩])
termination_by structural b => b

/-- The instructions of a row of blocks. -/
def flattenAll : List Block → List (Lined Instruction)
  | [] => []
  | b :: rest => b.flatten ++ flattenAll rest
termination_by structural bs => bs

/-- The instructions that follow the first body of a conditional block. -/
def Chain.flatten : Chain → List (Lined Instruction)
  | .close line => [⟨.close .ifElse, line⟩]
  | .elseIf condition line body rest =>
    ⟨.elseIf condition, line⟩ :: (flattenAll body ++ rest.flatten)
  | .otherwise line body closeLine =>
    ⟨.otherwise, line⟩ :: (flattenAll body ++ [⟨.close .ifElse, closeLine⟩])
termination_by structural c => c

end

/-! ## Instructions as blocks -/

/-- A conditional body that is complete. -/
structure Arm where
  condition : Expr
  line : Nat
  body : List Block

/-- The front of a block whose body is still being read. -/
inductive Header where
  /-- The arms before the one being read, the last one first, and the condition of that one. -/
  | arm (before : List Arm) (condition : Expr) (line : Nat)
  /-- The arms before the `else`, the last one first. -/
  | otherwise (last : Arm) (before : List Arm) (line : Nat)
  | forEach (subject : Expr) (key : Option String) (value : String) (line : Nat)
  | forLoop (start : List Stmt) (condition : Option Expr) (step : List Stmt) (line : Nat)
  | whileLoop (condition : Expr) (line : Nat)

namespace Header

def kind : Header → BlockKind
  | arm _ _ _ => .ifElse
  | otherwise _ _ _ => .ifElse
  | forEach _ _ _ _ => .forEach
  | forLoop _ _ _ _ => .forLoop
  | whileLoop _ _ => .whileLoop

/-- The line of the first arm of a conditional block, given its arms, the last one first. -/
def firstLine (line : Nat) : List Arm → Nat
  | [] => line
  | last :: before => firstLine last.line before

def line : Header → Nat
  | arm before _ line => firstLine line before
  | otherwise last before _ => firstLine last.line before
  | forEach _ _ _ line => line
  | forLoop _ _ _ line => line
  | whileLoop _ line => line

end Header

/-- A conditional block from its arms, the last one first, and what follows them. -/
def Arm.block (arm : Arm) (rest : Chain) : (before : List Arm) → Block
  | [] => .ifElse arm.condition arm.line arm.body rest
  | earlier :: before =>
    earlier.block (.elseIf arm.condition arm.line arm.body rest) before

/-- The block of a header whose body is complete. -/
def Header.block (body : List Block) (closeLine : Nat) : Header → Block
  | .arm before condition line => Arm.block ⟨condition, line, body⟩ (.close closeLine) before
  | .otherwise last before line => last.block (.otherwise line body closeLine) before
  | .forEach subject key value line => .forEach subject key value line body closeLine
  | .forLoop start condition step line => .forLoop start condition step line body closeLine
  | .whileLoop condition line => .whileLoop condition line body closeLine

/-- An open block: its front, and the blocks before it, the last one first. -/
structure OpenTree where
  header : Header
  before : List Block

/-- The conditional block that an `elseif` or `else` goes on with: the arms that are complete now,
and the blocks before the whole. -/
def divide (found : String) (line : Nat) (body : List Block) :
    List OpenTree → Except BlockError (Arm × List Arm × List Block × List OpenTree)
  | [] => .error (.unbalanced found line (.notOpen .ifElse))
  | ⟨.arm before condition armLine, outside⟩ :: outer =>
    .ok (⟨condition, armLine, body⟩, before, outside, outer)
  | ⟨.otherwise _ _ _, _⟩ :: _ => .error (.unbalanced found line .followsElse)
  | ⟨header, _⟩ :: _ => .error (.unbalanced found line (.inside header.kind header.line))

/-- Read instructions into blocks.  `done` holds the blocks of the innermost body so far, the last
one first, and `opened` the open blocks, the innermost first. -/
def blocksFrom (done : List Block) (opened : List OpenTree) :
    List (Lined Instruction) → Except BlockError (List Block)
  | [] =>
    match opened with
    | [] => .ok done.reverse
    | innermost :: _ => .error (.unclosed innermost.header.kind innermost.header.line)
  | ⟨i, line⟩ :: rest =>
    match i with
    | .act a => blocksFrom (.act a line :: done) opened rest
    | .comment s => blocksFrom (.comment s line :: done) opened rest
    | .ifStart condition => blocksFrom [] (⟨.arm [] condition line, done⟩ :: opened) rest
    | .forEach subject key value =>
      blocksFrom [] (⟨.forEach subject key value line, done⟩ :: opened) rest
    | .forLoop start condition step =>
      blocksFrom [] (⟨.forLoop start condition step line, done⟩ :: opened) rest
    | .whileLoop condition => blocksFrom [] (⟨.whileLoop condition line, done⟩ :: opened) rest
    | .elseIf condition =>
      match divide i.name line done.reverse opened with
      | .error e => .error e
      | .ok (last, before, outside, outer) =>
        blocksFrom [] (⟨.arm (last :: before) condition line, outside⟩ :: outer) rest
    | .otherwise =>
      match divide i.name line done.reverse opened with
      | .error e => .error e
      | .ok (last, before, outside, outer) =>
        blocksFrom [] (⟨.otherwise last before line, outside⟩ :: outer) rest
    | .close kind =>
      match opened with
      | [] => .error (.unbalanced i.name line (.notOpen kind))
      | ⟨header, outside⟩ :: outer =>
        if header.kind = kind then
          blocksFrom (header.block done.reverse line :: outside) outer rest
        else .error (.unbalanced i.name line (.stillOpen header.kind header.line))

/-- The blocks of a row of instructions. -/
def blocksOf (instructions : List (Lined Instruction)) : Except BlockError (List Block) :=
  blocksFrom [] [] instructions

/-! ## Sizes -/

mutual

/-- The number of operations of a block. -/
def Block.size : Block → Nat
  | .act a line => (actOps a line).length
  | .comment _ _ => 0
  | .ifElse _ _ body rest => 1 + sizeAll body + rest.size
  | .forEach _ _ _ _ body _ => 2 + sizeAll body
  | .forLoop start _ step line body closeLine =>
    (runOps start line).length + 1 + sizeAll body + (runOps step closeLine).length + 1
  | .whileLoop _ _ body _ => 2 + sizeAll body
termination_by structural b => b

/-- The number of operations of a row of blocks. -/
def sizeAll : List Block → Nat
  | [] => 0
  | b :: rest => b.size + sizeAll rest
termination_by structural bs => bs

/-- The number of operations that follow the first body of a conditional block. -/
def Chain.size : Chain → Nat
  | .close _ => 0
  | .elseIf _ _ body rest => 2 + sizeAll body + rest.size
  | .otherwise _ body _ => 1 + sizeAll body
termination_by structural c => c

end

/-! ## Linking -/

/-- Where a condition that does not hold goes when the rest of the block starts at a position:
behind the jump that ends the body before it, if there is one. -/
def Chain.entry (start : Nat) : Chain → Nat
  | .close _ => start
  | _ => start + 1

mutual

/-- The operations of a block that starts at a position. -/
def Block.link (start : Nat) : Block → Linked
  | .act a line => actOps a line
  | .comment _ _ => []
  | .ifElse condition line body rest =>
    let next := start + 1 + sizeAll body
    ⟨.jumpUnless condition (rest.entry next), line⟩ ::
      (linkAll (start + 1) body ++ rest.link next (next + rest.size))
  | .forEach subject key value line body closeLine =>
    ⟨.loopStart subject key value (start + 2 + sizeAll body), line⟩ ::
      (linkAll (start + 1) body ++ [⟨.loopNext (start + 1), closeLine⟩])
  | .forLoop first condition step line body closeLine =>
    let top := start + (runOps first line).length
    let exit := top + 1 + sizeAll body + (runOps step closeLine).length + 1
    runOps first line ++
      ⟨.jumpUnless (conditionOrTrue condition) exit, line⟩ ::
        (linkAll (top + 1) body ++ runOps step closeLine ++ [⟨.jump top, closeLine⟩])
  | .whileLoop condition line body closeLine =>
    ⟨.jumpUnless condition (start + 2 + sizeAll body), line⟩ ::
      (linkAll (start + 1) body ++ [⟨.jump start, closeLine⟩])
termination_by structural b => b

/-- The operations of a row of blocks that starts at a position. -/
def linkAll (start : Nat) : List Block → Linked
  | [] => []
  | b :: rest => b.link start ++ linkAll (start + b.size) rest
termination_by structural bs => bs

/-- The operations that follow the first body of a conditional block which ends at `exit`. -/
def Chain.link (start exit : Nat) : Chain → Linked
  | .close _ => []
  | .elseIf condition line body rest =>
    let next := start + 2 + sizeAll body
    ⟨.jump exit, line⟩ :: ⟨.jumpUnless condition (rest.entry next), line⟩ ::
      (linkAll (start + 2) body ++ rest.link next exit)
  | .otherwise line body _ => ⟨.jump exit, line⟩ :: linkAll (start + 1) body
termination_by structural c => c

end

/-- The linked program of a row of blocks. -/
def link (blocks : List Block) : Linked :=
  linkAll 0 blocks

mutual

/-- A block has as many operations as its size says. -/
lemma Block.length_link (start : Nat) (b : Block) : (b.link start).length = b.size := by
  cases b with
  | act a line => simp [Block.link, Block.size]
  | comment s line => simp [Block.link, Block.size]
  | ifElse condition line body rest =>
    have hbody := length_linkAll (start + 1) body
    have hrest := Chain.length_link (start + 1 + sizeAll body)
      (start + 1 + sizeAll body + rest.size) rest
    simp only [Block.link, Block.size, List.length_cons, List.length_append, hbody, hrest]
    omega
  | forEach subject key value line body closeLine =>
    have hbody := length_linkAll (start + 1) body
    simp only [Block.link, Block.size, List.length_cons, List.length_append, hbody,
      List.length_nil]
    omega
  | forLoop first condition step line body closeLine =>
    have hbody := length_linkAll (start + (runOps first line).length + 1) body
    simp only [Block.link, Block.size, List.length_cons, List.length_append, hbody,
      List.length_nil]
    omega
  | whileLoop condition line body closeLine =>
    have hbody := length_linkAll (start + 1) body
    simp only [Block.link, Block.size, List.length_cons, List.length_append, hbody,
      List.length_nil]
    omega

lemma length_linkAll (start : Nat) (bs : List Block) :
    (linkAll start bs).length = sizeAll bs := by
  cases bs with
  | nil => simp [linkAll, sizeAll]
  | cons b rest =>
    simp [linkAll, sizeAll, Block.length_link start b, length_linkAll (start + b.size) rest]

lemma Chain.length_link (start exit : Nat) (c : Chain) : (c.link start exit).length = c.size := by
  cases c with
  | close line => simp [Chain.link, Chain.size]
  | elseIf condition line body rest =>
    have hbody := length_linkAll (start + 2) body
    have hrest := Chain.length_link (start + 2 + sizeAll body) exit rest
    simp only [Chain.link, Chain.size, List.length_cons, List.length_append, hbody, hrest]
    omega
  | otherwise line body closeLine =>
    have hbody := length_linkAll (start + 1) body
    simp only [Chain.link, Chain.size, List.length_cons, hbody]
    omega

end

end ViewTemplate.Program
