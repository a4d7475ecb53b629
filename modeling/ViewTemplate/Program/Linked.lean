import ViewTemplate.Program.BlockError

/-!
# Linked programs

A linked program is a flat row of operations; blocks have become jumps to positions in the row.
`assemble` writes the row in one pass over the instructions.  Where a jump leads is often not known
when it is written.  Such a jump gets the target 0, its position is kept with the open block it
belongs to, and `patch` fills in the target when the block goes on or ends.  Comments and empty
texts leave no operation.
-/

namespace ViewTemplate.Program

open ViewTemplate.Script (Expr Stmt)

/-- An operation of a linked program. -/
inductive Op where
  | act (a : Action)
  /-- Go to a position if a condition does not hold. -/
  | jumpUnless (condition : Expr) (target : Nat)
  | jump (target : Nat)
  /-- Begin a loop over the items of a subject, or go to `exit` if it has none. -/
  | loopStart (subject : Expr) (key : Option String) (value : String) (exit : Nat)
  /-- Take the next item and go to `body`, or go on behind the loop. -/
  | loopNext (body : Nat)

/-- A linked program: operations with the lines they came from. -/
abbrev Linked := List (Lined Op)

/-- Whether an action leaves no operation. -/
def Action.isIdle : Action → Bool
  | .text s => s.isEmpty
  | _ => false

/-- The operation of an action, if it leaves one. -/
def actOps (a : Action) (line : Nat) : Linked :=
  if a.isIdle then [] else [⟨.act a, line⟩]

/-- The operation of statements, if there are any. -/
def runOps (statements : List Stmt) (line : Nat) : Linked :=
  if statements.isEmpty then [] else [⟨.act (.run statements), line⟩]

/-- The condition of a loop that may have none. -/
def conditionOrTrue (condition : Option Expr) : Expr :=
  condition.getD (.literal (.bool true))

/-! ## Filling in targets -/

/-- An operation with another target, if it has one that can be filled in. -/
def Op.retarget (target : Nat) : Op → Op
  | .jumpUnless condition _ => .jumpUnless condition target
  | .jump _ => .jump target
  | .loopStart subject key value _ => .loopStart subject key value target
  | op => op

/-- Fill in the target of the operation at a position.  A position behind the last operation is
passed over. -/
def patch (ops : Array (Lined Op)) (position target : Nat) : Array (Lined Op) :=
  match ops[position]? with
  | some op => ops.setIfInBounds position { op with item := op.item.retarget target }
  | none => ops

/-- Fill in one target at several positions. -/
def patchAll (ops : Array (Lined Op)) (positions : List Nat) (target : Nat) : Array (Lined Op) :=
  positions.foldl (fun ops position => patch ops position target) ops

/-! ## Open blocks -/

/-- A conditional block that is open. -/
structure Arms where
  /-- The jump of the last condition, which does not know yet where it leads. -/
  pending : Option Nat
  /-- The jumps behind the bodies that are complete.  All of them lead behind the block. -/
  exits : List Nat
  hasElse : Bool
  line : Nat

/-- An open block, with the positions of its jumps that are not complete. -/
inductive OpenBlock where
  | ifElse (arms : Arms)
  | forEach (start line : Nat)
  | forLoop (top check : Nat) (step : List Stmt) (line : Nat)
  | whileLoop (top check line : Nat)

def OpenBlock.kind : OpenBlock → BlockKind
  | ifElse _ => .ifElse
  | forEach _ _ => .forEach
  | forLoop _ _ _ _ => .forLoop
  | whileLoop _ _ _ => .whileLoop

def OpenBlock.line : OpenBlock → Nat
  | ifElse arms => arms.line
  | forEach _ line => line
  | forLoop _ _ _ line => line
  | whileLoop _ _ line => line

/-- The innermost open block, which must be conditional and without an `else`, and those around
it. -/
def openIf (found : String) (line : Nat) :
    List OpenBlock → Except BlockError (Arms × List OpenBlock)
  | [] => .error (.unbalanced found line (.notOpen .ifElse))
  | .ifElse arms :: outer =>
    if arms.hasElse then .error (.unbalanced found line .followsElse) else .ok (arms, outer)
  | other :: _ => .error (.unbalanced found line (.inside other.kind other.line))

/-- The innermost open block, which must be of a kind, and those around it. -/
def openOf (found : String) (line : Nat) (kind : BlockKind) :
    List OpenBlock → Except BlockError (OpenBlock × List OpenBlock)
  | [] => .error (.unbalanced found line (.notOpen kind))
  | block :: outer =>
    if block.kind = kind then .ok (block, outer)
    else .error (.unbalanced found line (.stillOpen block.kind block.line))

/-- Leave the body of an arm by a jump.  The condition of the arm leads behind this jump. -/
def Arms.leave (arms : Arms) (line : Nat) (ops : Array (Lined Op)) : Array (Lined Op) :=
  let ops := ops.push ⟨.jump 0, line⟩
  patchAll ops arms.pending.toList ops.size

/-- End a block: jump back from the end of a loop, and fill in what leads behind the block. -/
def OpenBlock.finish (line : Nat) (ops : Array (Lined Op)) : OpenBlock → Array (Lined Op)
  | ifElse arms => patchAll ops (arms.pending.toList ++ arms.exits) ops.size
  | forEach start _ =>
    let ops := ops.push ⟨.loopNext (start + 1), line⟩
    patch ops start ops.size
  | forLoop top check step _ =>
    let ops := (ops ++ runOps step line).push ⟨.jump top, line⟩
    patch ops check ops.size
  | whileLoop top check _ =>
    let ops := ops.push ⟨.jump top, line⟩
    patch ops check ops.size

/-! ## Assembling -/

/-- What has been assembled so far: the operations and the open blocks, the innermost first. -/
structure Assembly where
  ops : Array (Lined Op) := #[]
  blocks : List OpenBlock := []

namespace Assembly

/-- Go on with an instruction. -/
def step (a : Assembly) (i : Lined Instruction) : Except BlockError Assembly :=
  let line := i.line
  match i.item with
  | .act action => .ok { a with ops := a.ops ++ actOps action line }
  | .comment _ => .ok a
  | .ifStart condition =>
    .ok ⟨a.ops.push ⟨.jumpUnless condition 0, line⟩,
      .ifElse ⟨some a.ops.size, [], false, line⟩ :: a.blocks⟩
  | .elseIf condition =>
    match openIf i.item.name line a.blocks with
    | .error e => .error e
    | .ok (arms, outer) =>
      let ops := arms.leave line a.ops
      .ok ⟨ops.push ⟨.jumpUnless condition 0, line⟩,
        .ifElse { arms with pending := some ops.size, exits := arms.exits ++ [a.ops.size] } ::
          outer⟩
  | .otherwise =>
    match openIf i.item.name line a.blocks with
    | .error e => .error e
    | .ok (arms, outer) =>
      .ok ⟨arms.leave line a.ops,
        .ifElse ⟨none, arms.exits ++ [a.ops.size], true, arms.line⟩ :: outer⟩
  | .forEach subject key value =>
    .ok ⟨a.ops.push ⟨.loopStart subject key value 0, line⟩,
      .forEach a.ops.size line :: a.blocks⟩
  | .forLoop start condition step =>
    let ops := a.ops ++ runOps start line
    .ok ⟨ops.push ⟨.jumpUnless (conditionOrTrue condition) 0, line⟩,
      .forLoop ops.size ops.size step line :: a.blocks⟩
  | .whileLoop condition =>
    .ok ⟨a.ops.push ⟨.jumpUnless condition 0, line⟩,
      .whileLoop a.ops.size a.ops.size line :: a.blocks⟩
  | .close kind =>
    match openOf i.item.name line kind a.blocks with
    | .error e => .error e
    | .ok (block, outer) => .ok ⟨block.finish line a.ops, outer⟩

/-- The program, if no block is open any more. -/
def program (a : Assembly) : Except BlockError Linked :=
  match a.blocks with
  | [] => .ok a.ops.toList
  | innermost :: _ => .error (.unclosed innermost.kind innermost.line)

end Assembly

/-- Link the blocks of a row of instructions into jumps. -/
def assemble (instructions : List (Lined Instruction)) : Except BlockError Linked := do
  let assembled ← instructions.foldlM Assembly.step {}
  assembled.program

end ViewTemplate.Program
