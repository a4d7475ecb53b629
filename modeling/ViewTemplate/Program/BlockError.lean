import ViewTemplate.Decimal.Layout
import ViewTemplate.Program.Instruction

/-!
# Blocks that do not nest

The instructions of a program open, divide and close blocks.  Which instruction is wrong is decided
by the innermost open block alone.
-/

namespace ViewTemplate.Program

open ViewTemplate.Decimal (natText)

/-- Why an instruction does not fit where it stands. -/
inductive BlockFault where
  /-- A second `else`, or an `elseif` behind the `else`. -/
  | followsElse
  /-- A part of a conditional block inside of another block. -/
  | inside (kind : BlockKind) (line : Nat)
  | notOpen (kind : BlockKind)
  /-- The end of one block inside of another block. -/
  | stillOpen (kind : BlockKind) (line : Nat)
  deriving Repr, DecidableEq

def BlockFault.message : BlockFault → String
  | followsElse => "follows 'else'"
  | inside kind line => "inside '" ++ kind.name ++ "' opened on line " ++ natText line
  | notOpen kind => "no open '" ++ kind.name ++ "'"
  | stillOpen kind line =>
    "'" ++ kind.name ++ "' opened on line " ++ natText line ++ " is still open"

/-- Why a row of instructions does not nest. -/
inductive BlockError where
  | unbalanced (found : String) (line : Nat) (fault : BlockFault)
  | unclosed (kind : BlockKind) (line : Nat)
  deriving Repr, DecidableEq

def BlockError.message : BlockError → String
  | unbalanced found line fault =>
    "'" ++ found ++ "' on line " ++ natText line ++ ": " ++ fault.message
  | unclosed kind line =>
    "'" ++ kind.name ++ "' opened on line " ++ natText line ++ " is never closed"

end ViewTemplate.Program
