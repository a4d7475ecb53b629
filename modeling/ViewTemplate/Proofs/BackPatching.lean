import Mathlib.Tactic.Common
import ViewTemplate.Proofs.BlockNesting

/-!
# Patched programs are linked blocks

`assemble` writes a jump before it knows where the jump leads and fills in the target later; `link`
knows the sizes of the blocks and writes every target at once.  The result here is that the two give
the same program, and that a row of instructions without a program is refused with the same error
as by the reader of blocks (`assemble_eq_map_link`).

For rows that nest the proof goes along the blocks.  The instructions of a block leave the
operations in front of the block as they are and put the linked block behind them
(`foldlM_flatten`).  There is one piece that fills in targets in front of itself, the rest of a
conditional block behind its first body: it says where the condition before it leads and where the
jumps behind the bodies before it lead, and `foldlM_chain` says which targets these are.

For rows that do not nest the operations do not matter at all.  What decides is the shape of the
open blocks, their kinds, their lines and whether there has been an `else`, and both readers have
open blocks of the same shapes.
-/

namespace ViewTemplate.Program

open ViewTemplate.Script (Expr Stmt)

/-! ## Patches -/

/-- A program with the target of the operation at a position filled in. -/
def Linked.patched (code : Linked) (position target : Nat) : Linked :=
  code.modify position fun op => { op with item := op.item.retarget target }

/-- A program with one target filled in at several positions. -/
def Linked.patchedAll (code : Linked) (positions : List Nat) (target : Nat) : Linked :=
  positions.foldl (fun code position => code.patched position target) code

lemma patch_toArray (code : Linked) (position target : Nat) :
    patch code.toArray position target = (code.patched position target).toArray := by
  unfold patch Linked.patched
  rw [List.getElem?_toArray]
  split
  · rename_i op hop
    rw [List.setIfInBounds_toArray]
    congr 1
    apply List.ext_getElem?
    intro i
    rw [List.getElem?_modify, List.getElem?_set]
    by_cases hi : position = i
    · subst hi
      obtain ⟨hlt, rfl⟩ := List.getElem?_eq_some_iff.1 hop
      simp [hlt]
    · simp [hi]
  · rename_i hnone
    rw [List.modify_eq_self]
    exact List.getElem?_eq_none_iff.1 hnone

lemma patchAll_toArray (code : Linked) (positions : List Nat) (target : Nat) :
    patchAll code.toArray positions target = (code.patchedAll positions target).toArray := by
  unfold patchAll Linked.patchedAll
  induction positions generalizing code with
  | nil => rfl
  | cons position positions ih => rw [List.foldl_cons, patch_toArray, ih, List.foldl_cons]

namespace Linked

variable {front back : Linked} {position target : Nat} {positions : List Nat}

@[simp] lemma length_patched : (front.patched position target).length = front.length :=
  List.length_modify _ _ _

@[simp] lemma length_patchedAll : (front.patchedAll positions target).length = front.length := by
  unfold patchedAll
  induction positions generalizing front with
  | nil => rfl
  | cons position positions ih => rw [List.foldl_cons, ih, length_patched]

lemma patched_append (h : position < front.length) :
    patched (front ++ back) position target = front.patched position target ++ back := by
  induction front generalizing position with
  | nil => simp at h
  | cons op front ih =>
    cases position with
    | zero => rfl
    | succ position => simpa [patched] using ih (by simpa using h)

lemma patchedAll_append (h : ∀ position ∈ positions, position < front.length) :
    patchedAll (front ++ back) positions target = front.patchedAll positions target ++ back := by
  unfold patchedAll
  induction positions generalizing front with
  | nil => rfl
  | cons position positions ih =>
    rw [List.foldl_cons, patched_append (h position (by simp)), ih, List.foldl_cons]
    intro later hlater
    rw [length_patched]
    exact h later (by simp [hlater])

/-- A patch behind the front of a program is one of the operation that comes next. -/
lemma patched_next (op : Lined Op) (h : position = front.length) :
    patched (front ++ op :: back) position target =
      front ++ { op with item := op.item.retarget target } :: back := by
  subst h
  induction front with
  | nil => rfl
  | cons first front ih => simpa [patched] using ih

lemma patched_second (first second : Lined Op) (h : position = front.length + 1) :
    patched (front ++ first :: second :: back) position target =
      front ++ first :: { second with item := second.item.retarget target } :: back := by
  rw [← List.singleton_append, ← List.append_assoc, patched_next second (by simp [h]),
    List.append_assoc, List.singleton_append]

/-- The exits of a conditional block are patched in the operations in front of the last exit, and
the last exit is the operation that comes next. -/
lemma patchedAll_exits {last : Nat} (h : ∀ position ∈ positions, position < front.length)
    (hlast : last = front.length) (line : Nat) :
    patchedAll (front ++ ⟨.jump 0, line⟩ :: back) (positions ++ [last]) target =
      front.patchedAll positions target ++ ⟨.jump target, line⟩ :: back := by
  have hall : patchedAll (front ++ ⟨.jump 0, line⟩ :: back) positions target =
      front.patchedAll positions target ++ ⟨.jump 0, line⟩ :: back := patchedAll_append h
  have hnext : patched (front.patchedAll positions target ++ ⟨.jump 0, line⟩ :: back)
      last target = front.patchedAll positions target ++ ⟨.jump target, line⟩ :: back :=
    patched_next _ (by rw [hlast, length_patchedAll])
  unfold patchedAll at hall hnext ⊢
  rw [List.foldl_append, hall, List.foldl_cons, List.foldl_nil, hnext]

end Linked

/-! ## The instructions of blocks -/

namespace Assembly

lemma foldlM_append {a b : Assembly} {front back : List (Lined Instruction)}
    (h : front.foldlM step a = .ok b) :
    (front ++ back).foldlM step a = back.foldlM step b := by
  rw [List.foldlM_append, h]
  rfl

lemma foldlM_cons {a b : Assembly} {i : Lined Instruction} {rest : List (Lined Instruction)}
    (h : step a i = .ok b) : (i :: rest).foldlM step a = rest.foldlM step b := by
  rw [List.foldlM_cons, h]
  rfl

lemma foldlM_singleton (a : Assembly) (i : Lined Instruction) :
    [i].foldlM step a = step a i := by
  cases h : step a i <;> simp [List.foldlM, h]

lemma step_close (ops : Array (Lined Op)) (block : OpenBlock) (blocks : List OpenBlock)
    (line : Nat) :
    step ⟨ops, block :: blocks⟩ ⟨.close block.kind, line⟩ =
      .ok ⟨block.finish line ops, blocks⟩ := by
  simp [step, openOf]

/-- The body before an `elseif` or `else` is left by a jump, and its condition leads behind it. -/
lemma leave_toArray {code : Linked} {pending : Nat} (h : pending < code.length)
    (exits : List Nat) (line leaveLine : Nat) :
    Arms.leave ⟨some pending, exits, false, line⟩ leaveLine code.toArray =
      (code.patched pending (code.length + 1) ++ ([⟨.jump 0, leaveLine⟩] : Linked)).toArray := by
  rw [Arms.leave, List.push_toArray, patchAll_toArray]
  simp [Linked.patchedAll, Linked.patched_append h]

/-- A loop.  Its head is written in front of the body without a target, and the target is filled in
when the end of the loop has been written behind the body. -/
lemma foldlM_loop (code tail : Linked) (head : Lined Op) (block : OpenBlock)
    (blocks : List OpenBlock) (closeLine : Nat) {body : List Block}
    (hbody : (flattenAll body).foldlM step ⟨(code ++ [head]).toArray, block :: blocks⟩ =
      .ok ⟨(code ++ [head] ++ linkAll (code ++ [head]).length body).toArray, block :: blocks⟩)
    (hfinish : ∀ inner : Linked, block.finish closeLine (code ++ head :: inner).toArray =
      patch (code ++ head :: (inner ++ tail)).toArray code.length
        (code ++ head :: (inner ++ tail)).length) :
    (flattenAll body ++ [(⟨.close block.kind, closeLine⟩ : Lined Instruction)]).foldlM step
        ⟨(code ++ [head]).toArray, block :: blocks⟩ =
      .ok ⟨(code ++ { head with
          item := head.item.retarget (code.length + 1 + sizeAll body + tail.length) } ::
        (linkAll (code.length + 1) body ++ tail)).toArray, blocks⟩ := by
  have hinner : code ++ [head] ++ linkAll (code ++ [head]).length body =
      code ++ head :: linkAll (code.length + 1) body := by simp
  have hsize : (code ++ head :: (linkAll (code.length + 1) body ++ tail)).length =
      code.length + 1 + sizeAll body + tail.length := by
    simp only [List.length_append, List.length_cons, length_linkAll]
    omega
  rw [foldlM_append hbody, foldlM_singleton, step_close, hinner, hfinish, hsize, patch_toArray,
    Linked.patched_next _ rfl]

mutual

/-- The instructions of a block put the linked block behind the operations that are there. -/
lemma foldlM_flatten (b : Block) (code : Linked) (blocks : List OpenBlock) :
    b.flatten.foldlM step ⟨code.toArray, blocks⟩ =
      .ok ⟨(code ++ b.link code.length).toArray, blocks⟩ := by
  cases b with
  | act a line => simp [Block.flatten, step, Block.link]
  | comment s line => simp [Block.flatten, step, Block.link]
  | ifElse condition line body rest =>
    rw [Block.flatten, foldlM_cons rfl]
    simp only [List.push_toArray, List.size_toArray]
    rw [foldlM_append (foldlM_flattenAll body _ _), foldlM_chain rest _ _ (by simp) (by simp)]
    have hnext : code.length + (sizeAll body + 1) = code.length + 1 + sizeAll body := by omega
    simp [Linked.patchedAll, Linked.patched_next, Op.retarget, Block.link, length_linkAll, hnext]
  | forEach subject key value line body closeLine =>
    rw [Block.flatten, foldlM_cons rfl]
    simp only [List.push_toArray, List.size_toArray]
    have hloop := foldlM_loop code [⟨.loopNext (code.length + 1), closeLine⟩]
      ⟨.loopStart subject key value 0, line⟩ (.forEach code.length line) blocks closeLine
      (foldlM_flattenAll body _ _) (by simp [OpenBlock.finish])
    rw [OpenBlock.kind] at hloop
    rw [hloop]
    simp [Op.retarget, Block.link]
    omega
  | forLoop start condition step line body closeLine =>
    rw [Block.flatten, foldlM_cons rfl]
    have hstart : code.toArray ++ runOps start line = (code ++ runOps start line).toArray := by simp
    simp only [hstart, List.push_toArray, List.size_toArray]
    have hloop := foldlM_loop (code ++ runOps start line)
      (runOps step closeLine ++ [⟨.jump (code ++ runOps start line).length, closeLine⟩])
      ⟨.jumpUnless (conditionOrTrue condition) 0, line⟩
      (.forLoop (code ++ runOps start line).length (code ++ runOps start line).length step line)
      blocks closeLine (foldlM_flattenAll body _ _) (by simp [OpenBlock.finish])
    rw [OpenBlock.kind] at hloop
    rw [hloop]
    simp [Op.retarget, Block.link]
    omega
  | whileLoop condition line body closeLine =>
    rw [Block.flatten, foldlM_cons rfl]
    simp only [List.push_toArray, List.size_toArray]
    have hloop := foldlM_loop code [⟨.jump code.length, closeLine⟩]
      ⟨.jumpUnless condition 0, line⟩ (.whileLoop code.length code.length line) blocks closeLine
      (foldlM_flattenAll body _ _) (by simp [OpenBlock.finish])
    rw [OpenBlock.kind] at hloop
    rw [hloop]
    simp [Op.retarget, Block.link]
    omega
termination_by structural b

lemma foldlM_flattenAll (bs : List Block) (code : Linked) (blocks : List OpenBlock) :
    (flattenAll bs).foldlM step ⟨code.toArray, blocks⟩ =
      .ok ⟨(code ++ linkAll code.length bs).toArray, blocks⟩ := by
  cases bs with
  | nil => simp [flattenAll, linkAll]; rfl
  | cons b more =>
    rw [flattenAll, foldlM_append (foldlM_flatten b code blocks), foldlM_flattenAll more, linkAll,
      List.length_append, Block.length_link, List.append_assoc]
termination_by structural bs

/-- The instructions behind the first body of a conditional block put the linked rest of the block
behind the operations.  In these they fill in where the condition before them leads, and where the
bodies before them are left for. -/
lemma foldlM_chain (c : Chain) (code : Linked) (blocks : List OpenBlock) {pending : Nat}
    {exits : List Nat} {line : Nat} (hpending : pending < code.length)
    (hexits : ∀ exit ∈ exits, exit < code.length) :
    c.flatten.foldlM step ⟨code.toArray, .ifElse ⟨some pending, exits, false, line⟩ :: blocks⟩ =
      .ok ⟨((code.patched pending (c.entry code.length)).patchedAll exits
          (code.length + c.size) ++ c.link code.length (code.length + c.size)).toArray,
          blocks⟩ := by
  cases c with
  | close closeLine =>
    rw [Chain.flatten, foldlM_singleton]
    simp [step, openOf, OpenBlock.kind, OpenBlock.finish, Chain.link, Chain.entry, Chain.size,
      patchAll_toArray, Linked.patchedAll]
  | elseIf condition armLine body more =>
    have hfirst : step ⟨code.toArray, .ifElse ⟨some pending, exits, false, line⟩ :: blocks⟩
        ⟨.elseIf condition, armLine⟩ =
          .ok ⟨(code.patched pending (code.length + 1) ++ ([⟨.jump 0, armLine⟩,
            ⟨.jumpUnless condition 0, armLine⟩] : Linked)).toArray,
            .ifElse ⟨some (code.length + 1), exits ++ [code.length], false, line⟩ :: blocks⟩ := by
      simp [step, openIf, leave_toArray hpending]
    have hnext : code.length + (sizeAll body + 1 + 1) = code.length + 2 + sizeAll body := by omega
    have hexit : code.length + (Chain.elseIf condition armLine body more).size =
        code.length + 2 + sizeAll body + more.size := by
      rw [Chain.size]; omega
    rw [Chain.flatten, foldlM_cons hfirst, foldlM_append (foldlM_flattenAll body _ _),
      foldlM_chain more _ _ (by simp) (by simp; grind), hexit]
    simp only [List.append_assoc, List.cons_append, List.nil_append, List.length_append,
      List.length_cons, List.length_nil, Linked.length_patched, length_linkAll, Nat.zero_add, hnext]
    rw [Linked.patched_second _ _ (by simp),
      Linked.patchedAll_exits (by simpa using hexits) (by simp)]
    simp [Chain.link, Chain.entry, Op.retarget]
  | otherwise elseLine body closeLine =>
    have hfirst : step ⟨code.toArray, .ifElse ⟨some pending, exits, false, line⟩ :: blocks⟩
        ⟨.otherwise, elseLine⟩ =
          .ok ⟨(code.patched pending (code.length + 1) ++ ([⟨.jump 0, elseLine⟩] : Linked)).toArray,
            .ifElse ⟨none, exits ++ [code.length], true, line⟩ :: blocks⟩ := by
      simp [step, openIf, leave_toArray hpending]
    have hexit : code.length + (Chain.otherwise elseLine body closeLine).size =
        code.length + (sizeAll body + 1) := by
      rw [Chain.size, Nat.add_comm 1]
    rw [Chain.flatten, foldlM_cons hfirst, foldlM_append (foldlM_flattenAll body _ _),
      foldlM_singleton, hexit]
    simp [step, openOf, OpenBlock.kind, OpenBlock.finish, patchAll_toArray, length_linkAll]
    rw [Linked.patchedAll_exits (by simpa using hexits) (by simp)]
    simp [Chain.entry, Chain.link]
termination_by structural c

end

end Assembly

/-! ## Instructions that do not nest -/

/-- What of an open block decides which instructions may follow. -/
structure Shape where
  kind : BlockKind
  line : Nat
  hasElse : Bool

/-- Whether an open block has an `else`. -/
def OpenBlock.hasElse : OpenBlock → Bool
  | .ifElse arms => arms.hasElse
  | _ => false

def OpenBlock.shape (block : OpenBlock) : Shape :=
  ⟨block.kind, block.line, block.hasElse⟩

/-- Whether the block of a header has an `else`. -/
def Header.hasElse : Header → Bool
  | .otherwise _ _ _ => true
  | _ => false

def OpenTree.shape (opened : OpenTree) : Shape :=
  ⟨opened.header.kind, opened.header.line, opened.header.hasElse⟩

lemma shape_eq_iff {block : OpenBlock} {opened : OpenTree} :
    block.shape = opened.shape ↔ block.kind = opened.header.kind ∧
      block.line = opened.header.line ∧ block.hasElse = opened.header.hasElse := by
  simp [OpenBlock.shape, OpenTree.shape]

lemma OpenBlock.exists_arms {block : OpenBlock} (h : block.kind = .ifElse) :
    ∃ arms, block = .ifElse arms := by
  cases block with
  | ifElse arms => exact ⟨arms, rfl⟩
  | _ => cases h

lemma openIf_of_kind_ne {block : OpenBlock} (h : block.kind ≠ .ifElse) (found : String)
    (line : Nat) (outer : List OpenBlock) :
    openIf found line (block :: outer) =
      .error (.unbalanced found line (.inside block.kind block.line)) := by
  cases block with
  | ifElse arms => exact absurd rfl h
  | _ => rfl

lemma divide_of_kind_ne {header : Header} (h : header.kind ≠ .ifElse) (found : String)
    (line : Nat) (body outside : List Block) (outer : List OpenTree) :
    divide found line body (⟨header, outside⟩ :: outer) =
      .error (.unbalanced found line (.inside header.kind header.line)) := by
  cases header with
  | arm before condition armLine => exact absurd rfl h
  | otherwise last before elseLine => exact absurd rfl h
  | _ => rfl

section Shapes

variable {blocks : List OpenBlock} {opened : List OpenTree}

/-- A division is refused by both readers, for the same reason, or both find the block that is
divided. -/
lemma openIf_cases (hshapes : blocks.map OpenBlock.shape = opened.map OpenTree.shape)
    (found : String) (line : Nat) (body : List Block) :
    (∃ e, divide found line body opened = .error e ∧ openIf found line blocks = .error e) ∨
    ∃ last before outside outer arms around,
      divide found line body opened = .ok (last, before, outside, outer) ∧
      openIf found line blocks = .ok (arms, around) ∧
      around.map OpenBlock.shape = outer.map OpenTree.shape ∧
      arms.line = Header.firstLine last.line before ∧ arms.hasElse = false := by
  cases opened with
  | nil =>
    obtain rfl : blocks = [] := by simpa using hshapes
    exact .inl ⟨_, rfl, rfl⟩
  | cons innermost outer =>
    obtain ⟨block, around, rfl, hshape, haround⟩ := List.map_eq_cons_iff.1 hshapes
    obtain ⟨header, outside⟩ := innermost
    obtain ⟨hkind, hline, helse⟩ := shape_eq_iff.1 hshape
    by_cases hif : header.kind = .ifElse
    · obtain ⟨arms, rfl⟩ := OpenBlock.exists_arms (hkind.trans hif)
      cases header with
      | arm before condition armLine =>
        have helse : arms.hasElse = false := helse
        exact .inr ⟨_, _, _, _, arms, around, rfl, by simp [openIf, helse], haround, hline, helse⟩
      | otherwise last before elseLine =>
        have helse : arms.hasElse = true := helse
        exact .inl ⟨_, rfl, by simp [openIf, helse]⟩
      | _ => cases hif
    · refine .inl ⟨_, divide_of_kind_ne hif found line body outside outer, ?_⟩
      rw [openIf_of_kind_ne (hkind ▸ hif), hkind, hline]

end Shapes

namespace Assembly

/-- An instruction is refused by both readers, for the same reason, or both go on with open blocks
of the same shapes. -/
lemma step_cases {a : Assembly} {opened : List OpenTree} (done : List Block)
    (hshapes : a.blocks.map OpenBlock.shape = opened.map OpenTree.shape) (i : Lined Instruction) :
    (∃ e, step a i = .error e ∧ ∀ rest, blocksFrom done opened (i :: rest) = .error e) ∨
    ∃ b done' opened', step a i = .ok b ∧
      (∀ rest, blocksFrom done opened (i :: rest) = blocksFrom done' opened' rest) ∧
      b.blocks.map OpenBlock.shape = opened'.map OpenTree.shape := by
  obtain ⟨i, line⟩ := i
  cases i with
  | act action => exact .inr ⟨_, _, _, rfl, fun _ => rfl, hshapes⟩
  | comment s => exact .inr ⟨_, _, _, rfl, fun _ => rfl, hshapes⟩
  | ifStart condition =>
    exact .inr ⟨_, _, _, rfl, fun _ => rfl, congrArg (List.cons _) hshapes⟩
  | forEach subject key value =>
    exact .inr ⟨_, _, _, rfl, fun _ => rfl, congrArg (List.cons _) hshapes⟩
  | forLoop start condition step =>
    exact .inr ⟨_, _, _, rfl, fun _ => rfl, congrArg (List.cons _) hshapes⟩
  | whileLoop condition =>
    exact .inr ⟨_, _, _, rfl, fun _ => rfl, congrArg (List.cons _) hshapes⟩
  | elseIf condition =>
    obtain ⟨e, hdivide, hopen⟩ |
        ⟨last, before, outside, outer, arms, around, hdivide, hopen, haround, hline, helse⟩ :=
      openIf_cases hshapes (Instruction.elseIf condition).name line done.reverse
    · exact .inl ⟨e, by simp only [step, hopen], fun rest => by simp only [blocksFrom, hdivide]⟩
    · refine .inr ⟨_, _, _, by simp only [step, hopen]; rfl,
        fun rest => by simp only [blocksFrom, hdivide]; rfl, ?_⟩
      rw [List.map_cons, haround, List.map_cons]
      congr 1
      exact shape_eq_iff.2 ⟨rfl, hline, helse⟩
  | otherwise =>
    obtain ⟨e, hdivide, hopen⟩ |
        ⟨last, before, outside, outer, arms, around, hdivide, hopen, haround, hline, -⟩ :=
      openIf_cases hshapes Instruction.otherwise.name line done.reverse
    · exact .inl ⟨e, by simp only [step, hopen], fun rest => by simp only [blocksFrom, hdivide]⟩
    · refine .inr ⟨_, _, _, by simp only [step, hopen]; rfl,
        fun rest => by simp only [blocksFrom, hdivide]; rfl, ?_⟩
      rw [List.map_cons, haround, List.map_cons]
      congr 1
      exact shape_eq_iff.2 ⟨rfl, hline, rfl⟩
  | close kind =>
    cases opened with
    | nil =>
      have hblocks : a.blocks = [] := by simpa using hshapes
      exact .inl ⟨_, by simp only [step, hblocks, openOf], fun _ => rfl⟩
    | cons innermost outer =>
      obtain ⟨block, around, hblocks, hshape, haround⟩ := List.map_eq_cons_iff.1 hshapes
      obtain ⟨header, outside⟩ := innermost
      obtain ⟨hkind, hline, -⟩ := shape_eq_iff.1 hshape
      by_cases hheader : header.kind = kind
      · -- the innermost block ends here
        have hblock : block.kind = kind := hkind.trans hheader
        exact .inr ⟨_, _, _, by simp only [step, hblocks, openOf, if_pos hblock]; rfl,
          fun rest => by simp only [blocksFrom, if_pos hheader]; rfl, haround⟩
      · have hblock : block.kind ≠ kind := hkind ▸ hheader
        refine .inl ⟨_, by simp only [step, hblocks, openOf, if_neg hblock]; rfl, fun rest => ?_⟩
        simp only [blocksFrom, if_neg hheader, hkind, hline]

/-- A row that the reader of blocks refuses cannot be assembled, for the same reason. -/
lemma program_eq_error {instructions : List (Lined Instruction)} {a : Assembly} {done : List Block}
    {opened : List OpenTree} {e : BlockError}
    (hshapes : a.blocks.map OpenBlock.shape = opened.map OpenTree.shape)
    (h : blocksFrom done opened instructions = .error e) :
    (instructions.foldlM step a >>= program) = .error e := by
  induction instructions generalizing a done opened with
  | nil =>
    -- at the end of the row the innermost open block is to blame
    cases opened with
    | nil => cases h
    | cons innermost outer =>
      obtain ⟨block, around, hblocks, hshape, -⟩ := List.map_eq_cons_iff.1 hshapes
      obtain ⟨hkind, hline, -⟩ := shape_eq_iff.1 hshape
      have hprogram : program a = .error (.unclosed block.kind block.line) := by
        rw [program, hblocks]
      rw [blocksFrom, ← hkind, ← hline] at h
      rw [← Except.error.inj h]
      exact hprogram
  | cons i rest ih =>
    obtain ⟨fault, hstep, hrefused⟩ | ⟨b, done', opened', hstep, hreads, hshapes'⟩ :=
      step_cases done hshapes i
    · rw [hrefused] at h
      rw [List.foldlM_cons, hstep, ← Except.error.inj h]
      rfl
    · rw [hreads] at h
      rw [foldlM_cons hstep]
      exact ih hshapes' h

end Assembly

/-- To assemble a row of instructions is to find its blocks and to link them. -/
lemma assemble_eq_map_link (instructions : List (Lined Instruction)) :
    assemble instructions = (blocksOf instructions).map link := by
  cases h : blocksOf instructions with
  | error e => exact Assembly.program_eq_error rfl h
  | ok bs =>
    rw [← flattenAll_of_blocksOf h, assemble, Assembly.foldlM_flattenAll bs [] []]
    rfl

/-- Every row of blocks can be assembled, and the program is the linked row. -/
lemma assemble_flattenAll (bs : List Block) : assemble (flattenAll bs) = .ok (link bs) := by
  rw [assemble_eq_map_link, blocksOf_flattenAll]
  rfl

lemma assemble_eq_ok {instructions : List (Lined Instruction)} {program : Linked}
    (h : assemble instructions = .ok program) :
    ∃ bs, flattenAll bs = instructions ∧ program = link bs := by
  rw [assemble_eq_map_link] at h
  cases hblocks : blocksOf instructions with
  | error e => simp [hblocks, Except.map] at h
  | ok bs =>
    rw [hblocks] at h
    exact ⟨bs, flattenAll_of_blocksOf hblocks, (Except.ok.inj h).symm⟩

end ViewTemplate.Program
