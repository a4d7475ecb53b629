import Mathlib.Tactic.Common
import ViewTemplate.Proofs.CallSites
import ViewTemplate.Proofs.InheritedVars
import ViewTemplate.Proofs.OperationLines

/-!
# Calls that are left alone are known

Two parts of an engine decide what a plain name is.  The scanner leaves a bare call alone if its
name is one of the language or of the host, and the evaluator looks a name up among the functions of
the language first and then among those of the host.  Between them the text is marked, cut into
clauses, read, nested into blocks and linked.

The code of a program is followed back through all of this: an operation has the code of one
instruction (`Covers`), an instruction that of one script of the template, and a call in it is
written in that script after marking (`Code.ReadIn`).  So it is a call that marking has left alone,
or one that it has written.
-/

namespace ViewTemplate.Program

open ViewTemplate.Script (CalledIn Callee Expr StandsIn Stmt JunkFree parseExpression
  parseStatements pieces tokensAmong)

/-! ## The code of a program -/

/-- A piece of code that an operation evaluates or runs. -/
inductive Code where
  | expr (e : Expr)
  | stmt (s : Stmt)

/-- The functions that a piece of code calls. -/
def Code.callees : Code → List Callee
  | .expr e => e.callees
  | .stmt s => s.callees

/-- Every place that a piece of code changes is one. -/
def Code.HasPlace : Code → Prop
  | .expr _ => True
  | .stmt s => s.HasPlace

def Action.codes : Action → List Code
  | .text _ | .endPart | .parent => []
  | .echo e _ | .inherit e | .startPart e => [.expr e]
  | .run statements => statements.map .stmt
  | .embed name vars => .expr name :: vars.toList.map .expr
  | .showPart name => name.toList.map .expr

/-- The code of an instruction.  A condition that is left out counts as one that holds. -/
def Instruction.codes : Instruction → List Code
  | .act a => a.codes
  | .ifStart condition | .elseIf condition | .whileLoop condition => [.expr condition]
  | .forEach subject _ _ => [.expr subject]
  | .forLoop start condition step =>
    start.map .stmt ++ .expr (conditionOrTrue condition) :: step.map .stmt
  | .comment _ | .otherwise | .close _ => []

def Op.codes : Op → List Code
  | .act a => a.codes
  | .jumpUnless condition _ => [.expr condition]
  | .loopStart subject _ _ _ => [.expr subject]
  | .jump _ | .loopNext _ => []

def Op.callees (op : Op) : List Callee :=
  op.codes.flatMap Code.callees

/-! ## Linking adds no code -/

/-- The code of every operation is code of one of the instructions. -/
def Covers (instructions : List (Lined Instruction)) (ops : Linked) : Prop :=
  ∀ op ∈ ops, ∃ i ∈ instructions, op.item.codes ⊆ i.item.codes

namespace Covers

variable {front back : List (Lined Instruction)} {ops more : Linked} {i : Lined Instruction}

lemma nil : Covers front [] :=
  fun _ hop => nomatch hop

lemma single (h : ∀ op ∈ ops, op.item.codes ⊆ i.item.codes) : Covers [i] ops :=
  fun op hop => ⟨i, List.mem_singleton_self i, h op hop⟩

lemma one {op : Lined Op} (h : op.item.codes ⊆ i.item.codes) : Covers [i] [op] :=
  single fun _ hop => List.mem_singleton.1 hop ▸ h

lemma idle {op : Lined Op} (h : op.item.codes = []) : Covers (i :: front) [op] := by
  intro other hother
  rw [List.mem_singleton.1 hother, h]
  exact ⟨i, List.mem_cons_self, List.nil_subset _⟩

lemma mono (h : Covers front ops) (hsub : front ⊆ back) : Covers back ops := by
  intro op hop
  obtain ⟨i, hi, hcodes⟩ := h op hop
  exact ⟨i, hsub hi, hcodes⟩

lemma append (h : Covers front ops) (hmore : Covers back more) :
    Covers (front ++ back) (ops ++ more) := by
  intro op hop
  obtain hop | hop := List.mem_append.1 hop
  · exact h.mono (List.subset_append_left _ _) op hop
  · exact hmore.mono (List.subset_append_right _ _) op hop

/-- A block with its body.  What ends the block may have code of its front. -/
lemma around {body rest : List (Lined Instruction)} {first last : Linked}
    (hfirst : Covers [i] first) (hbody : Covers body ops) (hlast : Covers (i :: rest) last) :
    Covers (i :: (body ++ rest)) (first ++ (ops ++ last)) := by
  intro op hop
  obtain hop | hop := List.mem_append.1 hop
  · exact hfirst.mono (by simp) op hop
  obtain hop | hop := List.mem_append.1 hop
  · exact hbody.mono (by simp) op hop
  · refine hlast.mono ?_ op hop
    exact List.cons_subset_cons i (List.subset_append_right body rest)

end Covers

lemma codes_of_mem_actOps {a : Action} {line : Nat} {op : Lined Op} (h : op ∈ actOps a line) :
    op.item.codes = a.codes := by
  unfold actOps at h
  split at h
  · cases h
  · rw [List.mem_singleton.1 h]
    rfl

lemma codes_of_mem_runOps {statements : List Stmt} {line : Nat} {op : Lined Op}
    (h : op ∈ runOps statements line) : op.item.codes = statements.map .stmt := by
  unfold runOps at h
  split at h
  · cases h
  · rw [List.mem_singleton.1 h]
    rfl

mutual

lemma covers_link (start : Nat) (b : Block) : Covers b.flatten (b.link start) := by
  cases b with
  | act a line =>
    refine .single fun op hop => ?_
    rw [codes_of_mem_actOps hop]
    exact List.Subset.refl _
  | comment s line => exact .nil
  | ifElse condition line body rest =>
    exact .around (.one (by simp [Op.codes, Instruction.codes])) (covers_linkAll _ body)
      ((covers_chain _ _ rest).mono (List.subset_cons_self _ _))
  | forEach subject key value line body closeLine =>
    exact .around (.one (by simp [Op.codes, Instruction.codes])) (covers_linkAll _ body) (.idle rfl)
  | forLoop first condition step line body closeLine =>
    -- The step comes behind the body, but its code is that of the front.
    have hloop (top exit : Nat) : Covers
        (⟨.forLoop first condition step, line⟩ ::
          (flattenAll body ++ [⟨.close .forLoop, closeLine⟩]))
        ((runOps first line ++ [⟨.jumpUnless (conditionOrTrue condition) exit, line⟩]) ++
          (linkAll (top + 1) body ++ (runOps step closeLine ++ [⟨.jump top, closeLine⟩]))) := by
      refine .around (.single fun op hop => ?_) (covers_linkAll _ body) fun op hop =>
        ⟨_, List.mem_cons_self, ?_⟩
      · obtain hop | hop := List.mem_append.1 hop
        · rw [codes_of_mem_runOps hop]
          exact List.subset_append_left _ _
        · rw [List.mem_singleton.1 hop]
          simp [Op.codes, Instruction.codes]
      · obtain hop | hop := List.mem_append.1 hop
        · rw [codes_of_mem_runOps hop]
          exact List.subset_append_of_subset_right _ (List.subset_cons_self _ _)
        · rw [List.mem_singleton.1 hop]
          exact List.nil_subset _
    simp only [List.append_assoc, List.singleton_append] at hloop
    simp only [Block.flatten, Block.link, List.append_assoc]
    exact hloop _ _
  | whileLoop condition line body closeLine =>
    exact .around (.one (by simp [Op.codes, Instruction.codes])) (covers_linkAll _ body) (.idle rfl)

lemma covers_linkAll (start : Nat) (bs : List Block) :
    Covers (flattenAll bs) (linkAll start bs) := by
  cases bs with
  | nil => exact .nil
  | cons b rest => exact (covers_link start b).append (covers_linkAll _ rest)

lemma covers_chain (start exit : Nat) (c : Chain) : Covers c.flatten (c.link start exit) := by
  cases c with
  | close line => exact .nil
  | elseIf condition line body rest =>
    have hfront (target : Nat) : Covers [⟨.elseIf condition, line⟩]
        [⟨.jump exit, line⟩, ⟨.jumpUnless condition target, line⟩] :=
      .single (by simp [Op.codes, Instruction.codes])
    exact (hfront _).around (covers_linkAll _ body)
      ((covers_chain _ _ rest).mono (List.subset_cons_self _ _))
  | otherwise line body closeLine =>
    have hfront : Covers [⟨.otherwise, line⟩] [⟨.jump exit, line⟩] := .idle rfl
    have hend : Covers [⟨.otherwise, line⟩, ⟨.close .ifElse, closeLine⟩] [] := .nil
    have hblock := hfront.around (covers_linkAll (start + 1) body) hend
    rwa [List.append_nil] at hblock

end

/-- A program has the code of its instructions. -/
lemma covers_of_assemble {instructions : List (Lined Instruction)} {program : Linked}
    (h : assemble instructions = .ok program) : Covers instructions program := by
  obtain ⟨bs, rfl, rfl⟩ := assemble_eq_ok h
  exact covers_linkAll 0 bs

/-! ## Code that has been read -/

/-- A piece of code has been read from a script that stands in a text. -/
def Code.ReadIn (text : List Char) (code : Code) : Prop :=
  code.HasPlace ∧ ∃ ts, StandsIn ts text ∧ ∀ c ∈ code.callees, CalledIn ts c

lemma readIn_of_parseExpression {text source : List Char} {e : Expr}
    (h : parseExpression source = .ok e)
    (hplace : JunkFree (pieces source) → StandsIn (tokensAmong (pieces source)) text) :
    (Code.expr e).ReadIn text := by
  obtain ⟨hjunk, hcalls⟩ := Script.calledIn_of_parseExpression h
  exact ⟨trivial, _, hplace hjunk, hcalls⟩

lemma readIn_of_parseStatements {text source : List Char} {statements : List Stmt}
    (h : parseStatements source = .ok statements)
    (hplace : JunkFree (pieces source) → StandsIn (tokensAmong (pieces source)) text)
    {code : Code} (hcode : code ∈ statements.map .stmt) : code.ReadIn text := by
  obtain ⟨s, hs, rfl⟩ := List.mem_map.1 hcode
  obtain ⟨hjunk, hcalls⟩ := Script.calledIn_of_parseStatements h
  obtain ⟨hplaces, hcalls⟩ := hcalls s hs
  exact ⟨hplaces, _, hplace hjunk, hcalls⟩

end ViewTemplate.Program

namespace ViewTemplate.Directive

open ViewTemplate.Program (Code Instruction)
open ViewTemplate.Script (bind_eq_ok_iff)

/-! ## The code of directives -/

/-- A directive reads all of its code from its argument. -/
def ReadsArgument (d : Directive) : Prop :=
  ∀ text instructions, d text = .ok instructions →
    ∀ i ∈ instructions, ∀ code ∈ i.codes, code.ReadIn text

lemma lift_eq_ok_iff {α : Type} {x : Except ScriptError α} {a : α} :
    lift x = .ok a ↔ x = .ok a := by
  cases x <;> simp [lift]

lemma required_eq_ok {name : String} {want : Want} {text inner : List Char}
    (h : required name want text = .ok inner) : inner = stripParens text := by
  unfold required at h
  dsimp only at h
  split at h
  · cases h
  · exact (Except.ok.inj h).symm

lemma readsArgument_onExpression (name : String) (want : Want) {make : Script.Expr → Instruction}
    (hmake : ∀ e, (make e).codes = [.expr e]) : ReadsArgument (onExpression name want make) := by
  intro text instructions h
  obtain ⟨inner, hinner, h⟩ := bind_eq_ok_iff.1 h
  obtain ⟨e, he, h⟩ := bind_eq_ok_iff.1 h
  obtain rfl := Except.ok.inj h
  obtain rfl := required_eq_ok hinner
  simp only [List.mem_singleton, forall_eq, hmake]
  exact Program.readIn_of_parseExpression (lift_eq_ok_iff.1 he) Script.standsIn_stripParens

lemma readsArgument_bare (name : String) {i : Instruction} (hi : i.codes = []) :
    ReadsArgument (bare name i) := by
  intro text instructions h
  unfold bare at h
  split at h
  · obtain rfl := Except.ok.inj h
    simp [hi]
  · cases h

lemma readsArgument_embedView : ReadsArgument embedView := by
  intro text instructions h
  obtain ⟨inner, hinner, h⟩ := bind_eq_ok_iff.1 h
  obtain rfl := required_eq_ok hinner
  obtain ⟨args, hargs, h⟩ := bind_eq_ok_iff.1 h
  obtain ⟨hjunk, hcalls⟩ := Script.calledIn_of_parseArguments (lift_eq_ok_iff.1 hargs)
  have hread : ∀ e ∈ args, (Code.expr e).ReadIn text := fun e he =>
    ⟨trivial, _, Script.standsIn_stripParens hjunk, hcalls e he⟩
  split at h
  · obtain rfl := Except.ok.inj h
    simpa [Instruction.codes, Program.Action.codes] using hread
  · obtain rfl := Except.ok.inj h
    simpa [Instruction.codes, Program.Action.codes] using hread
  · cases h

lemma readsArgument_showPart : ReadsArgument showPart := by
  intro text instructions h
  unfold showPart at h
  dsimp only at h
  split at h
  · obtain rfl := Except.ok.inj h
    simp [Instruction.codes, Program.Action.codes]
  · obtain ⟨e, he, h⟩ := bind_eq_ok_iff.1 h
    obtain rfl := Except.ok.inj h
    have hread := Program.readIn_of_parseExpression (lift_eq_ok_iff.1 he)
      Script.standsIn_stripParens
    simpa [Instruction.codes, Program.Action.codes] using hread

lemma readsArgument_forEach : ReadsArgument forEach := by
  intro text instructions h
  obtain ⟨inner, hinner, h⟩ := bind_eq_ok_iff.1 h
  obtain rfl := required_eq_ok hinner
  split at h
  · cases h
  · rename_i clause hclause
    obtain ⟨e, he, h⟩ := bind_eq_ok_iff.1 h
    obtain rfl := Except.ok.inj h
    have hread := Program.readIn_of_parseExpression (lift_eq_ok_iff.1 he)
      (Script.standsIn_subject hclause)
    simpa [Instruction.codes] using hread

/-- What a loop with a condition is read from. -/
lemma forLoop_eq_ok {text : List Char} {instructions : List Instruction}
    (h : forLoop text = .ok instructions) :
    ∃ start condition step first test next,
      splitTopLevel ';' (stripParens text) = [start, condition, step] ∧
      Script.parseStatements start = .ok first ∧
      (test = none ∧ Text.trim condition = [] ∨
        ∃ e, test = some e ∧ Script.parseExpression (Text.trim condition) = .ok e) ∧
      Script.parseStatements step = .ok next ∧ instructions = [.forLoop first test next] := by
  obtain ⟨inner, hinner, h⟩ := bind_eq_ok_iff.1 h
  obtain rfl := required_eq_ok hinner
  split at h
  · rename_i start condition step hsplit
    obtain ⟨first, hfirst, h⟩ := bind_eq_ok_iff.1 h
    dsimp only at h
    split at h
    · rename_i hempty
      obtain ⟨test, htest, h⟩ := bind_eq_ok_iff.1 h
      obtain ⟨next, hnext, h⟩ := bind_eq_ok_iff.1 h
      exact ⟨start, condition, step, first, test, next, hsplit, lift_eq_ok_iff.1 hfirst,
        .inl ⟨(Except.ok.inj htest).symm, List.isEmpty_iff.1 hempty⟩, lift_eq_ok_iff.1 hnext,
        (Except.ok.inj h).symm⟩
    · obtain ⟨test, htest, h⟩ := bind_eq_ok_iff.1 h
      obtain ⟨next, hnext, h⟩ := bind_eq_ok_iff.1 h
      cases he : lift (Script.parseExpression (Text.trim condition)) with
      | error e =>
        rw [he] at htest
        cases htest
      | ok e =>
        rw [he] at htest
        exact ⟨start, condition, step, first, test, next, hsplit, lift_eq_ok_iff.1 hfirst,
          .inr ⟨e, (Except.ok.inj htest).symm, lift_eq_ok_iff.1 he⟩, lift_eq_ok_iff.1 hnext,
          (Except.ok.inj h).symm⟩
  · cases h

lemma readsArgument_forLoop : ReadsArgument forLoop := by
  intro text instructions h
  obtain ⟨start, condition, step, first, test, next, hsplit, hstart, htest, hstep, rfl⟩ :=
    forLoop_eq_ok h
  have hstartJunk := (Script.calledIn_of_parseStatements hstart).1
  have hstepJunk := (Script.calledIn_of_parseStatements hstep).1
  have htestJunk : Script.JunkFree (Script.pieces (Text.trim condition)) := by
    obtain ⟨-, hnil⟩ | ⟨e, -, he⟩ := htest
    · rw [hnil, Script.pieces]
      exact List.forall_mem_nil _
    · exact (Script.calledIn_of_parseExpression he).1
  obtain ⟨hfirst, hcondition, hnext⟩ :=
    Script.standsIn_clauses hsplit hstartJunk htestJunk hstepJunk
  have htestRead : (Code.expr (Program.conditionOrTrue test)).ReadIn text := by
    obtain ⟨rfl, -⟩ | ⟨e, rfl, he⟩ := htest
    · exact ⟨trivial, [], Script.standsIn_nil text, List.forall_mem_nil _⟩
    · exact Program.readIn_of_parseExpression he fun _ => hcondition
  simp only [List.mem_singleton, forall_eq]
  intro code hcode
  obtain hcode | hcode := List.mem_append.1 hcode
  · exact Program.readIn_of_parseStatements hstart (fun _ => hfirst) hcode
  obtain rfl | hcode := List.mem_cons.1 hcode
  · exact htestRead
  · exact Program.readIn_of_parseStatements hstep (fun _ => hnext) hcode

/-- The directives that every template can use read all of their code from their arguments. -/
lemma readsArgument_directives : ∀ entry ∈ directives, ReadsArgument entry.2 := by
  simp only [directives, List.forall_mem_cons]
  have hexpression {name : String} {want : Want} {make : Script.Expr → Instruction}
      (hmake : ∀ e, (make e).codes = [.expr e]) := readsArgument_onExpression name want hmake
  exact ⟨hexpression fun _ => rfl, readsArgument_embedView, hexpression fun _ => rfl,
    readsArgument_bare _ rfl, readsArgument_bare _ rfl, readsArgument_showPart,
    hexpression fun _ => rfl, hexpression fun _ => rfl, readsArgument_bare _ rfl,
    readsArgument_bare _ rfl, readsArgument_forEach, readsArgument_bare _ rfl,
    readsArgument_forLoop, readsArgument_bare _ rfl, hexpression fun _ => rfl,
    readsArgument_bare _ rfl, List.forall_mem_nil _⟩

end ViewTemplate.Directive

namespace ViewTemplate.Template

/-! ## The scripts of a template -/

/-- The script in the body of a segment, without the blanks around it. -/
def Segment.script? : Segment → Option (List Char)
  | text _ _ _ => none
  | block .comment _ _ _ _ => none
  | block _ _ body _ _ => some (Text.trim body)
  | directive _ _ _ body _ _ => some (Text.trim body)

end ViewTemplate.Template

/-- The scripts in the bodies of the template of a view. -/
def ViewTemplate.View.scripts (view : View) : List (List Char) :=
  match Template.markersOf view.delimiters with
  | .error _ => []
  | .ok markers =>
    match Template.segments markers view.contents.toList with
    | .error _ => []
    | .ok cut => cut.filterMap Template.Segment.script?

namespace ViewTemplate.Engine

open ViewTemplate.Program ViewTemplate.Template
open ViewTemplate.Script (CalledIn Callee bind_eq_ok_iff hasSpacedCall isPlainName isViewName
  keywords markCalls pieces tokensAmong)

/-- The nodes of a view are those of the segments that its scripts stand in. -/
lemma exists_cut {engine : Engine} {view : View} {nodes : List Node}
    (h : engine.nodes view = .ok nodes) :
    ∃ cut : List Segment, nodes = cut.map (Segment.node engine.leavesCall) ∧
      view.scripts = cut.filterMap Segment.script? := by
  unfold Engine.nodes Template.tokens at h
  cases hmarkers : markersOf view.delimiters with
  | error fault => simp [hmarkers] at h
  | ok markers =>
    cases hcut : segments markers view.contents.toList with
    | error e => simp [hmarkers, hcut, Except.map] at h
    | ok cut =>
      simp only [hmarkers, hcut, Except.map] at h
      have hnodes := nodesOf_segments engine.leavesCall cut
      unfold leavesCall at hnodes
      rw [hnodes] at h
      refine ⟨cut, (Except.ok.inj h).symm, ?_⟩
      simp only [View.scripts, hmarkers, hcut]

lemma exists_node {engine : Engine} {nodes : List Node} {instructions : List (Lined Instruction)}
    (h : engine.instructionsOfAll nodes = .ok instructions) {i : Lined Instruction}
    (hi : i ∈ instructions) :
    ∃ node ∈ nodes, ∃ group, engine.instructionsOf node = .ok group ∧ i ∈ group := by
  induction nodes generalizing instructions with
  | nil =>
    obtain rfl := Except.ok.inj h
    cases hi
  | cons node nodes ih =>
    rw [instructionsOfAll] at h
    obtain ⟨first, hfirst, h⟩ := bind_eq_ok_iff.1 h
    obtain ⟨others, hothers, h⟩ := bind_eq_ok_iff.1 h
    obtain rfl := Except.ok.inj h
    obtain hi | hi := List.mem_append.1 hi
    · exact ⟨node, List.mem_cons_self, first, hfirst, hi⟩
    · obtain ⟨found, hfound, group, hgroup, hi⟩ := ih hothers hi
      exact ⟨found, List.mem_cons_of_mem node hfound, group, hgroup, hi⟩

/-- A directive without an argument is one with an empty argument. -/
lemma argument_node (passes : String → Bool) (script : List Char) (line : Nat) :
    (((if script.isEmpty then none
      else some (⟨String.ofList (markCalls passes script), line⟩ : Leaf)).map (·.text)).getD
        "").toList = markCalls passes script := by
  cases script with
  | nil => simp [markCalls, pieces, Script.markPieces]
  | cons c script => simp

/-- The code of an instruction has been read from the marked script of its segment. -/
lemma readIn_of_instructionsOf {engine : Engine}
    (hdirectives : engine.directives = ViewTemplate.directives) {segment : Segment}
    {group : List (Lined Instruction)}
    (h : engine.instructionsOf (segment.node engine.leavesCall) = .ok group)
    {i : Lined Instruction} (hi : i ∈ group) :
    i.item.codes = [] ∨ ∃ script ∈ segment.script?, ∀ code ∈ i.item.codes,
      code.ReadIn (markCalls engine.leavesCall script) := by
  have hwhole {source : List Char} := @Script.standsIn_self source
  cases segment with
  | text raw shown line =>
    obtain rfl := Except.ok.inj h
    rw [List.mem_singleton.1 hi]
    exact .inl rfl
  | block kind opening body closing line =>
    cases kind with
    | comment =>
      obtain rfl := Except.ok.inj h
      rw [List.mem_singleton.1 hi]
      exact .inl rfl
    | hostCode =>
      simp only [Segment.node, instructionsOf, String.toList_ofList] at h
      split at h
      · cases h
      · rename_i statements hparse
        obtain rfl := Except.ok.inj h
        rw [List.mem_singleton.1 hi]
        exact .inr ⟨_, rfl, fun code => readIn_of_parseStatements hparse hwhole⟩
    | sanitized | unsanitized =>
      simp only [Segment.node, instructionsOf, String.toList_ofList] at h
      split at h
      · cases h
      · rename_i e hparse
        obtain rfl := Except.ok.inj h
        rw [List.mem_singleton.1 hi]
        refine .inr ⟨_, rfl, ?_⟩
        simpa [Instruction.codes, Action.codes] using readIn_of_parseExpression hparse hwhole
  | directive opening lead name body closing line =>
    simp only [Segment.node, instructionsOf, hdirectives] at h
    split at h
    · cases h
    · rename_i make hmake
      split at h
      · cases h
      · rename_i instructions hmade
        obtain rfl := Except.ok.inj h
        obtain ⟨j, hj, rfl⟩ := List.mem_map.1 hi
        -- the directive is one of the table, and each of these reads its argument only
        obtain ⟨front, back, hentries, -⟩ := List.lookup_eq_some_iff.1 hmake
        have hentry : (String.ofList name, make) ∈ ViewTemplate.directives := by
          rw [hentries]
          simp
        rw [argument_node] at hmade
        exact .inr ⟨_, rfl, Directive.readsArgument_directives _ hentry _ _ hmade j hj⟩

/-- The code of an operation has been read from one marked script of the view. -/
lemma readIn_of_program {engine : Engine}
    (hdirectives : engine.directives = ViewTemplate.directives) {view : View} {program : Linked}
    (hprogram : engine.program view = .ok program) {op : Lined Op} (hop : op ∈ program) :
    op.item.codes = [] ∨ ∃ script ∈ view.scripts, ∀ code ∈ op.item.codes,
      code.ReadIn (markCalls engine.leavesCall script) := by
  obtain ⟨list, hlist, hassemble⟩ := exists_instructions hprogram
  obtain ⟨nodes, hnodes, hall⟩ := bind_eq_ok_iff.1 hlist
  obtain ⟨cut, rfl, hscripts⟩ := exists_cut hnodes
  obtain ⟨i, hi, hsub⟩ := covers_of_assemble hassemble op hop
  obtain ⟨node, hnode, group, hgroup, hi⟩ := exists_node hall hi
  obtain ⟨segment, hsegment, rfl⟩ := List.mem_map.1 hnode
  obtain hnone | ⟨script, hscript, hread⟩ := readIn_of_instructionsOf hdirectives hgroup hi
  · rw [hnone] at hsub
    exact .inl (List.subset_nil.1 hsub)
  · refine .inr ⟨script, ?_, fun code hcode => hread code (hsub hcode)⟩
    rw [hscripts]
    exact List.mem_filterMap.2 ⟨segment, hsegment, hscript⟩

/-! ## Two ways to know a name -/

/-- A plain function is found: the one of the language, or else the one of the host. -/
def Resolves (engine : Engine) (name : String) : Prop :=
  (∃ native, Script.Native.find? name = some native ∧
    ∀ args, engine.callPlain name args = native.run args) ∨
  Script.Native.find? name = none ∧ ∃ run, Bindings.find? engine.natives name = some run ∧
    ∀ args, engine.callPlain name args =
      match run args with
      | .ok v => .ok v
      | .error reason => .error (.viewFunction (.failed name reason))

lemma resolves_of_knows {engine : Engine} {name : String} (h : engine.knows name = true) :
    engine.Resolves name := by
  cases hfind : Script.Native.find? name with
  | some native => exact .inl ⟨native, hfind, fun args => by simp only [callPlain, hfind]⟩
  | none =>
    have hhost : Bindings.has engine.natives name = true := by simpa [knows, hfind] using h
    obtain ⟨run, hrun⟩ := Option.isSome_iff_exists.1 hhost
    refine .inr ⟨hfind, run, hrun, fun args => ?_⟩
    simp only [callPlain, hfind, hhost, if_true, ViewFunctions.call, hrun]
    cases run args <;> rfl

/-- The scanner leaves a call alone exactly if the evaluator knows its name. -/
lemma leavesCall_eq_knows (engine : Engine) (name : String) :
    engine.leavesCall name = engine.knows name := by
  have hnative : Script.Native.names.contains name = (Script.Native.find? name).isSome := by
    rw [Bool.eq_iff_iff, List.contains_iff_mem, Script.Native.names, List.mem_map,
      Script.Native.find?, List.find?_isSome]
    simp only [beq_iff_eq]
  have hhost : (Bindings.keys engine.natives).contains name =
      Bindings.has engine.natives name := by
    rw [Bool.eq_iff_iff, List.contains_iff_mem, Bindings.has_iff]
  rw [leavesCall, passesThrough, hnative, hhost, knows]

/-- A plain name in the code of a marked script is known, unless it is a keyword. -/
lemma knows_of_readIn {engine : Engine} {script : List Char}
    (hspaced : hasSpacedCall (pieces script) = false) {code : Code}
    (hread : code.ReadIn (markCalls engine.leavesCall script)) {name : String}
    (hname : Callee.plain name ∈ code.callees) (hplain : isPlainName name = true)
    (hkeyword : name ∉ keywords) : engine.knows name = true := by
  obtain ⟨-, ts, hplace, hcalls⟩ := hread
  have hcall := hcalls _ hname
  have hview := Script.isViewName_eq_false_of_calledIn hspaced hplace hcall hplain
  have hword : name ≠ Script.viewCallWord := by
    obtain hstatic | ⟨hword, -⟩ := hcall
    · rw [hplain] at hstatic
      cases hstatic
    · exact hword
  simpa [isViewName, hword, hkeyword, leavesCall_eq_knows] using hview

/-- A view function in the code of a marked script is no plain one, unless the call is written out
in the script. -/
lemma not_knows_of_readIn {engine : Engine} {script : List Char} {code : Code}
    (hread : code.ReadIn (markCalls engine.leavesCall script)) {name : String}
    (hname : Callee.view name ∈ code.callees) :
    engine.knows name = false ∨ CalledIn (tokensAmong (pieces script)) (.view name) := by
  obtain ⟨-, ts, hplace, hcalls⟩ := hread
  refine (Script.isViewName_of_calledIn hplace (hcalls _ hname)).imp_left fun hview => ?_
  simp only [isViewName, Bool.not_eq_true', Bool.or_eq_false_iff, leavesCall_eq_knows] at hview
  exact hview.2

/-! ## Unknown functions at run time -/

section Running

variable {φ : Type} {engine : Engine} {create : ViewSource φ} {place : ViewPlace}
  {inner : RenderInner φ} {line errorLine : Nat} {name : String} {r left : Running φ}

/-- A piece of code calls a plain function that is not known. -/
def CallsUnknown (engine : Engine) (codes : List Code) (name : String) : Prop :=
  ∃ code ∈ codes, Callee.plain name ∈ code.callees ∧ engine.knows name = false

/-- A view inside of another one fails for a function that is not known. -/
def InnerUnknown (inner : RenderInner φ) (line : Nat) (name : String) : Prop :=
  ∃ q : Request φ, ∃ view shared,
    q.render inner = .failed (.script line (.unknownNative name)) view shared

lemma unknown_of_comesFrom {callees : List Callee}
    (h : Script.ComesFrom engine.calls callees (.unknownNative name)) :
    Callee.plain name ∈ callees ∧ engine.knows name = false := by
  obtain hown | ⟨called, args, hmem, hcall⟩ := h
  · cases hown
  obtain ⟨fault, herr⟩ | ⟨e, herr⟩ | ⟨herr, hknows⟩ := callPlain_eq_error hcall
  · cases herr
  · cases herr
  · obtain rfl := ScriptError.unknownNative.inj herr
    exact ⟨hmem, hknows⟩

lemma eq_unknown_of_ofScript {err : ScriptError}
    (h : PageError.ofScript line err = .script errorLine (.unknownNative name)) :
    err = .unknownNative name := by
  unfold PageError.ofScript at h
  split at h
  · cases h
  · exact (PageError.script.inj h).2

lemma unknown_of_evalAt {e : Script.Expr} {scope : Vars}
    (h : engine.evalAt e line scope = .error (.script errorLine (.unknownNative name))) :
    Callee.plain name ∈ e.callees ∧ engine.knows name = false := by
  unfold evalAt at h
  split at h
  · cases h
  · rename_i err heval
    obtain rfl := eq_unknown_of_ofScript (Except.error.inj h)
    exact unknown_of_comesFrom (Script.eval_comesFrom heval)

lemma unknown_of_withValue {e : Script.Expr} {go : Value → Outcome PageError (Running φ)}
    {codes : List Code} (he : .expr e ∈ codes)
    (h : engine.withValue e line r go = .failed (.script errorLine (.unknownNative name)) left) :
    engine.CallsUnknown codes name ∨
      ∃ v, go v = .failed (.script errorLine (.unknownNative name)) left := by
  unfold withValue at h
  split at h
  · exact .inr ⟨_, h⟩
  · rename_i err heval
    obtain ⟨rfl, -⟩ := Outcome.failed.inj h
    exact .inl ⟨.expr e, he, unknown_of_evalAt heval⟩

lemma unknown_of_embed {generation : Nat} {file : String} {explicit : Vars}
    (h : embed create inner generation file explicit r =
      .failed (.script errorLine (.unknownNative name)) left) :
    InnerUnknown inner errorLine name := by
  cases hmade : create r.shared.source file with
  | mk made source =>
    cases made with
    | error e =>
      rw [embed_of_missing hmade] at h
      cases h
    | ok view =>
      rw [embed_of_made hmade] at h
      cases hrender : (embedRequest generation r explicit view source).render inner with
      | done text view shared => rw [hrender] at h; cases h
      | unfinished => rw [hrender] at h; cases h
      | failed e view shared =>
        rw [hrender] at h
        obtain ⟨rfl, -⟩ := Outcome.failed.inj h
        exact ⟨_, view, shared, hrender⟩

lemma explicitVars_ne_unknown {v : Value} :
    explicitVars line v ≠ .error (.script errorLine (.unknownNative name)) := by
  unfold explicitVars
  split <;> simp

/-- An action fails for a function that is not known only if it calls the function, or if another
view fails so. -/
lemma unknown_of_perform {a : Action} (hplaces : ∀ code ∈ a.codes, code.HasPlace)
    (h : engine.perform create place inner a line r =
      .failed (.script errorLine (.unknownNative name)) left) :
    engine.CallsUnknown a.codes name ∨ InnerUnknown inner errorLine name := by
  -- what is evaluated first is to blame, or what is done with its value
  have hvalue {e : Script.Expr} {go : Value → Outcome PageError (Running φ)}
      (he : .expr e ∈ a.codes)
      (h : engine.withValue e line r go = .failed (.script errorLine (.unknownNative name)) left)
      (hgo : ∀ v, go v = .failed (.script errorLine (.unknownNative name)) left →
        engine.CallsUnknown a.codes name ∨ InnerUnknown inner errorLine name) :
      engine.CallsUnknown a.codes name ∨ InnerUnknown inner errorLine name := by
    obtain h | ⟨v, h⟩ := unknown_of_withValue he h
    · exact .inl h
    · exact hgo v h
  cases a with
  | text s => cases h
  | echo e sanitize =>
    refine hvalue List.mem_cons_self h fun v h => ?_
    cases h
  | run statements =>
    rcases hrun : Script.runStatements engine.calls r.scope "" statements with ⟨scope, out, error⟩
    simp only [perform, hrun] at h
    cases error with
    | none => cases h
    | some err =>
      obtain ⟨herr, -⟩ := Outcome.failed.inj h
      obtain rfl := eq_unknown_of_ofScript herr
      have hall : ∀ s ∈ statements, s.HasPlace := fun s hs =>
        hplaces (.stmt s) (List.mem_map_of_mem hs)
      obtain ⟨s, hs, hfrom⟩ := Script.runStatements_comesFrom hall (congrArg (·.error) hrun)
      exact .inl ⟨.stmt s, List.mem_map_of_mem hs, unknown_of_comesFrom hfrom⟩
  | inherit file =>
    refine hvalue List.mem_cons_self h fun v h => ?_
    split at h <;> cases h
  | embed file vars =>
    cases vars with
    | none => exact hvalue List.mem_cons_self h fun v h => .inr (unknown_of_embed h)
    | some vars =>
      refine hvalue List.mem_cons_self h fun v h => ?_
      refine hvalue (List.mem_cons_of_mem _ List.mem_cons_self) h fun more h => ?_
      cases hexplicit : explicitVars line more with
      | error e =>
        rw [hexplicit] at h
        obtain ⟨rfl, -⟩ := Outcome.failed.inj h
        exact absurd hexplicit explicitVars_ne_unknown
      | ok explicit =>
        rw [hexplicit] at h
        exact .inr (unknown_of_embed h)
  | startPart part =>
    refine hvalue List.mem_cons_self h fun v h => ?_
    cases h
  | endPart =>
    rw [perform] at h
    split at h <;> cases h
  | parent =>
    rw [perform] at h
    split at h <;> cases h
  | showPart part =>
    cases part with
    | some part =>
      refine hvalue List.mem_cons_self h fun v h => ?_
      cases h
    | none =>
      rw [perform] at h
      split at h
      · cases h
      · split at h <;> cases h

lemma unknown_of_step {op : Op} (hplaces : ∀ code ∈ op.codes, code.HasPlace)
    {s : Machine.State (Running φ)}
    (h : (engine.machine create place inner).step op line s =
      .failed (.script errorLine (.unknownNative name)) left) :
    engine.CallsUnknown op.codes name ∨ InnerUnknown inner errorLine name := by
  have hvalue {e : Script.Expr} (he : .expr e ∈ op.codes) {err : PageError}
      (heval : engine.evalAt e line s.state.scope = .error err)
      (herr : err = .script errorLine (.unknownNative name)) :
      engine.CallsUnknown op.codes name :=
    ⟨.expr e, he, unknown_of_evalAt (heval.trans (congrArg _ herr))⟩
  cases op with
  | act a =>
    simp only [Machine.step, machine] at h
    split at h
    · cases h
    · rename_i err state hact
      obtain ⟨rfl, -⟩ := Machine.Step.failed.inj h
      exact unknown_of_perform hplaces hact
    · cases h
  | jumpUnless condition target =>
    simp only [Machine.step, machine] at h
    split at h
    · rename_i err heval
      exact .inl (hvalue List.mem_cons_self heval (Machine.Step.failed.inj h).1)
    · cases h
  | jump target => cases h
  | loopStart subject key value exit =>
    simp only [Machine.step, machine] at h
    split at h
    · rename_i err heval
      exact .inl (hvalue List.mem_cons_self heval (Machine.Step.failed.inj h).1)
    · split at h
      · rename_i v _ err hitems
        -- a value that has no items is no unknown function
        obtain ⟨rfl, -⟩ := Machine.Step.failed.inj h
        unfold loopItems at hitems
        split at hitems <;> cases hitems
      · cases h
      · cases h
  | loopNext body =>
    simp only [Machine.step] at h
    split at h <;> cases h

lemma unknown_of_run {program : Linked}
    (hplaces : ∀ op ∈ program, ∀ code ∈ op.item.codes, code.HasPlace) {fuel : Nat}
    {s : Machine.State (Running φ)}
    (h : (engine.machine create place inner).run program.toArray fuel s =
      .failed (.script errorLine (.unknownNative name)) left) :
    (∃ op ∈ program, engine.CallsUnknown op.item.codes name) ∨
      InnerUnknown inner errorLine name := by
  induction fuel generalizing s with
  | zero => cases h
  | succ fuel ih =>
    cases hop : program[s.position]? with
    | none =>
      rw [Machine.run_behind hop] at h
      cases h
    | some op =>
      have hmem := List.mem_of_getElem? hop
      rw [Machine.run_succ hop] at h
      cases hstep : (engine.machine create place inner).step op.item op.line s with
      | next next =>
        rw [hstep] at h
        exact ih h
      | unfinished =>
        rw [hstep] at h
        cases h
      | failed e state =>
        rw [hstep] at h
        obtain ⟨rfl, -⟩ := Outcome.failed.inj h
        exact (unknown_of_step (hplaces op hmem) hstep).imp_left fun hcalls => ⟨op, hmem, hcalls⟩

end Running

/-! ## Every call is known or marked -/

/-- **Calls that are left alone are known at run time.**  In the program of a view without spaced
calls, a plain function is one of the language or of the host, unless its name is that of a member
of a class or a keyword, so no run of the program fails because there is no function of such a name,
as long as no other view does.  And a view function is neither of them, unless the script that the
operation was read from calls it in the explicit form. -/
theorem left_calls_are_known {engine : Engine}
    (hdirectives : engine.directives = ViewTemplate.directives) {view : View} {program : Linked}
    (hprogram : engine.program view = .ok program)
    (hspaced : ∀ script ∈ view.scripts, hasSpacedCall (pieces script) = false) :
    (∀ op ∈ program, ∀ name, .plain name ∈ op.item.callees → isPlainName name = true →
      name ∉ keywords → engine.Resolves name) ∧
    (∀ (φ : Type) (create : ViewSource φ) (place : ViewPlace) (inner : RenderInner φ) (steps : Nat)
      (r left : Running φ) (line : Nat) (name : String),
      (engine.machine create place inner).runAll program steps r =
        .failed (.script line (.unknownNative name)) left →
      isPlainName name = false ∨ name ∈ keywords ∨ InnerUnknown inner line name) ∧
    ∀ op ∈ program, op.item.codes = [] ∨ ∃ script ∈ view.scripts,
      (∀ code ∈ op.item.codes, code.ReadIn (markCalls engine.leavesCall script)) ∧
      ∀ name, .view name ∈ op.item.callees →
        engine.knows name = false ∨ CalledIn (tokensAmong (pieces script)) (.view name) := by
  have hread : ∀ op ∈ program, ∀ code ∈ op.item.codes, ∃ script ∈ view.scripts,
      code.ReadIn (markCalls engine.leavesCall script) := by
    intro op hop code hcode
    obtain hnone | ⟨script, hscript, hread⟩ := readIn_of_program hdirectives hprogram hop
    · rw [hnone] at hcode
      cases hcode
    · exact ⟨script, hscript, hread code hcode⟩
  have hknown : ∀ op ∈ program, ∀ code ∈ op.item.codes, ∀ name, .plain name ∈ code.callees →
      isPlainName name = true → name ∉ keywords → engine.knows name = true := by
    intro op hop code hcode name hname hplain hkeyword
    obtain ⟨script, hscript, hread⟩ := hread op hop code hcode
    exact knows_of_readIn (hspaced script hscript) hread hname hplain hkeyword
  have hplaces : ∀ op ∈ program, ∀ code ∈ op.item.codes, code.HasPlace := by
    intro op hop code hcode
    obtain ⟨script, -, hread⟩ := hread op hop code hcode
    exact hread.1
  refine ⟨?_, ?_, ?_⟩
  · intro op hop name hname hplain hkeyword
    obtain ⟨code, hcode, hname⟩ := List.mem_flatMap.1 hname
    exact resolves_of_knows (hknown op hop code hcode name hname hplain hkeyword)
  · intro φ create place inner steps r left line name hrun
    -- a run that meets an unknown function has called it, and what is called is known
    obtain ⟨op, hop, code, hcode, hname, hunknown⟩ | hinner := unknown_of_run hplaces hrun
    · by_contra hnot
      obtain ⟨hplain, hkeyword, -⟩ := not_or.1 hnot |>.imp id not_or.1
      rw [hknown op hop code hcode name hname (by simpa using hplain) hkeyword] at hunknown
      cases hunknown
    · exact .inr (.inr hinner)
  · intro op hop
    refine (readIn_of_program hdirectives hprogram hop).imp_right ?_
    rintro ⟨script, hscript, hread⟩
    refine ⟨script, hscript, hread, fun name hname => ?_⟩
    obtain ⟨code, hcode, hname⟩ := List.mem_flatMap.1 hname
    exact not_knows_of_readIn (hread code hcode) hname

/-- A loop that calls functions of the language, of the host and of the page. -/
theorem left_calls_are_known_loop :
    let engine : Engine := { natives := [("shout", fun _ => .ok .null)] }
    let view : View := { contents :=
      "<% for($i = count($x); $i < shout(); $i++) %>\x7b\x7b price(trim($i)) \x7d\x7d<% endfor %>" }
    (∀ script ∈ view.scripts, hasSpacedCall (pieces script) = false) ∧
    ∃ program, engine.program view = .ok program ∧
      program.map (·.item.callees) =
        [[.plain "count"], [.plain "shout"], [.view "price", .plain "trim"], [], []] ∧
      engine.Resolves "count" ∧ engine.Resolves "shout" ∧ engine.Resolves "trim" ∧
      ∀ (φ : Type) (create : ViewSource φ) (place : ViewPlace) (inner : RenderInner φ)
        (steps : Nat) (r left : Running φ) (line : Nat),
        (engine.machine create place inner).runAll program steps r =
          .failed (.script line (.unknownNative "shout")) left →
        InnerUnknown inner line "shout" := by
  intro engine view
  have hspaced : ∀ script ∈ view.scripts, hasSpacedCall (pieces script) = false := by
    decide +kernel
  have hcallees : (engine.program view).toOption.map (List.map (·.item.callees)) =
      some [[.plain "count"], [.plain "shout"], [.view "price", .plain "trim"], [], []] := by
    decide +kernel
  obtain ⟨program, hprogram, hcallees⟩ : ∃ program, engine.program view = .ok program ∧
      program.map (·.item.callees) =
        [[.plain "count"], [.plain "shout"], [.view "price", .plain "trim"], [], []] := by
    cases hprogram : engine.program view with
    | error e => simp [hprogram, Except.toOption] at hcallees
    | ok program => exact ⟨program, rfl, by simpa [hprogram, Except.toOption] using hcallees⟩
  obtain ⟨hresolves, hruns, -⟩ := left_calls_are_known rfl hprogram hspaced
  have hcalled {callees : List Callee} (hmem : callees ∈ program.map (·.item.callees))
      {name : String} (hname : .plain name ∈ callees) (hplain : isPlainName name = true)
      (hkeyword : name ∉ keywords) : engine.Resolves name := by
    obtain ⟨op, hop, rfl⟩ := List.mem_map.1 hmem
    exact hresolves op hop name hname hplain hkeyword
  refine ⟨hspaced, program, hprogram, hcallees, ?_, ?_, ?_, ?_⟩
  · exact hcalled (by rw [hcallees]; exact .head _) (.head _) (by decide) (by decide)
  · exact hcalled (by rw [hcallees]; exact .tail _ (.head _)) (.head _) (by decide) (by decide)
  · exact hcalled (by rw [hcallees]; exact .tail _ (.tail _ (.head _))) (.tail _ (.head _))
      (by decide) (by decide)
  · intro φ create place inner steps r left line hrun
    obtain hplain | hkeyword | hinner := hruns φ create place inner steps r left line _ hrun
    · exact absurd hplain (by decide)
    · exact absurd hkeyword (by decide)
    · exact hinner

end ViewTemplate.Engine
