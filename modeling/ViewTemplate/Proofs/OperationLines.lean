import Mathlib.Data.List.Forall2
import Mathlib.Tactic.Common
import ViewTemplate.Page.Engine
import ViewTemplate.Proofs.BackPatching
import ViewTemplate.Proofs.InnerViews
import ViewTemplate.Proofs.Readers
import ViewTemplate.Proofs.SourceLines
import ViewTemplate.Proofs.TokenRows

/-!
# The lines of operations

An operation of a program carries the line that an error of it will name.  That line was counted by
the scanner and then handed on, from segments to tokens, nodes, instructions and operations, and
linking puts the operations of a block around those of its body.

A program is split here into the groups of operations that its segments leave, in their order.  An
instruction leaves a few operations, all on its own line (`Leaves`), whatever block it belongs to:
the end of a loop leaves the jump back, with the steps of the loop.  So a group is on the line of
its segment, which is the line of the source (`Cuts.lines`).
-/

namespace ViewTemplate.Program

open ViewTemplate.Script (Expr Stmt)

/-! ## What an instruction leaves -/

/-- The operations that an instruction leaves in a program, up to where the jumps lead. -/
inductive Leaves : Lined Instruction → Linked → Prop
  | act (a : Action) (line : Nat) : Leaves ⟨.act a, line⟩ (actOps a line)
  | comment (s : String) (line : Nat) : Leaves ⟨.comment s, line⟩ []
  | ifStart (condition : Expr) (line target : Nat) :
      Leaves ⟨.ifStart condition, line⟩ [⟨.jumpUnless condition target, line⟩]
  | elseIf (condition : Expr) (line exit target : Nat) :
      Leaves ⟨.elseIf condition, line⟩
        [⟨.jump exit, line⟩, ⟨.jumpUnless condition target, line⟩]
  | otherwise (line exit : Nat) : Leaves ⟨.otherwise, line⟩ [⟨.jump exit, line⟩]
  | endIf (line : Nat) : Leaves ⟨.close .ifElse, line⟩ []
  | forEach (subject : Expr) (key : Option String) (value : String) (line exit : Nat) :
      Leaves ⟨.forEach subject key value, line⟩ [⟨.loopStart subject key value exit, line⟩]
  | endForEach (line body : Nat) : Leaves ⟨.close .forEach, line⟩ [⟨.loopNext body, line⟩]
  | forLoop (first : List Stmt) (condition : Option Expr) (step : List Stmt) (line exit : Nat) :
      Leaves ⟨.forLoop first condition step, line⟩
        (runOps first line ++ [⟨.jumpUnless (conditionOrTrue condition) exit, line⟩])
  /-- The steps of a loop are on the line of its end. -/
  | endFor (step : List Stmt) (line top : Nat) :
      Leaves ⟨.close .forLoop, line⟩ (runOps step line ++ [⟨.jump top, line⟩])
  | whileLoop (condition : Expr) (line exit : Nat) :
      Leaves ⟨.whileLoop condition, line⟩ [⟨.jumpUnless condition exit, line⟩]
  | endWhile (line top : Nat) : Leaves ⟨.close .whileLoop, line⟩ [⟨.jump top, line⟩]

lemma line_of_mem_actOps {a : Action} {line : Nat} {op : Lined Op} (h : op ∈ actOps a line) :
    op.line = line := by
  unfold actOps at h
  split at h
  · simp at h
  · rw [List.mem_singleton.1 h]

lemma line_of_mem_runOps {statements : List Stmt} {line : Nat} {op : Lined Op}
    (h : op ∈ runOps statements line) : op.line = line := by
  unfold runOps at h
  split at h
  · simp at h
  · rw [List.mem_singleton.1 h]

lemma Leaves.line {i : Lined Instruction} {ops : Linked} (h : Leaves i ops) {op : Lined Op}
    (hop : op ∈ ops) : op.line = i.line := by
  cases h with
  | act a line => exact line_of_mem_actOps hop
  | forLoop first condition step line exit =>
    obtain hop | hop := List.mem_append.1 hop
    · exact line_of_mem_runOps hop
    · rw [List.mem_singleton.1 hop]
  | endFor step line top =>
    obtain hop | hop := List.mem_append.1 hop
    · exact line_of_mem_runOps hop
    · rw [List.mem_singleton.1 hop]
  | elseIf condition line exit target =>
    obtain rfl | rfl := List.mem_pair.1 hop <;> rfl
  | comment | endIf => cases hop
  | ifStart | otherwise | forEach | endForEach | whileLoop | endWhile =>
    rw [List.mem_singleton.1 hop]

/-- The operations that a row of instructions leaves, one instruction after the other. -/
inductive LeavesAll : List (Lined Instruction) → Linked → Prop
  | nil : LeavesAll [] []
  | cons {i : Lined Instruction} {rest : List (Lined Instruction)} {ops more : Linked}
      (h : Leaves i ops) (hrest : LeavesAll rest more) : LeavesAll (i :: rest) (ops ++ more)

namespace LeavesAll

variable {front back : List (Lined Instruction)} {ops more : Linked}

lemma single {i : Lined Instruction} (h : Leaves i ops) : LeavesAll [i] ops := by
  have hone := cons h nil
  rwa [List.append_nil] at hone

lemma append (h : LeavesAll front ops) (hback : LeavesAll back more) :
    LeavesAll (front ++ back) (ops ++ more) := by
  induction h with
  | nil => exact hback
  | cons h _ ih =>
    rw [List.append_assoc]
    exact .cons h ih

lemma split (h : LeavesAll (front ++ back) ops) :
    ∃ left right, ops = left ++ right ∧ LeavesAll front left ∧ LeavesAll back right := by
  induction front generalizing ops with
  | nil => exact ⟨[], ops, rfl, .nil, h⟩
  | cons i front ih =>
    cases h with
    | @cons _ _ first _ hfirst hrest =>
      obtain ⟨left, right, rfl, hleft, hright⟩ := ih hrest
      exact ⟨first ++ left, right, (List.append_assoc _ _ _).symm, .cons hfirst hleft, hright⟩

lemma line (h : LeavesAll front ops) {line : Nat} (hline : ∀ i ∈ front, i.line = line)
    {op : Lined Op} (hop : op ∈ ops) : op.line = line := by
  induction h with
  | nil => cases hop
  | cons h _ ih =>
    obtain hop | hop := List.mem_append.1 hop
    · rw [h.line hop]
      exact hline _ List.mem_cons_self
    · exact ih (fun i hi => hline i (.tail _ hi)) hop

/-- A block with its body: the front, what the body leaves, and the end. -/
lemma around {i : Lined Instruction} {body rest : List (Lined Instruction)} {first last : Linked}
    (hfirst : Leaves i first) (hbody : LeavesAll body ops) (hlast : LeavesAll rest last) :
    LeavesAll (i :: (body ++ rest)) (first ++ (ops ++ last)) :=
  .cons hfirst (hbody.append hlast)

end LeavesAll

mutual

lemma leavesAll_link (start : Nat) (b : Block) : LeavesAll b.flatten (b.link start) := by
  cases b with
  | act a line => exact .single (.act a line)
  | comment s line => exact .single (.comment s line)
  | ifElse condition line body rest =>
    exact .around (.ifStart condition line _) (leavesAll_linkAll _ body) (leavesAll_chain _ _ rest)
  | forEach subject key value line body closeLine =>
    exact .around (.forEach subject key value line _) (leavesAll_linkAll _ body)
      (.single (.endForEach closeLine _))
  | forLoop first condition step line body closeLine =>
    have hloop (exit : Nat) := LeavesAll.around (.forLoop first condition step line exit)
      (leavesAll_linkAll (start + (runOps first line).length + 1) body)
      (.single (.endFor step closeLine (start + (runOps first line).length)))
    simp only [List.append_assoc, List.singleton_append] at hloop
    simp only [Block.flatten, Block.link, List.append_assoc]
    exact hloop _
  | whileLoop condition line body closeLine =>
    exact .around (.whileLoop condition line _) (leavesAll_linkAll _ body)
      (.single (.endWhile closeLine _))

/-- Linking keeps the operations of a row of blocks in the order of its instructions. -/
lemma leavesAll_linkAll (start : Nat) (bs : List Block) :
    LeavesAll (flattenAll bs) (linkAll start bs) := by
  cases bs with
  | nil => exact .nil
  | cons b rest => exact (leavesAll_link start b).append (leavesAll_linkAll _ rest)

lemma leavesAll_chain (start exit : Nat) (c : Chain) :
    LeavesAll c.flatten (c.link start exit) := by
  cases c with
  | close line => exact .single (.endIf line)
  | elseIf condition line body rest =>
    exact .around (.elseIf condition line exit _) (leavesAll_linkAll _ body)
      (leavesAll_chain _ _ rest)
  | otherwise line body closeLine =>
    have hlast := LeavesAll.around (.otherwise line exit) (leavesAll_linkAll (start + 1) body)
      (.single (.endIf closeLine))
    rwa [List.append_nil] at hlast

end

lemma leavesAll_of_assemble {instructions : List (Lined Instruction)} {program : Linked}
    (h : assemble instructions = .ok program) : LeavesAll instructions program := by
  obtain ⟨bs, rfl, rfl⟩ := assemble_eq_ok h
  exact leavesAll_linkAll 0 bs

end ViewTemplate.Program

namespace ViewTemplate.Template

open ViewTemplate.Text (newlines)

/-! ## The nodes of segments -/

def Segment.node (passes : String → Bool) : Segment → Node
  | text _ shown line => .text (String.ofList shown) line
  | block kind _ body _ line =>
    .block kind ⟨String.ofList (Script.markCalls passes (Text.trim body)), line⟩ line
  | directive _ lead name body _ line =>
    let nameLine := line + newlines lead
    .directive ⟨String.ofList name, nameLine⟩
      (if (Text.trim body).isEmpty then none
        else some ⟨String.ofList (Script.markCalls passes (Text.trim body)), nameLine⟩) line

def Node.line : Node → Nat
  | text _ line => line
  | block _ _ line => line
  | directive _ _ line => line

lemma Segment.line_node (passes : String → Bool) (segment : Segment) :
    (segment.node passes).line = segment.line := by
  cases segment <;> rfl

lemma nodesFrom_segment (passes : String → Bool) (segment : Segment) (rest : List Token) :
    nodesFrom [] (segment.tokens passes ++ rest) =
      (nodesFrom [] rest).map (segment.node passes :: ·) := by
  cases segment with
  | text raw shown line => rfl
  | block kind opening body closing line =>
    exact (ConstructRow.block kind _ _ ⟨_, line⟩ line _).nodesFrom rest
  | directive opening lead name body closing line =>
    refine ConstructRow.nodesFrom ?_ rest
    by_cases hbody : (Text.trim body).isEmpty = true
    · simp only [Segment.tokens, Segment.node, hbody, if_true]
      exact .directive _ _ ⟨_, _⟩ none _ _
    · simp only [Segment.tokens, Segment.node, hbody]
      exact .directive _ _ ⟨_, _⟩ (some ⟨_, _⟩) _ _

/-- The nodes of a template are the nodes of its segments. -/
lemma nodesOf_segments (passes : String → Bool) (segments : List Segment) :
    nodesOf (segments.flatMap (Segment.tokens passes)) =
      .ok (segments.map (Segment.node passes)) := by
  rw [nodesOf_eq]
  induction segments with
  | nil => rfl
  | cons segment segments ih =>
    rw [List.flatMap_cons, nodesFrom_segment, ih]
    rfl

end ViewTemplate.Template

namespace ViewTemplate.Engine

open ViewTemplate.Program ViewTemplate.Template
open ViewTemplate.Text (lineBehind)

/-! ## From segments to operations -/

/-- A segment leaves these operations in a program: they come from the instructions of its node. -/
def Yields (engine : Engine) (passes : String → Bool) (segment : Segment) (ops : Linked) : Prop :=
  ∃ instructions, engine.instructionsOf (segment.node passes) = .ok instructions ∧
    LeavesAll instructions ops

lemma line_of_mem_instructionsOf {engine : Engine} {node : Node}
    {instructions : List (Lined Instruction)} (h : engine.instructionsOf node = .ok instructions)
    {i : Lined Instruction} (hi : i ∈ instructions) : i.line = node.line := by
  revert h
  fun_cases engine.instructionsOf node with
  | case1 | case2 | case4 | case6 =>
    intro h
    obtain rfl := Except.ok.inj h
    rw [List.mem_singleton.1 hi]
    rfl
  | case3 | case5 | case7 | case8 =>
    intro h
    cases h
  | case9 =>
    intro h
    obtain rfl := Except.ok.inj h
    obtain ⟨_, -, rfl⟩ := List.mem_map.1 hi
    rfl

lemma Yields.line {engine : Engine} {passes : String → Bool} {segment : Segment} {ops : Linked}
    (h : engine.Yields passes segment ops) {op : Lined Op} (hop : op ∈ ops) :
    op.line = segment.line := by
  obtain ⟨instructions, hinstructions, hleaves⟩ := h
  refine hleaves.line (fun i hi => ?_) hop
  rw [line_of_mem_instructionsOf hinstructions hi, segment.line_node]

/-- What the instructions of segments leave falls apart into what each segment leaves. -/
lemma exists_groups {engine : Engine} {passes : String → Bool} {segments : List Segment}
    {instructions : List (Lined Instruction)} {program : Linked}
    (h : engine.instructionsOfAll (segments.map (Segment.node passes)) = .ok instructions)
    (hprogram : LeavesAll instructions program) :
    ∃ groups, List.Forall₂ (engine.Yields passes) segments groups ∧ program = groups.flatten := by
  induction segments generalizing instructions program with
  | nil =>
    obtain rfl := Except.ok.inj h
    cases hprogram
    exact ⟨[], .nil, rfl⟩
  | cons segment segments ih =>
    rw [List.map_cons, instructionsOfAll] at h
    obtain ⟨first, hfirst, h⟩ := Script.bind_eq_ok_iff.1 h
    obtain ⟨others, hothers, h⟩ := Script.bind_eq_ok_iff.1 h
    obtain rfl := Except.ok.inj h
    obtain ⟨ops, more, rfl, hops, hmore⟩ := hprogram.split
    obtain ⟨groups, hgroups, rfl⟩ := ih hothers hmore
    exact ⟨ops :: groups, .cons ⟨first, hfirst, hops⟩ hgroups, rfl⟩

/-- The calls in the scripts of an engine that are left as they are. -/
def leavesCall (engine : Engine) : String → Bool :=
  passesThrough (Bindings.keys engine.natives)

/-- The nodes of a view with the default delimiters are the nodes of its segments. -/
lemma nodes_of_default (engine : Engine) {view : View} (h : view.delimiters = {}) :
    engine.nodes view =
      match segments defaultMarkers view.contents.toList with
      | .error e => .error (.scan e)
      | .ok cut => .ok (cut.map (Segment.node engine.leavesCall)) := by
  rw [nodes, h, tokens, markersOf_default]
  dsimp only
  cases hcut : segments defaultMarkers view.contents.toList with
  | error e => rfl
  | ok cut =>
    dsimp only [Except.map]
    rw [nodesOf_segments]
    rfl

/-- A program of a view is what the segments of its template leave. -/
lemma exists_segments {engine : Engine} {view : View} (h : view.delimiters = {})
    {program : Linked} (hprogram : engine.program view = .ok program) :
    ∃ cut groups, segments defaultMarkers view.contents.toList = .ok cut ∧
      List.Forall₂ (engine.Yields engine.leavesCall) cut groups ∧ program = groups.flatten := by
  obtain ⟨list, hlist, hassemble⟩ := exists_instructions hprogram
  obtain ⟨nodes, hnodes, hall⟩ := Script.bind_eq_ok_iff.1 hlist
  rw [nodes_of_default engine h] at hnodes
  cases hcut : segments defaultMarkers view.contents.toList with
  | error e => simp [hcut] at hnodes
  | ok cut =>
    rw [hcut] at hnodes
    obtain rfl := Except.ok.inj hnodes
    obtain ⟨groups, hgroups, hflat⟩ := exists_groups hall (leavesAll_of_assemble hassemble)
    exact ⟨cut, groups, rfl, hgroups, hflat⟩

lemma instructionsOf_ne_scan (engine : Engine) (node : Node) (e : ScanError) :
    engine.instructionsOf node ≠ .error (.scan e) := by
  fun_cases engine.instructionsOf node <;> simp

/-- A scan error of a view comes from the cut of its template. -/
lemma segments_of_program_eq_scan {engine : Engine} {view : View} (h : view.delimiters = {})
    {e : ScanError} (herror : engine.program view = .error (.scan e)) :
    segments defaultMarkers view.contents.toList = .error e := by
  rw [program] at herror
  obtain hnodes | ⟨nodes, -, herror⟩ := bind_eq_error herror
  · rw [nodes_of_default engine h] at hnodes
    cases hcut : segments defaultMarkers view.contents.toList with
    | error e' =>
      rw [hcut] at hnodes
      rw [PageError.scan.inj (Except.error.inj hnodes)]
    | ok cut => simp [hcut] at hnodes
  obtain hall | ⟨instructions, -, herror⟩ := bind_eq_error herror
  · exact absurd hall
      (instructionsOfAll_ne_error (fun node => engine.instructionsOf_ne_scan node e) nodes)
  · split at herror <;> cases herror

/-! ## Lines of operations and of scan errors -/

/-- Reported lines are lines of the source.  The template of a view with the default delimiters is
what stands between two blank margins.  A program of the view falls apart into what the segments of
the template leave, and every operation is on the line where its segment starts in the untrimmed
source.  If the template cannot be cut, it can be up to a construct that is refused, and the error
is on the line of the opening marker of that construct, or on the line of the bracket in it that
closes nothing. -/
theorem lines_are_source_lines (engine : Engine) (view : View) (h : view.delimiters = {}) :
    ∃ margin back,
      view.contents.toList =
        margin ++ ((Text.trimBlankLines view.contents.toList).kept ++ back) ∧
      (∀ c ∈ margin ++ back, Text.isBlank c = true) ∧
      (∀ program, engine.program view = .ok program →
        ∃ cut groups, segments defaultMarkers view.contents.toList = .ok cut ∧
          (Text.trimBlankLines view.contents.toList).kept = cut.flatMap Segment.source ∧
          List.Forall₂ (engine.Yields engine.leavesCall) cut groups ∧ program = groups.flatten ∧
          ∀ k ops, groups[k]? = some ops → ∀ op ∈ ops,
            op.line = lineBehind (margin ++ (cut.take k).flatMap Segment.source)) ∧
      ∀ e, engine.program view = .error (.scan e) →
        CutFails defaultMarkers margin (Text.trimBlankLines view.contents.toList).kept e := by
  obtain ⟨margin, back, hsource, hblank, hcuts, hfails⟩ :=
    segments_lines oneLine_default view.contents.toList
  refine ⟨margin, back, hsource, hblank, ?_, ?_⟩
  · intro program hprogram
    obtain ⟨cut, groups, hcut, hgroups, hflat⟩ := exists_segments h hprogram
    obtain ⟨hkept, hlines⟩ := (hcuts cut hcut).lines oneLine_default
    rw [List.append_nil] at hkept
    refine ⟨cut, groups, hcut, hkept, hgroups, hflat, ?_⟩
    intro k ops hops op hop
    obtain ⟨hlength, hyields⟩ := List.forall₂_iff_get.1 hgroups
    obtain ⟨hk, rfl⟩ := List.getElem?_eq_some_iff.1 hops
    have hsegment : k < cut.length := hlength ▸ hk
    rw [(hyields k hsegment hk).line hop]
    exact hlines k _ (List.getElem?_eq_getElem hsegment)
  · intro e herror
    exact hfails e (segments_of_program_eq_scan h herror)

/-- A loop behind two blank lines, and a tag with a bracket that closes nothing on its second
line. -/
theorem lines_are_source_lines_loop :
    let engine : Engine := {}
    let looping : View :=
      { contents := "\n\n<% foreach($xs as $x) %>\n\x7b\x7b $x \x7d\x7d\n<% endforeach %>\n" }
    let broken : View := { contents := "\na\n\x7b\x7b $x[\n) \x7d\x7d" }
    (∃ program, engine.program looping = .ok program ∧ program.map (·.line) = [3, 3, 4, 4, 5] ∧
      ∃ margin cut groups,
        List.Forall₂ (engine.Yields engine.leavesCall) cut groups ∧ program = groups.flatten ∧
        ∀ k ops, groups[k]? = some ops → ∀ op ∈ ops,
          op.line = lineBehind (margin ++ (cut.take k).flatMap Segment.source)) ∧
    engine.program broken =
      .error (.scan (.unbalancedBracket (.body .sanitized) ')' 4)) ∧
    ∃ margin, CutFails defaultMarkers margin (Text.trimBlankLines broken.contents.toList).kept
      (.unbalancedBracket (.body .sanitized) ')' 4) := by
  intro engine looping broken
  have hlines : (engine.program looping).toOption.map (List.map (·.line)) =
      some [3, 3, 4, 4, 5] := by
    decide +kernel
  have hbroken : engine.program broken =
      .error (.scan (.unbalancedBracket (.body .sanitized) ')' 4)) := by
    have hcut : segments defaultMarkers broken.contents.toList =
        .error (.unbalancedBracket (.body .sanitized) ')' 4) := by
      decide +kernel
    rw [program, nodes_of_default engine rfl, hcut]
    rfl
  obtain ⟨program, hprogram, hlines⟩ : ∃ program, engine.program looping = .ok program ∧
      program.map (·.line) = [3, 3, 4, 4, 5] := by
    cases hprogram : engine.program looping with
    | error e => simp [hprogram, Except.toOption] at hlines
    | ok program => exact ⟨program, rfl, by simpa [hprogram, Except.toOption] using hlines⟩
  obtain ⟨margin, back, -, -, hruns, -⟩ := lines_are_source_lines engine looping rfl
  obtain ⟨cut, groups, -, -, hgroups, hflat, hplaces⟩ := hruns program hprogram
  obtain ⟨margin', back', -, -, -, hfails⟩ := lines_are_source_lines engine broken rfl
  exact ⟨⟨program, hprogram, hlines, margin, cut, groups, hgroups, hflat, hplaces⟩, hbroken,
    margin', hfails _ hbroken⟩

end ViewTemplate.Engine
