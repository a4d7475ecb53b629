import Mathlib.Tactic.Common
import ViewTemplate.Page.Compiler
import ViewTemplate.Proofs.EmbeddedScripts
import ViewTemplate.Proofs.WrittenParts

/-!
# Data inside of parts

What a part shows is put together by looking for a marker in texts, and a text that was echoed from
a variable is looked at like any other.  So data is shown as it is only as far as it does not look
like the marker.  This file says how far that is.

For the page that puts a variable between brackets into a part and shows it, the answer is exact
(`output_bracketPage`, `withoutPlaces_eq_self_iff`): every occurrence of the marker in the value is
dropped, and the value is shown unchanged just if it has none.

For any page and any definitions of the part in other generations, a value without the control
character that the marker starts with is safe.  It becomes a fragment of the body that is being
written (`Running.Writes.echo`), the body becomes a definition (`Running.Writes.endPart`), and a
fragment of a definition that composition reaches is shown as it is (`infix_resolve`).

These single steps are put together along the run of a whole page.  `Engine.Echoes` fixes the state
at which a view echoes a text into an open part.  From there on the text stands in the part
(`Echoes.contains`), and when the view and its ancestors have been rendered, in a definition
(`Echoes.defined`).
-/

namespace ViewTemplate.Text

/-! ## Texts that are followed by a character of no marker -/

lemma afterMarker?_concat {marker : List Char} {d : Char} (hd : d ∉ marker) (text : List Char) :
    afterMarker? marker (text ++ [d]) = (afterMarker? marker text).map (· ++ [d]) := by
  induction marker generalizing text with
  | nil => rfl
  | cons m marker ih =>
    obtain ⟨hm, hmarker⟩ := not_or.1 (List.mem_cons.not.1 hd)
    cases text with
    | nil => simp [afterMarker?, Ne.symm hm]
    | cons c text =>
      by_cases hc : m = c
      · rw [List.cons_append, afterMarker?, if_pos hc, ih hmarker, afterMarker?, if_pos hc]
      · rw [List.cons_append, afterMarker?, if_neg hc, afterMarker?, if_neg hc]
        rfl

lemma splitAtMarker?_concat {marker : List Char} (hm : marker ≠ []) {d : Char} (hd : d ∉ marker)
    (text : List Char) :
    splitAtMarker? marker (text ++ [d]) =
      (splitAtMarker? marker text).map fun cut => (cut.1, cut.2 ++ [d]) := by
  induction text with
  | nil =>
    obtain ⟨m, more, rfl⟩ := List.exists_cons_of_ne_nil hm
    have hafter := afterMarker?_concat hd []
    simp only [List.nil_append, afterMarker?, Option.map_none] at hafter
    simp [splitAtMarker?, afterMarker?, hafter]
  | cons c text ih =>
    have hafter := afterMarker?_concat hd (c :: text)
    rw [List.cons_append] at hafter
    rw [List.cons_append, splitAtMarker?, hafter, splitAtMarker?, ih]
    cases afterMarker? marker (c :: text) with
    | some rest => rfl
    | none => simp [Option.map_map, Function.comp_def]

lemma replaceMarker_concat {marker : List Char} (hm : marker ≠ []) {d : Char} (hd : d ∉ marker)
    (replacement text : List Char) :
    replaceMarker marker replacement (text ++ [d]) =
      replaceMarker marker replacement text ++ [d] := by
  -- What is left behind an occurrence of the marker is shorter than the text.
  induction hlength : text.length using Nat.strongRecOn generalizing text with
  | ind length ih =>
    have hsplit := splitAtMarker?_concat hm hd text
    cases hcut : splitAtMarker? marker text with
    | none =>
      rw [hcut, Option.map_none] at hsplit
      rw [replaceMarker_of_none hcut, replaceMarker_of_none hsplit]
    | some cut =>
      obtain ⟨before, rest⟩ := cut
      have hshorter : rest.length < length :=
        hlength ▸ splitAtMarker?_length_lt (by simpa using hm) hcut
      rw [hcut, Option.map_some] at hsplit
      rw [replaceMarker_of_some hm hcut, replaceMarker_of_some hm hsplit,
        ih rest.length hshorter rest rfl]
      simp

lemma length_replaceMarker_nil_le {marker : List Char} (hm : marker ≠ []) (text : List Char) :
    (replaceMarker marker [] text).length ≤ text.length := by
  induction hlength : text.length using Nat.strongRecOn generalizing text with
  | ind length ih =>
    subst hlength
    cases hcut : splitAtMarker? marker text with
    | none => rw [replaceMarker_of_none hcut]
    | some cut =>
      obtain ⟨before, rest⟩ := cut
      have hrest := ih rest.length (splitAtMarker?_length_lt (by simpa using hm) hcut) rest rfl
      have htext := congrArg List.length (splitAtMarker?_eq_some hcut)
      rw [replaceMarker_of_some hm hcut]
      simp only [List.length_append, List.length_nil] at htext ⊢
      omega

/-- Dropping a marker changes just those texts that have it. -/
lemma replaceMarker_nil_eq_self_iff {marker : List Char} (hm : marker ≠ []) (text : List Char) :
    replaceMarker marker [] text = text ↔ hasMarker marker text = false := by
  cases hcut : splitAtMarker? marker text with
  | none => simp [hasMarker, hcut, replaceMarker_of_none hcut]
  | some cut =>
    obtain ⟨before, rest⟩ := cut
    have hne : replaceMarker marker [] text ≠ text := by
      intro heq
      have hshown := congrArg List.length heq
      have htext := congrArg List.length (splitAtMarker?_eq_some hcut)
      have hrest := length_replaceMarker_nil_le hm rest
      have hmarker := List.length_pos_iff.2 hm
      rw [replaceMarker_of_some hm hcut] at hshown
      simp only [List.length_append, List.length_nil] at htext hshown
      omega
    simp [hasMarker, hcut, hne]

end ViewTemplate.Text

namespace ViewTemplate

open ViewTemplate.Program (Linked Machine Outcome)
open ViewTemplate.Template (Node Segment)

/-! ## A variable between brackets -/

/-- A template with one part, a variable between brackets, that shows the part. -/
def bracketTemplate : String :=
  "<% part(\"p\") %>[\x7b\x7b! $s !\x7d\x7d]<% endpart %><% show(\"p\") %>"

/-- The page of the template and a text. -/
def bracketPage (s : String) : View where
  contents := bracketTemplate
  vars := [("s", .text s)]
  distinct := List.nodup_singleton _

def bracketSegments : List Segment :=
  [.directive "<%".toList " ".toList "part".toList "(\"p\") ".toList "%>".toList 1,
    .text "[".toList "[".toList 1,
    .block .unsanitized "\x7b\x7b!".toList " $s ".toList "!\x7d\x7d".toList 1,
    .text "]".toList "]".toList 1,
    .directive "<%".toList " ".toList "endpart".toList " ".toList "%>".toList 1,
    .directive "<%".toList " ".toList "show".toList "(\"p\") ".toList "%>".toList 1]

def bracketNodes : List Node :=
  [.directive ⟨"part", 1⟩ (some ⟨"(\"p\")", 1⟩) 1, .text "[" 1,
    .block .unsanitized ⟨"$s", 1⟩ 1, .text "]" 1, .directive ⟨"endpart", 1⟩ none 1,
    .directive ⟨"show", 1⟩ (some ⟨"(\"p\")", 1⟩) 1]

def bracketProgram : Linked :=
  [⟨.act (.startPart (.literal (.text "p"))), 1⟩, ⟨.act (.text "["), 1⟩,
    ⟨.act (.echo (.var "s") false), 1⟩, ⟨.act (.text "]"), 1⟩, ⟨.act .endPart, 1⟩,
    ⟨.act (.showPart (some (.literal (.text "p")))), 1⟩]

/-- A text without the places in it. -/
def withoutPlaces (s : String) : String :=
  String.ofList (PartTable.fillPlace s.toList [])

lemma withoutPlaces_eq_self_iff (s : String) :
    withoutPlaces s = s ↔ Text.hasMarker parentPlace.toList s.toList = false := by
  have hne : parentPlace.toList ≠ [] := by decide
  rw [← Text.replaceMarker_nil_eq_self_iff hne, ← String.toList_inj, withoutPlaces,
    String.toList_ofList, PartTable.fillPlace]

/-- Brackets stand in no place. -/
lemma withoutPlaces_brackets (s : String) :
    withoutPlaces ("[" ++ s ++ "]") = "[" ++ withoutPlaces s ++ "]" := by
  have hne : parentPlace.toList ≠ [] := by decide
  have hclose : ']' ∉ parentPlace.toList := by decide
  have hfront : Text.replaceMarker parentPlace.toList [] ("[".toList ++ s.toList) =
      "[".toList ++ Text.replaceMarker parentPlace.toList [] s.toList :=
    Text.replaceMarker_append _ (by decide) [] s.toList
  rw [← String.toList_inj]
  simp only [withoutPlaces, PartTable.fillPlace, String.toList_ofList, String.toList_append]
  exact (Text.replaceMarker_concat hne hclose [] _).trans (congrArg (· ++ [']']) hfront)

namespace Engine

variable {φ : Type}

lemma segments_bracketTemplate :
    Template.segments Template.defaultMarkers bracketTemplate.toList = .ok bracketSegments := by
  decide +kernel

lemma nodesOf_bracketSegments (passes : String → Bool) :
    Template.nodesOf (bracketSegments.flatMap (Segment.tokens passes)) = .ok bracketNodes := by
  have hname : Script.markCalls passes (Text.trim "(\"p\") ".toList) = "(\"p\")".toList := by
    have hpieces : Script.pieces (Text.trim "(\"p\") ".toList) =
        [⟨.token (.symbol .openParen), "(".toList⟩, ⟨.token (.text "p"), "\"p\"".toList⟩,
          ⟨.token (.symbol .closeParen), ")".toList⟩] := by
      decide +kernel
    rw [Script.markCalls, hpieces]
    rfl
  have hvariable : Script.markCalls passes (Text.trim " $s ".toList) = "$s".toList := by
    have hpieces : Script.pieces (Text.trim " $s ".toList) =
        [⟨.token (.var "s"), "$s".toList⟩] := by
      decide +kernel
    rw [Script.markCalls, hpieces]
    rfl
  have hnothing : Text.trim " ".toList = [] := by decide
  simp only [bracketSegments, Segment.tokens, List.flatMap_cons, List.flatMap_nil, hname, hvariable,
    hnothing, List.isEmpty_nil, if_true]
  decide +kernel

lemma nodes_bracketPage (engine : Engine) (s : String) :
    engine.nodes (bracketPage s) = .ok bracketNodes := by
  have hcut : Template.segments Template.defaultMarkers (bracketPage s).contents.toList =
      .ok bracketSegments := segments_bracketTemplate
  have hmarkers : Template.markersOf (bracketPage s).delimiters = .ok Template.defaultMarkers :=
    Template.markersOf_default
  simp only [nodes, Template.tokens, hmarkers, hcut, Except.map, nodesOf_bracketSegments]

lemma parseExpression_quotedName :
    Script.parseExpression "\"p\"".toList = .ok (.literal (.text "p")) := by
  have hlexemes : Script.strictLexemes "\"p\"".toList = .ok [⟨.text "p", 0, 3⟩] := by
    decide +kernel
  simp only [Script.parseExpression, Script.lexemesOf, hlexemes]
  rfl

lemma parseExpression_variable : Script.parseExpression "$s".toList = .ok (.var "s") := by
  have hlexemes : Script.strictLexemes "$s".toList = .ok [⟨.var "s", 0, 2⟩] := by
    decide +kernel
  simp only [Script.parseExpression, Script.lexemesOf, hlexemes]
  rfl

lemma assemble_bracketNodes {engine : Engine}
    (h : engine.directives = ViewTemplate.directives) :
    (engine.instructionsOfAll bracketNodes).map Program.assemble = .ok (.ok bracketProgram) := by
  have hfind : Bindings.find? ViewTemplate.directives "part" =
      some (Directive.onExpression "part" .partName fun e => .act (.startPart e)) := rfl
  have hfind' : Bindings.find? ViewTemplate.directives "show" = some Directive.showPart := rfl
  have hpart : Directive.onExpression "part" .partName (fun e => .act (.startPart e))
      "(\"p\")".toList = .ok [.act (.startPart (.literal (.text "p")))] := by
    have hinner : Directive.required "part" .partName "(\"p\")".toList = .ok "\"p\"".toList := rfl
    simp only [Directive.onExpression, hinner, bind, Except.bind, parseExpression_quotedName,
      Directive.lift]
  have hshow : Directive.showPart "(\"p\")".toList =
      .ok [.act (.showPart (some (.literal (.text "p"))))] := by
    have hinner : Directive.stripParens "(\"p\")".toList = "\"p\"".toList := rfl
    simp only [Directive.showPart, hinner, parseExpression_quotedName]
    rfl
  simp only [bracketNodes, instructionsOfAll, instructionsOf, h, hfind, hfind', Option.map_some,
    Option.getD_some, hpart, hshow, parseExpression_variable]
  rfl

lemma program_bracketPage {engine : Engine} (h : engine.directives = ViewTemplate.directives)
    (s : String) : engine.program (bracketPage s) = .ok bracketProgram := by
  have hmake := assemble_bracketNodes h
  obtain ⟨instructions, hinstructions, hassemble⟩ :
      ∃ instructions, engine.instructionsOfAll bracketNodes = .ok instructions ∧
        Program.assemble instructions = .ok bracketProgram := by
    cases hall : engine.instructionsOfAll bracketNodes with
    | error e => simp [hall, Except.map] at hmake
    | ok instructions => exact ⟨instructions, rfl, by simpa [hall, Except.map] using hmake⟩
  simp [program, nodes_bracketPage, hinstructions, hassemble, bind, Except.bind]

lemma runAll_bracketProgram (engine : Engine) (create : ViewSource φ) (place : ViewPlace)
    (inner : RenderInner φ) (steps : Nat) (s : String) (source : φ) :
    (engine.machine create place inner).runAll bracketProgram (steps + 7)
        ⟨[("s", .text s)], {}, none, { source }⟩ =
      .done ⟨[("s", .text s)],
        { text := "" ++
            (PartTable.define {} "p" place.generation ("" ++ "[" ++ s ++ "]")).resolve "p" },
        none, { parts := .define {} "p" place.generation ("" ++ "[" ++ s ++ "]"), source }⟩ :=
  rfl

lemma trimBlankLinesString_brackets (s : String) :
    Text.trimBlankLinesString ("[" ++ s ++ "]") = "[" ++ s ++ "]" := by
  have hlist : ("[" ++ s ++ "]").toList = '[' :: (s.toList ++ [']']) := by simp
  rw [Text.trimBlankLinesString, hlist,
    Template.trimBlankLines_of_ends (by decide) (by decide), ← hlist, String.ofList_toList]

/-- The page shows its variable without the places in it. -/
lemma renderPage_bracketPage {engine : Engine} (h : engine.directives = ViewTemplate.directives)
    (hdepth : 0 < engine.maxDepth) (create : ViewSource φ) (steps : Nat) (s : String) (source : φ) :
    ∃ parts, engine.renderPage create (steps + 7) (bracketPage s) source =
      .done ("[" ++ withoutPlaces s ++ "]") (bracketPage s) { parts, source } := by
  obtain ⟨room, hroom⟩ := Nat.exists_eq_add_of_lt hdepth
  rw [Nat.zero_add] at hroom
  have hcycle : cycle? [] (bracketPage s).name = none := rfl
  have hresolve : (PartTable.define {} "p" 0 ("[" ++ s ++ "]")).resolve "p" =
      withoutPlaces ("[" ++ s ++ "]") := rfl
  have hshown : "" ++ (PartTable.define {} "p" 0 ("" ++ "[" ++ s ++ "]")).resolve "p" =
      "[" ++ withoutPlaces s ++ "]" := by
    rw [String.empty_append, String.empty_append, hresolve, withoutPlaces_brackets]
  refine ⟨PartTable.define {} "p" 0 ("" ++ "[" ++ s ++ "]"), ?_⟩
  have hrun := runAll_bracketProgram engine create ⟨(bracketPage s).name, 0⟩
    (engine.render create (steps + 7) room ([] ++ [(bracketPage s).name])) steps s source
  simp only [renderPage, hroom, render, renderWith, conclude, hcycle, program_bracketPage h]
  rw [show (bracketPage s).vars = [("s", .text s)] from rfl, hrun]
  simp only [hshown, trimBlankLinesString_brackets]

lemma output_bracketPage {engine : Engine} (h : engine.directives = ViewTemplate.directives)
    (hdepth : 0 < engine.maxDepth) (s : String) (factory : Factory) :
    engine.output (bracketPage s) factory = (.ok ("[" ++ withoutPlaces s ++ "]"), factory) := by
  have hsteps : unlimitedSteps = unlimitedSteps - 7 + 7 := rfl
  obtain ⟨parts, hpage⟩ := renderPage_bracketPage h hdepth Factory.create (unlimitedSteps - 7) s
    factory
  rw [output, hsteps, hpage]

end Engine

/-! ## Values that are safe in every part -/

namespace PartBody

lemma infix_filled_of_place {body : PartBody} (h : .place ∈ body) (outer : List Char) :
    outer <:+: filled outer body := by
  obtain ⟨front, back, rfl⟩ := List.append_of_mem h
  rw [filled_append, filled, ← List.append_assoc]
  exact List.infix_append _ _ _

lemma infix_filled_of_fragment {body : PartBody} {text : String} {clean : '\x01' ∉ text.toList}
    (h : .fragment text clean ∈ body) (outer : List Char) :
    text.toList <:+: filled outer body := by
  obtain ⟨front, back, rfl⟩ := List.append_of_mem h
  rw [filled_append, filled, ← List.append_assoc]
  exact List.infix_append _ _ _

/-- A fragment is shown as it is if all nearer bodies have places. -/
lemma infix_nested {nearer outer : List PartBody} (hnearer : ∀ b ∈ nearer, .place ∈ b)
    {body : PartBody} {text : String} {clean : '\x01' ∉ text.toList}
    (h : .fragment text clean ∈ body) : text.toList <:+: nested (nearer ++ body :: outer) := by
  induction nearer with
  | nil => exact infix_filled_of_fragment h (nested outer)
  | cons nearest nearer ih =>
    have hinner := ih fun b hb => hnearer b (List.mem_cons_of_mem _ hb)
    have hplace := infix_filled_of_place (hnearer nearest List.mem_cons_self)
      (nested (nearer ++ body :: outer))
    exact hinner.trans hplace

end PartBody

namespace PartDefinition

/-- Composition comes to a generation: all nearer definitions of the part have a place for the
outer one. -/
def Reaches (ds : List PartDefinition) (name : String) (generation : Nat) : Prop :=
  ∀ nearer < generation, ∀ body, latest? ds name nearer = some body → .place ∈ body

lemma exists_latestBodies_eq {ds : List PartDefinition} {name : String} {generation : Nat}
    {body : PartBody} (h : latest? ds name generation = some body) :
    ∃ nearer outer, latestBodies ds name = nearer ++ body :: outer ∧
      ∀ b ∈ nearer, ∃ g < generation, latest? ds name g = some b := by
  obtain ⟨front, back, hsplit⟩ := List.append_of_mem (mem_generations.2 ⟨body, h⟩)
  have hsorted := pairwise_generations ds name
  rw [hsplit, List.pairwise_append] at hsorted
  refine ⟨front.filterMap (latest? ds name), back.filterMap (latest? ds name), ?_, ?_⟩
  · rw [latestBodies, hsplit, List.filterMap_append, List.filterMap_cons_some h]
  · intro b hb
    obtain ⟨g, hg, hlatest⟩ := List.mem_filterMap.1 hb
    exact ⟨g, hsorted.2.2 g hg generation List.mem_cons_self, hlatest⟩

/-- A fragment of a definition that composition comes to is shown as it is. -/
lemma infix_resolve {ds : List PartDefinition} {name : String} {generation : Nat}
    {body : PartBody} (hlatest : latest? ds name generation = some body)
    (hreaches : Reaches ds name generation) {text : String} {clean : '\x01' ∉ text.toList}
    (h : .fragment text clean ∈ body) :
    text.toList <:+: ((PartTable.after ds).resolve name).toList := by
  obtain ⟨nearer, outer, hbodies, hnearer⟩ := exists_latestBodies_eq hlatest
  rw [PartTable.resolve_after_eq, String.toList_ofList, hbodies]
  refine PartBody.infix_nested (fun b hb => ?_) h
  obtain ⟨g, hg, hb⟩ := hnearer b hb
  exact hreaches g hg b hb

end PartDefinition

namespace Running

variable {φ : Type}

/-- A view is writing a body into an open part, after the definitions `ds` have been made. -/
structure Writes (r : Running φ) (name : String) (body : PartBody) (ds : List PartDefinition) :
    Prop where
  opened : ∃ line outer, r.out.parts = ⟨name, line, body.text⟩ :: outer
  made : r.shared.parts = PartTable.after ds

namespace Writes

variable {r : Running φ} {name : String} {body : PartBody} {ds : List PartDefinition}

/-- A text that is echoed becomes a fragment of the body. -/
lemma echo (h : r.Writes name body ds) {engine : Engine} {e : Script.Expr} {line : Nat} {v : Value}
    (hv : engine.evalAt e line r.scope = .ok v) {sanitize : Bool} {s : String}
    (hs : (if sanitize then engine.sanitize v.display else v.display) = s)
    (clean : '\x01' ∉ s.toList) (create : ViewSource φ) (place : ViewPlace)
    (inner : RenderInner φ) :
    ∃ r', engine.perform create place inner (.echo e sanitize) line r = .done r' ∧
      r'.Writes name (body ++ [.fragment s clean]) ds := by
  obtain ⟨partLine, outer, hopened⟩ := h.opened
  refine ⟨r.write s, ?_, ⟨partLine, outer, ?_⟩, h.made⟩
  · simp only [Engine.perform, Engine.withValue, hv, hs]
  · rw [write, Output.write, hopened, PartBody.text_append, PartBody.text_fragment]

/-- The body becomes a definition at the end of the part, and when it is shown there. -/
lemma endPart (h : r.Writes name body ds) (engine : Engine) (create : ViewSource φ)
    (place : ViewPlace) (inner : RenderInner φ) (line : Nat) :
    ∃ r', engine.perform create place inner .endPart line r = .done r' ∧
      engine.perform create place inner (.showPart none) line r = .done (r'.writePart name) ∧
      r'.shared.parts = PartTable.after (ds ++ [⟨name, place.generation, body⟩]) := by
  obtain ⟨partLine, outer, hopened⟩ := h.opened
  let closed : Running φ := { r with out := { r.out with parts := outer } }
  have hend : r.endPart? place.generation = some (⟨name, partLine, body.text⟩,
      closed.define name place.generation body.text) := by
    simp [endPart?, Output.closePart?, hopened, closed]
  refine ⟨closed.define name place.generation body.text, ?_, ?_, ?_⟩
  · simp only [Engine.perform, hend]
  · simp only [Engine.perform, hend]
  · rw [PartTable.after_concat, ← h.made]
    rfl

end Writes

/-- A text in a definition that composition comes to is shown as it is. -/
lemma exists_writePart_eq {r : Running φ} {name : String} {ds : List PartDefinition}
    (hmade : r.shared.parts = PartTable.after ds) {generation : Nat} {body : PartBody}
    (hlatest : PartDefinition.latest? ds name generation = some body)
    (hreaches : PartDefinition.Reaches ds name generation) {s : String}
    {clean : '\x01' ∉ s.toList} (hs : .fragment s clean ∈ body) (engine : Engine)
    (create : ViewSource φ) (place : ViewPlace) (inner : RenderInner φ) :
    ∃ shown, r.writePart name = r.write shown ∧ s.toList <:+: shown.toList ∧
      ∀ e line, engine.evalAt e line r.scope = .ok (.text name) →
        engine.perform create place inner (.showPart (some e)) line r = .done (r.write shown) := by
  refine ⟨r.shared.parts.resolve name, rfl, ?_, fun e line he => ?_⟩
  · rw [hmade]
    exact PartDefinition.infix_resolve hlatest hreaches hs
  · simp only [Engine.perform, Engine.withValue, he]
    rfl

end Running

namespace Engine

variable {φ : Type}

/-- At a state of its run a visited view echoes a text into an open part. -/
structure Echoes (engine : Engine) (create : ViewSource φ) (steps : Nat) (v : Visit φ)
    (program : Linked) (t : Machine.State (Running φ)) (s : String) (part : OpenPart)
    (outer : List OpenPart) : Prop where
  program_eq : engine.program v.view = .ok program
  reached : ∃ count, (engine.machineOf create steps v).Goes program count v.request.start t
  opened : t.state.out.parts = part :: outer
  echo : ∃ e sanitize line value, program[t.position]? = some ⟨.act (.echo e sanitize), line⟩ ∧
    engine.evalAt e line t.state.scope = .ok value ∧
    (if sanitize then engine.sanitize value.display else value.display) = s

namespace Echoes

variable {engine : Engine} {create : ViewSource φ} {view : View} {source : φ} {steps : Nat}
  {v : Visit φ} {program : Linked} {t : Machine.State (Running φ)} {s : String} {part : OpenPart}
  {outer : List OpenPart} (h : engine.Echoes create steps v program t s part outer)

include h

lemma step {op : Program.Lined Program.Op} {u : Machine.State (Running φ)}
    (hop : program[t.position]? = some op)
    (hstep : (engine.machineOf create steps v).step op.item op.line t = .next u) :
    u.state = t.state.write s := by
  obtain ⟨e, sanitize, line, value, hecho, hvalue, hs⟩ := h.echo
  obtain rfl := Option.some.inj (hop.symm.trans hecho)
  simp only [Machine.step, machineOf, machine, perform, withValue, hvalue, hs] at hstep
  cases hstep
  rfl

variable (hpage : engine.CleanPage create view source)
  (hv : engine.Visited create view source v) (hentered : v.Entered) (clean : '\x01' ∉ s.toList)

include hpage hv hentered

lemma contains {count : Nat} {u : Machine.State (Running φ)}
    (hu : (engine.machineOf create steps v).Goes program (count + 1) t u) :
    ∃ w, u.state.Holds w ∧
      w.Contains (.fragment s clean) part.name v.generation outer.length := by
  obtain ⟨made, hmade⟩ := hpage.exists_made hv
  obtain ⟨before, ht⟩ := h.reached
  obtain ⟨op, next, hop, hstep, hrest⟩ := hu.exists_first
  obtain ⟨w, hw, -⟩ := hpage.holds_of_start hv hentered h.program_eq hmade ht
  obtain ⟨body, around, hbody, -, haround⟩ := hw.opened_cons h.opened
  have hwritten : next.state.Holds (w.add [.fragment s clean]) := by
    rw [h.step hop hstep]
    exact hw.write clean
  have hcontains : (w.add [.fragment s clean]).Contains (.fragment s clean) part.name v.generation
      outer.length := by
    refine .inl ⟨[], body ++ [.fragment s clean], around, ?_, ?_, by simp⟩
    · simp [PartState.add, hbody]
    · simpa using (congrArg List.length haround).symm
  obtain ⟨w', hw', hsteps⟩ := hpage.holds_of_goes hv hentered h.program_eq (.step ht hop hstep)
    hrest hwritten
  exact ⟨w', hw', hcontains.steps hsteps⟩

/-- Once the view is rendered, with its ancestors, the text stands in a definition. -/
lemma defined {text : String} {after : View} {shared : Shared φ}
    (hdone : engine.rendering create steps v = .done text after shared) :
    ∃ made, shared.parts = PartTable.after made ∧
      ∃ d ∈ made, d.name = part.name ∧ d.generation = v.generation ∧
        .fragment s clean ∈ d.body := by
  obtain ⟨-, r, ⟨program', hprogram, hrun⟩, hparts, hend⟩ := rendering_eq_done hdone
  obtain rfl : program = program' := Except.ok.inj (h.program_eq.symm.trans hprogram)
  obtain ⟨before, ht⟩ := h.reached
  obtain ⟨e, sanitize, line, value, hecho, -, -⟩ := h.echo
  obtain ⟨rest, u, hu, hlast, rfl⟩ := Machine.Goes.exists_rest ht hrun
  obtain ⟨count, rfl⟩ : ∃ count, rest = count + 1 := by
    cases rest with
    | succ count => exact ⟨count, rfl⟩
    | zero =>
      cases hu
      rw [hlast] at hecho
      cases hecho
  obtain ⟨w, hw, hwriting | ⟨d, hd, hfits⟩⟩ := h.contains hpage hv hentered clean hu
  · -- No part is open at the end of the run.
    obtain ⟨inner, body, around, hopened, -, -⟩ := hwriting
    simp [hw.opened_nil hparts] at hopened
  · obtain ⟨-, -, -, rfl⟩ | ⟨parent, behind, above, hextends, hparent, -, -⟩ := hend
    · -- the view is the outermost one
      exact ⟨w.made, hw.made, d, hd, hfits⟩
    · -- the ancestors are rendered with the definitions made so far, and keep them
      obtain ⟨r', name, made, found, hruns, hname, hcreate, rfl⟩ := hextends
      obtain rfl := RunsTo.unique ⟨program, hprogram, hrun⟩ hruns
      have hcalls : engine.Calls create v (v.toParent u.state made found) :=
        calls_of_asks hentered (.parent hprogram hrun hparts hname hcreate)
      have hstart : (v.toParent u.state made found).shared.parts = PartTable.after w.made := hw.made
      have hkeeps := hpage.keeps_visited (hv.tail hcalls) steps hstart
      rw [hparent] at hkeeps
      obtain ⟨-, more, hmore⟩ := hkeeps
      exact ⟨w.made ++ more, hmore, d, List.mem_append_left _ hd, hfits⟩

end Echoes

end Engine

/-! ## The page with brackets is clean -/

/-- An action that only writes: it binds no names, names no parent and puts no view in place. -/
def onlyWrites : Program.Action → Bool
  | .text _ => true
  | .echo _ _ => true
  | .startPart _ => true
  | .endPart => true
  | .showPart (some _) => true
  | _ => false

namespace Engine

variable {φ : Type} {engine : Engine} {create : ViewSource φ}

lemma frame_of_onlyWrites {place : ViewPlace} {inner : RenderInner φ} {a : Program.Action}
    {line : Nat} {r r' : Running φ} (ha : onlyWrites a = true)
    (h : engine.perform create place inner a line r = .done r') :
    r'.scope = r.scope ∧ r'.parent = r.parent := by
  cases performs_of_done h with
  | endPart hend =>
    obtain ⟨closed, -, hclosed⟩ := Option.map_eq_some_iff.1 hend
    obtain ⟨-, rfl⟩ := Prod.mk.inj hclosed
    exact ⟨rfl, rfl⟩
  | text | echo | startPart | showNamed => exact ⟨rfl, rfl⟩
  | run | inherit | embed | parent | showEnded | showLast | showNothing => simp [onlyWrites] at ha

lemma bracketProgram_onlyWrites {op : Program.Lined Program.Op} (h : op ∈ bracketProgram) :
    ∃ a, op.item = .act a ∧ onlyWrites a = true := by
  simp only [bracketProgram, List.mem_cons, List.not_mem_nil, or_false] at h
  rcases h with rfl | rfl | rfl | rfl | rfl | rfl
  all_goals exact ⟨_, rfl, rfl⟩

lemma frame_of_bracketProgram {place : ViewPlace} {inner : RenderInner φ} {count : Nat}
    {start t : Machine.State (Running φ)}
    (h : (engine.machine create place inner).Goes bracketProgram count start t) :
    t.state.scope = start.state.scope ∧ t.state.parent = start.state.parent := by
  refine h.keeps (I := fun t => t.state.scope = start.state.scope ∧
    t.state.parent = start.state.parent) (fun op hop s t hs hstep => ?_) ⟨rfl, rfl⟩
  obtain ⟨a, ha, hwrites⟩ := bracketProgram_onlyWrites hop
  rw [ha] at hstep
  have hframe : t.state.scope = s.state.scope ∧ t.state.parent = s.state.parent := by
    simp only [Machine.step] at hstep
    split at hstep
    · rename_i hact
      cases hstep
      exact frame_of_onlyWrites hwrites hact
    · cases hstep
    · cases hstep
  exact ⟨hframe.1.trans hs.1, hframe.2.trans hs.2⟩

/-- The page asks for no other view. -/
lemma visited_bracketPage (h : engine.directives = ViewTemplate.directives) {s : String}
    {source : φ} {v : Visit φ} (hv : engine.Visited create (bracketPage s) source v) :
    v = .page engine (bracketPage s) source := by
  rcases hv.cases_head with rfl | ⟨w, ⟨-, -, -, steps, hasks⟩, -⟩
  · rfl
  exfalso
  have hprogram := program_bracketPage h s
  generalize w.request = q at hasks
  cases hasks with
  | embedded hother hgoes hop hembeds =>
    obtain rfl := Except.ok.inj (hprogram.symm.trans hother)
    obtain ⟨name, vars, _, _, _, _, rfl, -⟩ := hembeds
    obtain ⟨a, ha, hwrites⟩ := bracketProgram_onlyWrites (List.mem_of_getElem? hop)
    obtain rfl := Program.Op.act.inj ha
    simp [onlyWrites] at hwrites
  | parent hother hrun hparts hname hcreate =>
    obtain rfl := Except.ok.inj (hprogram.symm.trans hother)
    obtain ⟨count, t, hgoes, -, rfl⟩ := Machine.exists_goes_of_run hrun
    have hparent : t.state.parent = none := (frame_of_bracketProgram hgoes).2
    rw [hparent] at hname
    cases hname

lemma cleanPage_bracketPage (h : engine.directives = ViewTemplate.directives)
    (create : ViewSource φ) {s : String} (clean : '\x01' ∉ s.toList) (source : φ) :
    engine.CleanPage create (bracketPage s) source := by
  intro v hv _ steps program count t a line text hprogram hgoes hop hwritten
  obtain rfl := visited_bracketPage h hv
  obtain rfl := Except.ok.inj ((program_bracketPage h s).symm.trans hprogram)
  have hscope : t.state.scope = [("s", .text s)] := (frame_of_bracketProgram hgoes).1
  have hmem := List.mem_of_getElem? hop
  simp only [bracketProgram, List.mem_cons, List.not_mem_nil, or_false, Program.Lined.mk.injEq,
    Program.Op.act.injEq] at hmem
  rcases hmem with ⟨rfl, -⟩ | ⟨rfl, -⟩ | ⟨rfl, -⟩ | ⟨rfl, -⟩ | ⟨rfl, -⟩ | ⟨rfl, -⟩
  · cases hwritten
  · obtain rfl := Option.some.inj hwritten
    decide
  · rw [hscope] at hwritten
    obtain rfl := Option.some.inj hwritten
    exact clean
  · obtain rfl := Option.some.inj hwritten
    decide
  · cases hwritten
  · cases hwritten

end Engine

/-- **Data inside of parts.**  On the page with a variable between brackets, a value is shown
without the places in it, and so unchanged just if it has none.  In general a text without the
control character of places that is echoed into an open part becomes a fragment of the definition of
the part, and whenever composition comes to that definition, whatever other generations define, the
part is shown with the text unchanged in it.

This goes for whole pages on which nothing writes the control character: from the echo on, the text
stands in the part at every state of the run, and in a definition when the view has been rendered.
No visit and no state loses a definition again. -/
theorem echoed_text_in_parts {φ : Type} (engine : Engine) (s : String) :
    (engine.directives = directives → 0 < engine.maxDepth → ∀ factory : Factory,
      engine.output (bracketPage s) factory = (.ok ("[" ++ withoutPlaces s ++ "]"), factory) ∧
      ((engine.output (bracketPage s) factory).1 = .ok ("[" ++ s ++ "]") ↔
        Text.hasMarker parentPlace.toList s.toList = false)) ∧
    (∀ (clean : '\x01' ∉ s.toList) (create : ViewSource φ) (place : ViewPlace)
      (inner : RenderInner φ) (r : Running φ) (name : String) (body : PartBody)
      (ds : List PartDefinition),
      (∀ e line v sanitize, r.Writes name body ds → engine.evalAt e line r.scope = .ok v →
        (if sanitize then engine.sanitize v.display else v.display) = s →
        ∃ r', engine.perform create place inner (.echo e sanitize) line r = .done r' ∧
          r'.Writes name (body ++ [.fragment s clean]) ds) ∧
      (∀ line, r.Writes name body ds →
        ∃ r', engine.perform create place inner .endPart line r = .done r' ∧
          engine.perform create place inner (.showPart none) line r = .done (r'.writePart name) ∧
          r'.shared.parts = .after (ds ++ [⟨name, place.generation, body⟩])) ∧
      ∀ generation, r.shared.parts = .after ds →
        PartDefinition.latest? ds name generation = some body → .fragment s clean ∈ body →
        PartDefinition.Reaches ds name generation →
        ∃ shown, r.writePart name = r.write shown ∧ s.toList <:+: shown.toList ∧
          ∀ e line, engine.evalAt e line r.scope = .ok (.text name) →
            engine.perform create place inner (.showPart (some e)) line r =
              .done (r.write shown)) ∧
    ∀ (clean : '\x01' ∉ s.toList) (create : ViewSource φ) (view : View) (source : φ),
      engine.CleanPage create view source → ∀ steps v, engine.Visited create view source v →
      v.Entered → ∀ program, engine.program v.view = .ok program →
      (∀ t part outer, engine.Echoes create steps v program t s part outer →
        (∀ count u, (engine.machineOf create steps v).Goes program (count + 1) t u →
          ∃ w, u.state.Holds w ∧
            w.Contains (.fragment s clean) part.name v.generation outer.length ∧
            ∀ body, PartDefinition.latest? w.made part.name v.generation = some body →
              .fragment s clean ∈ body → PartDefinition.Reaches w.made part.name v.generation →
              s.toList <:+: (u.state.shared.parts.resolve part.name).toList) ∧
        ∀ text after shared, engine.rendering create steps v = .done text after shared →
          ∃ made, shared.parts = .after made ∧ ∃ d ∈ made, d.name = part.name ∧
            d.generation = v.generation ∧ .fragment s clean ∈ d.body) ∧
      (∀ made, v.shared.parts = .after made → (engine.rendering create steps v).Keeps made) ∧
      ∀ count t w, (engine.machineOf create steps v).Goes program count v.request.start t →
        t.state.Holds w → ∀ more u, (engine.machineOf create steps v).Goes program more t u →
        ∃ w', u.state.Holds w' ∧ w.made <+: w'.made := by
  refine ⟨?_, ?_, ?_⟩
  · intro hdirectives hdepth factory
    have hpage := engine.output_bracketPage hdirectives hdepth s factory
    refine ⟨hpage, ?_⟩
    rw [hpage, ← withoutPlaces_eq_self_iff]
    simp
  · intro clean create place inner r name body ds
    exact ⟨fun e line v sanitize hwrites hv hs => hwrites.echo hv hs clean create place inner,
      fun line hwrites => hwrites.endPart engine create place inner line,
      fun generation hmade hlatest hs hreaches =>
        Running.exists_writePart_eq hmade hlatest hreaches hs engine create place inner⟩
  · intro clean create view source hpage steps v hv hentered program hprogram
    refine ⟨fun t part outer hechoes => ⟨fun count u hu => ?_, fun text after shared hdone => ?_⟩,
      fun made hmade => hpage.keeps_visited hv steps hmade, fun count t w ht hw more u hu => ?_⟩
    · obtain ⟨w, hw, hcontains⟩ := hechoes.contains hpage hv hentered clean hu
      refine ⟨w, hw, hcontains, fun body hlatest hs hreaches => ?_⟩
      rw [hw.made]
      exact PartDefinition.infix_resolve hlatest hreaches hs
    · exact hechoes.defined hpage hv hentered clean hdone
    · obtain ⟨w', hw', hsteps⟩ := hpage.holds_of_goes hv hentered hprogram ht hu hw
      exact ⟨w', hw', hsteps.made_prefix⟩

/-- A marker that is cut short is no place, a text is shown in the place that a nearer definition
leaves for it, and on the page with brackets a text stands in the part from its echo on. -/
theorem echoed_text_in_parts_nearer :
    (Engine.output {} (bracketPage "\x01quill:parent") {}).1 =
      .ok ("[" ++ "\x01quill:parent" ++ "]") ∧
    (∃ (r : Running Factory) (shown : String),
      r.shared.parts = .after [⟨"p", 1, [.fragment "v" (by decide)]⟩,
        ⟨"p", 0, [.fragment "<" (by decide), .place]⟩] ∧
      r.writePart "p" = r.write shown ∧ "v".toList <:+: shown.toList) ∧
    Engine.CleanPage {} Factory.create (bracketPage "v") {} ∧
    ∃ t u w, Engine.Echoes {} Factory.create 9 (.page {} (bracketPage "v") {}) bracketProgram t "v"
        ⟨"p", 1, "["⟩ [] ∧
      (Engine.machineOf {} Factory.create 9 (.page {} (bracketPage "v") {})).Goes bracketProgram 3 t
        u ∧
      u.state.Holds w ∧ w.Contains (.fragment "v" (by decide)) "p" 0 0 := by
  refine ⟨?_, ?_, ?_⟩
  · have hpage := (echoed_text_in_parts (φ := Factory) {} "\x01quill:parent").1 rfl (by decide) {}
    exact hpage.2.2 (by decide +kernel)
  · have hreaches : PartDefinition.Reaches [⟨"p", 1, [.fragment "v" (by decide)]⟩,
        ⟨"p", 0, [.fragment "<" (by decide), .place]⟩] "p" 1 := by
      intro nearer hnearer body hlatest
      obtain rfl : nearer = 0 := by omega
      obtain rfl := Option.some.inj hlatest
      exact List.mem_cons_of_mem _ List.mem_cons_self
    obtain ⟨shown, hwrite, hinfix, -⟩ := ((echoed_text_in_parts {} "v").2.1 (by decide)
      Factory.create ⟨"", 0⟩ (fun _ _ _ _ => .unfinished) ⟨[], {}, none, ⟨.after _, {}⟩⟩ "p" _
      _).2.2 1 rfl rfl List.mem_cons_self hreaches
    exact ⟨_, shown, rfl, hwrite, hinfix⟩
  · have hprogram : Engine.program {} (bracketPage "v") = .ok bracketProgram :=
      Engine.program_bracketPage rfl "v"
    have hclean : Engine.CleanPage {} Factory.create (bracketPage "v") {} :=
      Engine.cleanPage_bracketPage rfl Factory.create (by decide) {}
    have hechoes : Engine.Echoes {} Factory.create 9 (.page {} (bracketPage "v") {}) bracketProgram
        ⟨2, [], ⟨[("s", .text "v")], ⟨"", [⟨"p", 1, "["⟩]⟩, none, ⟨{}, {}⟩⟩⟩ "v" ⟨"p", 1, "["⟩ [] :=
      ⟨hprogram, ⟨2, .step (.step (.stays _) rfl rfl) rfl rfl⟩, rfl,
        ⟨.var "s", false, 1, .text "v", rfl, rfl, rfl⟩⟩
    have hgoes : (Engine.machineOf {} Factory.create 9 (.page {} (bracketPage "v") {})).Goes
        bracketProgram 3 ⟨2, [], ⟨[("s", .text "v")], ⟨"", [⟨"p", 1, "["⟩]⟩, none, ⟨{}, {}⟩⟩⟩ _ :=
      .step (.step (.step (.stays _) rfl rfl) rfl rfl) rfl rfl
    have hrun := (echoed_text_in_parts {} "v").2.2 (by decide) Factory.create (bracketPage "v") {}
      hclean 9 _ .refl ⟨by decide, rfl⟩ bracketProgram hprogram
    obtain ⟨w, hw, hcontains, -⟩ := (hrun.1 _ _ _ hechoes).1 2 _ hgoes
    exact ⟨hclean, _, _, w, hechoes, hgoes, hw, hcontains⟩

/-- A value that looks like a place is not shown. -/
theorem bracketPage_drops_place :
    (Engine.output {} (bracketPage parentPlace) {}).1 = .ok "[]" ∧
      (Engine.output {} (bracketPage parentPlace) {}).1 ≠ .ok ("[" ++ parentPlace ++ "]") := by
  have hdirectives : ({} : Engine).directives = directives := rfl
  have hpage := Engine.output_bracketPage hdirectives (by decide) parentPlace {}
  have hplace : withoutPlaces parentPlace = "" := by decide +kernel
  rw [hpage, hplace]
  refine ⟨rfl, fun h => ?_⟩
  exact absurd (Except.ok.inj h) (by decide)

end ViewTemplate
