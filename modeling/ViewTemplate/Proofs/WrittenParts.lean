import Mathlib.Logic.Relation
import Mathlib.Tactic.Common
import ViewTemplate.Proofs.PageVisits
import ViewTemplate.Proofs.PartComposition

/-!
# What a page writes into parts

A page keeps the parts that are open and the definitions that it has made as plain texts, with a
marker for every place.  `PartState` says what these texts stand for: bodies of fragments and
places.  `Running.Holds` ties the two together.

As long as nothing that is written has the control character of the marker in it, a view that runs
stays tied to such bodies.  One action is matched by a few steps of a `PartState`
(`Engine.holds_perform`), and so are the run of a program from any of its states on
(`Engine.holds_of_goes`) and the rendering of a view with all that is rendered inside of it
(`Engine.keeps_rendering`).  A piece that stands in a body stays there: in the body while the part
is open, and in a definition from then on (`PartState.Contains.steps`).
-/

namespace ViewTemplate.Text

lemma mem_of_mem_trimBlankLines {c : Char} {source : List Char}
    (h : c ∈ (trimBlankLines source).kept) : c ∈ source := by
  have hreturn : ∀ {text : List Char}, c ∈ dropCarriageReturn text → c ∈ text := by
    intro text hc
    unfold dropCarriageReturn at hc
    split at hc
    · exact List.dropLast_subset _ hc
    · exact hc
  have hmargin : source.takeWhile isBlank ⊆ source := (List.takeWhile_prefix _).subset
  have hbody : source.dropWhile isBlank ⊆ source := (List.dropWhile_suffix _).subset
  simp only [trimBlankLines] at h
  split at h
  · simp at h
  · have hkept := hreturn h
    simp only [List.mem_append] at hkept
    -- what is kept: the end of the margin in front, the text, and the start of the one behind
    rcases hkept with (hc | hc) | hc
    · rw [lastLine, List.mem_reverse] at hc
      exact hmargin (List.mem_reverse.1 ((List.takeWhile_prefix _).subset hc))
    · rw [trimEnd, List.mem_reverse] at hc
      exact hbody (List.mem_reverse.1 ((List.dropWhile_suffix _).subset hc))
    · have htail := (List.takeWhile_prefix _).subset hc
      rw [List.mem_reverse] at htail
      exact hbody (List.mem_reverse.1 ((List.takeWhile_prefix _).subset htail))

end ViewTemplate.Text

namespace ViewTemplate

open ViewTemplate.Program (Action Linked Machine)

variable {φ : Type}

/-! ## Bodies that are being written -/

namespace PartBody

lemma text_append (front back : PartBody) : text (front ++ back) = front.text ++ back.text := by
  rw [text, text, text, filled_append, String.ofList_append]

lemma text_fragment (s : String) (clean : '\x01' ∉ s.toList) : text [.fragment s clean] = s := by
  simp [text, filled]

lemma text_place : text [.place] = parentPlace := by
  simp [text, filled]

lemma notMem_nested (bodies : List PartBody) : '\x01' ∉ nested bodies := by
  induction bodies with
  | nil => simp [nested]
  | cons body outer ih =>
    rw [nested]
    induction body with
    | nil => simp [filled]
    | cons piece rest hrest =>
      cases piece with
      | place => simpa [filled] using ⟨ih, hrest⟩
      | fragment text clean => simpa [filled] using ⟨clean, hrest⟩

end PartBody

/-- The bodies that are being written, each with the name of its part and the innermost first, and
the definitions that have been made. -/
structure PartState where
  opened : List (String × PartBody) := []
  made : List PartDefinition := []

namespace PartState

/-- Add pieces to the innermost body, if there is one. -/
def add (w : PartState) (pieces : PartBody) : PartState where
  opened := w.opened.modifyHead fun o => (o.1, o.2 ++ pieces)
  made := w.made

/-- What can happen to bodies in a view of a generation. -/
inductive Step (generation : Nat) : PartState → PartState → Prop
  | add (w : PartState) (pieces : PartBody) : Step generation w (w.add pieces)
  | start (w : PartState) (name : String) :
      Step generation w { w with opened := (name, []) :: w.opened }
  | finish {name : String} {body : PartBody} {outer : List (String × PartBody)}
      {made : List PartDefinition} :
      Step generation ⟨(name, body) :: outer, made⟩ ⟨outer, made ++ [⟨name, generation, body⟩]⟩
  /-- Views inside of the view have made definitions. -/
  | define (w : PartState) (more : List PartDefinition) :
      Step generation w { w with made := w.made ++ more }

/-- What can happen to bodies, step after step. -/
abbrev Steps (generation : Nat) : PartState → PartState → Prop :=
  Relation.ReflTransGen (Step generation)

lemma Steps.made_prefix {generation : Nat} {w w' : PartState} (h : Steps generation w w') :
    w.made <+: w'.made := by
  induction h with
  | refl => exact List.prefix_rfl
  | tail _ hstep ih =>
    refine ih.trans ?_
    cases hstep with
    | add => exact List.prefix_rfl
    | start => exact List.prefix_rfl
    | finish => exact List.prefix_append _ _
    | define => exact List.prefix_append _ _

/-- A piece stands in a part that a generation writes, with `depth` parts open around it: in the
body while that is being written, and then in a definition. -/
def Contains (piece : PartPiece) (name : String) (generation depth : Nat) (w : PartState) : Prop :=
  (∃ inner body outer, w.opened = inner ++ (name, body) :: outer ∧ outer.length = depth ∧
    piece ∈ body) ∨
  ∃ d ∈ w.made, d.name = name ∧ d.generation = generation ∧ piece ∈ d.body

lemma Contains.step {piece : PartPiece} {name : String} {generation depth : Nat}
    {w w' : PartState} (h : w.Contains piece name generation depth)
    (hstep : Step generation w w') : w'.Contains piece name generation depth := by
  obtain ⟨inner, body, outer, hopened, hdepth, hpiece⟩ | ⟨d, hd, hfits⟩ := h
  · cases hstep with
    | add w pieces =>
      cases inner with
      | nil =>
        refine .inl ⟨[], body ++ pieces, outer, ?_, hdepth, List.mem_append_left _ hpiece⟩
        simp [add, hopened]
      | cons first inner =>
        refine .inl ⟨(first.1, first.2 ++ pieces) :: inner, body, outer, ?_, hdepth, hpiece⟩
        simp [add, hopened]
    | start w other =>
      exact .inl ⟨(other, []) :: inner, body, outer, by simp [hopened], hdepth, hpiece⟩
    | finish =>
      -- Either the part itself is closed, or one that was opened inside of it.
      cases inner with
      | nil =>
        obtain ⟨hfirst, -⟩ := List.cons.inj hopened
        obtain ⟨rfl, rfl⟩ := Prod.mk.inj hfirst
        exact .inr ⟨_, List.mem_append_right _ List.mem_cons_self, rfl, rfl, hpiece⟩
      | cons first inner =>
        exact .inl ⟨inner, body, outer, (List.cons.inj hopened).2, hdepth, hpiece⟩
    | define w more => exact .inl ⟨inner, body, outer, hopened, hdepth, hpiece⟩
  · have hmade : w.made <+: w'.made := Steps.made_prefix (.single hstep)
    exact .inr ⟨d, hmade.subset hd, hfits⟩

lemma Contains.steps {piece : PartPiece} {name : String} {generation depth : Nat}
    {w w' : PartState} (h : w.Contains piece name generation depth)
    (hsteps : Steps generation w w') : w'.Contains piece name generation depth := by
  induction hsteps with
  | refl => exact h
  | tail _ hstep ih => exact ih.step hstep

end PartState

open PartState (Steps)

/-! ## Texts that stand for bodies -/

/-- The open parts and the table of a view that runs are the texts of bodies, and its own text has
no control character. -/
structure Running.Holds (r : Running φ) (w : PartState) : Prop where
  opened : r.out.parts.map (fun p => (p.name, p.text)) = w.opened.map fun o => (o.1, o.2.text)
  made : r.shared.parts = PartTable.after w.made
  clean : '\x01' ∉ r.out.text.toList

namespace Running.Holds

variable {r r' : Running φ} {w : PartState}

lemma congr (h : r.Holds w) (hout : r'.out = r.out) (hparts : r'.shared.parts = r.shared.parts) :
    r'.Holds w :=
  ⟨hout ▸ h.opened, hparts ▸ h.made, hout ▸ h.clean⟩

/-- The innermost open part is the text of the innermost body. -/
lemma opened_cons (h : r.Holds w) {p : OpenPart} {parts : List OpenPart}
    (hparts : r.out.parts = p :: parts) :
    ∃ body outer, w.opened = (p.name, body) :: outer ∧ p.text = body.text ∧
      parts.map (fun p => (p.name, p.text)) = outer.map fun o => (o.1, o.2.text) := by
  have hopened := h.opened
  rw [hparts, List.map_cons] at hopened
  cases hw : w.opened with
  | nil => simp [hw] at hopened
  | cons first outer =>
    rw [hw, List.map_cons] at hopened
    obtain ⟨hfirst, houter⟩ := List.cons.inj hopened
    obtain ⟨hname, htext⟩ := Prod.mk.inj hfirst
    exact ⟨first.2, outer, by rw [hname], htext, houter⟩

lemma opened_nil (h : r.Holds w) (hparts : r.out.parts = []) : w.opened = [] := by
  have hopened := h.opened
  rw [hparts] at hopened
  exact List.map_eq_nil_iff.1 hopened.symm

lemma append (h : r.Holds w) {s : String} {pieces : PartBody} (htext : pieces.text = s)
    (hclean : r.out.parts = [] → '\x01' ∉ s.toList) : (r.write s).Holds (w.add pieces) := by
  cases hparts : r.out.parts with
  | nil =>
    refine ⟨?_, h.made, ?_⟩
    · simp [Running.write, Output.write, hparts, PartState.add, h.opened_nil hparts]
    · simpa [Running.write, Output.write, hparts] using ⟨h.clean, hclean hparts⟩
  | cons p parts =>
    obtain ⟨body, outer, hopened, hbody, houter⟩ := h.opened_cons hparts
    refine ⟨?_, h.made, ?_⟩
    · simp [Running.write, Output.write, hparts, PartState.add, hopened, hbody, houter,
        PartBody.text_append, htext]
    · simpa [Running.write, Output.write, hparts] using h.clean

lemma write (h : r.Holds w) {s : String} (clean : '\x01' ∉ s.toList) :
    (r.write s).Holds (w.add [.fragment s clean]) :=
  h.append (PartBody.text_fragment s clean) fun _ => clean

lemma writePlace (h : r.Holds w) (hopen : r.out.parts ≠ []) :
    (r.write parentPlace).Holds (w.add [.place]) :=
  h.append PartBody.text_place fun hnone => absurd hnone hopen

lemma openPart (h : r.Holds w) (name : String) (line : Nat) :
    Running.Holds { r with out := r.out.openPart name line }
      { w with opened := (name, []) :: w.opened } where
  opened := by
    have hempty : PartBody.text [] = "" := rfl
    simp [Output.openPart, h.opened, hempty]
  made := h.made
  clean := h.clean

lemma endPart (h : r.Holds w) {generation : Nat} {part : OpenPart}
    (hend : r.endPart? generation = some (part, r')) :
    ∃ w', r'.Holds w' ∧ PartState.Step generation w w' := by
  obtain ⟨closed, hclose, hclosed⟩ := Option.map_eq_some_iff.1 hend
  obtain ⟨rfl, rfl⟩ := Prod.mk.inj hclosed
  cases hparts : r.out.parts with
  | nil => simp [Output.closePart?, hparts] at hclose
  | cons p parts =>
    obtain ⟨body, outer, hopened, hbody, houter⟩ := h.opened_cons hparts
    obtain ⟨opened, made⟩ := w
    obtain rfl : opened = (p.name, body) :: outer := hopened
    obtain rfl : (p, { r.out with parts := parts }) = closed := by
      simpa [Output.closePart?, hparts] using hclose
    refine ⟨⟨outer, made ++ [⟨p.name, generation, body⟩]⟩, ⟨houter, ?_, h.clean⟩, .finish⟩
    rw [PartTable.after_concat, ← hbody, ← h.made]
    rfl

/-- What is shown of a part is a text without the control character. -/
lemma writePart (h : r.Holds w) (name : String) :
    ∃ clean, (r.writePart name).Holds (w.add [.fragment (r.shared.parts.resolve name) clean]) := by
  have clean : '\x01' ∉ (r.shared.parts.resolve name).toList := by
    rw [h.made, PartTable.resolve_after_eq, String.toList_ofList]
    exact PartBody.notMem_nested _
  exact ⟨clean, h.write clean⟩

end Running.Holds

/-- An answer that keeps definitions, and whose text has no control character. -/
def Rendering.Keeps (made : List PartDefinition) : Rendering φ → Prop
  | .done text _ shared =>
    '\x01' ∉ text.toList ∧ ∃ more, shared.parts = PartTable.after (made ++ more)
  | .failed _ _ _ => True
  | .unfinished => True

/-- The answer to a request keeps the definitions that were made before. -/
def Request.Keeps (inner : RenderInner φ) (q : Request φ) : Prop :=
  ∀ made, q.shared.parts = PartTable.after made → (q.render inner).Keeps made

namespace Engine

/-! ## What is written -/

/-- The text that an action writes by itself: literal text, a value, or what host code puts out. -/
def written? (engine : Engine) (a : Action) (line : Nat) (scope : Vars) : Option String :=
  match a with
  | .text s => some s
  | .echo e sanitize => (engine.evalAt e line scope).toOption.map fun v =>
      if sanitize then engine.sanitize v.display else v.display
  | .run statements => some (Script.runStatements engine.calls scope "" statements).out
  | _ => none

/-- No action in the run of the requested view writes the control character. -/
def WritesClean (engine : Engine) (create : ViewSource φ) (inner : RenderInner φ)
    (q : Request φ) : Prop :=
  ∀ program count t a line s, engine.program q.view = .ok program →
    (engine.machine create q.place inner).Goes program count q.start t →
    program[t.position]? = some ⟨.act a, line⟩ →
    engine.written? a line t.state.scope = some s → '\x01' ∉ s.toList

variable {engine : Engine} {create : ViewSource φ} {inner : RenderInner φ}

/-- A view that has been put in place has added definitions and one text. -/
lemma holds_resume {r r' : Running φ} {w : PartState} (hr : r.Holds w) {q : Request φ}
    (hq : q.Keeps inner) (hparts : q.shared.parts = r.shared.parts)
    (h : r.resume (q.render inner) = .done r') (generation : Nat) :
    ∃ w', r'.Holds w' ∧ Steps generation w w' := by
  have hkeeps := hq w.made (hparts.trans hr.made)
  cases hanswer : q.render inner with
  | failed e view shared => simp [hanswer, Running.resume] at h
  | unfinished => simp [hanswer, Running.resume] at h
  | done text view shared =>
    rw [hanswer] at hkeeps h
    obtain ⟨clean, more, hmore⟩ := hkeeps
    obtain rfl := Program.Outcome.done.inj h
    have hdefined : Running.Holds { r with shared } { w with made := w.made ++ more } :=
      ⟨hr.opened, hmore, hr.clean⟩
    exact ⟨_, hdefined.write clean, .tail (.single (.define w more)) (.add _ _)⟩

/-- **One action.**  What an action does to the output and the table, it does to the bodies. -/
lemma holds_perform {place : ViewPlace} {a : Action} {line : Nat} {r r' : Running φ}
    {w : PartState} (hr : r.Holds w)
    (hclean : ∀ s, engine.written? a line r.scope = some s → '\x01' ∉ s.toList)
    (hinner : ∀ q, engine.Embeds create place.generation a line r q → q.Keeps inner)
    (h : engine.perform create place inner a line r = .done r') :
    ∃ w', r'.Holds w' ∧ Steps place.generation w w' := by
  cases performs_of_done h with
  | text s => exact ⟨_, hr.write (hclean s rfl), .single (.add _ _)⟩
  | echo sanitize hv =>
    exact ⟨_, hr.write (hclean _ (by rw [written?, hv]; rfl)), .single (.add _ _)⟩
  -- what statements echo is written in one piece, and nothing else of them counts here
  | @run _ scope out hrun =>
    have hscope : Running.Holds { r with scope } w := hr.congr rfl rfl
    exact ⟨_, hscope.write (hclean out (by rw [written?, hrun])), .single (.add _ _)⟩
  | inherit hv hnone => exact ⟨w, hr.congr rfl rfl, .refl⟩
  | embed hembeds hresume =>
    have hparts := hembeds.parts_eq
    exact holds_resume hr (hinner _ hembeds) hparts hresume _
  | @startPart _ v hv => exact ⟨_, hr.openPart v.display line, .single (.start _ _)⟩
  | endPart hend =>
    obtain ⟨w', hw', hstep⟩ := hr.endPart hend
    exact ⟨w', hw', .single hstep⟩
  | parent hopen => exact ⟨_, hr.writePlace hopen, .single (.add _ _)⟩
  | @showNamed _ v hv =>
    obtain ⟨clean, hshown⟩ := hr.writePart v.display
    exact ⟨_, hshown, .single (.add _ _)⟩
  | @showEnded part _ hend =>
    -- the part is closed and shown at once, which are two steps
    obtain ⟨w', hw', hstep⟩ := hr.endPart hend
    obtain ⟨clean, hshown⟩ := hw'.writePart part.name
    exact ⟨_, hshown, .tail (.single hstep) (.add _ _)⟩
  | @showLast name hlast =>
    obtain ⟨clean, hshown⟩ := hr.writePart name
    exact ⟨_, hshown, .single (.add _ _)⟩
  | showNothing => exact ⟨w, hr, .refl⟩

/-! ## Whole runs -/

section Run

variable {steps : Nat} {q : Request φ} {program : Linked}
  (hclean : engine.WritesClean create inner q)
  (hasks : ∀ other, engine.Asks create steps inner q other → other.Keeps inner)
  (hprogram : engine.program q.view = .ok program)

include hclean hasks hprogram

/-- **One step** of a machine that has come to a state. -/
lemma holds_step {count : Nat} {t u : Machine.State (Running φ)}
    (ht : (engine.machine create q.place inner).Goes program count q.start t)
    {op : Program.Lined Program.Op} (hop : program[t.position]? = some op)
    (hstep : (engine.machine create q.place inner).step op.item op.line t = .next u)
    {w : PartState} (hw : t.state.Holds w) :
    ∃ w', u.state.Holds w' ∧ Steps q.generation w w' := by
  obtain ⟨a, ha, hact⟩ | hsame | ⟨key, value, item, hbind⟩ := Machine.step_eq_next hstep
  · have hop' : program[t.position]? = some ⟨.act a, op.line⟩ := by rw [hop, ← ha]
    have hperform : engine.perform create q.place inner a op.line t.state = .done u.state := hact
    refine holds_perform hw (fun s hs => ?_) (fun other hembeds => ?_) hperform
    · exact hclean program count t a op.line s hprogram ht hop' hs
    · exact hasks other (.embedded hprogram ht hop' hembeds)
  · exact ⟨w, hw.congr (congrArg Running.out hsame) (by rw [hsame]), .refl⟩
  · exact ⟨w, hw.congr (by rw [hbind]; rfl) (by rw [hbind]; rfl), .refl⟩

/-- **A whole run**, from any state that it comes to. -/
lemma holds_of_goes {count more : Nat} {t u : Machine.State (Running φ)}
    (ht : (engine.machine create q.place inner).Goes program count q.start t)
    (hu : (engine.machine create q.place inner).Goes program more t u) {w : PartState}
    (hw : t.state.Holds w) : ∃ w', u.state.Holds w' ∧ Steps q.generation w w' := by
  induction hu with
  | stays => exact ⟨w, hw, .refl⟩
  | step hgoes hop hstep ih =>
    obtain ⟨w₁, hw₁, hsteps⟩ := ih ht hw
    obtain ⟨w₂, hw₂, hmore⟩ := holds_step hclean hasks hprogram (ht.trans hgoes) hop hstep hw₁
    exact ⟨w₂, hw₂, hsteps.trans hmore⟩

lemma holds_of_runAll {r : Running φ}
    (hrun : (engine.machine create q.place inner).runAll program steps q.start.state = .done r)
    {made : List PartDefinition} (hmade : q.shared.parts = PartTable.after made) :
    ∃ w, r.Holds w ∧ made <+: w.made := by
  obtain ⟨count, t, hgoes, -, rfl⟩ := Machine.exists_goes_of_run hrun
  have hstart : q.start.state.Holds { made } := ⟨rfl, hmade, by simp [Request.start]⟩
  obtain ⟨w, hw, hsteps⟩ := holds_of_goes hclean hasks hprogram (.stays q.start) hgoes hstart
  exact ⟨w, hw, hsteps.made_prefix⟩

end Run

/-! ## Whole pages -/

end Engine

lemma notMem_trimBlankLinesString {s : String} (h : '\x01' ∉ s.toList) :
    '\x01' ∉ (Text.trimBlankLinesString s).toList := by
  rw [Text.trimBlankLinesString, String.toList_ofList]
  exact mt Text.mem_of_mem_trimBlankLines h

namespace Rendering.Keeps

variable {made : List PartDefinition} {answer : Rendering φ}

lemma mono {more : List PartDefinition} (h : answer.Keeps more) (hmore : made <+: more) :
    answer.Keeps made := by
  cases answer with
  | failed => trivial
  | unfinished => trivial
  | done text view shared =>
    obtain ⟨rest, rfl⟩ := hmore
    obtain ⟨clean, others, hothers⟩ := h
    exact ⟨clean, rest ++ others, by rw [hothers, List.append_assoc]⟩

lemma behind (h : answer.Keeps made) {text : String} (clean : '\x01' ∉ text.toList) (view : View) :
    (answer.behind view text).Keeps made := by
  cases answer with
  | failed => trivial
  | unfinished => trivial
  | done outer parent shared =>
    refine ⟨notMem_trimBlankLinesString ?_, h.2⟩
    simpa using ⟨clean, h.1⟩

end Rendering.Keeps

namespace Engine

variable {engine : Engine} {create : ViewSource φ}

/-- A rendered view keeps definitions if the views that it asks for do. -/
lemma keeps_renderWith {inner : RenderInner φ} {steps : Nat} {q : Request φ}
    (hclean : engine.WritesClean create inner q)
    (hasks : ∀ other, engine.Asks create steps inner q other → other.Keeps inner) :
    q.Keeps (engine.renderWith create steps inner) := by
  intro made hmade
  cases hprogram : engine.program q.view with
  | error e =>
    rw [renderWith_of_error hprogram]
    trivial
  | ok program =>
    rw [renderWith_of_program hprogram]
    cases hrun : (engine.machine create q.place inner).runAll program steps q.start.state with
    | failed e r => trivial
    | unfinished => trivial
    | done r =>
      obtain ⟨w, hw, hbefore⟩ := holds_of_runAll hclean hasks hprogram hrun hmade
      have htext := notMem_trimBlankLinesString hw.clean
      refine Rendering.Keeps.mono ?_ hbefore
      change (conclude create inner q.generation q.view r).Keeps w.made
      cases hparts : r.out.parts with
      | cons part parts =>
        rw [conclude_of_open hparts]
        trivial
      | nil =>
        cases hname : r.parent with
        | none =>
          rw [conclude_of_outermost hparts hname]
          exact ⟨htext, [], by rw [List.append_nil, hw.made]⟩
        | some name =>
          rcases hcreate : create r.shared.source name with ⟨found, source⟩
          cases found with
          | error e =>
            rw [conclude_of_missing hparts hname hcreate]
            trivial
          | ok parent =>
            -- the parent starts with the definitions of the view below it, and only adds to them
            have hparent := hasks _ (.parent hprogram hrun hparts hname hcreate) w.made hw.made
            rw [conclude_of_made hparts hname hcreate]
            exact hparent.behind htext q.view

/-- The machine that runs the program of a visited view. -/
def machineOf (engine : Engine) (create : ViewSource φ) (steps : Nat) (v : Visit φ) :
    Machine PageError (Running φ) :=
  engine.machine create v.request.place (engine.renderInside create steps v)

/-- **Whole renderings.**  A visit on which nothing writes the control character keeps the
definitions that were made before it. -/
lemma keeps_rendering {steps : Nat} (v : Visit φ)
    (hclean : ∀ w, Relation.ReflTransGen (engine.Calls create) v w → w.Entered →
      engine.WritesClean create (engine.renderInside create steps w) w.request)
    {made : List PartDefinition} (hmade : v.shared.parts = PartTable.after made) :
    (engine.rendering create steps v).Keeps made := by
  induction v using visit_induction engine create generalizing made with
  | outside v hnot =>
    obtain ⟨e, hfails⟩ := engine.rendering_of_not_entered create hnot
    rw [hfails]
    trivial
  | entered v hentered ih =>
    rw [rendering_of_entered hentered]
    refine keeps_renderWith (hclean v .refl hentered) (fun other hasks more hmore => ?_) made hmade
    have hcalls := calls_of_asks hentered hasks
    exact ih _ hcalls (fun w hw => hclean w (.head hcalls hw)) hmore

/-- Nothing that is run for a page writes the control character. -/
def CleanPage (engine : Engine) (create : ViewSource φ) (view : View) (source : φ) : Prop :=
  ∀ v, engine.Visited create view source v → v.Entered → ∀ steps,
    engine.WritesClean create (engine.renderInside create steps v) v.request

namespace CleanPage

variable {view : View} {source : φ} (hpage : engine.CleanPage create view source)

include hpage

lemma keeps_visited {v : Visit φ} (hv : engine.Visited create view source v) (steps : Nat)
    {made : List PartDefinition} (hmade : v.shared.parts = PartTable.after made) :
    (engine.rendering create steps v).Keeps made :=
  keeps_rendering v (fun w hw hentered => hpage w (hv.trans hw) hentered steps) hmade

lemma keeps_asked {v : Visit φ} (hv : engine.Visited create view source v) (hentered : v.Entered)
    (steps : Nat) (other : Request φ)
    (hasks : engine.Asks create steps (engine.renderInside create steps v) v.request other) :
    other.Keeps (engine.renderInside create steps v) := by
  intro made hmade
  exact hpage.keeps_visited (hv.tail (calls_of_asks hentered hasks)) steps hmade

/-- From any state that the run of a visited view comes to. -/
lemma holds_of_goes {v : Visit φ} (hv : engine.Visited create view source v)
    (hentered : v.Entered) {steps : Nat} {program : Linked}
    (hprogram : engine.program v.view = .ok program) {count more : Nat}
    {t u : Machine.State (Running φ)}
    (ht : (engine.machineOf create steps v).Goes program count v.request.start t)
    (hu : (engine.machineOf create steps v).Goes program more t u) {w : PartState}
    (hw : t.state.Holds w) : ∃ w', u.state.Holds w' ∧ Steps v.generation w w' :=
  Engine.holds_of_goes (hpage v hv hentered steps) (hpage.keeps_asked hv hentered steps) hprogram ht
    hu hw

/-- From the start of a visited view. -/
lemma holds_of_start {v : Visit φ} (hv : engine.Visited create view source v)
    (hentered : v.Entered) {steps : Nat} {program : Linked}
    (hprogram : engine.program v.view = .ok program) {made : List PartDefinition}
    (hmade : v.shared.parts = PartTable.after made) {count : Nat} {t : Machine.State (Running φ)}
    (ht : (engine.machineOf create steps v).Goes program count v.request.start t) :
    ∃ w, t.state.Holds w ∧ made <+: w.made := by
  have hstart : v.request.start.state.Holds { made } := ⟨rfl, hmade, by simp [Request.start]⟩
  obtain ⟨w, hw, hsteps⟩ := hpage.holds_of_goes hv hentered hprogram (.stays _) ht hstart
  exact ⟨w, hw, hsteps.made_prefix⟩

/-- The table that a visit starts with is one of definitions that have been made. -/
lemma exists_made {v : Visit φ} (hv : engine.Visited create view source v) :
    ∃ made, v.shared.parts = PartTable.after made := by
  induction hv with
  | refl => exact ⟨[], rfl⟩
  | @tail v w hv hcalls ih =>
    obtain ⟨made, hmade⟩ := ih
    obtain ⟨hentered, -, -, steps, hasks⟩ := hcalls
    generalize hq : w.request = q at hasks
    have hshared : w.shared = q.shared := congrArg Request.shared hq
    rw [hshared]
    cases hasks with
    | embedded hprogram hgoes hop hembeds =>
      obtain ⟨held, hheld, -⟩ := hpage.holds_of_start hv hentered hprogram hmade hgoes
      exact ⟨held.made, hembeds.parts_eq.trans hheld.made⟩
    | parent hprogram hrun hparts hname hcreate =>
      obtain ⟨count, t, hgoes, -, rfl⟩ := Machine.exists_goes_of_run hrun
      obtain ⟨held, hheld, -⟩ := hpage.holds_of_start hv hentered hprogram hmade hgoes
      exact ⟨held.made, hheld.made⟩

end CleanPage

end Engine

end ViewTemplate
