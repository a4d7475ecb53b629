import Mathlib.Data.List.Chain
import Mathlib.Tactic.Common
import ViewTemplate.Page.Engine
import ViewTemplate.Proofs.OpenFrames
import ViewTemplate.Proofs.Tiling

/-!
# Every template that can be cut has a tree

The tokens of a template are written by the cut and read by `nodesOf`, and neither looks at the
other.  This file says what lies between them: `Alternates tokens nodes`, the rows of the form
`(text? construct)* text?`, each with the nodes it stands for.  Texts at the top are not empty and a
construct stands between any two of them.

The cut writes such rows only, whatever the delimiters (`alternates_of_segmentsFrom`), and `nodesOf`
reads every such row as its nodes (`Alternates.nodesOf`).  So the errors of `nodesOf` are about rows
of tokens that come from elsewhere: no view has a program that fails with one of them
(`Engine.program_ne_tree`).
-/

namespace ViewTemplate.Template

/-! ## Rows of tokens and their nodes -/

/-- The token of a text inside of a construct. -/
def Leaf.token (leaf : Leaf) : Token :=
  ⟨.text, leaf.text, leaf.line⟩

/-- The tokens of one construct, and its node. -/
inductive ConstructRow : List Token → Node → Prop
  | block (kind : BodyKind) (opening closing : String) (body : Leaf) (line closeLine : Nat) :
      ConstructRow
        [⟨.opens (.body kind), opening, line⟩, body.token,
          ⟨.closes (.body kind), closing, closeLine⟩]
        (.block kind body line)
  | directive (opening closing : String) (name : Leaf) (argument : Option Leaf)
      (line closeLine : Nat) :
      ConstructRow
        (⟨.opens .directive, opening, line⟩ :: ⟨.directiveName, name.text, name.line⟩ ::
          ((argument.map Leaf.token).toList ++ [⟨.closes .directive, closing, closeLine⟩]))
        (.directive name argument line)

/-- The token of a literal text that is not empty, or none, and its node. -/
inductive TextRow : List Token → List Node → Prop
  | empty : TextRow [] []
  | text {shown : String} (hne : shown ≠ "") (line : Nat) :
      TextRow [⟨.text, shown, line⟩] [.text shown line]

/-- Rows of the form `(text? construct)* text?`, and their nodes. -/
inductive Alternates : List Token → List Node → Prop
  | last {front : List Token} {shown : List Node} (hfront : TextRow front shown) :
      Alternates front shown
  | round {front row rest : List Token} {shown nodes : List Node} {node : Node}
      (hfront : TextRow front shown) (hrow : ConstructRow row node)
      (hrest : Alternates rest nodes) :
      Alternates (front ++ (row ++ rest)) (shown ++ node :: nodes)

/-! ## Reading a row -/

/-- A construct is read as its node, and reading goes on behind it. -/
lemma ConstructRow.nodesFrom {row : List Token} {node : Node} (h : ConstructRow row node)
    (rest : List Token) :
    nodesFrom [] (row ++ rest) = (nodesFrom [] rest).map (node :: ·) := by
  cases h with
  | block kind opening closing body line closeLine => cases kind <;> rfl
  | directive opening closing name argument line closeLine =>
    cases argument with
    | none => rfl
    | some argument => rfl

lemma TextRow.nodesFrom {front : List Token} {shown : List Node} (h : TextRow front shown)
    (rest : List Token) :
    nodesFrom [] (front ++ rest) = (nodesFrom [] rest).map (shown ++ ·) := by
  cases h with
  | empty =>
    rw [List.nil_append]
    cases Template.nodesFrom [] rest <;> rfl
  | text hne line => rfl

/-- An alternating row is read as its nodes. -/
lemma Alternates.nodesOf {tokens : List Token} {nodes : List Node} (h : Alternates tokens nodes) :
    nodesOf tokens = .ok nodes := by
  rw [nodesOf_eq]
  induction h with
  | @last front shown hfront =>
    have hread := hfront.nodesFrom []
    rw [List.append_nil] at hread
    rw [hread]
    exact congrArg Except.ok (List.append_nil shown)
  | round hfront hrow _ ih =>
    rw [hfront.nodesFrom, hrow.nodesFrom, ih]
    rfl

/-! ## No two texts in a row -/

/-- Two tokens of which at most one is a text. -/
def Apart (a b : Token) : Prop :=
  a.kind ≠ .text ∨ b.kind ≠ .text

/-- A construct starts with its opening and ends with its closing, and it holds at most one text. -/
lemma ConstructRow.apart {row : List Token} {node : Node} (h : ConstructRow row node) :
    row.IsChain Apart ∧ (∀ a ∈ row.head?, a.kind ≠ .text) ∧ ∀ a ∈ row.getLast?, a.kind ≠ .text := by
  cases h with
  | block kind opening closing body line closeLine => simp [Apart]
  | directive opening closing name argument line closeLine =>
    cases argument <;> simp [Apart]

lemma TextRow.isChain {front : List Token} {shown : List Node} (h : TextRow front shown) :
    front.IsChain Apart := by
  cases h with
  | empty => exact .nil
  | text hne line => exact .singleton _

lemma Alternates.isChain {tokens : List Token} {nodes : List Node} (h : Alternates tokens nodes) :
    tokens.IsChain Apart := by
  induction h with
  | last hfront => exact hfront.isChain
  | @round front row rest shown nodes node hfront hrow _ ih =>
    obtain ⟨hchain, hhead, hlast⟩ := hrow.apart
    have hne : row ≠ [] := by
      cases hrow <;> simp
    have hbehind : (row ++ rest).IsChain Apart :=
      hchain.append ih fun a ha b _ => .inl (hlast a ha)
    refine hfront.isChain.append hbehind fun a _ b hb => .inr (hhead b ?_)
    rwa [List.head?_append_of_ne_nil _ hne] at hb

/-! ## The tokens of a template -/

lemma constructRow_of_spans {m : Marker} {line : Nat} {segment : Segment} {inner : List Char}
    (h : Construct.Spans m line segment inner) (passes : String → Bool) :
    ∃ node, ConstructRow (segment.tokens passes) node := by
  cases h with
  | @block kind _ body => exact ⟨_, .block kind _ _ ⟨_, _⟩ _ _⟩
  | @directive _ lead name _ _ _ body _ =>
    by_cases hbody : (Text.trim body).isEmpty = true
    · simp only [Segment.tokens, if_pos hbody]
      exact ⟨_, .directive _ _ ⟨_, _⟩ none _ _⟩
    · simp only [Segment.tokens, if_neg hbody]
      exact ⟨_, .directive _ _ ⟨_, _⟩ (some ⟨_, _⟩) _ _⟩

/-- A run of literal text has one token, or none if it shows nothing. -/
lemma textRow_textSegment (run : TextUnit) (line : Nat) (passes : String → Bool) :
    ∃ shown, TextRow ((textSegment run line).flatMap (Segment.tokens passes)) shown := by
  unfold textSegment
  by_cases hshown : run.shown.isEmpty = true
  · rw [if_pos hshown]
    exact ⟨_, .empty⟩
  · rw [if_neg hshown]
    have hne : String.ofList run.shown ≠ "" := by
      intro hempty
      exact hshown (by simpa using hempty)
    exact ⟨_, .text hne line⟩

/-- The cut writes alternating rows. -/
lemma alternates_of_segmentsFrom {markers : List Marker} (passes : String → Bool) {line : Nat}
    {text : List Char} {segments : List Segment}
    (h : segmentsFrom markers line text = .ok segments) :
    ∃ nodes, Alternates (segments.flatMap (Segment.tokens passes)) nodes := by
  fun_induction segmentsFrom markers line text generalizing segments with
  | case1 line text run =>
    obtain rfl := Except.ok.inj h
    obtain ⟨shown, hfront⟩ := textRow_textSegment run line passes
    exact ⟨shown, .last hfront⟩
  | case2 => simp at h
  | case3 => simp at h
  | case4 line text run constructLine m after hopens segment rest hread _ others hothers =>
    rename_i ih
    obtain rfl := Except.ok.inj h
    obtain ⟨shown, hfront⟩ := textRow_textSegment run line passes
    obtain ⟨inner, hspans, -⟩ := spans_of_readConstruct hread
    obtain ⟨node, hrow⟩ := constructRow_of_spans hspans passes
    obtain ⟨nodes, hrest⟩ := ih hothers
    refine ⟨shown ++ node :: nodes, ?_⟩
    rw [List.flatMap_append, List.flatMap_cons]
    exact .round hfront hrow hrest

lemma alternates_of_tokens {delimiters : Delimiters} {names : List String} {source : String}
    {toks : List Token} (h : tokens delimiters names source = .ok toks) :
    ∃ nodes, Alternates toks nodes := by
  unfold tokens at h
  split at h
  · simp at h
  · rename_i markers hmarkers
    cases hsegments : segments markers source.toList with
    | error e => simp [hsegments, Except.map] at h
    | ok cut =>
      rw [hsegments] at h
      obtain rfl := Except.ok.inj h
      exact alternates_of_segmentsFrom (passesThrough names) hsegments

end ViewTemplate.Template

namespace ViewTemplate.Engine

open ViewTemplate.Template

/-! ## Programs of views -/

lemma bind_eq_error {ε α β : Type} {x : Except ε α} {f : α → Except ε β} {e : ε}
    (h : (x >>= f) = .error e) : x = .error e ∨ ∃ a, x = .ok a ∧ f a = .error e := by
  cases x with
  | error e' => exact .inl (congrArg Except.error (Except.error.inj h))
  | ok a => exact .inr ⟨a, rfl, h⟩

lemma nodes_ne_tree (engine : Engine) (view : View) (e : TreeError) :
    engine.nodes view ≠ .error (.tree e) := by
  intro h
  unfold nodes at h
  split at h
  · simp at h
  · rename_i toks htoks
    obtain ⟨nodes, halternates⟩ := alternates_of_tokens htoks
    rw [halternates.nodesOf] at h
    simp at h

lemma instructionsOf_ne_tree (engine : Engine) (node : Node) (e : TreeError) :
    engine.instructionsOf node ≠ .error (.tree e) := by
  fun_cases engine.instructionsOf node <;> simp

lemma instructionsOfAll_ne_error {engine : Engine} {e : PageError}
    (h : ∀ node, engine.instructionsOf node ≠ .error e) (nodes : List Node) :
    engine.instructionsOfAll nodes ≠ .error e := by
  induction nodes with
  | nil => simp [instructionsOfAll]
  | cons node rest ih =>
    intro herror
    rw [instructionsOfAll] at herror
    obtain hfirst | ⟨first, -, herror⟩ := bind_eq_error herror
    · exact h node hfirst
    obtain hothers | ⟨others, -, herror⟩ := bind_eq_error herror
    · exact ih hothers
    · simp at herror

/-- The program of a view never fails because of the order of its tokens. -/
lemma program_ne_tree (engine : Engine) (view : View) (e : TreeError) :
    engine.program view ≠ .error (.tree e) := by
  intro h
  rw [program] at h
  obtain hnodes | ⟨nodes, -, h⟩ := bind_eq_error h
  · exact engine.nodes_ne_tree view e hnodes
  obtain hall | ⟨instructions, -, h⟩ := bind_eq_error h
  · exact instructionsOfAll_ne_error (fun node => engine.instructionsOf_ne_tree node e) nodes hall
  split at h <;> simp at h

end ViewTemplate.Engine

namespace ViewTemplate.Template

/-- **Every template that can be cut has a tree.**  Its tokens are constructs with at most one text
between any two of them, the tree has one node for each text and each construct, in their order, and
so no view fails because of the order of its tokens. -/
theorem cut_templates_have_trees :
    (∀ (delimiters : Delimiters) (names : List String) (source : String) (toks : List Token),
      tokens delimiters names source = .ok toks →
        ∃ nodes, Alternates toks nodes ∧ toks.IsChain Apart ∧ nodesOf toks = .ok nodes) ∧
    ∀ (engine : Engine) (view : View) (e : TreeError), engine.program view ≠ .error (.tree e) := by
  refine ⟨?_, Engine.program_ne_tree⟩
  intro delimiters names source toks htoks
  obtain ⟨nodes, halternates⟩ := alternates_of_tokens htoks
  exact ⟨nodes, halternates, halternates.isChain, halternates.nodesOf⟩

/-- Comments that open with the marker of directives and one more character, and that close like
directives do. -/
theorem cut_templates_have_trees_prefixes :
    ∃ toks, tokens (Delimiters.set {} .comment ⟨"<%#", "%>"⟩) []
        "a<%# b %><%c(d($e))%>\\\\\x7b\x7b \x7d\x7d<% f %>" = .ok toks ∧
      nodesOf toks = .ok
        [.text "a" 1, .block .comment ⟨"b", 1⟩ 1,
          .directive ⟨"c", 1⟩ (some ⟨"(__view_fn(\"d\", $e))", 1⟩) 1,
          .text "\\" 1, .block .sanitized ⟨"", 1⟩ 1, .directive ⟨"f", 1⟩ none 1] ∧
      ∃ nodes, Alternates toks nodes ∧ toks.IsChain Apart ∧ nodesOf toks = .ok nodes := by
  have htoks : tokens (Delimiters.set {} .comment ⟨"<%#", "%>"⟩) []
      "a<%# b %><%c(d($e))%>\\\\\x7b\x7b \x7d\x7d<% f %>" =
      .ok [⟨.text, "a", 1⟩,
        ⟨.opens (.body .comment), "<%#", 1⟩, ⟨.text, "b", 1⟩, ⟨.closes (.body .comment), "%>", 1⟩,
        ⟨.opens .directive, "<%", 1⟩, ⟨.directiveName, "c", 1⟩,
        ⟨.text, "(__view_fn(\"d\", $e))", 1⟩, ⟨.closes .directive, "%>", 1⟩,
        ⟨.text, "\\", 1⟩,
        ⟨.opens (.body .sanitized), "\x7b\x7b", 1⟩, ⟨.text, "", 1⟩,
        ⟨.closes (.body .sanitized), "\x7d\x7d", 1⟩,
        ⟨.opens .directive, "<%", 1⟩, ⟨.directiveName, "f", 1⟩,
        ⟨.closes .directive, "%>", 1⟩] := by
    decide +kernel
  exact ⟨_, htoks, rfl, cut_templates_have_trees.1 _ _ _ _ htoks⟩

end ViewTemplate.Template
