import Mathlib.Tactic.Common
import ViewTemplate.Proofs.TokenRows

/-!
# Which rows of tokens have a tree, and what the tree says

`treeOf` keeps the open constructs on a stack and looks at what a construct holds only when it is
closed.  The rows it reads are nevertheless described by a grammar without any stack: `Flat`, the
rows of texts and of constructs with a text, or with a name and at most one text.  Rows of the cut
are among them, but `treeOf` is asked about any row.

A row of the grammar is read piece by piece (`FlatRow.nodesFrom`).  That nothing else is read rests
on one remark: a construct inside of another one leaves a mark on the outer construct that no
closing accepts, so from the second open construct on every row fails (`nodesFrom_ne_ok_of_nested`).

What the tree then says of its tokens, and that its parents and children agree, holds of every arena
that is built from tokens.  That it has only two levels below the root holds of the rows of the
grammar: a construct of theirs is opened below the root (`FlatRow.top`).
-/

namespace ViewTemplate.Template

/-! ## The grammar -/

/-- The rows of texts and constructs, by the kinds of their tokens. -/
inductive Flat : List TokenKind → Prop
  | nil : Flat []
  | text {rest : List TokenKind} (hrest : Flat rest) : Flat (.text :: rest)
  | block (kind : BodyKind) {rest : List TokenKind} (hrest : Flat rest) :
      Flat (.opens (.body kind) :: .text :: .closes (.body kind) :: rest)
  | directive {rest : List TokenKind} (hrest : Flat rest) :
      Flat (.opens .directive :: .directiveName :: .closes .directive :: rest)
  | directiveWith {rest : List TokenKind} (hrest : Flat rest) :
      Flat (.opens .directive :: .directiveName :: .text :: .closes .directive :: rest)

/-- The rows of texts and constructs, and their nodes. -/
inductive FlatRow : List Token → List Node → Prop
  | nil : FlatRow [] []
  | text (shown : String) (line : Nat) {rest : List Token} {nodes : List Node}
      (hrest : FlatRow rest nodes) :
      FlatRow (⟨.text, shown, line⟩ :: rest) (.text shown line :: nodes)
  | construct {row rest : List Token} {node : Node} {nodes : List Node}
      (hrow : ConstructRow row node) (hrest : FlatRow rest nodes) :
      FlatRow (row ++ rest) (node :: nodes)

lemma FlatRow.flat {tokens : List Token} {nodes : List Node} (h : FlatRow tokens nodes) :
    Flat (tokens.map Token.kind) := by
  induction h with
  | nil => exact .nil
  | text shown line _ ih => exact .text ih
  | construct hrow _ ih =>
    cases hrow with
    | block kind => exact .block kind ih
    | directive opening closing name argument =>
      cases argument with
      | none => exact .directive ih
      | some argument => exact .directiveWith ih

lemma exists_cons_of_map_kind {tokens : List Token} {kind : TokenKind} {kinds : List TokenKind}
    (h : tokens.map Token.kind = kind :: kinds) :
    ∃ shown line rest, tokens = ⟨kind, shown, line⟩ :: rest ∧ rest.map Token.kind = kinds := by
  obtain ⟨⟨_, shown, line⟩, rest, rfl, rfl, hrest⟩ := List.map_eq_cons_iff.1 h
  exact ⟨shown, line, rest, rfl, hrest⟩

/-- Whether a row is one of the grammar shows in its kinds alone. -/
lemma Flat.exists_flatRow {kinds : List TokenKind} (h : Flat kinds) {tokens : List Token}
    (hkinds : tokens.map Token.kind = kinds) : ∃ nodes, FlatRow tokens nodes := by
  induction h generalizing tokens with
  | nil =>
    obtain rfl := List.map_eq_nil_iff.1 hkinds
    exact ⟨[], .nil⟩
  | text _ ih =>
    obtain ⟨shown, line, rest, rfl, hrest⟩ := exists_cons_of_map_kind hkinds
    obtain ⟨nodes, hnodes⟩ := ih hrest
    exact ⟨_, .text shown line hnodes⟩
  | block kind _ ih =>
    obtain ⟨opening, line, _, rfl, hinner⟩ := exists_cons_of_map_kind hkinds
    obtain ⟨body, bodyLine, _, rfl, hclosing⟩ := exists_cons_of_map_kind hinner
    obtain ⟨closing, closeLine, rest, rfl, hrest⟩ := exists_cons_of_map_kind hclosing
    obtain ⟨nodes, hnodes⟩ := ih hrest
    exact ⟨_, .construct (.block kind opening closing ⟨body, bodyLine⟩ line closeLine) hnodes⟩
  | directive _ ih =>
    obtain ⟨opening, line, _, rfl, hinner⟩ := exists_cons_of_map_kind hkinds
    obtain ⟨name, nameLine, _, rfl, hclosing⟩ := exists_cons_of_map_kind hinner
    obtain ⟨closing, closeLine, rest, rfl, hrest⟩ := exists_cons_of_map_kind hclosing
    obtain ⟨nodes, hnodes⟩ := ih hrest
    exact ⟨_, .construct (.directive opening closing ⟨name, nameLine⟩ none line closeLine) hnodes⟩
  | directiveWith _ ih =>
    obtain ⟨opening, line, _, rfl, hinner⟩ := exists_cons_of_map_kind hkinds
    obtain ⟨name, nameLine, _, rfl, hargument⟩ := exists_cons_of_map_kind hinner
    obtain ⟨body, bodyLine, _, rfl, hclosing⟩ := exists_cons_of_map_kind hargument
    obtain ⟨closing, closeLine, rest, rfl, hrest⟩ := exists_cons_of_map_kind hclosing
    obtain ⟨nodes, hnodes⟩ := ih hrest
    exact ⟨_, .construct
      (.directive opening closing ⟨name, nameLine⟩ (some ⟨body, bodyLine⟩) line closeLine) hnodes⟩

lemma FlatRow.nodesFrom {tokens : List Token} {nodes : List Node} (h : FlatRow tokens nodes) :
    nodesFrom [] tokens = .ok nodes := by
  induction h with
  | nil => rfl
  | text shown line _ ih => rw [Template.nodesFrom, ih]; rfl
  | construct hrow _ ih => rw [hrow.nodesFrom, ih]; rfl

/-! ## Nothing else is read -/

/-- What the expression of a construct is among its contents. -/
def Leaf.entry (leaf : Leaf) : NodeKind × Nat :=
  (.expression leaf.text, leaf.line)

lemma exists_cons_of_map_fst {contents : Contents} {kind : NodeKind} {kinds : List NodeKind}
    (h : contents.map Prod.fst = kind :: kinds) :
    ∃ line rest, contents = (kind, line) :: rest ∧ rest.map Prod.fst = kinds := by
  obtain ⟨⟨_, line⟩, rest, rfl, rfl, hrest⟩ := List.map_eq_cons_iff.1 h
  exact ⟨line, rest, rfl, hrest⟩

/-- A construct that may be closed holds one text, or a name and at most one text. -/
lemma contentFault?_eq_none {c : Construct} {contents : Contents}
    (h : contentFault? c contents = none) :
    (∃ (kind : BodyKind) (body : Leaf), c = .body kind ∧ contents = [body.entry]) ∨
      ∃ (name : Leaf) (argument : Option Leaf), c = .directive ∧
        contents = (.directiveName name.text, name.line) :: (argument.map Leaf.entry).toList := by
  unfold contentFault? at h
  split at h
  · rename_i name hkinds
    obtain ⟨line, rest, rfl, hrest⟩ := exists_cons_of_map_fst hkinds
    obtain rfl := List.map_eq_nil_iff.1 hrest
    exact .inr ⟨⟨name, line⟩, none, rfl, rfl⟩
  · rename_i name argument hkinds
    obtain ⟨line, _, rfl, hargument⟩ := exists_cons_of_map_fst hkinds
    obtain ⟨argumentLine, rest, rfl, hrest⟩ := exists_cons_of_map_fst hargument
    obtain rfl := List.map_eq_nil_iff.1 hrest
    exact .inr ⟨⟨name, line⟩, some ⟨argument, argumentLine⟩, rfl, rfl⟩
  · cases h
  · cases h
  · rename_i kind body hkinds
    obtain ⟨line, rest, rfl, hrest⟩ := exists_cons_of_map_fst hkinds
    obtain rfl := List.map_eq_nil_iff.1 hrest
    exact .inl ⟨kind, ⟨body, line⟩, rfl, rfl⟩
  · cases h

/-- A construct stands inside of the construct of a frame. -/
def Frame.HasConstruct (f : Frame) : Prop :=
  ∃ c line, (.construct c, line) ∈ f.contents

lemma Frame.HasConstruct.push {f : Frame} (h : f.HasConstruct) (kind : NodeKind) (line : Nat) :
    (f.push kind line).HasConstruct := by
  obtain ⟨c, innerLine, hmem⟩ := h
  exact ⟨c, innerLine, List.mem_append_left _ hmem⟩

lemma Frame.hasConstruct_push (f : Frame) (c : Construct) (line : Nat) :
    (f.push (.construct c) line).HasConstruct :=
  ⟨c, line, List.mem_append_right _ (List.mem_singleton_self _)⟩

lemma Frame.not_hasConstruct {f : Frame} (h : contentFault? f.construct f.contents = none) :
    ¬ f.HasConstruct := by
  rintro ⟨c, line, hmem⟩
  obtain ⟨kind, body, -, hcontents⟩ | ⟨name, argument, -, hcontents⟩ := contentFault?_eq_none h
  · simp [hcontents, Leaf.entry] at hmem
  · cases argument <;> simp [hcontents, Leaf.entry] at hmem

/-- As long as a construct is open that has another one in it, no row of tokens can be read. -/
lemma nodesFrom_ne_ok_of_nested {f : Frame} {outer : List Frame}
    (h : ∃ g ∈ f :: outer, g.HasConstruct) (tokens : List Token) (nodes : List Node) :
    nodesFrom (f :: outer) tokens ≠ .ok nodes := by
  induction tokens generalizing f outer nodes with
  | nil => simp [nodesFrom, List.getLast?_cons]
  | cons token rest ih =>
    obtain ⟨kind, shown, line⟩ := token
    have hpush : ∀ kind, ∃ g ∈ f.push kind line :: outer, g.HasConstruct := by
      intro kind
      obtain ⟨g, hg, hhas⟩ := h
      obtain rfl | hg := List.mem_cons.1 hg
      · exact ⟨_, List.mem_cons_self, hhas.push kind line⟩
      · exact ⟨g, List.mem_cons_of_mem _ hg, hhas⟩
    cases kind with
    | text => exact ih (hpush _) nodes
    | directiveName =>
      rw [nodesFrom_directiveName]
      split_ifs
      · exact ih (hpush _) nodes
      · simp
    | opens c =>
      exact ih ⟨_, List.mem_cons_of_mem _ List.mem_cons_self, f.hasConstruct_push c line⟩ nodes
    | closes c =>
      simp only [nodesFrom]
      split_ifs
      · simp
      cases hfault : contentFault? f.construct f.contents with
      | some fault => simp
      | none =>
        -- the construct that is closed has none in it, so the one that has is still open
        obtain ⟨g, hg, hhas⟩ := h
        obtain rfl | hg := List.mem_cons.1 hg
        · exact absurd hhas (Frame.not_hasConstruct hfault)
        cases outer with
        | nil => simp at hg
        | cons next outer => exact ih ⟨g, hg, hhas⟩ nodes

/-- The token that puts an entry among the contents of a construct. -/
def entryTokens (entry : NodeKind × Nat) : List Token :=
  match entry.1 with
  | .expression text => [⟨.text, text, entry.2⟩]
  | .directiveName text => [⟨.directiveName, text, entry.2⟩]
  | _ => []

/-- If a row is read while one construct is open, then the construct is closed in it, behind names
and texts alone. -/
lemma closes_of_nodesFrom {f : Frame} {tokens : List Token} {nodes : List Node}
    (h : nodesFrom [f] tokens = .ok nodes) :
    ∃ inner closing closeLine rest others,
      tokens = inner.flatMap entryTokens ++ ⟨.closes f.construct, closing, closeLine⟩ :: rest ∧
        contentFault? f.construct (f.contents ++ inner) = none ∧
        nodesFrom [] rest = .ok others ∧
        nodes = f.construct.node f.line (f.contents ++ inner) :: others := by
  induction tokens generalizing f with
  | nil => simp [nodesFrom] at h
  | cons token rest ih =>
    obtain ⟨kind, shown, line⟩ := token
    cases kind with
    | text =>
      obtain ⟨inner, closing, closeLine, rest', others, rfl, hfault, hothers, rfl⟩ := ih h
      refine ⟨(.expression shown, line) :: inner, closing, closeLine, rest', others, rfl, ?_,
        hothers, ?_⟩
      · rwa [Frame.push, List.append_assoc] at hfault
      · rw [Frame.push, List.append_assoc, List.singleton_append]
    | directiveName =>
      rw [nodesFrom_directiveName] at h
      split_ifs at h
      obtain ⟨inner, closing, closeLine, rest', others, rfl, hfault, hothers, rfl⟩ := ih h
      refine ⟨(.directiveName shown, line) :: inner, closing, closeLine, rest', others, rfl, ?_,
        hothers, ?_⟩
      · rwa [Frame.push, List.append_assoc] at hfault
      · rw [Frame.push, List.append_assoc, List.singleton_append]
    | opens c =>
      -- a construct inside of another one spoils all that follows
      exact absurd h (nodesFrom_ne_ok_of_nested
        ⟨_, List.mem_cons_of_mem _ List.mem_cons_self, f.hasConstruct_push c line⟩ rest nodes)
    | closes c =>
      simp only [nodesFrom] at h
      split_ifs at h with hconstruct
      -- the construct is closed here, with what it holds so far
      obtain rfl := not_not.1 hconstruct
      cases hfault : contentFault? f.construct f.contents with
      | some fault => simp [hfault] at h
      | none =>
        cases hothers : nodesFrom [] rest with
        | error e => simp [hfault, hothers, Except.map] at h
        | ok others =>
          simp only [hfault, hothers, Except.map] at h
          obtain rfl := Except.ok.inj h
          refine ⟨[], shown, line, rest, others, rfl, ?_, hothers, ?_⟩
          · rwa [List.append_nil]
          · rw [List.append_nil, Frame.node]

/-- Whatever is read is a row of the grammar. -/
lemma flatRow_of_nodesFrom {tokens : List Token} {nodes : List Node}
    (h : nodesFrom [] tokens = .ok nodes) : FlatRow tokens nodes := by
  -- a construct is several tokens long, so the induction is on the length of the row
  induction hlength : tokens.length using Nat.strong_induction_on generalizing tokens nodes with
  | _ length ih =>
    subst hlength
    cases tokens with
    | nil =>
      obtain rfl := Except.ok.inj h
      exact .nil
    | cons token rest =>
      obtain ⟨kind, shown, line⟩ := token
      cases kind with
      | text =>
        cases hothers : nodesFrom [] rest with
        | error e => simp [nodesFrom, hothers, Except.map] at h
        | ok others =>
          simp only [nodesFrom, hothers, Except.map] at h
          obtain rfl := Except.ok.inj h
          exact .text shown line (ih rest.length (by simp) hothers rfl)
      | directiveName => simp [nodesFrom] at h
      | closes c => simp [nodesFrom] at h
      | opens c =>
        obtain ⟨inner, closing, closeLine, rest, others, rfl, hfault, hothers, rfl⟩ :=
          closes_of_nodesFrom (f := ⟨c, line, []⟩) h
        have hrest : FlatRow rest others := by
          refine ih rest.length ?_ hothers rfl
          simp only [List.length_cons, List.length_append]
          omega
        rw [List.nil_append] at hfault
        obtain ⟨kind, body, rfl, rfl⟩ | ⟨name, argument, rfl, rfl⟩ := contentFault?_eq_none hfault
        · exact .construct (.block kind shown closing body line closeLine) hrest
        · have hrow := ConstructRow.directive shown closing name argument line closeLine
          cases argument <;> exact .construct hrow hrest

/-! ## Two levels -/

/-- Every node stands below the root, or below a node that does. -/
def Arena.Shallow (a : Arena) : Prop :=
  ∀ id < a.size, ∀ p, (a.node id).parent = some p → p = 0 ∨ (a.node p).parent = some 0

lemma Arena.Shallow.append {a : Arena} {parent : Nat} (ha : a.Linked) (h : a.Shallow)
    (hlt : parent < a.size) (hparent : parent = 0 ∨ (a.node parent).parent = some 0)
    (kind : NodeKind) (line : Nat) : (a.append parent kind line).Shallow := by
  have hup : ∀ id < a.size,
      ((a.append parent kind line).node id).parent = (a.node id).parent := fun id hid =>
    (eq_of_node_append hid parent kind line).2.2
  intro id hid p hp
  rw [size_append] at hid
  obtain rfl | hid : id = a.size ∨ id < a.size := by omega
  · rw [node_append_size hlt] at hp
    obtain rfl : parent = p := Option.some.inj hp
    rwa [hup parent hlt]
  · rw [hup id hid] at hp
    obtain rfl | hpos := Nat.eq_zero_or_pos id
    · rw [ha.root.2] at hp
      cases hp
    · obtain ⟨q, hq, hqp, -⟩ := ha.parent id hpos hid
      obtain rfl : q = p := Option.some.inj (hqp.symm.trans hp)
      rw [hup q (Nat.lt_trans hq hid)]
      exact h id hid q hp

namespace Building

variable {b b' : Building}

/-- Nothing is open, and there are two levels. -/
structure Top (b : Building) : Prop where
  sound : b.Sound
  shallow : b.arena.Shallow
  opened : b.opened = []

/-- A construct below the root is open and nothing else, and there are two levels. -/
structure Inside (b : Building) : Prop where
  sound : b.Sound
  shallow : b.arena.Shallow
  opened : ∃ id, b.opened = [id] ∧ (b.arena.node id).parent = some 0

lemma top_nil : Top {} where
  sound := sound_nil
  shallow := by
    intro id hid p hp
    obtain rfl : id = 0 := Nat.lt_one_iff.1 hid
    cases hp
  opened := rfl

lemma Top.text (h : b.Top) {shown : String} {line : Nat}
    (hstep : b.step ⟨.text, shown, line⟩ = .ok b') : b'.Top := by
  have hsound := h.sound.step hstep
  obtain rfl := Except.ok.inj hstep
  have hcurrent : b.current = 0 := by simp [current, h.opened]
  exact ⟨hsound, h.shallow.append h.sound.linked h.sound.current_lt (.inl hcurrent) _ _, h.opened⟩

lemma Top.opens (h : b.Top) {c : Construct} {shown : String} {line : Nat}
    (hstep : b.step ⟨.opens c, shown, line⟩ = .ok b') : b'.Inside := by
  have hsound := h.sound.step hstep
  obtain rfl := Except.ok.inj hstep
  have hcurrent : b.current = 0 := by simp [current, h.opened]
  refine ⟨hsound, h.shallow.append h.sound.linked h.sound.current_lt (.inl hcurrent) _ _,
    b.arena.size, by simp [h.opened], ?_⟩
  rw [Arena.node_append_size h.sound.current_lt, hcurrent]

lemma Inside.fill (h : b.Inside) {token : Token} (hopening : token.kind.isOpening = false)
    (hclosing : token.entry? ≠ none) (hstep : b.step token = .ok b') : b'.Inside := by
  have hsound := h.sound.step hstep
  obtain ⟨id, hopened, hup⟩ := h.opened
  have hcurrent : b.current = id := by simp [current, hopened]
  have hlt : id < b.arena.size := hcurrent ▸ h.sound.current_lt
  obtain ⟨kind, line, -, rfl⟩ | ⟨hentry, -⟩ := step_cases hstep
  · refine ⟨hsound, ?_, id, by simp [hopening, hopened], ?_⟩
    · exact h.shallow.append h.sound.linked h.sound.current_lt (.inr (hcurrent ▸ hup)) _ _
    · rw [(Arena.eq_of_node_append hlt _ _ _).2.2, hup]
  · exact absurd hentry hclosing

lemma Inside.closes (h : b.Inside) {c : Construct} {shown : String} {line : Nat}
    (hstep : b.step ⟨.closes c, shown, line⟩ = .ok b') : b'.Top := by
  have hsound := h.sound.step hstep
  obtain ⟨id, hopened, -⟩ := h.opened
  obtain ⟨_, _, hentry, -⟩ | ⟨-, innermost, outer, hinner, rfl⟩ := step_cases hstep
  · cases hentry
  · rw [hopened] at hinner
    exact ⟨hsound, h.shallow, (List.cons.inj hinner).2.symm⟩

end Building

/-- A construct of the grammar is opened below the root and closed again. -/
lemma ConstructRow.top {row : List Token} {node : Node} (h : ConstructRow row node)
    {b b' : Building} {rest : List Token} (hb : b.Top)
    (hrun : (row ++ rest).foldlM Building.step b = .ok b') :
    ∃ c : Building, c.Top ∧ rest.foldlM Building.step c = .ok b' := by
  cases h with
  | block kind opening closing body line closeLine =>
    obtain ⟨opened, hopens, hrun⟩ := Building.foldlM_cons_eq_ok.1 hrun
    obtain ⟨filled, hbody, hrun⟩ := Building.foldlM_cons_eq_ok.1 hrun
    obtain ⟨closed, hcloses, hrun⟩ := Building.foldlM_cons_eq_ok.1 hrun
    have hinside := (hb.opens hopens).fill rfl (by simp [Leaf.token, Token.entry?]) hbody
    exact ⟨closed, hinside.closes hcloses, hrun⟩
  | directive opening closing name argument line closeLine =>
    obtain ⟨opened, hopens, hrun⟩ := Building.foldlM_cons_eq_ok.1 hrun
    obtain ⟨named, hname, hrun⟩ := Building.foldlM_cons_eq_ok.1 hrun
    have hinside := (hb.opens hopens).fill rfl (by simp [Token.entry?]) hname
    cases argument with
    | none =>
      obtain ⟨closed, hcloses, hrun⟩ := Building.foldlM_cons_eq_ok.1 hrun
      exact ⟨closed, hinside.closes hcloses, hrun⟩
    | some argument =>
      obtain ⟨filled, hbody, hrun⟩ := Building.foldlM_cons_eq_ok.1 hrun
      obtain ⟨closed, hcloses, hrun⟩ := Building.foldlM_cons_eq_ok.1 hrun
      have hfilled := hinside.fill rfl (by simp [Leaf.token, Token.entry?]) hbody
      exact ⟨closed, hfilled.closes hcloses, hrun⟩

/-- A row of the grammar has a tree of at most two levels below the root. -/
lemma FlatRow.top {tokens : List Token} {nodes : List Node} (h : FlatRow tokens nodes)
    {b b' : Building} (hb : b.Top) (hrun : tokens.foldlM Building.step b = .ok b') : b'.Top := by
  induction h generalizing b with
  | nil =>
    obtain rfl := Except.ok.inj hrun
    exact hb
  | text shown line _ ih =>
    obtain ⟨next, hstep, hrest⟩ := Building.foldlM_cons_eq_ok.1 hrun
    exact ih (hb.text hstep) hrest
  | construct hrow _ ih =>
    obtain ⟨next, hnext, hrest⟩ := hrow.top hb hrun
    exact ih hnext hrest

/-! ## Trees of rows of tokens -/

lemma exists_building_of_treeOf {tokens : List Token} {tree : Arena}
    (h : treeOf tokens = .ok tree) :
    ∃ b, tokens.foldlM Building.step {} = .ok b ∧ b.arena = tree := by
  rw [treeOf] at h
  cases hrun : tokens.foldlM Building.step {} with
  | error e => simp [hrun, bind, Except.bind] at h
  | ok b =>
    simp only [hrun, bind, Except.bind, Building.tree] at h
    split at h
    · exact ⟨b, rfl, Except.ok.inj h⟩
    · cases h

lemma exists_treeOf_iff (tokens : List Token) :
    (∃ tree, treeOf tokens = .ok tree) ↔ ∃ nodes, nodesFrom [] tokens = .ok nodes := by
  rw [← nodesOf_eq, nodesOf]
  cases treeOf tokens <;> simp [Except.map]

/-- **Exactly the rows of texts and flat constructs have a tree, and the tree loses nothing.**  A
row of tokens has a tree if and only if it is one of the grammar.  The nodes of the tree below the
root then say what the tokens that close nothing say, one node for each of them in their order, the
parents and children agree, and there are at most two levels below the root. -/
theorem treeOf_eq_ok_iff_flat (tokens : List Token) :
    ((∃ tree, treeOf tokens = .ok tree) ↔ Flat (tokens.map Token.kind)) ∧
      ∀ tree, treeOf tokens = .ok tree →
        tree.entries = (.root, 1) :: tokens.filterMap Token.entry? ∧ tree.Linked ∧
          tree.Shallow := by
  constructor
  · rw [exists_treeOf_iff]
    constructor
    · rintro ⟨nodes, hnodes⟩
      exact (flatRow_of_nodesFrom hnodes).flat
    · intro hflat
      obtain ⟨nodes, hrow⟩ := hflat.exists_flatRow rfl
      exact ⟨nodes, hrow.nodesFrom⟩
  · intro tree htree
    obtain ⟨b, hrun, rfl⟩ := exists_building_of_treeOf htree
    obtain ⟨nodes, hnodes⟩ := (exists_treeOf_iff tokens).1 ⟨_, htree⟩
    exact ⟨Building.entries_of_foldlM Building.sound_nil hrun,
      (Building.sound_nil.foldlM hrun).linked,
      ((flatRow_of_nodesFrom hnodes).top Building.top_nil hrun).shallow⟩

/-- Texts side by side, an empty one among them, and both kinds of directive. -/
def mixedTokens : List Token :=
  [⟨.text, "a", 1⟩, ⟨.text, "", 1⟩,
    ⟨.opens .directive, "<%", 2⟩, ⟨.directiveName, "if", 2⟩, ⟨.text, "($b)", 3⟩,
    ⟨.closes .directive, "%>", 3⟩,
    ⟨.opens (.body .comment), "<!--", 4⟩, ⟨.text, "c", 5⟩, ⟨.closes (.body .comment), "-->", 6⟩,
    ⟨.opens .directive, "<%", 6⟩, ⟨.directiveName, "end", 6⟩, ⟨.closes .directive, "%>", 6⟩]

def mixedTree : Arena :=
  ⟨#[⟨.root, 1, none, [1, 2, 3, 6, 8]⟩, ⟨.expression "a", 1, some 0, []⟩,
    ⟨.expression "", 1, some 0, []⟩, ⟨.construct .directive, 2, some 0, [4, 5]⟩,
    ⟨.directiveName "if", 2, some 3, []⟩, ⟨.expression "($b)", 3, some 3, []⟩,
    ⟨.construct (.body .comment), 4, some 0, [7]⟩, ⟨.expression "c", 5, some 6, []⟩,
    ⟨.construct .directive, 6, some 0, [9]⟩, ⟨.directiveName "end", 6, some 8, []⟩]⟩

/-- A row with its tree, and a row with a construct inside of another one, which has none. -/
theorem treeOf_eq_ok_iff_flat_mixed :
    (treeOf mixedTokens = .ok mixedTree ∧
      mixedTree.entries = (.root, 1) :: mixedTokens.filterMap Token.entry? ∧ mixedTree.Linked ∧
        mixedTree.Shallow) ∧
    ¬ Flat [.opens .directive, .directiveName, .opens (.body .comment), .text,
      .closes (.body .comment), .closes .directive] := by
  constructor
  · have htree : treeOf mixedTokens = .ok mixedTree := rfl
    exact ⟨htree, (treeOf_eq_ok_iff_flat mixedTokens).2 _ htree⟩
  · intro hflat
    obtain ⟨tree, htree⟩ := (treeOf_eq_ok_iff_flat
      [⟨.opens .directive, "<%", 1⟩, ⟨.directiveName, "a", 1⟩, ⟨.opens (.body .comment), "<!--", 1⟩,
        ⟨.text, "b", 1⟩, ⟨.closes (.body .comment), "-->", 1⟩,
        ⟨.closes .directive, "%>", 1⟩]).1.2 hflat
    cases htree

end ViewTemplate.Template
