import Mathlib.Data.List.Nodup
import Mathlib.Tactic.Common
import ViewTemplate.Template.Arena

/-!
# What one more node does to an arena

A tree is built by `Arena.append` alone.  One more node changes two places: the new position, and
the children of the parent.  All that is said here of trees follows from these two facts.

The result is about every row of tokens, whether it has a tree or not.  As far as it is read, the
nodes of the arena repeat the tokens that close nothing (`Building.entries_of_foldlM`), and the
links between parents and children agree (`Building.Sound`).
-/

namespace ViewTemplate.Template

namespace Arena

variable {a : Arena} {parent id : Nat} {kind : NodeKind} {line : Nat}

@[simp] lemma size_append (a : Arena) (parent : Nat) (kind : NodeKind) (line : Nat) :
    (a.append parent kind line).size = a.size + 1 := by
  simp [append, size]

lemma node_append_size (h : parent < a.size) :
    (a.append parent kind line).node a.size = ⟨kind, line, some parent, []⟩ := by
  rw [size] at h
  simp only [node, append, size]
  rw [Array.getElem?_setIfInBounds_ne (Nat.ne_of_lt h), Array.getElem?_push_size, Option.getD_some]

/-- The parent has one more child. -/
lemma node_append_parent (h : parent < a.size) :
    (a.append parent kind line).node parent =
      { a.node parent with children := (a.node parent).children ++ [a.size] } := by
  have hsize : parent < a.nodes.size + 1 := Nat.lt_succ_of_lt h
  simp [node, append, size, hsize]

lemma node_append_of_ne (h : id < a.size) (hne : id ≠ parent) :
    (a.append parent kind line).node id = a.node id := by
  rw [size] at h
  simp only [node, append, size]
  rw [Array.getElem?_setIfInBounds_ne hne.symm, Array.getElem?_push, if_neg (Nat.ne_of_lt h)]

/-- No node that is there changes its kind, its line or its parent. -/
lemma eq_of_node_append (h : id < a.size) (parent : Nat) (kind : NodeKind) (line : Nat) :
    ((a.append parent kind line).node id).kind = (a.node id).kind ∧
      ((a.append parent kind line).node id).line = (a.node id).line ∧
      ((a.append parent kind line).node id).parent = (a.node id).parent := by
  by_cases hid : id = parent
  · subst hid
    rw [node_append_parent h]
    exact ⟨rfl, rfl, rfl⟩
  · rw [node_append_of_ne h hid]
    exact ⟨rfl, rfl, rfl⟩

/-! ## Kinds and lines -/

/-- The kinds and lines of the nodes, by position. -/
def entries (a : Arena) : List (NodeKind × Nat) :=
  (List.range a.size).map fun id => ((a.node id).kind, (a.node id).line)

lemma entries_append (h : parent < a.size) :
    (a.append parent kind line).entries = a.entries ++ [(kind, line)] := by
  unfold entries
  rw [size_append, List.range_succ, List.map_append, List.map_singleton, node_append_size h]
  congr 1
  apply List.map_congr_left
  intro id hid
  obtain ⟨hkind, hline, -⟩ := eq_of_node_append (List.mem_range.1 hid) parent kind line
  rw [hkind, hline]

/-! ## Parents and children -/

/-- A tree: every node below the root has a parent further up, which lists it once, and the children
of a node stand in their order behind it. -/
structure Linked (a : Arena) : Prop where
  root : 0 < a.size ∧ (a.node 0).parent = none
  parent : ∀ id, 0 < id → id < a.size →
    ∃ p < id, (a.node id).parent = some p ∧ (a.node p).children.count id = 1
  children : ∀ p < a.size, (a.node p).children.Pairwise (· < ·) ∧
    ∀ id ∈ (a.node p).children, p < id ∧ id < a.size ∧ (a.node id).parent = some p

lemma linked_root : Linked {} where
  root := ⟨Nat.one_pos, rfl⟩
  parent := by
    intro id hpos hlt
    have hsize : id < 1 := hlt
    omega
  children := by
    intro p hp
    obtain rfl : p = 0 := Nat.lt_one_iff.1 hp
    exact ⟨.nil, by simp [node, ArenaNode.root]⟩

/-- The new node is the child of its parent alone, and stands there once. -/
lemma Linked.parent_append (h : a.Linked) (hparent : parent < a.size) (kind : NodeKind)
    (line : Nat) {id : Nat} (hpos : 0 < id) (hlt : id < a.size + 1) :
    ∃ p < id, ((a.append parent kind line).node id).parent = some p ∧
      ((a.append parent kind line).node p).children.count id = 1 := by
  obtain rfl | hid : id = a.size ∨ id < a.size := by omega
  · have hnew : a.size ∉ (a.node parent).children := fun hmem =>
      Nat.lt_irrefl _ ((h.children parent hparent).2 _ hmem).2.1
    refine ⟨parent, hparent, by rw [node_append_size hparent], ?_⟩
    rw [node_append_parent hparent]
    simp [List.count_eq_zero.2 hnew]
  · obtain ⟨p, hp, hup, hcount⟩ := h.parent id hpos hid
    refine ⟨p, hp, by rw [(eq_of_node_append hid parent kind line).2.2, hup], ?_⟩
    by_cases hsame : p = parent
    · subst hsame
      rw [node_append_parent hparent]
      have hother : id ∉ [a.size] := by simpa using Nat.ne_of_lt hid
      rw [List.count_append, hcount, List.count_eq_zero.2 hother]
    · rw [node_append_of_ne (Nat.lt_trans hp hid) hsame, hcount]

/-- A child that was there is one still. -/
lemma Linked.child_append (h : a.Linked) (parent : Nat) (kind : NodeKind) (line : Nat) {p id : Nat}
    (hp : p < a.size) (hid : id ∈ (a.node p).children) :
    p < id ∧ id < a.size + 1 ∧ ((a.append parent kind line).node id).parent = some p := by
  obtain ⟨hbehind, hin, hup⟩ := (h.children p hp).2 id hid
  exact ⟨hbehind, Nat.lt_succ_of_lt hin, by rw [(eq_of_node_append hin parent kind line).2.2, hup]⟩

lemma Linked.append (h : a.Linked) (hparent : parent < a.size) (kind : NodeKind) (line : Nat) :
    (a.append parent kind line).Linked where
  root := by
    rw [size_append, (eq_of_node_append h.root.1 parent kind line).2.2]
    exact ⟨Nat.succ_pos _, h.root.2⟩
  parent := by
    intro id hpos hlt
    rw [size_append] at hlt
    exact h.parent_append hparent kind line hpos hlt
  children := by
    intro p hp
    rw [size_append] at hp ⊢
    obtain rfl | hlt : p = a.size ∨ p < a.size := by omega
    · -- the new node has no children yet
      rw [node_append_size hparent]
      exact ⟨.nil, by simp⟩
    · obtain ⟨hordered, hchildren⟩ := h.children p hlt
      by_cases hsame : p = parent
      · subst hsame
        rw [node_append_parent hparent]
        refine ⟨List.pairwise_append.2 ⟨hordered, List.pairwise_singleton _ _, ?_⟩, ?_⟩
        · intro id hid last hlast
          obtain rfl := List.mem_singleton.1 hlast
          exact (hchildren id hid).2.1
        · intro id hid
          obtain hid | hid := List.mem_append.1 hid
          · exact h.child_append p kind line hlt hid
          · obtain rfl := List.mem_singleton.1 hid
            exact ⟨hlt, Nat.lt_succ_self _, by rw [node_append_size hparent]⟩
      · rw [node_append_of_ne hlt hsame]
        exact ⟨hordered, fun id hid => h.child_append parent kind line hlt hid⟩

end Arena

/-! ## Building -/

/-- What a token says about the node it starts, if it starts one. -/
def Token.entry? (token : Token) : Option (NodeKind × Nat) :=
  match token.kind with
  | .opens c => some (.construct c, token.line)
  | .closes _ => none
  | .directiveName => some (.directiveName token.text, token.line)
  | .text => some (.expression token.text, token.line)

namespace Building

/-- The arena of a tree that is being built is a tree, and the open constructs are in it. -/
structure Sound (b : Building) : Prop where
  linked : b.arena.Linked
  opened : ∀ id ∈ b.opened, id < b.arena.size

lemma sound_nil : Sound {} where
  linked := Arena.linked_root
  opened := by simp

lemma Sound.current_lt {b : Building} (h : b.Sound) : b.current < b.arena.size := by
  unfold current
  cases hopened : b.opened with
  | nil => exact h.linked.root.1
  | cons innermost outer => exact h.opened innermost (by simp [hopened])

/-- A token adds the node it starts to the innermost open construct, and opens it if it is an
opening token, or takes a construct off the stack. -/
lemma step_cases {b b' : Building} {token : Token} (h : b.step token = .ok b') :
    (∃ kind line, token.entry? = some (kind, line) ∧
      b' = ⟨b.arena.append b.current kind line,
        if token.kind.isOpening then b.arena.size :: b.opened else b.opened⟩) ∨
    token.entry? = none ∧ ∃ innermost outer, b.opened = innermost :: outer ∧
      b' = ⟨b.arena, outer⟩ := by
  obtain ⟨kind, text, line⟩ := token
  cases kind with
  | text =>
    obtain rfl := Except.ok.inj h
    exact .inl ⟨_, _, rfl, rfl⟩
  | directiveName =>
    simp only [step] at h
    split at h
    · obtain rfl := Except.ok.inj h
      exact .inl ⟨_, _, rfl, rfl⟩
    · cases h
  | opens c =>
    obtain rfl := Except.ok.inj h
    exact .inl ⟨_, _, rfl, rfl⟩
  | closes c =>
    simp only [step] at h
    split at h
    · cases h
    · -- only the innermost construct can be closed, and only if it may end here
      rename_i innermost outer hopened
      split at h
      · cases h
      · split at h
        · cases h
        · obtain rfl := Except.ok.inj h
          exact .inr ⟨rfl, innermost, outer, hopened, rfl⟩

lemma foldlM_cons_eq_ok {b b' : Building} {token : Token} {rest : List Token} :
    (token :: rest).foldlM step b = .ok b' ↔
      ∃ next, b.step token = .ok next ∧ rest.foldlM step next = .ok b' := by
  rw [List.foldlM_cons]
  cases b.step token with
  | error e => simp [bind, Except.bind]
  | ok next => simp [bind, Except.bind]

lemma Sound.append {a : Arena} {opened : List Nat} {parent : Nat} (h : Sound ⟨a, opened⟩)
    (hparent : parent < a.size) (kind : NodeKind) (line : Nat) :
    Sound ⟨a.append parent kind line, opened⟩ where
  linked := h.linked.append hparent kind line
  opened := by
    intro id hid
    rw [Arena.size_append]
    exact Nat.lt_succ_of_lt (h.opened id hid)

lemma Sound.appendOpen {a : Arena} {opened : List Nat} {parent : Nat} (h : Sound ⟨a, opened⟩)
    (hparent : parent < a.size) (kind : NodeKind) (line : Nat) :
    Sound ⟨a.append parent kind line, a.size :: opened⟩ where
  linked := h.linked.append hparent kind line
  opened := by
    intro id hid
    rw [Arena.size_append]
    obtain rfl | hid := List.mem_cons.1 hid
    · exact Nat.lt_succ_self _
    · exact Nat.lt_succ_of_lt (h.opened id hid)

lemma Sound.close {a : Arena} {id : Nat} {opened : List Nat} (h : Sound ⟨a, id :: opened⟩) :
    Sound ⟨a, opened⟩ where
  linked := h.linked
  opened := fun _ hid => h.opened _ (List.mem_cons_of_mem _ hid)

lemma Sound.step {b b' : Building} {token : Token} (hb : b.Sound) (h : b.step token = .ok b') :
    b'.Sound := by
  obtain ⟨kind, line, -, rfl⟩ | ⟨-, innermost, outer, hopened, rfl⟩ := step_cases h
  · split
    · exact hb.appendOpen hb.current_lt kind line
    · exact hb.append hb.current_lt kind line
  · obtain ⟨a, opened⟩ := b
    subst hopened
    exact hb.close

/-- Whatever has been read of a row of tokens is a tree. -/
lemma Sound.foldlM {b b' : Building} {tokens : List Token} (hb : b.Sound)
    (h : tokens.foldlM Building.step b = .ok b') : b'.Sound := by
  induction tokens generalizing b with
  | nil =>
    obtain rfl := Except.ok.inj h
    exact hb
  | cons token rest ih =>
    obtain ⟨next, hstep, hrest⟩ := foldlM_cons_eq_ok.1 h
    exact ih (hb.step hstep) hrest

/-- The nodes added by a row of tokens repeat the tokens that start a node. -/
lemma entries_of_foldlM {b b' : Building} {tokens : List Token} (hb : b.Sound)
    (h : tokens.foldlM Building.step b = .ok b') :
    b'.arena.entries = b.arena.entries ++ tokens.filterMap Token.entry? := by
  induction tokens generalizing b with
  | nil =>
    obtain rfl := Except.ok.inj h
    simp
  | cons token rest ih =>
    obtain ⟨next, hstep, hrest⟩ := foldlM_cons_eq_ok.1 h
    rw [ih (hb.step hstep) hrest, List.filterMap_cons]
    obtain ⟨kind, line, hentry, rfl⟩ | ⟨hentry, innermost, outer, -, rfl⟩ := step_cases hstep
    · rw [hentry, Arena.entries_append hb.current_lt, List.append_assoc, List.singleton_append]
    · rw [hentry]

end Building

end ViewTemplate.Template
