import Mathlib.Data.List.Forall2
import Mathlib.Tactic.Common
import ViewTemplate.Proofs.ArenaLinks

/-!
# Trees read with frames

`treeOf` finds what an open construct holds by looking into the arena.  The same rows of tokens are
read here by `nodesFrom`, which keeps an open construct and its contents together in a `Frame` and
has no arena: a construct is done with when it is closed, so what is said of rows of tokens can be
said by induction.

The result is that both read the same (`nodesOf_eq`): the same nodes where there is a tree, and the
same error where there is none.  What is kept along the tokens is `Building.Mirrors`: the open
constructs of the arena hold what the frames hold, and the nodes below the root that are closed are
the nodes that have been read.
-/

namespace ViewTemplate.Template

/-! ## Frames -/

/-- An open construct, the line of its opening and its contents so far. -/
structure Frame where
  construct : Construct
  line : Nat
  contents : Contents

/-- An open construct with one more child. -/
def Frame.push (f : Frame) (kind : NodeKind) (line : Nat) : Frame :=
  { f with contents := f.contents ++ [(kind, line)] }

/-- The node of a construct that has just been closed. -/
def Frame.node (f : Frame) : Node :=
  f.construct.node f.line f.contents

/-- Give the innermost open construct one more child. -/
def pushChild (kind : NodeKind) (line : Nat) : List Frame → List Frame
  | [] => []
  | f :: frames => f.push kind line :: frames

/-- The nodes that a row of tokens adds while constructs are open, the innermost first. -/
def nodesFrom : List Frame → List Token → Except TreeError (List Node)
  | frames, [] =>
    match frames.getLast? with
    | none => .ok []
    | some outermost => .error (.unclosed (.construct outermost.construct) outermost.line)
  | frames, token :: rest =>
    match token.kind with
    | .text =>
      match frames with
      | [] => (nodesFrom [] rest).map (.text token.text token.line :: ·)
      | _ :: _ => nodesFrom (pushChild (.expression token.text) token.line frames) rest
    | .directiveName =>
      match frames with
      | ⟨.directive, _, []⟩ :: _ =>
        nodesFrom (pushChild (.directiveName token.text) token.line frames) rest
      | _ => .error (.unexpectedToken token.text token.line)
    | .opens c =>
      nodesFrom (⟨c, token.line, []⟩ :: pushChild (.construct c) token.line frames) rest
    | .closes c =>
      match frames with
      | [] => .error (.unbalancedClose token.text token.line)
      | f :: outer =>
        if f.construct ≠ c then
          .error (.mismatchedClose token.text (.construct f.construct) token.line)
        else
          match contentFault? f.construct f.contents with
          | some fault => .error (.malformed (.construct f.construct) f.line fault)
          | none =>
            match outer with
            | [] => (nodesFrom [] rest).map (f.node :: ·)
            | _ :: _ => nodesFrom outer rest

lemma nodesFrom_directiveName (f : Frame) (frames : List Frame) (shown : String) (line : Nat)
    (rest : List Token) :
    nodesFrom (f :: frames) (⟨.directiveName, shown, line⟩ :: rest) =
      if f.construct = .directive ∧ f.contents = [] then
        nodesFrom (f.push (.directiveName shown) line :: frames) rest
      else .error (.unexpectedToken shown line) := by
  obtain ⟨construct, frameLine, contents⟩ := f
  cases construct with
  | body kind => simp [nodesFrom]
  | directive => cases contents <;> simp [nodesFrom, pushChild]

/-! ## The contents of a node -/

namespace Arena

variable {a : Arena} {parent id : Nat} {kind : NodeKind} {line : Nat}

lemma contents_append_size (h : parent < a.size) :
    (a.append parent kind line).contents a.size = [] := by
  rw [contents, node_append_size h, List.map_nil]

lemma map_contents (ha : a.Linked) (hid : id < a.size) (parent : Nat) (kind : NodeKind)
    (line : Nat) :
    ((a.node id).children.map fun child => (((a.append parent kind line).node child).kind,
      ((a.append parent kind line).node child).line)) = a.contents id := by
  apply List.map_congr_left
  intro child hchild
  obtain ⟨-, hlt, -⟩ := (ha.children id hid).2 child hchild
  obtain ⟨hkind, hline, -⟩ := eq_of_node_append hlt parent kind line
  rw [hkind, hline]

lemma contents_append_parent (ha : a.Linked) (h : parent < a.size) :
    (a.append parent kind line).contents parent = a.contents parent ++ [(kind, line)] := by
  rw [contents, node_append_parent h, List.map_append, map_contents ha h, List.map_singleton,
    node_append_size h]

lemma contents_append_of_ne (ha : a.Linked) (h : id < a.size) (hne : id ≠ parent) :
    (a.append parent kind line).contents id = a.contents id := by
  rw [contents, node_append_of_ne h hne, map_contents ha h]

/-- A node below the root is read from its kind, its line and its contents. -/
lemma top?_append_of_ne (ha : a.Linked) (h : id < a.size) (hne : id ≠ parent) :
    (a.append parent kind line).top? id = a.top? id := by
  simp only [top?, node_append_of_ne h hne, contents_append_of_ne ha h hne]

/-! ## Open constructs and frames -/

/-- The node at a position is the open construct of a frame. -/
structure Shows (a : Arena) (id : Nat) (f : Frame) : Prop where
  pos : 0 < id
  lt : id < a.size
  kind : (a.node id).kind = .construct f.construct
  line : (a.node id).line = f.line
  contents : a.contents id = f.contents

lemma Shows.append_of_ne {f : Frame} (ha : a.Linked) (h : a.Shows id f) (hne : id ≠ parent) :
    (a.append parent kind line).Shows id f where
  pos := h.pos
  lt := by rw [size_append]; exact Nat.lt_succ_of_lt h.lt
  kind := by rw [node_append_of_ne h.lt hne, h.kind]
  line := by rw [node_append_of_ne h.lt hne, h.line]
  contents := by rw [contents_append_of_ne ha h.lt hne, h.contents]

lemma Shows.append {f : Frame} (ha : a.Linked) (h : a.Shows id f) :
    (a.append id kind line).Shows id (f.push kind line) where
  pos := h.pos
  lt := by rw [size_append]; exact Nat.lt_succ_of_lt h.lt
  kind := by rw [node_append_parent h.lt]; exact h.kind
  line := by rw [node_append_parent h.lt]; exact h.line
  contents := by rw [contents_append_parent ha h.lt, h.contents]; rfl

lemma shows_append_size (c : Construct) (h : parent < a.size) :
    (a.append parent (.construct c) line).Shows a.size ⟨c, line, []⟩ where
  pos := Nat.zero_lt_of_lt h
  lt := by rw [size_append]; exact Nat.lt_succ_self _
  kind := by rw [node_append_size h]
  line := by rw [node_append_size h]
  contents := contents_append_size h

/-- Open constructs are not touched by what another node gets. -/
lemma shows_append {ids : List Nat} {frames : List Frame} (ha : a.Linked)
    (h : List.Forall₂ a.Shows ids frames) (hparent : parent ∉ ids) :
    List.Forall₂ (a.append parent kind line).Shows ids frames := by
  induction h with
  | nil => exact .nil
  | cons hfirst _ ih =>
    obtain ⟨hne, hrest⟩ := not_or.1 (mt List.mem_cons.2 hparent)
    exact .cons (hfirst.append_of_ne ha (Ne.symm hne)) (ih hrest)

lemma shows_getLast? {ids : List Nat} {frames : List Frame}
    (h : List.Forall₂ a.Shows ids frames) :
    (ids = [] ∧ frames = []) ∨
      ∃ id f, ids.getLast? = some id ∧ frames.getLast? = some f ∧ a.Shows id f := by
  induction h with
  | nil => exact .inl ⟨rfl, rfl⟩
  | cons hfirst hrest ih =>
    obtain ⟨rfl, rfl⟩ | ⟨id, f, hid, hf, hshows⟩ := ih
    · exact .inr ⟨_, _, rfl, rfl, hfirst⟩
    · exact .inr ⟨id, f, by simp [List.getLast?_cons, hid], by simp [List.getLast?_cons, hf],
        hshows⟩

/-- A construct that is closed is read as the node of its frame. -/
lemma Shows.top? {f : Frame} (h : a.Shows id f) : a.top? id = some f.node := by
  simp only [Arena.top?, h.kind, h.line, h.contents]
  rfl

end Arena

namespace Building

/-- A tree that is being built and the frames and nodes of the same tokens: the open constructs are
those of the frames, and the other nodes below the root are the nodes read. -/
structure Mirrors (b : Building) (frames : List Frame) (done : List Node) : Prop where
  sound : b.Sound
  root : (b.arena.node 0).kind = .root
  opened : List.Forall₂ b.arena.Shows b.opened frames
  nodup : b.opened.Nodup
  closed : ∃ ids, (b.arena.node 0).children = ids ++ b.opened.getLast?.toList ∧
    ids.map b.arena.top? = done.map some ∧ ∀ id ∈ ids, id ∉ b.opened

lemma mirrors_nil : Mirrors {} [] [] where
  sound := sound_nil
  root := rfl
  opened := .nil
  nodup := .nil
  closed := ⟨[], rfl, rfl, by simp⟩

namespace Mirrors

variable {b : Building} {frames : List Frame} {done : List Node} {a : Arena} {id : Nat}
  {opened : List Nat} {f : Frame}

lemma root_child_lt (h : Mirrors b frames done) {child : Nat}
    (hchild : child ∈ (b.arena.node 0).children) : 0 < child ∧ child < b.arena.size := by
  obtain ⟨hpos, hlt, -⟩ := (h.sound.linked.children 0 h.sound.linked.root.1).2 child hchild
  exact ⟨hpos, hlt⟩

/-- One more node below the root, behind all others. -/
lemma append_root (h : Mirrors ⟨a, []⟩ [] done) (kind : NodeKind) (line : Nat) :
    ∃ ids, ((a.append 0 kind line).node 0).children = ids ++ [a.size] ∧
      ids.map (a.append 0 kind line).top? = done.map some ∧ ∀ id ∈ ids, id < a.size := by
  obtain ⟨ids, hchildren, htops, -⟩ := h.closed
  have hpos := h.sound.linked.root.1
  have hbelow : ∀ id ∈ ids, 0 < id ∧ id < a.size := fun id hid =>
    h.root_child_lt (by simp [hchildren, hid])
  refine ⟨ids, ?_, ?_, fun id hid => (hbelow id hid).2⟩
  · rw [Arena.node_append_parent hpos]
    simp [hchildren]
  · rw [← htops]
    apply List.map_congr_left
    intro id hid
    obtain ⟨hlt, hin⟩ := hbelow id hid
    exact Arena.top?_append_of_ne h.sound.linked hin (Nat.ne_of_gt hlt)

lemma text (h : Mirrors ⟨a, []⟩ [] done) (shown : String) (line : Nat) :
    Mirrors ⟨a.append 0 (.expression shown) line, []⟩ [] (done ++ [.text shown line]) := by
  have hpos := h.sound.linked.root.1
  obtain ⟨ids, hchildren, htops, -⟩ := h.append_root (.expression shown) line
  refine ⟨h.sound.append hpos _ _, ?_, .nil, .nil, ids ++ [a.size], ?_, ?_, by simp⟩
  · rw [(Arena.eq_of_node_append hpos _ _ _).1, h.root]
  · simpa using hchildren
  · have hnew : (a.append 0 (.expression shown) line).top? a.size = some (.text shown line) := by
      simp only [Arena.top?, Arena.node_append_size hpos]
    simp [htops, hnew]

lemma openRoot (h : Mirrors ⟨a, []⟩ [] done) (c : Construct) (line : Nat) :
    Mirrors ⟨a.append 0 (.construct c) line, [a.size]⟩ [⟨c, line, []⟩] done := by
  have hpos := h.sound.linked.root.1
  obtain ⟨ids, hchildren, htops, hlt⟩ := h.append_root (.construct c) line
  refine ⟨h.sound.appendOpen hpos _ _, ?_, .cons (Arena.shows_append_size c hpos) .nil,
    List.nodup_singleton _, ids, hchildren, htops, fun id hid => ?_⟩
  · rw [(Arena.eq_of_node_append hpos _ _ _).1, h.root]
  · simpa using Nat.ne_of_lt (hlt id hid)

/-- The frames around the innermost one are not touched by what is put into it. -/
lemma opened_append (h : Mirrors ⟨a, id :: opened⟩ (f :: frames) done) (kind : NodeKind)
    (line : Nat) :
    List.Forall₂ (a.append id kind line).Shows (id :: opened) (f.push kind line :: frames) := by
  obtain ⟨hinner, houter⟩ := List.forall₂_cons.1 h.opened
  have hnotMem : id ∉ opened := (List.nodup_cons.1 h.nodup).1
  exact .cons (hinner.append h.sound.linked) (Arena.shows_append h.sound.linked houter hnotMem)

/-- Nor are the nodes that are closed. -/
lemma closed_append (h : Mirrors ⟨a, id :: opened⟩ (f :: frames) done) (kind : NodeKind)
    (line : Nat) :
    ∃ ids, ((a.append id kind line).node 0).children = ids ++ (id :: opened).getLast?.toList ∧
      ids.map (a.append id kind line).top? = done.map some ∧
      ∀ i ∈ ids, i ∉ id :: opened ∧ i < a.size := by
  obtain ⟨ids, hchildren, htops, hclosed⟩ := h.closed
  have hpos := h.sound.linked.root.1
  have hne : 0 ≠ id := Nat.ne_of_lt (List.forall₂_cons.1 h.opened).1.pos
  have hlt : ∀ i ∈ ids, i < a.size := fun i hi =>
    (h.root_child_lt (by simp [hchildren, hi])).2
  refine ⟨ids, by rw [Arena.node_append_of_ne hpos hne, hchildren], ?_, fun i hi =>
    ⟨hclosed i hi, hlt i hi⟩⟩
  rw [← htops]
  apply List.map_congr_left
  intro i hi
  refine Arena.top?_append_of_ne h.sound.linked (hlt i hi) ?_
  rintro rfl
  exact hclosed i hi List.mem_cons_self

lemma push (h : Mirrors ⟨a, id :: opened⟩ (f :: frames) done) (kind : NodeKind) (line : Nat) :
    Mirrors ⟨a.append id kind line, id :: opened⟩ (f.push kind line :: frames) done := by
  have hlt := (List.forall₂_cons.1 h.opened).1.lt
  obtain ⟨ids, hchildren, htops, hclosed⟩ := h.closed_append kind line
  refine ⟨h.sound.append hlt _ _, ?_, h.opened_append kind line, h.nodup, ids, hchildren, htops,
    fun i hi => (hclosed i hi).1⟩
  rw [(Arena.eq_of_node_append h.sound.linked.root.1 _ _ _).1, h.root]

lemma openInner (h : Mirrors ⟨a, id :: opened⟩ (f :: frames) done) (c : Construct) (line : Nat) :
    Mirrors ⟨a.append id (.construct c) line, a.size :: id :: opened⟩
      (⟨c, line, []⟩ :: f.push (.construct c) line :: frames) done := by
  have hlt := (List.forall₂_cons.1 h.opened).1.lt
  obtain ⟨ids, hchildren, htops, hclosed⟩ := h.closed_append (.construct c) line
  refine ⟨h.sound.appendOpen hlt _ _, ?_, .cons (Arena.shows_append_size c hlt)
    (h.opened_append _ line), List.nodup_cons.2 ⟨fun hmem => ?_, h.nodup⟩, ids, ?_, htops, ?_⟩
  · rw [(Arena.eq_of_node_append h.sound.linked.root.1 _ _ _).1, h.root]
  · exact Nat.lt_irrefl _ (h.sound.opened _ hmem)
  · rw [hchildren, List.getLast?_cons_cons]
  · intro i hi hmem
    obtain rfl | hmem := List.mem_cons.1 hmem
    · exact Nat.lt_irrefl _ (hclosed _ hi).2
    · exact (hclosed i hi).1 hmem

lemma closeRoot (h : Mirrors ⟨a, [id]⟩ [f] done) : Mirrors ⟨a, []⟩ [] (done ++ [f.node]) := by
  obtain ⟨ids, hchildren, htops, -⟩ := h.closed
  have hnode := (List.forall₂_cons.1 h.opened).1.top?
  refine ⟨h.sound.close, h.root, .nil, .nil, ids ++ [id], ?_, ?_, by simp⟩
  · simpa using hchildren
  · simp [htops, hnode]

lemma closeInner {outer : Nat} {g : Frame}
    (h : Mirrors ⟨a, id :: outer :: opened⟩ (f :: g :: frames) done) :
    Mirrors ⟨a, outer :: opened⟩ (g :: frames) done := by
  obtain ⟨ids, hchildren, htops, hclosed⟩ := h.closed
  refine ⟨h.sound.close, h.root, (List.forall₂_cons.1 h.opened).2, (List.nodup_cons.1 h.nodup).2,
    ids, ?_, htops, fun i hi hmem => hclosed i hi (List.mem_cons_of_mem _ hmem)⟩
  rw [hchildren, List.getLast?_cons_cons]

/-- Both readers refuse a token for the same reason, or go on. -/
def Agree (b : Building) (frames : List Frame) (done : List Node) (token : Token) : Prop :=
  (∃ e, b.step token = .error e ∧ ∀ rest, nodesFrom frames (token :: rest) = .error e) ∨
    ∃ b' frames' read, b.step token = .ok b' ∧ Mirrors b' frames' (done ++ read) ∧
      ∀ rest, nodesFrom frames (token :: rest) = (nodesFrom frames' rest).map (read ++ ·)

/-- A token behind which no more nodes are complete. -/
lemma Agree.goesOn {b' : Building} {frames' : List Frame} {token : Token}
    (hstep : b.step token = .ok b') (hmirrors : Mirrors b' frames' done)
    (hread : ∀ rest, nodesFrom frames (token :: rest) = nodesFrom frames' rest) :
    Agree b frames done token := by
  refine .inr ⟨b', frames', [], hstep, by rwa [List.append_nil], fun rest => ?_⟩
  rw [hread]
  cases nodesFrom frames' rest <;> rfl

/-- A name is refused, unless it is the first thing in a directive. -/
lemma agree_directiveName (h : Mirrors ⟨a, id :: opened⟩ (f :: frames) done)
    (hinner : a.Shows id f) (text : String) (line : Nat) :
    Agree ⟨a, id :: opened⟩ (f :: frames) done ⟨.directiveName, text, line⟩ := by
  have hchildren : (a.node id).children = [] ↔ f.contents = [] := by
    rw [← hinner.contents, Arena.contents, List.map_eq_nil_iff]
  have hkind : (a.node id).kind = .construct .directive ↔ f.construct = .directive := by
    rw [hinner.kind, NodeKind.construct.injEq]
  by_cases hfirst : f.construct = .directive ∧ f.contents = []
  · refine .goesOn (if_pos ⟨hkind.2 hfirst.1, hchildren.2 hfirst.2⟩)
      (h.push (.directiveName text) line) fun rest => ?_
    rw [nodesFrom_directiveName, if_pos hfirst]
  · refine .inl ⟨_, if_neg fun hnode => hfirst ⟨hkind.1 hnode.1, hchildren.1 hnode.2⟩, ?_⟩
    intro rest
    rw [nodesFrom_directiveName, if_neg hfirst]

/-- A closing token is refused, unless it closes a construct with the contents it must have. -/
lemma agree_closes (h : Mirrors ⟨a, id :: opened⟩ (f :: frames) done)
    (hinner : a.Shows id f) (c : Construct) (text : String) (line : Nat) :
    Agree ⟨a, id :: opened⟩ (f :: frames) done ⟨.closes c, text, line⟩ := by
  by_cases hc : f.construct = c
  · subst hc
    cases hfault : contentFault? f.construct f.contents with
    | some fault =>
      refine .inl ⟨.malformed (.construct f.construct) f.line fault, ?_, fun rest => ?_⟩
      · simp [Building.step, hinner.kind, hinner.line, hinner.contents, hfault]
      · simp [nodesFrom, hfault]
    | none =>
      have hclose : Building.step ⟨a, id :: opened⟩ ⟨.closes f.construct, text, line⟩ =
          .ok ⟨a, opened⟩ := by
        simp [Building.step, hinner.kind, hinner.contents, hfault]
      -- the construct is complete, which makes a node of the template only if nothing is open
      -- around it
      cases (List.forall₂_cons.1 h.opened).2 with
      | nil =>
        refine .inr ⟨_, _, [f.node], hclose, h.closeRoot, fun rest => ?_⟩
        simp [nodesFrom, hfault]
      | cons hnext hmore =>
        refine .goesOn hclose h.closeInner fun rest => ?_
        simp [nodesFrom, hfault]
  · refine .inl ⟨.mismatchedClose text (.construct f.construct) line, ?_, fun rest => ?_⟩
    · simp [Building.step, hinner.kind, hc]
    · simp [nodesFrom, hc]

lemma agree (h : Mirrors b frames done) (token : Token) : Agree b frames done token := by
  obtain ⟨a, opened⟩ := b
  obtain ⟨kind, text, line⟩ := token
  cases h.opened with
  | nil =>
    -- nothing is open, so the token stands below the root
    cases kind with
    | text => exact .inr ⟨_, _, [.text text line], rfl, h.text text line, fun _ => rfl⟩
    | directiveName =>
      have hroot : ¬ ((a.node 0).kind = .construct .directive ∧ (a.node 0).children = []) := by
        simp [h.root]
      exact .inl ⟨_, if_neg hroot, fun _ => rfl⟩
    | opens c => exact .goesOn rfl (h.openRoot c line) fun _ => rfl
    | closes c => exact .inl ⟨_, rfl, fun _ => rfl⟩
  | cons hinner houter =>
    cases kind with
    | text => exact .goesOn rfl (h.push (.expression text) line) fun _ => rfl
    | directiveName => exact h.agree_directiveName hinner text line
    | opens c => exact .goesOn rfl (h.openInner c line) fun _ => rfl
    | closes c => exact h.agree_closes hinner c text line

lemma tree_nil (h : Mirrors b frames done) :
    b.tree.map Arena.tops = (nodesFrom frames []).map (done ++ ·) := by
  obtain ⟨a, opened⟩ := b
  obtain ⟨rfl, rfl⟩ | ⟨outermost, f, hlast, hframe, hshows⟩ := Arena.shows_getLast? h.opened
  · obtain ⟨ids, hchildren, htops, -⟩ := h.closed
    have hids : (a.node 0).children = ids := by simpa using hchildren
    have hdone : a.tops = done := by
      calc a.tops = (ids.map a.top?).filterMap id := by
            rw [Arena.tops, hids, List.filterMap_map]
            rfl
        _ = done := by
            rw [htops]
            simp
    simp [Building.tree, nodesFrom, Except.map, hdone]
  · simp [Building.tree, nodesFrom, Except.map, hlast, hframe, hshows.kind, hshows.line]

/-- Both readers say the same about the tokens that are left. -/
lemma tree (h : Mirrors b frames done) (tokens : List Token) :
    (tokens.foldlM Building.step b >>= Building.tree).map Arena.tops =
      (nodesFrom frames tokens).map (done ++ ·) := by
  induction tokens generalizing b frames done with
  | nil => exact h.tree_nil
  | cons token rest ih =>
    obtain ⟨e, hstep, hrefused⟩ | ⟨next, frames', read, hstep, hnext, hread⟩ := h.agree token
    · rw [List.foldlM_cons, hstep, hrefused]
      rfl
    · have hrest : ((token :: rest).foldlM Building.step b >>= Building.tree).map Arena.tops =
          (nodesFrom frames' rest).map (done ++ read ++ ·) := by
        rw [List.foldlM_cons, hstep]
        exact ih hnext
      rw [hrest, hread]
      cases nodesFrom frames' rest <;> simp [Except.map]

end Mirrors

end Building

/-- The nodes of a template are those that are read with frames. -/
lemma nodesOf_eq (tokens : List Token) : nodesOf tokens = nodesFrom [] tokens := by
  rw [nodesOf, treeOf, Building.mirrors_nil.tree tokens]
  cases nodesFrom [] tokens <;> rfl

end ViewTemplate.Template
