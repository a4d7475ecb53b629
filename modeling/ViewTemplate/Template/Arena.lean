import ViewTemplate.Template.Error

/-!
# The tree of a template

A tree is kept in an arena: its nodes stand in one row and refer to each other by their positions in
it.  The root has the position 0.

`treeOf` builds the tree from any row of tokens and says what is wrong with a row that has none.  It
keeps the positions of the open constructs on a stack.  An opening adds a node and puts it on the
stack; what a construct holds is looked at only when it is closed.
-/

namespace ViewTemplate.Template

/-! ## What a construct holds -/

/-- The kinds and lines of the children of a node. -/
abbrev Contents := List (NodeKind × Nat)

/-- What is wrong with the contents of a construct. -/
def contentFault? (c : Construct) (contents : Contents) : Option ContentFault :=
  match c, contents.map Prod.fst with
  | .directive, [.directiveName _] => none
  | .directive, [.directiveName _, .expression _] => none
  | .directive, [] => some .noName
  | .directive, _ => some .notNameAndExpression
  | .body _, [.expression _] => none
  | .body _, _ => some .notOneExpression

/-- The first expression among the children of a node. -/
def firstExpression? (contents : Contents) : Option Leaf :=
  contents.findSome? fun (kind, line) =>
    match kind with
    | .expression text => some ⟨text, line⟩
    | _ => none

/-- The first name among the children of a node. -/
def firstName? (contents : Contents) : Option Leaf :=
  contents.findSome? fun (kind, line) =>
    match kind with
    | .directiveName text => some ⟨text, line⟩
    | _ => none

/-- The node of a construct with its contents. -/
def Construct.node (line : Nat) (contents : Contents) : Construct → Node
  | .body kind => .block kind ((firstExpression? contents).getD ⟨"", line⟩) line
  | .directive =>
    .directive ((firstName? contents).getD ⟨"", line⟩) (firstExpression? contents) line

/-! ## Arenas -/

/-- A node in an arena. -/
structure ArenaNode where
  kind : NodeKind
  line : Nat
  parent : Option Nat
  children : List Nat
  deriving Repr, DecidableEq

/-- The root of a tree that has no other node yet. -/
def ArenaNode.root : ArenaNode :=
  ⟨.root, 1, none, []⟩

structure Arena where
  nodes : Array ArenaNode := #[.root]
  deriving Repr, DecidableEq

namespace Arena

/-- The number of nodes, which is the position of the next one. -/
def size (a : Arena) : Nat :=
  a.nodes.size

/-- The node at a position. -/
def node (a : Arena) (id : Nat) : ArenaNode :=
  a.nodes[id]?.getD .root

/-- Add a node as the last child of a parent. -/
def append (a : Arena) (parent : Nat) (kind : NodeKind) (line : Nat) : Arena :=
  let above := a.node parent
  ⟨(a.nodes.push ⟨kind, line, some parent, []⟩).setIfInBounds parent
    { above with children := above.children ++ [a.size] }⟩

/-- The contents of a node. -/
def contents (a : Arena) (id : Nat) : Contents :=
  (a.node id).children.map fun child => ((a.node child).kind, (a.node child).line)

/-- The text of the first expression among the children of a node. -/
def expressionOf? (a : Arena) (id : Nat) : Option String :=
  (firstExpression? (a.contents id)).map (·.text)

/-- The name and the expression of a directive. -/
def directiveParts? (a : Arena) (id : Nat) : Option (String × Option String) :=
  if (a.node id).kind = .construct .directive then
    (firstName? (a.contents id)).map fun name => (name.text, a.expressionOf? id)
  else none

/-- The node of the template at a position below the root. -/
def top? (a : Arena) (id : Nat) : Option Node :=
  let line := (a.node id).line
  match (a.node id).kind with
  | .expression text => some (.text text line)
  | .construct c => some (c.node line (a.contents id))
  | _ => none

/-- The nodes of the template, in their order. -/
def tops (a : Arena) : List Node :=
  (a.node 0).children.filterMap a.top?

end Arena

/-! ## Building -/

/-- A tree that is being built, and the positions of the open constructs, the innermost first. -/
structure Building where
  arena : Arena := {}
  opened : List Nat := []

namespace Building

/-- The position of the innermost open construct, or of the root. -/
def current (b : Building) : Nat :=
  b.opened.headD 0

/-- Go on with a token. -/
def step (b : Building) (token : Token) : Except TreeError Building :=
  match token.kind with
  | .text =>
    .ok { b with arena := b.arena.append b.current (.expression token.text) token.line }
  | .directiveName =>
    let node := b.arena.node b.current
    if node.kind = .construct .directive ∧ node.children = [] then
      .ok { b with arena := b.arena.append b.current (.directiveName token.text) token.line }
    else .error (.unexpectedToken token.text token.line)
  | .opens c =>
    .ok ⟨b.arena.append b.current (.construct c) token.line, b.arena.size :: b.opened⟩
  | .closes c =>
    match b.opened with
    | [] => .error (.unbalancedClose token.text token.line)
    | innermost :: outer =>
      let node := b.arena.node innermost
      if node.kind ≠ .construct c then
        .error (.mismatchedClose token.text node.kind token.line)
      else
        match contentFault? c (b.arena.contents innermost) with
        | some fault => .error (.malformed node.kind node.line fault)
        | none => .ok { b with opened := outer }

/-- The tree, if no construct is open any more. -/
def tree (b : Building) : Except TreeError Arena :=
  match b.opened.getLast? with
  | none => .ok b.arena
  | some outermost =>
    let node := b.arena.node outermost
    .error (.unclosed node.kind node.line)

end Building

/-- The tree of a template with these tokens. -/
def treeOf (tokens : List Token) : Except TreeError Arena := do
  let built ← tokens.foldlM Building.step {}
  built.tree

/-- The nodes of a template with these tokens. -/
def nodesOf (tokens : List Token) : Except TreeError (List Node) :=
  (treeOf tokens).map Arena.tops

end ViewTemplate.Template
