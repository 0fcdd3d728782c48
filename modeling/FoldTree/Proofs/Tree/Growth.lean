import FoldTree.Proofs.Subtrees
import FoldTree.Tree.Graft

/-! Trees grown from a skeleton of regions. What walks and costs see of a node is its face: its id,
its region with its place, and its children. Nodes made before keep their faces when others are
made, and the new nodes mirror the skeleton.
-/

namespace FoldTree.Tree

/-- What walks and costs see of a node. -/
structure Face where
  id : NodeId
  region : Region
  span : Span
  children : List NodeId

/-- The face of a node. -/
def face (node : Node) : Face :=
  ⟨node.id, node.region, node.span, node.children⟩

/-- The face of the node of an id, if there is one. -/
def faceAt (tree : Tree) (id : NodeId) : Option Face :=
  (tree.nodes[id]?).map face

/-- The face of a new node for a region. -/
def Face.leaf (source : List Char) (id : NodeId) (region : Region) : Face :=
  ⟨id, region, Span.ofRegion source region, []⟩

/-- A face with more children behind the others. -/
def Face.extend (face : Face) (more : List NodeId) : Face :=
  { face with children := face.children ++ more }

/-- The nodes of a tree mirror regions: the node of each region's key has the region, and its
children are the nodes of the regions below.
-/
def Mirrors (tree : Tree) (regions : Rose Region) : Prop :=
  ∀ part ∈ regions.subtrees,
    tree.faceAt part.value.key
      = some ⟨part.value.key, part.value, Span.ofRegion tree.source part.value,
          part.children.map fun branch => branch.value.key⟩

variable {tree other : Tree} {id : NodeId}

/-- A node that is found has its face there. -/
theorem faceAt_of_found {node : Node} (found : tree.nodes[id]? = some node)
    : tree.faceAt id = some (face node) := by
  rw [faceAt, found]
  rfl

/-- No children more leave a face as it is. -/
theorem Face.extend_nil (face : Face) : face.extend [] = face := by
  simp [extend]

/-- Children can be added one after the other. -/
theorem Face.extend_extend (face : Face) (first second : List NodeId)
    : (face.extend first).extend second = face.extend (first ++ second) := by
  simp [extend]

/-- There is a face for every node that was made. -/
theorem lt_of_faceAt {face : Face} (found : tree.faceAt id = some face)
    : id < tree.nodes.length := by
  obtain ⟨node, there, -⟩ := Option.map_eq_some_iff.mp found
  exact (List.getElem?_eq_some_iff.mp there).1

/-- A change to one node leaves the faces of all others. -/
theorem faceAt_update_of_ne (tree : Tree) {changed : NodeId} (f : Node → Node)
    (differ : id ≠ changed)
    : (tree.update changed f).faceAt id = tree.faceAt id := by
  simp only [faceAt, update, List.getElem?_modify, if_neg (Ne.symm differ)]
  cases tree.nodes[id]? <;> rfl

/-- A change to what no face shows leaves all faces. -/
theorem faceAt_update (tree : Tree) (changed : NodeId) {f : Node → Node}
    (hidden : ∀ node, face (f node) = face node)
    : (tree.update changed f).faceAt id = tree.faceAt id := by
  by_cases same : id = changed
  · subst same
    simp only [faceAt, update, List.getElem?_modify, if_true]
    cases tree.nodes[id]? <;> simp [hidden]
  · exact faceAt_update_of_ne tree f same

/-- A new node shows its region and no children. -/
theorem faceAt_newNode_self (tree : Tree) (region : Region) (terms : Terms)
    : (tree.newNode region terms).faceAt tree.nodes.length
      = some (.leaf tree.source tree.nodes.length region) := by
  simp [faceAt, newNode, makeNode, face, Face.leaf]

/-- A new node leaves the faces of all others. -/
theorem faceAt_newNode (tree : Tree) (region : Region) (terms : Terms)
    (made : id < tree.nodes.length)
    : (tree.newNode region terms).faceAt id = tree.faceAt id := by
  simp [faceAt, newNode, List.getElem?_append_left made]

/-- A link shows on the parent as its new last child. -/
theorem faceAt_link_parent (tree : Tree) (parent child : NodeId)
    : (tree.link parent child).faceAt parent = (tree.faceAt parent).map (·.extend [child]) := by
  rw [link, faceAt_update]
  · simp only [faceAt, update, List.getElem?_modify, if_true]
    cases tree.nodes[parent]? <;> rfl
  · exact fun _ => rfl

/-- A link leaves the faces of all other nodes, the child's among them. -/
theorem faceAt_link (tree : Tree) {parent : NodeId} (child : NodeId) (differ : id ≠ parent)
    : (tree.link parent child).faceAt id = tree.faceAt id := by
  rw [link, faceAt_update, faceAt_update_of_ne tree _ differ]
  exact fun _ => rfl

/-- A new node makes one more. -/
theorem length_newNode (tree : Tree) (region : Region) (terms : Terms)
    : (tree.newNode region terms).nodes.length = tree.nodes.length + 1 := by
  simp [newNode]

/-- A link makes no node. -/
theorem length_link (tree : Tree) (parent child : NodeId)
    : (tree.link parent child).nodes.length = tree.nodes.length := by
  simp [link, update]

/-- A tree that grows from another has its text and its root, and all nodes made before as they
were, but for one that may have got more children.
-/
structure GrownFrom (before after : Tree) (parent : Option NodeId) : Prop where
  source : after.source = before.source
  root : after.root = before.root
  more : before.nodes.length ≤ after.nodes.length
  kept : ∀ id < before.nodes.length, some id ≠ parent → after.faceAt id = before.faceAt id

/-- The regions that a tree mirrors are mirrored where their nodes have the same faces. -/
theorem Mirrors.of_faces {regions : Rose Region} (mirrors : tree.Mirrors regions)
    (source : other.source = tree.source)
    (same : ∀ region ∈ regions.preorder, other.faceAt region.key = tree.faceAt region.key)
    : other.Mirrors regions := by
  intro part member
  have root : part.value ∈ regions.preorder := by
    rw [← Rose.map_value_subtrees]
    exact List.mem_map_of_mem member
  rw [same part.value root, source]
  exact mirrors part member

/-- Where regions are mirrored, those of each branch are. -/
theorem Mirrors.branch {region : Region} {below : List (Rose Region)}
    (mirrors : tree.Mirrors (.node region below)) {branch : Rose Region} (member : branch ∈ below)
    : tree.Mirrors branch := fun part under =>
  mirrors part
    (Rose.subtrees_trans under (Rose.branch_mem_subtrees (Rose.self_mem_subtrees _) member))

/-- Growth goes on from tree to tree. -/
theorem GrownFrom.trans {first second third : Tree} {parent : Option NodeId}
    (before : GrownFrom first second parent) (later : GrownFrom second third parent)
    : GrownFrom first third parent where
  source := later.source.trans before.source
  root := later.root.trans before.root
  more := Nat.le_trans before.more later.more
  kept id made other :=
    (later.kept id (Nat.lt_of_lt_of_le made before.more) other).trans (before.kept id made other)

/-- A new node is growth. -/
theorem grownFrom_newNode (tree : Tree) (region : Region) (terms : Terms) (parent : Option NodeId)
    : GrownFrom tree (tree.newNode region terms) parent where
  source := rfl
  root := rfl
  more := by simp [length_newNode]
  kept _ made _ := faceAt_newNode tree region terms made

/-- A link is growth of the parent. -/
theorem grownFrom_link (tree : Tree) (parent child : NodeId)
    : GrownFrom tree (tree.link parent child) (some parent) where
  source := rfl
  root := rfl
  more := by simp [length_link]
  kept _ _ other := faceAt_link tree child fun same => other (congrArg some same)

/-- Growth of some node is growth. -/
theorem GrownFrom.allow {before after : Tree} (grown : GrownFrom before after none)
    (parent : Option NodeId)
    : GrownFrom before after parent where
  source := grown.source
  root := grown.root
  more := grown.more
  kept id made _ := grown.kept id made nofun

/-- The keys of regions count up from a number on in their pre-order. -/
def Counted (regions : List Region) (first : Nat) : Prop :=
  regions.map Region.key = List.range' first regions.length

/-- Regions that count up lie between the first number and the one behind the last. -/
theorem Counted.bounds {regions : List Region} {first : Nat} (counted : Counted regions first)
    : ∀ region ∈ regions, first ≤ region.key ∧ region.key < first + regions.length := by
  intro region member
  have key : region.key ∈ List.range' first regions.length := by
    rw [← counted]
    exact List.mem_map_of_mem member
  rw [List.mem_range'_1] at key
  exact key

/-- Of regions that count up in two parts, each counts up. -/
theorem Counted.of_append {before behind : List Region} {first : Nat}
    (counted : Counted (before ++ behind) first)
    : Counted before first ∧ Counted behind (first + before.length) := by
  simp only [Counted, List.map_append, List.length_append, ← List.range'_append_1] at counted
  exact List.append_inj counted (by simp)

mutual

/-- Growing a skeleton mirrors it behind the nodes that were made before. -/
theorem growSkeleton_spec (skeleton : Rose Region) (tree : Tree)
    (counted : Counted skeleton.preorder tree.nodes.length)
    : GrownFrom tree (growSkeleton tree skeleton) none
      ∧ (growSkeleton tree skeleton).nodes.length = tree.nodes.length + skeleton.preorder.length
      ∧ (growSkeleton tree skeleton).Mirrors skeleton := by
  cases skeleton with
  | node region below =>
      rw [Rose.preorder] at counted ⊢
      obtain ⟨root, counted⟩ : region.key = tree.nodes.length
          ∧ Counted (Rose.preorderAll below) (tree.nodes.length + 1) := by
        simpa [Counted, List.range'_succ] using counted
      have length := length_newNode tree region (Terms.empty.addAll region.terms)
      have there := faceAt_newNode_self tree region (Terms.empty.addAll region.terms)
      have made := grownFrom_newNode tree region (Terms.empty.addAll region.terms) none
      obtain ⟨grown, total, face, mirrors⟩ := growBranches_spec below _ there (length ▸ counted)
      rw [growSkeleton]
      refine ⟨⟨grown.source, grown.root, ?_, fun id made' _ => ?_⟩, ?_, ?_⟩
      · exact Nat.le_trans made.more grown.more
      · rw [grown.kept id (by omega) (by simpa using Nat.ne_of_lt made'), made.kept id made' nofun]
      · rw [total, length, List.length_cons]
        omega
      · intro part member
        rw [Rose.subtrees_node, List.mem_cons, List.mem_flatMap] at member
        rcases member with rfl | ⟨branch, inside, member⟩
        · rw [Rose.value, root, face, grown.source]
          rfl
        · exact mirrors branch inside part member
termination_by sizeOf skeleton

/-- Growing branches mirrors each of them, and links their parent to them. -/
theorem growBranches_spec (branches : List (Rose Region)) (tree : Tree) {parent : NodeId}
    {face : Face} (there : tree.faceAt parent = some face)
    (counted : Counted (Rose.preorderAll branches) tree.nodes.length)
    : GrownFrom tree (growBranches tree parent branches) (some parent)
      ∧ (growBranches tree parent branches).nodes.length
          = tree.nodes.length + (Rose.preorderAll branches).length
      ∧ (growBranches tree parent branches).faceAt parent
          = some (face.extend (branches.map fun branch => branch.value.key))
      ∧ ∀ branch ∈ branches, (growBranches tree parent branches).Mirrors branch := by
  cases branches with
  | nil =>
      refine ⟨⟨rfl, rfl, Nat.le_refl _, fun _ _ _ => rfl⟩, rfl, ?_, by simp⟩
      simpa [growBranches, Face.extend_nil] using there
  | cons branch rest =>
      rw [Rose.preorderAll] at counted ⊢
      obtain ⟨first, others⟩ := counted.of_append
      obtain ⟨grown, length, mirrors⟩ := growSkeleton_spec branch tree first
      have child : branch.value.key = tree.nodes.length := by
        have head := congrArg List.head? first
        cases branch with
        | node region below => simpa [Rose.preorder, List.range'_succ, Rose.value] using head
      -- the link changes the face of the parent only, which is older than all that grows here
      have older := lt_of_faceAt there
      have linked := grownFrom_link (growSkeleton tree branch) parent tree.nodes.length
      have face' := faceAt_link_parent (growSkeleton tree branch) parent tree.nodes.length
      have length' := length_link (growSkeleton tree branch) parent tree.nodes.length
      rw [grown.kept parent older nofun, there, Option.map_some] at face'
      rw [length] at length'
      obtain ⟨grown', total, face'', mirrors'⟩ :=
        growBranches_spec rest _ face' (length'.symm ▸ others)
      rw [growBranches]
      refine ⟨((grown.allow _).trans linked).trans grown', ?_, ?_, ?_⟩
      · rw [total, length', List.length_append, Nat.add_assoc]
      · rw [face'', Face.extend_extend, List.map_cons, child]
        rfl
      · rintro other (_ | ⟨_, member⟩)
        · refine mirrors.of_faces (grown'.source.trans linked.source) fun region inside => ?_
          obtain ⟨low, high⟩ := first.bounds region inside
          have differ : some region.key ≠ some parent := fun same =>
            Nat.ne_of_gt (Nat.lt_of_lt_of_le older low) (Option.some.inj same)
          rw [grown'.kept _ (length'.symm ▸ high) differ, linked.kept _ (length.symm ▸ high) differ]
        · exact mirrors' other member
termination_by sizeOf branches

end

end FoldTree.Tree
