import FoldTree.Proofs.Term.Listing
import FoldTree.Proofs.Tree.Grafting
import FoldTree.Proofs.Tree.Levels
import FoldTree.Proofs.Tree.Plans

/-! Built trees, node by node. The nodes of the skeleton come first, in the pre-order of its regions,
and then a leaf for each remark that one of the regions carries, in the order of the carriers and
for each of them in the order given. Nothing else is made, and no term is lost.
-/

namespace FoldTree

/-- A node has its id and wraps a region, with the terms of a list: each of them is listed where it
comes first, with the number of its occurrences.
-/
structure Node.Wraps (node : Node) (id : NodeId) (region : Region) (terms : List String) : Prop where
  id : node.id = id
  region : node.region = region
  terms : node.terms.entries = terms.eraseDups.map fun term => (term, terms.count term)

/-- What a node holds of the source: its region and its terms. -/
def Node.content (node : Node) : Region × Terms :=
  (node.region, node.terms)

/-- A fresh node wraps its region with its terms. -/
theorem Node.wraps_fresh (source : List Char) (id : NodeId) (region : Region) (terms : List String)
    (parent : Option NodeId)
    : (Node.fresh source id region terms parent).Wraps id region terms :=
  ⟨rfl, rfl, Terms.entries_addAll terms⟩

namespace Tree

variable {base tree other : Tree} {remarks : List Remark} {id : NodeId}

/-- The remarks that some region of a skeleton carries: in the pre-order of the regions, and for each
of them in the order given.
-/
def matched (skeleton : Rose Region) (remarks : List Remark) : List Remark :=
  skeleton.preorder.flatMap (remarksOf remarks)

/-- The matched remarks, each with the number of the region that carries it. -/
def planOf (skeleton : Rose Region) (remarks : List Remark) : List (NodeId × Remark) :=
  (skeleton.number Prod.mk 0).1.preorder.flatMap fun place =>
    (remarksOf remarks place.2).map (Prod.mk place.1)

section

variable {source : List Char} {file : Path} {skeleton : Rose Region}

/-- The plan holds the matched remarks in their order. -/
theorem map_snd_planOf : (planOf skeleton remarks).map Prod.snd = matched skeleton remarks := by
  have own (place : NodeId × Region)
      : ((remarksOf remarks place.2).map (Prod.mk place.1)).map Prod.snd
        = remarksOf remarks place.2 := by
    rw [List.map_map]
    exact List.map_id _
  rw [planOf, List.map_flatMap, matched, ← Rose.number_snd 0 skeleton, List.flatMap_map]
  simp only [own]

/-- Every planned remark has its place, the one of a region that carries it. -/
theorem mem_planOf {entry : NodeId × Remark} (member : entry ∈ planOf skeleton remarks)
    : ∃ place ∈ (skeleton.number Prod.mk 0).1.preorder,
        entry.1 = place.1 ∧ place.2.key = entry.2.carrier := by
  obtain ⟨place, inside, member⟩ := List.mem_flatMap.mp member
  obtain ⟨remark, own, rfl⟩ := List.mem_map.mp member
  have carries := (List.mem_filter.mp own).2
  exact ⟨place, inside, rfl, (beq_iff_eq.mp carries).symm⟩

/-- Every place is that of a joint. -/
theorem exists_joint_of_place {place : NodeId × Region}
    (member : place ∈ (skeleton.number Prod.mk 0).1.preorder)
    : ∃ joint ∈ (skeleton.number Prod.mk 0).1.joints none, joint.1.value = place := by
  rw [← Rose.map_value_subtrees] at member
  obtain ⟨part, inside, rfl⟩ := List.mem_map.mp member
  obtain ⟨parent, joint⟩ := Rose.exists_joint none inside
  exact ⟨_, joint, rfl⟩

/-- Places are those of the nodes of the skeleton. -/
theorem place_lt {place : NodeId × Region}
    (member : place ∈ (skeleton.number Prod.mk 0).1.preorder)
    : place.1 < (planted source file skeleton).nodes.length := by
  have inside := List.mem_map_of_mem (f := Prod.fst) member
  rw [Rose.number_fst, List.mem_range'_1] at inside
  rw [length_planted, ← Nat.zero_add skeleton.preorder.length]
  exact inside.2

/-- Where no remark's region carries remarks, grafting follows the plan. -/
theorem addNodes_planted (bare : ∀ remark ∈ remarks, remarksOf remarks remark.region = [])
    : (planted source file skeleton).addNodes remarks
      = .ok ((planted source file skeleton).graftAll (planOf skeleton remarks)) := by
  have spans : (planted source file skeleton).Spans _ := (planted_spans source file).1
  have plan : ((skeleton.number Prod.mk 0).1.map Prod.fst).preorder.flatMap (fun id =>
        ((planted source file skeleton).carried remarks id).map (Prod.mk id))
      = planOf skeleton remarks := by
    rw [Rose.preorder_map, List.flatMap_map]
    refine List.flatMap_congr fun place member => ?_
    obtain ⟨joint, inside, rfl⟩ := exists_joint_of_place member
    simp only [carried, getElem?_planted source file inside]
    rfl
  have added := spans.grown.addNodes_bare bare spans.once spans.root
  rw [added, planFor, List.flatMap_singleton, plan]

end

/-- What a tree holds that was built from a skeleton and remarks. -/
structure Planned (tree : Tree) (skeleton : Rose Region) (remarks : List Remark) : Prop where
  regions : ∀ joint ∈ (skeleton.number Prod.mk 0).1.joints none,
    ∃ node,
      tree.nodes[joint.1.value.1]? = some node
      ∧ node.Wraps joint.1.value.1 joint.1.value.2 joint.1.value.2.terms
      ∧ node.parent = joint.2.map Prod.fst
      ∧ node.children
        = (joint.1.children.map fun branch => branch.value.1)
          ++ (((matched skeleton remarks).zipIdx skeleton.preorder.length).filter fun entry =>
              entry.1.carrier == joint.1.value.2.key).map Prod.snd
  leaves : ∀ entry ∈ (matched skeleton remarks).zipIdx skeleton.preorder.length,
    ∃ node,
      tree.nodes[entry.2]? = some node
      ∧ node.Wraps entry.2 entry.1.region entry.1.terms
      ∧ node.children = []
      ∧ ∃ place ∈ (skeleton.number Prod.mk 0).1.preorder,
          place.2.key = entry.1.carrier ∧ node.parent = some place.1
  count : tree.nodes.length = skeleton.preorder.length + (matched skeleton remarks).length
  order : tree.nodes.map Node.region
    = skeleton.preorder ++ (matched skeleton remarks).map Remark.region
  terms : (tree.nodes.map fun node => node.terms.toMultiset).sum
    = (skeleton.preorder.flatMap Region.terms : Multiset String)
      + ((matched skeleton remarks).flatMap Remark.terms : Multiset String)

/-- A tree that differs in levels only holds the same. -/
theorem Planned.of_flat {skeleton : Rose Region} (planned : tree.Planned skeleton remarks)
    (same : other.nodes.map Node.flat = tree.nodes.map Node.flat)
    : other.Planned skeleton remarks := by
  refine ⟨?_, ?_, ?_, ?_, ?_⟩
  · intro joint member
    obtain ⟨node, found, wraps, links⟩ := planned.regions joint member
    obtain ⟨level, found'⟩ := exists_of_flat same found
    exact ⟨_, found', ⟨wraps.id, wraps.region, wraps.terms⟩, links⟩
  · intro entry member
    obtain ⟨node, found, wraps, links⟩ := planned.leaves entry member
    obtain ⟨level, found'⟩ := exists_of_flat same found
    exact ⟨_, found', ⟨wraps.id, wraps.region, wraps.terms⟩, links⟩
  · rw [← planned.count]
    simpa using congrArg List.length same
  · rw [← planned.order]
    have regions := congrArg (List.map Node.region) same
    rw [List.map_map, List.map_map] at regions
    exact regions
  · rw [← planned.terms]
    have terms := congrArg (fun nodes => (nodes.map fun node => node.terms.toMultiset).sum) same
    simp only [List.map_map] at terms
    exact terms

section

variable {source : List Char} {file : Path} {skeleton : Rose Region}

/-- The leaves of a region's node are those of the matched remarks that it carries, where no two
regions have the same key.
-/
theorem leavesOf_planOf (distinct : (skeleton.preorder.map Region.key).Nodup)
    {place : NodeId × Region} (member : place ∈ (skeleton.number Prod.mk 0).1.preorder)
    (first : NodeId)
    : leavesOf (planOf skeleton remarks) first place.1
      = (((matched skeleton remarks).zipIdx first).filter fun entry =>
          entry.1.carrier == place.2.key).map Prod.snd := by
  have ids : ((skeleton.number Prod.mk 0).1.preorder.map Prod.fst).Nodup := by
    rw [Rose.number_fst]
    exact List.nodup_range'
  have keys : ((skeleton.number Prod.mk 0).1.preorder.map fun place => place.2.key).Nodup := by
    rw [← Rose.number_snd 0 skeleton, List.map_map] at distinct
    exact distinct
  rw [← map_snd_planOf, List.zipIdx_map, List.filter_map, List.map_map, leavesOf]
  refine congrArg (List.map _) (List.filter_congr fun entry inside => ?_)
  obtain ⟨carrier, among, same, carries⟩ := mem_planOf (List.fst_mem_of_mem_zipIdx inside)
  -- the number and the key both name one region
  refine Bool.eq_iff_iff.mpr ?_
  simp only [beq_iff_eq, Function.comp_apply, Prod.map_fst, same, ← carries]
  constructor
  · intro number
    rw [List.inj_on_of_nodup_map ids among member number]
  · intro key
    rw [List.inj_on_of_nodup_map keys among member key]

/-- The nodes of a skeleton hold its regions with their terms. -/
theorem planted_contents
    : (planted source file skeleton).nodes.map Node.content
      = skeleton.preorder.map fun region => (region, Terms.empty.addAll region.terms) := by
  have keeps (node : Node) : ({ node with level := 0 } : Node).content = node.content := rfl
  rw [planted, growSkeleton_eq]
  simp only [setRoot, update, empty, List.nil_append, List.length_nil]
  rw [map_modify_of_same keeps, ← Rose.number_snd 0 skeleton, ← Rose.map_value_subtrees,
    ← Rose.map_fst_joints none]
  simp only [List.map_map]
  rfl

/-- Grafting by a plan keeps what nodes hold, and the new ones hold the planned remarks. -/
theorem graftAll_contents {plan : List (NodeId × Remark)}
    (made : ∀ entry ∈ plan, entry.1 < tree.nodes.length)
    : (tree.graftAll plan).nodes.map Node.content
      = tree.nodes.map Node.content
        ++ (plan.map Prod.snd).map fun remark =>
            (remark.region, Terms.empty.addAll remark.terms) := by
  have same : (tree.graftAll plan).nodes.map Node.content
      = (tree.nodes ++ (plan.zipIdx tree.nodes.length).map (leafNode tree.source)).map
          Node.content := by
    apply List.ext_getElem?
    intro i
    rw [List.getElem?_map, getElem?_graftAll (feasible_of_made made), List.getElem?_map, Option.map_map]
    rfl
  have leaves : ((plan.zipIdx tree.nodes.length).map (leafNode tree.source)).map Node.content
      = ((plan.zipIdx tree.nodes.length).map Prod.fst).map fun entry =>
          (entry.2.region, Terms.empty.addAll entry.2.terms) := by
    simp only [List.map_map]
    rfl
  rw [same, List.map_append, leaves, List.zipIdx_map_fst, List.map_map]
  rfl

/-- Grafting by the plan leaves what is planned. -/
theorem planned_graftAll (distinct : (skeleton.preorder.map Region.key).Nodup)
    : ((planted source file skeleton).graftAll (planOf skeleton remarks)).Planned skeleton
        remarks := by
  have made : ∀ entry ∈ planOf skeleton remarks,
      entry.1 < (planted source file skeleton).nodes.length := by
    intro entry member
    obtain ⟨place, inside, same, -⟩ := mem_planOf member
    rw [same]
    exact place_lt inside
  have contents := (graftAll_contents made).trans
    (congrArg₂ (· ++ ·) planted_contents (congrArg (List.map _) map_snd_planOf))
  refine ⟨?_, ?_, ?_, ?_, ?_⟩
  · -- a node of the skeleton has kept all but its children, and got its leaves behind these
    intro joint member
    have place : joint.1.value ∈ (skeleton.number Prod.mk 0).1.preorder := by
      rw [← Rose.map_value_subtrees, ← Rose.map_fst_joints none, List.map_map]
      exact List.mem_map_of_mem member
    refine ⟨_, getElem?_graftAll_old (feasible_of_made made) (getElem?_planted source file member), ?_,
      rfl, ?_⟩
    · exact ⟨rfl, rfl, Terms.entries_addAll _⟩
    · rw [length_planted, leavesOf_planOf distinct place]
      rfl
  · -- a matched remark stands in the plan under the same number
    intro entry member
    rw [← map_snd_planOf, List.zipIdx_map] at member
    obtain ⟨numbered, inside, rfl⟩ := List.mem_map.mp member
    obtain ⟨place, among, same, carries⟩ := mem_planOf (List.fst_mem_of_mem_zipIdx inside)
    rw [← length_planted source file] at inside
    -- nothing is planned for a leaf
    have behind := (List.mem_zipIdx inside).1
    have bare := leavesOf_eq_nil (fun entry member => Nat.ne_of_lt ((made entry member).trans_le behind))
      (planted source file skeleton).nodes.length
    have leaf := getElem?_graftAll_leaf (feasible_of_made made) inside
    rw [bare, Node.extend_nil] at leaf
    refine ⟨_, leaf, Node.wraps_fresh _ _ _ _ _, rfl, place, among, carries, ?_⟩
    exact congrArg some same
  · have total : (planOf skeleton remarks).length = (matched skeleton remarks).length := by
      rw [← map_snd_planOf, List.length_map]
    rw [length_graftAll, length_planted, total]
  · have regions := congrArg (List.map Prod.fst) contents
    rw [List.map_map, List.map_append, List.map_map, List.map_map] at regions
    exact regions.trans (congrArg (· ++ _) (List.map_id _))
  · have sums := congrArg (fun all => (all.map fun content => content.2.toMultiset).sum) contents
    simp only [List.map_append, List.map_map, List.sum_append] at sums
    rw [← Terms.sum_addAll, ← Terms.sum_addAll]
    exact sums

end

/-- Remarks of distinct carriers, taken together, are those that have one of these carriers, by
induction on the carriers.
-/
theorem flatMap_carriers_perm {keys : List Nat} (distinct : keys.Nodup) (remarks : List Remark)
    : (keys.flatMap fun key => remarks.filter fun remark => remark.carrier == key).Perm
        (remarks.filter fun remark => decide (remark.carrier ∈ keys)) := by
  induction keys with
  | nil => simp
  | cons key rest ih =>
      obtain ⟨fresh, distinct⟩ := List.nodup_cons.mp distinct
      have split := List.filter_append_perm (fun remark => remark.carrier == key)
        (remarks.filter fun remark => decide (remark.carrier ∈ key :: rest))
      rw [List.filter_filter, List.filter_filter] at split
      rw [List.flatMap_cons]
      refine ((ih distinct).append_left _).trans (.trans (.of_eq ?_) split)
      refine congrArg₂ (· ++ ·) (List.filter_congr fun remark _ => ?_)
        (List.filter_congr fun remark _ => ?_)
      · by_cases own : remark.carrier = key <;> simp [own]
      · by_cases own : remark.carrier = key
        · simp [own, fresh]
        · simp [own]

/-- The items at all places of a list are the list, by induction on it from its end. -/
theorem filterMap_range {α : Type} (items : List α)
    : ((List.range items.length).filterMap fun i => items[i]?) = items := by
  induction items using List.reverseRecOn with
  | nil => rfl
  | append_singleton items item ih =>
      have same : ((List.range items.length).filterMap fun i => (items ++ [item])[i]?)
          = (List.range items.length).filterMap fun i => items[i]? :=
        List.filterMap_congr fun i inside =>
          List.getElem?_append_left (List.mem_range.mp inside)
      rw [List.length_append, List.length_singleton, List.range_succ, List.filterMap_append, same, ih]
      simp

/-- The nodes that the root of a spanned tree reaches are all of its nodes, in some order. -/
theorem Spans.reachable_perm {shape : Rose NodeId} (spans : tree.Spans shape)
    : ∃ nodes, tree.reachable = .ok nodes ∧ nodes.Perm tree.nodes := by
  refine ⟨shape.preorder.filterMap fun id => tree.nodes[id]?, ?_, ?_⟩
  · simp only [reachable, rootId, spans.root, Except.map, nodesBelow, preorder, spans.subtree_eq]
  · exact (spans.all.filterMap _).trans (.of_eq (filterMap_range tree.nodes))

/-- From a skeleton of distinct regions, and remarks on them that carry no remarks themselves, a tree
is built whose first nodes wrap the regions in their pre-order, with links as in the skeleton, and
whose other nodes are leaves for the matched remarks, each under the node of its carrier and behind
its older children. The root reaches all nodes, each by one path, whose length is its level, and the
terms of all nodes are those of the regions and the matched remarks together.
-/
theorem build_planned (source : List Char) (file : Path) {skeleton : Rose Region}
    {remarks : List Remark} (distinct : (skeleton.preorder.map Region.key).Nodup)
    (bare : ∀ remark ∈ remarks, ∀ other ∈ remarks, other.carrier ≠ remark.region.key)
    : ∃ tree shape,
        build source file skeleton remarks = .ok tree
        ∧ tree.Planned skeleton remarks
        ∧ (matched skeleton remarks).Perm
            (remarks.filter fun remark =>
              decide (remark.carrier ∈ skeleton.preorder.map Region.key))
        ∧ tree.Forms shape
        ∧ shape.preorder.Perm (List.range tree.nodes.length)
        ∧ (∃ nodes, tree.reachable = .ok nodes ∧ nodes.Perm tree.nodes)
        ∧ ∀ lineage ∈ shape.lineages [],
            ∀ node,
              tree.nodes[lineage.1]? = some node
              → node.level = lineage.2.length := by
  have none (remark : Remark) (member : remark ∈ remarks)
      : remarksOf remarks remark.region = [] := by
    apply List.filter_eq_nil_iff.mpr
    intro other among
    simpa using bare remark member other among
  obtain ⟨full, shape, added, -, built, spans, levelled⟩ := build_eq source file skeleton remarks
  obtain ⟨-, -, flat⟩ := setLevels_flat full shape.preorder
  have full_eq : full = (planted source file skeleton).graftAll (planOf skeleton remarks) :=
    Except.ok.inj (added.symm.trans (addNodes_planted none))
  have carriers := flatMap_carriers_perm distinct remarks
  rw [List.flatMap_map] at carriers
  subst full_eq
  exact ⟨_, shape, built, (planned_graftAll distinct).of_flat flat, carriers, spans.toForms,
    spans.all, spans.reachable_perm, levelled⟩

/-- Four regions: a first one over two, the first of which holds the fourth. -/
def fourRegions : Rose Region :=
  .node ⟨7, 0, 9, "block", none, ["a", "b", "a"]⟩
    [.node ⟨5, 2, 5, "block", none, []⟩ [.node ⟨9, 4, 3, "block", none, []⟩ []],
      .node ⟨2, 8, 1, "block", none, []⟩ []]

/-- Four remarks: two on the second region, one on the first, and one on none of them. -/
def fourRemarks : List Remark :=
  [⟨⟨20, 2, 1, "comment", none, []⟩, 5, ["c"]⟩, ⟨⟨21, 0, 1, "comment", none, []⟩, 100, ["d"]⟩,
    ⟨⟨22, 0, 1, "comment", none, []⟩, 7, ["a"]⟩, ⟨⟨23, 6, 1, "comment", none, []⟩, 5, ["e", "e"]⟩]

/-- The remark on the first region gets the first id behind the regions, and those on the second one
get the next two; the remark on none of them gets none.
-/
theorem fourRegions_planned
    : ∃ tree,
        build [] ⟨[], [['a']]⟩ fourRegions fourRemarks = .ok tree
        ∧ tree.nodes.map (fun node => node.region.key) = [7, 5, 9, 2, 22, 20, 23]
        ∧ (∃ node, tree.nodes[0]? = some node ∧ node.terms.entries = [("a", 2), ("b", 1)])
        ∧ ∃ node, tree.nodes[1]? = some node ∧ node.children = [2, 5, 6] := by
  have distinct : (fourRegions.preorder.map Region.key).Nodup := by decide
  have bare : ∀ remark ∈ fourRemarks, ∀ other ∈ fourRemarks,
      other.carrier ≠ remark.region.key := by
    decide
  obtain ⟨tree, shape, built, planned, -⟩ := build_planned [] ⟨[], [['a']]⟩ distinct bare
  have keys := congrArg (List.map Region.key) planned.order
  rw [List.map_map] at keys
  obtain ⟨first, found, wraps, -⟩ := planned.regions _ (List.mem_of_getElem? (i := 0) rfl)
  obtain ⟨second, found', -, -, children⟩ := planned.regions _ (List.mem_of_getElem? (i := 1) rfl)
  exact ⟨tree, built, keys, ⟨first, found, wraps.terms⟩, second, found', children⟩

end Tree

end FoldTree
