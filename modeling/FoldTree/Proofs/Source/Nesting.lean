import FoldTree.Proofs.Source.Blocks
import FoldTree.Proofs.Source.Regions
import FoldTree.Proofs.Tree.Growth

/-! How the regions of a program nest. Numbering gives them their keys and leaves them where they
lie, so each region of the skeleton has its doc text and then the regions below it inside. Tokens
stand at both ends of a region, so that a block of comments lies beside or inside of it as a whole.
-/

namespace FoldTree.Source

variable {text : List Char} {found : List (Nat × Nat)} {n m first behind : Nat}

namespace Part

/-- A region goes from one offset to another, with its doc text and then the regions below it
inside.
-/
def Holds (text : List Char) (found : List (Nat × Nat)) (branch : Rose Part) (first behind : Nat)
    : Prop :=
  branch.value.region.start = first
  ∧ branch.value.region.length = (behind : Int) - first
  ∧ ∃ k,
      Doc.Lies text found branch.value.doc first k
      ∧ LieInRow text found branch.children k behind

/-- A region that lies between two offsets goes from one token to another there. -/
theorem Lies.holds {branch : Rose Part} (lies : Lies text found branch n m)
    : ∃ first behind,
        n ≤ first
        ∧ behind ≤ m
        ∧ Spanned text found first behind
        ∧ Holds text found branch first behind := by
  cases branch with
  | node part below =>
      rw [Lies] at lies
      exact lies

/-- A region that fills a text goes from its start to its end. -/
theorem Fills.holds {parts : Rose Part} (fills : Fills text found parts)
    : Holds text found parts 0 text.length := by
  cases parts with
  | node part below =>
      obtain ⟨start, length, inside⟩ := fills
      exact ⟨start, length.trans (Int.sub_zero _).symm, inside⟩

/-- Each region of a row goes from one token to another there, by induction on the row. -/
theorem LieInRow.holds {branches : List (Rose Part)} (row : LieInRow text found branches n m)
    : ∀ branch ∈ branches, ∃ first behind,
        n ≤ first
        ∧ behind ≤ m
        ∧ Spanned text found first behind
        ∧ Holds text found branch first behind := by
  induction branches generalizing n with
  | nil => simp
  | cons branch rest ih =>
      rw [LieInRow] at row
      obtain ⟨k, lies, row⟩ := row
      rintro other (_ | ⟨_, member⟩)
      · obtain ⟨first, behind, after, up, inside⟩ := lies.holds
        exact ⟨first, behind, after, up.trans row.le, inside⟩
      · obtain ⟨first, behind, after, inside⟩ := ih row other member
        exact ⟨first, behind, lies.le.trans after, inside⟩

/-- The regions of a row come one behind the other, by induction on the row. -/
theorem LieInRow.pairwise {branches : List (Rose Part)} (row : LieInRow text found branches n m)
    : branches.Pairwise fun one other => one.value.region.stop ≤ other.value.region.start := by
  induction branches generalizing n with
  | nil => exact .nil
  | cons branch rest ih =>
      rw [LieInRow] at row
      obtain ⟨k, lies, row⟩ := row
      refine .cons (fun other member => ?_) (ih row)
      obtain ⟨first, behind, -, up, -, start, length, -⟩ := lies.holds
      obtain ⟨first', behind', after, -, -, start', -⟩ := row.holds other member
      rw [Region.stop, start, length, start']
      omega

/-- Every region below a region that goes from one offset to another goes from one token to another
between them. Witness: induction on the region.
-/
theorem Holds.subtrees {parts : Rose Part} (holds : Holds text found parts first behind)
    : ∀ part ∈ parts.subtrees,
        part = parts
        ∨ ∃ first' behind',
            first ≤ first'
            ∧ behind' ≤ behind
            ∧ Spanned text found first' behind'
            ∧ Holds text found part first' behind' := by
  induction parts using Rose.induction generalizing first behind with
  | node top below ih =>
      intro part member
      rw [Rose.subtrees_node, List.mem_cons, List.mem_flatMap] at member
      rcases member with here | ⟨branch, inside, member⟩
      · exact Or.inl here
      · obtain ⟨-, -, k, ⟨order, -⟩, row⟩ := holds
        obtain ⟨a, b, after, up, spanned, deeper⟩ := row.holds branch inside
        rcases ih branch inside deeper part member with rfl | ⟨c, d, after', up', lower⟩
        · exact Or.inr ⟨a, b, order.trans after, up, spanned, deeper⟩
        · exact Or.inr ⟨c, d, (order.trans after).trans after', up'.trans up, lower⟩

/-- A region ends where it goes to. -/
theorem Holds.stop {branch : Rose Part} (holds : Holds text found branch first behind)
    : branch.value.region.stop = behind := by
  obtain ⟨start, length, -⟩ := holds
  rw [Region.stop, start, length]
  omega

/-- The regions directly below a region go from one token to another inside of it. -/
theorem Holds.below {part : Rose Part} (holds : Holds text found part first behind)
    : ∀ branch ∈ part.children, ∃ first' behind' : Nat,
        first ≤ first'
        ∧ behind' ≤ behind
        ∧ Spanned text found first' behind'
        ∧ branch.value.region.start = first'
        ∧ branch.value.region.stop = behind' := by
  intro branch member
  obtain ⟨-, -, k, ⟨order, -⟩, row⟩ := holds
  obtain ⟨first', behind', after, up, spanned, inner⟩ := row.holds branch member
  exact ⟨first', behind', order.trans after, up, spanned, inner.1, inner.stop⟩

/-- The doc text of a region goes from one token to another before the regions below. -/
theorem Holds.doc {part : Rose Part} (holds : Holds text found part first behind)
    : ∀ doc ∈ part.value.doc, ∃ first' behind' : Nat,
        first ≤ first'
        ∧ behind' ≤ behind
        ∧ Spanned text found first' behind'
        ∧ doc.start = first'
        ∧ doc.length = (behind' : Int) - first'
        ∧ ∀ branch ∈ part.children, behind' ≤ branch.value.region.start := by
  intro doc written
  obtain ⟨-, -, k, ⟨-, docs⟩, row⟩ := holds
  obtain ⟨first', behind', after, up, spanned, start, length⟩ := docs doc written
  refine ⟨first', behind', after, up.trans row.le, spanned, start, length, ?_⟩
  intro branch member
  obtain ⟨first'', _, after', -, -, below⟩ := row.holds branch member
  rw [below.1]
  exact Int.ofNat_le.mpr (up.trans after')

/-! ### Numbering -/

variable {f : Nat → Part → Part}

mutual

/-- A region lies where it did when a change to each part leaves what says where. -/
theorem number_lies (branch : Rose Part)
    (same : ∀ key part,
      (f key part).region.start = part.region.start
      ∧ (f key part).region.length = part.region.length
      ∧ (f key part).doc = part.doc)
    (next : Nat) {n m : Nat} (lies : Lies text found branch n m)
    : Lies text found (branch.number f next).1 n m := by
  cases branch with
  | node part below =>
      obtain ⟨start, length, doc⟩ := same next part
      rw [Rose.number_node]
      rw [Lies] at lies ⊢
      obtain ⟨first, behind, after, up, spanned, starts, ends, k, written, row⟩ := lies
      exact ⟨first, behind, after, up, spanned, start.trans starts, length.trans ends, k,
        doc ▸ written, numberAll_lieInRow below same (next + 1) row⟩

/-- A row of regions lies where it did under the same condition. -/
theorem numberAll_lieInRow (branches : List (Rose Part))
    (same : ∀ key part,
      (f key part).region.start = part.region.start
      ∧ (f key part).region.length = part.region.length
      ∧ (f key part).doc = part.doc)
    (next : Nat) {n m : Nat} (row : LieInRow text found branches n m)
    : LieInRow text found (Rose.numberAll f next branches).1 n m := by
  cases branches with
  | nil => exact row
  | cons branch rest =>
      rw [Rose.numberAll_cons]
      rw [LieInRow] at row ⊢
      obtain ⟨k, lies, row⟩ := row
      exact ⟨k, number_lies branch same next lies, numberAll_lieInRow rest same _ row⟩

end

/-- Numbered regions lie where they did. -/
theorem Holds.numbered {parts : Rose Part} (holds : Holds text found parts first behind)
    : Holds text found (numbered parts) first behind := by
  cases parts with
  | node part below =>
      obtain ⟨start, length, k, written, row⟩ := holds
      have numbered := numberAll_lieInRow
        (f := fun key part => { part with region := { part.region with key } })
        below (fun _ _ => ⟨rfl, rfl, rfl⟩) 1 row
      exact ⟨start, length, k, written, numbered⟩

/-- Numbered regions have their places in pre-order as their keys. -/
theorem counted_numbered (parts : Rose Part)
    : Tree.Counted ((numbered parts).map (·.region)).preorder 0 := by
  have values := (Rose.number_preorder
    (fun key (part : Part) => { part with region := { part.region with key } }) 0 parts).1
  rw [Tree.Counted, Rose.preorder_map, numbered, values, List.map_map]
  refine List.ext_getElem (by simp) fun i bound _ => ?_
  simp

end Part

/-- A block of comments lies before what goes from one token to another, behind it or inside. -/
theorem Comment.BlockFills.beside {block : List Comment} {extent : Nat × Nat}
    (fills : BlockFills text found block extent) (spanned : Spanned text found first behind)
    : behind ≤ extent.1
      ∨ extent.2 ≤ first
      ∨ (first ≤ extent.1 ∧ extent.2 ≤ behind) := by
  obtain ⟨stop, after, before, opens⟩ := spanned.opens
  obtain ⟨start, after', before', closes⟩ := spanned.closes
  have front := fills.clear first stop after opens
  have back := fills.clear start behind before' closes
  omega

end FoldTree.Source
