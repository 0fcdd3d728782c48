import FoldTree.Proofs.Source.Lexing
import FoldTree.Proofs.Source.LineByLine

/-! Blocks of comments. A block goes from the start of its first comment to behind its last one.
Nothing but blanks stands between the comments of a block, so every token of the text lies before or
behind the block as a whole, as it lies before or behind each comment.
-/

namespace FoldTree.Source.Comment

open Text (lastLine LineTable)

/-- A block of comments fills a stretch of a text from its first comment to behind its last one, and
tokens lie before or behind it.
-/
structure BlockFills (text : List Char) (found : List (Nat × Nat)) (block : List Comment)
    (extent : Nat × Nat) : Prop where
  first : ∃ comment stop, block.head? = some comment ∧ Fills text comment (extent.1, stop)
  last : ∃ comment start, block.getLast? = some comment ∧ Fills text comment (start, extent.2)
    ∧ start ≤ extent.2
  proper : extent.1 < extent.2
  bound : extent.2 ≤ text.length
  clear : ∀ first behind, first ≤ behind → Fits text found first behind
    → behind ≤ extent.1 ∨ extent.2 ≤ first

section

variable {text : List Char} {found : List (Nat × Nat)} {comment next : Comment}
  {stretch other : Nat × Nat}

/-- Between a comment and the one that goes on with its block there are blanks only: the newline
behind the first, and what stands before the second on its line.
-/
theorem isBlank_between (fills : Fills text comment stretch) (later : Fills text next other)
    (proper : stretch.1 < stretch.2) (inside : Inside text stretch) (goes : continues comment next)
    {i : Nat} {c : Char} (behind : stretch.2 ≤ i) (before : i < other.1) (there : text[i]? = some c)
    : Text.isBlank c = true := by
  simp only [continues, Bool.and_eq_true, beq_iff_eq] at goes
  obtain ⟨⟨⟨-, alone⟩, rows⟩, -⟩ := goes
  rw [later.row, fills.row] at rows
  rw [later.alone] at alone
  have newline := inside.ends (behind.trans_lt (List.getElem?_eq_some_iff.mp there).1)
  rcases Nat.eq_or_lt_of_le behind with rfl | behind
  · rw [newline] at there
    cases there
    decide
  · -- what stands before the second comment on its line is all that follows the newline
    have upto : text.take (stretch.2 + 1)
        = text.take stretch.1 ++ (text.drop stretch.1).take (stretch.2 - stretch.1) ++ ['\n'] := by
      rw [List.take_add_one, newline, ← List.take_add, Nat.add_sub_cancel' (Nat.le_of_lt proper)]
      rfl
    have whole : text.take other.1
        = text.take (stretch.2 + 1)
          ++ (text.drop (stretch.2 + 1)).take (other.1 - (stretch.2 + 1)) := by
      rw [← List.take_add]
      congr 1
      omega
    have plain : '\n' ∉ (text.drop (stretch.2 + 1)).take (other.1 - (stretch.2 + 1)) := by
      rw [whole, List.count_append, upto, List.count_append, List.count_append,
        List.count_singleton_self] at rows
      rw [← List.count_eq_zero]
      omega
    rw [whole, Text.lastLine_append plain, upto, Text.lastLine_append_newline,
      List.nil_append] at alone
    refine List.all_eq_true.mp alone c (List.mem_of_getElem? (i := i - (stretch.2 + 1)) ?_)
    rw [List.getElem?_take_of_lt (by omega), List.getElem?_drop, ← there]
    congr 1
    omega

/-- A comment in front of a block that goes on with it makes a longer block. -/
theorem BlockFills.cons {rest : List Comment} {extent : Nat × Nat}
    (block : BlockFills text found (next :: rest) extent) (fills : Fills text comment stretch)
    (proper : stretch.1 < stretch.2) (inside : Inside text stretch) (among : stretch ∈ found)
    (hash : text[extent.1]? = some '#') (apart : stretch.2 ≤ extent.1)
    (goes : continues comment next)
    : BlockFills text found (comment :: next :: rest) (stretch.1, extent.2) := by
  obtain ⟨_, stop, head, later⟩ := block.first
  cases head
  obtain ⟨last, start, tail, final, order⟩ := block.last
  have longer := block.proper
  refine ⟨⟨comment, stretch.2, rfl, fills⟩, ⟨last, start, by simpa using tail, final, order⟩,
    by dsimp only; omega, block.bound, ?_⟩
  intro first behind ordered fit
  rcases block.clear first behind ordered fit with before | after
  · rcases fit.clear stretch among with before' | within
    · exact Or.inl before'
    · -- the token would start between the two comments
      obtain ⟨c, there, nonblank, other⟩ := fit.solid
      rcases Nat.eq_or_lt_of_le (ordered.trans before) with same | inner
      · rw [same, hash] at there
        cases there
        exact absurd rfl other
      · have blank := isBlank_between fills later proper inside goes within inner there
        rw [blank] at nonblank
        cases nonblank
  · exact Or.inr after

/-- A comment alone is a block. -/
theorem BlockFills.single (fills : Fills text comment stretch) (proper : stretch.1 < stretch.2)
    (inside : Inside text stretch) (among : stretch ∈ found)
    : BlockFills text found [comment] stretch :=
  ⟨⟨comment, stretch.2, rfl, fills⟩, ⟨comment, stretch.1, rfl, fills, Nat.le_of_lt proper⟩, proper,
    inside.bound, fun _ _ _ fit => fit.clear stretch among⟩

end

/-- The blocks of comments fill stretches of the text one behind the other, by induction on the
comments.
-/
theorem blocks_fill {text : List Char} {found kept : List (Nat × Nat)} {comments : List Comment}
    (fills : List.Forall₂ (Fills text) comments kept)
    (apart : kept.Pairwise fun first later => first.2 ≤ later.1)
    (inside : ∀ stretch ∈ kept, stretch.1 < stretch.2 ∧ Inside text stretch)
    (among : ∀ stretch ∈ kept, stretch ∈ found)
    : ∃ extents,
        List.Forall₂ (BlockFills text found) (blocks comments) extents
        ∧ extents.Pairwise (fun first later => first.2 ≤ later.1)
        ∧ ∀ extent ∈ extents, ∃ stretch ∈ kept, stretch.1 = extent.1 := by
  induction fills with
  | nil => exact ⟨[], .nil, .nil, by simp⟩
  | @cons comment stretch comments kept fill _ ih =>
      obtain ⟨before, apart⟩ := List.pairwise_cons.mp apart
      obtain ⟨proper, solid⟩ := inside stretch List.mem_cons_self
      have here := among stretch List.mem_cons_self
      obtain ⟨extents, blocked, ordered, starts⟩ := ih apart
        (fun other member => inside other (List.mem_cons_of_mem _ member))
        (fun other member => among other (List.mem_cons_of_mem _ member))
      have after : ∀ extent ∈ extents, stretch.2 ≤ extent.1 := by
        intro extent member
        obtain ⟨other, kept, same⟩ := starts extent member
        exact same ▸ before other kept
      have hash : ∀ extent ∈ extents, text[extent.1]? = some '#' := by
        intro extent member
        obtain ⟨other, kept, same⟩ := starts extent member
        exact same ▸ (inside other (List.mem_cons_of_mem _ kept)).2.hash
      have later : ∀ extent ∈ extents, ∃ other ∈ stretch :: kept, other.1 = extent.1 := by
        intro extent member
        obtain ⟨other, kept, same⟩ := starts extent member
        exact ⟨other, List.mem_cons_of_mem _ kept, same⟩
      have alone : BlockFills text found [comment] stretch := .single fill proper solid here
      -- where nothing goes on with it, the comment is a block in front of the others
      have apartAlone : ∃ all,
          List.Forall₂ (BlockFills text found) ([comment] :: blocks comments) all
          ∧ all.Pairwise (fun first later => first.2 ≤ later.1)
          ∧ ∀ extent ∈ all, ∃ other ∈ stretch :: kept, other.1 = extent.1 := by
        refine ⟨stretch :: extents, .cons alone blocked, .cons after ordered, ?_⟩
        rintro extent (_ | ⟨_, member⟩)
        · exact ⟨stretch, List.mem_cons_self, rfl⟩
        · exact later extent member
      rw [blocks]
      split
      · rename_i next rest others same
        rw [same] at blocked apartAlone
        -- a comment that the first block goes on with is taken into it, from its own start on
        split_ifs with goes
        · cases blocked with
          | @cons _ extent _ extents block blocked =>
              have grown := block.cons fill proper solid here (hash extent List.mem_cons_self)
                (after extent List.mem_cons_self) goes
              obtain ⟨beyond, ordered⟩ := List.pairwise_cons.mp ordered
              refine ⟨(stretch.1, extent.2) :: extents, .cons grown blocked,
                .cons beyond ordered, ?_⟩
              rintro other (_ | ⟨_, member⟩)
              · exact ⟨stretch, List.mem_cons_self, rfl⟩
              · exact later other (List.mem_cons_of_mem _ member)
        · exact apartAlone
      · exact apartAlone

end FoldTree.Source.Comment
