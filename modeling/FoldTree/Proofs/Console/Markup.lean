import FoldTree.Console.Markup
import Mathlib.Tactic.Common

/-! What markup leaves of a text. A text is shown as it is just if it has no tag and no backslash in
front of a bracket, and one without closing tags never fails to be shown.
-/

namespace FoldTree.Console.Markup

variable {text rest tag : List Char} {openTags : List (List Char)} {held skipped : Nat}

/-! ### Tags -/

/-- A tag is what a text starts with, up to a closing bracket. -/
theorem prefix_of_beforeClosing? (found : beforeClosing? text = some tag)
    : tag ++ [']'] <+: text := by
  induction text generalizing tag with
  | nil => cases found
  | cons c rest ih =>
      simp only [beforeClosing?] at found
      split at found
      · rename_i closes
        cases found
        exact ⟨rest, by rw [closes]; rfl⟩
      · split at found
        · cases found
        · obtain ⟨inner, below, rfl⟩ := Option.map_eq_some_iff.mp found
          exact List.cons_prefix_cons.mpr ⟨rfl, ih below⟩

/-- A tag is what a text starts with, up to a closing bracket. -/
theorem prefix_of_tag? (found : tag? text = some tag) : tag ++ [']'] <+: text := by
  cases text with
  | nil => cases found
  | cons c rest =>
      simp only [tag?] at found
      split at found
      · obtain ⟨inner, below, rfl⟩ := Option.map_eq_some_iff.mp found
        exact List.cons_prefix_cons.mpr ⟨rfl, prefix_of_beforeClosing? below⟩
      · cases found

/-- What has no closing bracket adds none to a text, by induction on the text before it. -/
theorem beforeClosing?_append (none : beforeClosing? rest = none)
    : beforeClosing? (text ++ rest) = beforeClosing? text := by
  induction text with
  | nil => exact none
  | cons c text ih => simp only [List.cons_append, beforeClosing?, ih]

/-- No tag reaches into what has no closing bracket. -/
theorem tag?_append (none : beforeClosing? rest = none) : tag? (text ++ rest) = tag? text := by
  cases text with
  | cons c text => simp only [List.cons_append, tag?, beforeClosing?_append none]
  | nil =>
      cases rest with
      | nil => rfl
      | cons c rest =>
          simp only [List.nil_append, tag?]
          split
          · rename_i starts
            have closes : c ≠ ']' := by rintro rfl; revert starts; decide
            have opens : c ≠ '[' := by rintro rfl; revert starts; decide
            rwa [beforeClosing?, if_neg closes, if_neg opens] at none
          · rfl

/-- An opening bracket comes before any closing one. -/
theorem beforeClosing?_opening (rest : List Char) : beforeClosing? ('[' :: rest) = none := by
  simp [beforeClosing?]

/-! ### Readings -/

/-- Pieces in front of pieces in front of a reading. -/
@[simp]
theorem Reading.behind_behind (reading : Reading) (pieces more : List Piece)
    : (reading.behind more).behind pieces = reading.behind (pieces ++ more) := by
  simp only [Reading.behind, List.append_assoc]

/-- What is read of a text does not depend on what follows, if no tag reaches into that, by induction
on the text.
-/
theorem read_append (none : beforeClosing? rest = none) (within : skipped ≤ text.length)
    : read held skipped (text ++ rest)
      = (read (read held skipped text).held 0 rest).behind (read held skipped text).pieces := by
  induction text generalizing held skipped with
  | nil =>
      obtain rfl : skipped = 0 := Nat.le_zero.mp within
      rfl
  | cons c text ih =>
      cases skipped with
      | succ skipped => exact ih (Nat.le_of_succ_le_succ within)
      | zero =>
          simp only [List.cons_append, read, tag?_append none]
          split
          · exact ih (Nat.zero_le _)
          · split
            · cases found : tag? text with
              | none => simp only [ih (Nat.zero_le _), Reading.behind_behind]; rfl
              | some tag =>
                  have fits : tag.length + 1 ≤ text.length := by
                    simpa using (prefix_of_tag? found).length_le
                  dsimp only
                  split
                  · rw [ih fits, Reading.behind_behind]
                    rfl
                  · rw [ih (Nat.zero_le _), Reading.behind_behind]
                    rfl
            · rw [ih (Nat.zero_le _), Reading.behind_behind]
              rfl

/-- What reading one more character comes to: a backslash is held back, a bracket opens a tag or is
shown, and any other character is shown. The backslashes before it are shown with it, but for those
that it takes.
-/
inductive Step (held : Nat) (c : Char) (rest : List Char) : Reading → Prop
  | slash (slash : c = '\\') : Step held c rest (read (held + 1) 0 rest)
  | tag {tag : List Char} (opens : c = '[') (found : tag? rest = some tag) (even : held % 2 = 0)
    : Step held c rest ((read 0 (tag.length + 1) rest).behind (slashes (held / 2) ++ [.tag tag]))
  | escaped (opens : c = '[') (found : (tag? rest).isSome) (odd : held % 2 = 1)
    : Step held c rest ((read 0 0 rest).behind (slashes (held / 2) ++ [.shown c]))
  | bracket (opens : c = '[') (untagged : tag? rest = none)
    : Step held c rest ((read 0 0 rest).behind (slashes (held - 1) ++ [.shown c]))
  | other (slash : c ≠ '\\') (opens : c ≠ '[')
    : Step held c rest ((read 0 0 rest).behind (slashes held ++ [.shown c]))

/-- One more character is read by such a step. -/
theorem read_step (held : Nat) (c : Char) (rest : List Char)
    : Step held c rest (read held 0 (c :: rest)) := by
  simp only [read]
  split
  · exact .slash ‹_›
  · rename_i slash
    split
    · rename_i opens
      cases found : tag? rest with
      | none => exact opens ▸ .bracket opens found
      | some tag =>
          dsimp only
          split
          · exact .tag opens found ‹_›
          · exact opens ▸ .escaped opens (found ▸ rfl) (Nat.mod_two_ne_zero.mp ‹_›)
    · exact .other slash ‹_›

/-- Characters that belong to a tag are passed over, by induction on them. -/
theorem read_skipped (held : Nat) (text rest : List Char)
    : read held text.length (text ++ rest) = read held 0 rest := by
  induction text with
  | nil => rfl
  | cons c text ih => exact ih

/-- A tag behind backslashes of which none is left over is a piece of its own. -/
theorem read_tag (found : tag? (tag ++ ']' :: rest) = some tag) (even : held % 2 = 0)
    : read held 0 ('[' :: (tag ++ ']' :: rest))
      = (read 0 0 rest).behind (slashes (held / 2) ++ [.tag tag]) := by
  have behind : read 0 (tag.length + 1) (tag ++ ']' :: rest) = read 0 0 rest := by
    have skipped := read_skipped 0 (tag ++ [']']) rest
    rwa [List.length_append, List.append_assoc] at skipped
  simp only [read, found, even, behind]
  rfl

/-- A tag behind a backslash that is left over is read as a text. -/
theorem read_escaped (found : (tag? rest).isSome) (odd : held % 2 = 1)
    : read held 0 ('[' :: rest) = (read 0 0 rest).behind (slashes (held / 2) ++ [.shown '[']) := by
  obtain ⟨tag, found⟩ := Option.isSome_iff_exists.mp found
  simp only [read, found, odd]
  rfl

/-! ### Rendering -/

/-- Text in front of what is shown. -/
def Shown.behind (text : List Char) (shown : Shown) : Shown :=
  { shown with text := text ++ shown.text }

/-- Pieces are shown one behind the other, below the tags that those before leave open. -/
theorem render_append (pieces more : List Piece)
    : render openTags (pieces ++ more)
      = (render openTags pieces).bind fun shown =>
          (render shown.openTags more).map (·.behind shown.text) := by
  induction pieces generalizing openTags with
  | nil => simp [render, Shown.behind]
  | cons piece pieces ih =>
      cases piece with
      | shown c =>
          simp only [List.cons_append, render, ih, Option.map_bind, Option.bind_map,
            Function.comp_def, Option.map_map]
          rfl
      | tag text =>
          simp only [List.cons_append, render, ih, Option.bind_eq_bind, Option.bind_assoc]

/-- Characters that are all shown are shown. -/
theorem render_allShown (text : List Char) (more : List Piece)
    : render openTags (allShown text ++ more) = (render openTags more).map (·.behind text) := by
  induction text with
  | nil => simp [allShown, Shown.behind]
  | cons c text ih =>
      simp only [allShown, List.map_cons, List.cons_append, render] at ih ⊢
      simp only [ih, Option.map_map]
      rfl

/-- Characters that are all shown are all that is shown of them. -/
theorem render_shownOnly (text : List Char)
    : render openTags (allShown text) = some ⟨text, openTags⟩ := by
  have all : render openTags (allShown text ++ []) = some ⟨text ++ [], openTags⟩ :=
    render_allShown text []
  rwa [List.append_nil, List.append_nil] at all

/-- Whether a text has no tag, and no backslash in front of an opening bracket or at its end. The
flag says whether a backslash comes before the text.
-/
def isPlain (slashed : Bool) : List Char → Bool
  | [] => !slashed
  | c :: rest =>
    if c = '[' then !slashed && (tag? rest).isNone && isPlain false rest
    else isPlain (c == '\\') rest

/-- Whether a text has neither opening brackets nor backslashes. -/
def Bare (text : List Char) : Prop := '[' ∉ text ∧ '\\' ∉ text

instance (text : List Char) : Decidable (Bare text) :=
  inferInstanceAs (Decidable ('[' ∉ text ∧ '\\' ∉ text))

/-- A bare text behind a bare text. -/
theorem Bare.append (bare : Bare text) (later : Bare rest) : Bare (text ++ rest) :=
  ⟨by simp [bare.1, later.1], by simp [bare.2, later.2]⟩

/-- A bare text is shown as it is, whatever follows, by induction on it. -/
theorem pieces_bare (bare : Bare text) : pieces (text ++ rest) = allShown text ++ pieces rest := by
  have whole : read 0 0 (text ++ rest) = (read 0 0 rest).behind (allShown text) := by
    induction text with
    | nil => rfl
    | cons c text ih =>
        obtain ⟨bracket, slash⟩ := bare
        rw [List.mem_cons, not_or] at bracket slash
        have step := read_step 0 c (text ++ rest)
        rw [List.cons_append]
        generalize read 0 0 (c :: (text ++ rest)) = reading at step
        cases step with
        | slash same => exact absurd same.symm slash.1
        | tag same found even => exact absurd same.symm bracket.1
        | escaped same found odd => cases odd
        | bracket same untagged => exact absurd same.symm bracket.1
        | other slash' opens =>
            rw [ih ⟨bracket.2, slash.2⟩]
            rfl
  rw [pieces, whole]
  simp [pieces, Reading.behind]

/-- A bare text by itself. -/
theorem pieces_bareOnly (bare : Bare text) : pieces text = allShown text := by
  have whole : pieces (text ++ []) = allShown text ++ [] := pieces_bare bare
  rwa [List.append_nil, List.append_nil] at whole

/-- A tag is a piece of its own. -/
theorem pieces_tag (found : tag? (tag ++ ']' :: rest) = some tag)
    : pieces ('[' :: (tag ++ ']' :: rest)) = .tag tag :: pieces rest := by
  rw [pieces, read_tag found rfl]
  rfl

/-- A tag without a slash opens. -/
theorem passTag?_opening (noSlash : '/' ∉ tag)
    : passTag? openTags tag = some (styleName tag :: openTags) := by
  unfold passTag?
  split
  · exact absurd List.mem_cons_self noSlash
  · rfl

/-- A text without slashes opens tags and closes none, by induction on the text. -/
theorem render_opening (noSlash : '/' ∉ text)
    : ∃ shown more,
        render openTags (read held skipped text).pieces = some ⟨shown, more ++ openTags⟩ := by
  induction text generalizing held skipped openTags with
  | nil => exact ⟨[], [], rfl⟩
  | cons c rest ih =>
      have later : '/' ∉ rest := fun member => noSlash (List.mem_cons_of_mem c member)
      cases skipped with
      | succ skipped => exact ih later
      | zero =>
          have step := read_step held c rest
          have shows (count : Nat) : ∃ shown more,
              render openTags ((read 0 0 rest).behind (slashes count ++ [.shown c])).pieces
                = some ⟨shown, more ++ openTags⟩ := by
            have all
                : slashes count ++ [.shown c] = allShown (List.replicate count '\\' ++ [c]) := by
              simp [slashes, allShown]
            obtain ⟨shown, more, rendered⟩ : ∃ shown more,
                render openTags (read 0 0 rest).pieces = some ⟨shown, more ++ openTags⟩ := ih later
            rw [Reading.behind, all, render_allShown, rendered]
            exact ⟨_, more, rfl⟩
          generalize read held 0 (c :: rest) = reading at step
          cases step with
          | slash slash => exact ih later
          -- what is skipped behind the bracket is the tag, which has no slash either and so opens
          | @tag tag opens found even =>
              have inside : '/' ∉ tag := fun member =>
                later ((prefix_of_tag? found).subset (List.mem_append_left _ member))
              obtain ⟨shown, more, rendered⟩ : ∃ shown more,
                  render (styleName tag :: openTags) (read 0 (tag.length + 1) rest).pieces
                    = some ⟨shown, more ++ styleName tag :: openTags⟩ := ih later
              rw [Reading.behind, List.append_assoc, slashes, render_allShown,
                List.singleton_append, render, passTag?_opening inside]
              simp only [Option.bind_eq_bind, Option.bind_some, rendered]
              refine ⟨List.replicate (held / 2) '\\' ++ shown, more ++ [styleName tag], ?_⟩
              simp [Shown.behind]
          | escaped opens found odd => exact shows _
          | bracket opens untagged => exact shows _
          | other slash opens => exact shows _

end FoldTree.Console.Markup
