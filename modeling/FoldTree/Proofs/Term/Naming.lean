import FoldTree.Proofs.Term.Pieces
import Mathlib.Data.List.Chain

/-! Names that are made of words. A word may be written small, with a capital first or in capitals,
and what is no letter may stand between words. Where the writing shows each word's first letter, the
terms of the name are its words again.
-/

namespace FoldTree.Term

/-- How a word of small letters is written in a name. -/
inductive Style where
  | small
  | capitalised
  | capitals
deriving DecidableEq

/-- A word in a style. -/
def Style.write : Style → List Char → List Char
  | .small, word => word
  | .capitalised, word => word.modifyHead Char.toUpper
  | .capitals, word => word.map Char.toUpper

/-- A word of a name with its style, and what separates it from the word before. -/
structure Part where
  gap : List Char
  word : List Char
  style : Style

/-- The name of some words, with what stands behind the last of them. -/
def render : List Part → List Char → List Char
  | [], ending => ending
  | part :: rest, ending => part.gap ++ (part.style.write part.word ++ render rest ending)

/-- Whether a word shows where it starts behind the one before: a small word needs a gap, and so do
capitals behind capitals.
-/
def Part.Shows (before part : Part) : Prop :=
  match part.style with
  | .small => part.gap ≠ []
  | .capitalised => True
  | .capitals => part.gap ≠ [] ∨ before.style ≠ .capitals

instance (before part : Part) : Decidable (before.Shows part) := by
  unfold Part.Shows
  cases part.style <;> infer_instance

/-- A name whose words can be told: each is of two small letters or more, what separates them is of
no letters, such as underscores and digits, and every word but the first shows where it starts.
-/
structure Legible (parts : List Part) (ending : List Char) : Prop where
  words : ∀ part ∈ parts, 2 ≤ part.word.length ∧ ∀ c ∈ part.word, isSmall c
  gaps : ∀ part ∈ parts, ∀ c ∈ part.gap, ¬IsLetter c
  ending : ∀ c ∈ ending, ¬IsLetter c
  shown : parts.IsChain Part.Shows

variable {place : Nat} {text ending : List Char} {pieces : List Piece} {part : Part}
variable {parts : List Part} {c : Char}

/-! ### Words in a style -/

/-- The capital of a small letter is a capital, and its lower case is the letter again. -/
theorem toUpper_of_isSmall (small : isSmall c)
    : isCapital c.toUpper ∧ Text.asciiLower c.toUpper = c := by
  have codes : ∀ code < 123, 97 ≤ code →
      isCapital (Char.ofNat code).toUpper
      ∧ Text.asciiLower (Char.ofNat code).toUpper = Char.ofNat code := by
    decide
  simp only [isSmall, Bool.and_eq_true, decide_eq_true_eq] at small
  have low : 97 ≤ c.toNat := UInt32.le_iff_toNat_le.mp small.1
  have high : c.toNat ≤ 122 := UInt32.le_iff_toNat_le.mp small.2
  simpa using codes c.toNat (by omega) low

/-- In lower case a written word is the word again. -/
theorem map_asciiLower_write (style : Style) {word : List Char} (letters : ∀ c ∈ word, isSmall c)
    : (style.write word).map Text.asciiLower = word := by
  have lower := map_asciiLower_of_isSmall letters
  cases style with
  | small => exact lower
  | capitalised =>
      cases word with
      | nil => rfl
      | cons first rest =>
          have back := (toUpper_of_isSmall (letters first List.mem_cons_self)).2
          simpa [Style.write, back] using (List.cons.inj lower).2
  | capitals =>
      rw [Style.write, List.map_map]
      refine (List.map_congr_left ?_).trans (List.map_id word)
      intro c member
      exact (toUpper_of_isSmall (letters c member)).2

/-- A written word has the letters of the word. -/
theorem length_write (style : Style) (word : List Char)
    : (style.write word).length = word.length := by
  cases style with
  | small => rfl
  | capitalised => exact List.length_modifyHead
  | capitals => exact List.length_map _

/-! ### What stands behind a word -/

/-- Behind a word there is no small letter, and behind capitals there is no other capital but one
that a small letter follows.
-/
structure Ends (style : Style) (rest : List Char) : Prop where
  stop : ¬Begins isSmall rest
  longest : style = .capitals → ∀ c after, rest = c :: after → isCapital c → Begins isSmall after

/-- Characters that are no letters end every word. -/
theorem Ends.of_gap (style : Style) {gap : List Char} (rest : List Char)
    (other : ∀ c ∈ gap, ¬IsLetter c) (filled : gap ≠ [] ∨ rest = [])
    : Ends style (gap ++ rest) := by
  have apart : ∀ c after, gap ++ rest = c :: after → ¬IsLetter c := by
    intro c after whole
    cases gap with
    | nil =>
        rcases filled with filled | rfl
        · exact absurd rfl filled
        · cases whole
    | cons d gap =>
        cases whole
        exact other c List.mem_cons_self
  constructor
  · rintro ⟨c, after, whole, small⟩
    exact apart c after whole (.inl small)
  · intro _ c after whole capital
    exact absurd (.inr capital) (apart c after whole)

/-- A written word behind another one ends that where it shows its start. -/
theorem Ends.of_shows {before : Part} (shows : before.Shows part)
    (word : 2 ≤ part.word.length ∧ ∀ c ∈ part.word, isSmall c)
    (gap : ∀ c ∈ part.gap, ¬IsLetter c) (rest : List Char)
    : Ends before.style (part.gap ++ (part.style.write part.word ++ rest)) := by
  by_cases filled : part.gap = []
  · obtain ⟨long, letters⟩ := word
    rcases whole : part.word with _ | ⟨first, _ | ⟨second, others⟩⟩
    · simp [whole] at long
    · simp [whole] at long
    · rw [whole] at letters
      have capital := (toUpper_of_isSmall (letters first (by simp))).1
      have upper := isSmall_of_isCapital capital
      cases style : part.style with
      | small => simp [Part.Shows, style, filled] at shows
      | capitalised =>
          -- the capital is followed by the second letter, which is a small one
          have follows : isSmall second := letters second (by simp)
          constructor
          · simp [filled, Style.write, begins_cons, upper]
          · intro _ c after same _
            simp only [filled, Style.write, List.modifyHead_cons, List.nil_append,
              List.cons_append] at same
            obtain ⟨-, rfl⟩ := List.cons.inj same
            exact begins_cons.mpr follows
      | capitals =>
          have apart : before.style ≠ .capitals := by
            simpa [Part.Shows, style, filled] using shows
          constructor
          · simp [filled, Style.write, begins_cons, upper]
          · exact fun capitals => absurd capitals apart
  · exact Ends.of_gap _ _ gap (.inl filled)

/-- What is behind the first word of a legible name ends it. -/
theorem Legible.ends (legible : Legible (part :: parts) ending)
    : Ends part.style (render parts ending) := by
  cases parts with
  | nil => simpa [render] using Ends.of_gap part.style [] legible.ending (.inr rfl)
  | cons next rest =>
      have member : next ∈ part :: next :: rest := by simp
      have shows := (List.isChain_cons_cons.mp legible.shown).1
      exact Ends.of_shows shows (legible.words next member) (legible.gaps next member) _

/-- A legible name is legible without its first word. -/
theorem Legible.tail (legible : Legible (part :: parts) ending) : Legible parts ending where
  words := fun other member => legible.words other (List.mem_cons_of_mem _ member)
  gaps := fun other member => legible.gaps other (List.mem_cons_of_mem _ member)
  ending := legible.ending
  shown := legible.shown.tail

/-! ### The pieces of a name -/

/-- Characters that are no letters are in no piece, by induction on them. -/
theorem Cut.gap {gap : List Char} (other : ∀ c ∈ gap, ¬IsLetter c)
    (cut : Cut (place + gap.length) text pieces)
    : Cut place (gap ++ text) pieces := by
  induction gap generalizing place with
  | nil => exact cut
  | cons c gap ih =>
      obtain ⟨apart, later⟩ := List.forall_mem_cons.mp other
      refine .separator apart (ih later ?_)
      rwa [List.length_cons, Nat.add_comm gap.length, ← Nat.add_assoc] at cut

/-- A written word is the first of a text where its end is. -/
theorem firstWord_write {style : Style} {word rest : List Char}
    (fits : 2 ≤ word.length ∧ ∀ c ∈ word, isSmall c) (ends : Ends style rest)
    : FirstWord (style.write word) rest := by
  obtain ⟨long, letters⟩ := fits
  rcases word with _ | ⟨first, _ | ⟨second, others⟩⟩
  · simp at long
  · simp at long
  · have capital := (toUpper_of_isSmall (letters first (by simp))).1
    cases style with
    | small =>
        exact .small [] _ (by simp) (by simp) (List.cons_ne_nil _ _) letters ends.stop
    | capitalised =>
        refine .small [first.toUpper] (second :: others) (by simp) (by simpa using capital)
          (List.cons_ne_nil second others) ?_ ends.stop
        exact (List.forall_mem_cons.mp letters).2
    | capitals =>
        refine .capitals (by simp [Style.write]) ?_ ends.stop (ends.longest rfl)
        intro c member
        obtain ⟨d, inside, rfl⟩ := List.mem_map.mp member
        exact (toUpper_of_isSmall (letters d inside)).1

/-- The pieces of a legible name are its written words, by induction on the words. -/
theorem Legible.exists_cut (legible : Legible parts ending) (place : Nat)
    : ∃ pieces,
        Cut place (render parts ending) pieces
        ∧ pieces.map Piece.letters = parts.map fun part => part.style.write part.word := by
  induction parts generalizing place with
  | nil =>
      refine ⟨[], ?_, rfl⟩
      simpa [render] using Cut.gap legible.ending (.done (place + ending.length))
  | cons part parts ih =>
      have first := firstWord_write (legible.words part List.mem_cons_self) legible.ends
      obtain ⟨pieces, cut, same⟩ := ih legible.tail
        (place + part.gap.length + (part.style.write part.word).length)
      refine ⟨_, Cut.gap (legible.gaps part List.mem_cons_self) (.word first cut), ?_⟩
      rw [List.map_cons, List.map_cons, same]

/-- The terms of a legible name are its words. -/
theorem Legible.splitName_render (legible : Legible parts ending)
    : splitName (render parts ending) = parts.map fun part => String.ofList part.word := by
  obtain ⟨pieces, cut, same⟩ := legible.exists_cut 0
  have long : ∀ piece ∈ pieces, piece.isLong := by
    intro piece member
    have written : piece.letters ∈ parts.map fun part => part.style.write part.word :=
      same ▸ List.mem_map_of_mem member
    obtain ⟨part, inside, eq⟩ := List.mem_map.mp written
    have words := (legible.words part inside).1
    simpa [Piece.isLong, ← eq, length_write] using words
  calc splitName (render parts ending)
      = pieces.map Piece.term := by rw [cut.splitName_eq, List.filter_eq_self.mpr long]
    _ = (pieces.map Piece.letters).map fun letters =>
          String.ofList (letters.map Text.asciiLower) := by rw [List.map_map]; rfl
    _ = parts.map fun part => String.ofList part.word := by
          rw [same, List.map_map]
          refine List.map_congr_left fun part inside => ?_
          exact congrArg String.ofList
            (map_asciiLower_write part.style (legible.words part inside).2)

/-! ### Letters without a term -/

/-- A piece of a text stands there where it starts. -/
theorem Cut.take_eq (cut : Cut 0 text pieces) {piece : Piece} (member : piece ∈ pieces)
    : (text.drop piece.start).take piece.letters.length = piece.letters := by
  obtain ⟨before, after, whole, start, -⟩ := cut.stands member
  rw [Nat.zero_add] at start
  simp [whole, start]

/-- A letter is in no long piece just where it is a piece of its own. Witness: it is in one piece,
and there is no second one for it.
-/
theorem Cut.missing_iff (cut : Cut 0 text pieces) (found : text[place]? = some c)
    (letter : IsLetter c)
    : (∀ piece ∈ pieces.filter Piece.isLong, ¬piece.covers place)
      ↔ ∃ piece ∈ pieces, piece.letters.length = 1 ∧ piece.covers place := by
  have count := cut.countP_covers found
  rw [Nat.zero_add, if_pos letter, List.countP_eq_length_filter] at count
  obtain ⟨only, one⟩ := List.length_eq_one_iff.mp count
  have same (piece : Piece) : piece ∈ pieces ∧ piece.covers place ↔ piece = only := by
    rw [← List.mem_filter, one, List.mem_singleton]
  obtain ⟨inside, covers⟩ := (same only).mpr rfl
  constructor
  · intro missing
    refine ⟨only, inside, ?_, covers⟩
    have short : only.isLong = false := by
      rw [Bool.eq_false_iff]
      exact fun long => missing only (List.mem_filter.mpr ⟨inside, long⟩) covers
    simp only [Piece.isLong, decide_eq_false_iff_not, Piece.covers, Bool.and_eq_true,
      decide_eq_true_eq] at short covers
    omega
  · rintro ⟨piece, member, single, covers⟩ other longer covers'
    obtain ⟨member', long⟩ := List.mem_filter.mp longer
    -- both cover the place, so that they are the one piece that does
    have equal := ((same other).mp ⟨member', covers'⟩).trans ((same piece).mp ⟨member, covers⟩).symm
    simp [equal, Piece.isLong, single] at long

/-- A name that is made of words is split into these words again, in whatever styles they are
written and whatever separates them, where each word shows its start. Every text falls into pieces
in just one way, and the pieces are the words that are found in it; each letter is in just one of
them, and nothing else is in any. The terms are the pieces of two letters or more, in order, and so
the letters that come up in no term are those of the pieces of one letter.
-/
theorem splitName_pieces
    : (∀ parts ending, Legible parts ending →
        splitName (render parts ending) = parts.map fun part => String.ofList part.word)
      ∧ ∀ text, ∃ pieces,
          Cut 0 text pieces
          ∧ (∀ other, Cut 0 text other → other = pieces)
          ∧ pieces.map Piece.letters = (words text).filter (fun word => !word.isEmpty)
          ∧ splitName text = (pieces.filter Piece.isLong).map Piece.term
          ∧ (∀ piece ∈ pieces, (text.drop piece.start).take piece.letters.length = piece.letters)
          ∧ ∀ place c,
              text[place]? = some c
              → pieces.countP (Piece.covers place) = (if IsLetter c then 1 else 0)
                ∧ (IsLetter c
                  → ((∀ piece ∈ pieces.filter Piece.isLong, ¬piece.covers place)
                    ↔ ∃ piece ∈ pieces, piece.letters.length = 1 ∧ piece.covers place)) := by
  refine ⟨fun parts ending legible => legible.splitName_render, fun text => ?_⟩
  obtain ⟨pieces, cut, same⟩ := exists_cut text
  refine ⟨pieces, cut, fun other cut' => cut'.unique cut, same, cut.splitName_eq,
    fun piece => cut.take_eq, ?_⟩
  intro place c found
  exact ⟨by simpa using cut.countP_covers found, cut.missing_iff found⟩

/-- A name of four words in all styles, with a gap and an ending. -/
def mixedParts : List Part := [
  ⟨"_".toList, "parse".toList, .small⟩, ⟨[], "http".toList, .capitals⟩,
  ⟨[], "response".toList, .capitalised⟩, ⟨"_2".toList, "codec".toList, .small⟩]

/-- The name is legible: a gap stands in front of both small words. -/
theorem mixedParts_legible : Legible mixedParts "__".toList where
  words := by
    have checked : mixedParts.all fun part =>
        2 ≤ part.word.length && part.word.all isSmall := by decide
    simpa using checked
  gaps := by
    have checked : mixedParts.all fun part =>
        part.gap.all fun c => !isSmall c && !isCapital c := by decide
    simpa [IsLetter] using checked
  ending := by simp [IsLetter, isSmall, isCapital]
  shown := by decide

/-- The four words come back from their name, and of a shorter one the first letter is missing in
the terms, as it is a piece of its own.
-/
theorem mixedParts_splitName
    : Legible mixedParts "__".toList
      ∧ render mixedParts "__".toList = "_parseHTTPResponse_2codec__".toList
      ∧ splitName (render mixedParts "__".toList) = ["parse", "http", "response", "codec"]
      ∧ ∃ pieces,
          Cut 0 "aBody".toList pieces
          ∧ pieces.countP (Piece.covers 0) = 1
          ∧ ∃ piece ∈ pieces, piece.letters.length = 1 ∧ piece.covers 0 := by
  have legible := mixedParts_legible
  obtain ⟨rendered, cuts⟩ := splitName_pieces
  obtain ⟨pieces, cut, unique, -, -, -, letters⟩ := cuts "aBody".toList
  obtain ⟨count, missing⟩ := letters 0 'a' rfl
  refine ⟨legible, by decide, rendered _ _ legible, pieces, cut, count, ?_⟩
  have body : FirstWord "Body".toList [] :=
    .small ['B'] "ody".toList (by decide) (List.all_eq_true.mp (by decide)) (by decide)
      (List.all_eq_true.mp (by decide)) (not_begins_nil _)
  have alone : FirstWord ['a'] "Body".toList :=
    .small [] ['a'] (by decide) (by simp) (by decide) (List.all_eq_true.mp (by decide))
      (fun begins => absurd (begins_cons.mp begins) (by decide))
  have parts := unique _ (.word alone (.word body (.done _)))
  subst parts
  exact (missing (by decide)).mp (by decide)

end FoldTree.Term
