import FoldTree.Proofs.Term.Words

/-! The pieces of a text: the stretches of letters that it falls into, with the places where they
start. A relation says by the rules for single words how a text is cut; it leaves no choice, and the
terms of a text are its pieces of two letters or more.
-/

namespace FoldTree.Term

/-- Whether a text begins with a character of some kind. -/
def Begins (kind : Char → Bool) (text : List Char) : Prop :=
  ∃ c rest, text = c :: rest ∧ kind c

/-- A word stands at the front of a text, and the rest does not go on with it. A word of capitals is
as long as it can be with no small letter behind it; so its run of capitals ends there, or goes on
with one capital that a small letter follows. Other words are small letters, as many as there are,
behind one capital or none.
-/
inductive FirstWord : List Char → List Char → Prop
  | capitals {word rest : List Char} (some : word ≠ []) (all : ∀ c ∈ word, isCapital c)
    (stop : ¬Begins isSmall rest)
    (longest : ∀ c after, rest = c :: after → isCapital c → Begins isSmall after)
    : FirstWord word rest
  | small (lead smalls : List Char) {rest : List Char} (one : lead.length ≤ 1)
    (first : ∀ c ∈ lead, isCapital c) (some : smalls ≠ []) (all : ∀ c ∈ smalls, isSmall c)
    (stop : ¬Begins isSmall rest)
    : FirstWord (lead ++ smalls) rest

/-- A piece of a text: the place of its first letter, and its letters. -/
structure Piece where
  start : Nat
  letters : List Char

namespace Piece

/-- Whether a place lies in a piece. -/
def covers (place : Nat) (piece : Piece) : Bool :=
  piece.start ≤ place && place < piece.start + piece.letters.length

/-- The letters of a piece in lower case. -/
def term (piece : Piece) : String :=
  String.ofList (piece.letters.map Text.asciiLower)

/-- Whether a piece is long enough to make a term. -/
def isLong (piece : Piece) : Bool :=
  2 ≤ piece.letters.length

end Piece

/-- How a text that starts at some place is cut: at the front there is a word, which is a piece, or
else a character that is in none.
-/
inductive Cut : Nat → List Char → List Piece → Prop
  | done (place : Nat) : Cut place [] []
  | separator {place : Nat} {c : Char} {rest : List Char} {pieces : List Piece}
    (other : ¬IsLetter c) (cut : Cut (place + 1) rest pieces)
    : Cut place (c :: rest) pieces
  | word {place : Nat} {word rest : List Char} {pieces : List Piece} (first : FirstWord word rest)
    (cut : Cut (place + word.length) rest pieces)
    : Cut place (word ++ rest) (⟨place, word⟩ :: pieces)

variable {place : Nat} {word word' rest rest' text : List Char} {pieces other : List Piece}

/-! ### A text is cut in one way -/

/-- Nothing begins an empty text. -/
theorem not_begins_nil (kind : Char → Bool) : ¬Begins kind [] := by
  rintro ⟨c, rest, same, -⟩
  cases same

/-- The first character is what a text begins with. -/
theorem begins_cons {kind : Char → Bool} {c : Char} : Begins kind (c :: rest) ↔ kind c := by
  constructor
  · rintro ⟨first, after, same, fits⟩
    cases same
    exact fits
  · intro fits
    exact ⟨c, rest, rfl, fits⟩

/-- A word is not empty. -/
theorem FirstWord.ne_nil (first : FirstWord word rest) : word ≠ [] := by
  cases first with
  | capitals some _ _ _ => exact some
  | small _ _ _ _ some _ _ => exact fun empty => some (List.append_eq_nil_iff.mp empty).2

/-- A word is of letters. -/
theorem FirstWord.letters (first : FirstWord word rest) : ∀ c ∈ word, IsLetter c := by
  intro c member
  cases first with
  | capitals _ all _ _ => exact .inr (all c member)
  | small _ _ _ lead _ all _ =>
      rcases List.mem_append.mp member with capital | small
      · exact .inr (lead c capital)
      · exact .inl (all c small)

/-- A text that starts with a word starts with a letter. -/
theorem FirstWord.isLetter {c : Char} (first : FirstWord word rest)
    (whole : word ++ rest = c :: text)
    : IsLetter c := by
  cases word with
  | nil => exact absurd rfl first.ne_nil
  | cons d word =>
      cases whole
      exact first.letters c List.mem_cons_self

/-- What is behind a word does not begin with a small letter. -/
theorem FirstWord.stops (first : FirstWord word rest) : ¬Begins isSmall rest := by
  cases first <;> assumption

/-- No word goes on where another one ends. Witness: cases on the kinds of the two words. The next
letter would be a small one, which no word stops before, or a capital that a word of capitals would
have to take or to leave in the same way.
-/
theorem FirstWord.not_longer {c : Char} {more : List Char}
    (first : FirstWord word (c :: more ++ rest)) (longer : FirstWord (word ++ c :: more) rest)
    : False := by
  have large : isSmall c = false := by
    rw [Bool.eq_false_iff]
    exact fun small => first.stops (begins_cons.mpr small)
  generalize whole : word ++ c :: more = both at longer
  cases longer with
  | capitals _ all stop _ =>
      subst whole
      have capital : isCapital c := all c (by simp)
      cases first with
      | capitals _ _ _ longest =>
          -- the shorter word left its next capital to a small letter, which is none of the longer
          have small := longest c (more ++ rest) rfl capital
          rcases more with _ | ⟨d, more⟩
          · exact stop small
          · have lower := begins_cons.mp small
            simp [isSmall_of_isCapital (all d (by simp))] at lower
      | small _ smalls _ _ some lower _ =>
          obtain ⟨d, inside⟩ := List.exists_mem_of_ne_nil smalls some
          have upper := isSmall_of_isCapital (all d (by simp [inside]))
          simp [lower d inside] at upper
  | small lead smalls one capitals _ all stop =>
      -- the first letter of the longer word is in the shorter one, so c is one of the small ones
      rcases word with _ | ⟨d, before⟩
      · exact first.ne_nil rfl
      · have behind : c ∈ smalls := by
          rcases lead with _ | ⟨e, _ | ⟨f, lead⟩⟩
          · have same : d :: before ++ c :: more = smalls := whole
            exact same ▸ by simp
          · have same : before ++ c :: more = smalls := (List.cons.inj whole).2
            exact same ▸ by simp
          · simp at one
        simp [all c behind] at large

/-- The word at the front of a text is determined by the text. -/
theorem FirstWord.unique (first : FirstWord word rest) (first' : FirstWord word' rest')
    (same : word ++ rest = word' ++ rest')
    : word = word' ∧ rest = rest' := by
  rcases List.append_eq_append_iff.mp same with ⟨more, rfl, rfl⟩ | ⟨more, rfl, rfl⟩
  · cases more with
    | nil => simp
    | cons c more => exact (first.not_longer first').elim
  · cases more with
    | nil => simp
    | cons c more => exact (first'.not_longer first).elim

/-- A text is cut in one way only, by induction on the first cut. -/
theorem Cut.unique (cut : Cut place text pieces) (cut' : Cut place text other)
    : pieces = other := by
  induction cut generalizing other with
  | done place =>
      generalize empty : ([] : List Char) = text at cut'
      cases cut' with
      | done => rfl
      | separator => cases empty
      | word first _ => exact absurd (List.append_eq_nil_iff.mp empty.symm).1 first.ne_nil
  | @separator place c rest pieces apart cut ih =>
      generalize whole : c :: rest = text at cut'
      cases cut' with
      | done => cases whole
      | separator _ cut' =>
          cases whole
          exact ih cut'
      | word first _ => exact absurd (first.isLetter whole.symm) apart
  | @word place word rest pieces first cut ih =>
      generalize whole : word ++ rest = text at cut'
      cases cut' with
      | done => exact absurd (List.append_eq_nil_iff.mp whole).1 first.ne_nil
      | separator apart _ => exact absurd (first.isLetter whole) apart
      | word first' cut' =>
          obtain ⟨rfl, rfl⟩ := first.unique first' whole
          rw [ih cut']

/-! ### The pieces are the words of the text -/

/-- What the letters of an unfinished word may be, from its last to its first: capitals, or small
letters behind one capital or none.
-/
inductive Unfinished : List Char → Prop
  | capitals {word : List Char} (all : ∀ c ∈ word, isCapital c) : Unfinished word
  | small (lead smalls : List Char) (one : lead.length ≤ 1) (first : ∀ c ∈ lead, isCapital c)
    (some : smalls ≠ []) (all : ∀ c ∈ smalls, isSmall c)
    : Unfinished (smalls ++ lead)

/-- An unfinished word whose last letter is a capital is of capitals. -/
theorem Unfinished.capitals_of_last {c : Char} (unfinished : Unfinished (c :: word))
    (capital : isCapital c)
    : ∀ d ∈ c :: word, isCapital d := by
  generalize whole : c :: word = both at unfinished
  cases unfinished with
  | capitals all => exact all
  | small _ smalls _ _ some all =>
      cases smalls with
      | nil => exact absurd rfl some
      | cons d smalls =>
          cases whole
          have small := all c List.mem_cons_self
          simp [isSmall_of_isCapital capital] at small

/-- An unfinished word whose last letter is no capital goes on with small letters. -/
theorem Unfinished.cons_small {c : Char} (unfinished : Unfinished word) (small : isSmall c)
    (last : ∀ first second others, word = first :: second :: others → isCapital first = false)
    : Unfinished (c :: word) := by
  cases unfinished with
  | capitals all =>
      refine .small word [c] ?_ all (by simp) (by simpa using small)
      rcases word with _ | ⟨first, _ | ⟨second, others⟩⟩
      · simp
      · simp
      · simpa [all first List.mem_cons_self] using last first second others rfl
  | small lead smalls one first some all =>
      exact .small lead (c :: smalls) one first (by simp) (List.forall_mem_cons.mpr ⟨small, all⟩)

/-- An unfinished word is finished where no small letter comes, and for capitals no other capital
but one that a small letter follows.
-/
theorem Unfinished.firstWord (unfinished : Unfinished word) (filled : word ≠ [])
    (stop : ¬Begins isSmall rest)
    (longest : (∀ c ∈ word, isCapital c)
      → ∀ c after, rest = c :: after → isCapital c → Begins isSmall after)
    : FirstWord word.reverse rest := by
  cases unfinished with
  | capitals all => exact .capitals (by simpa using filled) (by simpa using all) stop (longest all)
  | small lead smalls one first held all =>
      have straight : lead.reverse = lead := by
        rcases lead with _ | ⟨d, _ | ⟨e, lead⟩⟩
        · rfl
        · rfl
        · simp at one
      rw [List.reverse_append, straight]
      exact .small lead smalls.reverse one first (by simpa using held) (by simpa using all) stop

/-- Some words without those of no letters, each from its first letter to its last. -/
def lettered (found : List (List Char)) : List (List Char) :=
  (found.map List.reverse).filter fun word => !word.isEmpty

/-- A finished word is a piece in front of those behind it, and one of no letters is none. -/
theorem exists_cut_behind (place : Nat) {found : List (List Char)}
    (finished : word ≠ [] → FirstWord word.reverse rest)
    (behind : ∀ place, ∃ pieces, Cut place rest pieces ∧ pieces.map Piece.letters = lettered found)
    : ∃ pieces,
        Cut place (word.reverse ++ rest) pieces
        ∧ pieces.map Piece.letters = lettered (word :: found) := by
  obtain ⟨pieces, cut, same⟩ := behind (place + word.reverse.length)
  by_cases empty : word = []
  · subst empty
    exact ⟨pieces, cut, by simpa [lettered] using same⟩
  · refine ⟨_, .word (finished empty) cut, ?_⟩
    simpa [lettered, empty] using same

/-- A text that starts inside a word is cut into the words that are found in it. Witness: the
recursion over the text, in which the unfinished word and the rest make up the same text, until a
word is finished.
-/
theorem exists_cut_wordsFrom (unfinished : Unfinished word) (place : Nat)
    : ∃ pieces,
        Cut place (word.reverse ++ text) pieces
        ∧ pieces.map Piece.letters = lettered (wordsFrom word text) := by
  have none : Unfinished [] := .capitals (by simp)
  fun_induction wordsFrom word text generalizing place with
  | case1 word =>
      refine exists_cut_behind place (fun filled => ?_) fun place => ⟨[], .done place, rfl⟩
      refine unfinished.firstWord filled (not_begins_nil _) fun _ c after whole => ?_
      cases whole
  | case2 c rest small first second others capital ih =>
      -- the last capital goes over to the small letter, and all before it are capitals too
      have all := unfinished.capitals_of_last capital
      have before : ∀ d ∈ second :: others, isCapital d := (List.forall_mem_cons.mp all).2
      have next : Unfinished [c, first] :=
        .small [first] [c] (by simp) (by simpa using capital) (by simp)
          (by simpa using small)
      have stop : ¬Begins isSmall (first :: c :: rest) := by
        simp [begins_cons, isSmall_of_isCapital capital]
      have finished := Unfinished.firstWord (.capitals before) (List.cons_ne_nil _ _) stop
        fun _ d after whole _ => by
          cases whole
          exact begins_cons.mpr small
      have cut := exists_cut_behind place (fun _ => finished) (ih next)
      simpa using cut
  | case3 c rest small first second others last ih =>
      have more : Unfinished (c :: first :: second :: others) := by
        refine unfinished.cons_small small fun d e tail whole => ?_
        cases whole
        exact Bool.eq_false_iff.mpr last
      simpa using ih more place
  | case4 word c rest small short ih =>
      have more : Unfinished (c :: word) :=
        unfinished.cons_small small fun d e tail whole => absurd whole (short d e tail)
      simpa using ih more place
  | case5 c rest small capital first others last ih =>
      have more : Unfinished (c :: first :: others) :=
        .capitals (List.forall_mem_cons.mpr ⟨capital, unfinished.capitals_of_last last⟩)
      simpa using ih more place
  | case6 c rest small capital first others last ih =>
      have stop : ¬Begins isSmall (c :: rest) := by simpa [begins_cons] using small
      refine exists_cut_behind place (fun filled => ?_) (ih (.capitals (by simpa using capital)))
      refine unfinished.firstWord filled stop fun all => ?_
      exact absurd (all first List.mem_cons_self) last
  | case7 c rest small capital ih => simpa using ih (.capitals (by simpa using capital)) place
  | case8 word c rest small capital ih =>
      have apart : ¬IsLetter c := not_or.mpr ⟨small, capital⟩
      refine exists_cut_behind place (fun filled => ?_) fun place => ?_
      · refine unfinished.firstWord filled (by simpa [begins_cons] using small) ?_
        rintro - d after whole large
        cases whole
        exact absurd large capital
      · obtain ⟨pieces, cut, same⟩ := ih none (place + 1)
        exact ⟨pieces, .separator apart cut, same⟩

/-- Every text can be cut, and its pieces are the words that are found in it. -/
theorem exists_cut (text : List Char)
    : ∃ pieces,
        Cut 0 text pieces
        ∧ pieces.map Piece.letters = (words text).filter fun word => !word.isEmpty := by
  have none : Unfinished [] := .capitals (by simp)
  have found : ∃ pieces,
      Cut 0 text pieces ∧ pieces.map Piece.letters = lettered (wordsFrom [] text) :=
    exists_cut_wordsFrom none 0
  exact found

/-- The pieces of every cut are the words that are found in the text. -/
theorem Cut.map_letters (cut : Cut 0 text pieces)
    : pieces.map Piece.letters = (words text).filter fun word => !word.isEmpty := by
  obtain ⟨found, cut', same⟩ := exists_cut text
  exact cut.unique cut' ▸ same

/-- The terms of a text are the long pieces of every cut. -/
theorem Cut.splitName_eq (cut : Cut 0 text pieces)
    : splitName text = (pieces.filter Piece.isLong).map Piece.term := by
  -- words of no letters are not long, so they may be dropped before
  have long : (words text).filter (fun word => 2 ≤ word.length)
      = (pieces.map Piece.letters).filter fun word => 2 ≤ word.length := by
    rw [cut.map_letters, List.filter_filter]
    refine List.filter_congr fun word _ => ?_
    cases word <;> simp
  rw [splitName, long, List.filter_map, List.map_map]
  rfl

/-! ### The places of the pieces -/

/-- No piece starts before its text, by induction on the cut. -/
theorem Cut.start_le (cut : Cut place text pieces) : ∀ piece ∈ pieces, place ≤ piece.start := by
  induction cut with
  | done => simp
  | separator _ _ ih => exact fun piece member => Nat.le_of_succ_le (ih piece member)
  | word _ _ ih =>
      intro piece member
      rcases List.mem_cons.mp member with rfl | behind
      · exact Nat.le_refl _
      · exact Nat.le_of_add_right_le (ih piece behind)

/-- The letters of a piece stand in the text where the piece starts, by induction on the cut. -/
theorem Cut.stands (cut : Cut place text pieces) {piece : Piece} (member : piece ∈ pieces)
    : ∃ before after,
        text = before ++ piece.letters ++ after
        ∧ piece.start = place + before.length
        ∧ ∀ c ∈ piece.letters, IsLetter c := by
  induction cut with
  | done => cases member
  | @separator place c rest pieces _ _ ih =>
      obtain ⟨before, after, whole, start, letters⟩ := ih member
      refine ⟨c :: before, after, by simp [whole], ?_, letters⟩
      rw [start, List.length_cons]
      omega
  | @word place word rest pieces first _ ih =>
      rcases List.mem_cons.mp member with rfl | behind
      · exact ⟨[], rest, rfl, rfl, first.letters⟩
      · obtain ⟨before, after, whole, start, letters⟩ := ih behind
        refine ⟨word ++ before, after, by simp [whole], ?_, letters⟩
        rw [start, List.length_append]
        omega

/-- A place before all of some pieces is in none of them. -/
theorem countP_covers_before {early : Nat} (later : ∀ piece ∈ pieces, place ≤ piece.start)
    (before : early < place)
    : pieces.countP (Piece.covers early) = 0 := by
  refine List.countP_eq_zero.mpr fun piece member covers => ?_
  have start := later piece member
  simp only [Piece.covers, Bool.and_eq_true, decide_eq_true_eq] at covers
  omega

/-- A letter is in one piece, and other characters are in none, by induction on the cut. -/
theorem Cut.countP_covers (cut : Cut place text pieces) {i : Nat} {c : Char}
    (found : text[i]? = some c)
    : pieces.countP (Piece.covers (place + i)) = if IsLetter c then 1 else 0 := by
  induction cut generalizing i with
  | done => simp at found
  | @separator place d rest pieces apart cut ih =>
      cases i with
      | zero =>
          cases found
          rw [if_neg apart]
          exact countP_covers_before cut.start_le (Nat.lt_succ_self place)
      | succ i =>
          have inside := ih (i := i) (by simpa using found)
          rwa [Nat.add_right_comm, Nat.add_assoc] at inside
  | @word place word rest pieces first cut ih =>
      rw [List.countP_cons]
      by_cases within : i < word.length
      · have here : c ∈ word := by
          rw [List.getElem?_append_left within] at found
          exact List.mem_of_getElem? found
        rw [if_pos (first.letters c here),
          countP_covers_before cut.start_le (Nat.add_lt_add_left within place)]
        simp [Piece.covers, within]
      · have behind := ih (i := i - word.length) (by
          rwa [List.getElem?_append_right (Nat.le_of_not_lt within)] at found)
        rw [Nat.add_assoc, Nat.add_sub_cancel' (Nat.le_of_not_lt within)] at behind
        simp [Piece.covers, behind, within]

end FoldTree.Term
