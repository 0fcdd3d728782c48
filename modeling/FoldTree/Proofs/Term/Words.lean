import FoldTree.Term.Split
import Mathlib.Data.List.Basic

/-! Words of names and of free text. A character that is no letter parts a name for good: the terms
on its two sides have nothing to do with each other. So free text has the same terms whether it is
taken for one name or for the names in it.
-/

namespace FoldTree.Term

variable {word text : List Char}

/-- Whether a character is an ASCII letter. -/
def IsLetter (c : Char) : Prop := isSmall c ∨ isCapital c

instance : DecidablePred IsLetter := fun c =>
  inferInstanceAs (Decidable (isSmall c ∨ isCapital c))

/-- Words are of letters. Witness: the recursion over the text, where the word that it starts inside
of is of letters already.
-/
theorem letters_of_wordsFrom (letters : ∀ c ∈ word, IsLetter c)
    : ∀ found ∈ wordsFrom word text, ∀ c ∈ found, IsLetter c := by
  have none : ∀ c ∈ ([] : List Char), IsLetter c := fun _ member => absurd member List.not_mem_nil
  fun_induction wordsFrom word text with
  | case1 word => simpa using letters
  | case2 c rest small first second others capital ih =>
      have inside := List.forall_mem_cons.mp letters
      have next := ih (by simpa using ⟨.inl small, inside.1⟩)
      exact List.forall_mem_cons.mpr ⟨inside.2, next⟩
  | case3 c rest small first second others other ih =>
      exact ih (List.forall_mem_cons.mpr ⟨.inl small, letters⟩)
  | case4 word c rest small short ih => exact ih (List.forall_mem_cons.mpr ⟨.inl small, letters⟩)
  | case5 c rest small capital first others run ih =>
      exact ih (List.forall_mem_cons.mpr ⟨.inr capital, letters⟩)
  | case6 c rest small capital first others run ih =>
      exact List.forall_mem_cons.mpr ⟨letters, ih (by simpa using .inr capital)⟩
  | case7 c rest small capital ih => exact ih (by simpa using .inr capital)
  | case8 word c rest small capital ih =>
      exact List.forall_mem_cons.mpr ⟨letters, ih none⟩

/-- A letter in lower case is a small one. -/
theorem isSmall_asciiLower {c : Char} (letter : IsLetter c) : isSmall (Text.asciiLower c) := by
  have codes : ∀ code < 91, 65 ≤ code → isSmall (Char.ofNat (code + 32)) := by decide
  unfold Text.asciiLower
  split
  · rename_i capital
    have low : 65 ≤ c.toNat := UInt32.le_iff_toNat_le.mp capital.1
    have high : c.toNat ≤ 90 := UInt32.le_iff_toNat_le.mp capital.2
    exact codes c.toNat (by omega) low
  · rename_i other
    exact letter.resolve_right fun capital => other (by simpa [isCapital] using capital)

/-- The terms of a name are of small letters. -/
theorem small_of_splitName {name : List Char} {term : String} (member : term ∈ splitName name)
    : ∀ c ∈ term.toList, isSmall c := by
  obtain ⟨word, found, rfl⟩ := List.mem_map.mp member
  obtain ⟨reversed, inside, rfl⟩ := List.mem_map.mp (List.mem_of_mem_filter found)
  have letters := letters_of_wordsFrom (fun _ member => absurd member List.not_mem_nil) _ inside
  intro c among
  rw [String.toList_ofList] at among
  obtain ⟨letter, here, rfl⟩ := List.mem_map.mp among
  exact isSmall_asciiLower (letters letter (List.mem_reverse.mp here))

/-- The terms of a text are of small letters. -/
theorem small_of_splitText {term : String} (member : term ∈ splitText text)
    : ∀ c ∈ term.toList, isSmall c := by
  obtain ⟨name, -, inside⟩ := List.mem_flatMap.mp member
  exact small_of_splitName inside

/-- No capital is a small letter. -/
theorem isSmall_of_isCapital {c : Char} (capital : isCapital c) : isSmall c = false := by
  simp only [isCapital, isSmall, Bool.and_eq_true, decide_eq_true_eq, Bool.and_eq_false_iff,
    decide_eq_false_iff_not] at capital ⊢
  left
  intro small
  have upper : c.toNat ≤ 90 := UInt32.le_iff_toNat_le.mp capital.2
  have lower : 97 ≤ c.toNat := UInt32.le_iff_toNat_le.mp small
  omega

/-- A small letter is its own lower case. -/
theorem asciiLower_of_isSmall {c : Char} (small : isSmall c) : Text.asciiLower c = c := by
  unfold Text.asciiLower
  split
  · rename_i capital
    have differ := isSmall_of_isCapital (c := c) (by simpa [isCapital] using capital)
    simp [differ] at small
  · rfl

/-- Small letters are their own lower case. -/
theorem map_asciiLower_of_isSmall {letters : List Char} (small : ∀ c ∈ letters, isSmall c)
    : letters.map Text.asciiLower = letters := by
  refine (List.map_congr_left ?_).trans (List.map_id letters)
  intro c member
  exact asciiLower_of_isSmall (small c member)

/-! ### Separators -/

/-- What is no letter ends the word before it, whatever comes behind. Witness: the recursion over
the text before the separator.
-/
theorem wordsFrom_separator {c : Char} (other : ¬IsLetter c) (after : List Char)
    : wordsFrom word (text ++ c :: after) = wordsFrom word text ++ wordsFrom [] after := by
  obtain ⟨small, capital⟩ := not_or.mp other
  fun_induction wordsFrom word text with
  | case1 word => simp [wordsFrom, small, capital]
  | case2 d rest small' first second others capital' ih =>
      simp [wordsFrom, small', capital', ih]
  | case3 d rest small' first second others run ih => simp [wordsFrom, small', run, ih]
  | case4 word d rest small' short ih =>
      -- a word of one letter or none does not give its letter away
      have step : wordsFrom word (d :: (rest ++ c :: after))
          = wordsFrom (d :: word) (rest ++ c :: after) := by
        rcases word with _ | ⟨first, _ | ⟨second, others⟩⟩
        · simp [wordsFrom, small']
        · simp [wordsFrom, small']
        · exact absurd rfl (short first second others)
      exact step.trans ih
  | case5 d rest small' capital' first others run ih => simp [wordsFrom, small', capital', run, ih]
  | case6 d rest small' capital' first others run ih => simp [wordsFrom, small', capital', run, ih]
  | case7 d rest small' capital' ih => simp [wordsFrom, small', capital', ih]
  | case8 word d rest small' capital' ih => simp [wordsFrom, small', capital', ih]

/-- The terms on the two sides of a separator are those of its two sides alone. -/
theorem splitName_separator {c : Char} (other : ¬IsLetter c) (before after : List Char)
    : splitName (before ++ c :: after) = splitName before ++ splitName after := by
  simp only [splitName, words, wordsFrom_separator other, List.map_append, List.filter_append]

/-- A name of no characters has no terms. -/
theorem splitName_nil : splitName [] = [] := rfl

/-- A separator in front of a name adds no term. -/
theorem splitName_cons {c : Char} (other : ¬IsLetter c) (rest : List Char)
    : splitName (c :: rest) = splitName rest :=
  splitName_separator other [] rest

/-- A character that starts no name is no letter. -/
theorem not_isLetter_of_start {c : Char} (outside : Text.isAsciiWordStart c = false)
    : ¬IsLetter c := by
  simp only [Text.isAsciiWordStart, Bool.or_eq_false_iff] at outside
  simp [IsLetter, isSmall, isCapital, outside]

/-- A character that goes on no name is no letter. -/
theorem not_isLetter_of_part {c : Char} (outside : Text.isAsciiWordPart c = false)
    : ¬IsLetter c :=
  not_isLetter_of_start (Bool.or_eq_false_iff.mp outside).1

/-- The names in the rest of a text have the terms that the rest has, the unfinished name included.
Witness: the recursion over the text, which drops characters only where they are separators.
-/
theorem flatMap_namesFrom (name text : List Char)
    : (namesFrom name text).flatMap splitName = splitName (name.reverse ++ text) := by
  fun_induction namesFrom name text with
  | case1 name empty => simp [List.isEmpty_iff.mp empty, splitName_nil]
  | case2 name some => simp
  | case3 name c rest empty start ih => simpa [List.isEmpty_iff.mp empty] using ih
  | case4 name c rest empty start ih =>
      have other := not_isLetter_of_start (Bool.eq_false_iff.mpr start)
      simpa [List.isEmpty_iff.mp empty, splitName_cons other] using ih
  | case5 name c rest some part ih => simpa using ih
  | case6 name c rest some part ih =>
      have other := not_isLetter_of_part (Bool.eq_false_iff.mpr part)
      simpa [splitName_separator other] using ih

/-! ### Terms -/

/-- Whether a text is a term: two small letters or more, and nothing else. -/
def IsTerm (term : String) : Prop :=
  2 ≤ term.length ∧ ∀ c ∈ term.toList, isSmall c

/-- Small letters go on a word of small letters, by induction on them. -/
theorem wordsFrom_small (text word : List Char) (letters : ∀ c ∈ text, isSmall c)
    (inside : ∀ c ∈ word, isSmall c)
    : wordsFrom word text = [text.reverse ++ word] := by
  induction text generalizing word with
  | nil => rfl
  | cons c rest ih =>
      obtain ⟨small, letters⟩ := List.forall_mem_cons.mp letters
      have later := ih (c :: word) letters (List.forall_mem_cons.mpr ⟨small, inside⟩)
      have step : wordsFrom word (c :: rest) = wordsFrom (c :: word) rest := by
        rcases word with _ | ⟨first, _ | ⟨second, others⟩⟩
        · simp [wordsFrom, small]
        · simp [wordsFrom, small]
        · have lower : isCapital first = false := by
            rw [Bool.eq_false_iff]
            intro capital
            simpa [isSmall_of_isCapital capital] using inside first List.mem_cons_self
          simp [wordsFrom, small, lower]
      simp [step, later]

/-- The only term of a term is itself. -/
theorem splitName_term {term : String} (fits : IsTerm term) : splitName term.toList = [term] := by
  obtain ⟨long, letters⟩ := fits
  have one : words term.toList = [term.toList] := by
    simp [words, wordsFrom_small term.toList [] letters]
  have lower := map_asciiLower_of_isSmall letters
  have kept : 2 ≤ term.toList.length := String.length_toList ▸ long
  simp [splitName, one, kept, lower]

/-- What a name is split into are terms. -/
theorem isTerm_of_splitName {name : List Char} {term : String} (member : term ∈ splitName name)
    : IsTerm term := by
  refine ⟨?_, small_of_splitName member⟩
  obtain ⟨word, found, rfl⟩ := List.mem_map.mp member
  have long := (List.mem_filter.mp found).2
  simpa using long

/-- Free text has the terms that it has as a name, for the names in it are parted by separators
only. The terms on the two sides of anything that is no letter are those of the two sides alone.
What comes out are terms, each the only term of itself, and nothing else is its own only term.
-/
theorem splitText_eq_splitName
    : (∀ text, splitText text = splitName text)
      ∧ (∀ before c after,
          ¬IsLetter c → splitName (before ++ c :: after) = splitName before ++ splitName after)
      ∧ (∀ text, ∀ term ∈ splitName text, IsTerm term ∧ splitName term.toList = [term])
      ∧ ∀ term, splitName term.toList = [term] ↔ IsTerm term := by
  refine ⟨fun text => flatMap_namesFrom [] text, ?_, ?_, fun term => ⟨?_, splitName_term⟩⟩
  · intro before c after other
    exact splitName_separator other before after
  · intro text term member
    have fits := isTerm_of_splitName member
    exact ⟨fits, splitName_term fits⟩
  · intro own
    exact isTerm_of_splitName (own ▸ List.mem_singleton_self term)

/-- A letter beyond ASCII and a digit part a text, one capital gives way to the word behind it, and
the terms that are left are those of the text as one name.
-/
theorem mixedText_eq_splitName
    : splitText "9parseHTTPéResponse2".toList = ["parse", "http", "response"]
      ∧ ¬IsLetter 'é'
      ∧ splitName "parseHTTPéResponse".toList
        = splitName "parseHTTP".toList ++ splitName "Response".toList
      ∧ "http" ∈ splitName "parseHTTP".toList
      ∧ splitName "http".toList = ["http"] := by
  have foreign : ¬IsLetter 'é' := by decide
  have split : "http" ∈ splitName "parseHTTP".toList := by decide
  obtain ⟨same, parts, terms, -⟩ := splitText_eq_splitName
  refine ⟨?_, foreign, parts "parseHTTP".toList 'é' "Response".toList foreign, split, ?_⟩
  · rw [same]
    decide
  · exact (terms "parseHTTP".toList "http" split).2

end FoldTree.Term
