import FoldTree.Source.Comment
import Mathlib.Data.List.Basic
import Mathlib.Data.List.TakeWhile

/-! Where the comments of a text are, read character by character and without regard to its lines.
Both the reader of tokens and the reader of comments are compared with this reading: the first
passes over every comment between two tokens, the second finds no other comments.
-/

namespace FoldTree.Source.Comment

/-- Whether a quote comes two more times, as around a long text. -/
def follows (c : Char) (rest : List Char) : Bool :=
  rest.take 2 == [c, c]

/-- The offsets at which the comments of a text start and behind which they end, counted from an
offset on, where some characters are passed first. There are none if a text literal does not close.
-/
def stretches : Mode → Nat → Nat → List Char → Option (List (Nat × Nat))
  | .text _, _, _, [] => none
  | .code, _, _, [] => some []
  | .comment, _, _, [] => some []
  | mode, passed + 1, n, _ :: rest => stretches mode passed (n + 1) rest
  | .comment, 0, n, c :: rest => stretches (if c = '\n' then .code else .comment) 0 (n + 1) rest
  | .text opened, 0, n, c :: rest =>
    if c = '\\' then stretches (.text opened) 1 (n + 1) rest
    else if c ≠ opened.quote then
      if c = '\n' ∧ opened.isLong = false then none else stretches (.text opened) 0 (n + 1) rest
    else if opened.isLong = false then stretches .code 0 (n + 1) rest
    else if follows c rest then stretches .code 2 (n + 1) rest
    else stretches (.text opened) 0 (n + 1) rest
  | .code, 0, n, c :: rest =>
    if c = '#' then
      (stretches .comment 0 (n + 1) rest).map
        ((n, n + 1 + (rest.takeWhile (· != '\n')).length) :: ·)
    else if c = '"' ∨ c = '\'' then
      if follows c rest then stretches (.text ⟨c, true⟩) 2 (n + 1) rest
      else stretches (.text ⟨c, false⟩) 0 (n + 1) rest
    else stretches .code 0 (n + 1) rest

/-- A character that starts neither a comment nor a text literal. -/
def isInert (c : Char) : Bool :=
  c != '#' && c != '"' && c != '\''

/-- Characters that are to be passed are passed, by induction. -/
theorem stretches_passed (mode : Mode) (n : Nat) (passed rest : List Char)
    : stretches mode passed.length n (passed ++ rest)
      = stretches mode 0 (n + passed.length) rest := by
  induction passed generalizing n with
  | nil => rfl
  | cons c passed ih =>
      have later := ih (n + 1)
      rw [Nat.add_assoc, Nat.add_comm 1] at later
      cases mode <;> exact later

/-- Code without comments and literals is passed over, by induction. -/
theorem stretches_inert (n : Nat) {code : List Char} (inert : code.all isInert = true)
    (rest : List Char)
    : stretches .code 0 n (code ++ rest) = stretches .code 0 (n + code.length) rest := by
  induction code generalizing n with
  | nil => rfl
  | cons c code ih =>
      rw [List.all_cons, Bool.and_eq_true] at inert
      obtain ⟨head, tail⟩ := inert
      have later := ih (n + 1) tail
      simp only [isInert, Bool.and_eq_true, bne_iff_ne, ne_eq] at head
      rw [Nat.add_assoc, Nat.add_comm 1] at later
      simpa [stretches, head] using later

/-- A comment is passed over up to the end of its line, by induction. -/
theorem stretches_comment (n : Nat) {body rest : List Char} (inside : '\n' ∉ body)
    (ends : ∀ c ∈ rest.head?, c = '\n')
    : stretches .comment 0 n (body ++ rest) = stretches .code 0 (n + body.length) rest := by
  induction body generalizing n with
  | nil =>
      cases rest with
      | nil => rfl
      | cons c rest =>
          cases ends c rfl
          simp [stretches]
  | cons c body ih =>
      rw [List.mem_cons, not_or] at inside
      have later := ih (n + 1) inside.2
      rw [Nat.add_assoc, Nat.add_comm 1] at later
      simpa [stretches, Ne.symm inside.1] using later

/-- What stands before the first newline, where nothing or a newline follows. -/
theorem takeWhile_append_newline {body rest : List Char} (inside : '\n' ∉ body)
    (ends : ∀ c ∈ rest.head?, c = '\n')
    : (body ++ rest).takeWhile (· != '\n') = body := by
  have passes : ∀ c ∈ body, (c != '\n') = true := by
    intro c member
    simpa using fun same : c = '\n' => inside (same ▸ member)
  rw [List.takeWhile_append_of_pos passes]
  cases rest with
  | nil => simp
  | cons c rest =>
      cases ends c rfl
      simp

/-- A comment starts at its hash and goes up to the end of its line. -/
theorem stretches_hash (n : Nat) {body rest : List Char} (inside : '\n' ∉ body)
    (ends : ∀ c ∈ rest.head?, c = '\n')
    : stretches .code 0 n ('#' :: body ++ rest)
      = (stretches .code 0 (n + 1 + body.length) rest).map
          ((n, n + 1 + body.length) :: ·) := by
  rw [List.cons_append, stretches, if_pos rfl, stretches_comment (n + 1) inside ends,
    takeWhile_append_newline inside ends]

/-- A character that starts no escape, nor one that breaks off, is no backslash. -/
theorem ne_backslash {c : Char} {rest : List Char} (single : c = '\\' → rest = [] → False)
    (escape : ∀ d after, c = '\\' → rest = d :: after → False)
    : c ≠ '\\' := by
  intro same
  cases rest with
  | nil => exact single same rfl
  | cons d after => exact escape d after same rfl

/-- An escaped character belongs to a text. -/
theorem stretches_escape (opened : OpenText) (n : Nat) (c : Char) (rest : List Char)
    : stretches (.text opened) 0 n ('\\' :: c :: rest)
      = stretches (.text opened) 0 (n + 2) rest := by
  simp [stretches]

/-- Comments start at the offset from which they are counted or later, each goes on for at least its
hash, and the next one starts behind it. Inside of a comment the next one starts behind the line.
-/
structure InOrder (mode : Mode) (passed n : Nat) (chars : List Char) (found : List (Nat × Nat)) :
    Prop where
  bounded : ∀ stretch ∈ found, n ≤ stretch.1 ∧ stretch.1 < stretch.2
  behind : mode = .comment → passed = 0
    → ∀ stretch ∈ found, n + (chars.takeWhile (· != '\n')).length ≤ stretch.1
  apart : found.Pairwise fun first later => first.2 ≤ later.1

/-- No comments are in any order. -/
theorem InOrder.nil (mode : Mode) (passed n : Nat) (chars : List Char)
    : InOrder mode passed n chars [] :=
  ⟨by simp, by simp, .nil⟩

/-- Comments from the next offset on come after this one. -/
theorem InOrder.later {mode : Mode} {passed n : Nat} {chars : List Char}
    {found : List (Nat × Nat)} (order : InOrder mode passed (n + 1) chars found)
    : ∀ stretch ∈ found, n ≤ stretch.1 ∧ stretch.1 < stretch.2 := by
  intro stretch member
  obtain ⟨start, proper⟩ := order.bounded stretch member
  exact ⟨Nat.le_of_succ_le start, proper⟩

/-- Comments in order behind a character outside of comments are in order from it on. -/
theorem InOrder.cons {mode other : Mode} {passed count n : Nat} {c : Char} {rest : List Char}
    {found : List (Nat × Nat)} (order : InOrder mode passed (n + 1) rest found)
    (outside : other = .comment → count ≠ 0)
    : InOrder other count n (c :: rest) found where
  bounded := order.later
  behind inside zero := absurd zero (outside inside)
  apart := order.apart

/-- All comments that are found are in order, by induction on the text. -/
theorem inOrder_of_stretches {mode : Mode} {passed n : Nat} {chars : List Char}
    {found : List (Nat × Nat)} (read : stretches mode passed n chars = some found)
    : InOrder mode passed n chars found := by
  induction chars generalizing mode passed n found with
  | nil =>
      cases mode with
      | text opened => simp [stretches] at read
      | code => simp only [stretches, Option.some.injEq] at read; exact read ▸ .nil ..
      | comment => simp only [stretches, Option.some.injEq] at read; exact read ▸ .nil ..
  | cons c rest ih =>
      cases passed with
      | succ passed =>
          rw [stretches] at read
          exact (ih read).cons fun _ => Nat.succ_ne_zero passed
      | zero =>
          cases mode with
          | comment =>
              rw [stretches] at read
              -- a newline ends the comment, and any other character lengthens what is left of it
              split at read <;> rename_i newline
              · refine ⟨(ih read).later, fun _ _ stretch member => ?_, (ih read).apart⟩
                simpa [newline] using ((ih read).later stretch member).1
              · refine ⟨(ih read).later, fun _ _ stretch member => ?_, (ih read).apart⟩
                have behind := (ih read).behind rfl rfl stretch member
                simp only [newline, bne_iff_ne, ne_eq, not_false_eq_true,
                  List.takeWhile_cons_of_pos, List.length_cons]
                omega
          | text opened =>
              rw [stretches] at read
              split_ifs at read
              all_goals exact (ih read).cons nofun
          | code =>
              rw [stretches] at read
              split_ifs at read
              · obtain ⟨later, inside, rfl⟩ := Option.map_eq_some_iff.mp read
                refine ⟨?_, nofun, List.pairwise_cons.mpr ⟨?_, (ih inside).apart⟩⟩
                · rintro stretch (_ | ⟨_, member⟩)
                  · exact ⟨Nat.le_refl n, by dsimp only; omega⟩
                  · exact (ih inside).later stretch member
                · intro stretch member
                  exact (ih inside).behind rfl rfl stretch member
              all_goals exact (ih read).cons nofun

/-- A comment of a text starts with its hash inside of the text and goes on in the same line, and a
newline ends it unless the text does.
-/
structure Inside (text : List Char) (stretch : Nat × Nat) : Prop where
  hash : text[stretch.1]? = some '#'
  bound : stretch.2 ≤ text.length
  line : (text.take stretch.2).count '\n' = (text.take stretch.1).count '\n'
  ends : stretch.2 < text.length → text[stretch.2]? = some '\n'

/-- What comes behind all characters up to the first newline is that newline. -/
theorem getElem?_length_takeWhile (text : List Char)
    (inside : (text.takeWhile (· != '\n')).length < text.length)
    : text[(text.takeWhile (· != '\n')).length]? = some '\n' := by
  induction text with
  | nil => simp at inside
  | cons c rest ih =>
      by_cases newline : c = '\n'
      · simp [newline]
      · simp_all

/-- All comments that are found lie inside of the text, by induction on what is left of it. -/
theorem inside_of_stretches {text : List Char} {mode : Mode} {passed n : Nat}
    {found : List (Nat × Nat)} (read : stretches mode passed n (text.drop n) = some found)
    : ∀ stretch ∈ found, Inside text stretch := by
  generalize left : text.drop n = chars at read
  induction chars generalizing mode passed n found with
  | nil =>
      cases mode with
      | text opened => simp [stretches] at read
      | code => simp_all [stretches]
      | comment => simp_all [stretches]
  | cons c rest ih =>
      have next : text.drop (n + 1) = rest := by
        rw [← List.drop_drop, left, List.drop_one, List.tail_cons]
      cases passed with
      | succ passed =>
          rw [stretches] at read
          exact ih next read
      | zero =>
          cases mode with
          | comment =>
              rw [stretches] at read
              exact ih next read
          | text opened =>
              rw [stretches] at read
              split_ifs at read
              all_goals exact ih next read
          | code =>
              rw [stretches] at read
              split_ifs at read with hash
              · obtain ⟨later, inside, rfl⟩ := Option.map_eq_some_iff.mp read
                rintro stretch (_ | ⟨_, member⟩)
                · have here : text[n]? = some c := by
                    rw [← List.head?_drop, left, List.head?_cons]
                  have length : text.length = n + 1 + rest.length := by
                    have dropped := congrArg List.length left
                    simp only [List.length_drop, List.length_cons] at dropped
                    omega
                  -- the comment is its hash and all up to the next newline, so no newline is inside
                  have body := (List.takeWhile_prefix (l := rest) (· != '\n')).length_le
                  refine ⟨hash ▸ here, by dsimp only; omega, ?_, fun more => ?_⟩
                  · have single : '\n' ∉ rest.takeWhile (· != '\n') := fun inside => by
                      simpa using List.mem_takeWhile_imp inside
                    have front : rest.take (rest.takeWhile (· != '\n')).length
                        = rest.takeWhile (· != '\n') :=
                      (List.prefix_iff_eq_take.mp (List.takeWhile_prefix _)).symm
                    rw [Nat.add_assoc, List.take_add, left, Nat.add_comm 1, List.take_succ_cons,
                      front, hash]
                    simp [List.count_eq_zero_of_not_mem single]
                  · dsimp only at more ⊢
                    rw [← List.getElem?_drop, next]
                    exact getElem?_length_takeWhile rest (by omega)
                · exact ih next inside stretch member
              all_goals exact ih next read

/-- A last newline does not lengthen what a test selects from the front that does not select it. -/
theorem takeWhile_append_singleton {p : Char → Bool} (stops : p '\n' = false) (text : List Char)
    : (text ++ ['\n']).takeWhile p = text.takeWhile p := by
  induction text with
  | nil => simp [stops]
  | cons c rest ih => simp only [List.cons_append, List.takeWhile_cons, ih]

/-- A last newline is no quote that goes on with others. -/
theorem follows_append_singleton {c : Char} (other : c ≠ '\n') (text : List Char)
    : follows c (text ++ ['\n']) = follows c text := by
  rcases text with _ | ⟨d, _ | ⟨e, rest⟩⟩ <;> simp [follows, Ne.symm other]

/-- A newline at the very end holds no comment and ends no literal, by induction on the text. -/
theorem stretches_of_append_newline {mode : Mode} {passed n : Nat} {text : List Char}
    {found : List (Nat × Nat)} (quoted : ∀ opened, mode = .text opened → opened.quote ≠ '\n')
    (read : stretches mode passed n (text ++ ['\n']) = some found)
    : stretches mode passed n text = some found := by
  induction text generalizing mode passed n found with
  | nil =>
      cases mode with
      | code => cases passed <;> simpa [stretches] using read
      | comment => cases passed <;> simpa [stretches] using read
      | text opened =>
          have other := quoted opened rfl
          cases passed with
          | zero => simp [stretches, Ne.symm other] at read
          | succ passed => simp [stretches] at read
  | cons c rest ih =>
      rw [List.cons_append] at read
      cases passed with
      | succ passed =>
          rw [stretches] at read ⊢
          exact ih quoted read
      | zero =>
          cases mode with
          | comment =>
              rw [stretches] at read ⊢
              refine ih (fun opened same => ?_) read
              split at same <;> cases same
          | text opened =>
              have other := quoted opened rfl
              rw [stretches] at read ⊢
              -- whether three quotes close depends on two more characters, none a newline
              by_cases same : c = opened.quote
              · rw [follows_append_singleton (same ▸ other)] at read
                split_ifs at read ⊢ <;> first | exact ih quoted read | exact ih nofun read
              · split_ifs at read ⊢ <;> exact ih quoted read
          | code =>
              rw [stretches] at read ⊢
              rw [takeWhile_append_singleton (by decide)] at read
              by_cases hash : c = '#'
              · rw [if_pos hash] at read ⊢
                obtain ⟨later, inside, rfl⟩ := Option.map_eq_some_iff.mp read
                rw [ih (by nofun) inside, Option.map_some]
              · by_cases quote : c = '"' ∨ c = '\''
                · have other : c ≠ '\n' := by rcases quote with rfl | rfl <;> decide
                  have kept : ∀ isLong opened, Mode.text ⟨c, isLong⟩ = .text opened →
                      opened.quote ≠ '\n' := by
                    rintro isLong opened ⟨⟩
                    exact other
                  rw [if_neg hash, if_pos quote] at read ⊢
                  rw [follows_append_singleton other] at read
                  split_ifs at read ⊢ <;> exact ih (kept _) read
                · rw [if_neg hash, if_neg quote] at read ⊢
                  exact ih nofun read

end FoldTree.Source.Comment
