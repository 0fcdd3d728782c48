import FoldTree.Proofs.Json.Numbers
import Mathlib.Tactic.SplitIfs

/-! Which values are written as JSON documents: those of which all numbers are finite. For an
infinity or the absence of a number there is a word with a capital letter, and no document has one
of these outside of its texts.
-/

namespace FoldTree.Json

variable {asciiOnly : Bool}

/-! ### What is written -/

mutual

/-- The floating numbers of a value. -/
def numbers : Json → List Float
  | .number value => [value]
  | .list items => numbersOfItems items
  | .object fields => numbersOfFields fields
  | _ => []

/-- The floating numbers of several values. -/
def numbersOfItems : List Json → List Float
  | [] => []
  | item :: rest => numbers item ++ numbersOfItems rest

/-- The floating numbers of several named values. -/
def numbersOfFields : List (String × Json) → List Float
  | [] => []
  | (_, value) :: rest => numbers value ++ numbersOfFields rest

end

/-- The units of a text. -/
def units (text : String) : List Nat :=
  text.toList.flatMap unitsOf

mutual

/-- What the text of a value is to say. -/
def datum : Json → Datum
  | .null => .null
  | .integer value => .number (toString value).toList
  | .number value => .number (numberToken value).toList
  | .text value => .text (units value)
  | .list items => .list (dataOfItems items)
  | .object fields => .object (dataOfFields fields)

/-- What the texts of several values are to say. -/
def dataOfItems : List Json → List Datum
  | [] => []
  | item :: rest => datum item :: dataOfItems rest

/-- What the texts of several named values are to say. -/
def dataOfFields : List (String × Json) → List (List Nat × Datum)
  | [] => []
  | (name, value) :: rest => (units name, datum value) :: dataOfFields rest

end

/-! ### Texts -/

/-- Digits in base sixteen have their values. -/
theorem hexDigit?_hexChar : ∀ digit < 16, Text.hexDigit? (Text.hexChar digit) = some digit := by
  decide

/-- Digits in base sixteen are digits. -/
theorem isSome_of_mem_hexDigits {width n : Nat}
    : ∀ c ∈ Text.hexDigits width n, (Text.hexDigit? c).isSome := by
  induction width generalizing n with
  | zero => simp [Text.hexDigits]
  | succ width ih =>
      intro c member
      rw [Text.hexDigits, List.mem_append, List.mem_singleton] at member
      rcases member with high | rfl
      · exact ih c high
      · rw [hexDigit?_hexChar _ (Nat.mod_lt n (by decide))]
        rfl

/-- There are as many digits as wanted. -/
theorem length_hexDigits (width n : Nat) : (Text.hexDigits width n).length = width := by
  induction width generalizing n with
  | zero => rfl
  | succ width ih => rw [Text.hexDigits, List.length_append, ih, List.length_singleton]

/-- The lowest digits of a number have its value, up to what the higher ones have. -/
theorem hexValue_hexDigits (width n : Nat)
    : Text.hexValue (Text.hexDigits width n) = n % 16 ^ width := by
  induction width generalizing n with
  | zero => simp [Text.hexDigits, Text.hexValue, Nat.mod_one]
  | succ width ih =>
      have digit := hexDigit?_hexChar (n % 16) (Nat.mod_lt n (by decide))
      have step : Text.hexValue (Text.hexDigits width (n / 16) ++ [Text.hexChar (n % 16)])
          = 16 * Text.hexValue (Text.hexDigits width (n / 16)) + n % 16 := by
        simp only [Text.hexValue, List.foldl_append, List.foldl_cons, List.foldl_nil, digit]
      rw [Text.hexDigits, step, ih, pow_succ, Nat.mul_comm (16 ^ width), Nat.mod_mul, Nat.add_comm]

/-- An escaped unit is read back. -/
theorem Spells.unitEscape {unit : Nat} {units : List Nat} {text : List Char} (small : unit < 0x10000)
    (rest : Spells units text)
    : Spells (unit :: units) (unitEscape unit ++ text) := by
  have value : Text.hexValue (Text.hexDigits 4 unit) = unit :=
    (hexValue_hexDigits 4 unit).trans (Nat.mod_eq_of_lt small)
  have spelled := Spells.unit (length_hexDigits 4 unit) isSome_of_mem_hexDigits rest
  rwa [value] at spelled

/-- An escaped character is read back, by the cases of how it is escaped. -/
theorem Spells.escape {c : Char} {units : List Nat} {text : List Char} (rest : Spells units text)
    : Spells (unitsOf c ++ units) (escape asciiOnly c ++ text) := by
  have short (letter : Char) (known : (letter, c.toNat) ∈ shortEscapes)
      : Spells (unitsOf c ++ units) ('\\' :: letter :: text) := by
    have small : ∀ entry ∈ shortEscapes, entry.2 < 0x10000 := by decide
    rw [unitsOf, if_pos (small _ known)]
    exact .short known rest
  unfold Json.escape
  split_ifs with special newline return' tab back feed control printed small
  · rcases special with rfl | rfl
    · exact short _ (by decide)
    · exact short _ (by decide)
  · subst newline
    exact short _ (by decide)
  · subst return'
    exact short _ (by decide)
  · subst tab
    exact short _ (by decide)
  · exact short 'b' (back ▸ by decide)
  · exact short 'f' (feed ▸ by decide)
  · rw [unitsOf, if_pos (by omega)]
    exact rest.unitEscape (by omega)
  · rw [not_or] at special
    exact .plain (not_lt.mp control) special.1 special.2 rest
  · rw [unitsOf, if_pos small]
    exact rest.unitEscape small
  · have bound : c.toNat < 0xd800 ∨ 0xdfff < c.toNat ∧ c.toNat < 0x110000 := c.valid
    rw [unitsOf, if_neg small, List.append_assoc]
    exact (rest.unitEscape (by omega)).unitEscape (by omega)

/-- What stands between the quotes of a text is read back. -/
theorem spells_escaped (text : List Char)
    : Spells (text.flatMap unitsOf) (text.flatMap (escape asciiOnly)) := by
  induction text with
  | nil => exact .nil
  | cons c rest ih => exact ih.escape

/-- A text is read back. -/
theorem written_textToken (text : String)
    : Written (.value (.text (units text))) (textToken asciiOnly text).toList := by
  rw [textToken, String.toList_ofList]
  exact .text (spells_escaped text.toList)

/-! ### Documents -/

/-- White space may stand in front of a value. -/
theorem Written.behind {before text : List Char} {datum : Datum} (blank : IsBlank before)
    (written : Written (.value datum) text)
    : Written (.value datum) (before ++ text) := by
  have none : IsBlank [] := by simp [IsBlank]
  have between := Written.between blank written none
  rwa [List.append_nil] at between

/-- White space may stand in front of what is between brackets. -/
theorem Written.itemsBehind {before text : List Char} {next : Datum} {data : List Datum}
    (blank : IsBlank before) (written : Written (.items (next :: data)) text)
    : Written (.items (next :: data)) (before ++ text) := by
  cases written with
  | lastItem value => exact .lastItem (value.behind blank)
  | item value items =>
      rw [← List.append_assoc]
      exact .item (value.behind blank) items

/-- White space may stand in front of what is between braces. -/
theorem Written.fieldsBehind {before text : List Char} {next : List Nat × Datum}
    {data : List (List Nat × Datum)} (blank : IsBlank before)
    (written : Written (.fields (next :: data)) text)
    : Written (.fields (next :: data)) (before ++ text) := by
  cases written with
  | lastField named value =>
      rw [← List.append_assoc]
      exact .lastField (named.behind blank) value
  | field named value fields =>
      rw [← List.append_assoc]
      exact .field (named.behind blank) value fields

/-- A blank is white space. -/
theorem isBlank_space : IsBlank [' '] := by
  simp [IsBlank]

/-- A finite number is written as one. -/
theorem isNumber_numberToken {x : Float} (finite : x.isFinite = true)
    : IsNumber (numberToken x).toList := by
  have apart : (x.isNaN || x.isInf) = false := by
    rwa [Decimal.isFinite_eq, Bool.not_eq_true'] at finite
  obtain ⟨number, bounded⟩ := Bool.or_eq_false_iff.mp apart
  rw [numberToken, number, bounded, if_neg Bool.false_ne_true, if_neg Bool.false_ne_true]
  exact isNumber_exact finite

mutual

/-- A value of which all numbers are finite is written as what it is to say. -/
theorem written_render (value : Json) (finite : ∀ x ∈ value.numbers, x.isFinite = true)
    : Written (.value value.datum) (value.render asciiOnly).toList := by
  cases value with
  | null => exact .null
  | integer value => exact .number (isNumber_int value)
  | number value => exact .number (isNumber_numberToken (finite value List.mem_cons_self))
  | text value => exact written_textToken value
  | list items =>
      have written := written_renderItems items finite
      rw [render, String.toList_append, String.toList_append]
      exact .list written
  | object fields =>
      have written := written_renderFields fields finite
      rw [render, String.toList_append, String.toList_append]
      exact .object written

/-- Values of which all numbers are finite are written as what they are to say. -/
theorem written_renderItems (items : List Json)
    (finite : ∀ x ∈ numbersOfItems items, x.isFinite = true)
    : Written (.items (dataOfItems items)) (renderItems asciiOnly items).toList := by
  cases items with
  | nil => exact .noItems (by simp [IsBlank, renderItems])
  | cons item rest =>
      rw [numbersOfItems, List.forall_mem_append] at finite
      have first := written_render item finite.1
      cases rest with
      | nil => exact .lastItem first
      | cons next rest =>
          have others := written_renderItems (next :: rest) finite.2
          simp only [renderItems, String.toList_append, List.append_assoc]
          exact .item first (others.itemsBehind isBlank_space)

/-- Named values of which all numbers are finite are written as what they are to say. -/
theorem written_renderFields (fields : List (String × Json))
    (finite : ∀ x ∈ numbersOfFields fields, x.isFinite = true)
    : Written (.fields (dataOfFields fields)) (renderFields asciiOnly fields).toList := by
  cases fields with
  | nil => exact .noFields (by simp [IsBlank, renderFields])
  | cons field rest =>
      obtain ⟨name, value⟩ := field
      rw [numbersOfFields, List.forall_mem_append] at finite
      have label : Written (.value (.text (units name))) (textToken asciiOnly name).toList :=
        written_textToken name
      have first := (written_render value finite.1).behind isBlank_space
      cases rest with
      | nil =>
          rw [renderFields, String.toList_append, String.toList_append, List.append_assoc]
          exact .lastField label first
      | cons next rest =>
          have others := written_renderFields (next :: rest) finite.2
          simp only [renderFields, String.toList_append, List.append_assoc]
          exact .field label first (others.fieldsBehind isBlank_space)

end

/-! ### Outside of texts -/

/-- A place in a document: outside of its texts, in one of them, or behind a backslash there. -/
inductive Place where
  | outside
  | inside
  | escaped
deriving DecidableEq

/-- The place behind a character. -/
def Place.next : Place → Char → Place
  | .outside, c => if c = '"' then .inside else .outside
  | .inside, c => if c = '"' then .outside else if c = '\\' then .escaped else .inside
  | .escaped, _ => .inside

/-- The characters that are outside of the texts of a document. -/
def outside : Place → List Char → List Char
  | _, [] => []
  | .outside, c :: rest => c :: outside (Place.outside.next c) rest
  | place, c :: rest => outside (place.next c) rest

/-- The place at the end. -/
def Place.last (place : Place) (text : List Char) : Place :=
  text.foldl Place.next place

/-- The characters of one part and those of the next. -/
theorem outside_append (place : Place) (text rest : List Char)
    : outside place (text ++ rest) = outside place text ++ outside (place.last text) rest := by
  induction text generalizing place with
  | nil => rfl
  | cons c text ih => cases place <;> simp [outside, ih, Place.last]

/-- A part of a document that starts and ends outside of its texts, where all characters outside of
them have some property.
-/
structure Outer (allowed : Char → Prop) (text : List Char) : Prop where
  closed : Place.outside.last text = .outside
  all : ∀ c ∈ outside .outside text, allowed c

section

variable {allowed : Char → Prop} {text rest : List Char}

/-- One part after another. -/
theorem Outer.append (outer : Outer allowed text) (later : Outer allowed rest)
    : Outer allowed (text ++ rest) := by
  constructor
  · rw [Place.last, List.foldl_append]
    exact (congrArg (·.last rest) outer.closed).trans later.closed
  · rw [outside_append, outer.closed]
    exact List.forall_mem_append.mpr ⟨outer.all, later.all⟩

/-- A part without quotes. -/
theorem outer_of_forall (plain : ∀ c ∈ text, c ≠ '"' ∧ allowed c) : Outer allowed text := by
  induction text with
  | nil => exact ⟨rfl, List.forall_mem_nil _⟩
  | cons c rest ih =>
      obtain ⟨⟨noQuote, fits⟩, plain⟩ := List.forall_mem_cons.mp plain
      have single : Outer allowed [c] :=
        ⟨if_neg noQuote, List.forall_mem_singleton.mpr fits⟩
      exact single.append (ih plain)

/-- Nothing of a part is outside of the text that it is in, and neither is what comes next. -/
def Stays (text : List Char) : Prop :=
  Place.inside.last text = .inside ∧ outside .inside text = []

/-- A character that neither ends a text nor escapes anything, in front of a part that stays. -/
theorem Stays.cons {c : Char} (stays : Stays rest) (noQuote : c ≠ '"') (noBackslash : c ≠ '\\')
    : Stays (c :: rest) := by
  have next : Place.inside.next c = .inside := by
    rw [Place.next, if_neg noQuote, if_neg noBackslash]
  constructor
  · change (Place.inside.next c).last rest = _
    rw [next, stays.1]
  · change outside (Place.inside.next c) rest = _
    rw [next, stays.2]

/-- Characters that neither end a text nor escape anything, in front of a part that stays. -/
theorem Stays.append (stays : Stays rest) (plain : ∀ c ∈ text, c ≠ '"' ∧ c ≠ '\\')
    : Stays (text ++ rest) := by
  induction text with
  | nil => exact stays
  | cons c text ih =>
      obtain ⟨⟨noQuote, noBackslash⟩, plain⟩ := List.forall_mem_cons.mp plain
      exact (ih plain).cons noQuote noBackslash

/-- What stands between the quotes of a text stays inside of it, by the cases of how a character is
spelled.
-/
theorem Spells.stays {units : List Nat} (spells : Spells units text) : Stays text := by
  induction spells with
  | nil => exact ⟨rfl, rfl⟩
  | plain printed noQuote noBackslash rest ih => exact ih.cons noQuote noBackslash
  | short known rest ih => exact ih
  | unit four hexadecimal rest ih =>
      exact ih.append fun c member => by
        have digit := hexadecimal c member
        constructor <;> rintro rfl <;> exact absurd digit (by decide)

/-- A text between its quotes. -/
theorem Spells.outer {units : List Nat} (spells : Spells units text) (quote : allowed '"')
    : Outer allowed ('"' :: (text ++ ['"'])) := by
  obtain ⟨stays, none⟩ := spells.stays
  constructor
  · change Place.inside.last (text ++ ['"']) = _
    rw [Place.last, List.foldl_append]
    exact congrArg (·.next '"') stays
  · change ∀ c ∈ '"' :: outside .inside (text ++ ['"']), allowed c
    rw [outside_append, none, stays]
    exact List.forall_mem_singleton.mpr quote

end

/-- The characters that are outside of texts in a document: all but the capitals of the words for
what is no finite number.
-/
def IsUsual (c : Char) : Prop :=
  c ≠ 'N' ∧ c ≠ 'I'

instance : DecidablePred IsUsual := fun _ => inferInstanceAs (Decidable (_ ∧ _))

/-- Whether all characters of a text are usual, and none of them is a quote. -/
def IsPlain (text : List Char) : Prop :=
  ∀ c ∈ text, c ≠ '"' ∧ IsUsual c

-- decided along the text: characters are finitely many, but too many to try them all
instance (text : List Char) : Decidable (IsPlain text) :=
  decidable_of_iff (text.all (fun c => c ≠ '"' ∧ IsUsual c) = true) (by simp [IsPlain])

/-- A plain part. -/
theorem IsPlain.outer {text : List Char} (plain : IsPlain text) : Outer IsUsual text :=
  outer_of_forall plain

/-- A part of a plain text's characters. -/
theorem IsPlain.outer_of_subset {few text : List Char} (plain : IsPlain few)
    (within : text ⊆ few)
    : Outer IsUsual text :=
  outer_of_forall fun c member => plain c (within member)

/-- A character of a plain text. -/
theorem IsPlain.outer_mark {few : List Char} {c : Char} (plain : IsPlain few) (known : c ∈ few)
    : Outer IsUsual [c] :=
  outer_of_forall (List.forall_mem_singleton.mpr (plain c known))

/-- Digits are usual. -/
theorem IsDigits.outer {text : List Char} (digits : IsDigits text) : Outer IsUsual text :=
  outer_of_forall fun c member => by
    have digit := digits.digits c member
    refine ⟨?_, ?_, ?_⟩ <;> rintro rfl <;> exact absurd digit (by decide)

/-- Outside of texts there are only usual characters in a number. -/
theorem IsNumber.outer {text : List Char} (number : IsNumber text) : Outer IsUsual text := by
  have sign {text : List Char} (signed : text ∈ [[], ['+'], ['-']]) : Outer IsUsual text := by
    have within : ∀ sign ∈ [[], ['+'], ['-']], sign ⊆ ['+', '-'] := by decide
    have plain : IsPlain ['+', '-'] := by decide
    exact plain.outer_of_subset (within text signed)
  obtain ⟨signed, front, behind, power⟩ := number
  refine (sign ?_).append (front.toIsDigits.outer.append (Outer.append ?_ ?_))
  · revert signed
    simp only [List.mem_cons]
    tauto
  · cases behind with
    | absent => exact outer_of_forall (List.forall_mem_nil _)
    | present written =>
        have point : IsPlain ['.'] := by decide
        exact point.outer.append written.outer
  · cases power with
    | absent => exact outer_of_forall (List.forall_mem_nil _)
    | present marked signed written =>
        have marks : IsPlain ['e', 'E'] := by decide
        exact (marks.outer_mark marked).append ((sign signed).append written.outer)

/-- Outside of texts there are only usual characters in what is written, by the cases of what that
is.
-/
theorem Written.outer {phrase : Phrase} {text : List Char} (written : Written phrase text)
    : Outer IsUsual text := by
  have blanks : IsPlain [' ', '\t', '\n', '\r'] := by decide
  have blank {text : List Char} (blank : IsBlank text) : Outer IsUsual text :=
    blanks.outer_of_subset blank
  have marks : IsPlain ['[', ']', '\x7b', '\x7d', ',', ':'] := by decide
  have mark {c : Char} (known : c ∈ ['[', ']', '\x7b', '\x7d', ',', ':'])
      : Outer IsUsual [c] :=
    marks.outer_mark known
  induction written with
  | null => exact IsPlain.outer (by decide)
  | truth value => exact IsPlain.outer (by cases value <;> decide)
  | number number => exact number.outer
  | text spells => exact spells.outer (by decide)
  | list items ih => exact (mark (by decide)).append (ih.append (mark (by decide)))
  | object fields ih => exact (mark (by decide)).append (ih.append (mark (by decide)))
  | between before value after ih => exact (blank before).append (ih.append (blank after))
  | noItems none => exact blank none
  | lastItem value ih => exact ih
  | item value items ih ih' => exact ih.append ((mark (by decide)).append ih')
  | noFields none => exact blank none
  | lastField named value ih ih' => exact ih.append ((mark (by decide)).append ih')
  | field named value fields ih ih' ih'' =>
      exact ih.append ((mark (by decide)).append (ih'.append ((mark (by decide)).append ih'')))

/-! ### Numbers that are not finite -/

/-- A part of a document that starts and ends outside of its texts, and that has an unusual
character outside of them if one of some numbers is not finite.
-/
structure Reveals (numbers : List Float) (text : List Char) : Prop where
  closed : Place.outside.last text = .outside
  unusual : ∀ x ∈ numbers, x.isFinite = false → ∃ c ∈ outside .outside text, ¬IsUsual c

/-- One part after another. -/
theorem Reveals.append {numbers more : List Float} {text rest : List Char}
    (reveals : Reveals numbers text) (later : Reveals more rest)
    : Reveals (numbers ++ more) (text ++ rest) := by
  constructor
  · rw [Place.last, List.foldl_append]
    exact (congrArg (·.last rest) reveals.closed).trans later.closed
  · rw [outside_append, reveals.closed]
    intro x member lacking
    rcases List.mem_append.mp member with front | behind
    · obtain ⟨c, inside, unusual⟩ := reveals.unusual x front lacking
      exact ⟨c, List.mem_append_left _ inside, unusual⟩
    · obtain ⟨c, inside, unusual⟩ := later.unusual x behind lacking
      exact ⟨c, List.mem_append_right _ inside, unusual⟩

/-- A part without numbers. -/
theorem Outer.reveals {text : List Char} (outer : Outer IsUsual text) : Reveals [] text :=
  ⟨outer.closed, by simp⟩

/-- A number gives away that it is not finite. -/
theorem reveals_numberToken (x : Float) : Reveals [x] (numberToken x).toList := by
  cases finite : x.isFinite with
  | true =>
      refine ⟨(isNumber_numberToken finite).outer.closed, fun y member lacking => ?_⟩
      rw [List.mem_singleton.mp member, finite] at lacking
      cases lacking
  | false =>
      have named : numberToken x ∈ ["NaN", "Infinity", "-Infinity"] := by
        rw [Decimal.isFinite_eq, Bool.not_eq_false'] at finite
        unfold numberToken
        split_ifs with absent infinite negative
        · decide
        · decide
        · decide
        · simp_all
      have closed : ∀ word ∈ ["NaN", "Infinity", "-Infinity"],
          Place.outside.last word.toList = .outside
          ∧ (outside .outside word.toList).any fun c => ¬IsUsual c := by
        decide
      obtain ⟨c, inside, unusual⟩ := List.any_eq_true.mp (closed _ named).2
      exact ⟨(closed _ named).1, fun _ _ _ => ⟨c, inside, of_decide_eq_true unusual⟩⟩

/-- A text has no numbers. -/
theorem reveals_textToken (text : String) : Reveals [] (textToken asciiOnly text).toList :=
  (written_textToken text).outer.reveals

/-- A plain part has no numbers. -/
theorem reveals_of_isPlain (text : List Char) (plain : IsPlain text) : Reveals [] text :=
  plain.outer.reveals

mutual

/-- A value gives away that one of its numbers is not finite. -/
theorem reveals_render (value : Json)
    : Reveals value.numbers (value.render asciiOnly).toList := by
  cases value with
  | null => exact Written.null.outer.reveals
  | integer value => exact (isNumber_int value).outer.reveals
  | number value => exact reveals_numberToken value
  | text value => exact reveals_textToken value
  | list items =>
      have inside := (reveals_of_isPlain ['['] (by decide)).append
        ((reveals_renderItems items).append (reveals_of_isPlain [']'] (by decide)))
      rw [List.append_nil] at inside
      rw [render, String.toList_append, String.toList_append, List.append_assoc]
      exact inside
  | object fields =>
      have inside := (reveals_of_isPlain ['\x7b'] (by decide)).append
        ((reveals_renderFields fields).append (reveals_of_isPlain ['\x7d'] (by decide)))
      rw [List.append_nil] at inside
      rw [render, String.toList_append, String.toList_append, List.append_assoc]
      exact inside

/-- Values give away that one of their numbers is not finite. -/
theorem reveals_renderItems (items : List Json)
    : Reveals (numbersOfItems items) (renderItems asciiOnly items).toList := by
  cases items with
  | nil => exact reveals_of_isPlain _ (by simp [renderItems, IsPlain])
  | cons item rest =>
      have first := reveals_render item
      cases rest with
      | nil =>
          rw [numbersOfItems, numbersOfItems, List.append_nil]
          exact first
      | cons next rest =>
          have others := reveals_renderItems (next :: rest)
          simp only [renderItems, String.toList_append, List.append_assoc]
          exact first.append ((reveals_of_isPlain ", ".toList (by decide)).append others)

/-- Named values give away that one of their numbers is not finite. -/
theorem reveals_renderFields (fields : List (String × Json))
    : Reveals (numbersOfFields fields) (renderFields asciiOnly fields).toList := by
  cases fields with
  | nil => exact reveals_of_isPlain _ (by simp [renderFields, IsPlain])
  | cons field rest =>
      obtain ⟨name, value⟩ := field
      have label : Reveals [] (textToken asciiOnly name).toList := reveals_textToken name
      have first := label.append
        ((reveals_of_isPlain ": ".toList (by decide)).append (reveals_render value))
      cases rest with
      | nil =>
          rw [numbersOfFields, numbersOfFields, List.append_nil, renderFields,
            String.toList_append, String.toList_append, List.append_assoc]
          exact first
      | cons next rest =>
          have others := reveals_renderFields (next :: rest)
          have whole := first.append
            ((reveals_of_isPlain ", ".toList (by decide)).append others)
          simp only [renderFields, String.toList_append, List.append_assoc] at whole ⊢
          exact whole

end

/-- A line of text with a value of which all numbers are finite says what it is to say. -/
theorem written_line (value : Json) (finite : ∀ x ∈ value.numbers, x.isFinite = true)
    : Written (.value value.datum) (value.render asciiOnly ++ "\n").toList := by
  have none : IsBlank [] := by simp [IsBlank]
  have newline : IsBlank ['\n'] := by simp [IsBlank]
  rw [String.toList_append]
  exact .between none (written_render value finite) newline

/-- A line of text with a value is a document just if all numbers of the value are finite. -/
theorem isDocument_line (value : Json)
    : IsDocument (value.render asciiOnly ++ "\n") ↔ ∀ x ∈ value.numbers, x.isFinite = true := by
  constructor
  · rintro ⟨datum, written⟩ x member
    by_contra lacking
    obtain ⟨c, inside, unusual⟩ :=
      (reveals_render value).unusual x member (Bool.eq_false_of_not_eq_true lacking)
    refine unusual (written.outer.all c ?_)
    rw [String.toList_append, outside_append]
    exact List.mem_append_left _ inside
  · exact fun finite => ⟨value.datum, written_line value finite⟩

end FoldTree.Json
