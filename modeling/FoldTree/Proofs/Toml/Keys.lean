import FoldTree.Proofs.Outcome
import FoldTree.Toml.Document
import Mathlib.Data.List.Nodup

/-! Keys of TOML documents. A key of a table cannot be given again, and whatever changes a table
changes the values under its keys or adds new ones, so no table of a document has a key twice.
-/

namespace FoldTree.Toml

/-- No table in a value has a key twice. -/
inductive Value.Keyed : Value → Prop
  | flat {value : Value} (flat : value.isNested = false) : Keyed value
  | list {items : List Value} (each : ∀ item ∈ items, Keyed item) : Keyed (.list items)
  | table {entries : Table} (once : (entries.map Prod.fst).Nodup)
    (each : ∀ entry ∈ entries, Keyed entry.2)
    : Keyed (.table entries)

/-- Neither a table nor a table in it has a key twice. -/
structure Table.Keyed (table : Table) : Prop where
  once : (table.map Prod.fst).Nodup
  each : ∀ entry ∈ table, entry.2.Keyed

variable {table changed : Table} {value : Value} {items : List Value} {key : String}

/-- What holds of a table as a value holds of it as a table. -/
theorem Value.Keyed.ofTable (keyed : (Value.table table).Keyed) : table.Keyed := by
  cases keyed with
  | flat flat => cases flat
  | table once each => exact ⟨once, each⟩

/-- What holds of a list holds of its items. -/
theorem Value.Keyed.ofList (keyed : (Value.list items).Keyed) : ∀ item ∈ items, item.Keyed := by
  cases keyed with
  | flat flat => cases flat
  | list each => exact each

namespace Table

/-- A table of nothing has no key twice. -/
theorem Keyed.nil : Table.Keyed [] := ⟨.nil, by simp⟩

/-- A table as a value. -/
theorem Keyed.asValue (keyed : table.Keyed) : (Value.table table).Keyed :=
  .table keyed.once keyed.each

/-- A value that is found in a table. -/
theorem Keyed.of_lookup (keyed : table.Keyed) (found : table.lookup key = some value)
    : value.Keyed := by
  obtain ⟨before, after, rfl, -⟩ := List.lookup_eq_some_iff.mp found
  exact keyed.each (key, value) (by simp)

/-- A new key behind the others. -/
theorem Keyed.append (keyed : table.Keyed) (free : table.lookup key = none) (inner : value.Keyed)
    : (table ++ [(key, value)]).Keyed := by
  have absent : key ∉ table.map Prod.fst := by
    intro member
    obtain ⟨entry, inside, rfl⟩ := List.mem_map.mp member
    simpa using List.lookup_eq_none_iff.mp free entry inside
  refine ⟨?_, fun entry member => ?_⟩
  · rw [List.map_append, List.nodup_append]
    refine ⟨keyed.once, by simp, fun other member last new same => ?_⟩
    simp only [List.map_cons, List.map_nil, List.mem_singleton] at new
    exact absent (new ▸ same ▸ member)
  · rcases List.mem_append.mp member with old | new
    · exact keyed.each entry old
    · rw [List.mem_singleton.mp new]
      exact inner

/-- A new value under the keys of a table. -/
theorem Keyed.replace (keyed : table.Keyed) (inner : value.Keyed)
    : (Table.replace key value table).Keyed := by
  have keys : (Table.replace key value table).map Prod.fst = table.map Prod.fst := by
    rw [Table.replace, List.map_map]
    refine List.map_congr_left fun entry _ => ?_
    by_cases same : entry.1 = key <;> simp [same]
  refine ⟨keys ▸ keyed.once, fun entry member => ?_⟩
  obtain ⟨before, inside, rfl⟩ := List.mem_map.mp member
  split
  · exact inner
  · exact keyed.each before inside

/-- A table after a value was put into it. -/
theorem Keyed.put (keyed : table.Keyed) (inner : value.Keyed)
    (made : Table.put key value table = some changed)
    : changed.Keyed := by
  unfold Table.put at made
  split at made
  · cases made
  · rename_i free
    cases made
    exact keyed.append (Option.not_isSome_iff_eq_none.mp free) inner

/-- A table after a table was put at the end of a list in it. -/
theorem Keyed.putLast (keyed : table.Keyed) (made : Table.putLast key table = some changed)
    : changed.Keyed := by
  have bare : (Value.table []).Keyed := Keyed.nil.asValue
  unfold Table.putLast at made
  split at made
  · rename_i free
    cases made
    exact keyed.append free (.list (by simpa using bare))
  · rename_i items found
    cases made
    refine keyed.replace (.list fun item member => ?_)
    rcases List.mem_append.mp member with old | new
    · exact (keyed.of_lookup found).ofList item old
    · rw [List.mem_singleton.mp new]
      exact bare
  · cases made

/-- A table after a change at the end of a path, by induction on the path. -/
theorem Keyed.change {throughLists : Bool} {step : Table → Option Table}
    (keeps : ∀ {before after : Table}, before.Keyed → step before = some after → after.Keyed)
    {path : List String} (keyed : table.Keyed)
    (made : Table.change throughLists step path table = some changed)
    : changed.Keyed := by
  induction path generalizing table changed with
  | nil => exact keeps keyed made
  | cons key path ih =>
      unfold Table.change at made
      split at made
      · rename_i free
        obtain ⟨inner, below, rfl⟩ := Option.map_eq_some_iff.mp made
        exact keyed.append free (ih .nil below).asValue
      · rename_i inner found
        obtain ⟨after, below, rfl⟩ := Option.map_eq_some_iff.mp made
        exact keyed.replace (ih (keyed.of_lookup found).ofTable below).asValue
      · rename_i items found
        have each := (keyed.of_lookup found).ofList
        split at made
        · rename_i inner last
          split at made
          · obtain ⟨after, below, rfl⟩ := Option.map_eq_some_iff.mp made
            have member := List.mem_of_getLast? last
            refine keyed.replace (.list fun item inside => ?_)
            rcases List.mem_append.mp inside with old | new
            · exact each item (List.dropLast_subset items old)
            · rw [List.mem_singleton.mp new]
              exact (ih (each _ member).ofTable below).asValue
          · cases made
        · cases made
      · cases made

end Table

/-! ### Readers -/

namespace Reader

variable {α β : Type} {p : α → Prop} {q : β → Prop} {reader : Reader α} {next : α → Reader β}

/-- Whatever a reader gives passes a test. -/
def Gives (reader : Reader α) (p : α → Prop) : Prop :=
  ∀ text a rest, reader.run text = .ok (a, rest) → p a

/-- There is something that every reader gives. -/
theorem gives_any (reader : Reader α) : reader.Gives fun _ => True :=
  fun _ _ _ _ => trivial

/-- A reader of nothing gives what it is given. -/
theorem Gives.pure {a : α} (passes : p a) : Gives (pure a) p := by
  intro text b rest read
  cases read
  exact passes

/-- A reader that fails gives nothing. -/
theorem gives_fail : Gives (fail : Reader α) p := by
  intro text a rest read
  cases read

/-- A reader that takes nothing off the text gives what its outcome is. -/
theorem Gives.lift {outcome : Except Fault α} (passes : ∀ a, outcome = .ok a → p a)
    : (liftM outcome : Reader α).Gives p := by
  intro text a rest read
  cases outcome with
  | error fault => cases read
  | ok b =>
      cases read
      exact passes _ rfl

/-- What a reader gives by way of another one. -/
theorem Gives.bind (first : reader.Gives p) (later : ∀ a, p a → (next a).Gives q)
    : (reader >>= next).Gives q := by
  intro text b rest read
  rw [StateT.run_bind] at read
  cases here : reader.run text with
  | error fault => simp [here] at read
  | ok pair =>
      rw [here] at read
      exact later pair.1 (first text pair.1 pair.2 here) pair.2 b rest read

/-- A reader that fails first gives nothing. -/
theorem gives_fail_bind : ((fail : Reader α) >>= next).Gives q :=
  Gives.bind (gives_fail : Gives (fail : Reader α) fun _ => False) fun _ never => never.elim

/-- What a reader gives by way of one that may give anything. -/
theorem Gives.after (later : ∀ a, (next a).Gives q) : (reader >>= next).Gives q :=
  (gives_any reader).bind fun a _ => later a

end Reader

open Reader

/-! ### Values -/

/-- A word stands for a scalar. -/
theorem readWord_flat {text : List Char} {read : Value × List Char}
    (word : readWord text = some read)
    : read.1.isNested = false := by
  obtain ⟨entry, found, rfl⟩ := Option.map_eq_some_iff.mp word
  have each : ∀ entry ∈ readWord.words, entry.2.isNested = false := by decide
  exact each entry (List.mem_of_find?_eq_some found)

/-- A decimal number is a scalar. -/
theorem readDecimal_flat {text rest : List Char}
    (read : readDecimal text = some (.ok value, rest))
    : value.isNested = false := by
  unfold readDecimal at read
  simp only [Option.bind_eq_bind, Option.pure_def, Option.bind_eq_some_iff] at read
  obtain ⟨whole, -, read⟩ := read
  split at read
  · split at read
    · simp at read
    · cases read
      rfl
  · cases read
    rfl

/-- A number is a scalar. -/
theorem readNumber_flat {text rest : List Char} (read : readNumber text = some (.ok value, rest))
    : value.isNested = false := by
  unfold readNumber at read
  split at read
  · split at read
    · cases read
      rfl
    · exact readDecimal_flat read
  · exact readDecimal_flat read

/-- What is neither a text nor starts with a bracket is a scalar. -/
theorem readScalar_flat {text rest : List Char} (read : readScalar text = .ok (value, rest))
    : value.isNested = false := by
  unfold readScalar at read
  split at read
  · dsimp only at read
    split at read
    · cases read
      rfl
    · cases read
  · split at read
    · cases read
      rfl
    · split at read
      · rename_i outcome after number
        cases outcome with
        | error fault => cases read
        | ok found =>
            cases read
            exact readNumber_flat number
      · split at read
        · rename_i word
          cases read
          exact readWord_flat word
        · cases read

/-- An entry has the value that was read for it. -/
theorem entry_keyed {value : Reader Value} (keyed : value.Gives Value.Keyed)
    : (entry value).Gives fun read => read.2.Keyed :=
  .after fun _ => .after fun _ => .after fun _ => keyed.bind fun _ inner => .pure inner

/-- The items of a list are values, by induction on the rounds. -/
theorem listItems_keyed {value : Reader Value} (keyed : value.Gives Value.Keyed) (rounds : Nat)
    : (listItems value rounds).Gives fun items => ∀ item ∈ items, item.Keyed := by
  induction rounds with
  | zero => exact gives_fail
  | succ rounds ih =>
      refine .after fun text => .after fun _ => .after fun closes => ?_
      split
      · exact .pure (by simp)
      · refine keyed.bind fun item inner => .after fun _ => .after fun _ => .after fun closes => ?_
        split
        · exact .pure (by simpa using inner)
        · exact .after fun _ => ih.bind fun items each => .pure (by simpa using ⟨inner, each⟩)

/-- A table on one line has no key twice, by induction on the rounds. -/
theorem tableEntries_keyed {value : Reader Value} (keyed : value.Gives Value.Keyed) (rounds : Nat)
    (closed : List (List String)) {table : Table} (start : table.Keyed)
    : (tableEntries value rounds closed table).Gives Table.Keyed := by
  induction rounds generalizing closed table with
  | zero => exact gives_fail
  | succ rounds ih =>
      refine (entry_keyed keyed).bind fun read inner => ?_
      dsimp only
      split
      · exact gives_fail_bind
      · split
        · exact gives_fail
        · rename_i changed made
          have grown : changed.Keyed := start.change (fun before put => before.put inner put) made
          refine .after fun _ => .after fun closes => ?_
          split
          · exact .pure grown
          · exact .after fun _ => .after fun _ => ih _ grown

/-- A value has no key twice in any table, by induction on the depth. -/
theorem value_keyed (depth : Nat) : (Toml.value depth).Gives Value.Keyed := by
  induction depth with
  | zero => exact gives_fail
  | succ depth ih =>
      refine .after fun text => ?_
      dsimp only
      split
      · exact .after fun chars => .pure (.flat rfl)
      · exact .after fun chars => .pure (.flat rfl)
      · exact .after fun _ => (listItems_keyed ih _).bind fun items each => .pure (.list each)
      · refine .after fun _ => .after fun _ => .after fun closes => ?_
        split
        · exact .pure Table.Keyed.nil.asValue
        · exact (tableEntries_keyed ih _ [] .nil).bind fun table inner => .pure inner.asValue
      · exact (Gives.lift fun found scalar => readScalar_flat scalar).bind fun found flat =>
          .after fun _ => .pure (.flat flat)

/-! ### Documents -/

namespace Document

variable {document later : Document} {path : List String}

/-- No key is given twice by one more entry. -/
theorem addEntry_keyed (keyed : document.table.Keyed) (inner : value.Keyed)
    (made : document.addEntry path value = some later)
    : later.table.Keyed := by
  simp only [addEntry, Option.bind_eq_bind, Option.pure_def] at made
  split at made
  · simp at made
  · split at made
    · simp at made
    · obtain ⟨table, put, made⟩ := Option.bind_eq_some_iff.mp made
      cases made
      exact keyed.change (fun before put => before.put inner put) put

/-- No key is given twice where a header opens a table. -/
theorem openTable_keyed (keyed : document.table.Keyed) (made : document.openTable path = some later)
    : later.table.Keyed := by
  simp only [openTable, Option.bind_eq_bind, Option.pure_def] at made
  split at made
  · simp at made
  · obtain ⟨table, opened, made⟩ := Option.bind_eq_some_iff.mp made
    cases made
    exact keyed.change (fun before same => by cases same; exact before) opened

/-- No key is given twice where a header opens a table at the end of a list. -/
theorem openLast_keyed (keyed : document.table.Keyed) (made : document.openLast path = some later)
    : later.table.Keyed := by
  simp only [openLast, Option.bind_eq_bind, Option.pure_def] at made
  split at made
  · simp at made
  · obtain ⟨table, opened, made⟩ := Option.bind_eq_some_iff.mp made
    cases made
    exact keyed.change (fun before put => before.putLast put) opened

/-- No key is given twice by a header. -/
theorem readHeader_keyed (keyed : document.table.Keyed)
    : document.readHeader.Gives fun later => later.table.Keyed := by
  have settled : document.settle.table.Keyed := keyed
  have opened {isList : Bool} {path : List String} {later : Document}
      (made : (if isList then document.settle.openLast path else document.settle.openTable path)
        = some later)
      : later.table.Keyed := by
    split at made
    · exact openLast_keyed settled made
    · exact openTable_keyed settled made
  refine .after fun isList => ?_
  dsimp only
  split
  · refine .after fun _ => .after fun _ => .after fun path => ?_
    split
    · exact gives_fail
    · rename_i made
      exact .after fun _ => .pure (opened made)
  · refine .after fun _ => .after fun path => ?_
    split
    · exact gives_fail
    · rename_i made
      exact .after fun _ => .pure (opened made)

/-- No key is given twice by a line. -/
theorem readStatement_keyed (keyed : document.table.Keyed)
    : document.readStatement.Gives fun later => later.table.Keyed := by
  refine .after fun next => ?_
  split
  · exact .pure keyed
  · split
    · exact readHeader_keyed keyed
    · split
      · refine .after fun text => (entry_keyed (value_keyed _)).bind fun read inner => ?_
        dsimp only
        split
        · exact gives_fail
        · rename_i later made
          exact .pure (addEntry_keyed keyed inner made)
      · exact .pure keyed

/-- No key is given twice by the lines of a text, by induction on their number. -/
theorem readLines_keyed (rounds : Nat) (keyed : document.table.Keyed)
    : (document.readLines rounds).Gives fun later => later.table.Keyed := by
  induction rounds generalizing document with
  | zero => exact gives_fail
  | succ rounds ih =>
      refine .after fun _ => (readStatement_keyed keyed).bind fun later keyed => ?_
      refine .after fun _ => .after fun _ => .after fun next => ?_
      split
      · exact .pure keyed
      · exact .after fun _ => ih keyed

end Document

/-- No table of a document has a key twice. -/
theorem read_keyed {text : List Char} (read : Toml.read text = .ok table) : table.Keyed := by
  simp only [Toml.read] at read
  cases lines : (Document.empty.readLines ((joinLineEnds text).length + 1)).run (joinLineEnds text)
    with
  | error fault => simp [lines] at read
  | ok found =>
      rw [lines] at read
      cases read
      exact Document.readLines_keyed _ Table.Keyed.nil _ _ _ lines

end FoldTree.Toml
