import FoldTree.Decimal.Layout
import FoldTree.Text.Quoted
import FoldTree.Toml.Moment

/-! Values of TOML documents, and the texts that settings made of them get. -/

namespace FoldTree.Toml

/-- A value. Tables keep their keys in the order in which they were first used. -/
inductive Value where
  | text (value : String)
  | integer (value : Int)
  | number (value : Float)
  | truth (value : Bool)
  | moment (value : Moment)
  | list (items : List Value)
  | table (entries : List (String × Value))

instance : Inhabited Value := ⟨.table []⟩

/-- A table: values under keys. -/
abbrev Table := List (String × Value)

namespace Value

mutual

/-- The text of a value inside a list or table, where texts are quoted. -/
def shown : Value → String
  | .text value => Text.quoted value
  | .integer value => toString value
  | .number value => Decimal.exact value
  | .truth value => if value then "True" else "False"
  | .moment value => value.callText
  | .list items => "[" ++ ", ".intercalate (shownItems items) ++ "]"
  | .table entries => "\x7b" ++ ", ".intercalate (shownEntries entries) ++ "\x7d"

/-- The texts of several values. -/
def shownItems : List Value → List String
  | [] => []
  | item :: rest => item.shown :: shownItems rest

/-- The texts of several keys with their values. -/
def shownEntries : List (String × Value) → List String
  | [] => []
  | (key, value) :: rest => (Text.quoted key ++ ": " ++ value.shown) :: shownEntries rest

end

/-- The text of a value on its own. -/
def plainText : Value → String
  | .text value => value
  | .moment value => value.text
  | value => value.shown

mutual

/-- Whether some whole number in a value is of a size from a bound on. -/
def reaches (bound : Nat) : Value → Bool
  | .integer value => bound ≤ value.natAbs
  | .list items => itemsReach bound items
  | .table entries => entriesReach bound entries
  | _ => false

/-- Whether some whole number in some values is of a size from a bound on. -/
def itemsReach (bound : Nat) : List Value → Bool
  | [] => false
  | item :: rest => item.reaches bound || itemsReach bound rest

/-- Whether some whole number under some keys is of a size from a bound on. -/
def entriesReach (bound : Nat) : List (String × Value) → Bool
  | [] => false
  | (_, value) :: rest => value.reaches bound || entriesReach bound rest

end

/-- Whether a value is a table or a list. -/
def isNested : Value → Bool
  | .list _ => true
  | .table _ => true
  | _ => false

end Value

/-- Replaces the value under a key. -/
def Table.replace (key : String) (value : Value) (table : Table) : Table :=
  table.map fun entry => if entry.1 == key then (key, value) else entry

/-- Changes the table at the end of a path of keys, making tables that are missing on the way. A
path leads through the last table of a list of tables only where that is allowed.
-/
def Table.change (throughLists : Bool) (step : Table → Option Table) :
    List String → Table → Option Table
  | [], table => step table
  | key :: path, table =>
    match table.lookup key with
    | none => (Table.change throughLists step path []).map fun made => table ++ [(key, .table made)]
    | some (.table inner) =>
      (Table.change throughLists step path inner).map fun changed =>
        Table.replace key (.table changed) table
    | some (.list items) =>
      match items.getLast? with
      | some (.table inner) =>
        if throughLists then
          (Table.change throughLists step path inner).map fun changed =>
            Table.replace key (.list (items.dropLast ++ [.table changed])) table
        else none
      | _ => none
    | some _ => none

/-- Puts a value under a key that a table does not have yet. -/
def Table.put (key : String) (value : Value) (table : Table) : Option Table :=
  if (table.lookup key).isSome then none else some (table ++ [(key, value)])

/-- Puts a new table at the end of the list of tables under a key. -/
def Table.putLast (key : String) (table : Table) : Option Table :=
  match table.lookup key with
  | none => some (table ++ [(key, .list [.table []])])
  | some (.list items) => some (Table.replace key (.list (items ++ [.table []])) table)
  | some _ => none

end FoldTree.Toml
