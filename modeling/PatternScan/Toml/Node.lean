/-!
# TOML documents

A document is a tree of tables. Tables come to be in different ways, and the way decides
what may be added later: a table under a header of its own takes no second header, and a
table made by a dotted key takes further dotted keys only.
-/

namespace PatternScan.Toml

/-- How a table came to be. -/
inductive TableForm where
  /-- By a header of its own. -/
  | headed
  /-- On the way of a header to another table. -/
  | implied
  /-- On the way of a dotted key. -/
  | dotted
  deriving DecidableEq, Repr, Inhabited

/-- A value or a table. -/
inductive Node where
  | integer (value : Int)
  | text (value : String)
  | boolean (value : Bool)
  /-- A fractional number. -/
  | fraction
  /-- A date, a time or both. -/
  | moment
  | array (items : List Node)
  /-- A table written as a value, to which nothing can be added. -/
  | inline (entries : List (String × Node))
  | table (form : TableForm) (entries : List (String × Node))
  /-- Tables under headers in double brackets. -/
  | rows (tables : List (List (String × Node)))
  deriving Repr, Inhabited

/-- The entries of a table in the order in which they were made. -/
abbrev Entries := List (String × Node)

namespace Entries

/-- What a key is bound to. -/
def get? (entries : Entries) (key : String) : Option Node := entries.lookup key

/-- Binds a key at its place, or at the end if it is new. -/
def set (entries : Entries) (key : String) (node : Node) : Entries :=
  if (entries.get? key).isSome then
    entries.map fun e => if e.1 == key then (key, node) else e
  else entries ++ [(key, node)]

/-- Binds a key that is not bound yet. -/
def add? (entries : Entries) (key : String) (node : Node) : Option Entries :=
  if (entries.get? key).isSome then none else some (entries ++ [(key, node)])

/-- The last of tables changed, if there is one. -/
def changeLast? (change : Entries → Option Entries) : List Entries → Option (List Entries)
  | [] => none
  | [row] => (change row).map fun row => [row]
  | row :: rest => (changeLast? change rest).map (row :: ·)

/-- Binds a dotted key. `takes` says that the table at hand takes the last part of the key. -/
def bind? (node : Node) (takes : Bool) (entries : Entries) : List String → Option Entries
  | [] => none
  | [key] => if takes then entries.add? key node else none
  | key :: rest =>
      match entries.get? key with
      | none => (bind? node true [] rest).map fun sub => entries.set key (.table .dotted sub)
      | some (.table .headed _) => none
      | some (.table form sub) =>
          (bind? node (form == .dotted) sub rest).map fun sub => entries.set key (.table form sub)
      | some _ => none

/-- Changes the table at the end of a way, where tables missing on it are implied. -/
def reach? (change : Entries → Option Entries) (entries : Entries) : List String → Option Entries
  | [] => change entries
  | key :: rest =>
      match entries.get? key with
      | none => (reach? change [] rest).map fun sub => entries.set key (.table .implied sub)
      | some (.table form sub) =>
          (reach? change sub rest).map fun sub => entries.set key (.table form sub)
      | some (.rows tables) =>
          (changeLast? (fun sub => reach? change sub rest) tables).map fun tables =>
            entries.set key (.rows tables)
      | some _ => none

/-- A header of this key: a new table, or one that so far was only implied. -/
def head? (key : String) (entries : Entries) : Option Entries :=
  match entries.get? key with
  | none => some (entries.set key (.table .headed []))
  | some (.table .implied sub) => some (entries.set key (.table .headed sub))
  | some _ => none

/-- A header in double brackets: one more table. -/
def headRow? (key : String) (entries : Entries) : Option Entries :=
  match entries.get? key with
  | none => some (entries.set key (.rows [[]]))
  | some (.rows tables) => some (entries.set key (.rows (tables ++ [[]])))
  | some _ => none

/-- A header of a dotted key. -/
def openTable? (entries : Entries) (row : Bool) (way : List String) : Option Entries :=
  match way.getLast? with
  | none => none
  | some key => reach? (if row then headRow? key else head? key) entries way.dropLast

end Entries

end PatternScan.Toml
