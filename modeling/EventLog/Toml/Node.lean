/-!
# Tables of settings

A file of settings is a table of keys and values, and values can be tables themselves. How a table
came about decides what may still be added to it: a table with a header of its own is closed to
headers of the same name and to dotted keys, a table that was only passed through on the way to
another one may still get its header, and a table made by a dotted key may get more dotted keys.
-/

namespace EventLog.Toml

/-- How a table came about. -/
inductive Origin
  /-- It has a header. -/
  | header
  /-- It lies on the path of a header. -/
  | path
  /-- It lies on the path of a dotted key. -/
  | dotted
  deriving DecidableEq, Repr

/-- A value. -/
inductive Node
  /-- A whole number. -/
  | integer (n : Int)
  /-- A value of another type, which is complete in itself. -/
  | opaqueValue
  /-- A table. -/
  | table (origin : Origin) (entries : List (String × Node))
  /-- A row of tables with the same header, the last one first. -/
  | tables (elements : List (List (String × Node)))

/-- The keys and values of a table. -/
abbrev Entries := List (String × Node)

namespace Entries

/-- The value of a key. -/
def find? (key : String) (entries : Entries) : Option Node :=
  (List.find? (·.1 == key) entries).map Prod.snd

/-- The table with a value for a key. -/
def put (key : String) (node : Node) (entries : Entries) : Entries :=
  (key, node) :: entries.filter (·.1 != key)

/-- Changes the table at the end of a path, in a row of tables the last one. A table that is missing
is made, with the given origin. -/
def alter (origin : Origin) (f : Entries → Option Entries) : List String → Entries → Option Entries
  | [], entries => f entries
  | key :: keys, entries =>
    match find? key entries with
    | none => (alter origin f keys []).map fun sub => put key (.table origin sub) entries
    | some (.table o sub) =>
      (alter origin f keys sub).map fun sub => put key (.table o sub) entries
    | some (.tables (sub :: subs)) =>
      (alter origin f keys sub).map fun sub => put key (.tables (sub :: subs)) entries
    | some _ => none

/-- Adds the table of a header at the end of a path. -/
def define (keys : List String) (key : String) : Entries → Option Entries :=
  alter .path (fun entries =>
    match find? key entries with
    | none => some (put key (.table .header []) entries)
    | some (.table .path sub) => some (put key (.table .header sub) entries)
    | some _ => none) keys

/-- Adds another table to the row of tables at the end of a path. -/
def append (keys : List String) (key : String) : Entries → Option Entries :=
  alter .path (fun entries =>
    match find? key entries with
    | none => some (put key (.tables [[]]) entries)
    | some (.tables subs) => some (put key (.tables ([] :: subs)) entries)
    | some _ => none) keys

/-- Adds a value under a dotted key. The tables on the path of the key must not have headers of
their own, and the last of them must be made by dotted keys. -/
def assign (key : String) (node : Node) : List String → Entries → Option Entries
  | [], entries => if (find? key entries).isSome then none else some (put key node entries)
  | k :: keys, entries =>
    match find? k entries with
    | none => (assign key node keys []).map fun sub => put k (.table .dotted sub) entries
    | some (.table .dotted sub) =>
      (assign key node keys sub).map fun sub => put k (.table .dotted sub) entries
    | some (.table .path sub) =>
      if keys = [] then none
      else (assign key node keys sub).map fun sub => put k (.table .path sub) entries
    | some (.tables (sub :: subs)) =>
      if keys = [] then none
      else (assign key node keys sub).map fun sub => put k (.tables (sub :: subs)) entries
    | some _ => none

end Entries

end EventLog.Toml
