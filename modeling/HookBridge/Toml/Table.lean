/-
**Tables of a TOML document, and what may be added to them.**

A table comes into being in one of four ways, and that decides what may still be added to it: by a
header, as the parent of what a header names, by a dotted key, or between braces.  A table between
braces is closed with its brace; a header may give a body to a table that was only a parent; a dotted
key on a line goes through tables that no header has named, and may only add to tables that dotted
keys have made.  A dotted key between braces adds to any table between the same braces.

Main definitions:

* `HookBridge.Toml.Node`, `HookBridge.Toml.Entries` — values, and tables as lists of entries;
* `HookBridge.Toml.Entries.get?`, `HookBridge.Toml.Entries.alter?` — an entry, and its change;
* `HookBridge.Toml.Entries.assign` — a key of a line, dotted or not, with its value;
* `HookBridge.Toml.Entries.assignInBraces` — a key between braces, dotted or not, with its value;
* `HookBridge.Toml.Entries.within` — a change of the table that a header names;
* `HookBridge.Toml.Entries.openTable`, `HookBridge.Toml.Entries.openElement` — the two headers.
-/

import HookBridge.Toml.Scalar

set_option relaxedAutoImplicit false
set_option autoImplicit false

namespace HookBridge

namespace Toml

/-- How a table came into being. -/
inductive Origin
  /-- named by a header -/
  | header
  /-- the parent of a table that a header names -/
  | parent
  /-- on the way of a dotted key -/
  | dotted
  /-- written between braces -/
  | braces
  deriving DecidableEq, Repr

/-- A value of a document. -/
inductive Node
  | scalar (s : Scalar)
  | array (items : List Node)
  | table (origin : Origin) (entries : List (String × Node))
  /-- the tables of the headers `[[key]]`, in order -/
  | elements (tables : List (List (String × Node)))
  deriving Repr, Inhabited

/-- The entries of a table in the order of their keys' first appearance. -/
abbrev Entries := List (String × Node)

namespace Entries

/-- The value of a key. -/
def get? (es : Entries) (key : String) : Option Node := (es.find? (·.1 == key)).map (·.2)

/-- Changes the value of a key; `change` is given the old value and may refuse. -/
def alter? (change : Option Node → Option Node) (key : String) : Entries → Option Entries
  | [] => (change none).map fun v => [(key, v)]
  | (k, v) :: rest =>
      if k = key then (change (some v)).map fun v => (k, v) :: rest
      else (alter? change key rest).map fun rest => (k, v) :: rest

/-- Changes the last of several tables. -/
def alterLast? (change : Entries → Option Entries) (tables : List Entries) : Option Node :=
  match tables.getLast? with
  | some last => (change last).map fun last => .elements (tables.dropLast ++ [last])
  | none => none

/-- Adds a key with its value.  A key is given a value once. -/
def add (key : String) (value : Node) (es : Entries) : Option Entries :=
  es.alter? (fun old => if old.isSome then none else some value) key

/-- Adds a key of a line with its value; what stands before the last dot of the key is given apart. -/
def assign (key : String) (value : Node) : List String → Entries → Option Entries
  | [], es => es.add key value
  | k :: path, es =>
      es.alter? (fun
        | none => (assign key value path []).map (.table .dotted)
        | some (.table .dotted sub) => (assign key value path sub).map (.table .dotted)
        | some (.table .parent sub) =>
            if path.isEmpty then none else (assign key value path sub).map (.table .parent)
        | some (.elements tables) =>
            if path.isEmpty then none else alterLast? (assign key value path) tables
        | some _ => none) k

/-- Adds a key between braces with its value; what stands before the last dot of the key is given
apart.  Every table on the way was written between the same braces and is open to it. -/
def assignInBraces (key : String) (value : Node) : List String → Entries → Option Entries
  | [], es => es.add key value
  | k :: path, es =>
      es.alter? (fun
        | none => (assignInBraces key value path []).map (.table .braces)
        | some (.table origin sub) => (assignInBraces key value path sub).map (.table origin)
        | some _ => none) k

/-- Changes the table at a path.  On the way, missing tables are made as parents, and of the tables
of `[[key]]` headers the last is meant. -/
def within (change : Entries → Option Entries) : List String → Entries → Option Entries
  | [], es => change es
  | k :: path, es =>
      es.alter? (fun
        | none => (within change path []).map (.table .parent)
        | some (.table .braces _) => none
        | some (.table origin sub) => (within change path sub).map (.table origin)
        | some (.elements tables) => alterLast? (within change path) tables
        | some _ => none) k

/-- Opens the table of a header `[path.key]`. -/
def openTable (path : List String) (key : String) : Entries → Option Entries :=
  within (fun es => es.alter? (fun
    | none => some (.table .header [])
    | some (.table .parent sub) => some (.table .header sub)
    | some _ => none) key) path

/-- Opens one more table by a header `[[path.key]]`. -/
def openElement (path : List String) (key : String) : Entries → Option Entries :=
  within (fun es => es.alter? (fun
    | none => some (.elements [[]])
    | some (.elements tables) => some (.elements (tables ++ [[]]))
    | some _ => none) key) path

end Entries

end Toml

end HookBridge
