/-
**TOML documents.**

A document is a list of lines: empty ones, headers, and keys with their values.  A key belongs to the
table of the last header above it.

Main definitions:

* `HookBridge.Toml.readValue` — a value, with brackets nested up to a given depth;
* `HookBridge.Toml.Line`, `HookBridge.Toml.lines?` — the lines of a document;
* `HookBridge.Toml.ofLines?` — the table that lines make;
* `HookBridge.Toml.parse?` — the table of a document.
-/

import HookBridge.Toml.Table

set_option relaxedAutoImplicit false
set_option autoImplicit false

namespace HookBridge

namespace Toml

/-! ### Values -/

/-- Reads the items of an array behind its bracket, at most as many as the second argument says.
The last item may have a comma behind it. -/
def readItems (item : Reader Node) : Nat → Reader (List Node)
  | 0, _ => none
  | n + 1, cs =>
      match skipLines false cs with
      | ']' :: rest => some ([], rest)
      | cs =>
          match item cs with
          | none => none
          | some (x, rest) =>
              match skipLines false rest with
              | ',' :: rest => (readItems item n rest).map fun (xs, rest) => (x :: xs, rest)
              | ']' :: rest => some ([x], rest)
              | _ => none

/-- Reads a key, its `=` and its value, with any blanks around each. -/
def readEntry (value : Reader Node) : Reader (List String × Node) := fun cs =>
  match readPath cs with
  | some (path, '=' :: rest) =>
      (value (skipBlanks rest)).map fun (v, rest) => ((path, v), skipBlanks rest)
  | _ => none

/-- Adds a key of a line, whose parts are given in order, with its value. -/
def Entries.assignPath (entry : List String × Node) (es : Entries) : Option Entries :=
  match entry.1.getLast? with
  | some key => es.assign key entry.2 entry.1.dropLast
  | none => none

/-- Adds a key between braces, whose parts are given in order, with its value. -/
def Entries.assignPathInBraces (entry : List String × Node) (es : Entries) : Option Entries :=
  match entry.1.getLast? with
  | some key => es.assignInBraces key entry.2 entry.1.dropLast
  | none => none

/-- Reads the entries of a table behind its brace.  They stand on one line, and the last has no comma
behind it. -/
def readBraces (value : Reader Node) : Reader Node := fun cs =>
  match skipBlanks cs with
  | '\x7d' :: rest => some (.table .braces [], rest)
  | cs =>
      match readSeparated (readEntry value) ',' (cs.length + 1) cs with
      | some (entries, '\x7d' :: rest) =>
          (entries.foldlM (fun es e => Entries.assignPathInBraces e es) []).map fun es =>
            (.table .braces es, rest)
      | _ => none

/-- Reads a value with brackets nested up to `depth`. -/
def readValue : Nat → Reader Node
  | 0, cs => (readScalar cs).map fun (s, rest) => (.scalar s, rest)
  | depth + 1, cs =>
      match cs with
      | '[' :: rest =>
          (readItems (readValue depth) (rest.length + 1) rest).map fun (xs, rest) =>
            (.array xs, rest)
      | '\x7b' :: rest => readBraces (readValue depth) rest
      | _ => (readScalar cs).map fun (s, rest) => (.scalar s, rest)

/-- How deep brackets may be nested. -/
def depthLimit : Nat := 127

/-! ### Lines -/

/-- A line that is not empty. -/
inductive Line
  /-- a header `[path]` -/
  | table (path : List String)
  /-- a header `[[path]]` -/
  | element (path : List String)
  /-- a key with its value -/
  | entry (path : List String) (value : Node)

/-- Reads a line that is not empty, but not its end. -/
def readLine : Reader Line
  | '[' :: '[' :: rest =>
      match readPath rest with
      | some (path, ']' :: ']' :: rest) => some (.element path, rest)
      | _ => none
  | '[' :: rest =>
      match readPath rest with
      | some (path, ']' :: rest) => some (.table path, rest)
      | _ => none
  | cs => (readEntry (readValue depthLimit) cs).map fun ((path, v), rest) => (.entry path v, rest)

/-- The lines of a text, at most as many as the first argument says. -/
def readLines : Nat → List Char → Option (List Line)
  | 0, _ => none
  | n + 1, cs =>
      match lineEnd? cs with
      | some [] => some []
      | some rest => readLines n rest
      | none =>
          match readLine (skipBlanks cs) with
          | none => none
          | some (line, rest) =>
              match lineEnd? rest with
              | some rest => (readLines n rest).map (line :: ·)
              | none => none

/-- The lines of a document.  A byte order mark in front is dropped. -/
def lines? (cs : List Char) : Option (List Line) :=
  let cs := if cs.head? = some '\ufeff' then cs.tail else cs
  readLines (cs.length + 1) cs

/-! ### Documents -/

/-- What a document says so far: its table, and the path of the last header. -/
structure Draft where
  root : Entries
  path : List String

/-- Takes one more line to a document. -/
def Draft.add? (d : Draft) : Line → Option Draft
  | .table path =>
      match path.getLast? with
      | some key => (d.root.openTable path.dropLast key).map fun root => ⟨root, path⟩
      | none => none
  | .element path =>
      match path.getLast? with
      | some key => (d.root.openElement path.dropLast key).map fun root => ⟨root, path⟩
      | none => none
  | .entry path v =>
      (d.root.within (Entries.assignPath (path, v)) d.path).map fun root => ⟨root, d.path⟩

/-- The table that lines make. -/
def ofLines? (lines : List Line) : Option Entries :=
  (lines.foldlM Draft.add? ⟨[], []⟩).map (·.root)

/-- The table of a document. -/
def parse? (text : String) : Option Entries :=
  match lines? text.toList with
  | some lines => ofLines? lines
  | none => none

end Toml

end HookBridge
