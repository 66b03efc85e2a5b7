/-
**Files.**

A path is followed part by part: whatever has a part behind it must be a directory, and `..` leads
from there to the directory above, whichever way has led to it.

Main definitions:

* `HookBridge.FileError`, `HookBridge.FileError.message` — why a file cannot be used;
* `HookBridge.Path.parent?`, `HookBridge.Path.ancestors` — the paths above a path;
* `HookBridge.Files`, `HookBridge.Files.locate` — the files of a machine, and where a path leads;
* `HookBridge.Files.read`, `HookBridge.Files.readText` — the content of a file;
* `HookBridge.Files.openLog` — a file to write to, made together with the directories it needs;
* `HookBridge.Files.append` — writes to the end of a file.
-/

import HookBridge.Text.Utf8

set_option relaxedAutoImplicit false
set_option autoImplicit false

namespace HookBridge

/-! ### Failures -/

/-- Why a file cannot be used. -/
inductive FileError
  | notFound
  | alreadyExists
  | notDirectory
  | isDirectory
  | nameTooLong
  | nulInName
  | notText
  deriving DecidableEq, Repr

namespace FileError

/-- A failure that the system reports: its number, its kind, and its words. -/
def system (code : Nat) (kind words : String) : String :=
  "Os \x7b code: " ++ toString code ++ ", kind: " ++ kind ++ ", message: \"" ++ words ++ "\" \x7d"

/-- A failure that is found without the system. -/
def own (kind words : String) : String :=
  "Error \x7b kind: " ++ kind ++ ", message: \"" ++ words ++ "\" \x7d"

/-- The words for a failure. -/
def message : FileError → String
  | notFound => system 2 "NotFound" "No such file or directory"
  | alreadyExists => system 17 "AlreadyExists" "File exists"
  | notDirectory => system 20 "NotADirectory" "Not a directory"
  | isDirectory => system 21 "IsADirectory" "Is a directory"
  | nameTooLong => system 36 "InvalidFilename" "File name too long"
  | nulInName => own "InvalidInput" "file name contained an unexpected NUL byte"
  | notText => own "InvalidData" "stream did not contain valid UTF-8"

end FileError

/-! ### Paths -/

namespace Path

/-- The longest name of a file, in bytes. -/
def nameLimit : Nat := 255

/-- The longest path, in bytes. -/
def pathLimit : Nat := 4095

/-- The parts of a path between its slashes. -/
def parts (path : String) : List String :=
  (path.toList.splitOnP (· == '/')).map String.ofList

/-- A part that leads nowhere. -/
def isIdle (part : String) : Bool := part == "" || part == "."

/-- Parts without the idle ones at their end. -/
def trim (parts : List String) : List String := (parts.reverse.dropWhile isIdle).reverse

/-- The path above a path from the root on, from the parts behind the first slash. -/
def parentFromRoot? (parts : List String) : Option String :=
  match trim parts with
  | [] => none
  | trimmed => some ("/" ++ "/".intercalate (trim trimmed.dropLast))

/-- The path above a path from the working directory on.  A dot in front is a part like others. -/
def parentFromHere? (parts : List String) : Option String :=
  match trim parts with
  | [] => if parts.head? = some "." then some "" else none
  | trimmed =>
      match trim trimmed.dropLast with
      | [] => some (if trimmed.dropLast.isEmpty then "" else ".")
      | above => some ("/".intercalate above)

/-- The path above a path: its last part does not count, nor do idle parts at the end. -/
def parent? (path : String) : Option String :=
  match parts path with
  | "" :: part :: rest => parentFromRoot? (part :: rest)
  | parts => parentFromHere? parts

/-- The paths above a path, the nearest first, at most as many as the first argument says. -/
def ancestorsUpTo : Nat → String → List String
  | 0, _ => []
  | n + 1, path =>
      match parent? path with
      | none => []
      | some above => above :: ancestorsUpTo n above

/-- The paths above a path, the nearest first. -/
def ancestors (path : String) : List String := ancestorsUpTo (parts path).length path

/-- The path is written as that of a directory. -/
def isOfDirectory (path : String) : Bool := path.toList.getLast? == some '/'

/-- What is wrong with a path, whatever files there are. -/
def fault? (path : String) : Option FileError :=
  if path = "" then some .notFound
  else if path.toList.contains '\x00' then some .nulInName
  else if pathLimit < path.utf8ByteSize then some .nameTooLong
  else none

/-- The places that parts pass if they are all there, from a place on. -/
def passed (here : List String) : List String → List (List String)
  | [] => []
  | part :: rest =>
      if isIdle part then passed here rest
      else if part = ".." then passed here.dropLast rest
      else (here ++ [part]) :: passed (here ++ [part]) rest

end Path

/-! ### Files -/

/-- What stands at a place. -/
inductive FileNode
  | directory
  | regular (content : Bytes)
  /-- it is always empty, and takes whatever is written to it -/
  | null
  deriving DecidableEq, Repr

/-- The files of a machine.  A place is given by the names that lead to it from the root, and the root
is always there. -/
structure Files where
  /-- where paths begin that do not begin at the root -/
  workingDirectory : List String
  nodes : List (List String × FileNode)
  deriving DecidableEq, Repr

/-- Where a path leads: to the directory itself, or to what it has under a name. -/
structure Location where
  directory : List String
  name : Option String
  deriving DecidableEq, Repr

namespace Files

/-- A machine with no files. -/
def empty : Files := ⟨[], []⟩

/-- What stands at a place. -/
def node? (fs : Files) (place : List String) : Option FileNode :=
  if place.isEmpty then some .directory else fs.nodes.lookup place

/-- Puts something at a place. -/
def put (fs : Files) (place : List String) (node : FileNode) : Files :=
  { fs with nodes := (place, node) :: fs.nodes.filter (·.1 != place) }

/-- Where a path begins. -/
def origin (fs : Files) (path : String) : List String :=
  if path.toList.head? = some '/' then [] else fs.workingDirectory

/-- Follows parts from a directory on; each has to lead to a directory. -/
def walk (fs : Files) (here : List String) : List String → Except FileError (List String)
  | [] => .ok here
  | part :: rest =>
      if Path.isIdle part then fs.walk here rest
      else if part = ".." then fs.walk here.dropLast rest
      else if Path.nameLimit < part.utf8ByteSize then .error .nameTooLong
      else
        match fs.node? (here ++ [part]) with
        | some .directory => fs.walk (here ++ [part]) rest
        | some _ => .error .notDirectory
        | none => .error .notFound

/-- Where a path leads.  Slashes at its end do not count. -/
def locate (fs : Files) (path : String) : Except FileError Location :=
  match Path.fault? path, ((Path.parts path).reverse.dropWhile (· == "")) with
  | some e, _ => .error e
  | none, [] => .ok ⟨fs.origin path, none⟩
  | none, last :: above =>
      match fs.walk (fs.origin path) above.reverse with
      | .error e => .error e
      | .ok here =>
          if last = "." then .ok ⟨here, none⟩
          else if last = ".." then .ok ⟨here.dropLast, none⟩
          else .ok ⟨here, some last⟩

/-- What stands under a name of a directory. -/
def entry? (fs : Files) (directory : List String) (name : String) :
    Except FileError (Option FileNode) :=
  if Path.nameLimit < name.utf8ByteSize then .error .nameTooLong
  else .ok (fs.node? (directory ++ [name]))

/-! ### Reading -/

/-- The content of a file. -/
def read (fs : Files) (path : String) : Except FileError Bytes := do
  let location ← fs.locate path
  match location.name with
  | none => .error .isDirectory
  | some name =>
      match ← fs.entry? location.directory name with
      | none => .error .notFound
      | some .directory => .error .isDirectory
      | some (.regular content) =>
          if Path.isOfDirectory path then .error .notDirectory else .ok content
      | some .null => if Path.isOfDirectory path then .error .notDirectory else .ok []

/-- The text of a file. -/
def readText (fs : Files) (path : String) : Except FileError String :=
  match fs.read path with
  | .error e => .error e
  | .ok content =>
      match Utf8.decode? content with
      | some text => .ok text
      | none => .error .notText

/-! ### Writing -/

/-- A path leads to a directory. -/
def isDirectory (fs : Files) (path : String) : Bool :=
  match fs.locate path with
  | .error _ => false
  | .ok ⟨_, none⟩ => true
  | .ok ⟨directory, some name⟩ => fs.node? (directory ++ [name]) == some .directory

/-- Makes a directory where there is nothing. -/
def makeDirectory (fs : Files) (path : String) : Except FileError Files := do
  let location ← fs.locate path
  match location.name with
  | none => .error .alreadyExists
  | some name =>
      match ← fs.entry? location.directory name with
      | none => .ok (fs.put (location.directory ++ [name]) .directory)
      | some _ => .error .alreadyExists

/-- Makes a directory unless there is one. -/
def ensureDirectory (fs : Files) (path : String) : Except FileError Files :=
  match fs.makeDirectory path with
  | .ok fs => .ok fs
  | .error e => if fs.isDirectory path then .ok fs else .error e

/-- Makes the first of several directories, each of which is in the next one, and those after it as
far as they are missing. -/
def ensureDirectories (fs : Files) : List String → Except FileError Files
  | [] => .ok fs
  | path :: above =>
      if path = "" then .ok fs
      else
        match fs.ensureDirectory path with
        | .error .notFound => do
            let fs ← fs.ensureDirectories above
            fs.ensureDirectory path
        | result => result

/-- Opens a file to write to its end, and makes it if it is missing. -/
def openAppend (fs : Files) (path : String) : Except FileError Files := do
  let location ← fs.locate path
  match location.name with
  | none => .error .isDirectory
  | some name =>
      if Path.isOfDirectory path then .error .isDirectory
      else
        match ← fs.entry? location.directory name with
        | none => .ok (fs.put (location.directory ++ [name]) (.regular []))
        | some .directory => .error .isDirectory
        | some _ => .ok fs

/-- Opens a file to write to its end.  The file and the directories above it are made if they are
missing. -/
def openLog (fs : Files) (path : String) : Except FileError Files := do
  let fs ← fs.ensureDirectories (Path.ancestors path)
  fs.openAppend path

/-- Writes to the end of a file, if there is one. -/
def append (fs : Files) (path : String) (bytes : Bytes) : Files :=
  match fs.locate path with
  | .ok ⟨directory, some name⟩ =>
      match fs.node? (directory ++ [name]) with
      | some (.regular content) => fs.put (directory ++ [name]) (.regular (content ++ bytes))
      | _ => fs
  | _ => fs

end Files

end HookBridge
