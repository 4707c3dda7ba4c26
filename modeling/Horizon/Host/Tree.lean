/-
  Horizon.Host.Tree
  ─────────────────
  **A MACHINE IN MEMORY.**

  Files are looked up from a working directory, component by component.  An empty
  component and `.` stay, `..` goes up, and none of them is possible from a file.  Behind
  a leading slash there is what every system has, some directories and the null device,
  and outside of the working directory there is nothing else.
-/
import Horizon.Host
import Horizon.Text.Blank

namespace Horizon

/-! ## §1. Files. -/

/-- Files below the working directory: for each path, by its components, the contents of a
file, or nothing for a directory.  Directories on the way to a path need not be listed. -/
structure FileTree where
  /-- The paths. -/
  entries : List (List String × Option ByteArray)

namespace FileTree

/-- Where a path leads. -/
inductive Place where
  /-- A directory, by its components. -/
  | directory (path : List String)
  /-- A file with its contents. -/
  | file (contents : ByteArray)
  /-- A directory of the system, by its components from the root. -/
  | system (path : List String)
  /-- A directory above the working directory. -/
  | outside

/-- The components of a path. -/
def components (path : String) : List String :=
  (Text.splitOn '/' path.toList).map String.ofList

/-- The greatest length of a component in bytes. -/
def nameLimit : Nat := 255

/-- The greatest length of a path in bytes. -/
def pathLimit : Nat := 4095

/-- The directories that every system has. -/
def systemDirectories : List (List String) := [["dev"], ["etc"], ["tmp"], ["usr"]]

/-- The file that is always empty. -/
def nullDevice : List String := ["dev", "null"]

/-- What the system has at a path from the root. -/
def lookupSystem (path : List String) : Except ReadFault Place :=
  if path = nullDevice then .ok (.file .empty)
  else if systemDirectories.contains path then .ok (.system path)
  else .error .notFound

/-- What the tree has at a path. -/
def lookup (tree : FileTree) (path : List String) : Except ReadFault Place :=
  match tree.entries.find? fun entry => path.isPrefixOf entry.1 with
  | none => .error .notFound
  | some (found, contents) =>
    match contents with
    | some bytes => .ok (if found = path then .file bytes else .directory path)
    | none => .ok (.directory path)

/-- Follow one component. -/
def step (tree : FileTree) (place : Place) (component : String) : Except ReadFault Place :=
  match place with
  | .file _ => .error .notDirectory
  | .outside =>
    if component = "" ∨ component = "." ∨ component = ".." then .ok .outside
    else if nameLimit < component.utf8ByteSize then .error .nameTooLong
    else .error .notFound
  | .system path =>
    if component = "" ∨ component = "." then .ok place
    else if component = ".." then .ok (.system path.dropLast)
    else if nameLimit < component.utf8ByteSize then .error .nameTooLong
    else lookupSystem (path ++ [component])
  | .directory path =>
    if component = "" ∨ component = "." then .ok place
    else if component = ".." then
      .ok (if path.isEmpty then .outside else .directory path.dropLast)
    else if nameLimit < component.utf8ByteSize then .error .nameTooLong
    else tree.lookup (path ++ [component])

/-- Follow a path; one that starts with a slash leaves the working directory. -/
def resolve (tree : FileTree) (path : String) : Except ReadFault Place :=
  if path.isEmpty then .error .notFound
  else if pathLimit < path.utf8ByteSize then .error .nameTooLong
  else
    (components path).foldlM tree.step
      (if path.toList.head? = some '/' then .system [] else .directory [])

/-- There is something at a path. -/
def present (tree : FileTree) (path : String) : Bool :=
  (tree.resolve path).toOption.isSome

/-- The contents of the file at a path. -/
def contents (tree : FileTree) (path : String) : Except ReadFault ByteArray :=
  match tree.resolve path with
  | .error fault => .error fault
  | .ok (.file bytes) => .ok bytes
  | .ok (.directory _) => .error .isDirectory
  | .ok (.system _) => .error .isDirectory
  | .ok .outside => .error .isDirectory

end FileTree

/-! ## §2. The machine. -/

/-- What was written so far. -/
structure Transcript where
  /-- The standard output. -/
  output : String := ""
  /-- The lines of the log. -/
  log : Array String := #[]
  deriving Repr, DecidableEq, Inhabited

/-- A machine with the given files and environment variables. -/
def Host.ofTree (tree : FileTree) (environment : List (String × String)) :
    Host (StateM Transcript) where
  setting name := pure ((environment.find? (·.1 == name)).map (·.2))
  present path := pure (tree.present path)
  contents path := pure (tree.contents path)
  print text := modify fun transcript => { transcript with output := transcript.output ++ text }
  note line := modify fun transcript => { transcript with log := transcript.log.push line }

end Horizon
