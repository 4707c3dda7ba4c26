/-
  Horizon.Document.Toml.Tree
  ──────────────────────────
  **TABLES UNDER CONSTRUCTION.**

  The entries of a TOML text arrive one by one and under headers in any order.  Until the
  text ends, a table remembers how it came about, for that decides what may still be added
  to it: a table may be opened by a header once, a table that only headers of its
  subtables mentioned may be opened later, and a table that dotted keys made may only grow
  by dotted keys.  Adding a name twice is refused everywhere.
-/
import Horizon.Document

namespace Horizon.Toml

/-! ## §1. Items. -/

/-- How a table came about. -/
inductive Origin where
  /-- Opened by a header of its own, or written in one piece. -/
  | header
  /-- Mentioned by the header of a subtable. -/
  | implied
  /-- Made by a dotted key. -/
  | dotted
  deriving Repr, DecidableEq

/-- An entry under construction. -/
inductive Item where
  /-- A finished value. -/
  | leaf (value : Document)
  /-- A table. -/
  | table (origin : Origin) (entries : List (String × Item))
  /-- A list of tables that headers open one after another. -/
  | tables (rows : List (List (String × Item)))
  deriving Inhabited

/-- Entries under construction, in the order of their making. -/
abbrev Entries := List (String × Item)

/-- The item of a name. -/
def lookup (name : String) (entries : Entries) : Option Item :=
  (entries.find? (·.1 == name)).map (·.2)

/-- Put another item in the place of the one of that name. -/
def replace (name : String) (item : Item) (entries : Entries) : Entries :=
  entries.map fun entry => if entry.1 == name then (name, item) else entry

/-- Change the last of some rows. -/
def changeLast (rows : List Entries) (change : Entries → Option Entries) :
    Option (List Entries) := do
  let last ← rows.getLast?
  some (rows.dropLast ++ [← change last])

/-- Change the table at the end of a path, making tables on the way.  The path of a
dotted key may not lead through a table that a header opened. -/
def alter (dottedPath : Bool) (change : Origin → Entries → Option Entries) :
    (path : List String) → Origin → Entries → Option Entries
  | [], origin, entries => change origin entries
  | name :: path, _, entries =>
    match lookup name entries with
    | none => do
      let made := if dottedPath then Origin.dotted else .implied
      let new ← alter dottedPath change path made []
      some (entries ++ [(name, .table made new)])
    | some (.leaf _) => none
    | some (.table origin old) =>
      if dottedPath && origin = .header then none
      else do
        let new ← alter dottedPath change path origin old
        some (replace name (.table origin new) entries)
    | some (.tables rows) => do
      let rows ← changeLast rows (alter dottedPath change path .header)
      some (replace name (.tables rows) entries)

/-! ## §2. Additions. -/

/-- Add an entry whose name is new. -/
def addNew (name : String) (item : Item) (entries : Entries) : Option Entries :=
  if (lookup name entries).isSome then none else some (entries ++ [(name, item)])

/-- Add a value at a key of one or more parts.  Behind the dots of a key there must be a
table that dotted keys made. -/
def addValue (path : List String) (name : String) (value : Document) (entries : Entries) :
    Option Entries :=
  alter true
    (fun origin entries =>
      if (origin == .dotted) == path.isEmpty then none else addNew name (.leaf value) entries)
    path .header entries

/-- The whole of a document under construction: the finished part, and the table that
entries are being added to, which takes its place when the next header comes. -/
structure Draft where
  /-- Everything but the open table. -/
  finished : Entries := []
  /-- The path of the open table; the empty path is the document itself. -/
  path : List String := []
  /-- The open table is a row of a list of tables. -/
  isRow : Bool := false
  /-- The entries of the open table. -/
  opened : Entries := []

namespace Draft

/-- Put the open table in its place. -/
def close (draft : Draft) : Option Entries :=
  match draft.path.getLast? with
  | none => some draft.opened
  | some name =>
    alter false
      (fun _ entries =>
        if draft.isRow then
          match lookup name entries with
          | none => some (entries ++ [(name, .tables [draft.opened])])
          | some (.tables rows) => some (replace name (.tables (rows ++ [draft.opened])) entries)
          | some _ => none
        else addNew name (.table .header draft.opened) entries)
      draft.path.dropLast .header draft.finished

/-- Take a table that subtables mentioned out of the entries, to go on with it. -/
def reopen (name : String) (entries : Entries) : Option (Entries × Entries) :=
  match lookup name entries with
  | none => some (entries, [])
  | some (.table .implied old) => some (entries.filter (·.1 != name), old)
  | some _ => none

/-- Open a table by its header. -/
def openTable (draft : Draft) (path : List String) : Option Draft := do
  let finished ← draft.close
  let name ← path.getLast?
  let parent ← alter false (fun _ entries => (reopen name entries).map (·.1)) path.dropLast
    .header finished
  let opened ← carried path.dropLast name finished
  some { finished := parent, path, isRow := false, opened }
where
  /-- The entries that a table to be opened already has. -/
  carried (parents : List String) (name : String) (entries : Entries) : Option Entries :=
    match parents with
    | [] => (reopen name entries).map (·.2)
    | parent :: parents =>
      match lookup parent entries with
      | none => some []
      | some (.leaf _) => none
      | some (.table _ inner) => carried parents name inner
      | some (.tables rows) => (rows.getLast?).bind (carried parents name)

/-- Open the next row of a list of tables by its header. -/
def openRow (draft : Draft) (path : List String) : Option Draft := do
  let finished ← draft.close
  let name ← path.getLast?
  let finished ←
    alter false
      (fun _ entries =>
        match lookup name entries with
        | none => some (entries ++ [(name, .tables [])])
        | some (.tables _) => some entries
        | some _ => none)
      path.dropLast .header finished
  some { finished, path, isRow := true, opened := [] }

/-- Add a value to the open table. -/
def add (draft : Draft) (path : List String) (name : String) (value : Document) :
    Option Draft := do
  some { draft with opened := ← addValue path name value draft.opened }

end Draft

/-! ## §3. Finished documents. -/

mutual

/-- The item as a document. -/
def Item.document : Item → Document
  | .leaf value => value
  | .table _ entries => .table (entryDocuments entries)
  | .tables rows => .rows (rowDocuments rows)

/-- Entries as documents. -/
def entryDocuments : List (String × Item) → List (String × Document)
  | [] => []
  | (name, item) :: entries => (name, item.document) :: entryDocuments entries

/-- Rows as documents. -/
def rowDocuments : List (List (String × Item)) → List Document
  | [] => []
  | row :: rows => .table (entryDocuments row) :: rowDocuments rows

end

end Horizon.Toml
