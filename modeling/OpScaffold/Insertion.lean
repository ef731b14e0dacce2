import OpScaffold.Changes
import OpScaffold.HostFile.Basic

/-!
# OpScaffold.Insertion

Registering a variant in all host files of a registry. The entries are grouped by their files, in
the order in which the files first appear; each file is read, extended at all its points, and its
new text is noted. Nothing is written.
-/

namespace OpScaffold.Insertion

/-- Entries of one host file. -/
abbrev Group := Text × List Entry

/-- Adds an entry to its group. -/
def addToGroups (entry : Entry) : List Group → List Group
  | [] => [(entry.path, [entry])]
  | (path, entries) :: rest =>
    if path = entry.path then (path, entries ++ [entry]) :: rest
    else (path, entries) :: addToGroups entry rest

/-- The entries by their files. -/
def groups (entries : List Entry) : List Group :=
  entries.foldl (fun done entry => addToGroups entry done) []

/-- The new text of one host file. -/
def newText (t : FileTree) (root : Path) (v : Variant) : Group → Except Failure Text
  | (rel, entries) =>
    match t.isFile? (root.child rel) with
    | .error e => .error (.file e)
    | .ok false => .error (.registry (.missingFile rel))
    | .ok true =>
      match t.readText (root.child rel) with
      | .error e => .error e
      | .ok text =>
        match HostFile.parse rel text entries with
        | .error e => .error e
        | .ok host =>
          match host.register v with
          | .error e => .error e
          | .ok host => .ok host.render

/-- Adds the new texts of host files to changes. -/
def insertGroups (t : FileTree) (root : Path) (v : Variant) (changes : Changes) :
    List Group → Except Failure Changes
  | [] => .ok changes
  | group :: rest =>
    match newText t root v group with
    | .error e => .error e
    | .ok text => insertGroups t root v (changes.put (root.child group.1) text) rest

/-- The new texts of all host files. -/
def insert (t : FileTree) (root : Path) (entries : List Entry) (v : Variant) :
    Except Failure Changes :=
  insertGroups t root v [] (groups entries)

end OpScaffold.Insertion
