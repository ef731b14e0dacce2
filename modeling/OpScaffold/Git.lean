import OpScaffold.Files.Tree

/-!
# OpScaffold.Git

The version control program as far as it matters here: whether it is installed, what resetting the
working tree does to the files, and how it ends.
-/

namespace OpScaffold

namespace FileTree

/-- The tree with a directory at a location. -/
def ensure (t : FileTree) (l : Location) : FileTree :=
  if t.node? l = some .directory then t else t.put l .directory

/-- The tree with directories at all locations above one. -/
def ensureAbove (t : FileTree) (l : Location) : FileTree :=
  (List.range l.length).foldl (fun t n => t.ensure (l.take n)) t

/-- The tree without a location and all that lies below it. -/
def discard (t : FileTree) (l : Location) : FileTree :=
  { t with nodes := t.nodes.filter fun (m, _) => !l.isPrefixOf m }

/-- The tree with a node at a location and directories above it, in place of what stood there; a
directory that is there already is kept with all that lies in it. -/
def place (t : FileTree) (l : Location) (n : Node) : FileTree :=
  let t := t.ensureAbove l
  if n = .directory && t.node? l = some .directory then t else (t.discard l).put l n

/-- The location that a path names, points and pairs of points resolved without a look at the
tree. -/
def resolve (t : FileTree) (p : Path) : Location := Path.collapse (t.start p ++ p.parts)

end FileTree

/-- How the program ends. -/
inductive GitOutcome
  /-- It could not be run. -/
  | notRun (reason : Text)
  /-- It ended with a status and a report of errors. -/
  | ended (status : Int) (report : Text)
  deriving DecidableEq, Repr

/-- The program: the files and directories that a reset writes and those that it then removes. -/
structure Git where
  isInstalled : Bool := true
  writes : List (Path × Node) := []
  removes : List Path := []
  outcome : GitOutcome := .ended 0 []
  deriving DecidableEq, Repr

/-- What a reset does to the files. -/
def Git.reset (g : Git) (t : FileTree) : FileTree :=
  let written := g.writes.foldl (fun t w => t.place (t.resolve w.1) w.2) t
  g.removes.foldl (fun t p => t.discard (t.resolve p)) written

end OpScaffold
