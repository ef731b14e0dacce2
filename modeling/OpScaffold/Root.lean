import OpScaffold.Failure
import OpScaffold.Files.Tree

/-!
# OpScaffold.Root

The root of a crate: the directory that holds its manifest. It is given, or found from the place of
the generator's script, which lies one or two directories below it.
-/

namespace OpScaffold.Root

/-- The manifest of a root. -/
def marker (root : Path) : Path := root.child Failure.rootMarker

/-- The root, if its manifest is a file. -/
def check (t : FileTree) (root : Path) : Except Failure Path :=
  match t.isFile? (marker root) with
  | .error e => .error (.file e)
  | .ok true => .ok root
  | .ok false => .error (.notARoot root)

/-- The first directory of a list that holds a manifest. -/
def firstWithMarker (t : FileTree) : List Path → Except Failure Path
  | [] => .error .rootNotFound
  | root :: rest =>
    match t.exists? (marker root) with
    | .error e => .error (.file e)
    | .ok true => .ok root
    | .ok false => firstWithMarker t rest

/-- The root of the crate that a script belongs to; the script's path starts at the root of the
tree. -/
def find (t : FileTree) (script : Path) : Except Failure Path :=
  let above := (Path.parent { script with parts := Path.collapse script.parts }).parent
  firstWithMarker t [above, above.parent]

end OpScaffold.Root
