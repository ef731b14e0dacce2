import OpScaffold.Text.Utf8

/-!
# OpScaffold.Files.Path

Paths of files. A path is relative or starts at the root, and has components; components that are
empty or a single point are dropped as it is read, two points are kept. A path that starts with
exactly two slashes keeps both of them.
-/

namespace OpScaffold

/-- Where a path starts. -/
inductive Origin
  | here
  | root
  | doubleRoot
  deriving DecidableEq, Repr

/-- A path. -/
structure Path where
  origin : Origin := .here
  parts : List Text
  deriving DecidableEq, Repr

namespace Path

/-- Whether a part of a text is a component of the path. -/
def isComponent (part : Text) : Bool := !part.isEmpty && part != ['.']

/-- Where the path that a text spells starts. -/
def originOf : Text → Origin
  | '/' :: '/' :: '/' :: _ => .root
  | '/' :: '/' :: _ => .doubleRoot
  | '/' :: _ => .root
  | _ => .here

/-- The path that a text spells. -/
def ofText (t : Text) : Path := ⟨originOf t, (t.pieces '/').filter isComponent⟩

/-- The slashes at the start of a path. -/
def originText : Origin → Text
  | .here => []
  | .root => ['/']
  | .doubleRoot => ['/', '/']

/-- A path as text; the empty path is a point. -/
def toText (p : Path) : Text :=
  if p.origin = .here ∧ p.parts = [] then ['.']
  else originText p.origin ++ Text.join ['/'] p.parts

/-- The path `q` as seen from `p`; if it starts at the root it stands for itself. -/
def join (p q : Path) : Path :=
  if q.origin = .here then { p with parts := p.parts ++ q.parts } else q

/-- The path spelled by `t` as seen from `p`. -/
def child (p : Path) (t : Text) : Path := p.join (ofText t)

/-- The path without its last component. -/
def parent (p : Path) : Path := { p with parts := p.parts.dropLast }

/-- The last component, if there is one. -/
def name? (p : Path) : Option Text := p.parts.getLast?

/-- The path with another last component. -/
def withName (p : Path) (name : Text) : Path := { p with parts := p.parts.dropLast ++ [name] }

/-- The name of the temporary file beside a file. -/
def siblingName (name : Text) : Text := '.' :: name ++ ".new_unary".toList

/-- The temporary file beside a file, which replaces it once it is written. -/
def sibling? (p : Path) : Option Path := p.name?.map fun name => p.withName (siblingName name)

/-- Whether the path holds the character U+0000, which no file name can. -/
def hasNull (p : Path) : Bool := p.parts.any (·.contains (Char.ofNat 0))

/-- The components without points: each pair of points takes away the component before it. -/
def collapse (parts : List Text) : List Text :=
  parts.foldl (fun done part => if part = ['.', '.'] then done.dropLast else done ++ [part]) []

end Path

end OpScaffold
