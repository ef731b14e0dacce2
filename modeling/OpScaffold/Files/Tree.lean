import OpScaffold.Files.Error

/-!
# OpScaffold.Files.Tree

Trees of files and directories. A tree maps locations, which are lists of names from the root
down, to files and directories; the root itself is always a directory. Paths that do not start at
the root start at the directory `here`.

A path is followed name by name, as the system does it: what is not the last name must be a
directory, and two points lead back to the directory above. A name has at most 255 bytes and a
path fewer than 4096.
-/

namespace OpScaffold

/-- A place in a tree: the names on the way from the root. -/
abbrev Location := List Text

/-- What stands at a location. -/
inductive Node
  | directory
  | file (bytes : Bytes)
  deriving DecidableEq, Repr

/-- A tree of files, with the directory from which relative paths start. -/
structure FileTree where
  here : Location
  nodes : List (Location × Node)
  deriving DecidableEq, Repr

namespace FileTree

/-- What stands at a location. -/
def node? (t : FileTree) (l : Location) : Option Node :=
  if l = [] then some .directory else t.nodes.lookup l

/-- The tree with nothing at a location. -/
def erase (t : FileTree) (l : Location) : FileTree :=
  { t with nodes := t.nodes.filter (·.1 != l) }

/-- The tree with a file or directory at a location, in place of what stood there. -/
def put (t : FileTree) (l : Location) (n : Node) : FileTree :=
  { t with nodes := (l, n) :: (t.erase l).nodes }

/-- Whatever stood at a location is gone. -/
theorem node?_erase_self (t : FileTree) {l : Location} (hl : l ≠ []) :
    (t.erase l).node? l = none := by
  simp only [node?, hl, if_false, erase]
  induction t.nodes with
  | nil => rfl
  | cons e rest ih =>
    obtain ⟨k, n⟩ := e
    by_cases hk : k = l
    · simpa [hk] using ih
    · have hl' : (l == k) = false := by simp [Ne.symm hk]
      simpa [hk, List.lookup_cons, hl'] using ih

/-- Other locations are left alone. -/
theorem node?_erase_of_ne (t : FileTree) {l m : Location} (h : m ≠ l) :
    (t.erase l).node? m = t.node? m := by
  simp only [node?, erase]
  congr 1
  induction t.nodes with
  | nil => rfl
  | cons e rest ih =>
    obtain ⟨k, n⟩ := e
    by_cases hk : k = l
    · have hm : (m == k) = false := by simp [hk, h]
      simpa [hk, List.lookup_cons, hk ▸ hm] using ih
    · simp [hk, List.lookup_cons, ih]

/-- What is put at a location stands there. -/
theorem node?_put_self (t : FileTree) {l : Location} (hl : l ≠ []) (n : Node) :
    (t.put l n).node? l = some n := by
  simp [node?, hl, put]

/-- Other locations are left alone. -/
theorem node?_put_of_ne (t : FileTree) {l m : Location} (h : m ≠ l) (n : Node) :
    (t.put l n).node? m = t.node? m := by
  have hm : (m == l) = false := by simp [h]
  rw [← node?_erase_of_ne t h]
  simp [node?, put, List.lookup_cons, hm]

/-- The longest name, in bytes. -/
def nameLimit : Nat := 255

/-- From this number of bytes on a path is too long. -/
def pathLimit : Nat := 4096

/-- The name that leads to the directory above. -/
def above : Text := ['.', '.']

/-- Whether a name is too long. -/
def isLong (name : Text) : Bool := nameLimit < (Utf8.encode name).length

/-- Whether a path is too long. -/
def isLongPath (p : Path) : Bool := pathLimit ≤ (Utf8.encode p.toText).length

/-- Where a path starts. -/
def start (t : FileTree) (p : Path) : Location :=
  if p.origin = .here then t.here else []

/-- Follows names from a location on; every location that is left must be a directory. -/
def follow (t : FileTree) : Location → List Text → Except Refused Location
  | l, [] => .ok l
  | l, name :: rest =>
    match t.node? l with
    | none => .error .noEntry
    | some (.file _) => .error .notDirectory
    | some .directory =>
      if name = above then t.follow l.dropLast rest
      else if isLong name then .error .nameTooLong
      else t.follow (l ++ [name]) rest

/-- What stands at the end of a path. -/
def stat (t : FileTree) (p : Path) : Except Refused (Location × Node) :=
  if isLongPath p then .error .nameTooLong
  else match t.follow (t.start p) p.parts with
    | .error reason => .error reason
    | .ok l => match t.node? l with
      | none => .error .noEntry
      | some n => .ok (l, n)

/-- Where a new entry named by a path would stand, and what stands there; `none` if the path does
not end in a name. -/
def slot (t : FileTree) (p : Path) : Except Refused (Option (Location × Option Node)) :=
  if isLongPath p then .error .nameTooLong
  else match p.name? with
    | none => .ok none
    | some name =>
      match t.follow (t.start p) p.parts with
      | .error reason => .error reason
      | .ok l => .ok (if name = above then none else some (l, t.node? l))

/-! ## Questions -/

/-- What stands at the end of a path, if anything. A path that leads nowhere, or through a file,
leads to nothing; any other refusal is an error. -/
def find? (t : FileTree) (p : Path) : Except FileError (Option Node) :=
  if p.hasNull then .ok none
  else match t.stat p with
    | .ok (_, n) => .ok (some n)
    | .error .noEntry | .error .notDirectory => .ok none
    | .error reason => .error (.refused reason p)

/-- Whether there is anything at the end of a path. -/
def exists? (t : FileTree) (p : Path) : Except FileError Bool :=
  (t.find? p).map Option.isSome

/-- Whether there is a file at the end of a path. -/
def isFile? (t : FileTree) (p : Path) : Except FileError Bool :=
  (t.find? p).map fun n => match n with
    | some (.file _) => true
    | _ => false

/-- Whether there is a directory at the end of a path. -/
def isDirectory? (t : FileTree) (p : Path) : Except FileError Bool :=
  (t.find? p).map (· == some .directory)

/-- The bytes of a file. -/
def read (t : FileTree) (p : Path) : Except FileError Bytes :=
  if p.hasNull then .error .nullCharacter
  else match t.stat p with
    | .ok (_, .file bytes) => .ok bytes
    | .ok (_, .directory) => .error (.refused .isDirectory p)
    | .error reason => .error (.refused reason p)

/-! ## Changes -/

/-- Makes a directory. -/
def makeDirectory (t : FileTree) (p : Path) : Except FileError FileTree :=
  if p.hasNull then .error .nullCharacter
  else match t.slot p with
    | .error reason => .error (.refused reason p)
    | .ok (some (l, none)) => .ok (t.put l .directory)
    | .ok _ => .error (.refused .exists p)

/-- Writes a file, which may exist already. -/
def write (t : FileTree) (p : Path) (bytes : Bytes) : Except FileError FileTree :=
  if p.hasNull then .error .nullCharacter
  else match t.slot p with
    | .error reason => .error (.refused reason p)
    | .ok none | .ok (some (_, some .directory)) => .error (.refused .isDirectory p)
    | .ok (some (l, _)) => .ok (t.put l (.file bytes))

/-- Removes a file. -/
def unlink (t : FileTree) (p : Path) : Except FileError FileTree :=
  if p.hasNull then .error .nullCharacter
  else match t.slot p with
    | .error reason => .error (.refused reason p)
    | .ok none | .ok (some (_, some .directory)) => .error (.refused .isDirectory p)
    | .ok (some (_, none)) => .error (.refused .noEntry p)
    | .ok (some (l, some (.file _))) => .ok (t.erase l)

/-- Puts the file `source` in the place of `target`. -/
def replace (t : FileTree) (source target : Path) : Except FileError FileTree :=
  let refuse := fun reason => .error (.notReplaced reason source target)
  if source.hasNull || target.hasNull then .error .nullCharacter
  else match t.slot source, t.slot target with
    | .error reason, _ => refuse reason
    | _, .error reason => refuse reason
    | .ok none, _ | _, .ok none => refuse .busy
    | .ok (some (l, some (.file bytes))), .ok (some (l', n)) =>
      if n = some .directory then refuse .isDirectory
      else .ok ((t.erase l).put l' (.file bytes))
    | .ok (some (_, some .directory)), .ok (some _) => refuse .notDirectory
    | .ok (some (_, none)), .ok (some _) => refuse .noEntry

end FileTree

end OpScaffold
