import OpScaffold.Files.Disk

/-!
# OpScaffold.Changes

Changes to files: the new texts, in the order in which they are to be written. A path that comes
again keeps its place and takes the later text.

Changes are committed all or not at all. If the system refuses to write a file, those before it get
their old texts back, or are removed if they are new. Raw texts are committed too; one that cannot
be encoded breaks the commit off, like a file whose old text cannot be read.
-/

namespace OpScaffold

/-- New texts of files. -/
abbrev Changes (α : Type := Text) := List (Path × α)

namespace Changes

variable {α : Type}

/-- Changes with their texts as raw ones. -/
def raw (c : Changes) : Changes RawText := c.map fun (path, text) => (path, text.raw)

instance : Coe Changes (Changes RawText) := ⟨raw⟩

@[simp] theorem raw_nil : raw [] = [] := rfl

@[simp] theorem raw_cons (path : Path) (text : Text) (rest : Changes) :
    raw ((path, text) :: rest) = (path, text.raw) :: rest.raw := rfl

@[simp] theorem raw_append (c c' : Changes) : raw (c ++ c') = c.raw ++ c'.raw :=
  List.map_append

/-- The paths stay the same. -/
@[simp] theorem map_fst_raw (c : Changes) : c.raw.map (·.1) = c.map (·.1) := by
  rw [raw, List.map_map]
  rfl

/-- The changes with a new text for a path. -/
def put (path : Path) (text : α) : Changes α → Changes α
  | [] => [(path, text)]
  | (p, t) :: rest => if p = path then (p, text) :: rest else (p, t) :: put path text rest

/-- The path has its new text. -/
theorem lookup_put_self (path : Path) (text : α) (c : Changes α) :
    List.lookup path (c.put path text) = some text := by
  induction c with
  | nil => simp [put]
  | cons e rest ih =>
    obtain ⟨p, t⟩ := e
    by_cases hp : p = path
    · simp [put, hp]
    · have hb : (path == p) = false := by simp [Ne.symm hp]
      simp [put, hp, List.lookup_cons, hb, ih]

/-- Other paths keep their texts. -/
theorem lookup_put_of_ne {path q : Path} (h : q ≠ path) (text : α) (c : Changes α) :
    List.lookup q (c.put path text) = List.lookup q c := by
  have hb : (q == path) = false := by simp [h]
  induction c with
  | nil => simp [put, List.lookup_cons, hb]
  | cons e rest ih =>
    obtain ⟨p, t⟩ := e
    by_cases hp : p = path
    · simp [put, hp, List.lookup_cons, hb]
    · simp [put, hp, List.lookup_cons, ih]

/-- The paths stay in their order; a new one comes last. -/
theorem map_fst_put (path : Path) (text : α) (c : Changes α) :
    (c.put path text).map (·.1) =
      c.map (·.1) ++ (if path ∈ c.map (·.1) then [] else [path]) := by
  induction c with
  | nil => simp [put]
  | cons e rest ih =>
    obtain ⟨p, t⟩ := e
    by_cases hp : p = path
    · simp [put, hp]
    · have hne : path ≠ p := Ne.symm hp
      simp only [put, hp, if_false, List.map_cons, List.mem_cons, hne, false_or,
        List.cons_append, ih]

/-- The changes that a list of paths and texts makes up. -/
def ofList (changes : List (Path × α)) : Changes α :=
  changes.foldl (fun done (path, text) => done.put path text) []

/-- A file that was written, and its text before; `none` if there was no file. -/
abbrev Written := Path × Option Text

/-- An action on a disk that can fail for any reason. -/
abbrev Commit := EStateM Failure Disk

/-- An action on a disk as part of a commit. -/
def onDisk {α : Type} (action : Disk.Action α) : Commit α := fun d =>
  match action d with
  | .ok a d' => .ok a d'
  | .error e d' => .error (.file e) d'

/-- The text of a file, if there is one. -/
def previousText (path : Path) : Commit (Option Text) := do
  let tree := (← get).tree
  if ← onDisk (Disk.ask (·.exists? path)) then
    return some (← MonadExcept.ofExcept (tree.readText path))
  else return none

/-- Gives a written file its text before; a new file is removed. -/
def undo : Written → Commit Unit
  | (path, none) => onDisk (Disk.change (·.unlink path))
  | (path, some text) => onDisk (Disk.write path text)

/-- Undoes what was written, the last file first. -/
def rollBack : List Written → Commit Unit
  | [] => return
  | w :: rest => do
    undo w
    rollBack rest

/-- Writes changes behind those of `done`, which holds the last one first. -/
def writeAll (done : List Written) : Changes RawText → Commit (List Written)
  | [] => return done.reverse
  | (path, text) :: rest => do
    let previous ← previousText path
    let d ← get
    match Disk.write path text d with
    | .ok () d' =>
      set d'
      writeAll ((path, previous) :: done) rest
    | .error e d' =>
      set d'
      if e.isFromSystem then
        rollBack done
        throw (.notWritten path e done.length)
      else throw (.file e)

/-- Writes all changes or none; the result tells which files were there before. -/
def commit (changes : Changes RawText) : Commit (List Written) := writeAll [] changes

end Changes

end OpScaffold
