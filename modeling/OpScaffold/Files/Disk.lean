import OpScaffold.Failure
import OpScaffold.Files.Tree

/-!
# OpScaffold.Files.Disk

A disk: a tree of files on which putting a file in its place may fail. A file is written through a
temporary sibling that then replaces it, so a reader never sees half of it; if the system refuses
that the sibling is removed again. A raw text that cannot be encoded leaves its sibling behind,
empty.
-/

namespace OpScaffold

/-- The text of a file. -/
def FileTree.readText (t : FileTree) (p : Path) : Except Failure Text :=
  match t.read p with
  | .error e => .error (.file e)
  | .ok bytes =>
    match Utf8.decode bytes with
    | .error e => .error (.undecodable e)
    | .ok text => .ok text

/-- A tree of files; `replacements` counts the attempts to put a file in its place, and those with
the numbers in `refused` fail. -/
structure Disk where
  tree : FileTree
  replacements : Nat := 0
  refused : List Nat := []
  deriving DecidableEq, Repr

namespace Disk

/-- An action on a disk. -/
abbrev Action := EStateM FileError Disk

/-- Asks the tree. -/
def ask {α : Type} (question : FileTree → Except FileError α) : Action α := do
  MonadExcept.ofExcept (question (← get).tree)

/-- Changes the tree. -/
def change (f : FileTree → Except FileError FileTree) : Action Unit := do
  let tree ← ask f
  modify fun d => { d with tree }

/-- Makes a directory; one that is there already is as good. -/
def ensureDirectory (p : Path) : Action Unit := do
  try change (·.makeDirectory p)
  catch e =>
    if e.isFromSystem && (← ask (·.isDirectory? p)) then pure () else throw e

/-- Makes the directory reached by `parts` from an origin and, where they are missing, the
directories above it; the last part comes first. -/
def ensureReversed (origin : Origin) : (parts : List Text) → Action Unit
  | [] => ensureDirectory ⟨origin, []⟩
  | name :: above => do
    let p : Path := ⟨origin, (name :: above).reverse⟩
    try change (·.makeDirectory p)
    catch
      | .refused .noEntry _ => do
        ensureReversed origin above
        ensureDirectory p
      | e => if e.isFromSystem && (← ask (·.isDirectory? p)) then pure () else throw e

/-- Makes a directory and, where they are missing, the directories above it. -/
def ensureDirectories (p : Path) : Action Unit := ensureReversed p.origin p.parts.reverse

/-- Puts the file `source` in the place of `target`. -/
def replace (source target : Path) : Action Unit := do
  let d ← get
  set { d with replacements := d.replacements + 1 }
  if d.refused.contains d.replacements then throw .diskFull
  else change (·.replace source target)

/-- Removes a file, if there is one. -/
def unlinkIfThere (p : Path) : Action Unit := do
  try change (·.unlink p)
  catch
    | .refused .noEntry _ => pure ()
    | e => throw e

/-- Opens a file for writing, which empties it, and writes a text to it if that can be encoded. -/
def writeText (p : Path) (text : RawText) : Action Unit := do
  match Utf8.encodeRaw text with
  | .ok bytes => change (·.write p bytes)
  | .error e =>
    change (·.write p [])
    throw (.unencodable e)

/-- Writes a text to the file `sibling` and puts it in the place of `p`. -/
def writeThrough (sibling p : Path) (text : RawText) : Action Unit := do
  writeText sibling text
  let _ ← ask (·.exists? p)
  replace sibling p

/-- Fails, with the sibling removed if the system refused a step; should that fail too its error
counts. -/
def abandon (sibling : Path) (e : FileError) : Action Unit := do
  if e.isFromSystem then unlinkIfThere sibling
  throw e

/-- Writes a file through its temporary sibling. -/
def write (p : Path) (text : RawText) : Action Unit := do
  ensureDirectories p.parent
  match p.sibling? with
  | none => throw (.noName p)
  | some sibling =>
    try writeThrough sibling p text
    catch e => abandon sibling e

end Disk

end OpScaffold
