import OpScaffold.Session

/-!
# OpScaffold.Guard

The step before any file is edited: the user is warned and asked, then the working tree is reset.
The generator's own script is kept: if it lies below the root its bytes are put back after the
reset, however the reset ends.
-/

namespace OpScaffold.Guard

/-- How a reset is to be guarded. -/
structure Options where
  assumeYes : Bool := false
  reset : Bool := true
  dryRun : Bool := false
  deriving DecidableEq, Repr

/-- Whether a path lies below a root, or is the root. -/
def isBelow (t : FileTree) (root path : Path) : Bool :=
  (t.resolve root).isPrefixOf (t.resolve path)

/-- The script, with its bytes, if it is to be kept. -/
def keptScript (root : Path) (script : Option Path) : Run (Option (Path × Bytes)) := do
  match script with
  | none => return none
  | some script =>
    if !(← Run.askTree (·.isFile? script)) then return none
    else if root.hasNull then throw (.file .nullCharacter)
    else if !isBelow (← Run.tree) root script then return none
    else return some (script, ← Run.askTree (·.read script))

/-- Where a script is put back: into the directory of its name, if there is one now. -/
def restoreTarget (t : FileTree) (script : Path) : Path :=
  match t.isDirectory? script with
  | .ok true => { script with parts := script.parts ++ [script.name?.getD []] }
  | _ => script

/-- Puts a script back. -/
def restore (script : Path) (bytes : Bytes) : Run Unit := do
  let target := restoreTarget (← Run.tree) script
  Run.onDisk (Changes.onDisk (Disk.change (·.write target bytes)))

/-- Runs the reset in the root and puts the script back. -/
def runReset (root : Path) (kept : Option (Path × Bytes)) : Run GitOutcome := do
  let git := (← get).git
  modify fun s => { s with
    resets := s.resets ++ [root], disk := { s.disk with tree := git.reset s.disk.tree } }
  match kept with
  | some (script, bytes) => restore script bytes
  | none => pure ()
  return git.outcome

/-- Warns of the reset and asks whether to go on. -/
def warn (assumeYes : Bool) : Run Unit := do
  Run.print "Warning, this will git reset --hard: all uncommitted changes are lost".toList
  if !assumeYes then
    if !(← Run.confirm "Continue? [y/N] ".toList) then throw .declined

/-- Tells how a reset ended; all but the status 0 is a failure. -/
def tell (root : Path) : GitOutcome → Run Unit
  | .notRun reason => throw (.gitNotRun reason)
  | .ended status report =>
    if status ≠ 0 then throw (.resetFailed report)
    else Run.print ("  Reset: ".toList ++ root.toText)

/-- Resets the working tree. -/
def reset (root : Path) (script : Option Path) : Run Unit := do
  if !(← get).git.isInstalled then throw .gitMissing
  else tell root (← runReset root (← keptScript root script))

/-- Warns, asks, and resets the working tree. -/
def run (root : Path) (script : Option Path) (options : Options) : Run Unit := do
  warn options.assumeYes
  if options.reset then
    if options.dryRun then
      Run.print ("  [dry-run] Would run: git reset --hard in ".toList ++ root.toText)
    else reset root script

end OpScaffold.Guard
