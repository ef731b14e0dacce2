import OpScaffold.Exemplar
import OpScaffold.Insertion
import OpScaffold.Registry.Default
import OpScaffold.Registry.Validation
import OpScaffold.Session

/-!
# OpScaffold.Generation

Adding an operator: its registrations and its file are worked out first, then written all at once.
A dry run only tells what would be written. At the end the steps are listed that are left to be
done by hand.
-/

namespace OpScaffold.Generation

/-- Tells for each file whether it would be updated or created. -/
def preview : Changes RawText → Run Unit
  | [] => return
  | (path, _) :: rest => do
    let action :=
      if ← Run.askTree (·.exists? path) then "update".toList else "create".toList
    Run.print ("  [dry-run] Would ".toList ++ action ++ ": ".toList ++ path.toText)
    preview rest

/-- Tells for each written file whether it was updated or created. -/
def report : List Changes.Written → Run Unit
  | [] => return
  | (path, previous) :: rest => do
    let action := if previous.isSome then "Updated".toList else "Created".toList
    Run.print ("  ".toList ++ action ++ ": ".toList ++ path.toText)
    report rest

/-- Writes changes, or tells what would be written. -/
def commit (changes : Changes RawText) (dryRun : Bool) : Run Unit := do
  if dryRun then preview changes
  else report (← Run.onDisk changes.commit)

/-- Works out the new texts of all files: those that register a variant, and its own. -/
def plan (root : Path) (v : Variant) (entries : List Entry) : Run Changes := do
  Run.ofExcept (Registry.validate entries)
  Run.print ("\nAdding unary function: ".toList ++ v.name ++ " (".toList ++ v.upper
    ++ "_OP)".toList)
  let tree ← Run.tree
  let registrations ← Run.ofExcept (Insertion.insert tree root entries v)
  let (target, text) ← Run.ofExcept (Exemplar.standard.instantiate tree root v)
  return registrations.put target text

/-- Adds a variant to the crate; the result holds the new texts of all files. -/
def generate (root : Path) (v : Variant) (entries : List Entry) (dryRun : Bool) :
    Run Changes := do
  let changes ← plan root v entries
  Run.print "\nWriting files:".toList
  commit changes dryRun
  return changes

/-! ## What is left to do -/

/-- The steps that are left after a variant was added. -/
def steps (name : Text) : List Text := [
  "In src/op/".toList ++ name ++ ".rs replace panic_der for forward_der_* and reverse_der_*\n".toList
    ++ "     with ".toList ++ name ++ "_forward_der and ".toList ++ name ++ "_reverse_der".toList,
  "Add a worked example that uses ".toList ++ name ++ " (see examples/)".toList,
  "Add test_".toList ++ name ++ " to tests/unary.rs".toList,
  "Run bin/check_all.sh".toList]

/-- Steps with their numbers, from `n` on. -/
def numbered : (n : Nat) → List Text → List Text
  | _, [] => []
  | n, step :: rest =>
    ("  ".toList ++ Text.ofNat n ++ ". ".toList ++ step) :: numbered (n + 1) rest

/-- The lines that list the steps that are left. -/
def followUp (v : Variant) : List Text :=
  ("\nTo finish the ".toList ++ v.name ++ " operator:".toList) :: numbered 1 (steps v.name)

end OpScaffold.Generation
