import OpScaffold.CommandLine.Arguments
import OpScaffold.CommandLine.Help
import OpScaffold.Generation
import OpScaffold.Guard
import OpScaffold.Root

/-!
# OpScaffold.CommandLine.Program

A run of the program on its arguments. A name that is given is checked before anything else, then
the root; only then is the user asked and the working tree reset. Failures that the program
expects are reported and give the status 1.
-/

namespace OpScaffold.CommandLine

/-- How a run ends. -/
inductive Ending
  /-- The program came to its end. -/
  | status (n : Nat)
  /-- It stopped at its arguments. -/
  | left (status : Nat)
  deriving DecidableEq, Repr

/-- The variant of a name that was given. -/
def givenVariant : Option Text → Run (Option Variant)
  | none => return none
  | some name =>
    match Variant.derive name with
    | .ok v => return some v
    | .error e => throw (.badName e)

/-- The root that was given, or else the one to which the script belongs. -/
def chosenRoot (script : Path) (root : Option Text) : Run Path := do
  let tree ← Run.tree
  match root with
  | none | some [] => Run.ofExcept (Root.find tree script)
  | some text => Run.ofExcept (Root.check tree (Path.ofText text))

/-- How the reset of a run is guarded. -/
def guardOptions (a : Arguments) : Guard.Options :=
  { assumeYes := a.yes, reset := !a.noReset, dryRun := a.dryRun }

/-- The variant that was given, or else the one whose name is asked for. -/
def variantToAdd : Option Variant → Run Variant
  | some v => pure v
  | none => Run.readName

/-- The work of a run; the result is the variant that was added. -/
def work (script : Path) (a : Arguments) : Run Variant := do
  let given ← givenVariant a.name
  let root ← chosenRoot script a.root
  Guard.run root (some script) (guardOptions a)
  let v ← variantToAdd given
  let _ ← Generation.generate root v Registry.standard a.dryRun
  return v

/-- Prints lines. -/
def printAll : List Text → Run Unit
  | [] => return
  | line :: rest => do
    Run.print line
    printAll rest

/-- The end of a run in which a variant was added. -/
def succeed (v : Variant) : Run Ending := do
  printAll (Generation.followUp v)
  Run.print "\nnew_unary: OK".toList
  return .status 0

/-- The end of a run that failed. -/
def fail (e : Failure) : Run Ending :=
  if e.isReported then do
    Run.printError ("Error: ".toList ++ e.message)
    return .status 1
  else throw e

/-- A run with arguments that were understood. -/
def finish (script : Path) (a : Arguments) : Run Ending := do
  try
    let v ← work script a
    succeed v
  catch e => fail e

/-- The end of a run that stops at its arguments. -/
def leave : Halt → Run Ending
  | .help => do
    Run.print usage
    printAll helpLines
    return .left 0
  | .misuse m => do
    Run.printError usage
    Run.printError (programName ++ ": error: ".toList ++ m.message)
    return .left 2

/-- The path of a script without points. -/
def resolved (script : Path) : Path := { script with parts := Path.collapse script.parts }

/-- A run of the program; `script` is the path of the generator's script. -/
def run (script : Path) (arguments : List Text) : Run Ending := do
  match Arguments.ofList arguments with
  | .ok a => finish (resolved script) a
  | .error h => leave h

end OpScaffold.CommandLine
