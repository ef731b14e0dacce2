import OpScaffold.CommandLine.Program

/-!
# OpScaffold.Main

The program. It reads the files that a run can need into a tree, works out the run there, and then
writes the files that the run has changed. A run that asks more than it was told is worked out
again with one more line of input. The version control program is not run from here: a reset is
refused as if it were not installed.
-/

namespace OpScaffold.Main

/-- The lines of input that a run can need: the consent and the name. -/
def promptLimit : Nat := 2

/-- A text as a string. -/
def string (t : Text) : String := String.ofList t

/-- Where the generator's script is taken to be: in the directory `scripts` of the working
directory. -/
def scriptPath (here : Location) : Path :=
  ⟨.root, here ++ ["scripts".toList, CommandLine.programName]⟩

/-- The paths that a run can read or write below a root. -/
def known (root : Path) (name : Option Text) : List Path :=
  Root.marker root :: root.child Exemplar.standard.sourcePath
    :: Registry.standard.map (fun e => root.child e.path)
    ++ (name.map fun n =>
        Exemplar.targetPath root Exemplar.standard.directory ⟨n, n.upper⟩).toList

/-- The roots that a run may choose. -/
def roots (script : Path) (a : CommandLine.Arguments) : List Path :=
  match a.root with
  | some (c :: t) => [Path.ofText (c :: t)]
  | _ => [script.parent.parent, script.parent.parent.parent]

/-- The tree with what stands at a path. What is there but cannot be read as a file counts as a
directory. -/
def load (t : FileTree) (p : Path) : IO FileTree := do
  try
    let bytes ← IO.FS.readBinFile (string p.toText)
    return t.place (t.resolve p) (.file bytes.toList)
  catch
    | .noFileOrDirectory .. => return t
    | _ => return t.place (t.resolve p) .directory

/-- The tree with what stands at each of some paths. -/
def loadAll (t : FileTree) : List Path → IO FileTree
  | [] => return t
  | p :: rest => do loadAll (← load t p) rest

/-- A line of input without its end, if there is one. -/
def readAnswer : IO Answer := do
  let line ← (← IO.getStdin).getLine
  if line.isEmpty then return .endOfInput
  else return .line (line.toList.takeWhile (· != '\n'))

/-- The outcome of a run and the surroundings behind it. -/
abbrev Outcome := EStateM.Result Failure Session CommandLine.Ending

/-- The surroundings behind a run. -/
def Outcome.session : Outcome → Session
  | .ok _ s | .error _ s => s

/-- Works out a run. Where it asks more than it was told, prints what it has to say so far, of
which `shown` characters were printed, and asks for a line. -/
def converse (script : Path) (arguments : List Text) (start : Session) (shown : Nat) :
    (prompts : Nat) → IO (Outcome × Nat)
  | 0 => return (CommandLine.run script arguments start, shown)
  | prompts + 1 => do
    let outcome : Outcome := CommandLine.run script arguments start
    let s := outcome.session
    if s.asked.length ≤ start.answers.length then return (outcome, shown)
    else
      IO.print (string (s.out.drop shown ++ s.asked.getLastD []))
      (← IO.getStdout).flush
      let answer ← readAnswer
      converse script arguments { start with answers := start.answers ++ [answer] }
        s.out.length prompts

/-- Writes the files that differ from those of `before`. -/
def store (before : FileTree) : List (Location × Node) → IO Unit
  | [] => return
  | (_, .directory) :: rest => store before rest
  | (l, .file bytes) :: rest => do
    if before.node? l ≠ some (.file bytes) then
      let p : Path := ⟨.root, l⟩
      IO.FS.createDirAll (string p.parent.toText)
      IO.FS.writeBinFile (string p.toText) ⟨bytes.toArray⟩
    store before rest

/-- The tree on which a run with the given arguments works. -/
def treeFor (here : Location) (script : Path) (arguments : List Text) : IO FileTree :=
  let start := FileTree.place ⟨here, []⟩ here .directory
  match CommandLine.Arguments.ofList arguments with
  | .error _ => return start
  | .ok a => loadAll start ((roots script a).flatMap (known · a.name))

/-- Runs the program. -/
def run (arguments : List Text) : IO UInt32 := do
  let here := (Path.ofText (toString (← IO.currentDir)).toList).parts
  let script := scriptPath here
  let tree ← treeFor here script arguments
  let start : Session := { disk := { tree }, git := { isInstalled := false } }
  let (outcome, shown) ← converse script arguments start 0 promptLimit
  let s := outcome.session
  store tree s.disk.tree.nodes
  IO.print (string (s.out.drop shown))
  IO.eprint (string s.err)
  match outcome with
  | .ok (.status n) _ | .ok (.left n) _ => return n.toUInt32
  | .error e _ =>
    IO.eprintln (string e.message)
    return 1

end OpScaffold.Main

/-- The program on its arguments. -/
def main (arguments : List String) : IO UInt32 :=
  OpScaffold.Main.run (arguments.map String.toList)
