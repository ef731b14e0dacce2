import OpScaffold.Changes
import OpScaffold.Git

/-!
# OpScaffold.Session

A run of the program in its surroundings: the disk, the user at the prompts, the version control
program, and what was printed.
-/

namespace OpScaffold

/-- What a prompt meets. -/
inductive Answer
  | line (t : Text)
  | endOfInput
  | interrupt
  deriving DecidableEq, Repr

/-- The surroundings of a run. -/
structure Session where
  disk : Disk
  /-- What the next prompts meet; behind them the input ends. -/
  answers : List Answer := []
  git : Git := {}
  /-- The prompts shown. -/
  asked : List Text := []
  /-- Standard output. -/
  out : Text := []
  /-- Standard error. -/
  err : Text := []
  /-- The directories in which a reset was run. -/
  resets : List Path := []
  deriving DecidableEq, Repr

/-- A part of a run. -/
abbrev Run := EStateM Failure Session

namespace Run

/-- Prints a line. -/
def print (line : Text) : Run Unit := modify fun s => { s with out := s.out ++ line ++ ['\n'] }

/-- Prints a line to standard error. -/
def printError (line : Text) : Run Unit :=
  modify fun s => { s with err := s.err ++ line ++ ['\n'] }

/-- The answer of a pure question. -/
def ofExcept {α : Type} : Except Failure α → Run α
  | .ok a => pure a
  | .error e => throw e

/-- The tree of files. -/
def tree : Run FileTree := return (← get).disk.tree

/-- Asks the tree. -/
def askTree {α : Type} (question : FileTree → Except FileError α) : Run α := do
  match question (← tree) with
  | .ok a => return a
  | .error e => throw (.file e)

/-- Carries out a commit. -/
def onDisk {α : Type} (action : Changes.Commit α) : Run α := fun s =>
  match action s.disk with
  | .ok a disk => .ok a { s with disk }
  | .error e disk => .error e { s with disk }

/-- Shows a prompt and reads a line; there is none at the end of the input. -/
def ask (prompt : Text) : Run (Option Text) := do
  let s ← get
  set { s with asked := s.asked ++ [prompt], answers := s.answers.tail }
  match s.answers.head? with
  | some (.line t) => return some t
  | some .interrupt => throw .interrupted
  | some .endOfInput | none => return none

/-- Asks a question that only a clear yes affirms. -/
def confirm (prompt : Text) : Run Bool := do
  match ← ask prompt with
  | none => return false
  | some answer => return ["y".toList, "yes".toList].contains answer.trim.lowerAscii

/-- Asks for the name of a new operator. -/
def readName : Run Variant := do
  match ← ask "Input name of new unary function: ".toList with
  | none => throw (.badName .missing)
  | some name =>
    match Variant.derive name.trim with
    | .ok v => return v
    | .error e => throw (.badName e)

end Run

end OpScaffold
