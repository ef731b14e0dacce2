import OpScaffold.Files.Error
import OpScaffold.Registry.Error

/-!
# OpScaffold.Failure

Everything that can end a run. The failures that the program expects are reported with their
message and give the exit status 1; the others are mistakes of a caller or of the surroundings
that it does not foresee.
-/

namespace OpScaffold

/-- A failure of the program. -/
inductive Failure
  | badName (e : NameError)
  | registry (e : RegistryError)
  /-- The spelling is registered behind the anchor already. -/
  | registered (path spelling anchor : Text)
  /-- The variant is the exemplar itself. -/
  | isExemplar (name : Text)
  /-- The operator has a file already. -/
  | operatorExists (directory name : Text)
  | exemplarMissing (path : Text) (root : Path)
  | rootNotFound
  | notARoot (path : Path)
  | gitMissing
  | declined
  | gitNotRun (reason : Text)
  | resetFailed (report : Text)
  /-- A file could not be written, and so many files before it were restored. -/
  | notWritten (path : Path) (e : FileError) (restored : Nat)
  | template (e : Template.Error)
  | pattern (e : Pattern.Error)
  | file (e : FileError)
  | undecodable (e : Utf8.DecodeError)
  /-- An item of a list is asked for that it does not have. -/
  | noSuchItem
  /-- The user interrupted a prompt. -/
  | interrupted
  deriving DecidableEq, Repr

namespace Failure

/-- The file that marks the root of a crate. -/
def rootMarker : Text := "Cargo.toml".toList

/-- The text shown for a failure. -/
def message : Failure → Text
  | .badName e => e.message
  | .registry e => e.message
  | .registered path spelling anchor =>
    path ++ ": ".toList ++ spelling ++ " is already registered after ".toList ++ anchor.quoted
  | .isExemplar name => name ++ " is the exemplar operator".toList
  | .operatorExists directory name =>
    directory ++ ['/'] ++ name ++ " already exists".toList
  | .exemplarMissing path root =>
    "exemplar ".toList ++ path ++ " not found in ".toList ++ root.toText
  | .rootNotFound =>
    "Could not find crate root (no ".toList ++ rootMarker ++ " found)".toList
  | .notARoot path =>
    path.toText ++ " is not a crate root (no ".toList ++ rootMarker ++ " found)".toList
  | .gitMissing => "git not found (use --no-reset to skip the reset)".toList
  | .declined => "aborted by user, no files were changed".toList
  | .gitNotRun reason => "could not run git reset --hard: ".toList ++ reason
  | .resetFailed report => "git reset --hard failed: ".toList ++ report.trim
  | .notWritten path e restored =>
    "could not write ".toList ++ path.toText ++ ": ".toList ++ e.message ++ " (restored ".toList
      ++ Text.ofNat restored ++ " file(s))".toList
  | .template e => e.message
  | .pattern e => e.message
  | .file e => e.message
  | .undecodable e => e.message
  | .noSuchItem => "list index out of range".toList
  | .interrupted => []

/-- Whether the program expects the failure and reports it. -/
def isReported : Failure → Bool
  | .badName _ | .registry _ | .registered _ _ _ | .isExemplar _ | .operatorExists _ _
  | .exemplarMissing _ _ | .rootNotFound | .notARoot _ | .gitMissing | .declined | .gitNotRun _
  | .resetFailed _ | .notWritten _ _ _ => true
  | .template _ | .pattern _ | .file _ | .undecodable _ | .noSuchItem | .interrupted => false

end Failure

end OpScaffold
