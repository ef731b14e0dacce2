import OpScaffold.Files.Path
import OpScaffold.Text.Quoted

/-!
# OpScaffold.Files.Error

What can go wrong with files. Most errors come from the system; a path can also be unfit to be
handed to it, and a text to be written.
-/

namespace OpScaffold

/-- Why the system refuses an operation. -/
inductive Refused
  | noEntry
  | busy
  | exists
  | notDirectory
  | isDirectory
  | nameTooLong
  deriving DecidableEq, Repr

namespace Refused

/-- The number of the error. -/
def number : Refused → Nat
  | .noEntry => 2
  | .busy => 16
  | .exists => 17
  | .notDirectory => 20
  | .isDirectory => 21
  | .nameTooLong => 36

/-- The text of the error. -/
def message : Refused → Text
  | .noEntry => "No such file or directory".toList
  | .busy => "Device or resource busy".toList
  | .exists => "File exists".toList
  | .notDirectory => "Not a directory".toList
  | .isDirectory => "Is a directory".toList
  | .nameTooLong => "File name too long".toList

end Refused

/-- Why an operation on files fails. -/
inductive FileError
  /-- The system refuses the operation on a file. -/
  | refused (reason : Refused) (path : Path)
  /-- The system refuses to put one file in the place of another. -/
  | notReplaced (reason : Refused) (source target : Path)
  /-- There is no space left to put a file in its place. -/
  | diskFull
  /-- A path holds the character U+0000. -/
  | nullCharacter
  /-- A path has no last component, so no file can stand beside it. -/
  | noName (path : Path)
  /-- The text that a file is to hold has no bytes. -/
  | unencodable (e : Utf8.EncodeError)
  deriving DecidableEq, Repr

namespace FileError

/-- Whether the error came from the system. -/
def isFromSystem : FileError → Bool
  | .refused _ _ | .notReplaced _ _ _ | .diskFull => true
  | .nullCharacter | .noName _ | .unencodable _ => false

/-- Number and text of a system error. -/
def reasonText (reason : Refused) : Text :=
  "[Errno ".toList ++ Text.ofNat reason.number ++ "] ".toList ++ reason.message ++ ": ".toList

/-- The text shown for an error. -/
def message : FileError → Text
  | .refused reason path => reasonText reason ++ path.toText.quoted
  | .notReplaced reason source target =>
    reasonText reason ++ source.toText.quoted ++ " -> ".toList ++ target.toText.quoted
  | .diskFull => "disk full".toList
  | .nullCharacter => "embedded null byte".toList
  | .noName path =>
    "PosixPath(".toList ++ path.toText.quoted ++ ") has an empty name".toList
  | .unencodable e => e.message

end FileError

end OpScaffold
