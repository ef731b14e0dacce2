import OpScaffold.Text.Basic

/-!
# OpScaffold.CommandLine.Help

What the program tells about its use.
-/

namespace OpScaffold.CommandLine

/-- The name of the program. -/
def programName : Text := "new_unary.py".toList

/-- The usage line. -/
def usage : Text :=
  "usage: ".toList ++ programName
    ++ " [-h] [--root ROOT] [-y] [--no-reset] [--dry-run] [name]".toList

/-- The help, behind the usage line. -/
def helpLines : List Text := [
  [],
  "Add a new unary function to rustad".toList,
  [],
  "positional arguments:".toList,
  "  name         Name of the new unary function (lowercase, e.g., 'cos')".toList,
  [],
  "options:".toList,
  "  -h, --help   show this help message and exit".toList,
  "  --root ROOT  Crate root (default: found from the location of this script)".toList,
  "  -y, --yes    Do not ask before resetting the working tree".toList,
  "  --no-reset   Do not run git reset --hard".toList,
  "  --dry-run    Show what would be changed without making changes".toList,
  [],
  "The working tree is reset (git reset --hard) before any file is edited,".toList,
  "this script itself is kept. Use --no-reset on a tree you know is clean.".toList,
  [],
  "Examples:".toList,
  "  ".toList ++ programName ++ "                        # Prompt for the name".toList,
  "  ".toList ++ programName ++ " cos                    # Add cos".toList,
  "  ".toList ++ programName ++ " tan --dry-run          # Preview what would be changed".toList,
  "  ".toList ++ programName ++ " tan --yes --no-reset   # No questions, no reset".toList]

end OpScaffold.CommandLine
