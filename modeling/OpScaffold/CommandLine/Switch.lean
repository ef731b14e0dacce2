import OpScaffold.Text.Classes
import OpScaffold.Text.Quoted

/-!
# OpScaffold.CommandLine.Switch

The switches of the command line, and what an argument looks like before its meaning is known. A
switch may be cut short as long as only one switch begins that way, and short switches without a
value may share one hyphen.
-/

namespace OpScaffold.CommandLine

/-- A switch. -/
inductive Switch
  | help
  | root
  | yes
  | noReset
  | dryRun
  deriving DecidableEq, Repr

namespace Switch

/-- The spellings of the switches, in the order in which they are offered. -/
def spellings : List (Text × Switch) := [
  ("-h".toList, .help), ("--help".toList, .help), ("--root".toList, .root), ("-y".toList, .yes),
  ("--yes".toList, .yes), ("--no-reset".toList, .noReset), ("--dry-run".toList, .dryRun)]

/-- The switch of a full spelling. -/
def ofText? (t : Text) : Option Switch := spellings.lookup t

/-- Whether the switch takes a value. -/
def takesValue : Switch → Bool
  | .root => true
  | .help | .yes | .noReset | .dryRun => false

/-- The switch as messages name it. -/
def label : Switch → Text
  | .help => "-h/--help".toList
  | .root => "--root".toList
  | .yes => "-y/--yes".toList
  | .noReset => "--no-reset".toList
  | .dryRun => "--dry-run".toList

end Switch

/-- Why arguments are refused. -/
inductive Misuse
  | ambiguous (argument : Text) (spellings : List Text)
  | unwantedValue (switch : Switch) (value : Text)
  | missingValue (switch : Switch)
  | unrecognized (arguments : List Text)
  deriving DecidableEq, Repr

/-- The text shown for refused arguments. -/
def Misuse.message : Misuse → Text
  | .ambiguous argument spellings =>
    "ambiguous option: ".toList ++ argument ++ " could match ".toList
      ++ Text.join ", ".toList spellings
  | .unwantedValue switch value =>
    "argument ".toList ++ switch.label ++ ": ignored explicit argument ".toList ++ value.quoted
  | .missingValue switch =>
    "argument ".toList ++ switch.label ++ ": expected one argument".toList
  | .unrecognized arguments =>
    "unrecognized arguments: ".toList ++ Text.join [' '] arguments

/-- What an argument looks like. -/
inductive Shape
  /-- A value, or the name of an operator. -/
  | value
  /-- The mark behind which there are only values. -/
  | terminator
  /-- A switch in one of its spellings, and what is attached to it. -/
  | switch (s : Switch) (spelling : Text) (attached : Option Text)
  /-- Something with a hyphen that is no switch. -/
  | unknown
  deriving DecidableEq, Repr

namespace Shape

/-- Cuts an argument at its first equals sign. -/
def cutAtEquals : Text → Text × Option Text
  | [] => ([], none)
  | c :: t =>
    if c = '=' then ([], some t)
    else
      let (head, tail) := cutAtEquals t
      (c :: head, tail)

/-- Whether a text is a negative number; a line feed may follow it. -/
def isNegativeNumber : Text → Bool
  | '-' :: t =>
    let t := if t.getLast? = some '\n' then t.dropLast else t
    let whole := t.takeWhile isDecimalDigit
    match t.dropWhile isDecimalDigit with
    | [] => !whole.isEmpty
    | '.' :: fraction => !fraction.isEmpty && fraction.all isDecimalDigit
    | _ => false
  | _ => false

/-- The switches that an argument may mean that is not spelled in full: a long one cut short, with
what is attached behind an equals sign, or a short one with what is attached behind its letter. -/
def candidates (argument : Text) : List (Text × Switch × Option Text) :=
  match argument with
  | '-' :: '-' :: _ =>
    let (head, attached) := cutAtEquals argument
    Switch.spellings.filterMap fun (spelling, s) =>
      if head.isPrefixOf spelling then some (spelling, s, attached) else none
  | _ =>
    Switch.spellings.filterMap fun (spelling, s) =>
      if spelling = argument.take 2 then some (spelling, s, some (argument.drop 2))
      else if argument.isPrefixOf spelling then some (spelling, s, none)
      else none

/-- The switch that is spelled in full before the equals sign of an argument. -/
def beforeEquals? (argument : Text) : Option Shape :=
  match cutAtEquals argument with
  | (head, some attached) =>
    (Switch.ofText? head).map fun s => .switch s head (some attached)
  | (_, none) => none

/-- What an argument looks like that starts with a hyphen and is no full spelling. -/
def ofHyphened (argument : Text) : Except Misuse Shape :=
  match candidates argument with
  | [(spelling, s, attached)] => .ok (.switch s spelling attached)
  | [] =>
    .ok (if isNegativeNumber argument || argument.contains ' ' then .value else .unknown)
  | many => .error (.ambiguous argument (many.map (·.1)))

/-- What an argument looks like. -/
def ofText (argument : Text) : Except Misuse Shape :=
  if argument.head? ≠ some '-' then .ok .value
  else match Switch.ofText? argument with
    | some s => .ok (.switch s argument none)
    | none =>
      if argument = ['-'] then .ok .value
      else match beforeEquals? argument with
        | some shape => .ok shape
        | none => ofHyphened argument

/-- What the arguments look like. -/
def ofArguments : List Text → Except Misuse (List (Text × Shape))
  | [] => .ok []
  | argument :: rest =>
    if argument = "--".toList then
      .ok ((argument, .terminator) :: rest.map fun value => (value, .value))
    else do
      let shape ← ofText argument
      return (argument, shape) :: (← ofArguments rest)

end Shape

end OpScaffold.CommandLine
