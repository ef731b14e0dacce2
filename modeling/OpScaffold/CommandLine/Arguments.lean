import OpScaffold.CommandLine.Switch

/-!
# OpScaffold.CommandLine.Arguments

The meaning of the command line. The first value that no switch takes is the name of the operator;
arguments that are left over are refused together at the end. Asking for help ends the reading at
once, so that only faults before it count. Behind a short switch without a value there are only
short switches: another letter there is refused before any of them counts.
-/

namespace OpScaffold.CommandLine

/-- What was asked for. -/
structure Arguments where
  name : Option Text := none
  root : Option Text := none
  yes : Bool := false
  noReset : Bool := false
  dryRun : Bool := false
  deriving DecidableEq, Repr

/-- Why reading the arguments ends early. -/
inductive Halt
  | help
  | misuse (m : Misuse)
  deriving DecidableEq, Repr

namespace Arguments

/-- A switch with its value, if it takes one. A value that is the terminator counts as none. -/
def apply (a : Arguments) (s : Switch) (value : Text) : Except Halt Arguments :=
  match s with
  | .help => .error .help
  | .root => .ok { a with root := some (if value = "--".toList then [] else value) }
  | .yes => .ok { a with yes := true }
  | .noReset => .ok { a with noReset := true }
  | .dryRun => .ok { a with dryRun := true }

/-- Switches without values. -/
def applyAll (a : Arguments) : List Switch → Except Halt Arguments
  | [] => .ok a
  | s :: rest =>
    match a.apply s [] with
    | .error h => .error h
    | .ok a => a.applyAll rest

/-- What an argument that starts with a switch asks for: switches, of which the last may still
need a value or have it attached. -/
structure Cluster where
  switches : List Switch
  last : Switch
  value : Option Text
  deriving DecidableEq, Repr

/-- Reads a short switch and what is attached to it: more short switches. -/
def shortCluster (s : Switch) : Text → Except Misuse Cluster
  | [] => .ok ⟨[], s, none⟩
  | c :: attached =>
    match Switch.ofText? ['-', c] with
    | none => .error (.unwantedValue s (c :: attached))
    | some next =>
      match shortCluster next attached with
      | .error m => .error m
      | .ok cluster => .ok { cluster with switches := s :: cluster.switches }

/-- Reads a switch and what is attached to it. -/
def cluster (s : Switch) (spelling : Text) : Option Text → Except Misuse Cluster
  | none => .ok ⟨[], s, none⟩
  | some attached =>
    if s.takesValue then .ok ⟨[], s, some attached⟩
    else if attached.isEmpty || spelling.length ≠ 2 then .error (.unwantedValue s attached)
    else shortCluster s attached

/-- The state of reading: whether a name may still come, whether it came just now, and what is
left over, last first. -/
structure Reading where
  arguments : Arguments := {}
  wantsName : Bool := true
  namedJustNow : Bool := false
  leftOver : List Text := []
  deriving DecidableEq, Repr

/-- A value that no switch takes. -/
def readValue (r : Reading) (value : Text) : Reading :=
  if r.wantsName then
    { r with
      arguments := { r.arguments with name := some value }, wantsName := false,
      namedJustNow := true }
  else { r with leftOver := value :: r.leftOver, namedJustNow := false }

/-- The terminator; it is left over if no name stands on either side of it. -/
def readTerminator (r : Reading) : Reading :=
  if r.wantsName || r.namedJustNow then { r with namedJustNow := false }
  else { r with leftOver := "--".toList :: r.leftOver }

/-- Reads arguments to the end. -/
def readAll (r : Reading) : List (Text × Shape) → Except Halt Arguments
  | [] =>
    if r.leftOver.isEmpty then .ok r.arguments
    else .error (.misuse (.unrecognized r.leftOver.reverse))
  | (argument, .value) :: rest => readAll (readValue r argument) rest
  | (_, .terminator) :: rest => readAll (readTerminator r) rest
  | (argument, .unknown) :: rest =>
    readAll { r with leftOver := argument :: r.leftOver, namedJustNow := false } rest
  | (_, .switch s spelling attached) :: rest =>
    match cluster s spelling attached with
    | .error m => .error (.misuse m)
    | .ok c =>
      if c.last.takesValue && c.value.isNone then
        match rest with
        | (value, .value) :: rest =>
          match (r.arguments.applyAll c.switches).bind (·.apply c.last value) with
          | .error h => .error h
          | .ok arguments => readAll { r with arguments, namedJustNow := false } rest
        | _ => .error (.misuse (.missingValue c.last))
      else
        match (r.arguments.applyAll c.switches).bind (·.apply c.last (c.value.getD [])) with
        | .error h => .error h
        | .ok arguments => readAll { r with arguments, namedJustNow := false } rest

/-- Reads the arguments of a command line. -/
def ofList (arguments : List Text) : Except Halt Arguments :=
  match Shape.ofArguments arguments with
  | .error m => .error (.misuse m)
  | .ok shapes => readAll {} shapes

end Arguments

end OpScaffold.CommandLine
