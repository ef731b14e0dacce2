import OpScaffold.Pattern.Alternatives
import OpScaffold.Pattern.CharSet
import OpScaffold.Text.Identifier

/-!
# OpScaffold.Pattern.Group

Patterns under construction. `Draft` holds the groups that are open, innermost first, each with the
branches that it has so far; it also remembers the names and widths of all groups, since references
are checked as they are read. The functions here read what stands behind an opening parenthesis.
-/

namespace OpScaffold.Pattern

/-- What a parenthesis opens. -/
inductive Opening
  | plain
  | capture (n : Nat)
  | scoped (on off : Flags)
  | atomic
  | look (behind negated : Bool)
  | conditional (n : Nat)
  deriving DecidableEq, Repr

/-- What a repetition mark behind an item means: conditions cannot be repeated, and repetitions
take no second mark. -/
inductive Repeatable
  | yes
  | condition
  | repeated
  deriving DecidableEq, Repr

/-- An item of a branch: a pattern, or the patterns of a plain group one behind the other. -/
structure Item where
  nodes : List Node
  repeatable : Repeatable := .yes
  deriving DecidableEq, Repr

/-- An item of one pattern. -/
def Item.one (node : Node) (repeatable : Repeatable := .yes) : Item := ⟨[node], repeatable⟩

/-- An open group: where it was opened, whether blanks in it are skipped, the lookbehind limit
around it, its finished branches and the items of the present one, both last first. -/
structure Frame where
  opening : Opening
  start : Nat
  verbose : Bool
  outerLimit : Option Nat := none
  branches : List (List Node) := []
  items : List Item := []
  deriving DecidableEq, Repr

/-- A pattern under construction. `widths` holds the widths of the groups that are closed, group 1
first; within a lookbehind the groups from number `limit` on cannot be referred to; `mentions` are
the numbers that conditions name, with the position of the first mention. -/
structure Draft where
  flags : Flags := []
  names : List (Text × Nat) := []
  widths : List (Option Width) := []
  limit : Option Nat := none
  mentions : List (Nat × Nat) := []
  outer : List Frame := []
  current : Frame := { opening := .plain, start := 0, verbose := false }
  deriving DecidableEq, Repr

namespace Draft

/-- How many groups there are, the whole pattern counted. -/
def groups (d : Draft) : Nat := d.widths.length + 1

/-- The width of a closed group. -/
def width? (d : Draft) (n : Nat) : Option Width :=
  if n = 0 then none else (d.widths[n - 1]?).join

/-- Adds an item to the present branch. -/
def push (d : Draft) (item : Item) : Draft :=
  { d with current := { d.current with items := item :: d.current.items } }

/-- Opens a group. -/
def enter (d : Draft) (opening : Opening) (start : Nat) : Draft :=
  let verbose := match opening with
    | .scoped on off => (d.current.verbose || on.contains .verbose) && !off.contains .verbose
    | _ => d.current.verbose
  let limit := match opening with
    | .look true _ => d.limit.or (some d.groups)
    | _ => d.limit
  { d with
    limit, outer := d.current :: d.outer,
    current := { opening, start, verbose, outerLimit := d.limit } }

/-- Opens the next numbered group. -/
def enterCapture (d : Draft) (start : Nat) : Draft :=
  { d with widths := d.widths ++ [none] }.enter (.capture d.groups) start

/-- The patterns of the present branch; plain groups dissolve in it. -/
def branch (d : Draft) : List Node := d.current.items.reverse.flatMap (·.nodes)

/-- Ends the present branch. -/
def endBranch (d : Draft) : Draft :=
  { d with current := { d.current with branches := d.branch :: d.current.branches, items := [] } }

/-- The branches of the present group. -/
def content (d : Draft) : List (List Node) := (d.branch :: d.current.branches).reverse

/-- The item that a group with the given branches is. -/
def groupItem (opening : Opening) (branches : List (List Node)) : Item :=
  match opening with
  | .plain => ⟨Node.alternatives branches, .yes⟩
  | .capture n => .one (.group n (.ofBranches branches))
  | .scoped on off => .one (.scoped on off (.ofBranches branches))
  | .atomic => .one (.atomic (.ofBranches branches))
  | .look behind negated =>
    let body := Node.ofBranches branches
    .one (.look (if behind then .behind body.width else .ahead) negated body)
  | .conditional n =>
    .one (.conditional n (.sequence (branches.head?.getD [])) (.sequence (branches[1]?.getD [])))

/-- Closes the present group, which lies in `frame`. -/
def leave (d : Draft) (frame : Frame) (outer : List Frame) : Draft :=
  let widths := match d.current.opening with
    | .capture n => d.widths.set (n - 1) (some (Node.ofBranches d.content).width)
    | _ => d.widths
  { d with widths, limit := d.current.outerLimit, outer, current := frame }.push
    (groupItem d.current.opening d.content)

/-- Fails if a group cannot be referred to from within the present lookbehind. -/
def checkLookbehind (d : Draft) (n : Nat) : Reader Unit :=
  match d.limit with
  | none => return
  | some limit =>
    if (d.width? n).isNone then Source.fail .openGroup 0
    else if limit ≤ n then Source.fail .groupInLookbehind 0
    else return

/-- The reference to group `n`, which must be closed; `back` is the length of its spelling. -/
def reference (d : Draft) (n back : Nat) : Reader Item := do
  match d.width? n with
  | none => Source.fail .openGroup back
  | some width =>
    d.checkLookbehind n
    return .one (.reference n width)

end Draft

/-- The whole number that a text spells: blanks around it, a sign, and low lines between digits are
allowed, and as many digits as numbers may have. -/
def integer? (t : Text) : Option Int :=
  if digitLimit < t.countP isDecimalDigit then none
  else match t.trim with
  | '-' :: digits => (natural? 0 false digits).map fun n => -(n : Int)
  | '+' :: digits => (natural? 0 false digits).map Int.ofNat
  | digits => (natural? 0 false digits).map Int.ofNat
where
  /-- Reads digits behind digits worth `n`; `behindDigit` tells that the last character was one. -/
  natural? (n : Nat) (behindDigit : Bool) : Text → Option Nat
    | [] => if behindDigit then some n else none
    | c :: rest =>
      match decimalDigit? c with
      | some d => natural? (n * 10 + d) true rest
      | none => if c = '_' ∧ behindDigit then natural? n false rest else none

namespace Group

/-- The greatest number that a group can have. -/
def numberLimit : Nat := 1073741823

/-- Skips a comment. -/
def skipComment (start : Nat) : (fuel : Nat) → Reader Unit
  | 0 => Source.failAt .unterminatedComment start
  | fuel + 1 => do
    match ← Source.next with
    | none => Source.failAt .unterminatedComment start
    | some token => if token = [')'] then return else skipComment start fuel

/-- The name of a group, up to its terminator. -/
def name (terminator : Char) : Reader Text := do
  let name ← Source.nameUntil terminator "group name".toList
  if name.isIdentifier then return name
  else Source.fail (.malformedName name) (name.length + 1)

/-- Behind `(?P`: a group with a name, or a reference by name. -/
def named (d : Draft) (start : Nat) : Reader Draft := do
  if ← Source.accept '<' then
    let name ← name '>'
    match d.names.lookup name with
    | some n => Source.fail (.repeatedName name d.groups n) (name.length + 1)
    | none => return { d with names := (name, d.groups) :: d.names }.enterCapture start
  else if ← Source.accept '=' then
    let name ← name ')'
    match d.names.lookup name with
    | none => Source.fail (.unknownName name) (name.length + 1)
    | some n => return d.push (← d.reference n (name.length + 1))
  else
    match ← Source.next with
    | none => Source.fail .unexpectedEnd 0
    | some token => Source.fail (.unknownExtension ("?P".toList ++ token)) (token.length + 2)

/-- Behind `(?<`: a condition on the text behind. -/
def lookbehind (d : Draft) (start : Nat) : Reader Draft := do
  match ← Source.next with
  | none => Source.fail .unexpectedEnd 0
  | some ['='] => return d.enter (.look true false) start
  | some ['!'] => return d.enter (.look true true) start
  | some token => Source.fail (.unknownExtension ("?<".toList ++ token)) (token.length + 2)

/-- The group that a condition names, by name or by number. -/
def conditionGroup (d : Draft) (name : Text) : Reader (Draft × Nat) := do
  let back := name.length + 1
  if name.isIdentifier then
    match d.names.lookup name with
    | none => Source.fail (.unknownName name) back
    | some n => return (d, n)
  else
    match integer? name with
    | some (.ofNat n) =>
      if n = 0 then Source.fail .groupZero back
      else if numberLimit ≤ n then Source.fail (.noSuchGroup n) back
      else if (d.mentions.lookup n).isSome then return (d, n)
      else return ({ d with mentions := d.mentions ++ [(n, (← Source.here) - back)] }, n)
    | _ => Source.fail (.malformedName name) back

/-- Behind `(?(`: a choice by whether a group has matched. -/
def conditional (d : Draft) (start : Nat) : Reader Draft := do
  let name ← Source.nameUntil ')' "group name".toList
  let (d, n) ← conditionGroup d name
  d.checkLookbehind n
  return d.enter (.conditional n) start

/-- The flag that a token stands for. -/
def flag? : Token → Option Flag
  | [c] => Flag.ofChar? c
  | _ => none

/-- Fails at a token that should have been a flag or an end mark. -/
def refuseFlag {α : Type} (token : Token) (missing : Fault) : Reader α :=
  Source.fail (if isOne isLetter token then .unknownFlag else missing) token.length

/-- Flags to turn on, from `flag` up to an end mark, which is returned too. -/
def flagsOn : (fuel : Nat) → Flag → Flags → Reader (Flags × Char)
  | 0, _, _ => Source.fail .flagsNotEnded 0
  | fuel + 1, flag, on => do
    if flag = .locale then Source.fail .localeFlag 0
    else if flag.isCharacterSet && on.any fun f => f.isCharacterSet && f != flag then
      Source.fail .rivalFlags 0
    else
      match ← Source.next with
      | none => Source.fail .flagsNotEnded 0
      | some token =>
        match flag? token, token with
        | some next, _ => flagsOn fuel next (on ++ [flag])
        | none, [')'] => return (on ++ [flag], ')')
        | none, ['-'] => return (on ++ [flag], '-')
        | none, [':'] => return (on ++ [flag], ':')
        | none, _ => refuseFlag token .flagsNotEnded

/-- Flags to turn off, from `flag` up to the colon. -/
def flagsOff : (fuel : Nat) → Flag → Flags → Reader Flags
  | 0, _, _ => Source.fail .missingColon 0
  | fuel + 1, flag, off => do
    if flag.isCharacterSet then Source.fail .characterSetOff 0
    else
      match ← Source.next with
      | none => Source.fail .missingColon 0
      | some token =>
        match flag? token, token with
        | some next, _ => flagsOff fuel next (off ++ [flag])
        | none, [':'] => return off ++ [flag]
        | none, _ => refuseFlag token .missingColon

/-- Behind the hyphen of `(?i-m:`. -/
def readFlagsOff : Reader Flags := do
  match ← Source.next with
  | none => Source.fail .missingFlag 0
  | some token =>
    match flag? token with
    | some flag => flagsOff ((← get).rest.length + 1) flag []
    | none => refuseFlag token .missingFlag

/-- Turns on flags for the whole pattern; nothing may stand before them. -/
def globalFlags (d : Draft) (start : Nat) (on : Flags) : Reader Draft :=
  if d.outer.isEmpty && d.current.branches.isEmpty && d.current.items.isEmpty then
    let flags := d.flags ++ on
    return { d with
      flags, current := { d.current with verbose := flags.contains .verbose } }
  else Source.failAt .lateFlags start

/-- A group with flags of its own. -/
def scopedFlags (d : Draft) (start : Nat) (on off : Flags) : Reader Draft :=
  if off.any Flag.isGlobal then Source.fail .globalFlagOff 1
  else if on.any off.contains then Source.fail .flagOnAndOff 1
  else return d.enter (.scoped on off) start

/-- Behind `(?` and a flag or a hyphen. -/
def flags (d : Draft) (start : Nat) (first : Option Flag) : Reader Draft := do
  let (on, mark) ← match first with
    | none => pure ([], '-')
    | some flag => flagsOn ((← get).rest.length + 1) flag []
  if mark = ')' then globalFlags d start on
  else if on.any Flag.isGlobal then Source.fail .globalFlagOn 1
  else if mark = '-' then scopedFlags d start on (← readFlagsOff)
  else scopedFlags d start on []

/-- Reads what stands behind the parenthesis at `start`. -/
def read (d : Draft) (start : Nat) : Reader Draft := do
  if !(← Source.accept '?') then return d.enterCapture start
  else
    match ← Source.next with
    | none => Source.fail .unexpectedEnd 0
    | some ['P'] => named d start
    | some [':'] => return d.enter .plain start
    | some ['#'] => do
      skipComment start ((← get).rest.length + 1)
      return d
    | some ['='] => return d.enter (.look false false) start
    | some ['!'] => return d.enter (.look false true) start
    | some ['<'] => lookbehind d start
    | some ['('] => conditional d start
    | some ['>'] => return d.enter .atomic start
    | some ['-'] => flags d start none
    | some token =>
      match flag? token with
      | some flag => flags d start (some flag)
      | none => Source.fail (.unknownExtension ('?' :: token)) (token.length + 1)

end Group

end OpScaffold.Pattern
