import OpScaffold.Template.Number
import OpScaffold.Template.Value
import OpScaffold.Variant

/-!
# OpScaffold.Template.Lookup

The value of a field's path. A path starts with `name` or `NAME`, the two spellings of a variant;
behind it `[3]` takes an item of the value by its position, `[word]` takes one by its name, and
`.word` takes a member.
-/

namespace OpScaffold.Template

/-- A step from a value to a part of it. -/
inductive Accessor
  | member (name : Text)
  | item (key : Text)
  | fault (m : Malformed)
  deriving DecidableEq, Repr

/-- Where the reader of accessors stands. -/
inductive AccessorMode
  /-- Between accessors. -/
  | between
  | member (name : Text)
  | item (key : Text)
  deriving DecidableEq, Repr

/-- The accessors of a path behind its first word. -/
def accessors : AccessorMode → Text → List Accessor
  | .between, [] => []
  | .between, c :: t =>
    if c = '.' then accessors (.member []) t
    else if c = '[' then accessors (.item []) t
    else [.fault .textAfterBracket]
  | .member name, [] => [.member name]
  | .member name, c :: t =>
    if c = '.' then .member name :: accessors (.member []) t
    else if c = '[' then .member name :: accessors (.item []) t
    else accessors (.member (name ++ [c])) t
  | .item _, [] => [.fault .unclosedBracket]
  | .item key, c :: t =>
    if c = ']' then .item key :: accessors .between t
    else accessors (.item (key ++ [c])) t

/-- Takes one step. -/
def access (value : Value) : Accessor → Except Error Value
  | .member name =>
    if name.isEmpty then .error (.malformed .emptyMember) else value.member? name
  | .item key =>
    match wholeNumber key with
    | .error fault => .error (.malformed fault)
    | .ok position =>
      if key.isEmpty then .error (.malformed .emptyMember)
      else value.item? ((position.map Key.position).getD (.name key))
  | .fault m => .error (.malformed m)

/-- The value under a field name. Fields go by name: a number, or no name at all, is refused. -/
def fieldValue (v : Variant) (name : Text) : Except Error Value :=
  match wholeNumber name with
  | .error fault => .error (.malformed fault)
  | .ok (some index) => .error (.numberedField index)
  | .ok none =>
    if name.isEmpty then .error (.numberedField 0)
    else if name = "name".toList then .ok (.text v.name)
    else if name = "NAME".toList then .ok (.text v.upper)
    else .error (.unknownField name)

/-- Whether a character belongs to the first word of a path. -/
def isNamePart (c : Char) : Bool := c != '.' && c != '['

/-- The value at the end of a path. -/
def lookup (v : Variant) (path : Text) : Except Error Value :=
  match fieldValue v (path.takeWhile isNamePart) with
  | .error e => .error e
  | .ok value => (accessors .between (path.dropWhile isNamePart)).foldlM access value

end OpScaffold.Template
