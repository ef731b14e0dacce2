import OpScaffold.Template.Number

/-!
# OpScaffold.Template.Directive

Format directives, which lay out a value in a field:
`[[fill]align][sign][z][#][0][width][separator][.precision][type]`. For a text the precision cuts
it, then the width pads it; signs, the marks `z` and `#`, separators and numeric alignment are read
too, and refused. Numbers are laid out in `OpScaffold.Template.Numeral`.
-/

namespace OpScaffold.Template

/-- On which side a padded text stands. -/
inductive Alignment
  | left
  | right
  | centred
  /-- Padding between sign and digits, for numbers only. -/
  | numeric
  deriving DecidableEq, Repr

/-- The alignment that a character stands for. -/
def Alignment.ofChar? : Char → Option Alignment
  | '<' => some .left
  | '>' => some .right
  | '^' => some .centred
  | '=' => some .numeric
  | _ => none

/-- What a directive is read for: the kind of the value, and the type and the alignment that hold if
none is given. -/
structure Subject where
  kind : Text
  type : Char
  alignment : Alignment
  deriving DecidableEq, Repr

/-- Directives for texts. -/
def Subject.text : Subject := ⟨"str".toList, 's', .left⟩

/-- Directives for numbers of the given kind. -/
def Subject.number (kind : Text) : Subject := ⟨kind, 'd', .right⟩

/-- A format directive as written. -/
structure Directive where
  fill : Char := ' '
  alignment : Alignment := .left
  sign : Option Char := none
  positiveZero : Bool := false
  alternate : Bool := false
  width : Option Nat := none
  separator : Option Char := none
  precision : Option Nat := none
  type : Char := 's'
  deriving DecidableEq, Repr

namespace Directive

/-- Reads the fill character and the alignment; a fill character needs an alignment behind it. -/
def readAlignment : Text → Option Char × Option Alignment × Text
  | [] => (none, none, [])
  | [a] => match Alignment.ofChar? a with
    | some alignment => (none, some alignment, [])
    | none => (none, none, [a])
  | fill :: a :: rest => match Alignment.ofChar? a with
    | some alignment => (some fill, some alignment, rest)
    | none => match Alignment.ofChar? fill with
      | some alignment => (none, some alignment, a :: rest)
      | none => (none, none, fill :: a :: rest)

/-- Reads one character of the given class, if one stands at the start. -/
def readChar? (accepts : Char → Bool) : Text → Option Char × Text
  | [] => (none, [])
  | c :: rest => if accepts c then (some c, rest) else (none, c :: rest)

/-- Reads the thousands separators; there may be one of them. -/
def readSeparator (t : Text) : Except Malformed (Option Char × Text) :=
  let (comma, t) := readChar? (· == ',') t
  let (lowLine, t) := readChar? (· == '_') t
  if lowLine.isSome && (comma.isSome || t.head? == some ',') then .error .twoSeparators
  else .ok (comma.or lowLine, t)

/-- Reads the precision, a number behind a point. -/
def readPrecision (t : Text) : Except Malformed (Option Nat × Text) :=
  match t with
  | '.' :: rest => do
    let (precision, rest) ← readNumber rest
    if precision.isNone then .error .missingPrecision else .ok (precision, rest)
  | _ => .ok (none, t)

/-- Whether numbers of this type can be written with the separator: decimal ones can, and those of
other bases take a low line. -/
def takesSeparator (separator type : Char) : Bool :=
  ['d', 'e', 'f', 'g', 'E', 'G', '%', 'F', Char.ofNat 0].contains type
    || (separator == '_' && ['b', 'o', 'x', 'X'].contains type)

/-- The alignment of a directive: the given one, or that of the subject. A zero before the width
fills a number between sign and digits. -/
def resolveAlignment (subject : Subject) (given : Option Alignment) (zero : Bool) : Alignment :=
  match given with
  | some alignment => alignment
  | none => if zero && subject.alignment == .right then .numeric else subject.alignment

/-- The directive that a text spells. -/
def ofText? (subject : Subject) (text : Text) : Except Malformed Directive := do
  let (fill, alignment, t) := readAlignment text
  let (sign, t) := readChar? [' ', '+', '-'].contains t
  let (z, t) := readChar? (· == 'z') t
  let (hash, t) := readChar? (· == '#') t
  let (zero, t) := if fill.isNone then readChar? (· == '0') t else (none, t)
  let (width, t) ← readNumber t
  let (separator, t) ← readSeparator t
  let (precision, t) ← readPrecision t
  let type ← match t with
    | [] => .ok subject.type
    | [c] => .ok c
    | _ => .error (.malformedDirective text subject.kind)
  match separator with
  | some s => if takesSeparator s type then pure () else .error (.separatorNotAllowed s type)
  | none => pure ()
  return {
    fill := (fill.or zero).getD ' ',
    alignment := resolveAlignment subject alignment zero.isSome, sign,
    positiveZero := z.isSome, alternate := hash.isSome, width, separator, precision, type }

/-- Why a directive cannot lay out a text. -/
def refusal? (d : Directive) : Option Malformed :=
  if d.type ≠ 's' then some (.unknownType d.type Subject.text.kind)
  else if d.sign = some ' ' then some .spaceNotAllowed
  else if d.sign.isSome then some .signNotAllowed
  else if d.positiveZero then some .negativeZeroNotAllowed
  else if d.alternate then some .alternateNotAllowed
  else if d.alignment = .numeric then some .numericAlignmentNotAllowed
  else none

/-- How much of the padding goes before the text; of an odd padding the smaller half. -/
def leading (alignment : Alignment) (padding : Nat) : Nat :=
  match alignment with
  | .right => padding
  | .centred => padding / 2
  | .left | .numeric => 0

/-- The text cut to the precision and padded to the width. -/
def layOut (d : Directive) (t : Text) : Text :=
  let shown := match d.precision with
    | some n => t.take n
    | none => t
  let padding := d.width.getD 0 - shown.length
  let before := leading d.alignment padding
  List.replicate before d.fill ++ shown ++ List.replicate (padding - before) d.fill

end Directive

/-- The text laid out as the directive says; the empty directive leaves it as it is. -/
def formatText (directive t : Text) : Except Malformed Text :=
  if directive.isEmpty then .ok t
  else do
    let d ← Directive.ofText? .text directive
    match d.refusal? with
    | some fault => .error fault
    | none => .ok (d.layOut t)

end OpScaffold.Template
