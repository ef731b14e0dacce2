import OpScaffold.Template.Directive

/-!
# OpScaffold.Template.Numeral

Numbers laid out by a format directive: in base two, eight, ten or sixteen, as the character of
that code point, or as a decimal fraction with an exponent or without. A width that is filled with
zeros behind the sign counts the separators between groups of digits too. A surrogate is laid out as
the replacement character, since a text cannot hold it.
-/

namespace OpScaffold.Template

namespace Numeral

/-- Digits, the last first, in groups of `size` with separators between them; zeros are added until
`width` places are taken. -/
def groupReversed (separator : Char) (size : Nat) : (fuel width : Nat) → Text → Text
  | 0, _, digits => digits
  | fuel + 1, width, digits =>
    let count := min size (max (max digits.length width) 1)
    let group := digits.take count
    let group := group ++ List.replicate (count - group.length) '0'
    let rest := digits.drop count
    if rest.isEmpty && width ≤ count then group
    else group ++ separator :: groupReversed separator size fuel (width - count - 1) rest

/-- Digits in groups if there is a separator, with zeros in front up to the width. -/
def group (separator : Option Char) (size width : Nat) (digits : Text) : Text :=
  match separator with
  | none => List.replicate (width - digits.length) '0' ++ digits
  | some c => (groupReversed c size (width + digits.length + 1) width digits.reverse).reverse

/-- A quotient rounded to the nearest whole number, a half to the even one. -/
def roundDiv (n d : Nat) : Nat :=
  let q := n / d
  let twice := 2 * (n % d)
  if d < twice ∨ (twice = d ∧ q % 2 = 1) then q + 1 else q

/-- The first `count` significant digits of a number, rounded, and the place of the first of them:
units are 0, tens are 1. -/
def significant (count n : Nat) : Text × Nat :=
  let digits := Text.ofNat n
  if digits.length ≤ count then
    (digits ++ List.replicate (count - digits.length) '0', digits.length - 1)
  else
    let q := roundDiv n (Nat.pow 10 (digits.length - count))
    if q = Nat.pow 10 count then (Text.ofNat (q / 10), digits.length)
    else (Text.ofNat q, digits.length - 1)

/-- An exponent in two digits at least. -/
def exponent (e : Nat) : Text :=
  ['e', '+'] ++ (if e < 10 then '0' :: Text.ofNat e else Text.ofNat e)

/-- The point and the digits behind it; without digits there is a point only if it is asked for. -/
def fraction (point : Bool) (digits : Text) : Text :=
  if digits.isEmpty && !point then [] else '.' :: digits

/-- Digits without the zeros at their end. -/
def withoutZeros (digits : Text) : Text := (digits.reverse.dropWhile (· == '0')).reverse

/-- A number with so many decimals: the digits before the point, and the rest. -/
def fixed (point : Bool) (precision n : Nat) : Text × Text :=
  (Text.ofNat n, fraction point (List.replicate precision '0'))

/-- A number with an exponent and so many decimals. -/
def scientific (point : Bool) (precision n : Nat) : Text × Text :=
  let (digits, e) := significant (precision + 1) n
  (digits.take 1, fraction point (digits.drop 1) ++ exponent e)

/-- A number in so many significant digits, with an exponent if there are more before the point;
zeros at the end are dropped, unless the point is asked for. -/
def general (point : Bool) (precision n : Nat) : Text × Text :=
  let count := max precision 1
  let (digits, e) := significant count n
  let trim := if point then id else withoutZeros
  if e < count then (digits.take (e + 1), fraction point (trim (digits.drop (e + 1))))
  else (digits.take 1, fraction point (trim (digits.drop 1)) ++ exponent e)

/-- The greatest precision of decimals. -/
def precisionLimit : Nat := 0x7fffffff

/-- How many decimals there are if nothing is said. -/
def standardPrecision : Nat := 6

/-- The digits of a number before the point, and the rest, for a type of decimal fractions. -/
def decimal (d : Directive) (n : Nat) : Text × Text :=
  let precision := d.precision.getD standardPrecision
  let upper (r : Text × Text) : Text × Text := (r.1, r.2.map Char.toUpper)
  match d.type with
  | 'e' => scientific d.alternate precision n
  | 'E' => upper (scientific d.alternate precision n)
  | 'g' => general d.alternate precision n
  | 'G' => upper (general d.alternate precision n)
  | '%' =>
    let (whole, rest) := fixed d.alternate precision (n * 100)
    (whole, rest ++ ['%'])
  | _ => fixed d.alternate precision n

/-- The base of a type of whole numbers, and its mark. -/
def base (type : Char) : Nat × Text :=
  match type with
  | 'b' => (2, ['0', 'b'])
  | 'o' => (8, ['0', 'o'])
  | 'x' => (16, ['0', 'x'])
  | 'X' => (16, ['0', 'X'])
  | _ => (10, [])

/-- The sign of a number that is not negative. -/
def sign (d : Directive) : Text :=
  match d.sign with
  | some '+' => ['+']
  | some ' ' => [' ']
  | _ => []

/-- How many digits form a group. -/
def groupSize (type : Char) : Nat := if (base type).1 = 10 then 3 else 4

/-- The parts of a number laid out to the width: what stands in front, the digits that are grouped,
and the rest. -/
def layOut (d : Directive) (front whole rest : Text) : Text :=
  let width := d.width.getD 0
  let used := front.length + rest.length
  let zeros := if d.fill = '0' ∧ d.alignment = .numeric then width - used else 0
  let digits :=
    if whole.isEmpty then [] else group d.separator (groupSize d.type) zeros whole
  let padding := width - (used + digits.length)
  let pad (n : Nat) : Text := List.replicate n d.fill
  match d.alignment with
  | .left => front ++ digits ++ rest ++ pad padding
  | .right => pad padding ++ front ++ digits ++ rest
  | .centred =>
    pad (padding / 2) ++ front ++ digits ++ rest ++ pad (padding - padding / 2)
  | .numeric => front ++ pad padding ++ digits ++ rest

/-- The types of whole numbers. -/
def wholeTypes : List Char := ['b', 'c', 'd', 'o', 'x', 'X', 'n']

/-- The types of decimal fractions. -/
def decimalTypes : List Char := ['e', 'E', 'f', 'F', 'g', 'G', '%']

/-- Why a directive cannot lay out a number of the given kind. -/
def refusal? (kind : Text) (d : Directive) : Option Malformed :=
  if wholeTypes.contains d.type then
    if d.precision.isSome then some .precisionOfNumber
    else if d.positiveZero then some .negativeZeroOfNumber
    else if d.type = 'c' ∧ d.sign.isSome then some .signOfCharacter
    else if d.type = 'c' ∧ d.alternate then some .alternateOfCharacter
    else none
  else if decimalTypes.contains d.type then
    if d.precision.any (precisionLimit < ·) then some .precisionTooBig else none
  else some (.unknownType d.type kind)

/-- The greatest code point. -/
def lastCode : Nat := 0x10ffff

/-- What stands in a text for a surrogate. -/
def replacement : Char := Char.ofNat 0xfffd

/-- The character of a code point. Texts hold no surrogates, so all of these are given by the
replacement character. -/
def character (n : Nat) : Char := if n.isValidChar then Char.ofNat n else replacement

/-- A number laid out by a directive that does not refuse it. -/
def ofDirective (d : Directive) (n : Nat) : Except Error Text :=
  if d.type = 'c' then
    if lastCode < n then .error .noSuchCharacter
    else .ok (layOut d [] [] [character n])
  else if decimalTypes.contains d.type then
    let (whole, rest) := decimal d n
    .ok (layOut d (sign d) whole rest)
  else
    let (radix, mark) := base d.type
    let digits := Nat.toDigits radix n
    let digits := if d.type = 'X' then digits.map Char.toUpper else digits
    .ok (layOut d (sign d ++ if d.alternate then mark else []) digits [])

end Numeral

/-- A number of the given kind laid out as the directive says. -/
def formatNumber (kind directive : Text) (n : Nat) : Except Error Text :=
  match Directive.ofText? (.number kind) directive with
  | .error fault => .error (.malformed fault)
  | .ok d =>
    match Numeral.refusal? kind d with
    | some fault => .error (.malformed fault)
    | none => Numeral.ofDirective d n

end OpScaffold.Template
