import OpScaffold.Text.Quoted

/-!
# OpScaffold.Template.Error

What can be wrong with a snippet template. `Malformed` holds the faults of its wording; the other
errors arise when a well-formed field is looked up or laid out.
-/

namespace OpScaffold.Template

/-- A fault in the wording of a template or of one of its format directives. -/
inductive Malformed
  | loneOpeningBrace
  | loneClosingBrace
  | braceInFieldName
  | unclosedField
  | missingConversion
  | textAfterConversion
  | unclosedDirective
  | tooManyDigits
  | unclosedBracket
  | emptyMember
  | textAfterBracket
  | unknownConversion (c : Char)
  | nestedTooDeep
  | malformedDirective (directive kind : Text)
  | separatorNotAllowed (separator type : Char)
  | twoSeparators
  | missingPrecision
  | unknownType (type : Char) (kind : Text)
  | signNotAllowed
  | spaceNotAllowed
  | negativeZeroNotAllowed
  | alternateNotAllowed
  | numericAlignmentNotAllowed
  | precisionOfNumber
  | precisionTooBig
  | negativeZeroOfNumber
  | signOfCharacter
  | alternateOfCharacter
  deriving DecidableEq, Repr

/-- A character as a message shows it: itself if it is visible ASCII below `bound`, else its
code. -/
def shownCode (bound : Nat) (c : Char) : Text :=
  if 32 < c.toNat ∧ c.toNat < bound then [c] else '\\' :: 'x' :: Text.hex c.toNat

/-- The text shown for a fault. -/
def Malformed.message : Malformed → Text
  | .loneOpeningBrace => "Single '\x7b' encountered in format string".toList
  | .loneClosingBrace => "Single '\x7d' encountered in format string".toList
  | .braceInFieldName => "unexpected '\x7b' in field name".toList
  | .unclosedField => "expected '\x7d' before end of string".toList
  | .missingConversion => "end of string while looking for conversion specifier".toList
  | .textAfterConversion => "expected ':' after conversion specifier".toList
  | .unclosedDirective => "unmatched '\x7b' in format spec".toList
  | .tooManyDigits => "Too many decimal digits in format string".toList
  | .unclosedBracket => "Missing ']' in format string".toList
  | .emptyMember => "Empty attribute in format string".toList
  | .textAfterBracket => "Only '.' or '[' may follow ']' in format field specifier".toList
  | .unknownConversion c => "Unknown conversion specifier ".toList ++ shownCode 127 c
  | .nestedTooDeep => "Max string recursion exceeded".toList
  | .malformedDirective directive kind =>
    "Invalid format specifier '".toList ++ directive ++ "' for object of type '".toList ++ kind
      ++ "'".toList
  | .separatorNotAllowed separator type =>
    "Cannot specify '".toList ++ [separator] ++ "' with '".toList ++ shownCode 128 type
      ++ "'.".toList
  | .twoSeparators => "Cannot specify both ',' and '_'.".toList
  | .missingPrecision => "Format specifier missing precision".toList
  | .unknownType type kind =>
    "Unknown format code '".toList ++ shownCode 128 type ++ "' for object of type '".toList ++ kind
      ++ "'".toList
  | .signNotAllowed => "Sign not allowed in string format specifier".toList
  | .spaceNotAllowed => "Space not allowed in string format specifier".toList
  | .negativeZeroNotAllowed =>
    "Negative zero coercion (z) not allowed in string format specifier".toList
  | .alternateNotAllowed => "Alternate form (#) not allowed in string format specifier".toList
  | .numericAlignmentNotAllowed =>
    "'=' alignment not allowed in string format specifier".toList
  | .precisionOfNumber => "Precision not allowed in integer format specifier".toList
  | .precisionTooBig => "precision too big".toList
  | .negativeZeroOfNumber =>
    "Negative zero coercion (z) not allowed in integer format specifier".toList
  | .signOfCharacter => "Sign not allowed with integer format specifier 'c'".toList
  | .alternateOfCharacter =>
    "Alternate form (#) not allowed with integer format specifier 'c'".toList

/-- What stands in brackets behind a value: a position, or any other text. -/
inductive Key
  | position (n : Nat)
  | name (t : Text)
  deriving DecidableEq, Repr

/-- A key as a message shows it. -/
def Key.shown : Key → Text
  | .position n => Text.ofNat n
  | .name t => t.quoted

/-- Values that have items by position. -/
inductive Sequence
  | text
  | tuple
  deriving DecidableEq, Repr

/-- Why a template cannot be rendered. -/
inductive Error
  /-- The wording is at fault. -/
  | malformed (fault : Malformed)
  /-- There is no field of this name. -/
  | unknownField (name : Text)
  /-- A field is asked for by number; fields have names only. -/
  | numberedField (index : Nat)
  /-- A position beyond the end of a value. -/
  | indexOutOfRange (sequence : Sequence)
  /-- A key that is no position, for a value that has items by position. -/
  | indexNotNumeric (sequence : Sequence)
  /-- A value that has items by name has none of this name. -/
  | unknownKey (key : Key)
  /-- A value of the given kind has no member of this name. -/
  | unknownMember (kind name : Text)
  /-- The given kind has no member of this name. -/
  | unknownKindMember (kind name : Text)
  /-- A member that kinds list and do not give. -/
  | withheldMember (name : Text)
  /-- A value of the given kind has no items. -/
  | notIndexable (kind : Text)
  /-- The given kind takes no argument. -/
  | kindNotIndexable (kind : Text)
  /-- A kind that has its argument takes no other. -/
  | alreadyParametrised (shown : Text)
  /-- A value of the given kind takes no format directive. -/
  | notFormattable (kind : Text)
  /-- A number is the code point of no character. -/
  | noSuchCharacter
  deriving DecidableEq, Repr

/-- The text shown for an error. -/
def Error.message : Error → Text
  | .malformed fault => fault.message
  | .unknownField name => Text.quoted name
  | .numberedField index =>
    "Replacement index ".toList ++ Text.ofNat index
      ++ " out of range for positional args tuple".toList
  | .indexOutOfRange .text => "string index out of range".toList
  | .indexOutOfRange .tuple => "tuple index out of range".toList
  | .indexNotNumeric .text => "string indices must be integers, not 'str'".toList
  | .indexNotNumeric .tuple => "tuple indices must be integers or slices, not str".toList
  | .unknownKey key => key.shown
  | .unknownMember kind name =>
    "'".toList ++ kind ++ "' object has no attribute '".toList ++ name ++ "'".toList
  | .unknownKindMember kind name =>
    "type object '".toList ++ kind ++ "' has no attribute '".toList ++ name ++ "'".toList
  | .withheldMember name => name
  | .notIndexable kind => "'".toList ++ kind ++ "' object is not subscriptable".toList
  | .kindNotIndexable kind => "type '".toList ++ kind ++ "' is not subscriptable".toList
  | .alreadyParametrised shown => shown ++ " is not a generic class".toList
  | .notFormattable kind =>
    "unsupported format string passed to ".toList ++ kind ++ ".__format__".toList
  | .noSuchCharacter => "%c arg not in range(0x110000)".toList

/-- Whether the template names a field, a place or a key that does not exist, or is malformed. The
other errors misuse a value that does exist. -/
def Error.isBadTemplate : Error → Bool
  | .malformed _ | .unknownField _ | .numberedField _ | .indexOutOfRange _ | .unknownKey _ => true
  | .indexNotNumeric _ | .unknownMember _ _ | .unknownKindMember _ _ | .withheldMember _
  | .notIndexable _ | .kindNotIndexable _ | .alreadyParametrised _ | .notFormattable _
  | .noSuchCharacter => false

end OpScaffold.Template
