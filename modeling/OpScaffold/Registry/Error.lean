import OpScaffold.Pattern.Error
import OpScaffold.Registry.Entry

/-!
# OpScaffold.Registry.Error

What can be wrong with the registry, and with host files that do not have the structure that it
expects.
-/

namespace OpScaffold

/-- A fault of the registry or of a host file. -/
inductive RegistryError
  | noEntries
  | repeatedEntry (entry : Entry)
  | blankAnchor (path : Text)
  | noneExpected (entry : Entry)
  | badTemplate (entry : Entry) (e : Template.Error)
  | badBlockEnd (entry : Entry) (e : Pattern.Error)
  | missingFile (path : Text)
  | anchorNotFound (path anchor : Text)
  | anchorCount (path anchor : Text) (found : Nat) (expected : Int)
  | sharedAnchorLine (path : Text) (line : Nat)
  /-- The anchor of one block stands inside another block. -/
  | nestedAnchor (path anchor : Text) (line : Nat) (outer : Text)
  deriving DecidableEq, Repr

/-- The text shown for a fault. Lines are counted from one. -/
def RegistryError.message : RegistryError → Text
  | .noEntries => "host file registry is empty".toList
  | .repeatedEntry entry => entry.label ++ ": listed twice in the registry".toList
  | .blankAnchor path => path ++ ": empty anchor".toList
  | .noneExpected entry => entry.label ++ ": expected count must be at least 1".toList
  | .badTemplate entry e => entry.label ++ ": bad snippet template: ".toList ++ e.message
  | .badBlockEnd entry e => entry.label ++ ": bad block_end pattern: ".toList ++ e.message
  | .missingFile path => "host file ".toList ++ path ++ " does not exist".toList
  | .anchorNotFound path anchor =>
    path ++ ": anchor ".toList ++ anchor.quoted ++ " not found".toList
  | .anchorCount path anchor found expected =>
    path ++ ": anchor ".toList ++ anchor.quoted ++ " found ".toList ++ Text.ofNat found
      ++ " times, expected ".toList ++ Text.ofInt expected
  | .sharedAnchorLine path line =>
    path ++ ": line ".toList ++ Text.ofNat line
      ++ " is the anchor of more than one entry".toList
  | .nestedAnchor path anchor line outer =>
    path ++ ": anchor ".toList ++ anchor.quoted ++ " on line ".toList ++ Text.ofNat line
      ++ " is inside the block of ".toList ++ outer.quoted

end OpScaffold
