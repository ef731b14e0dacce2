import OpScaffold.Text.Basic

/-!
# OpScaffold.Text.Blank

White space, and texts with the white space at both ends removed. The class is the Unicode one
together with the four information separators U+001C to U+001F.
-/

namespace OpScaffold

/-- White space: the Unicode white space characters and the information separators. -/
def isBlank (c : Char) : Bool :=
  (9 ≤ c.toNat && c.toNat ≤ 13) || (28 ≤ c.toNat && c.toNat ≤ 32) || c.toNat == 0x85
    || c.toNat == 0xa0 || c.toNat == 0x1680 || (0x2000 ≤ c.toNat && c.toNat ≤ 0x200a)
    || c.toNat == 0x2028 || c.toNat == 0x2029 || c.toNat == 0x202f || c.toNat == 0x205f
    || c.toNat == 0x3000

namespace Text

/-- The text without its leading white space. -/
def trimLeft (t : Text) : Text := t.dropWhile isBlank

/-- The text without its trailing white space. -/
def trimRight (t : Text) : Text := (t.reverse.dropWhile isBlank).reverse

/-- The text without the white space at its ends. -/
def trim (t : Text) : Text := trimRight (trimLeft t)

/-- Whether the text holds nothing but white space. -/
def isBlankText (t : Text) : Bool := t.all isBlank

end Text

end OpScaffold
