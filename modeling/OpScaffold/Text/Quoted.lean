import OpScaffold.Text.Basic
import OpScaffold.Text.Printable

/-!
# OpScaffold.Text.Quoted

The quoted form of a text, used where a message shows an anchor, a file name or an argument. The
text stands between apostrophes, or between quotation marks if it holds an apostrophe and no
quotation mark. Backslashes, the chosen quote, line ends, tabs and unprintable characters are
escaped.
-/

namespace OpScaffold

namespace Text

/-- The quote around a text. -/
def quoteFor (t : Text) : Char :=
  if t.contains '\'' && !t.contains '"' then '"' else '\''

/-- A character by its code: two hexadecimal digits, four beyond U+00FF, eight beyond U+FFFF. -/
def escapeCode (n : Nat) : Text :=
  if n < 0x100 then '\\' :: 'x' :: hexPadded 2 n
  else if n < 0x10000 then '\\' :: 'u' :: hexPadded 4 n
  else '\\' :: 'U' :: hexPadded 8 n

/-- One character inside quotes; `plain` tells which characters are shown as they are. -/
def escapeChar (plain : Char → Bool) (quote c : Char) : Text :=
  if c = quote ∨ c = '\\' then ['\\', c]
  else if c = '\t' then ['\\', 't']
  else if c = '\n' then ['\\', 'n']
  else if c = '\r' then ['\\', 'r']
  else if plain c then [c]
  else escapeCode c.toNat

/-- A text between quotes, with the characters outside `plain` escaped. -/
def quotedWith (plain : Char → Bool) (t : Text) : Text :=
  quoteFor t :: t.flatMap (escapeChar plain (quoteFor t)) ++ [quoteFor t]

/-- The quoted form of a text. -/
def quoted (t : Text) : Text := quotedWith isPrintable t

/-- The quoted form of a text in ASCII characters. -/
def quotedAscii (t : Text) : Text :=
  quotedWith (fun c => 32 ≤ c.toNat && c.toNat < 127) t

end Text

end OpScaffold
