import OpScaffold.Registry.Entry
import OpScaffold.Word

/-!
# OpScaffold.HostFile.Point

An extension point of a host file: an anchor line and the block of operators behind it. New lines
are added at the end of the block, with the indentation and the newline sequence of the anchor
line. Where the block ends in an unterminated line, that line is terminated and the last new line
is left without an end in its place.
-/

namespace OpScaffold

/-- An anchor line and its block. -/
structure ExtensionPoint where
  entry : Entry
  anchorLine : Text
  block : List Text
  deriving DecidableEq, Repr

namespace ExtensionPoint

/-- All lines of the point. -/
def lines (p : ExtensionPoint) : List Text := p.anchorLine :: p.block

/-- The indentation of new lines. -/
def indent (p : ExtensionPoint) : Text := p.anchorLine.indent

/-- The newline sequence of an anchor line, a line feed if it has none. -/
def newlineOf (anchorLine : Text) : Text :=
  if anchorLine.isTerminated then anchorLine.terminator else ['\n']

/-- Three newline sequences are known. -/
theorem newlineOf_cases (anchorLine : Text) : newlineOf anchorLine = ['\n'] ∨
    newlineOf anchorLine = ['\r'] ∨ newlineOf anchorLine = ['\r', '\n'] := by
  unfold newlineOf Text.isTerminated Text.terminator
  split <;> split <;> simp_all

/-- The newline sequence of new lines. -/
def newline (p : ExtensionPoint) : Text := newlineOf p.anchorLine

/-- The last line. -/
def lastLine (p : ExtensionPoint) : Text := p.block.getLastD p.anchorLine

/-- Whether the last line has no newline sequence at its end. -/
def isOpen (p : ExtensionPoint) : Bool := !p.lastLine.isTerminated

/-- Whether the token is registered in the block. -/
def hasToken (p : ExtensionPoint) (token : Text) : Bool :=
  p.block.any (occurs .word token)

/-- A new line with its indentation; an empty one has none. -/
def indented (p : ExtensionPoint) (line : Text) : Text :=
  if line.isEmpty then [] else p.indent ++ line

/-- New lines; `isLast` tells that the last one is left without an end. -/
def newLines (p : ExtensionPoint) (isLast : Bool) : (snippet : List Text) → List Text
  | [] => []
  | [line] => [p.indented line ++ (if isLast then [] else p.newline)]
  | line :: rest => (p.indented line ++ p.newline) :: p.newLines isLast rest

/-- The point with its last line terminated. -/
def close (p : ExtensionPoint) : ExtensionPoint :=
  match p.block.getLast? with
  | none => { p with anchorLine := p.anchorLine ++ p.newline }
  | some line => { p with block := p.block.dropLast ++ [line ++ p.newline] }

/-- The point with a snippet at its end. -/
def append (p : ExtensionPoint) (snippet : List Text) : ExtensionPoint :=
  let closed := if p.isOpen then p.close else p
  { closed with block := closed.block ++ p.newLines p.isOpen snippet }

/-- Whether a snippet cannot take the place of the last line: at an open end it must have a line
to leave open. -/
def rejects (p : ExtensionPoint) (snippet : List Text) : Bool := p.isOpen && snippet.isEmpty

/-! ## The text of an extended point -/

/-- New lines that are all terminated. -/
theorem newLines_false (p : ExtensionPoint) (snippet : List Text) :
    p.newLines false snippet = snippet.map fun line => p.indented line ++ p.newline := by
  induction snippet with
  | nil => rfl
  | cons line rest ih =>
    cases rest with
    | nil => rfl
    | cons next rest => rw [newLines, ih] <;> simp

/-- Closing a point adds a newline sequence to its text. -/
theorem flatten_lines_close (p : ExtensionPoint) :
    p.close.lines.flatten = p.lines.flatten ++ p.newline := by
  unfold close
  split
  · next h => simp [lines, List.getLast?_eq_none_iff.1 h]
  · next line h =>
    obtain ⟨rest, hb⟩ := List.getLast?_eq_some_iff.1 h
    simp [lines, hb]

/-- Appending leaves the text of a point as it is and adds to its end: the newline sequence that an
open end lacks, then the new lines. -/
theorem flatten_lines_append (p : ExtensionPoint) (snippet : List Text) :
    (p.append snippet).lines.flatten =
      p.lines.flatten ++ (if p.isOpen then p.newline else [])
        ++ (p.newLines p.isOpen snippet).flatten := by
  unfold append
  cases p.isOpen with
  | true =>
    have hc : ({ p.close with block := p.close.block ++ p.newLines true snippet } :
        ExtensionPoint).lines = p.close.lines ++ p.newLines true snippet := rfl
    simp only [if_true, hc, List.flatten_append, flatten_lines_close]
  | false => simp [lines]

end ExtensionPoint

end OpScaffold
