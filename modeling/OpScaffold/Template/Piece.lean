import OpScaffold.Template.Error

/-!
# OpScaffold.Template.Piece

A template as a sequence of pieces: plain characters and fields. A field stands between braces and
holds the name of a value, then optionally `!` with a conversion, then optionally `:` with a
directive; a brace that is meant as a character is written twice.

`scan` reads one character at a time. A fault ends the sequence; the pieces before it are kept, since
a field among them may be wrong too and comes first.
-/

namespace OpScaffold.Template

/-- A field: the path of its value, the conversion applied to it and the directive that lays it
out. `nested` tells that the directive holds fields itself. -/
structure Field where
  path : Text
  conversion : Option Char := none
  directive : Text := []
  nested : Bool := false
  deriving DecidableEq, Repr

/-- A part of a template. -/
inductive Piece
  | char (c : Char)
  | field (f : Field)
  | fault (m : Malformed)
  deriving DecidableEq, Repr

/-- Where the reader of a template stands. -/
inductive Mode
  /-- Outside fields. -/
  | literal
  /-- Behind an opening brace. -/
  | opened
  /-- Behind a closing brace that closes nothing. -/
  | closed
  /-- In the path of a field, which reads `path` so far; inside brackets braces mean nothing. -/
  | path (path : Text) (inBrackets : Bool)
  /-- Behind the mark that announces a conversion. -/
  | marked (path : Text)
  /-- Behind the conversion. -/
  | converted (path : Text) (conversion : Option Char)
  /-- In the directive, with `depth` braces open. -/
  | directive (field : Field) (depth : Nat)
  deriving DecidableEq, Repr

/-- A conversion by the character U+0000 is none. -/
def conversionOf (c : Char) : Option Char := if c.toNat = 0 then none else some c

/-- One character in the path of a field. -/
def stepPath (path : Text) (c : Char) : List Piece × Option Mode :=
  if c = '{' then ([.fault .braceInFieldName], none)
  else if c = '}' then ([.field ⟨path, none, [], false⟩], some .literal)
  else if c = ':' then ([], some (.directive ⟨path, none, [], false⟩ 1))
  else if c = '!' then ([], some (.marked path))
  else ([], some (.path (path ++ [c]) (c == '[')))

/-- Reads one character: the pieces that it completes, and where the reader stands then, unless
there was a fault. -/
def step : Mode → Char → List Piece × Option Mode
  | .literal, c =>
    if c = '{' then ([], some .opened)
    else if c = '}' then ([], some .closed)
    else ([.char c], some .literal)
  | .opened, c => if c = '{' then ([.char '{'], some .literal) else stepPath [] c
  | .closed, c =>
    if c = '}' then ([.char '}'], some .literal) else ([.fault .loneClosingBrace], none)
  | .path path true, c => ([], some (.path (path ++ [c]) (c != ']')))
  | .path path false, c => stepPath path c
  | .marked path, c => ([], some (.converted path (conversionOf c)))
  | .converted path conversion, c =>
    if c = '}' then ([.field ⟨path, conversion, [], false⟩], some .literal)
    else if c = ':' then ([], some (.directive ⟨path, conversion, [], false⟩ 1))
    else ([.fault .textAfterConversion], none)
  | .directive f depth, c =>
    if c = '}' ∧ depth ≤ 1 then ([.field f], some .literal)
    else
      let f' := { f with directive := f.directive ++ [c], nested := f.nested || c == '{' }
      let depth' := if c = '{' then depth + 1 else if c = '}' then depth - 1 else depth
      ([], some (.directive f' depth'))

/-- The end of the template. -/
def finish : Mode → List Piece
  | .literal => []
  | .opened => [.fault .loneOpeningBrace]
  | .closed => [.fault .loneClosingBrace]
  | .path _ _ => [.fault .unclosedField]
  | .marked _ => [.fault .missingConversion]
  | .converted _ _ => [.fault .unclosedDirective]
  | .directive _ _ => [.fault .unclosedDirective]

/-- The pieces of a text, read from mode `m` on. -/
def scan : Mode → Text → List Piece
  | m, [] => finish m
  | m, c :: t =>
    match step m c with
    | (pieces, none) => pieces
    | (pieces, some m') => pieces ++ scan m' t

/-- The pieces of a template. -/
def pieces (template : Text) : List Piece := scan .literal template

/-- A character that is no brace is a piece of its own. -/
theorem pieces_cons {c : Char} (ho : c ≠ '{') (hc : c ≠ '}') (t : Text) :
    pieces (c :: t) = .char c :: pieces t := by
  simp [pieces, scan, step, ho, hc]

@[simp] theorem pieces_nil : pieces [] = [] := rfl

@[simp] theorem pieces_openBraces (t : Text) : pieces ('{' :: '{' :: t) = .char '{' :: pieces t :=
  rfl

@[simp] theorem pieces_closeBraces (t : Text) : pieces ('}' :: '}' :: t) = .char '}' :: pieces t :=
  rfl

end OpScaffold.Template
