import OpScaffold.Template.Directive
import OpScaffold.Template.Lookup
import OpScaffold.Template.Numeral
import OpScaffold.Template.Piece

/-!
# OpScaffold.Template.Render

Templates filled in for a variant. Pieces are filled in from left to right and the first error
ends the work. A directive may hold fields of its own, but those may not: `expand` takes the
number of levels that are left.
-/

namespace OpScaffold.Template

/-- A value after its conversion: `s` shows it, `r` quotes the texts in it, `a` quotes them in
ASCII. -/
def convert (value : Value) : Option Char → Except Error Value
  | none => .ok value
  | some 's' => .ok (.text value.shown)
  | some 'r' => .ok (.text (value.quotedWith Text.quoted))
  | some 'a' => .ok (.text (value.quotedWith Text.quotedAscii))
  | some c => .error (.malformed (.unknownConversion c))

/-- A value laid out by a directive; only texts and numbers take one, and truth values, which are
laid out as numbers. -/
def format (directive : Text) (value : Value) : Except Error Text :=
  if directive.isEmpty then .ok value.shown
  else match value with
    | .text t => (formatText directive t).mapError Error.malformed
    | .number n => formatNumber value.kind.name directive n
    | .truth b => formatNumber value.kind.name directive b.toNat
    | _ => .error (.notFormattable value.kind.name)

/-- A field filled in; `inner` fills in the fields of its directive. -/
def expandField (v : Variant) (inner : Text → Except Error Text) (f : Field) :
    Except Error Text := do
  let value ← convert (← lookup v f.path) f.conversion
  let directive ← if f.nested then inner f.directive else .ok f.directive
  format directive value

/-- A piece filled in. -/
def expandPiece (v : Variant) (inner : Text → Except Error Text) : Piece → Except Error Text
  | .char c => .ok [c]
  | .field f => expandField v inner f
  | .fault m => .error (.malformed m)

/-- Pieces filled in, up to the first error. -/
def expandPieces (v : Variant) (inner : Text → Except Error Text) :
    List Piece → Except Error Text
  | [] => .ok []
  | p :: rest =>
    match expandPiece v inner p with
    | .error e => .error e
    | .ok t =>
      match expandPieces v inner rest with
      | .error e => .error e
      | .ok u => .ok (t ++ u)

/-- A template filled in, with `levels` levels of fields left. -/
def expand (v : Variant) : (levels : Nat) → Text → Except Error Text
  | 0, _ => .error (.malformed .nestedTooDeep)
  | levels + 1, t => expandPieces v (expand v levels) (pieces t)

/-- A template filled in for a variant: its fields, and fields in their directives. -/
def render (template : Text) (v : Variant) : Except Error Text := expand v 2 template

/-! ## Equations -/

/-- A plain name is its own path. -/
@[simp] theorem lookup_name (v : Variant) : lookup v "name".toList = .ok (.text v.name) := rfl

@[simp] theorem lookup_NAME (v : Variant) : lookup v "NAME".toList = .ok (.text v.upper) := rfl

/-- A character is filled in as itself. -/
@[simp] theorem expandPieces_char (v : Variant) (inner : Text → Except Error Text) (c : Char)
    (rest : List Piece) :
    expandPieces v inner (.char c :: rest) = (expandPieces v inner rest).map (c :: ·) := by
  simp only [expandPieces, expandPiece]
  cases expandPieces v inner rest <;> rfl

end OpScaffold.Template
