import OpScaffold.Template.Render
import OpScaffold.Text.Lines

/-!
# OpScaffold.Registry.Entry

An entry of the registry tells where the operators of one kind are listed in a host file: behind
which line, in which wording, and where the list ends.
-/

namespace OpScaffold

/-- An entry of the registry. -/
structure Entry where
  /-- The path of the host file below the root. -/
  path : Text
  /-- The line, without the white space around it, behind which the list stands. -/
  anchor : Text
  /-- The template of the lines that register an operator, without their indentation. -/
  template : Text
  /-- A pattern for the lines, without the white space around them, that end the list. -/
  blockEnd : Option Text := none
  /-- How often the anchor occurs in the file. -/
  expected : Int := 1
  deriving DecidableEq, Repr

namespace Entry

/-- The lines that register a variant. -/
def render (e : Entry) (v : Variant) : Except Template.Error (List Text) :=
  (Template.render e.template v).map (Text.pieces '\n')

/-- The pattern that ends a list; an empty one is none. -/
def stopText? (e : Entry) : Option Text :=
  match e.blockEnd with
  | some [] => none
  | blockEnd => blockEnd

/-- An entry as messages name it. -/
def label (e : Entry) : Text := e.path ++ " (".toList ++ e.anchor.quoted ++ [')']

/-- Rendered lines: there is always at least one. -/
theorem render_ne_nil {e : Entry} {v : Variant} {snippet : List Text}
    (h : e.render v = .ok snippet) : snippet ≠ [] := by
  unfold render at h
  cases ht : Template.render e.template v with
  | error _ => simp [ht, Except.map] at h
  | ok t =>
    simp only [ht, Except.map, Except.ok.injEq] at h
    exact h ▸ Text.pieces_ne_nil _ t

end Entry

end OpScaffold
