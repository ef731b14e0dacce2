import OpScaffold.HostFile.Block
import OpScaffold.HostFile.Point

/-!
# OpScaffold.HostFile.Basic

A host file as a sequence of plain lines and extension points. Reading it finds the anchor lines
of every entry, as often as the entry expects them, and gives each its block; no line is the anchor
of two entries, and no anchor stands inside the block of another. The parts make up the text
(`render_parse`).
-/

namespace OpScaffold

/-- A part of a host file. -/
inductive Part
  | line (t : Text)
  | point (p : ExtensionPoint)
  deriving DecidableEq, Repr

/-- The text of a part. -/
def Part.text : Part → Text
  | .line t => t
  | .point p => p.lines.flatten

/-- A host file. -/
structure HostFile where
  path : Text
  parts : List Part
  deriving DecidableEq, Repr

namespace HostFile

/-- The text of a host file. -/
def render (h : HostFile) : Text := h.parts.flatMap Part.text

/-- The extension points in their order. -/
def points (h : HostFile) : List ExtensionPoint :=
  h.parts.filterMap fun part => match part with
    | .point p => some p
    | .line _ => none

/-! ## Reading -/

/-- The anchor lines found so far, by their positions from zero, with their entries. -/
abbrev AnchorLines := List (Nat × Entry)

/-- The positions of the lines that are the anchor of an entry, from position `i` on. -/
def hits (anchor : Text) : (i : Nat) → List Text → List Nat
  | _, [] => []
  | i, line :: rest =>
    if line.trim = anchor then i :: hits anchor (i + 1) rest else hits anchor (i + 1) rest

/-- Adds the lines of an entry, which must not belong to another entry. -/
def addLines (path : Text) (entry : Entry) (anchors : AnchorLines) :
    List Nat → Except RegistryError AnchorLines
  | [] => .ok anchors
  | i :: rest =>
    if (anchors.lookup i).isSome then .error (.sharedAnchorLine path (i + 1))
    else addLines path entry (anchors ++ [(i, entry)]) rest

/-- Adds the anchor lines of an entry. -/
def addEntry (path : Text) (lines : List Text) (anchors : AnchorLines) (entry : Entry) :
    Except RegistryError AnchorLines :=
  let found := hits entry.anchor 0 lines
  if found.isEmpty then .error (.anchorNotFound path entry.anchor)
  else if (found.length : Int) ≠ entry.expected then
    .error (.anchorCount path entry.anchor found.length entry.expected)
  else addLines path entry anchors found

/-- The anchor lines of all entries. -/
def findAnchors (path : Text) (lines : List Text) (entries : List Entry) :
    Except RegistryError AnchorLines :=
  entries.foldlM (addEntry path lines) []

/-- The parts of the lines from position `i` on. -/
def assemble (path : Text) (anchors : AnchorLines) : (i : Nat) → (lines : List Text) →
    Except Failure (List Part)
  | _, [] => .ok []
  | i, line :: rest =>
    match anchors.lookup i with
    | none =>
      match assemble path anchors (i + 1) rest with
      | .error e => .error e
      | .ok parts => .ok (.line line :: parts)
    | some entry =>
      match entry.stop? with
      | .error e => .error (.pattern e)
      | .ok stop =>
        let block := Block.take line stop rest
        match anchors.find? fun (j, _) => i < j && j < i + 1 + block.length with
        | some (j, nested) =>
          .error (.registry (.nestedAnchor path nested.anchor (j + 1) entry.anchor))
        | none =>
          have : (Block.drop line stop rest).length ≤ rest.length :=
            Block.length_drop_le line stop rest
          match assemble path anchors (i + 1 + block.length) (Block.drop line stop rest) with
          | .error e => .error e
          | .ok parts => .ok (.point ⟨entry, line, block⟩ :: parts)
termination_by _ lines => lines.length

/-- Reads a host file. -/
def parse (path text : Text) (entries : List Entry) : Except Failure HostFile :=
  match findAnchors path text.lines entries with
  | .error e => .error (.registry e)
  | .ok anchors =>
    match assemble path anchors 0 text.lines with
    | .error e => .error e
    | .ok parts => .ok ⟨path, parts⟩

/-- The parts of lines make up the lines. -/
theorem flatMap_text_assemble {path : Text} {anchors : AnchorLines} {i : Nat} {lines : List Text}
    {parts : List Part} (h : assemble path anchors i lines = .ok parts) :
    parts.flatMap Part.text = lines.flatten := by
  fun_induction assemble path anchors i lines generalizing parts with
  | case1 => cases h; rfl
  | case2 => cases h
  | case3 i line rest _ parts' hp ih => cases h; simp [Part.text, ih hp]
  | case4 => cases h
  | case5 => cases h
  | case6 => cases h
  | case7 _ line rest _ _ stop _ block _ _ _ hp =>
    rename_i ih
    cases h
    have hrest : block.flatten ++ (Block.drop line stop rest).flatten = rest.flatten := by
      rw [← List.flatten_append, Block.take_append_drop]
    simp only [List.flatMap_cons, Part.text, ExtensionPoint.lines, ih hp, List.flatten_cons,
      List.append_assoc, hrest]

/-- Reading loses nothing. -/
theorem render_parse {path text : Text} {entries : List Entry} {h : HostFile}
    (hp : parse path text entries = .ok h) : h.render = text := by
  unfold parse at hp
  split at hp
  · cases hp
  · split at hp
    · cases hp
    · next parts hparts =>
      cases hp
      simp [render, flatMap_text_assemble hparts]

/-! ## Changes -/

/-- Changes extension point number `n` of some parts. -/
def modifyPoint (f : ExtensionPoint → ExtensionPoint) : (n : Nat) → List Part → List Part
  | _, [] => []
  | n, .line t :: rest => .line t :: modifyPoint f n rest
  | 0, .point p :: rest => .point (f p) :: rest
  | n + 1, .point p :: rest => .point p :: modifyPoint f n rest

/-- Appends a snippet at extension point number `n`. A snippet that the point rejects still closes
the point's last line. -/
def append (h : HostFile) (n : Nat) (snippet : List Text) : Except Failure Unit × HostFile :=
  match h.points[n]? with
  | none => (.error .noSuchItem, h)
  | some p =>
    (if p.rejects snippet then .error .noSuchItem else .ok (),
      { h with parts := modifyPoint (·.append snippet) n h.parts })

/-- An extension point with a variant registered in it; neither of its spellings may be there. -/
def registerAt (path : Text) (v : Variant) (p : ExtensionPoint) : Except Failure ExtensionPoint :=
  if p.hasToken v.name then .error (.registered path v.name p.entry.anchor)
  else if p.hasToken v.upper then .error (.registered path v.upper p.entry.anchor)
  else match p.entry.render v with
    | .error e => .error (.template e)
    | .ok snippet => .ok (p.append snippet)

/-- Parts with a variant registered at every extension point. -/
def registerParts (path : Text) (v : Variant) : List Part → Except Failure (List Part)
  | [] => .ok []
  | .line t :: rest =>
    match registerParts path v rest with
    | .error e => .error e
    | .ok parts => .ok (.line t :: parts)
  | .point p :: rest =>
    match registerAt path v p with
    | .error e => .error e
    | .ok q =>
      match registerParts path v rest with
      | .error e => .error e
      | .ok parts => .ok (.point q :: parts)

/-- A host file with a variant registered at every extension point. -/
def register (h : HostFile) (v : Variant) : Except Failure HostFile :=
  (registerParts h.path v h.parts).map fun parts => { h with parts }

end HostFile

end OpScaffold
