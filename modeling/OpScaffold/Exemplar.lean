import OpScaffold.Failure
import OpScaffold.Files.Disk
import OpScaffold.Template.Render
import OpScaffold.Word

/-!
# OpScaffold.Exemplar

The file of a new operator is made after the file of an exemplar. The exemplar's source becomes a
template: its braces are doubled, its name and its capitals become fields where they stand between
delimiters, and so do the capitals where a rank is taken from an operator's number.
-/

namespace OpScaffold

/-- An operator after which others are made: its spellings, the path of its source, and the
directory in which operators have their files. -/
structure Exemplar where
  variant : Variant
  sourcePath : Text
  directory : Text
  deriving DecidableEq, Repr

namespace Exemplar

/-- The exemplar of the crate. -/
def standard : Exemplar :=
  ⟨⟨"sin".toList, "SIN".toList⟩, "src/op/sin.rs".toList, "src/op".toList⟩

/-- A text with its braces doubled, so that a template shows them as they are. -/
def escapeBraces (t : Text) : Text :=
  t.flatMap fun c => if c = '{' ∨ c = '}' then [c, c] else [c]

/-- What stands behind the capitals where a rank is taken from an operator's number. -/
def rankSuffix : Text := "_OP as usize".toList

/-- The field of the name. -/
def nameField : Text := "\x7bname\x7d".toList

/-- The field of the capitals. -/
def upperField : Text := "\x7bNAME\x7d".toList

/-- What is written where a rank is taken; the capitals in such a place are not delimited. -/
def rankTemplate : Text := upperField ++ rankSuffix

/-- The template that a source stands for. -/
def template (source : Text) (exemplar : Variant) : Text :=
  let names := replaceAll .delimited exemplar.name nameField (escapeBraces source)
  let capitals := replaceAll .delimited exemplar.upper upperField names
  replaceAll .anywhere (exemplar.upper ++ rankSuffix) rankTemplate capitals

/-- The path of the file of an operator. -/
def targetPath (root : Path) (directory : Text) (v : Variant) : Path :=
  (root.child directory).child (v.name ++ ".rs".toList)

/-- A question about files whose errors are failures. -/
def question {α : Type} : Except FileError α → Except Failure α
  | .ok a => .ok a
  | .error e => .error (.file e)

/-- The path and the text of the file of a new operator. -/
def instantiate (e : Exemplar) (t : FileTree) (root : Path) (v : Variant) :
    Except Failure (Path × Text) := do
  let source := root.child e.sourcePath
  let target := targetPath root e.directory v
  if !(← question (t.isFile? source)) then throw (.exemplarMissing e.sourcePath root)
  else if v.name = e.variant.name then throw (.isExemplar v.name)
  else if ← question (t.exists? target) then
    throw (.operatorExists e.directory (target.name?.getD []))
  else
    let text ← t.readText source
    match Template.render (template text e.variant) v with
    | .error fault => throw (.template fault)
    | .ok text => return (target, text)

end Exemplar

end OpScaffold
