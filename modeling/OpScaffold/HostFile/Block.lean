import OpScaffold.Failure
import OpScaffold.Pattern.Match

/-!
# OpScaffold.HostFile.Block

The block of operators behind an anchor line: the longest run of lines that are not blank, are
indented at least as far as the anchor, and do not match the pattern that ends the list.
-/

namespace OpScaffold

/-- The pattern that ends the blocks of an entry, if it has one. -/
def Entry.stop? (e : Entry) : Except Pattern.Error (Option Pattern) :=
  match e.stopText? with
  | none => .ok none
  | some text => (Pattern.ofText text).map some

namespace Block

/-- Whether a line belongs to the block of an anchor line with the given indentation width. -/
def continues (indent : Nat) (stop : Option Pattern) (line : Text) : Bool :=
  !line.isBlankText && indent ≤ line.indent.length && !stop.any (·.matchesAll line.trim)

/-- The block at the start of the lines behind an anchor line. -/
def take (anchorLine : Text) (stop : Option Pattern) (rest : List Text) : List Text :=
  rest.takeWhile (continues anchorLine.indent.length stop)

/-- The lines behind the block. -/
def drop (anchorLine : Text) (stop : Option Pattern) (rest : List Text) : List Text :=
  rest.dropWhile (continues anchorLine.indent.length stop)

/-- Block and rest make up the lines. -/
@[simp] theorem take_append_drop (anchorLine : Text) (stop : Option Pattern) (rest : List Text) :
    take anchorLine stop rest ++ drop anchorLine stop rest = rest :=
  List.takeWhile_append_dropWhile

/-- Every line of a block belongs to it. -/
theorem continues_of_mem_take {anchorLine line : Text} {stop : Option Pattern} {rest : List Text}
    (h : line ∈ take anchorLine stop rest) : continues anchorLine.indent.length stop line := by
  unfold take at h
  induction rest with
  | nil => simp at h
  | cons l rest ih =>
    rw [List.takeWhile_cons] at h
    split at h
    · rcases List.mem_cons.1 h with rfl | h
      · assumption
      · exact ih h
    · simp at h

theorem length_drop_le (anchorLine : Text) (stop : Option Pattern) (rest : List Text) :
    (drop anchorLine stop rest).length ≤ rest.length :=
  (List.dropWhile_suffix _).length_le

/-- The position of a line that is counted from the start, or from the end if it is negative. -/
def position? (count : Nat) (index : Int) : Option Nat :=
  let n := if index < 0 then index + count else index
  if 0 ≤ n ∧ n < count then some n.toNat else none

/-- The index of the first line behind the block of the anchor line `start`. Behind a line counted
from the end the search goes on at the start of the lines, as the indices do. -/
def findEnd (lines : List Text) (start : Int) (entry : Entry) : Except Failure Int :=
  match position? lines.length start with
  | none => .error .noSuchItem
  | some i =>
    match lines[i]?, entry.stop? with
    | none, _ => .error .noSuchItem
    | _, .error e => .error (.pattern e)
    | some anchorLine, .ok stop =>
      let rest := lines.drop (i + 1) ++ (if start < 0 then lines else [])
      .ok (start + 1 + (take anchorLine stop rest).length)

end Block

end OpScaffold
