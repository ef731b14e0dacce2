import OpScaffold.Pattern.Syntax

/-!
# OpScaffold.Pattern.Alternatives

Alternatives as one pattern. What all branches start with is taken out and stands before them, as
far as it matches in one way only; and branches that are single characters or sets form one set.
So `\w|_` is a set, and `ab|ac` is `a` before the set of `b` and `c`.
-/

namespace OpScaffold.Pattern

namespace Node

/-- Whether a pattern matches in one way only wherever it is tried, so that branches can share
it. -/
def isPlain : Node → Bool
  | .any | .set _ _ | .anchor _ | .reference _ _ => true
  | _ => false

/-- What the branch `first` and the other branches start with, and what is left of each. -/
def sharedHead (first : List Node) (others : List (List Node)) :
    List Node × List (List Node) :=
  match first with
  | [] => ([], [] :: others)
  | head :: tail =>
    if head.isPlain && others.all (·.head? == some head) then
      let (shared, rests) := sharedHead tail (others.map List.tail)
      (head :: shared, rests)
    else ([], (head :: tail) :: others)

/-- The items of a branch that is a set of characters. -/
def setItems? : List Node → Option (List SetItem)
  | [.set false items] => some items
  | _ => none

/-- Branches that are sets of characters, as one set. -/
def union? (branches : List (List Node)) : Option Node :=
  (branches.mapM setItems?).map fun items => .set false items.flatten.eraseDups

/-- Patterns of which one matches; the first ones are tried first. -/
def choice : List Node → Node
  | [] => .empty
  | [node] => node
  | node :: rest => .alt node (choice rest)

/-- Branches, each a list of patterns one behind the other, as one such list. -/
def alternatives : List (List Node) → List Node
  | [] => []
  | [branch] => branch
  | first :: others =>
    let (shared, rests) := sharedHead first others
    shared ++ [(union? rests).getD (choice (rests.map sequence))]

/-- Branches as one pattern. -/
def ofBranches (branches : List (List Node)) : Node := sequence (alternatives branches)

end Node

end OpScaffold.Pattern
