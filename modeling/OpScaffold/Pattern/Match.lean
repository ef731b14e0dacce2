import OpScaffold.Pattern.Basic

/-!
# OpScaffold.Pattern.Match

Whether a pattern matches a whole text. A search tries the choices of a pattern in their order and
goes back to the last one when the rest fails; it is given what becomes of the place behind the
pattern, so the rest of the pattern takes part in every choice. A repetition that matches the empty
text is not repeated further at that place, so matching ends.
-/

namespace OpScaffold

namespace Pattern

/-- A place in the text: the characters behind it, the nearest first, those ahead of it, the number
of either, and the positions where each group was last opened and closed. -/
structure Place where
  behind : Text
  ahead : Text
  position : Nat := behind.length
  remaining : Nat := ahead.length
  opened : List (Nat × Nat) := []
  closed : List (Nat × Nat) := []
  deriving DecidableEq, Repr

namespace Place

/-- The place one character on, if the character ahead is accepted. -/
def step? (p : Place) (accepts : Char → Bool) : Option Place :=
  match p.ahead with
  | [] => none
  | c :: rest =>
    if accepts c then
      some { p with
        behind := c :: p.behind, ahead := rest
        position := p.position + 1, remaining := p.remaining - 1 }
    else none

/-- The place behind the expected characters, if they come next. -/
def stepAll? (p : Place) (same : Char → Char → Bool) : (expected : Text) → Option Place
  | [] => some p
  | c :: rest =>
    match p.step? (same c) with
    | some q => q.stepAll? same rest
    | none => none

/-- The place `n` characters back. -/
def back? (p : Place) : (n : Nat) → Option Place
  | 0 => some p
  | n + 1 =>
    match p.behind with
    | [] => none
    | c :: rest =>
      { p with
        behind := rest, ahead := c :: p.ahead
        position := p.position - 1, remaining := p.remaining + 1 }.back? n

/-- Where a group that has matched begins and ends. -/
def span? (p : Place) (n : Nat) : Option (Nat × Nat) :=
  match p.opened.lookup n, p.closed.lookup n with
  | some start, some stop => if start ≤ stop then some (start, stop) else none
  | _, _ => none

/-- The text of a group that has matched. -/
def captured? (p : Place) (n : Nat) : Option Text :=
  (p.span? n).map fun (start, stop) =>
    ((p.behind.reverse ++ p.ahead).drop start).take (stop - start)

end Place

/-- Codes that count as the same character as the code `n`. -/
def sameCodes (flags : Flags) (n : Nat) : List Nat :=
  if !flags.contains .ignoreCase then [n]
  else if flags.contains .ascii then
    if 65 ≤ n ∧ n ≤ 90 then [n, n + 32] else if 97 ≤ n ∧ n ≤ 122 then [n, n - 32] else [n]
  else caseVariants n

/-- The code that stands for a character among those that count as the same. -/
def foldedCode (flags : Flags) (c : Char) : Nat :=
  if !flags.contains .ignoreCase then c.toNat
  else if flags.contains .ascii then c.toLower.toNat
  else lowerCode c.toNat

/-- The last code of the basic plane. -/
def lastBasic : Nat := 0xffff

/-- Whether a character belongs to an item of a set. A set that ignores case holds the characters
of the basic plane in every case. A single character beyond that plane is held as it is written,
while the text is looked at in lower case; a range that reaches beyond it is tried with the lower
case of the text and with the capital of that. -/
def SetItem.contains (flags : Flags) (c : Char) : SetItem → Bool
  | .code n =>
    if n ≤ lastBasic then (sameCodes flags c.toNat).contains n else foldedCode flags c == n
  | .range low high =>
    let inRange (n : Nat) : Bool := low ≤ n && n ≤ high
    if flags.contains .ignoreCase && lastBasic < high then
      let lower := foldedCode flags c
      (sameCodes flags c.toNat).any (fun n => n ≤ lastBasic && inRange n)
        || inRange lower || inRange (upperCode lower)
    else (sameCodes flags c.toNat).any inRange
  | .ofClass k negated => k.contains (flags.contains .ascii) c != negated

/-- Whether a character is among the items of a set. One character alone is no set: in every case
it is met. -/
def setContains (flags : Flags) (c : Char) : List SetItem → Bool
  | [.code n] => (sameCodes flags c.toNat).contains n
  | items => items.any (·.contains flags c)

/-- Whether a word character stands on exactly one side of a place. -/
def atBoundary (flags : Flags) (p : Place) : Bool :=
  let isWord := CharClass.word.contains (flags.contains .ascii)
  p.behind.head?.any isWord != p.ahead.head?.any isWord

/-- Whether a condition holds at a place. In an empty text there is neither a boundary nor a place
that is none. -/
def Anchor.holds (flags : Flags) (p : Place) : Anchor → Bool
  | .lineStart => p.behind.isEmpty || (flags.contains .multiline && p.behind.head? == some '\n')
  | .lineEnd =>
    p.ahead.isEmpty || p.ahead == ['\n']
      || (flags.contains .multiline && p.ahead.head? == some '\n')
  | .textStart => p.behind.isEmpty
  | .textEnd => p.ahead.isEmpty
  | .boundary => !(p.behind.isEmpty && p.ahead.isEmpty) && atBoundary flags p
  | .noBoundary => !(p.behind.isEmpty && p.ahead.isEmpty) && !atBoundary flags p

/-- What becomes of a place: the place where matching ends, if it succeeds from there. -/
abbrev Rest := Place → Option Place

/-- A pattern as a search: what becomes of a place if the rest takes over behind the pattern. -/
abbrev Search := Rest → Place → Option Place

namespace Search

/-- The first outcome if there is one, else the second. -/
def orElse (first : Option Place) (second : Unit → Option Place) : Option Place :=
  match first with
  | some p => some p
  | none => second ()

/-- A search that keeps the first match of `body`. -/
def once (body : Search) : Search := fun rest p => (body some p).bind rest

/-- Repeats a search between `min` and `max` times, many times first. `count` repetitions are done,
and the last of the optional ones began at position `last`. -/
def greedy (body : Search) (min : Nat) (max : Option Nat) (rest : Rest) :
    (fuel count : Nat) → (last : Option Nat) → Place → Option Place
  | 0, _, _, _ => none
  | fuel + 1, count, last, p =>
    if count < min then body (greedy body min max rest fuel (count + 1) last) p
    else if max.all (count < ·) && last != some p.position then
      orElse (body (greedy body min max rest fuel (count + 1) (some p.position)) p)
        fun _ => rest p
    else rest p

/-- Repeats a search, few times first; the arguments are those of `greedy`. -/
def lazy (body : Search) (min : Nat) (max : Option Nat) (rest : Rest) :
    (fuel count : Nat) → (last : Option Nat) → Place → Option Place
  | 0, _, _, _ => none
  | fuel + 1, count, last, p =>
    if count < min then body (lazy body min max rest fuel (count + 1) last) p
    else
      orElse (rest p) fun _ =>
        if max.all (count < ·) && last != some p.position then
          body (lazy body min max rest fuel (count + 1) (some p.position)) p
        else none

/-- How many rounds a repetition can take: the required ones, one for each character ahead, and
one that matches the empty text. -/
def rounds (min : Nat) (p : Place) : Nat := min + p.remaining + 2

/-- Repeats a search. -/
def iterate (greed : Greed) (min : Nat) (max : Option Nat) (body : Search) : Search :=
  fun rest p =>
    match greed with
    | .greedy => greedy body min max rest (rounds min p) 0 none p
    | .lazy => lazy body min max rest (rounds min p) 0 none p
    | .possessive => (greedy body.once min max some (rounds min p) 0 none p).bind rest

end Search

/-- The search that a pattern stands for. -/
def Node.search (flags : Flags) : Node → Search
  | .empty => fun rest p => rest p
  | .any => fun rest p =>
    (p.step? fun c => c != '\n' || flags.contains .dotAll).bind rest
  | .set negated items => fun rest p =>
    (p.step? fun c => setContains flags c items != negated).bind rest
  | .anchor a => fun rest p => if a.holds flags p then rest p else none
  | .seq first second => fun rest p => first.search flags (second.search flags rest) p
  | .alt first second => fun rest p =>
    Search.orElse (first.search flags rest p) fun _ => second.search flags rest p
  | .group n body => fun rest p =>
    body.search flags (fun q => rest { q with closed := (n, q.position) :: q.closed })
      { p with opened := (n, p.position) :: p.opened }
  | .scoped on off body => body.search (flags.within on off)
  | .atomic body => Search.once (body.search flags)
  | .reference n _ => fun rest p =>
    match p.captured? n with
    | none => none
    | some text =>
      (p.stepAll? (fun c d => foldedCode flags c == foldedCode flags d) text).bind rest
  | .conditional n yes no => fun rest p =>
    if (p.span? n).isSome then yes.search flags rest p else no.search flags rest p
  | .look direction negated body => fun rest p =>
    let from? := match direction with
      | .ahead => some p
      | .behind width => p.back? width.least
    match from?.bind (body.search flags some) with
    | some q =>
      if negated then none
      else rest { p with opened := q.opened, closed := q.closed }
    | none => if negated then rest p else none
  | .iterate greed min max body => Search.iterate greed min max (body.search flags)

end Pattern

/-- Whether the pattern matches the whole text; a text that is too short is not searched. -/
def Pattern.matchesAll (pattern : Pattern) (text : Text) : Bool :=
  pattern.node.width.least ≤ text.length &&
    (pattern.node.search pattern.flags
      (fun p => if p.ahead.isEmpty then some p else none) { behind := [], ahead := text }).isSome

end OpScaffold
