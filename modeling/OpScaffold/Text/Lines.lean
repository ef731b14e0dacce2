import OpScaffold.Text.Basic

/-!
# OpScaffold.Text.Lines

Lines of a text. `Text.lines` splits at every line break character and keeps the break at the end
of its line, so that joining the lines gives the text back (`flatten_lines`). `Text.terminator`
answers a narrower question: which of the newline sequences LF, CR and CR LF ends a line.
-/

namespace OpScaffold

/-- The characters at which a text is broken into lines. -/
def isLineBreak (c : Char) : Bool :=
  (10 ≤ c.toNat && c.toNat ≤ 13) || (28 ≤ c.toNat && c.toNat ≤ 30) || c.toNat == 0x85
    || c.toNat == 0x2028 || c.toNat == 0x2029

namespace Text

/-- The lines of a text, each with its line break. CR LF is one break; a text that ends in a break
has no empty line after it. -/
def lines : Text → List Text
  | [] => []
  | '\r' :: '\n' :: t => ['\r', '\n'] :: lines t
  | c :: t =>
    if isLineBreak c then [c] :: lines t
    else match lines t with
      | [] => [[c]]
      | line :: rest => (c :: line) :: rest

/-- Splitting into lines loses nothing. -/
@[simp] theorem flatten_lines (t : Text) : (lines t).flatten = t := by
  fun_induction lines t with
  | case1 => rfl
  | case2 t ih => simp [ih]
  | case3 c t _ _ ih => simp [ih]
  | case4 c t _ _ h ih => simp [h] at ih; simp [← ih]
  | case5 c t _ _ line rest h ih => simp [h] at ih; simp [← ih]

/-- No line is empty. -/
theorem ne_nil_of_mem_lines {t line : Text} (h : line ∈ lines t) : line ≠ [] := by
  fun_induction lines t <;> grind

/-- The newline sequence that ends a line: CR LF, LF, CR, or nothing. -/
def terminator (line : Text) : Text :=
  match line.reverse with
  | '\n' :: '\r' :: _ => ['\r', '\n']
  | '\n' :: _ => ['\n']
  | '\r' :: _ => ['\r']
  | _ => []

/-- Whether a line ends in a newline sequence. -/
def isTerminated (line : Text) : Bool := !(terminator line).isEmpty

/-- The spaces and tabs at the start of a line. -/
def indent (line : Text) : Text := line.takeWhile fun c => c == ' ' || c == '\t'

end Text

end OpScaffold
