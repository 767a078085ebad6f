import Scribe.Layout.Normalizer

/-!
# Texts in normal form

What a normalizer should leave of a text, said of the text alone, and what it should make of a text, said of
the lines of the text without a loop over them.

* `Normalizer.RegularLines` — lines that a normalizer has no reason to change;
* `Normalizer.IsNormal` — a text that consists of such lines;
* `Text.blankRuns` — how many blank lines stand around the visible ones;
* `Text.margin` — the blanks at the front of a line;
* `Normalizer.codeLine`, `Normalizer.passage` — a visible line as it should come out, by itself and
  behind blank lines;
* `Normalizer.passages` — the whole text as it should come out;
* `Normalizer.followedBy` — one normalizer in the place of two passes.
-/

namespace Scribe

namespace Text

end Text

namespace Normalizer

open Text

/-! ## Normal form -/

/-- The lines begin and end with one that is not empty, nothing trails, no run of empty lines is
longer than the limit, and where tabs are replaced, no line begins with one. -/
structure RegularLines (n : Normalizer) (ls : List Text) : Prop where
  first : ls.head? ≠ some []
  last : ls.getLast? ≠ some []
  trimmed : ∀ line ∈ ls, ∀ c, line.getLast? = some c → isBlank c = false
  runs : ∀ k, List.replicate k [] <:+: ls → k ≤ n.maxBlankLines
  untabbed : ∀ width, n.indent = .spaces width → ∀ line ∈ ls, line.head? ≠ some '\t'

/-- The text is empty, or it is terminated and its lines are regular. -/
def IsNormal (n : Normalizer) (t : Text) : Prop :=
  t = [] ∨ ∃ body, t = body ++ ['\n'] ∧ n.RegularLines (split '\n' body)

/-! ## Passages -/

/-- A visible line as it should come out: the leading tabs are replaced, and what is behind them stays
as it is up to the blanks at its end. -/
def codeLine (n : Normalizer) (line : Text) : Text :=
  n.indent.repeated (depth line) ++ trimEnd (content line)

/-- What two passes come to. The first pass decides on the indentation unless it leaves the tabs to the
second, and both cut the blank lines off. -/
def followedBy (first second : Normalizer) : Normalizer where
  indent :=
    match first.indent with
    | .spaces width => .spaces width
    | .tab => second.indent
  maxBlankLines := min second.maxBlankLines first.maxBlankLines

end Normalizer

end Scribe
