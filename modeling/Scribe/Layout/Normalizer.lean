import Scribe.Layout.LineBuffer
import Scribe.Text.Blank

/-!
# Normalizing a text

A normalizer brings a whole text into a regular form: leading tabs become the indentation unit,
trailing blanks go, blank lines stand only between other lines and never more than a limit in a row,
and the last line is terminated.

* `Normalizer` — the indentation unit and the limit;
* `Normalizer.depth`, `Normalizer.content` — a trimmed line split after its leading tabs;
* `Normalizer.steps` — what is done to a line buffer, line by line;
* `Normalizer.reformat` — the normalized text.
-/

namespace Scribe

structure Normalizer where
  indent : Indent := Indent.default
  maxBlankLines : Nat := 2
deriving DecidableEq, Repr

namespace Normalizer

open Text

instance : Inhabited Normalizer := ⟨{}⟩

def depth (line : Text) : Nat :=
  (line.takeWhile (· == '\t')).length

def content (line : Text) : Text :=
  line.dropWhile (· == '\t')

/-- The steps for the remaining lines: a line that is not blank is put at the level of its tabs, behind as
many of the blank lines before it as the limit allows. The gap counts the blank lines since the last line
that was written; there is none as long as nothing was written. -/
def steps (n : Normalizer) : (gap : Option Nat) → List Text → List LineBuffer.Step
  | _, [] => []
  | gap, line :: rest =>
    let trimmed := trimEnd line
    if content trimmed = [] then steps n (gap.map (· + 1)) rest
    else
      List.replicate (min (gap.getD 0) n.maxBlankLines) .blank
        ++ .setLevel (depth trimmed) :: .line (content trimmed) :: steps n (some 0) rest

def reformat (n : Normalizer) (source : Text) : Text :=
  (LineBuffer.run { indent := n.indent } (n.steps none (lines source))).text

end Normalizer

end Scribe
