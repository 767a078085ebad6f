import Scribe.Document.Basic
import Scribe.Text.Blank

/-!
# Blank lines between texts

How many blank lines come to stand where a text is appended to another and the whole is normalized.

* `Text.gapAfter`, `Text.gapAtEnd` — the blank lines that some lines, and a text, end with;
* `Text.blanksInFront` — the blank lines that an appended text brings along;
* `Normalizer.gap` — the blank lines that are left of both;
* `Normalizer.spaced` — normalized texts with blank lines before each;
* `Document.appended?` — the text that a write appends;
* `ReformatPolicy.gapBefore`, `Document.gaps` — what the texts of a run find, and what is left.
-/

namespace Scribe

namespace Text

/-- The blank lines since the last visible line, counted on over one more line. There is no count as
long as no line is visible. -/
def gapStep (gap : Option Nat) (line : Text) : Option Nat :=
  if isVisible line then some 0 else gap.map (· + 1)

def gapAfter (gap : Option Nat) (ls : List Text) : Option Nat := ls.foldl gapStep gap

/-- The blank lines after the last visible line of a text. A newline at the very end counts, since a
line begins there. -/
def gapAtEnd (t : Text) : Option Nat := gapAfter none (split '\n' t)

/-- The blank lines before the first visible line of a text that begins with a newline. The newline
itself ends a line of the text before. -/
def blanksInFront (t : Text) : Nat :=
  ((split '\n' t).tail.takeWhile fun line => !isVisible line).length

end Text

open Text

namespace Normalizer

/-- The blank lines that are left before a text that finds a gap. Nothing stands before the first
visible line, and nothing is left without a visible line behind it. -/
def gap (n : Normalizer) (before : Option Nat) (t : Text) : Nat :=
  match before with
  | none => 0
  | some k => if visibleLines t = [] then 0 else min (k + blanksInFront t) n.maxBlankLines

/-- Texts that are normalized each by itself, with blank lines before them. -/
def spaced (n : Normalizer) (gaps : List Nat) (texts : List Text) : Text :=
  (List.zipWith (fun gap t => List.replicate gap '\n' ++ n.reformat t) gaps texts).flatten

end Normalizer

/-- The gap that the next text finds after some texts were appended. If the contents were normalized
since, then they end with a newline, or there is nothing to see in them. -/
def ReformatPolicy.gapBefore (start : Text) (texts : List Text) : ReformatPolicy → Option Nat
  | onFinalize => gapAtEnd (start ++ texts.flatten)
  | eachWrite =>
    if texts = [] then gapAtEnd start
    else if visibleLines (start ++ texts.flatten) = [] then none
    else some 1

namespace Document

/-- The text that a write appends, if the construct has a text form. -/
def appended? (c : Construct) : Option Text :=
  c.renderFresh.toOption.map fun t => trimNewlines (separated c t)

/-- The blank lines before each of the texts that are appended one after the other. -/
def gaps (n : Normalizer) (policy : ReformatPolicy) (start : Text) (texts : List Text) : List Nat :=
  texts.mapIdx fun i t => n.gap (policy.gapBefore start (texts.take i)) t

end Document

end Scribe
