import Mathlib.Data.List.Chain
import Scribe.Construct.Built
import Scribe.Construct.Rows
import Scribe.Layout.Normalizer

/-!
# Nesting of suites

What makes the lines of a text form blocks that can be told by their indentation alone.

* `Row.depth` — the tabs in front of a line;
* `Row.Suite` — the lines after a header begin with a suite;
* `Row.WellNested` — only headers open suites, and all of them do;
* `Construct.visibleRows` — the rows of a construct that can be seen;
* `Construct.Nestable` — what the texts and the body of a construct have to be like.
-/

namespace Scribe

open Text

namespace Row

/-- The number of leading tabs. -/
def depth (r : Row) : Nat := Normalizer.depth r.line

def role? : Row → Option Role
  | blank => none
  | entry role _ => some role

/-- The rows that have anything but blanks. -/
def visible (rows : List Row) : List Row := rows.filter fun r => isVisible r.line

/-- Before the rows come back to depth `d`, there is one at the next depth that is not a line of a
comment. -/
def Suite (d : Nat) (rows : List Row) : Prop :=
  ∃ inner s after, rows = inner ++ s :: after ∧ (∀ r ∈ inner, d < r.depth) ∧ s.depth = d + 1 ∧
    s.role? ≠ some .remark

/-- Rows of which the first is at depth `n` and none is further out; in which the depth goes up after
headers only, and then by one; and in which every header has a suite. -/
structure WellNested (n : Nat) (rows : List Row) : Prop where
  first : ∀ r ∈ rows.head?, r.depth = n
  within : ∀ r ∈ rows, n ≤ r.depth
  steps : rows.IsChain fun r s =>
    (r.depth < s.depth ↔ r.role? = some .header) ∧
      (r.role? = some .header → s.depth = r.depth + 1)
  suites : ∀ before r after, rows = before ++ r :: after → r.role? = some .header →
    Suite r.depth after

end Row

/-- A text that has something to show and does not start with a tab. -/
def Text.IsSolid (t : Text) : Prop := isVisible t = true ∧ t.head? ≠ some '\t'

namespace Construct

/-- The rows of a construct at its own level that have anything but blanks. -/
def visibleRows (c : Construct) : List Row := Row.visible (c.rows c.level)

/-- The texts of the construct are solid lines, no line of a docstring brings tabs of its own, and a
body has more than comments. -/
structure Nestable (d : Construct) : Prop where
  texts : ∀ t ∈ d.texts, '\n' ∉ t ∧ t.IsSolid
  docLines : ∀ line ∈ d.docLines, line.head? ≠ some '\t'
  items : d.items ≠ [] → ∃ item ∈ d.items, item.isRemark = false

end Construct

end Scribe
