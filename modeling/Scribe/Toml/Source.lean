import Scribe.Toml.Statement

/-!
# Sources of TOML

From the text of a TOML source to the table that it describes.

* `Statement.ofSource?` — the statements of a source;
* `Outline` — the table so far, and the header under which the next lines stand;
* `parse?` — the table of a source. A source that breaks a rule anywhere has none.
-/

namespace Scribe
namespace Toml

open Text

namespace Statement

/-- The mark that may stand before a source to tell its encoding. -/
def byteOrderMark : Char := '\uFEFF'

/-- The statements of a source, in order. -/
def ofSource? (source : Text) : Option (List Statement) := do
  let (start, body) := match source with
    | c :: rest => if c = byteOrderMark then (c.utf8Size, rest) else (0, source)
    | [] => (0, [])
  let trees ← Tree.ofLexemes (Lexeme.locate start (← Lexeme.scan body))
  let lines ← (Tree.separate .newline trees).mapM ofLine?
  return lines.filterMap id

end Statement

/-- The outermost table as far as it is known, and the path of the last header. -/
structure Outline where
  members : Members := []
  path : List Key := []

namespace Outline

/-- The outline after a statement. -/
def add (o : Outline) : Statement → Option Outline
  | .header path key ofArray span => do
    let change := fun _ ms =>
      if ofArray then Members.openArrayElement key span ms else Members.openTable key span ms
    let members ← Members.descend false change path .explicit o.members
    return { members, path := path ++ [key] }
  | .definition path key item => do
    let members ←
      Members.descend false (Members.define path key item) o.path .explicit o.members
    return { o with members }

end Outline

/-- The table that a source describes. -/
def parse? (source : Text) : Option Members := do
  let statements ← Statement.ofSource? source
  let outline ← statements.foldlM Outline.add {}
  return outline.members

end Toml
end Scribe
