import Scribe.Naming.Identifier

/-!
# Document names

A document is named by the path of a Python file. Only the last component is checked; directories
before it may be anything.

* `fileName` — what follows the last separator;
* `isDocumentName` — the check;
* `defaultDocumentName` — the name of a document that was given none;
* `IsPythonPath` — what the name of a document should look like, said of the whole path.
-/

namespace Scribe
namespace Naming

open Text

/-- Either of the two characters that separate the components of a path. -/
def isPathSeparator (c : Char) : Bool :=
  c == '/' || c == '\\'

/-- The part of a path after its last separator. -/
def fileName (path : Text) : Text :=
  (path.reverse.takeWhile fun c => !isPathSeparator c).reverse

/-- The ending of a Python file. -/
def pythonEnding : Text := ".py".toList

/-- Whether the last component is a nonempty stem of word characters, followed by the ending. -/
def isDocumentName (path : Text) : Bool :=
  match dropSuffix? pythonEnding (fileName path) with
  | some stem => !stem.isEmpty && stem.all isWordChar
  | none => false

/-- The name given to a document without one, made unique by a count of seconds. -/
def defaultDocumentName (seconds : Nat) : Text :=
  "jenna_output_".toList ++ Nat.toDigits 10 seconds ++ pythonEnding

/-! ## Paths of Python files -/

/-- Nothing, or any text that ends in a separator. -/
def IsDirectory (dir : Text) : Prop :=
  dir = [] ∨ ∃ parent, dir = parent ++ ['/'] ∨ dir = parent ++ ['\\']

/-- The path of a Python file with a stem of letters, numerals and underscores, in any directory. -/
structure IsPythonPath (path dir stem : Text) : Prop where
  eq_append : path = dir ++ stem ++ pythonEnding
  isDirectory : IsDirectory dir
  stem_ne_nil : stem ≠ []
  stem_word : ∀ c ∈ stem, isAlphabetic c = true ∨ isNumeral c = true ∨ c = '_'

end Naming
end Scribe
