import Scribe.Text.CaseMap
import Scribe.Text.CharClass

/-!
# Case styles

Conversions between the styles in which names are written: `snake_case`, `camelCase` and
`PascalCase`. They accept any text and never fail.

* `capitalize` — the first character in upper case;
* `toPascal`, `toCamel` — from words joined by underscores;
* `toSnake` — to words joined by underscores.
-/

namespace Scribe
namespace Naming

open Text

/-- The first character in upper case, and the rest as it stands. -/
def capitalize : Text → Text
  | [] => []
  | c :: rest => upper c ++ rest

/-- The first character in upper case, and the rest in lower case. -/
def titleCase : Text → Text
  | [] => []
  | c :: rest => upper c ++ rest.flatMap lower

/-- Every segment between underscores capitalized, and the underscores dropped. -/
def toPascal (t : Text) : Text :=
  (split '_' t).flatMap capitalize

/-- The first segment as it stands and every later one in title case, without the underscores. -/
def toCamel (t : Text) : Text :=
  match split '_' t with
  | [] => []
  | first :: rest => first ++ rest.flatMap titleCase

/-- A character inside a name in snake case: a capital letter begins a new word. -/
def snakeChar (c : Char) : Text :=
  if isUppercase c then '_' :: lower c else lower c

/-- All in lower case, an underscore before every capital letter but the first character, and an
underscore for every hyphen. -/
def toSnake (t : Text) : Text :=
  let words :=
    match t with
    | [] => []
    | c :: rest => lower c ++ rest.flatMap snakeChar
  words.map fun c => if c = '-' then '_' else c

end Naming
end Scribe
