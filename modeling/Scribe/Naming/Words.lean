import Mathlib.Computability.Language
import Scribe.Text.Basic

/-!
# Names made of words

The languages of the names that are written in each style, from ASCII letters and digits.

* `Naming.one` — the texts of one character from a class;
* `Naming.segment` — a character of a class, with small letters and digits behind it;
* `Naming.word`, `Naming.title` — the segments that begin with a small letter or a capital;
* `Naming.snake`, `Naming.camel`, `Naming.pascal` — the names.
-/

namespace Scribe
namespace Naming

open Computability

/-- The texts of one character from a class. -/
def one (p : Char → Bool) : Language Char :=
  {t | ∃ c, p c = true ∧ t = [c]}

/-- `[a-z0-9]` -/
def isSmall (c : Char) : Bool :=
  c.isLower || c.isDigit

/-- A first character, and `[a-z0-9]*`. -/
def segment (p : Char → Bool) : Language Char :=
  one p * (one isSmall)∗

/-- `[a-z][a-z0-9]*` -/
def word : Language Char :=
  segment Char.isLower

/-- `[A-Z][a-z0-9]*` -/
def title : Language Char :=
  segment Char.isUpper

/-- Words joined by single underscores. -/
def snake : Language Char :=
  word * ({['_']} * word)∗

/-- A word, and titles behind it. -/
def camel : Language Char :=
  word * title∗

/-- One title or more. -/
def pascal : Language Char :=
  title * title∗

end Naming
end Scribe
