import Scribe.Text.Basic
import Scribe.Text.CharClass

/-!
# Identifiers

Which texts can name something in Python source.

* `isKeyword`, `isBuiltin` — the reserved words and the names bound by default;
* `isWordChar` — the characters a name is made of;
* `IdentifierFault` — why a text is no identifier;
* `identifierFault?` — the check, which reports the first reason that applies.
-/

namespace Scribe
namespace Naming

open Text

/-- The reserved words. -/
def keywords : List String := [
  "False", "None", "True", "and", "as", "assert", "async", "await", "break", "class", "continue",
  "def", "del", "elif", "else", "except", "finally", "for", "from", "global", "if", "import", "in",
  "is", "lambda", "nonlocal", "not", "or", "pass", "raise", "return", "try", "while", "with",
  "yield"]

/-- The names bound without an import: functions, types, constants and the common exceptions. -/
def builtins : List String := [
  "abs", "aiter", "all", "anext", "any", "ascii", "bin", "breakpoint", "callable", "chr", "compile",
  "delattr", "dir", "divmod", "eval", "exec", "format", "getattr", "globals", "hasattr", "hash",
  "help", "hex", "id", "input", "isinstance", "issubclass", "iter", "len", "locals", "max", "min",
  "next", "oct", "open", "ord", "pow", "print", "repr", "round", "setattr", "sorted", "sum", "vars",
  "__import__",
  "bool", "bytearray", "bytes", "classmethod", "complex", "dict", "enumerate", "filter", "float",
  "frozenset", "int", "list", "map", "memoryview", "object", "property", "range", "reversed", "set",
  "slice", "staticmethod", "str", "super", "tuple", "type", "zip",
  "Ellipsis", "NotImplemented", "False", "None", "True",
  "BaseException", "Exception", "ArithmeticError", "AssertionError", "AttributeError", "EOFError",
  "ImportError", "IndexError", "KeyError", "KeyboardInterrupt", "LookupError", "MemoryError",
  "NameError", "NotImplementedError", "OSError", "OverflowError", "RecursionError", "RuntimeError",
  "StopIteration", "SyntaxError", "SystemExit", "TypeError", "ValueError", "ZeroDivisionError"]

/-- Whether a name is a reserved word. -/
def isKeyword (name : Text) : Bool :=
  keywords.any fun word => word.toList == name

/-- Whether a name is bound without an import. Such a name may be bound anew. -/
def isBuiltin (name : Text) : Bool :=
  builtins.any fun word => word.toList == name

/-- A letter, a numeral or an underscore. -/
def isWordChar (c : Char) : Bool :=
  isAlphabetic c || isNumeral c || c == '_'

/-- A letter or an underscore. -/
def isWordStart (c : Char) : Bool :=
  isAlphabetic c || c == '_'

/-- Why a text is no identifier. -/
inductive IdentifierFault where
  | keyword
  | empty
  | badStart
  | badCharacter
deriving DecidableEq, Repr

namespace IdentifierFault

/-- The reason in words. -/
def message : IdentifierFault → Text
  | keyword => "name is a Python reserved keyword".toList
  | empty => "name cannot be empty".toList
  | badStart => "name must start with a letter or underscore".toList
  | badCharacter => "name must contain only letters, numbers, and underscores".toList

end IdentifierFault

/-- The first reason why `name` is no identifier, if there is one. -/
def identifierFault? (name : Text) : Option IdentifierFault :=
  if isKeyword name then some .keyword
  else
    match name with
    | [] => some .empty
    | c :: rest =>
      if !isWordStart c then some .badStart
      else if rest.all isWordChar then none
      else some .badCharacter

end Naming
end Scribe
