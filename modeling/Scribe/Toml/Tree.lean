import Scribe.Toml.Lexeme

/-!
# Bracket trees

The lexemes of a source, with everything between two matching brackets put together. What the brackets
mean — a table header, an array or an inline table — is settled by their place.

* `Tree` — a lexeme or a bracketed group;
* `Tree.ofLexemes` — the trees of a source whose brackets match;
* `Tree.separate` — the parts of a list of trees between separators.
-/

namespace Scribe
namespace Toml

/-- A lexeme, or all that stands between two matching brackets. -/
inductive Tree where
  | leaf (x : Lexeme) (span : Span)
  | group (bracket : Bracket) (span : Span) (inside : List Tree)

namespace Tree

/-- The place of a tree, brackets included. -/
def span : Tree → Span
  | leaf _ span => span
  | group _ span _ => span

/-- Whether a tree is a lexeme of a kind. -/
def isKind (kind : Lexeme.Kind) : Tree → Bool
  | leaf x _ => x.kind == kind
  | group _ _ _ => false

/-! ## From lexemes to trees -/

/-- A bracket that waits for its partner, and the trees before it, last to first. -/
structure Pending where
  bracket : Bracket
  start : Nat
  before : List Tree

/-- The trees of the remaining lexemes. The trees read since the last open bracket are given last to
first. -/
def assemble : List Pending → List Tree → List (Spanned Lexeme) → Option (List Tree)
  | [], read, [] => some read.reverse
  | _ :: _, _, [] => none
  | pending, read, x :: rest =>
    match x.value.kind with
    | .opening bracket =>
      assemble ({ bracket, start := x.span.start, before := read } :: pending) [] rest
    | .closing bracket =>
      match pending with
      | p :: outer =>
        if p.bracket = bracket then
          assemble outer (group bracket ⟨p.start, x.span.stop⟩ read.reverse :: p.before) rest
        else none
      | [] => none
    | _ => assemble pending (leaf x.value x.span :: read) rest

/-- The trees of a source; there are none if its brackets do not match. -/
def ofLexemes (xs : List (Spanned Lexeme)) : Option (List Tree) :=
  assemble [] [] xs

/-! ## Parts of a list of trees -/

/-- The parts between the trees of a kind; there is always one more part than separators. -/
def separate (kind : Lexeme.Kind) : List Tree → List (List Tree)
  | [] => [[]]
  | t :: rest =>
    if t.isKind kind then [] :: separate kind rest
    else
      match separate kind rest with
      | [] => [[t]]
      | part :: parts => (t :: part) :: parts

/-- The trees without those at either end that satisfy `drop`. -/
def trim (drop : Tree → Bool) (ts : List Tree) : List Tree :=
  ((ts.dropWhile drop).reverse.dropWhile drop).reverse

/-- A space between two lexemes of a line. -/
def isSpace (t : Tree) : Bool := t.isKind .space

/-- What may stand around the items of an array, and around the keys and the values of an inline table:
spaces, comments and line ends. -/
def isTrivia (t : Tree) : Bool := t.isKind .space || t.isKind .comment || t.isKind .newline

/-- The trees without the spaces at either end. -/
def trimSpaces (ts : List Tree) : List Tree := trim isSpace ts

/-- The trees without spaces, comments and line ends at either end. -/
def trimTrivia (ts : List Tree) : List Tree := trim isTrivia ts

/-- The items between commas, where one comma may follow the last; no item is empty. -/
def items? (ts : List Tree) : Option (List (List Tree)) :=
  let parts := (separate .comma ts).map trimTrivia
  let items := if (parts.getLast?.map List.isEmpty) = some true then parts.dropLast else parts
  if items.any List.isEmpty then none else some items

end Tree

end Toml
end Scribe
