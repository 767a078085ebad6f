import Scribe.Toml.Table

/-!
# Statements of TOML

The lines of a TOML source.

* `Item.ofTrees?` — a value, with the arrays and inline tables inside;
* `Statement` — a header, or a key with its value;
* `Statement.ofLine?` — the statement of a line.
-/

namespace Scribe
namespace Toml

open Text

/-! ## Keys -/

/-- A character of a key without quotes. -/
def isBareKeyChar (c : Char) : Bool := c.isAlphanum || c == '_' || c == '-'

namespace Key

/-- The greatest number of keys that dots may join. -/
def maxParts : Nat := 80

/-- A key is a bare word or a string of one line. -/
def ofTrees? (ts : List Tree) : Option Key :=
  match Tree.trimSpaces ts with
  | [.leaf x span] =>
    match x.kind with
    | .word => if x.source.all isBareKeyChar then some ⟨x.source, span⟩ else none
    | .string false contents => some ⟨contents, span⟩
    | _ => none
  | _ => none

/-- Keys joined by dots: the last, and the path before it. There is a limit to their number. -/
def pathOfTrees? (ts : List Tree) : Option (List Key × Key) := do
  let keys ← (Tree.separate .dot ts).mapM ofTrees?
  let last ← keys.getLast?
  if keys.length ≤ maxParts then some (keys.dropLast, last) else none

end Key

/-- The two sides of the first equals sign. -/
def splitEquals? (ts : List Tree) : Option (List Tree × List Tree) :=
  match ts.dropWhile (fun t => !t.isKind .equals) with
  | [] => none
  | _ :: value => some (ts.takeWhile (fun t => !t.isKind .equals), value)

/-! ## Values -/

/-- The source of the lexemes of a bare word, which may have dots and, in a date with a time, a space. -/
def wordText? : List Tree → Option Text
  | [] => some []
  | .leaf x _ :: rest =>
    match x.kind with
    | .word | .dot | .space => (wordText? rest).map (x.source ++ ·)
    | _ => none
  | .group _ _ _ :: _ => none

/-- The value of a bare word and its place. -/
def scalarOfTrees? (ts : List Tree) : Option (Spanned Item) := do
  let first ← ts.head?
  let last ← ts.getLast?
  let scalar ← Scalar.ofText? (← wordText? ts)
  return ⟨.scalar scalar, first.span.cover last.span⟩

/-- The number of arrays and inline tables that may stand inside each other. -/
def maxNesting : Nat := 80

namespace Item

/-- A value in which at most `nesting` brackets stand inside each other. -/
def ofTreesWithin? : (nesting : Nat) → List Tree → Option (Spanned Item)
  | nesting, ts =>
    match Tree.trimSpaces ts, nesting with
    | [.group _ _ _], 0 => none
    | [.group .square span inside], n + 1 => do
      let items ← (← Tree.items? inside).mapM (ofTreesWithin? n)
      return ⟨.array false items, span⟩
    | [.group .curly span inside], n + 1 => do
      let parts ← Tree.items? inside
      let members ← parts.foldlM (fun (ms : Members) part => do
        let (left, right) ← splitEquals? part
        let (path, key) ← Key.pathOfTrees? (Tree.trimTrivia left)
        Members.define path key (← ofTreesWithin? n (Tree.trimTrivia right)) .inline ms) []
      return ⟨.table .inline members, span⟩
    | ts, _ =>
      match ts with
      | [.leaf { kind := .string _ contents, .. } span] => some ⟨.string contents, span⟩
      | ts => scalarOfTrees? ts

/-- A value. -/
def ofTrees? (ts : List Tree) : Option (Spanned Item) := ofTreesWithin? maxNesting ts

end Item

/-! ## Lines -/

/-- A line with some content. -/
inductive Statement where
  | header (path : List Key) (key : Key) (ofArray : Bool) (span : Span)
  | definition (path : List Key) (key : Key) (item : Spanned Item)

namespace Statement

/-- A header: keys between brackets, or between two brackets each that nothing separates. -/
def ofHeader? (span : Span) (inside : List Tree) : Option Statement :=
  match inside with
  | [.group .square inner keys] =>
    if inner.start = span.start + 1 ∧ span.stop = inner.stop + 1 then
      (Key.pathOfTrees? keys).map fun (path, key) => header path key true span
    else none
  | keys => (Key.pathOfTrees? keys).map fun (path, key) => header path key false span

/-- The statement of a line, if it has one. Spaces at its ends and a comment do not count. -/
def ofLine? (line : List Tree) : Option (Option Statement) :=
  let content :=
    match line.getLast? with
    | some last => if last.isKind .comment then line.dropLast else line
    | none => line
  match Tree.trimSpaces content with
  | [] => some none
  | [.group .square span inside] => (ofHeader? span inside).map some
  | ts => do
    let (left, right) ← splitEquals? ts
    let (path, key) ← Key.pathOfTrees? left
    let item ← Item.ofTrees? right
    return some (definition path key item)

end Statement

end Toml
end Scribe
