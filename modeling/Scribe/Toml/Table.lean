import Scribe.Toml.Scalar
import Scribe.Toml.Tree

/-!
# Tables of TOML

The values of a TOML source, and the rules by which its lines build up tables.

* `Item` — a value; `Members` — the content of a table, in the order of definition;
* `Members.descend` — follows a path of keys, making tables on the way;
* `Members.define` — a line with a key and a value;
* `Members.openTable`, `Members.openArrayElement` — the two kinds of header;
* `Members.sorted` — the content in ascending order of keys.
-/

namespace Scribe
namespace Toml

open Text

/-- How a table came to be, which settles what may be added to it. -/
inductive TableKind where
  /-- It has a header of its own, or is the outermost table. -/
  | explicit
  /-- It stands on the path of a header. -/
  | implicit
  /-- It stands on the path of a key with dots. -/
  | dotted
  /-- It is written between braces, and is complete. -/
  | inline
deriving DecidableEq, Repr

/-- A value. An array is either written between brackets, or made of tables with headers. -/
inductive Item where
  | string (t : Text)
  | scalar (s : Scalar)
  | array (ofTables : Bool) (items : List (Spanned Item))
  | table (kind : TableKind) (members : List (Spanned Text × Spanned Item))

/-- A key and the place where it is written. -/
abbrev Key := Spanned Text

/-- The content of a table. -/
abbrev Members := List (Key × Spanned Item)

namespace Members

/-- Changes the value of a key. A key that is absent is added at the end with what `change` makes of no
value. -/
def alter (key : Key) (change : Option (Spanned Item) → Option (Spanned Item)) :
    Members → Option Members
  | [] => (change none).map fun item => [(key, item)]
  | (k, item) :: rest =>
    if k.value = key.value then (change (some item)).map fun item' => (k, item') :: rest
    else (alter key change rest).map ((k, item) :: ·)

/-- The value of a key. -/
def get? (name : Text) (ms : Members) : Option (Spanned Item) :=
  (List.find? (fun m => m.1.value == name) ms).map Prod.snd

/-- Changes the table at the end of a path. Tables that are missing on the way are made, of a kind that
depends on whether the path is that of a dotted key or of a header. An array of tables stands for its
last element. Inline tables are closed, and dotted keys do not enter a table that has a header. -/
def descend (byDots : Bool) (change : TableKind → Members → Option Members) :
    List Key → TableKind → Members → Option Members
  | [], kind, ms => change kind ms
  | key :: path, _, ms =>
    let inside := descend byDots change path
    let made := if byDots then TableKind.dotted else TableKind.implicit
    alter key (fun
      | none => (inside made []).map fun inner => ⟨.table made inner, key.span⟩
      | some item =>
        match item.value with
        | .table kind inner =>
          if kind = .inline || (byDots && kind = .explicit) then none
          else (inside kind inner).map fun inner' => { item with value := .table kind inner' }
        | .array true items =>
          match items.getLast? with
          | some { value := .table kind inner, span } =>
            (inside kind inner).map fun inner' =>
              { item with value := .array true (items.dropLast ++ [⟨.table kind inner', span⟩]) }
          | _ => none
        | _ => none)
      ms

/-- Adds a key with its value. The table has to come from the same kind of path, and the key must be
new. -/
def addNew (path : List Key) (key : Key) (item : Spanned Item) (kind : TableKind)
    (ms : Members) : Option Members :=
  if (kind = .dotted) = (path = []) then none
  else
    alter key (fun
      | none => some item
      | some _ => none)
      ms

/-- A line with a key, behind a path of keys and dots, and a value. -/
def define (path : List Key) (key : Key) (item : Spanned Item) (kind : TableKind)
    (ms : Members) : Option Members :=
  descend true (addNew path key item) path kind ms

/-- The table that a header names. A table on the path of an earlier header becomes explicit, under the
key of its own header; any other that is there already is a duplicate. -/
def openTable (key : Key) (span : Span) (ms : Members) : Option Members :=
  match ms.get? key.value with
  | none => some (ms ++ [(key, ⟨.table .explicit [], span⟩)])
  | some { value := .table .implicit inner, .. } =>
    some ((ms.filter fun m => m.1.value != key.value) ++ [(key, ⟨.table .explicit inner, span⟩)])
  | some _ => none

/-- A new element of the array of tables that a header names. -/
def openArrayElement (key : Key) (span : Span) (ms : Members) : Option Members :=
  let element : Spanned Item := ⟨.table .explicit [], span⟩
  alter key (fun
    | none => some ⟨.array true [element], span⟩
    | some item =>
      match item.value with
      | .array true items => some { item with value := .array true (items ++ [element]) }
      | _ => none)
    ms

/-- The members in ascending order of their keys. -/
def sorted (ms : Members) : Members :=
  ms.mergeSort fun a b => notAfter a.1.value b.1.value

end Members

end Toml
end Scribe
