import Scribe.Construct.Outline

/-!
# Rows

The exact lines of a text form, the empty ones included, and what each is there for.

* `Row` — an empty line, or an entry with its role;
* `Row.written` — the text of some rows, each on a line of its own;
* `Construct.rows` — the rows of a construct that stands at a given level;
* `Construct.ownRows` — rows that are not those of a construct below.
-/

namespace Scribe

open Text

/-- What a line is there for: it opens a suite, it is a line of a comment, or neither. -/
inductive Role where
  | header
  | remark
  | statement
deriving DecidableEq, Repr

/-- A line of a text form. An empty line has no level. -/
inductive Row where
  | blank
  | entry (role : Role) (e : Entry)
deriving DecidableEq, Repr

namespace Row

def line : Row → Text
  | blank => []
  | entry _ e => e.line

/-- The text of some rows, with a line break before each. -/
def written (rows : List Row) : Text := rows.flatMap fun r => '\n' :: r.line

/-! ## Roles of entries -/

def statements (entries : List Entry) : List Row := entries.map (entry .statement)

/-- Entries of which the first opens a suite. -/
def suite : List Entry → List Row
  | [] => []
  | e :: rest => entry .header e :: statements rest

/-- Entries of which the last opens a suite. -/
def opening (entries : List Entry) : List Row :=
  statements entries.dropLast ++ entries.getLast?.toList.map (entry .header)

/-- A line between triple quotes; an empty one is not indented. -/
def ofQuoted (e : Entry) : Row := if e.text = [] then blank else entry .statement e

/-- The line that fills a suite without items. -/
def pass (n : Nat) : Row := entry .statement ⟨n, "pass".toList⟩

end Row

/-! ## Conditionals -/

namespace Branch

def rows (n : Nat) (b : Branch) : List Row := Row.suite (b.outline n)

end Branch

namespace Chain

def rows (n : Nat) (c : Chain) : List Row :=
  c.branches.flatMap (Branch.rows n)
    ++ Row.suite (⟨n, "else:".toList⟩ :: Snippet.suiteOutline (n + 1) c.elseActions)

end Chain

/-! ## All constructs -/

mutual

/-- The rows of a construct at a level, as an item of a body. Classes stand between empty lines, and
the methods of a class have one in front. -/
def Construct.rows (n : Nat) : Construct → List Row
  | .snippet s => Row.statements (s.outline n)
  | .assignment a => Row.statements (a.outline n)
  | .comment c => (c.outline n).map (Row.entry .remark)
  | .docstring d => (d.outline n).map Row.ofQuoted
  | .branch b => b.rows n
  | .chain c => c.rows n
  | .function f => f.rows n
  | .method m => m.rows n
  | .classDef c => c.rows n
  | .boxed inner => inner.rows n
termination_by c => c.size
decreasing_by all_goals (simp only [Construct.size]; omega)

def FunctionDef.rows (n : Nat) (f : FunctionDef) : List Row :=
  Row.opening (f.headOutline n) ++
    if f.body = none then [Row.pass (n + 1)]
    else f.items.attach.flatMap fun ⟨item, _⟩ => item.rows (n + 1)
termination_by f.size
decreasing_by exact FunctionDef.size_item_lt ‹_›

def MethodDef.rows (n : Nat) (m : MethodDef) : List Row := m.function.rows n
termination_by m.size
decreasing_by rw [m.size_eq]; omega

def ClassDef.rows (n : Nat) (c : ClassDef) : List Row :=
  .blank :: Row.suite (c.headOutline n) ++
    (if c.hasInit = false ∧ c.methods = [] ∧ c.classVars = [] ∧ c.subclasses = [] then
      [Row.pass (n + 1)]
    else
      Row.suite (c.initOutline n)
        ++ (c.methods.attach.flatMap fun ⟨m, _⟩ => .blank :: m.rows (n + 1))
        ++ Row.statements (c.variablesOutline n)
        ++ c.subclasses.attach.flatMap fun ⟨sub, _⟩ => sub.rows (n + 1)) ++
    [.blank]
termination_by c.size
decreasing_by
  · exact ClassDef.size_method_lt ‹_›
  · exact ClassDef.size_subclass_lt ‹_›

end

theorem FunctionDef.rows_eq (n : Nat) (f : FunctionDef) :
    f.rows n = Row.opening (f.headOutline n) ++
      if f.body = none then [Row.pass (n + 1)]
      else f.items.flatMap (Construct.rows (n + 1)) := by
  rw [FunctionDef.rows]
  simp only [List.flatMap_subtype, List.unattach_attach]

theorem MethodDef.rows_eq (n : Nat) (m : MethodDef) : m.rows n = m.function.rows n := by
  rw [MethodDef.rows]

theorem ClassDef.rows_eq (n : Nat) (c : ClassDef) :
    c.rows n = .blank :: Row.suite (c.headOutline n) ++
      (if c.hasInit = false ∧ c.methods = [] ∧ c.classVars = [] ∧ c.subclasses = [] then
        [Row.pass (n + 1)]
      else
        Row.suite (c.initOutline n) ++ c.methods.flatMap (fun m => .blank :: m.rows (n + 1))
          ++ Row.statements (c.variablesOutline n)
          ++ c.subclasses.flatMap (ClassDef.rows (n + 1))) ++
      [.blank] := by
  rw [ClassDef.rows]
  simp only [List.flatMap_subtype, List.unattach_attach]

/-! ## Own rows -/

/-- Rows of a construct that come from no other construct below, the placeholder always included. -/
def Construct.ownRows (n : Nat) : Construct → List Row
  | .snippet s => Row.statements (s.outline n)
  | .assignment a => Row.statements (a.outline n)
  | .comment c => (c.outline n).map (Row.entry .remark)
  | .docstring d => (d.outline n).map Row.ofQuoted
  | .branch b => b.rows n
  | .chain c => c.rows n
  | .function f => Row.opening (f.headOutline n) ++ [Row.pass (n + 1)]
  | .method m => Row.opening (m.function.headOutline n) ++ [Row.pass (n + 1)]
  | .classDef c =>
    .blank :: Row.suite (c.headOutline n) ++ [Row.pass (n + 1)] ++ Row.suite (c.initOutline n)
      ++ Row.statements (c.variablesOutline n)
  | .boxed _ => []

end Scribe
