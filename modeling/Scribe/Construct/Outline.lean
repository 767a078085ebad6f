import Scribe.Construct.Basic
import Scribe.Text.Blank

/-!
# Outlines

Which lines a construct should have in its text form, and at which levels, said without line breaks
and without the levels that the tree holds.

* `Entry` — a text at a level;
* `Construct.outline` — the entries of a construct that stands at a given level;
* `Construct.Complete` — every chain in the tree has a branch that opens it.
-/

namespace Scribe

open Text

/-- A line of an outline. Its text may have newlines of its own. -/
structure Entry where
  level : Nat
  text : Text
deriving DecidableEq, Repr

namespace Entry

def line (e : Entry) : Text := tabs e.level ++ e.text

/-- The lines of some entries that have anything to show. -/
def visibleLines (entries : List Entry) : List Text :=
  entries.flatMap fun e => Text.visibleLines e.line

end Entry

/-! ## Constructs without parts -/

namespace Snippet

def outline (n : Nat) (s : Snippet) : List Entry := [⟨n, s.code⟩]

/-- A suite of actions, or what stands for it if there are none. -/
def suiteOutline (n : Nat) (actions : List Snippet) : List Entry :=
  if actions = [] then [⟨n, "pass".toList⟩] else actions.flatMap (outline n)

end Snippet

namespace Assignment

def outline (n : Nat) (a : Assignment) : List Entry :=
  [⟨n, a.name ++ " = ".toList ++ a.value.text⟩]

end Assignment

namespace Comment

def outline (n : Nat) (c : Comment) : List Entry :=
  if c.text = [] then [⟨n, "#".toList⟩]
  else (lines c.text).map fun line => ⟨n, trimEnd ("# ".toList ++ line)⟩

end Comment

namespace Docstring

def outline (n : Nat) (d : Docstring) : List Entry :=
  if '\n' ∈ d.text then
    [⟨n, tripleQuote⟩] ++ (lines d.text).map (fun line => ⟨n, line⟩) ++ [⟨n, tripleQuote⟩]
  else [⟨n, inTripleQuotes d.text⟩]

end Docstring

/-! ## Conditionals -/

namespace Branch

/-- The line that states the guard, behind the word for the kind of the branch. -/
def firstLine (b : Branch) : Text :=
  match b.kind with
  | .opening => "if ".toList ++ b.guard.code ++ ":".toList
  | .alternative => "elif ".toList ++ b.guard.code ++ ":".toList

def outline (n : Nat) (b : Branch) : List Entry :=
  ⟨n, b.firstLine⟩ :: Snippet.suiteOutline (n + 1) b.actions

end Branch

namespace Chain

def outline (n : Nat) (c : Chain) : List Entry :=
  c.branches.flatMap (Branch.outline n)
    ++ ⟨n, "else:".toList⟩ :: Snippet.suiteOutline (n + 1) c.elseActions

end Chain

/-! ## Lines of definitions -/

namespace FunctionDef

def headOutline (n : Nat) (f : FunctionDef) : List Entry :=
  f.decorators.map (fun decorator => ⟨n, decorator⟩)
    ++ [⟨n, "def ".toList ++ f.name ++ "(".toList ++ commaSeparated f.params ++ "):".toList⟩]

end FunctionDef

namespace ClassDef

/-- The line that names the class and its base, if it has one. -/
def firstLine (c : ClassDef) : Text :=
  match c.base with
  | none => "class ".toList ++ c.name ++ ":".toList
  | some base => "class ".toList ++ c.name ++ "(".toList ++ base ++ "):".toList

def headOutline (n : Nat) (c : ClassDef) : List Entry :=
  ⟨n, c.firstLine⟩ :: match c.description with
    | none => []
    | some description => [⟨n + 1, inTripleQuotes description⟩]

def initOutline (n : Nat) (c : ClassDef) : List Entry :=
  if c.hasInit then [⟨n + 1, "def __init__(self):".toList⟩, ⟨n + 2, "pass".toList⟩] else []

def variablesOutline (n : Nat) (c : ClassDef) : List Entry :=
  c.classVars.map fun entry => ⟨n + 1, entry.1 ++ " = ".toList ++ entry.2⟩

end ClassDef

/-! ## All constructs -/

mutual

/-- The lines of a construct at a level. A suite is one level below its owner, the branches of a
chain are at the level of the chain, and a missing suite has a placeholder. -/
def Construct.outline (n : Nat) : Construct → List Entry
  | .snippet s => s.outline n
  | .assignment a => a.outline n
  | .comment c => c.outline n
  | .docstring d => d.outline n
  | .branch b => b.outline n
  | .chain c => c.outline n
  | .function f => f.outline n
  | .method m => m.outline n
  | .classDef c => c.outline n
  | .boxed inner => inner.outline n
termination_by c => c.size
decreasing_by all_goals (simp only [Construct.size]; omega)

def FunctionDef.outline (n : Nat) (f : FunctionDef) : List Entry :=
  f.headOutline n ++
    if f.body = none then [⟨n + 1, "pass".toList⟩]
    else f.items.attach.flatMap fun ⟨item, _⟩ => item.outline (n + 1)
termination_by f.size
decreasing_by exact FunctionDef.size_item_lt ‹_›

def MethodDef.outline (n : Nat) (m : MethodDef) : List Entry := m.function.outline n
termination_by m.size
decreasing_by rw [m.size_eq]; omega

def ClassDef.outline (n : Nat) (c : ClassDef) : List Entry :=
  c.headOutline n ++
    if c.hasInit = false ∧ c.methods = [] ∧ c.classVars = [] ∧ c.subclasses = [] then
      [⟨n + 1, "pass".toList⟩]
    else
      c.initOutline n
        ++ (c.methods.attach.flatMap fun ⟨m, _⟩ => m.outline (n + 1))
        ++ c.variablesOutline n
        ++ c.subclasses.attach.flatMap fun ⟨sub, _⟩ => sub.outline (n + 1)
termination_by c.size
decreasing_by
  · exact ClassDef.size_method_lt ‹_›
  · exact ClassDef.size_subclass_lt ‹_›

end

theorem FunctionDef.outline_eq (n : Nat) (f : FunctionDef) :
    f.outline n = f.headOutline n ++
      if f.body = none then [⟨n + 1, "pass".toList⟩]
      else f.items.flatMap (Construct.outline (n + 1)) := by
  rw [FunctionDef.outline]
  simp only [List.flatMap_subtype, List.unattach_attach]

theorem MethodDef.outline_eq (n : Nat) (m : MethodDef) : m.outline n = m.function.outline n := by
  rw [MethodDef.outline]

theorem ClassDef.outline_eq (n : Nat) (c : ClassDef) :
    c.outline n = c.headOutline n ++
      if c.hasInit = false ∧ c.methods = [] ∧ c.classVars = [] ∧ c.subclasses = [] then
        [⟨n + 1, "pass".toList⟩]
      else
        c.initOutline n ++ c.methods.flatMap (MethodDef.outline (n + 1)) ++ c.variablesOutline n
          ++ c.subclasses.flatMap (ClassDef.outline (n + 1)) := by
  rw [ClassDef.outline]
  simp only [List.flatMap_subtype, List.unattach_attach]

/-! ## Complete trees -/

mutual

/-- Every chain in the tree has a branch that opens it. -/
def Construct.Complete : Construct → Prop
  | .snippet _ | .assignment _ | .comment _ | .docstring _ | .branch _ => True
  | .chain c => c.primary ≠ none
  | .function f => f.Complete
  | .method m => m.Complete
  | .classDef c => c.Complete
  | .boxed inner => inner.Complete
termination_by c => c.size
decreasing_by all_goals (simp only [Construct.size]; omega)

def FunctionDef.Complete (f : FunctionDef) : Prop :=
  ∀ item, (h : item ∈ f.items) → item.Complete
termination_by f.size
decreasing_by exact FunctionDef.size_item_lt h

def MethodDef.Complete (m : MethodDef) : Prop := m.function.Complete
termination_by m.size
decreasing_by rw [m.size_eq]; omega

def ClassDef.Complete (c : ClassDef) : Prop :=
  (∀ m, (h : m ∈ c.methods) → m.Complete) ∧ ∀ sub, (h : sub ∈ c.subclasses) → sub.Complete
termination_by c.size
decreasing_by
  · exact ClassDef.size_method_lt h
  · exact ClassDef.size_subclass_lt h

end

theorem FunctionDef.complete_iff {f : FunctionDef} :
    f.Complete ↔ ∀ item ∈ f.items, item.Complete := by
  rw [FunctionDef.Complete]

theorem ClassDef.complete_iff {c : ClassDef} : c.Complete ↔
    (∀ m ∈ c.methods, m.Complete) ∧ ∀ sub ∈ c.subclasses, sub.Complete := by
  rw [ClassDef.Complete]

end Scribe
