import Scribe.Construct.Basic

/-!
# Levels of a tree

Where the levels of a tree should be, said without the repeated stamping that brings them there.

* `Construct.topDown` — one pass from the root that gives every construct its level;
* `Construct.LevelsFrom` — the root is at a level, and every suite below is one level deeper than
  its owner;
* `Construct.Stamped` — the levels below the root follow from the level that the root has;
* `Construct.mapLevels` — a change of every level that keeps the rest of the tree.

The branches of a chain stand at the level of the chain. The guard of a branch is part of the header
line; nothing sets its level.
-/

namespace Scribe

/-! ## One pass from the root -/

namespace Branch

def topDown (n : Nat) (b : Branch) : Branch :=
  { b with level := n, actions := b.actions.map (Snippet.setLevel (n + 1)) }

end Branch

namespace Chain

def topDown (n : Nat) (c : Chain) : Chain :=
  { primary := c.primary.map (Branch.topDown n)
    elifs := c.elifs.map (Branch.topDown n)
    elseActions := c.elseActions.map (Snippet.setLevel (n + 1))
    level := n }

end Chain

mutual

/-- Gives the root a level and every construct below the level that follows from it. -/
def Construct.topDown (n : Nat) : Construct → Construct
  | .snippet s => .snippet (s.setLevel n)
  | .assignment a => .assignment (a.setLevel n)
  | .comment c => .comment (c.setLevel n)
  | .docstring d => .docstring (d.setLevel n)
  | .branch b => .branch (b.topDown n)
  | .chain c => .chain (c.topDown n)
  | .function f => .function (f.topDown n)
  | .method m => .method (m.topDown n)
  | .classDef c => .classDef (c.topDown n)
  | .boxed inner => .boxed (inner.topDown n)
termination_by c => sizeOf c

def FunctionDef.topDown (n : Nat) : FunctionDef → FunctionDef
  | { name, params, decorators, body := none, .. } => { name, params, decorators, level := n }
  | { name, params, decorators, body := some items, .. } =>
    { name, params, decorators, level := n
      body := some (items.map fun item => item.topDown (n + 1)) }
termination_by f => sizeOf f

def MethodDef.topDown (n : Nat) : MethodDef → MethodDef
  | { function, isStatic } => { function := function.topDown n, isStatic }
termination_by m => sizeOf m

def ClassDef.topDown (n : Nat) : ClassDef → ClassDef
  | { name, base, hasInit, description, methods, classVars, subclasses, .. } =>
    { name, base, hasInit, description, classVars, level := n
      methods := methods.map fun m => m.topDown (n + 1)
      subclasses := subclasses.map fun sub => sub.topDown (n + 1) }
termination_by c => sizeOf c

end

theorem FunctionDef.topDown_eq (n : Nat) (f : FunctionDef) :
    f.topDown n =
      { f with level := n, body := f.body.map (List.map (Construct.topDown (n + 1))) } := by
  rcases f with ⟨name, params, decorators, _ | items, level⟩
  · rw [FunctionDef.topDown]
    rfl
  · rw [FunctionDef.topDown]
    rfl

theorem MethodDef.topDown_eq (n : Nat) (m : MethodDef) :
    m.topDown n = { m with function := m.function.topDown n } := by
  cases m
  rw [MethodDef.topDown]

theorem ClassDef.topDown_eq (n : Nat) (c : ClassDef) :
    c.topDown n =
      { c with
        level := n
        methods := c.methods.map (MethodDef.topDown (n + 1))
        subclasses := c.subclasses.map (ClassDef.topDown (n + 1)) } := by
  cases c
  rw [ClassDef.topDown]

/-! ## Levels in order -/

namespace Branch

def LevelsFrom (n : Nat) (b : Branch) : Prop :=
  b.level = n ∧ ∀ action ∈ b.actions, action.level = n + 1

end Branch

namespace Chain

def LevelsFrom (n : Nat) (c : Chain) : Prop :=
  c.level = n ∧ (∀ b ∈ c.branches, b.LevelsFrom n) ∧
    ∀ action ∈ c.elseActions, action.level = n + 1

end Chain

mutual

/-- The root is at a level, and at every depth the constructs of a suite are one level below the
construct that the suite belongs to. -/
def Construct.LevelsFrom (n : Nat) : Construct → Prop
  | .snippet s => s.level = n
  | .assignment a => a.level = n
  | .comment c => c.level = n
  | .docstring d => d.level = n
  | .branch b => b.LevelsFrom n
  | .chain c => c.LevelsFrom n
  | .function f => f.LevelsFrom n
  | .method m => m.LevelsFrom n
  | .classDef c => c.LevelsFrom n
  | .boxed inner => inner.LevelsFrom n
termination_by c => c.size
decreasing_by all_goals (simp only [Construct.size]; omega)

def FunctionDef.LevelsFrom (n : Nat) (f : FunctionDef) : Prop :=
  f.level = n ∧ ∀ item, (h : item ∈ f.items) → item.LevelsFrom (n + 1)
termination_by f.size
decreasing_by exact FunctionDef.size_item_lt h

def MethodDef.LevelsFrom (n : Nat) (m : MethodDef) : Prop :=
  m.function.LevelsFrom n
termination_by m.size
decreasing_by rw [m.size_eq]; omega

def ClassDef.LevelsFrom (n : Nat) (c : ClassDef) : Prop :=
  c.level = n ∧ (∀ m, (h : m ∈ c.methods) → m.LevelsFrom (n + 1)) ∧
    ∀ sub, (h : sub ∈ c.subclasses) → sub.LevelsFrom (n + 1)
termination_by c.size
decreasing_by
  · exact ClassDef.size_method_lt h
  · exact ClassDef.size_subclass_lt h

end

theorem FunctionDef.levelsFrom_iff {n : Nat} {f : FunctionDef} :
    f.LevelsFrom n ↔ f.level = n ∧ ∀ item ∈ f.items, item.LevelsFrom (n + 1) := by
  rw [FunctionDef.LevelsFrom]

theorem MethodDef.levelsFrom_iff {n : Nat} {m : MethodDef} :
    m.LevelsFrom n ↔ m.function.LevelsFrom n := by
  rw [MethodDef.LevelsFrom]

theorem ClassDef.levelsFrom_iff {n : Nat} {c : ClassDef} :
    c.LevelsFrom n ↔ c.level = n ∧ (∀ m ∈ c.methods, m.LevelsFrom (n + 1)) ∧
      ∀ sub ∈ c.subclasses, sub.LevelsFrom (n + 1) := by
  rw [ClassDef.LevelsFrom]

namespace Construct

/-- All levels below the root follow from the level of the root. -/
def Stamped (c : Construct) : Prop := c.LevelsFrom c.level

end Construct

/-! ## Changing every level -/

namespace Snippet

def mapLevel (own : Nat → Nat) (s : Snippet) : Snippet := { s with level := own s.level }

end Snippet

namespace Branch

def mapLevels (own guard : Nat → Nat) (b : Branch) : Branch :=
  { b with
    guard := b.guard.mapLevel guard
    actions := b.actions.map (Snippet.mapLevel own)
    level := own b.level }

end Branch

namespace Chain

def mapLevels (own guard : Nat → Nat) (c : Chain) : Chain :=
  { primary := c.primary.map (Branch.mapLevels own guard)
    elifs := c.elifs.map (Branch.mapLevels own guard)
    elseActions := c.elseActions.map (Snippet.mapLevel own)
    level := own c.level }

end Chain

mutual

/-- Changes the levels of the guards by `guard` and all other levels by `own`. Kinds, texts and the
order of all parts stay. -/
def Construct.mapLevels (own guard : Nat → Nat) : Construct → Construct
  | .snippet s => .snippet (s.mapLevel own)
  | .assignment a => .assignment { a with level := own a.level }
  | .comment c => .comment { c with level := own c.level }
  | .docstring d => .docstring { d with level := own d.level }
  | .branch b => .branch (b.mapLevels own guard)
  | .chain c => .chain (c.mapLevels own guard)
  | .function f => .function (f.mapLevels own guard)
  | .method m => .method (m.mapLevels own guard)
  | .classDef c => .classDef (c.mapLevels own guard)
  | .boxed inner => .boxed (inner.mapLevels own guard)
termination_by c => sizeOf c

def FunctionDef.mapLevels (own guard : Nat → Nat) : FunctionDef → FunctionDef
  | { name, params, decorators, body := none, level } =>
    { name, params, decorators, level := own level }
  | { name, params, decorators, body := some items, level } =>
    { name, params, decorators, level := own level
      body := some (items.map fun item => item.mapLevels own guard) }
termination_by f => sizeOf f

def MethodDef.mapLevels (own guard : Nat → Nat) : MethodDef → MethodDef
  | { function, isStatic } => { function := function.mapLevels own guard, isStatic }
termination_by m => sizeOf m

def ClassDef.mapLevels (own guard : Nat → Nat) : ClassDef → ClassDef
  | { name, base, hasInit, description, methods, classVars, subclasses, level } =>
    { name, base, hasInit, description, classVars, level := own level
      methods := methods.map fun m => m.mapLevels own guard
      subclasses := subclasses.map fun sub => sub.mapLevels own guard }
termination_by c => sizeOf c

end

theorem FunctionDef.mapLevels_eq (own guard : Nat → Nat) (f : FunctionDef) :
    f.mapLevels own guard =
      { f with
        level := own f.level
        body := f.body.map (List.map (Construct.mapLevels own guard)) } := by
  rcases f with ⟨name, params, decorators, _ | items, level⟩
  · rw [FunctionDef.mapLevels]
    rfl
  · rw [FunctionDef.mapLevels]
    rfl

theorem MethodDef.mapLevels_eq (own guard : Nat → Nat) (m : MethodDef) :
    m.mapLevels own guard = { m with function := m.function.mapLevels own guard } := by
  cases m
  rw [MethodDef.mapLevels]

theorem ClassDef.mapLevels_eq (own guard : Nat → Nat) (c : ClassDef) :
    c.mapLevels own guard =
      { c with
        level := own c.level
        methods := c.methods.map (MethodDef.mapLevels own guard)
        subclasses := c.subclasses.map (ClassDef.mapLevels own guard) } := by
  cases c
  rw [ClassDef.mapLevels]

namespace Construct

/-- What is left of a tree without its levels; the guards keep theirs. -/
def unstamped (c : Construct) : Construct := c.mapLevels (fun _ => 0) id

/-- What is left of a tree without any level. -/
def shape (c : Construct) : Construct := c.mapLevels (fun _ => 0) fun _ => 0

end Construct

end Scribe
