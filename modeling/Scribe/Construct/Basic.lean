import Scribe.Construct.Conditional
import Scribe.Naming.CaseStyle

/-!
# Constructs

Source code is a tree of constructs, each of which holds an indent level.

* `Construct` — any construct;
* `FunctionDef`, `MethodDef`, `ClassDef` — the definitions that hold other constructs;
* `Construct.level`, `Construct.isLine` — what a parent sees of its items;
* `Construct.size` — the number of constructs in a tree, which no change of levels touches.
-/

namespace Scribe

mutual

/-- A piece of source code. A boxed construct stands for the construct in the box. -/
inductive Construct where
  | snippet (s : Snippet)
  | assignment (a : Assignment)
  | comment (c : Comment)
  | docstring (d : Docstring)
  | branch (b : Branch)
  | chain (c : Chain)
  | function (f : FunctionDef)
  | method (m : MethodDef)
  | classDef (c : ClassDef)
  | boxed (inner : Construct)

/-- A function: its decorators, its signature and the items of its body, if it has one. -/
structure FunctionDef where
  name : Text
  params : List Text
  decorators : List Text := []
  body : Option (List Construct) := none
  level : Nat := 0

/-- A function that belongs to a class. -/
structure MethodDef where
  function : FunctionDef
  isStatic : Bool

/-- A class and its members. -/
structure ClassDef where
  name : Text
  base : Option Text := none
  hasInit : Bool := false
  description : Option Text := none
  methods : List MethodDef := []
  classVars : Entries Text := []
  subclasses : List ClassDef := []
  level : Nat := 0

end

/-! ## What a parent sees -/

namespace FunctionDef

/-- The items of the body; none if there is no body. -/
def items (f : FunctionDef) : List Construct := f.body.getD []

end FunctionDef

namespace MethodDef

def level (m : MethodDef) : Nat := m.function.level

end MethodDef

namespace Construct

def level : Construct → Nat
  | .snippet s => s.level
  | .assignment a => a.level
  | .comment c => c.level
  | .docstring d => d.level
  | .branch b => b.level
  | .chain c => c.level
  | .function f => f.level
  | .method m => m.level
  | .classDef c => c.level
  | .boxed inner => inner.level

/-- Whether the text form is a bare line, which brings no line break of its own. -/
def isLine : Construct → Bool
  | .snippet _ | .comment _ | .docstring _ => true
  | .assignment _ | .branch _ | .chain _ | .function _ | .method _ | .classDef _ => false
  | .boxed inner => inner.isLine

end Construct

/-! ## Sizes -/

def total : List Nat → Nat
  | [] => 0
  | n :: rest => n + total rest

mutual

/-- The number of constructs in the tree. -/
def Construct.size : Construct → Nat
  | .snippet _ | .assignment _ | .comment _ | .docstring _ | .branch _ | .chain _ => 1
  | .function f => f.size + 1
  | .method m => m.size + 1
  | .classDef c => c.size + 1
  | .boxed inner => inner.size + 1
termination_by c => sizeOf c

def FunctionDef.size : FunctionDef → Nat
  | { body := none, .. } => 1
  | { body := some items, .. } => total (items.map fun item => item.size) + 1
termination_by f => sizeOf f

def MethodDef.size : MethodDef → Nat
  | { function, .. } => function.size + 1
termination_by m => sizeOf m

def ClassDef.size : ClassDef → Nat
  | { methods, subclasses, .. } =>
    total (methods.map fun m => m.size) + total (subclasses.map fun sub => sub.size) + 1
termination_by c => sizeOf c

end

theorem FunctionDef.size_eq (f : FunctionDef) :
    f.size = total (f.items.map Construct.size) + 1 := by
  rcases f with ⟨name, params, decorators, _ | items, level⟩
  · simp [FunctionDef.size, FunctionDef.items, total]
  · simp [FunctionDef.size, FunctionDef.items]

theorem MethodDef.size_eq (m : MethodDef) : m.size = m.function.size + 1 := by
  cases m
  rw [MethodDef.size]

theorem ClassDef.size_eq (c : ClassDef) :
    c.size = total (c.methods.map MethodDef.size) + total (c.subclasses.map ClassDef.size) + 1 := by
  cases c
  simp [ClassDef.size]

theorem size_le_total {α : Type} (size : α → Nat) {x : α} {xs : List α} (h : x ∈ xs) :
    size x ≤ total (xs.map size) := by
  induction xs with
  | nil => cases h
  | cons y rest ih =>
    rw [List.map_cons, total]
    rcases List.mem_cons.1 h with rfl | hrest
    · exact Nat.le_add_right _ _
    · exact Nat.le_add_left_of_le (ih hrest)

theorem FunctionDef.size_item_lt {f : FunctionDef} {item : Construct} (h : item ∈ f.items) :
    item.size < f.size := by
  have hle := size_le_total Construct.size h
  rw [f.size_eq]
  omega

theorem ClassDef.size_method_lt {c : ClassDef} {m : MethodDef} (h : m ∈ c.methods) :
    m.size < c.size := by
  have hle := size_le_total MethodDef.size h
  rw [c.size_eq]
  omega

theorem ClassDef.size_subclass_lt {c sub : ClassDef} (h : sub ∈ c.subclasses) :
    sub.size < c.size := by
  have hle := size_le_total ClassDef.size h
  rw [c.size_eq]
  omega

theorem FunctionDef.size_withLevel (n : Nat) (f : FunctionDef) :
    ({ f with level := n } : FunctionDef).size = f.size := by
  simp only [FunctionDef.size_eq]
  rfl

theorem ClassDef.size_withLevel (n : Nat) (c : ClassDef) :
    ({ c with level := n } : ClassDef).size = c.size := by
  simp only [ClassDef.size_eq]

/-! ## Induction on trees -/

/-- A fact holds of all constructs if it is passed on from the items of a body to the function or
method, from the members of a class to the class, and from what is in a box to the box. -/
@[elab_as_elim, induction_eliminator]
theorem Construct.tree_induction {motive : Construct → Prop}
    (snippet : ∀ s, motive (.snippet s)) (assignment : ∀ a, motive (.assignment a))
    (comment : ∀ c, motive (.comment c)) (docstring : ∀ d, motive (.docstring d))
    (branch : ∀ b, motive (.branch b)) (chain : ∀ c, motive (.chain c))
    (function : ∀ f, (∀ item ∈ f.items, motive item) → motive (.function f))
    (method : ∀ m, (∀ item ∈ m.function.items, motive item) → motive (.method m))
    (classDef : ∀ c, (∀ m ∈ c.methods, motive (.method m)) →
      (∀ sub ∈ c.subclasses, motive (.classDef sub)) → motive (.classDef c))
    (boxed : ∀ inner, motive inner → motive (.boxed inner)) (c : Construct) : motive c := by
  -- The recursive calls are on trees of a smaller size.
  have recurse (d : Construct) (_ : d.size < c.size) : motive d :=
    tree_induction snippet assignment comment docstring branch chain function method classDef boxed d
  match c with
  | .snippet s => exact snippet s
  | .assignment a => exact assignment a
  | .comment x => exact comment x
  | .docstring d => exact docstring d
  | .branch b => exact branch b
  | .chain x => exact chain x
  | .function f =>
    refine function f fun item hitem => recurse item ?_
    have hlt := f.size_item_lt hitem
    rw [Construct.size]
    omega
  | .method m =>
    refine method m fun item hitem => recurse item ?_
    have hlt := m.function.size_item_lt hitem
    rw [Construct.size, m.size_eq]
    omega
  | .classDef x =>
    refine classDef x (fun m hm => recurse (.method m) ?_) fun sub hsub => recurse (.classDef sub) ?_
    · have hlt := x.size_method_lt hm
      simp only [Construct.size]
      omega
    · have hlt := x.size_subclass_lt hsub
      simp only [Construct.size]
      omega
  | .boxed inner =>
    refine boxed inner (recurse inner ?_)
    rw [Construct.size]
    omega
termination_by c.size

end Scribe
