import Scribe.Construct.Basic

/-!
# What a tree holds

Facts about every construct of a tree, at any depth.

* `Construct.Within` — a construct stands somewhere in another one;
* `Construct.Everywhere` — a fact holds of all constructs of a tree;
* `Construct.unboxed`, `Construct.items`, `Construct.isRemark` — a construct without its boxes, what
  stands in its body, and whether it is a comment;
* `Value.texts`, `Construct.texts`, `Construct.docLines` — the texts that a value, and a construct for
  itself, were given.
-/

namespace Scribe

open Text

/-! ## Constructs in a tree -/

/-- A construct stands somewhere in a tree: at the root, in the body of a function or method, in a
member of a class or in a box. -/
inductive Construct.Within (d : Construct) : Construct → Prop where
  | root : Within d d
  | item {f : FunctionDef} {item : Construct} :
      item ∈ f.items → Within d item → Within d (.function f)
  | methodItem {m : MethodDef} {item : Construct} :
      item ∈ m.function.items → Within d item → Within d (.method m)
  | member {c : ClassDef} {m : MethodDef} :
      m ∈ c.methods → Within d (.method m) → Within d (.classDef c)
  | subclass {c sub : ClassDef} :
      sub ∈ c.subclasses → Within d (.classDef sub) → Within d (.classDef c)
  | boxed {inner : Construct} : Within d inner → Within d (.boxed inner)

namespace Construct

/-- A fact holds of all constructs of a tree. -/
def Everywhere (p : Construct → Prop) (c : Construct) : Prop :=
  ∀ d : Construct, d.Within c → p d

section Everywhere

variable {p : Construct → Prop}

theorem Everywhere.root {c : Construct} (h : c.Everywhere p) : p c := h c .root

@[simp] theorem everywhere_snippet {s : Snippet} :
    (snippet s).Everywhere p ↔ p (snippet s) :=
  ⟨fun h => h.root, fun h _ hd => by cases hd; exact h⟩

@[simp] theorem everywhere_assignment {a : Assignment} :
    (assignment a).Everywhere p ↔ p (assignment a) :=
  ⟨fun h => h.root, fun h _ hd => by cases hd; exact h⟩

@[simp] theorem everywhere_comment {c : Comment} :
    (comment c).Everywhere p ↔ p (comment c) :=
  ⟨fun h => h.root, fun h _ hd => by cases hd; exact h⟩

@[simp] theorem everywhere_docstring {d : Docstring} :
    (docstring d).Everywhere p ↔ p (docstring d) :=
  ⟨fun h => h.root, fun h _ hd => by cases hd; exact h⟩

@[simp] theorem everywhere_branch {b : Branch} : (branch b).Everywhere p ↔ p (branch b) :=
  ⟨fun h => h.root, fun h _ hd => by cases hd; exact h⟩

@[simp] theorem everywhere_chain {c : Chain} : (chain c).Everywhere p ↔ p (chain c) :=
  ⟨fun h => h.root, fun h _ hd => by cases hd; exact h⟩

@[simp] theorem everywhere_function {f : FunctionDef} :
    (function f).Everywhere p ↔ p (function f) ∧ ∀ item ∈ f.items, item.Everywhere p := by
  refine ⟨fun h => ⟨h.root, fun item hitem d hd => h d (.item hitem hd)⟩, fun h d hd => ?_⟩
  cases hd with
  | root => exact h.1
  | item hitem hd => exact h.2 _ hitem d hd

@[simp] theorem everywhere_method {m : MethodDef} :
    (method m).Everywhere p ↔ p (method m) ∧ ∀ item ∈ m.function.items, item.Everywhere p := by
  refine ⟨fun h => ⟨h.root, fun item hitem d hd => h d (.methodItem hitem hd)⟩, fun h d hd => ?_⟩
  cases hd with
  | root => exact h.1
  | methodItem hitem hd => exact h.2 _ hitem d hd

/-- This would rewrite its own right side without end, so it is no simplification. -/
theorem everywhere_classDef {c : ClassDef} :
    (classDef c).Everywhere p ↔ p (classDef c) ∧ (∀ m ∈ c.methods, (method m).Everywhere p) ∧
      ∀ sub ∈ c.subclasses, (classDef sub).Everywhere p := by
  refine ⟨fun h => ⟨h.root, fun m hm d hd => h d (.member hm hd),
    fun sub hsub d hd => h d (.subclass hsub hd)⟩, fun h d hd => ?_⟩
  cases hd with
  | root => exact h.1
  | member hm hd => exact h.2.1 _ hm d hd
  | subclass hsub hd => exact h.2.2 _ hsub d hd

@[simp] theorem everywhere_boxed {inner : Construct} :
    (boxed inner).Everywhere p ↔ p (boxed inner) ∧ inner.Everywhere p := by
  refine ⟨fun h => ⟨h.root, fun d hd => h d (.boxed hd)⟩, fun h d hd => ?_⟩
  cases hd with
  | root => exact h.1
  | boxed hd => exact h.2 d hd

end Everywhere

/-! ## Bodies and boxes -/

/-- What is in the innermost box, if the construct is in one. -/
def unboxed : Construct → Construct
  | .boxed inner => inner.unboxed
  | c => c

/-- The items in the body of a function or method. -/
def items : Construct → List Construct
  | .function f => f.items
  | .method m => m.function.items
  | _ => []

/-- Whether the construct is a comment, in a box or not. -/
def isRemark : Construct → Bool
  | .comment _ => true
  | .boxed inner => inner.isRemark
  | _ => false

end Construct

/-! ## Texts -/

mutual

/-- The texts that a value was made of. -/
def Value.texts : Value → List Text
  | .literal text => [text]
  | .raw code => [code]
  | .call c => c.texts
termination_by structural v => v

def Call.texts : Call → List Text
  | ⟨callee, args, kwargs⟩ => callee :: args ++ Call.kwargTexts kwargs
termination_by structural c => c

def Call.kwargTexts : List (Text × Value) → List Text
  | [] => []
  | (key, value) :: rest => key :: value.texts ++ Call.kwargTexts rest
termination_by structural kwargs => kwargs

end

namespace Branch

def texts (b : Branch) : List Text := b.guard.code :: b.actions.map Snippet.code

end Branch

namespace Chain

def texts (c : Chain) : List Text :=
  c.branches.flatMap Branch.texts ++ c.elseActions.map Snippet.code

end Chain

namespace FunctionDef

def texts (f : FunctionDef) : List Text := f.name :: f.params ++ f.decorators

end FunctionDef

namespace ClassDef

def texts (c : ClassDef) : List Text :=
  c.name :: c.base.toList ++ c.description.toList
    ++ c.classVars.flatMap fun entry => [entry.1, entry.2]

end ClassDef

namespace Construct

/-- The texts that were given for the construct itself: names, parameters, decorators, code, values and
descriptions, but not the text of a comment or a docstring. -/
def texts : Construct → List Text
  | .snippet s => [s.code]
  | .assignment a => a.name :: a.value.texts
  | .branch b => b.texts
  | .chain c => c.texts
  | .function f => f.texts
  | .method m => m.function.texts
  | .classDef c => c.texts
  | .comment _ | .docstring _ | .boxed _ => []

/-- The lines of the text of a docstring. -/
def docLines : Construct → List Text
  | .docstring d => lines d.text
  | _ => []

end Construct

end Scribe
