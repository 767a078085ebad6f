import Mathlib.Logic.Relation
import Scribe.Construct.Stamp

/-!
# Boxes in a tree

A box stands for the construct in it and passes on whatever it is asked. Boxes can be put around a
whole tree and around the items of bodies.

* `Construct.BoxAdded`, `Construct.Wrapped` — one more box somewhere in a tree, and any number of them;
* `Construct.bare` — the tree without its boxes;
* `Construct.parts`, `Construct.nodeAt` — what stands below a construct, and the construct that a path
  leads to;
* `Construct.relevelAll` — changes of level one after the other.
-/

namespace Scribe

/-! ## Adding boxes -/

/-- There is one more box, around the construct or around an item of a body at any depth. -/
inductive Construct.BoxAdded : Construct → Construct → Prop where
  | here (c : Construct) : BoxAdded c (.boxed c)
  | inItem {f : FunctionDef} (before after : List Construct) {item item' : Construct} :
      f.body = some (before ++ item :: after) → BoxAdded item item' →
        BoxAdded (.function f) (.function { f with body := some (before ++ item' :: after) })
  | inMethod {m : MethodDef} {g : FunctionDef} :
      BoxAdded (.function m.function) (.function g) →
        BoxAdded (.method m) (.method { m with function := g })
  | inMember {c : ClassDef} (before after : List MethodDef) {m m' : MethodDef} :
      c.methods = before ++ m :: after → BoxAdded (.method m) (.method m') →
        BoxAdded (.classDef c) (.classDef { c with methods := before ++ m' :: after })
  | inSubclass {c : ClassDef} (before after : List ClassDef) {sub sub' : ClassDef} :
      c.subclasses = before ++ sub :: after → BoxAdded (.classDef sub) (.classDef sub') →
        BoxAdded (.classDef c) (.classDef { c with subclasses := before ++ sub' :: after })
  | inBox {inner inner' : Construct} :
      BoxAdded inner inner' → BoxAdded (.boxed inner) (.boxed inner')

/-- The second tree is the first with any number of boxes in any places. -/
def Construct.Wrapped : Construct → Construct → Prop :=
  Relation.ReflTransGen Construct.BoxAdded

/-! ## Taking boxes off -/

mutual

/-- The tree without its boxes, at any depth. -/
def Construct.bare : Construct → Construct
  | .snippet s => .snippet s
  | .assignment a => .assignment a
  | .comment c => .comment c
  | .docstring d => .docstring d
  | .branch b => .branch b
  | .chain c => .chain c
  | .function f => .function f.bare
  | .method m => .method m.bare
  | .classDef c => .classDef c.bare
  | .boxed inner => inner.bare
termination_by c => sizeOf c

def FunctionDef.bare : FunctionDef → FunctionDef
  | { name, params, decorators, body := none, level } => { name, params, decorators, level }
  | { name, params, decorators, body := some items, level } =>
    { name, params, decorators, level, body := some (items.map fun item => item.bare) }
termination_by f => sizeOf f

def MethodDef.bare : MethodDef → MethodDef
  | { function, isStatic } => { function := function.bare, isStatic }
termination_by m => sizeOf m

def ClassDef.bare : ClassDef → ClassDef
  | { name, base, hasInit, description, methods, classVars, subclasses, level } =>
    { name, base, hasInit, description, classVars, level
      methods := methods.map fun m => m.bare
      subclasses := subclasses.map fun sub => sub.bare }
termination_by c => sizeOf c

end

theorem FunctionDef.bare_eq (f : FunctionDef) :
    f.bare = { f with body := f.body.map (List.map Construct.bare) } := by
  rcases f with ⟨name, params, decorators, _ | items, level⟩
  · rw [FunctionDef.bare]
    rfl
  · rw [FunctionDef.bare]
    rfl

theorem MethodDef.bare_eq (m : MethodDef) : m.bare = { m with function := m.function.bare } := by
  cases m
  rw [MethodDef.bare]

theorem ClassDef.bare_eq (c : ClassDef) :
    c.bare =
      { c with
        methods := c.methods.map MethodDef.bare
        subclasses := c.subclasses.map ClassDef.bare } := by
  cases c
  rw [ClassDef.bare]

/-! ## Nodes and paths -/

namespace Construct

/-- The constructs right below, in order. A box has the parts of what is in it. -/
def parts : Construct → List Construct
  | .snippet _ | .assignment _ | .comment _ | .docstring _ => []
  | .branch b => b.actions.map .snippet
  | .chain c => c.branches.map .branch ++ c.elseActions.map .snippet
  | .function f => f.items
  | .method m => m.function.items
  | .classDef c => c.methods.map .method ++ c.subclasses.map .classDef
  | .boxed inner => inner.parts

/-- The construct that is reached by going down to the part of each number in turn. -/
def nodeAt : List Nat → Construct → Option Construct
  | [], c => some c
  | i :: path, c => c.parts[i]?.bind (nodeAt path)

/-- Changes of level, first to last. -/
def relevelAll (changes : List Relevel) (c : Construct) : Construct :=
  changes.foldl (fun d r => d.relevel r) c

end Construct

end Scribe
