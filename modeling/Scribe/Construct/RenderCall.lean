import Scribe.Construct.Levels
import Scribe.Construct.Render
import Scribe.Construct.Within

/-!
# Asking for text forms

The calls that ask a construct for its text form as data, what a call leaves behind, and the trees for
which there is nothing to be had.

* `RenderCall` — the two ways to ask, with their results and what they leave behind;
* `RenderCall.run` — the construct after any calls;
* `Construct.HasHeadlessChain` — somewhere in the tree there is a chain that nothing opens;
* `Construct.openChains` — the tree with a branch attached to every such chain.
-/

namespace Scribe

/-! ## Calls -/

/-- A construct is rendered at the levels that it holds, or after they were brought in order. -/
inductive RenderCall where
  | stored
  | fresh
deriving DecidableEq, Repr

namespace RenderCall

def result : RenderCall → Construct → Rendering
  | stored, c => c.render
  | fresh, c => c.renderFresh

/-- The construct that a call leaves behind, whether or not there is a text form. -/
def left : RenderCall → Construct → Construct
  | stored, c => c
  | fresh, c => c.restamp

def run (c : Construct) (calls : List RenderCall) : Construct :=
  calls.foldl (fun d call => call.left d) c

end RenderCall

/-! ## Chains that nothing opens -/

/-- Somewhere in the tree, at any depth and in any boxes, there is a chain that nothing opens. -/
def Construct.HasHeadlessChain (c : Construct) : Prop :=
  ∃ x : Chain, x.primary = none ∧ (Construct.chain x).Within c

/-- The chain, with a branch attached if nothing opens it yet. -/
def Chain.opened (opening : Chain → Branch) (c : Chain) : Chain :=
  match c.primary with
  | none => c.addBranch (opening c)
  | some _ => c

section

variable (opening : Chain → Branch)

mutual

/-- Attaches a branch to every chain in the tree that nothing opens yet. -/
def Construct.openChains : Construct → Construct
  | .snippet s => .snippet s
  | .assignment a => .assignment a
  | .comment c => .comment c
  | .docstring d => .docstring d
  | .branch b => .branch b
  | .chain c => .chain (c.opened opening)
  | .function f => .function f.openChains
  | .method m => .method m.openChains
  | .classDef c => .classDef c.openChains
  | .boxed inner => .boxed inner.openChains
termination_by c => sizeOf c

def FunctionDef.openChains : FunctionDef → FunctionDef
  | { name, params, decorators, body := none, level } => { name, params, decorators, level }
  | { name, params, decorators, body := some items, level } =>
    { name, params, decorators, level, body := some (items.map fun item => item.openChains) }
termination_by f => sizeOf f

def MethodDef.openChains : MethodDef → MethodDef
  | { function, isStatic } => { function := function.openChains, isStatic }
termination_by m => sizeOf m

def ClassDef.openChains : ClassDef → ClassDef
  | { name, base, hasInit, description, methods, classVars, subclasses, level } =>
    { name, base, hasInit, description, classVars, level
      methods := methods.map fun m => m.openChains
      subclasses := subclasses.map fun sub => sub.openChains }
termination_by c => sizeOf c

end

theorem FunctionDef.items_openChains (f : FunctionDef) :
    (f.openChains opening).items = f.items.map (Construct.openChains opening) := by
  rcases f with ⟨name, params, decorators, _ | items, level⟩
  · rw [FunctionDef.openChains]
    rfl
  · rw [FunctionDef.openChains]
    rfl

theorem MethodDef.openChains_eq (m : MethodDef) :
    m.openChains opening = { m with function := m.function.openChains opening } := by
  cases m
  rw [MethodDef.openChains]

theorem ClassDef.openChains_eq (c : ClassDef) :
    c.openChains opening =
      { c with
        methods := c.methods.map (MethodDef.openChains opening)
        subclasses := c.subclasses.map (ClassDef.openChains opening) } := by
  cases c
  rw [ClassDef.openChains]

end

end Scribe
