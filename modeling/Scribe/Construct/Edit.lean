import Scribe.Construct.Build

/-!
# Edits

The changes that can be made to a construct, as data, so that a history of a construct is a list.
An edit that fails leaves the construct as it was.

* `FunctionEdit`, `ClassEdit`, `ConstructEdit` — the changes of functions (and methods), of classes and
  of all constructs;
* `FunctionEdit.apply`, `ClassEdit.apply`, `ConstructEdit.apply` — one change;
* `ConstructEdit.step`, `ConstructEdit.run` — an edit that may fail, and a history of them;
* `Construct.Fresh`, `Construct.Reachable` — a new construct, and one with a history.

A method or a class that was just attached is edited in place by `ClassEdit.inLastMethod` and
`ClassEdit.inLastSubclass`.
-/

namespace Scribe

/-! ## Edits of functions and methods -/

inductive FunctionEdit where
  | push (item : Construct)
  | setBody (items : List Construct)
  | decorate (decorator : Text)
  | relevel (r : Relevel)

namespace FunctionEdit

def apply : FunctionEdit → FunctionDef → Except BuildError FunctionDef
  | push item, f => .ok (f.push item)
  | setBody items, f => .ok (f.setBody items)
  | decorate decorator, f => f.decorate decorator
  | relevel r, f => .ok (f.relevel r)

def applyMethod (e : FunctionEdit) (m : MethodDef) : Except BuildError MethodDef :=
  (e.apply m.function).map fun function => { m with function }

end FunctionEdit

/-! ## Edits of classes -/

/-- A change of a class, or of the member that was attached last. -/
inductive ClassEdit where
  | setBase (base : Text)
  | addInit
  | describe (description : Text)
  | addMethod (m : MethodDef)
  | addNamedMethod (name : Text) (params decorators : List Text)
  | addSubclass (sub : ClassDef)
  | setVariable (name value : Text)
  | relevel (r : Relevel)
  | inLastMethod (e : FunctionEdit)
  | inLastSubclass (e : ClassEdit)

/-- Changes the last element of a list; an empty list stays empty. -/
def modifyLast {α ε : Type} (change : α → Except ε α) : List α → Except ε (List α)
  | [] => .ok []
  | [x] => (change x).map fun y => [y]
  | x :: rest => (modifyLast change rest).map (x :: ·)

namespace ClassEdit

def apply : ClassEdit → ClassDef → Except BuildError ClassDef
  | setBase base, c => .ok (c.setBase base)
  | addInit, c => .ok c.addInit
  | describe description, c => .ok (c.describe description)
  | addMethod m, c => .ok (c.addMethod m)
  | addNamedMethod name params decorators, c => c.addNamedMethod name params decorators
  | addSubclass sub, c => .ok (c.addSubclass sub)
  | setVariable name value, c => .ok (c.setVariable name value)
  | relevel r, c => .ok (c.relevel r)
  -- A member that was attached is reached through the class, in place.
  | inLastMethod e, c =>
    (modifyLast e.applyMethod c.methods).map fun methods => { c with methods }
  | inLastSubclass e, c =>
    (modifyLast e.apply c.subclasses).map fun subclasses => { c with subclasses }

end ClassEdit

/-! ## Edits of all constructs -/

inductive ConstructEdit where
  | relevel (r : Relevel)
  | setValue (value : Value)
  | setKind (kind : BranchKind)
  | pushAction (action : Snippet)
  | addBranch (b : Branch)
  | inFunction (e : FunctionEdit)
  | inClass (e : ClassEdit)
  | box

namespace ConstructEdit

/-- The construct after an edit. What is in a box is edited in the box, and an edit that constructs of
its kind do not have changes nothing. -/
def apply : ConstructEdit → Construct → Except BuildError Construct
  | box, c => .ok (.boxed c)
  | relevel r, c => .ok (c.relevel r)
  | setValue value, .assignment a => .ok (.assignment (a.setValue value))
  | setKind kind, .branch b => .ok (.branch (b.setKind kind))
  | pushAction action, .branch b => .ok (.branch (b.pushAction action))
  | addBranch b, .chain c => .ok (.chain (c.addBranch b))
  | inFunction e, .function f => (e.apply f).map .function
  | inFunction e, .method m => (e.applyMethod m).map .method
  | inClass e, .classDef c => (e.apply c).map .classDef
  | e, .boxed inner => (apply e inner).map .boxed
  | _, c => .ok c

/-- The construct after an edit, or as it was if the edit fails. -/
def step (e : ConstructEdit) (c : Construct) : Construct :=
  (e.apply c).toOption.getD c

def run (edits : List ConstructEdit) (c : Construct) : Construct :=
  edits.foldl (fun d e => e.step d) c

end ConstructEdit

/-! ## Members in place -/

namespace FunctionEdit

/-- A function at level `n` is still there after the edit. -/
def StaysAt (n : Nat) : FunctionEdit → Prop
  | relevel r => r.target n = n
  | _ => True

end FunctionEdit

namespace ClassEdit

def StaysAt (n : Nat) : ClassEdit → Prop
  | relevel r => r.target n = n
  | _ => True

/-- The edit does not move a member of the class, or a member of a member, on its own. -/
def MembersStay : ClassEdit → ClassDef → Prop
  | inLastMethod e, c => ∀ m, c.methods.getLast? = some m → e.StaysAt m.level
  | inLastSubclass e, c =>
    ∀ sub, c.subclasses.getLast? = some sub → e.StaysAt sub.level ∧ e.MembersStay sub
  | _, _ => True

end ClassEdit

namespace ConstructEdit

/-- The edit does not move a member of a class on its own. -/
def MembersStay : ConstructEdit → Construct → Prop
  | inClass e, .classDef c => e.MembersStay c
  | e, .boxed inner => MembersStay e inner
  | _, _ => True

end ConstructEdit

/-! ## Histories -/

namespace Construct

/-- A construct that was just made. -/
inductive Fresh : Construct → Prop where
  | snippet (code : Text) : Fresh (.snippet { code })
  | assignment (name : Text) (value : Value) : Fresh (.assignment { name, value })
  | comment (text : Text) : Fresh (.comment { text })
  | docstring (text : Text) : Fresh (.docstring { text })
  | branch (guard : Snippet) (actions : List Snippet) (kind : BranchKind) :
      Fresh (.branch (Branch.new guard actions kind))
  | chain (elseActions : List Snippet) : Fresh (.chain (Chain.new elseActions))
  | function (name : Text) (params : List Text) : Fresh (.function (FunctionDef.new name params))
  | method (name : Text) (params : List Text) : Fresh (.method (MethodDef.new name params))
  | staticMethod (name : Text) (params : List Text) :
      Fresh (.method (MethodDef.newStatic name params))
  | classDef (name : Text) : Fresh (.classDef (ClassDef.new name))

/-- A construct with any history of edits, failing ones included, in which no member of a class was
moved on its own. The constructs that the edits attach may have any levels. -/
inductive Reachable : Construct → Prop where
  | fresh {c : Construct} : c.Fresh → Reachable c
  | edit {c : Construct} (e : ConstructEdit) :
      Reachable c → e.MembersStay c → Reachable (e.step c)

end Construct

end Scribe
