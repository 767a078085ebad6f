import Mathlib.Data.List.ModifyLast
import Scribe.Construct.Built
import Scribe.Construct.Render

/-!
# Registers of definitions

What its history says about the functions and methods in a tree. A register has the shape of the tree and
is kept call by call, without a look at the tree: the parameters of a definition are noted once, when it is
made, and a decorator when it is accepted.

* `Record`, `Register` — what is noted of a definition, and of all definitions in a tree;
* `Construct.register` — what can be read off a tree as it is;
* `ConstructEdit.note` — the register after an edit that succeeded;
* `Construct.Recorded` — a construct with a history, and the register that was kept on the way;
* `Construct.definition?`, `FunctionDef.BodyShown` — the definition that a construct is, and what is shown
  below its signature.
-/

namespace Scribe

open Text

/-! ## Records -/

inductive DefinitionKind where
  | function
  | method
  | staticMethod
deriving DecidableEq, Repr

/-- The parameters of a definition that is made with `supplied`. -/
def DefinitionKind.params (supplied : List Text) : DefinitionKind → List Text
  | function | staticMethod => supplied
  | method => MethodDef.receiver :: supplied

/-- What is noted of a definition: what it was made from, and the decorators that were accepted since, in
order. -/
structure Record where
  kind : DefinitionKind
  name : Text
  params : List Text
  decorators : List Text := []
deriving DecidableEq, Repr

namespace Record

def new (kind : DefinitionKind) (name : Text) (supplied : List Text) : Record :=
  { kind, name, params := kind.params supplied }

def accept (r : Record) (decorator : Text) : Record :=
  { r with decorators := r.decorators ++ [decorator] }

/-- The lines from the first decorator to the signature, without their tabs. -/
def lines (r : Record) : List Text :=
  r.decorators ++ ["def ".toList ++ r.name ++ "(".toList ++ commaSeparated r.params ++ "):".toList]

end Record

/-- The records of all definitions in a tree. Boxes do not count, and a construct that has no definitions
in it leaves an empty place. -/
inductive Register where
  | empty
  | definition (r : Record) (items : List Register)
  | classDef (methods subclasses : List Register)

/-! ## Reading a tree off -/

namespace FunctionDef

/-- What there is to note of the function as it is. -/
def record (kind : DefinitionKind) (f : FunctionDef) : Record :=
  { kind, name := f.name, params := f.params, decorators := f.decorators }

end FunctionDef

namespace MethodDef

def kind (m : MethodDef) : DefinitionKind := if m.isStatic then .staticMethod else .method

end MethodDef

mutual

/-- The records of a tree as it is. -/
def Construct.register : Construct → Register
  | .snippet _ | .assignment _ | .comment _ | .docstring _ | .branch _ | .chain _ => .empty
  | .function f => f.register .function
  | .method m => m.register
  | .classDef c => c.register
  | .boxed inner => inner.register
termination_by c => sizeOf c

def FunctionDef.register (kind : DefinitionKind) : FunctionDef → Register
  | { name, params, decorators, body := none, .. } =>
    .definition { kind, name, params, decorators } []
  | { name, params, decorators, body := some items, .. } =>
    .definition { kind, name, params, decorators } (items.map fun item => item.register)
termination_by f => sizeOf f

def MethodDef.register : MethodDef → Register
  | { function, isStatic } =>
    function.register (MethodDef.kind { function, isStatic })
termination_by m => sizeOf m

def ClassDef.register : ClassDef → Register
  | { methods, subclasses, .. } =>
    .classDef (methods.map fun m => m.register) (subclasses.map fun sub => sub.register)
termination_by c => sizeOf c

end

theorem FunctionDef.register_eq (kind : DefinitionKind) (f : FunctionDef) :
    f.register kind = .definition (f.record kind) (f.items.map Construct.register) := by
  rcases f with ⟨name, params, decorators, _ | items, level⟩
  · rw [FunctionDef.register]
    rfl
  · rw [FunctionDef.register]
    rfl

theorem MethodDef.register_eq (m : MethodDef) : m.register = m.function.register m.kind := by
  cases m
  rw [MethodDef.register]

theorem ClassDef.register_eq (c : ClassDef) :
    c.register = .classDef (c.methods.map MethodDef.register) (c.subclasses.map ClassDef.register) := by
  cases c
  rw [ClassDef.register]

/-! ## Notes of edits

The registers of what an edit attaches are given. An edit that a construct of its kind does not have is
not noted. -/

namespace FunctionEdit

def note (attached : List Register) : FunctionEdit → Register → Register
  | push _, .definition r items => .definition r (items ++ attached)
  | setBody _, .definition r _ => .definition r attached
  | decorate decorator, .definition r items => .definition (r.accept decorator) items
  | _, log => log

@[simp] theorem note_empty (attached : List Register) (e : FunctionEdit) :
    e.note attached .empty = .empty := by
  cases e <;> rfl

@[simp] theorem note_classDef (attached methods subclasses : List Register) (e : FunctionEdit) :
    e.note attached (.classDef methods subclasses) = .classDef methods subclasses := by
  cases e <;> rfl

end FunctionEdit

namespace ClassEdit

/-- A method that is only named is on record as it was asked for. -/
def note (attached : List Register) : ClassEdit → Register → Register
  | addMethod _, .classDef methods subclasses => .classDef (methods ++ attached) subclasses
  | addNamedMethod name params decorators, .classDef methods subclasses =>
    let r := { Record.new .method name params with decorators }
    .classDef (methods ++ [.definition r []]) subclasses
  | addSubclass _, .classDef methods subclasses => .classDef methods (subclasses ++ attached)
  | inLastMethod e, .classDef methods subclasses =>
    .classDef (methods.modifyLast (e.note attached)) subclasses
  | inLastSubclass e, .classDef methods subclasses =>
    .classDef methods (subclasses.modifyLast (e.note attached))
  | _, log => log

@[simp] theorem note_empty (attached : List Register) (e : ClassEdit) :
    e.note attached .empty = .empty := by
  cases e <;> rfl

@[simp] theorem note_definition (attached items : List Register) (r : Record) (e : ClassEdit) :
    e.note attached (.definition r items) = .definition r items := by
  cases e <;> rfl

end ClassEdit

namespace ConstructEdit

def note (attached : List Register) : ConstructEdit → Register → Register
  | inFunction e, log => e.note attached log
  | inClass e, log => e.note attached log
  | _, log => log

end ConstructEdit

/-! ## Histories -/

namespace Construct

/-- A construct with any history of edits, whose operands have such a history themselves, and the register
that was kept of it. An edit that is refused is not noted. -/
inductive Recorded : Construct → Register → Prop where
  | function (name : Text) (params : List Text) :
      Recorded (.function (FunctionDef.new name params)) (.definition (.new .function name params) [])
  | method (name : Text) (params : List Text) :
      Recorded (.method (MethodDef.new name params)) (.definition (.new .method name params) [])
  | staticMethod (name : Text) (params : List Text) :
      Recorded (.method (MethodDef.newStatic name params))
        (.definition (.new .staticMethod name params) [])
  | classDef (name : Text) : Recorded (.classDef (ClassDef.new name)) (.classDef [] [])
  | other {c : Construct} : c.Fresh → c.register = .empty → Recorded c .empty
  | edit {c d : Construct} {log : Register} (e : ConstructEdit) (attached : List Register) :
      Recorded c log → attached.length = e.operands.length →
        (∀ p ∈ e.operands.zip attached, Recorded p.1 p.2) → e.apply c = .ok d →
          Recorded d (e.note attached log)
  | refused {c : Construct} {log : Register} {fault : BuildError} (e : ConstructEdit) :
      Recorded c log → e.apply c = .error fault → Recorded (e.step c) log

/-- The function that a construct is, or that it is as a method. -/
def definition? : Construct → Option (DefinitionKind × FunctionDef)
  | .function f => some (.function, f)
  | .method m => some (m.kind, m.function)
  | _ => none

end Construct

/-- What is shown below the signature: a placeholder if there is no body, and otherwise the items of the
body, of which there is at least one. -/
inductive FunctionDef.BodyShown (f : FunctionDef) : Text → Prop where
  | placeholder : f.body = none → BodyShown f ('\n' :: tabs (f.level + 1) ++ "pass".toList)
  | items {first : Construct} {rest : List Construct} {texts : List Text} :
      f.body = some (first :: rest) → (first :: rest).map Construct.renderItem = texts.map .ok →
        BodyShown f texts.flatten

end Scribe
