import Scribe.Construct.Build

/-!
# Rendering

The text form of a construct, with tabs for indentation.

* `Construct.render` — the text form at the levels that the tree holds;
* `Construct.renderFresh` — the text form after the levels were brought in order.

Every construct but a bare line begins with a line break, a class with two, so that the items of a
body are put together without looking at their neighbours.
-/

namespace Scribe

open Text

namespace Rendering

/-- The texts one after the other, or the first error among them. -/
def concat : List Rendering → Rendering
  | [] => .ok []
  | part :: rest => do return (← part) ++ (← concat rest)

def prepend (before : Text) (r : Rendering) : Rendering :=
  r.map (before ++ ·)

end Rendering

/-! ## Lines of definitions -/

namespace FunctionDef

def header (f : FunctionDef) : Text :=
  (f.decorators.flatMap fun decorator => ['\n'] ++ tabs f.level ++ decorator)
    ++ ['\n'] ++ tabs f.level ++ "def ".toList ++ f.name ++ ['('] ++ commaSeparated f.params
    ++ "):".toList

end FunctionDef

namespace ClassDef

/-- Whether the class has something to show besides its docstring. -/
def hasMembers (c : ClassDef) : Bool :=
  c.hasInit || !c.methods.isEmpty || !c.classVars.isEmpty || !c.subclasses.isEmpty

def signature (c : ClassDef) : Text :=
  "class ".toList ++ c.name ++ (match c.base with | some base => ['('] ++ base ++ [')'] | none => [])
    ++ [':']

/-- The empty line before a class, its signature and its docstring. -/
def header (c : ClassDef) : Text :=
  ['\n', '\n'] ++ tabs c.level ++ c.signature
    ++ (match c.description with
        | some description => ['\n'] ++ tabs (c.level + 1) ++ inTripleQuotes description
        | none => [])

def initStub (c : ClassDef) : Text :=
  if c.hasInit then
    ['\n'] ++ tabs (c.level + 1) ++ "def __init__(self):".toList ++ placeholder (c.level + 2)
  else []

def variableLines (c : ClassDef) : Text :=
  c.classVars.flatMap fun entry =>
    ['\n'] ++ tabs (c.level + 1) ++ entry.1 ++ " = ".toList ++ entry.2

end ClassDef

/-! ## Text forms -/

mutual

def Construct.render : Construct → Rendering
  | .snippet s => .ok s.render
  | .assignment a => .ok a.render
  | .comment c => .ok c.render
  | .docstring d => .ok d.render
  | .branch b => .ok b.render
  | .chain c => c.render
  | .function f => f.render
  | .method m => m.render
  | .classDef c => c.render
  | .boxed inner => inner.render
termination_by c => sizeOf c

/-- Decorators and signature, then the items of the body in order. A bare line is put on a line of its
own, and a missing body shows a placeholder. -/
def FunctionDef.render : FunctionDef → Rendering
  | { name, params, decorators, body, level } =>
    let f : FunctionDef := { name, params, decorators, body, level }
    Rendering.prepend f.header
      (match body with
        | none => .ok (placeholder (level + 1))
        | some items => Rendering.concat (items.map fun item =>
            Rendering.prepend (if item.isLine then ['\n'] else []) item.render))
termination_by f => sizeOf f

def MethodDef.render : MethodDef → Rendering
  | { function, isStatic := _ } => function.render
termination_by m => sizeOf m

/-- Header, stub of the initializer, methods, class variables, subclasses. A class without members
shows a placeholder. -/
def ClassDef.render : ClassDef → Rendering
  | { name, base, hasInit, description, methods, classVars, subclasses, level } =>
    let c : ClassDef :=
      { name, base, hasInit, description, methods, classVars, subclasses, level }
    let methodTexts := methods.map fun m => Rendering.prepend ['\n'] m.render
    let subclassTexts := subclasses.map fun sub => sub.render
    let members :=
      [.ok c.initStub] ++ methodTexts ++ [.ok c.variableLines] ++ subclassTexts
    Rendering.concat
      ([.ok c.header] ++ (if c.hasMembers then members else [.ok (placeholder (level + 1))])
        ++ [.ok ['\n']])
termination_by c => sizeOf c

end

/-! ## Equations -/

namespace Construct

/-- The text form of an item of a body: a bare line is put on a line of its own. -/
def renderItem (item : Construct) : Rendering :=
  Rendering.prepend (if item.isLine then ['\n'] else []) item.render

end Construct

theorem FunctionDef.render_eq (f : FunctionDef) :
    f.render =
      Rendering.prepend f.header
        (match f.body with
          | none => .ok (placeholder (f.level + 1))
          | some items => Rendering.concat (items.map Construct.renderItem)) := by
  rcases f with ⟨name, params, decorators, _ | items, level⟩
  · rw [FunctionDef.render]
  · rw [FunctionDef.render]
    rfl

theorem MethodDef.render_eq (m : MethodDef) : m.render = m.function.render := by
  cases m
  rw [MethodDef.render]

theorem ClassDef.render_eq (c : ClassDef) :
    c.render =
      Rendering.concat
        ([.ok c.header]
          ++ (if c.hasMembers then
                [.ok c.initStub] ++ c.methods.map (fun m => Rendering.prepend ['\n'] m.render)
                  ++ [.ok c.variableLines] ++ c.subclasses.map ClassDef.render
              else [.ok (placeholder (c.level + 1))])
          ++ [.ok ['\n']]) := by
  cases c
  rw [ClassDef.render]

namespace Construct

/-- The text form after the levels below were made to follow from the level of the construct. The
construct that is left behind is `c.restamp`. -/
def renderFresh (c : Construct) : Rendering := c.restamp.render

end Construct

end Scribe
