import Scribe.Construct.Edit
import Scribe.Construct.Within

/-!
# Trees that were built

The constructs that can be had by making constructs and editing them, where whatever an edit attaches
was made in the same way.

* `FunctionEdit.operands`, `ClassEdit.operands`, `ConstructEdit.operands` — what an edit attaches;
* `Construct.Built` — a construct with any history, of constructs with any history;
* `Construct.WellMade` — what building guarantees of a function or method.
-/

namespace Scribe

open Text

/-! ## Operands -/

namespace FunctionEdit

def operands : FunctionEdit → List Construct
  | push item => [item]
  | setBody items => items
  | decorate _ | relevel _ => []

end FunctionEdit

namespace ClassEdit

/-- A method that is only named is made by the class itself. -/
def operands : ClassEdit → List Construct
  | addMethod m => [.method m]
  | addSubclass sub => [.classDef sub]
  | inLastMethod e => e.operands
  | inLastSubclass e => e.operands
  | setBase _ | addInit | describe _ | addNamedMethod _ _ _ | setVariable _ _ | relevel _ => []

end ClassEdit

namespace ConstructEdit

/-- The constructs that an edit attaches. Guards and actions are not among them: they have nothing
below. -/
def operands : ConstructEdit → List Construct
  | inFunction e => e.operands
  | inClass e => e.operands
  | relevel _ | setValue _ | setKind _ | pushAction _ | addBranch _ | box => []

end ConstructEdit

/-! ## Built trees -/

namespace Construct

/-- A construct with any history of edits, failing ones included, whose operands have such a history
themselves. Members of a class may have been moved on their own. -/
inductive Built : Construct → Prop where
  | fresh {c : Construct} : c.Fresh → Built c
  | edit {c : Construct} (e : ConstructEdit) :
      Built c → (∀ d ∈ e.operands, Built d) → Built (e.step c)

end Construct

/-- A body has items, if it is there at all, and decorators have their mark. -/
def FunctionDef.HasItemsAndMarks (f : FunctionDef) : Prop :=
  f.body ≠ some [] ∧ ∀ decorator ∈ f.decorators, decorator.head? = some '@'

def Construct.WellMade : Construct → Prop
  | .function f => f.HasItemsAndMarks
  | .method m => m.function.HasItemsAndMarks
  | _ => True

end Scribe
