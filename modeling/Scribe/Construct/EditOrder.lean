import Scribe.Construct.Edit

/-!
# Edits in order

Edits that change what a construct is made of, and runs of edits of which some may fail.

* `FunctionEdit.IsStructural`, `ClassEdit.IsStructural`, `ConstructEdit.IsStructural` — edits that ask
  for no change of level, neither of the construct nor of a member;
* `attemptAll` — changes one after the other, with a report on each.
-/

namespace Scribe

/-! ## Structural edits -/

namespace FunctionEdit

def IsStructural : FunctionEdit → Prop
  | push _ | setBody _ | decorate _ => True
  | relevel _ => False

end FunctionEdit

namespace ClassEdit

/-- An edit in place is as structural as what it does to the member. -/
def IsStructural : ClassEdit → Prop
  | setBase _ | addInit | describe _ | addMethod _ | addNamedMethod _ _ _ | addSubclass _
  | setVariable _ _ => True
  | relevel _ => False
  | inLastMethod e => e.IsStructural
  | inLastSubclass e => e.IsStructural

end ClassEdit

namespace ConstructEdit

def IsStructural : ConstructEdit → Prop
  | setValue _ | setKind _ | pushAction _ | addBranch _ | box => True
  | relevel _ => False
  | inFunction e => e.IsStructural
  | inClass e => e.IsStructural

end ConstructEdit

/-! ## Runs of edits -/

/-- Makes some changes one after the other and reports on each. A change that fails leaves everything as
it was, and the others are made all the same. -/
def attemptAll {ε α : Type} (change : ε → α → Except BuildError α) :
    List ε → α → α × List (Except BuildError Unit)
  | [], x => (x, [])
  | e :: rest, x =>
    let result := change e x
    let (last, results) := attemptAll change rest (result.toOption.getD x)
    (last, (result.map fun _ => ()) :: results)

theorem attemptAll_cons {ε α : Type} (change : ε → α → Except BuildError α) (e : ε) (rest : List ε)
    (x : α) :
    attemptAll change (e :: rest) x =
      ((attemptAll change rest ((change e x).toOption.getD x)).1,
        ((change e x).map fun _ => ()) ::
          (attemptAll change rest ((change e x).toOption.getD x)).2) := rfl

end Scribe
