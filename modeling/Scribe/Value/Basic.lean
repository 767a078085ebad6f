import Scribe.Value.Entries

/-!
# Values

What can be assigned to a variable or passed as a keyword argument.

* `Value` — a string literal, code passed through, or a call;
* `Call` — the instantiation of a class with positional and keyword arguments;
* `Value.text`, `Call.text` — their written forms;
* `Value.beq_iff` — the Boolean comparison decides equality.
-/

namespace Scribe

mutual

/-- A value that is assigned or passed. -/
inductive Value where
  | literal (text : Text)
  | raw (code : Text)
  | call (c : Call)

/-- An instantiation such as `Point(1, 2, label='origin')`. Positional arguments are code; keyword
arguments keep the place of their first insertion. -/
structure Call where
  callee : Text
  args : List Text := []
  kwargs : List (Text × Value) := []

end

/-! ## Written forms -/

mutual

/-- The written form of a value. A literal is put between apostrophes, code stands as it is. -/
def Value.text : Value → Text
  | .literal text => Text.inApostrophes text
  | .raw code => code
  | .call c => c.text
termination_by v => sizeOf v

/-- The written form of a call: positional arguments, then keyword arguments, with a separator
between the two groups only if both have some text. -/
def Call.text : Call → Text
  | { callee, args, kwargs } =>
    let positional := Text.commaSeparated args
    let named := Text.commaSeparated (kwargs.map fun entry => entry.1 ++ ['='] ++ entry.2.text)
    let separator := if positional ≠ [] ∧ named ≠ [] then [',', ' '] else []
    callee ++ ['('] ++ positional ++ separator ++ named ++ [')']
termination_by c => sizeOf c
decreasing_by
  have inList := List.sizeOf_lt_of_mem ‹_ ∈ kwargs›
  have inEntry : sizeOf entry.2 < sizeOf entry := by
    cases entry
    simp only [Prod.mk.sizeOf_spec]
    omega
  simp only [Call.mk.sizeOf_spec]
  omega

end

/-! ## Equality -/

mutual

/-- Whether two values are the same. -/
def Value.beq : Value → Value → Bool
  | .literal s, .literal t => s == t
  | .raw s, .raw t => s == t
  | .call c, .call d => c.beq d
  | _, _ => false
termination_by structural v => v

/-- Whether two calls are the same. -/
def Call.beq : Call → Call → Bool
  | ⟨callee, args, kwargs⟩, ⟨callee', args', kwargs'⟩ =>
    callee == callee' && args == args' && Call.beqKwargs kwargs kwargs'
termination_by structural c => c

/-- Whether two lists of keyword arguments are the same. -/
def Call.beqKwargs : List (Text × Value) → List (Text × Value) → Bool
  | [], [] => true
  | (key, value) :: rest, (key', value') :: rest' =>
    key == key' && value.beq value' && Call.beqKwargs rest rest'
  | _, _ => false
termination_by structural kwargs => kwargs

end

mutual

theorem Value.beq_iff : ∀ v w : Value, v.beq w = true ↔ v = w
  | .literal s, w => by cases w <;> simp [Value.beq]
  | .raw s, w => by cases w <;> simp [Value.beq]
  | .call c, w => by
    cases w with
    | call d => simp [Value.beq, Call.beq_iff c d]
    | literal _ => simp [Value.beq]
    | raw _ => simp [Value.beq]

theorem Call.beq_iff : ∀ c d : Call, c.beq d = true ↔ c = d
  | ⟨callee, args, kwargs⟩, ⟨callee', args', kwargs'⟩ => by
    simp [Call.beq, Call.beqKwargs_iff kwargs kwargs', and_assoc]

theorem Call.beqKwargs_iff :
    ∀ xs ys : List (Text × Value), Call.beqKwargs xs ys = true ↔ xs = ys
  | [], ys => by cases ys <;> simp [Call.beqKwargs]
  | (key, value) :: rest, ys => by
    cases ys with
    | nil => simp [Call.beqKwargs]
    | cons entry rest' =>
      obtain ⟨key', value'⟩ := entry
      simp [Call.beqKwargs, Value.beq_iff value value', Call.beqKwargs_iff rest rest']

end

instance : DecidableEq Value := fun v w => decidable_of_iff _ (Value.beq_iff v w)

instance : DecidableEq Call := fun c d => decidable_of_iff _ (Call.beq_iff c d)

/-! ## Adding arguments -/

namespace Call

/-- A call without arguments. -/
def new (callee : Text) : Call := { callee }

/-- The call with one more positional argument. -/
def arg (c : Call) (code : Text) : Call :=
  { c with args := c.args ++ [code] }

/-- The call with a keyword argument; a known keyword keeps its place. -/
def kwarg (c : Call) (key : Text) (value : Value) : Call :=
  { c with kwargs := Entries.insert key value c.kwargs }

/-- The call with keyword arguments that are code. -/
def kwargAll (c : Call) (insertions : List (Text × Text)) : Call :=
  insertions.foldl (fun c entry => c.kwarg entry.1 (.raw entry.2)) c

end Call

end Scribe
