import Scribe.Construct.Basic

/-!
# Stamping levels

A construct that moves to another level brings the levels below along: every item of a suite is moved
to one level below the suite's owner, and is then told once more to bring its own levels in order. So
a subtree is stamped many times before it comes to rest.

* `Construct.setLevel` — moves a construct to a level, and stamps what is below;
* `Construct.restamp` — stamps what is below from the level that the construct has;
* `Construct.relevel` — the changes of level that can be asked for.

The recursion goes into a tree that was stamped already, so the two functions are defined together
with the fact that stamping keeps the size of a tree; the equations after them forget it.
-/

namespace Scribe

/-! ## Maps that keep sizes -/

/-- Maps a list whose elements keep their sizes. -/
def mapSized {α : Type} (size : α → Nat) :
    (xs : List α) → ((x : α) → x ∈ xs → { y : α // size y = size x }) →
      { ys : List α // total (ys.map size) = total (xs.map size) }
  | [], _ => ⟨[], rfl⟩
  | x :: rest, f =>
    let y := f x (List.mem_cons_self ..)
    let ys := mapSized size rest fun z h => f z (List.mem_cons_of_mem x h)
    ⟨y.1 :: ys.1, by simp only [List.map_cons, total, y.2, ys.2]⟩

theorem mapSized_val {α : Type} (size : α → Nat) (g : α → α) (xs : List α)
    (f : (x : α) → x ∈ xs → { y : α // size y = size x }) (h : ∀ x hx, (f x hx).1 = g x) :
    (mapSized size xs f).1 = xs.map g := by
  induction xs with
  | nil => rfl
  | cons x rest ih =>
    simp only [mapSized, List.map_cons, h, ih _ fun z hz => h z (List.mem_cons_of_mem x hz)]

/-- The function with other items of the same sizes in the place of its items. -/
def FunctionDef.replaceItems (f : FunctionDef)
    (items : { ys : List Construct //
      total (ys.map Construct.size) = total (f.items.map Construct.size) }) :
    { g : FunctionDef // g.size = f.size } :=
  ⟨{ f with body := f.body.map fun _ => items.1 }, by
    have htotal := items.2
    rcases f with ⟨name, params, decorators, _ | _, level⟩
    · rfl
    · simpa [FunctionDef.size_eq, FunctionDef.items] using htotal⟩

/-- The class with other members of the same sizes in the place of its methods and subclasses. -/
def ClassDef.replaceMembers (c : ClassDef)
    (methods : { ys : List MethodDef //
      total (ys.map MethodDef.size) = total (c.methods.map MethodDef.size) })
    (subclasses :
      { ys : List ClassDef //
        total (ys.map ClassDef.size) = total (c.subclasses.map ClassDef.size) }) :
    { d : ClassDef // d.size = c.size } :=
  ⟨{ c with methods := methods.1, subclasses := subclasses.1 }, by
    simp only [ClassDef.size_eq, methods.2, subclasses.2]⟩

/-! ## The recursion -/

mutual

/-- `Construct.setLevel`, with the fact that the tree keeps its size. -/
def Construct.setLevelSized (n : Nat) (c : Construct) : { d : Construct // d.size = c.size } :=
  match c with
  | .snippet s => ⟨.snippet (s.setLevel n), by simp only [Construct.size]⟩
  | .assignment a => ⟨.assignment (a.setLevel n), by simp only [Construct.size]⟩
  | .comment x => ⟨.comment (x.setLevel n), by simp only [Construct.size]⟩
  | .docstring d => ⟨.docstring (d.setLevel n), by simp only [Construct.size]⟩
  | .branch b => ⟨.branch (b.setLevel n), by simp only [Construct.size]⟩
  | .chain x => ⟨.chain (x.setLevel n), by simp only [Construct.size]⟩
  | .function f =>
    let g := f.setLevelSized n
    ⟨.function g.1, by simp only [Construct.size, g.2]⟩
  | .method m =>
    let g := m.setLevelSized n
    ⟨.method g.1, by simp only [Construct.size, g.2]⟩
  | .classDef x =>
    let g := x.setLevelSized n
    ⟨.classDef g.1, by simp only [Construct.size, g.2]⟩
  | .boxed inner =>
    let g := inner.setLevelSized n
    ⟨.boxed g.1, by simp only [Construct.size, g.2]⟩
termination_by (c.size, 1)
decreasing_by all_goals (simp only [Construct.size]; omega)

/-- `Construct.restamp`, with the fact that the tree keeps its size. -/
def Construct.restampSized (c : Construct) : { d : Construct // d.size = c.size } :=
  match c with
  | .snippet s => ⟨.snippet s, rfl⟩
  | .assignment a => ⟨.assignment a, rfl⟩
  | .comment x => ⟨.comment x, rfl⟩
  | .docstring d => ⟨.docstring d, rfl⟩
  | .branch b => ⟨.branch b.restamp, by simp only [Construct.size]⟩
  | .chain x => ⟨.chain x.restamp, by simp only [Construct.size]⟩
  | .function f =>
    let g := f.restampSized
    ⟨.function g.1, by simp only [Construct.size, g.2]⟩
  | .method m =>
    let g := m.restampSized
    ⟨.method g.1, by simp only [Construct.size, g.2]⟩
  | .classDef x =>
    let g := x.restampSized
    ⟨.classDef g.1, by simp only [Construct.size, g.2]⟩
  | .boxed inner =>
    let g := inner.restampSized
    ⟨.boxed g.1, by simp only [Construct.size, g.2]⟩
termination_by (c.size, 0)
decreasing_by all_goals (simp only [Construct.size]; omega)

def FunctionDef.setLevelSized (n : Nat) (f : FunctionDef) : { g : FunctionDef // g.size = f.size } :=
  let settled := FunctionDef.restampSized { f with level := n }
  ⟨settled.1, settled.2.trans (f.size_withLevel n)⟩
termination_by (f.size, 1)
decreasing_by
  rw [FunctionDef.size_withLevel]
  exact Prod.Lex.right _ Nat.zero_lt_one

def FunctionDef.restampSized (f : FunctionDef) : { g : FunctionDef // g.size = f.size } :=
  f.replaceItems (mapSized Construct.size f.items fun item _ =>
    -- An item is stamped twice; the second call ends because the first kept the size.
    let moved := item.setLevelSized (f.level + 1)
    let again := moved.1.restampSized
    ⟨again.1, again.2.trans moved.2⟩)
termination_by (f.size, 0)
decreasing_by
  · exact Prod.Lex.left _ _ (FunctionDef.size_item_lt ‹_›)
  · rw [moved.2]
    exact Prod.Lex.left _ _ (FunctionDef.size_item_lt ‹_›)

def MethodDef.setLevelSized (n : Nat) (m : MethodDef) : { x : MethodDef // x.size = m.size } :=
  let g := m.function.setLevelSized n
  ⟨{ m with function := g.1 }, by simp only [MethodDef.size_eq, g.2]⟩
termination_by (m.size, 1)
decreasing_by all_goals (simp only [MethodDef.size_eq]; omega)

def MethodDef.restampSized (m : MethodDef) : { x : MethodDef // x.size = m.size } :=
  let g := m.function.restampSized
  ⟨{ m with function := g.1 }, by simp only [MethodDef.size_eq, g.2]⟩
termination_by (m.size, 0)
decreasing_by all_goals (simp only [MethodDef.size_eq]; omega)

def ClassDef.setLevelSized (n : Nat) (c : ClassDef) : { d : ClassDef // d.size = c.size } :=
  let settled := ClassDef.restampSized { c with level := n }
  ⟨settled.1, settled.2.trans (c.size_withLevel n)⟩
termination_by (c.size, 1)
decreasing_by
  rw [ClassDef.size_withLevel]
  exact Prod.Lex.right _ Nat.zero_lt_one

def ClassDef.restampSized (c : ClassDef) : { d : ClassDef // d.size = c.size } :=
  c.replaceMembers
    (mapSized MethodDef.size c.methods fun m _ =>
      let moved := m.setLevelSized (c.level + 1)
      let again := moved.1.restampSized
      ⟨again.1, again.2.trans moved.2⟩)
    (mapSized ClassDef.size c.subclasses fun sub _ =>
      let moved := sub.setLevelSized (c.level + 1)
      let again := moved.1.restampSized
      ⟨again.1, again.2.trans moved.2⟩)
termination_by (c.size, 0)
decreasing_by
  · exact Prod.Lex.left _ _ (ClassDef.size_method_lt ‹_›)
  · rw [moved.2]
    exact Prod.Lex.left _ _ (ClassDef.size_method_lt ‹_›)
  · exact Prod.Lex.left _ _ (ClassDef.size_subclass_lt ‹_›)
  · rw [moved.2]
    exact Prod.Lex.left _ _ (ClassDef.size_subclass_lt ‹_›)

end

/-! ## Stamping -/

/-- Moves a construct to a level, and stamps what is below. -/
def Construct.setLevel (n : Nat) (c : Construct) : Construct := (c.setLevelSized n).1

/-- Stamps what is below a construct from the level that it has. -/
def Construct.restamp (c : Construct) : Construct := c.restampSized.1

def FunctionDef.setLevel (n : Nat) (f : FunctionDef) : FunctionDef := (f.setLevelSized n).1

def FunctionDef.restamp (f : FunctionDef) : FunctionDef := f.restampSized.1

def MethodDef.setLevel (n : Nat) (m : MethodDef) : MethodDef := (m.setLevelSized n).1

def MethodDef.restamp (m : MethodDef) : MethodDef := m.restampSized.1

def ClassDef.setLevel (n : Nat) (c : ClassDef) : ClassDef := (c.setLevelSized n).1

def ClassDef.restamp (c : ClassDef) : ClassDef := c.restampSized.1

/-! ## Equations of definitions -/

theorem FunctionDef.setLevel_eq (n : Nat) (f : FunctionDef) :
    f.setLevel n = FunctionDef.restamp { f with level := n } := by
  rw [FunctionDef.setLevel, FunctionDef.setLevelSized]
  rfl

theorem FunctionDef.restamp_eq (f : FunctionDef) :
    f.restamp =
      { f with body := f.body.map (List.map fun item => (item.setLevel (f.level + 1)).restamp) } := by
  rw [FunctionDef.restamp, FunctionDef.restampSized]
  simp only [FunctionDef.replaceItems]
  rw [mapSized_val _ (fun item => (item.setLevel (f.level + 1)).restamp) _ _ fun _ _ => rfl]
  rcases f with ⟨name, params, decorators, _ | items, level⟩
  · rfl
  · rfl

theorem MethodDef.setLevel_eq (n : Nat) (m : MethodDef) :
    m.setLevel n = { m with function := m.function.setLevel n } := by
  rw [MethodDef.setLevel, MethodDef.setLevelSized]
  rfl

theorem MethodDef.restamp_eq (m : MethodDef) :
    m.restamp = { m with function := m.function.restamp } := by
  rw [MethodDef.restamp, MethodDef.restampSized]
  rfl

theorem ClassDef.setLevel_eq (n : Nat) (c : ClassDef) :
    c.setLevel n = ClassDef.restamp { c with level := n } := by
  rw [ClassDef.setLevel, ClassDef.setLevelSized]
  rfl

theorem ClassDef.restamp_eq (c : ClassDef) :
    c.restamp =
      { c with
        methods := c.methods.map fun m => (m.setLevel (c.level + 1)).restamp
        subclasses := c.subclasses.map fun sub => (sub.setLevel (c.level + 1)).restamp } := by
  rw [ClassDef.restamp, ClassDef.restampSized]
  simp only [ClassDef.replaceMembers]
  rw [mapSized_val _ (fun m => (m.setLevel (c.level + 1)).restamp) _ _ fun _ _ => rfl]
  rw [mapSized_val _ (fun sub => (sub.setLevel (c.level + 1)).restamp) _ _ fun _ _ => rfl]

/-! ## Equations of constructs -/

namespace Construct

variable (n : Nat)

@[simp] theorem setLevel_snippet (s : Snippet) :
    (snippet s).setLevel n = snippet (s.setLevel n) := by
  rw [setLevel, setLevelSized]

@[simp] theorem setLevel_assignment (a : Assignment) :
    (assignment a).setLevel n = assignment (a.setLevel n) := by
  rw [setLevel, setLevelSized]

@[simp] theorem setLevel_comment (c : Comment) :
    (comment c).setLevel n = comment (c.setLevel n) := by
  rw [setLevel, setLevelSized]

@[simp] theorem setLevel_docstring (d : Docstring) :
    (docstring d).setLevel n = docstring (d.setLevel n) := by
  rw [setLevel, setLevelSized]

@[simp] theorem setLevel_branch (b : Branch) :
    (branch b).setLevel n = branch (b.setLevel n) := by
  rw [setLevel, setLevelSized]

@[simp] theorem setLevel_chain (c : Chain) :
    (chain c).setLevel n = chain (c.setLevel n) := by
  rw [setLevel, setLevelSized]

@[simp] theorem setLevel_function (f : FunctionDef) :
    (function f).setLevel n = function (f.setLevel n) := by
  rw [setLevel, setLevelSized, FunctionDef.setLevel]

@[simp] theorem setLevel_method (m : MethodDef) :
    (method m).setLevel n = method (m.setLevel n) := by
  rw [setLevel, setLevelSized, MethodDef.setLevel]

@[simp] theorem setLevel_classDef (c : ClassDef) :
    (classDef c).setLevel n = classDef (c.setLevel n) := by
  rw [setLevel, setLevelSized, ClassDef.setLevel]

@[simp] theorem setLevel_boxed (inner : Construct) :
    (boxed inner).setLevel n = boxed (inner.setLevel n) := by
  rw [setLevel, setLevelSized, setLevel]

@[simp] theorem restamp_snippet (s : Snippet) : (snippet s).restamp = snippet s := by
  rw [restamp, restampSized]

@[simp] theorem restamp_assignment (a : Assignment) :
    (assignment a).restamp = assignment a := by
  rw [restamp, restampSized]

@[simp] theorem restamp_comment (c : Comment) : (comment c).restamp = comment c := by
  rw [restamp, restampSized]

@[simp] theorem restamp_docstring (d : Docstring) : (docstring d).restamp = docstring d := by
  rw [restamp, restampSized]

@[simp] theorem restamp_branch (b : Branch) : (branch b).restamp = branch b.restamp := by
  rw [restamp, restampSized]

@[simp] theorem restamp_chain (c : Chain) : (chain c).restamp = chain c.restamp := by
  rw [restamp, restampSized]

@[simp] theorem restamp_function (f : FunctionDef) :
    (function f).restamp = function f.restamp := by
  rw [restamp, restampSized, FunctionDef.restamp]

@[simp] theorem restamp_method (m : MethodDef) : (method m).restamp = method m.restamp := by
  rw [restamp, restampSized, MethodDef.restamp]

@[simp] theorem restamp_classDef (c : ClassDef) :
    (classDef c).restamp = classDef c.restamp := by
  rw [restamp, restampSized, ClassDef.restamp]

@[simp] theorem restamp_boxed (inner : Construct) :
    (boxed inner).restamp = boxed inner.restamp := by
  rw [restamp, restampSized, restamp]

end Construct

/-! ## Changes of level -/

inductive Relevel where
  | set (level : Nat)
  | deepen
  | keep
deriving DecidableEq, Repr

namespace Relevel

def target (r : Relevel) (current : Nat) : Nat :=
  match r with
  | set level => level
  | deepen => current + 1
  | keep => current

/-- What a change does, given how a level is read, set and passed on to what is below. -/
def apply {α : Type} (level : α → Nat) (setLevel : Nat → α → α) (restamp : α → α) (r : Relevel)
    (x : α) : α :=
  match r with
  | set n => setLevel n x
  | deepen => setLevel (level x + 1) x
  | keep => restamp x

/-- If both ways of stamping are one pass, then so is every change. -/
theorem apply_eq {α : Type} {level : α → Nat} {setLevel : Nat → α → α} {restamp : α → α}
    {pass : Nat → α → α} {x : α} (hset : ∀ n, setLevel n x = pass n x)
    (hrestamp : restamp x = pass (level x) x) (r : Relevel) :
    r.apply level setLevel restamp x = pass (r.target (level x)) x := by
  cases r with
  | set n => exact hset n
  | deepen => exact hset (level x + 1)
  | keep => exact hrestamp

end Relevel

def Construct.relevel (r : Relevel) (c : Construct) : Construct :=
  r.apply Construct.level Construct.setLevel Construct.restamp c

def FunctionDef.relevel (r : Relevel) (f : FunctionDef) : FunctionDef :=
  r.apply FunctionDef.level FunctionDef.setLevel FunctionDef.restamp f

def ClassDef.relevel (r : Relevel) (c : ClassDef) : ClassDef :=
  r.apply ClassDef.level ClassDef.setLevel ClassDef.restamp c

end Scribe
