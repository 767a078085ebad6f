import Scribe.Construct.EditOrder
import Scribe.Proofs.Chains
import Scribe.Proofs.History

/-!
# The order of construction is free

A structural edit stamps what it attaches from the level that is there, and a change of level stamps
everything, so it does not matter which comes first. Nor does it matter whether a member is completed
before it joins a class or in place, or whether parts come all at once or one by one.

* `ConstructEdit.map_setLevel_apply` — an edit and a change of level, in either order;
* `attemptAll_map` — runs of edits on two things that correspond;
* `ClassDef.inLastMethod_addMethod`, `ClassDef.inLastSubclass_addSubclass` — edits of a member in place;
* `FunctionDef.setBody_eq_foldl`, `Branch.new_eq_foldl` — all at once or one by one;
* `construction_order_is_free` — all of these together.
-/

namespace Scribe

/-! ## Functions and methods -/

namespace FunctionDef

variable {n : Nat} {f : FunctionDef}

theorem push_eq (item : Construct) :
    f.push item = { f with body := some (f.items ++ [item.topDown (f.level + 1)]) } := by
  simp only [push, Construct.setLevel_eq_topDown, Construct.restamp_eq_topDown,
    Construct.level_topDown, Construct.topDown_topDown]

theorem topDown_push (item : Construct) : (f.push item).topDown n = (f.topDown n).push item := by
  simp only [push_eq, items_topDown, level_topDown]
  simp [topDown_eq, items]

/-- A new body is stamped in any case, so that the old levels do not matter. -/
theorem topDown_setBody (items : List Construct) :
    (f.setBody items).topDown n = (f.topDown n).setBody items := by
  simp only [setBody, stamping_eq_topDown, topDown_topDown, level_topDown]
  simp only [topDown_eq]

theorem map_topDown_decorate (decorator : Text) :
    (f.decorate decorator).map (topDown n) = (f.topDown n).decorate decorator := by
  simp only [decorate]
  split
  · simp only [Except.map, topDown_eq]
  · rfl

theorem foldl_push (before items : List Construct) :
    items.foldl push { f with body := some before } =
      { f with body := some (before ++ items.map (Construct.topDown (f.level + 1))) } := by
  induction items generalizing before with
  | nil => simp
  | cons item rest ih => simp [push_eq, FunctionDef.items, ih]

/-- The items of a body may come all at once or one by one. -/
theorem setBody_eq_foldl (items : List Construct) :
    f.setBody items = items.foldl push { f with body := none } := by
  simp only [setBody, stamping_eq_topDown, topDown_eq]
  cases items with
  | nil => rfl
  | cons item rest =>
    -- The first push makes the body, and the others find one.
    have hfirst : ({ f with body := none } : FunctionDef).push item =
        { f with body := some [item.topDown (f.level + 1)] } := push_eq item
    simp [hfirst, foldl_push]

end FunctionDef

theorem MethodDef.setBody_eq_foldl (m : MethodDef) (items : List Construct) :
    m.setBody items = items.foldl push { m with function := { m.function with body := none } } := by
  have hpush (f : FunctionDef) : items.foldl push { m with function := f } =
      { m with function := items.foldl FunctionDef.push f } :=
    List.foldl_hom (fun function => { m with function }) fun _ _ => rfl
  rw [hpush, ← m.function.setBody_eq_foldl]
  rfl

namespace FunctionEdit

/-- A structural edit of a function and a change of its level, in either order. -/
theorem map_topDown_apply {e : FunctionEdit} (h : e.IsStructural) (f : FunctionDef) (n : Nat) :
    (e.apply f).map (FunctionDef.topDown n) = e.apply (f.topDown n) := by
  cases e with
  | push item => simp only [apply, Except.map, FunctionDef.topDown_push]
  | setBody items => simp only [apply, Except.map, FunctionDef.topDown_setBody]
  | decorate decorator => exact FunctionDef.map_topDown_decorate decorator
  | relevel r => exact h.elim

theorem map_topDown_applyMethod {e : FunctionEdit} (h : e.IsStructural) (m : MethodDef) (n : Nat) :
    (e.applyMethod m).map (MethodDef.topDown n) = e.applyMethod (m.topDown n) := by
  simp only [applyMethod, MethodDef.topDown_eq, ← map_topDown_apply h, map_then_map]

end FunctionEdit

/-! ## Classes -/

/-- A change that corresponds to another one element by element does so for the last element. -/
theorem modifyLast_map {α β ε : Type} {g : α → β} {change : α → Except ε α}
    {change' : β → Except ε β} (h : ∀ x, change' (g x) = (change x).map g) (xs : List α) :
    modifyLast change' (xs.map g) = (modifyLast change xs).map (List.map g) := by
  induction xs with
  | nil => rfl
  | cons x rest ih =>
    cases rest with
    | nil => simp only [List.map_cons, List.map_nil, modifyLast, h, map_then_map]
    | cons z more =>
      simp only [List.map_cons, modifyLast] at ih ⊢
      simp only [ih, map_then_map, List.map_cons]

theorem modifyLast_concat {α ε : Type} (change : α → Except ε α) (xs : List α) (x : α) :
    modifyLast change (xs ++ [x]) = (change x).map fun y => xs ++ [y] := by
  induction xs with
  | nil => rfl
  | cons w rest ih =>
    have hrest : modifyLast change (w :: (rest ++ [x])) =
        (modifyLast change (rest ++ [x])).map (w :: ·) := by
      cases rest with
      | nil => rfl
      | cons z more => rfl
    simp only [List.cons_append, hrest, ih, map_then_map]

namespace ClassDef

variable {n : Nat} {c : ClassDef}

theorem addMethod_eq : c.addMethod =
    fun m => { c with methods := c.methods ++ [m.topDown (c.level + 1)] } :=
  funext fun m => by simp only [addMethod, MethodDef.stamping_eq_topDown]

theorem addSubclass_eq : c.addSubclass =
    fun sub => { c with subclasses := c.subclasses ++ [sub.topDown (c.level + 1)] } :=
  funext fun sub => by simp only [addSubclass, stamping_eq_topDown]

theorem topDown_addMethod (m : MethodDef) :
    (c.addMethod m).topDown n = (c.topDown n).addMethod m := by
  rw [topDown_eq n (c.addMethod m), topDown_eq n c]
  simp [addMethod_eq, MethodDef.topDown_topDown]

theorem topDown_addSubclass (sub : ClassDef) :
    (c.addSubclass sub).topDown n = (c.topDown n).addSubclass sub := by
  rw [topDown_eq n (c.addSubclass sub), topDown_eq n c]
  simp [addSubclass_eq, topDown_topDown]

theorem map_topDown_addNamedMethod (name : Text) (params decorators : List Text) :
    (c.addNamedMethod name params decorators).map (topDown n) =
      (c.topDown n).addNamedMethod name params decorators := by
  simp only [addNamedMethod]
  split
  · rfl
  · simp only [map_then_map, topDown_addMethod]

end ClassDef

namespace ClassEdit

/-- A structural edit of a class, or of a member in place, and a change of the level of the class, in
either order. -/
theorem map_topDown_apply {e : ClassEdit} (h : e.IsStructural) :
    ∀ (c : ClassDef) (n : Nat), (e.apply c).map (ClassDef.topDown n) = e.apply (c.topDown n) := by
  induction e with
  | setBase _ | addInit | describe _ | setVariable _ _ =>
    intro c n
    simp only [apply, Except.map, ClassDef.setBase, ClassDef.addInit, ClassDef.describe,
      ClassDef.setVariable, ClassDef.topDown_eq]
  | addMethod m =>
    intro c n
    simp only [apply, Except.map, ClassDef.topDown_addMethod]
  | addNamedMethod name params decorators =>
    intro c n
    exact ClassDef.map_topDown_addNamedMethod name params decorators
  | addSubclass sub =>
    intro c n
    simp only [apply, Except.map, ClassDef.topDown_addSubclass]
  | relevel r => exact h.elim
  | inLastMethod e =>
    intro c n
    have hlast := modifyLast_map (fun m => (FunctionEdit.map_topDown_applyMethod h m (n + 1)).symm)
      c.methods
    rw [ClassDef.topDown_eq n c]
    simp only [apply, hlast, map_then_map]
    exact congrArg (Except.map · _) (funext fun _ => ClassDef.topDown_eq n _)
  | inLastSubclass e ih =>
    intro c n
    have hlast := modifyLast_map (fun sub => (ih h sub (n + 1)).symm) c.subclasses
    rw [ClassDef.topDown_eq n c]
    simp only [apply, hlast, map_then_map]
    exact congrArg (Except.map · _) (funext fun _ => ClassDef.topDown_eq n _)

end ClassEdit

/-! ## Members in place -/

namespace ClassDef

variable (c : ClassDef)

/-- A method that was just attached is edited in place as it would have been before. -/
theorem inLastMethod_addMethod {e : FunctionEdit} (h : e.IsStructural) (m : MethodDef) :
    (ClassEdit.inLastMethod e).apply (c.addMethod m) = (e.applyMethod m).map c.addMethod := by
  simp only [ClassEdit.apply, addMethod_eq, modifyLast_concat,
    ← FunctionEdit.map_topDown_applyMethod h, map_then_map]

theorem inLastSubclass_addSubclass {e : ClassEdit} (h : e.IsStructural) (sub : ClassDef) :
    (ClassEdit.inLastSubclass e).apply (c.addSubclass sub) = (e.apply sub).map c.addSubclass := by
  simp only [ClassEdit.apply, addSubclass_eq, modifyLast_concat, ← ClassEdit.map_topDown_apply h,
    map_then_map]

end ClassDef

/-- If every single change corresponds, then so do runs of changes and the reports on them. -/
theorem attemptAll_map {ε ε' α β : Type} {change : ε → α → Except BuildError α}
    {change' : ε' → β → Except BuildError β} {f : α → β} {g : ε → ε'} {es : List ε}
    (h : ∀ e ∈ es, ∀ x, change' (g e) (f x) = (change e x).map f) (x : α) :
    attemptAll change' (es.map g) (f x) = (attemptAll change es x).map f id := by
  induction es generalizing x with
  | nil => rfl
  | cons e rest ih =>
    rcases List.forall_mem_cons.1 h with ⟨hfirst, hrest⟩
    -- Where a change fails, both runs go on from where they were.
    simp only [List.map_cons, attemptAll_cons, hfirst, getD_toOption_map, ih hrest, map_then_map]
    rfl

/-! ## Branches and chains -/

namespace Branch

theorem topDown_pushAction (n : Nat) (b : Branch) (action : Snippet) :
    (b.pushAction action).topDown n = (b.topDown n).pushAction action := by
  simp only [pushAction, topDown, List.map_append]
  rfl

theorem foldl_pushAction (b : Branch) (actions : List Snippet) :
    actions.foldl pushAction b =
      { b with actions := b.actions ++ actions.map (Snippet.setLevel (b.level + 1)) } := by
  induction actions generalizing b with
  | nil => simp
  | cons action rest ih => simp [pushAction, ih]

/-- The actions of a branch may come all at once or one by one. -/
theorem new_eq_foldl (guard : Snippet) (actions : List Snippet) (kind : BranchKind) :
    Branch.new guard actions kind = actions.foldl pushAction (Branch.new guard [] kind) := by
  rw [foldl_pushAction]
  rfl

end Branch

theorem Chain.topDown_addBranch (n : Nat) (c : Chain) (b : Branch) :
    (c.addBranch b).topDown n = (c.topDown n).addBranch b := by
  rcases c with ⟨_ | first, elifs, elseActions, level⟩
  -- The branch opens the chain, or it is added behind the others.
  · simp only [addBranch, Branch.setKind_restamp_setLevel, topDown, Option.map_some,
      Branch.topDown_placed, Option.map_none]
  · simp [addBranch, Branch.setKind_restamp_setLevel, topDown, Branch.topDown_placed]

/-! ## All constructs -/

namespace ConstructEdit

/-- What is in a box is edited in the box. -/
theorem apply_boxed {e : ConstructEdit} (hbox : e ≠ box) (hrelevel : ∀ r, e ≠ relevel r)
    (c : Construct) : e.apply (.boxed c) = (e.apply c).map .boxed := by
  cases e with
  | box => exact absurd rfl hbox
  | relevel r => exact absurd rfl (hrelevel r)
  | _ => simp only [apply]

theorem map_topDown_apply {e : ConstructEdit} (h : e.IsStructural) (c : Construct) (n : Nat) :
    (e.apply c).map (Construct.topDown n) = e.apply (c.topDown n) := by
  -- One case for each kind of construct that has such edits; the induction goes into boxes.
  fun_induction apply e c with
  | case1 c => simp only [Except.map, apply, Construct.topDown]
  | case2 r c => exact h.elim
  | case3 value a => simp only [Except.map, Construct.topDown, apply]; rfl
  | case4 kind b => simp only [Except.map, Construct.topDown, apply]; rfl
  | case5 action b => simp only [Except.map, Construct.topDown, apply, b.topDown_pushAction]
  | case6 b x => simp only [Except.map, Construct.topDown, apply, x.topDown_addBranch]
  | case7 e f =>
    simp only [Construct.topDown, apply, ← FunctionEdit.map_topDown_apply h, map_then_map]
  | case8 e m =>
    simp only [Construct.topDown, apply, ← FunctionEdit.map_topDown_applyMethod h, map_then_map]
  | case9 e x =>
    simp only [Construct.topDown, apply, ← ClassEdit.map_topDown_apply h, map_then_map]
  | case10 e inner h1 h2 ih =>
    simp only [Construct.topDown, apply_boxed h1 h2, ← ih h, map_then_map]
  | case11 e c =>
    -- Constructs of this kind do not have such an edit, at any level.
    cases c <;> simp_all [Construct.topDown, apply, Except.map]

/-- A structural edit and a change of level, in either order: the same construct comes out, or the same
error. -/
theorem map_setLevel_apply {e : ConstructEdit} (h : e.IsStructural) (c : Construct) (n : Nat) :
    (e.apply c).map (Construct.setLevel n) = e.apply (c.setLevel n) := by
  have hpass : Construct.setLevel n = Construct.topDown n := funext (Construct.setLevel_eq_topDown n)
  rw [hpass]
  exact map_topDown_apply h c n

/-- Edits that fail included. -/
theorem setLevel_step {e : ConstructEdit} (h : e.IsStructural) (c : Construct) (n : Nat) :
    (e.step c).setLevel n = e.step (c.setLevel n) := by
  simp only [step, ← map_setLevel_apply h, getD_toOption_map]

end ConstructEdit

/-! ## Construction -/

/-- For every structural edit, of any construct at any levels, it does not matter whether it comes before
or after a change of level: the same construct comes out, with all levels, and the edit succeeds or fails
alike. So a method or a class may be completed and then attached, or be attached and then completed in
place, with the same reports. The items of a body, and the actions of a branch, may come all at once or
one by one. -/
theorem construction_order_is_free :
    (∀ (e : ConstructEdit) (c : Construct) (n : Nat), e.IsStructural →
      (e.apply c).map (Construct.setLevel n) = e.apply (c.setLevel n) ∧
        (e.step c).setLevel n = e.step (c.setLevel n)) ∧
    (∀ (edits : List FunctionEdit) (m : MethodDef) (c : ClassDef), (∀ e ∈ edits, e.IsStructural) →
      attemptAll ClassEdit.apply (edits.map .inLastMethod) (c.addMethod m) =
        (attemptAll FunctionEdit.applyMethod edits m).map c.addMethod id) ∧
    (∀ (edits : List ClassEdit) (sub c : ClassDef), (∀ e ∈ edits, e.IsStructural) →
      attemptAll ClassEdit.apply (edits.map .inLastSubclass) (c.addSubclass sub) =
        (attemptAll ClassEdit.apply edits sub).map c.addSubclass id) ∧
    (∀ (f : FunctionDef) (items : List Construct),
      f.setBody items = items.foldl FunctionDef.push { f with body := none }) ∧
    (∀ (m : MethodDef) (items : List Construct),
      m.setBody items =
        items.foldl MethodDef.push { m with function := { m.function with body := none } }) ∧
    (∀ (guard : Snippet) (actions : List Snippet) (kind : BranchKind),
      Branch.new guard actions kind =
        actions.foldl Branch.pushAction (Branch.new guard [] kind)) := by
  refine ⟨fun e c n h => ⟨e.map_setLevel_apply h c n, e.setLevel_step h c n⟩, ?_, ?_,
    fun f items => f.setBody_eq_foldl items, fun m items => m.setBody_eq_foldl items,
    Branch.new_eq_foldl⟩
  · intro edits m c h
    exact attemptAll_map (fun e he x => c.inLastMethod_addMethod (h e he) x) m
  · intro edits sub c h
    exact attemptAll_map (fun e he x => c.inLastSubclass_addSubclass (h e he) x) sub

/-- A method is refused a decorator, gets another one and then an item at a wrong level; before it joins
a class, or in place. -/
theorem construction_order_is_free_of_decorated_method :
    let edits : List FunctionEdit := [.decorate "cached".toList, .decorate "@cached".toList,
      .push (.snippet { code := "x".toList, level := 9 })]
    let m := MethodDef.new "run".toList []
    let c : ClassDef := { name := "Outer".toList, level := 2 }
    let inPlace := attemptAll ClassEdit.apply (edits.map .inLastMethod) (c.addMethod m)
    (∀ e ∈ edits, e.IsStructural) ∧
      inPlace = (attemptAll FunctionEdit.applyMethod edits m).map c.addMethod id ∧
      inPlace.2 = [.error (.invalidDecorator "cached".toList), .ok (), .ok ()] := by
  intro edits m c inPlace
  have hedits : ∀ e ∈ edits, e.IsStructural := by simp [edits, FunctionEdit.IsStructural]
  have hboth := construction_order_is_free.2.1 edits m c hedits
  exact ⟨hedits, hboth, (congrArg Prod.snd hboth).trans rfl⟩

end Scribe
