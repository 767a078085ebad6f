import Scribe.Construct.Built
import Scribe.Proofs.History

/-!
# Built trees are well made

No edit leaves an empty body or lets a decorator without its mark in, at any depth of the tree.

* `Construct.Everywhere.topDown` — stamping keeps what the levels have no part in;
* `ConstructEdit.wellMade_step` — what one edit keeps;
* `Construct.Built.wellMade` — what holds of every tree that was built.
-/

namespace Scribe

/-! ## Stamping -/

namespace Construct

/-- A fact in which levels have no part is still a fact about the whole tree after stamping. -/
theorem Everywhere.topDown {p : Construct → Prop} (hp : ∀ d n, p d → p (d.topDown n))
    (c : Construct) : ∀ n, c.Everywhere p → (c.topDown n).Everywhere p := by
  induction c with
  | function f ih =>
    intro n h
    have hroot := hp _ n h.root
    simp only [Construct.topDown, everywhere_function] at h hroot ⊢
    refine ⟨hroot, fun item hitem => ?_⟩
    simp only [FunctionDef.items_topDown, List.mem_map] at hitem
    rcases hitem with ⟨x, hx, rfl⟩
    exact ih x hx (n + 1) (h.2 x hx)
  | method m ih =>
    intro n h
    have hroot := hp _ n h.root
    simp only [Construct.topDown, MethodDef.topDown_eq, everywhere_method] at h hroot ⊢
    refine ⟨hroot, fun item hitem => ?_⟩
    simp only [FunctionDef.items_topDown, List.mem_map] at hitem
    rcases hitem with ⟨x, hx, rfl⟩
    exact ih x hx (n + 1) (h.2 x hx)
  | classDef c ihm ihs =>
    intro n h
    have hroot := hp _ n h.root
    rcases everywhere_classDef.1 h with ⟨_, hmethods, hsubclasses⟩
    simp only [Construct.topDown, ClassDef.topDown_eq] at ihm ihs hroot ⊢
    refine everywhere_classDef.2 ⟨hroot, ?_, ?_⟩
    · exact List.forall_mem_map.2 fun m hm => ihm m hm (n + 1) (hmethods m hm)
    · exact List.forall_mem_map.2 fun sub hsub => by
        simpa only [ClassDef.topDown_eq] using ihs sub hsub (n + 1) (hsubclasses sub hsub)
  | boxed inner ih =>
    intro n h
    have hroot := hp _ n h.root
    simp only [Construct.topDown, everywhere_boxed] at h hroot ⊢
    exact ⟨hroot, ih n h.2⟩
  | _ =>
    -- There is nothing but the root.
    intro n h
    have hroot := hp _ n h.root
    simp only [Construct.topDown] at hroot ⊢
    simpa using hroot

theorem wellMade_topDown (c : Construct) (n : Nat) (h : c.WellMade) : (c.topDown n).WellMade := by
  have hfunction (f : FunctionDef) (hf : f.HasItemsAndMarks) :
      (f.topDown n).HasItemsAndMarks := by
    simp only [FunctionDef.HasItemsAndMarks, FunctionDef.topDown_eq] at hf ⊢
    refine ⟨fun hbody => hf.1 ?_, hf.2⟩
    simpa using hbody
  cases c with
  | function f =>
    simp only [Construct.topDown]
    exact hfunction f h
  | method m =>
    simp only [Construct.topDown, MethodDef.topDown_eq]
    exact hfunction m.function h
  | _ => simp only [Construct.topDown, WellMade]

theorem everywhere_wellMade_topDown {c : Construct} (n : Nat) (h : c.Everywhere WellMade) :
    (c.topDown n).Everywhere WellMade :=
  Everywhere.topDown wellMade_topDown c n h

theorem everywhere_wellMade_method {m : MethodDef} :
    (method m).Everywhere WellMade ↔ (function m.function).Everywhere WellMade := by
  simp only [everywhere_method, everywhere_function, WellMade]

end Construct

open Construct

/-! ## Functions -/

theorem FunctionDef.wellMade_new (name : Text) (params : List Text) :
    (function (new name params)).Everywhere WellMade :=
  everywhere_function.2 ⟨⟨nofun, List.forall_mem_nil _⟩, List.forall_mem_nil _⟩

theorem FunctionDef.wellMade_decorate {f g : FunctionDef} {decorator : Text}
    (h : (function f).Everywhere WellMade) (hg : f.decorate decorator = .ok g) :
    (function g).Everywhere WellMade := by
  rcases everywhere_function.1 h with ⟨⟨hbody, hdecorators⟩, hitems⟩
  simp only [decorate] at hg
  -- Only a decorator that has its mark is let in.
  split at hg
  · rename_i hmark
    cases hg
    refine everywhere_function.2 ⟨⟨hbody, fun d hd => ?_⟩, hitems⟩
    rcases List.mem_append.1 hd with hold | hnew
    · exact hdecorators d hold
    · rcases List.mem_singleton.1 hnew with rfl
      exact hmark
  · cases hg

theorem FunctionDef.wellMade_decorateAll {decorators : List Text} :
    ∀ {f g : FunctionDef}, (function f).Everywhere WellMade →
      f.decorateAll decorators = .ok g → (function g).Everywhere WellMade := by
  induction decorators with
  | nil =>
    intro f g h hg
    cases hg
    exact h
  | cons decorator rest ih =>
    intro f g h hg
    simp only [decorateAll, List.foldlM_cons] at hg
    cases hfirst : f.decorate decorator with
    | error fault =>
      simp only [hfirst] at hg
      cases hg
    | ok x =>
      simp only [hfirst] at hg
      exact ih (wellMade_decorate h hfirst) hg

namespace FunctionEdit

theorem wellMade_apply {e : FunctionEdit} {f g : FunctionDef}
    (h : (function f).Everywhere WellMade) (hoperands : ∀ d ∈ e.operands, d.Everywhere WellMade)
    (hg : e.apply f = .ok g) : (function g).Everywhere WellMade := by
  rcases everywhere_function.1 h with ⟨hf, hitems⟩
  cases e with
  | push item =>
    cases hg
    -- The pushed item is stamped, and makes the body one that has items.
    have hitem : ((item.setLevel (f.level + 1)).restamp).Everywhere WellMade := by
      simp only [setLevel_eq_topDown, restamp_eq_topDown, topDown_topDown]
      exact everywhere_wellMade_topDown _ (hoperands item (List.mem_singleton_self item))
    refine everywhere_function.2 ⟨⟨by simp [FunctionDef.push], hf.2⟩, ?_⟩
    exact List.forall_mem_append.2 ⟨hitems, List.forall_mem_singleton.2 hitem⟩
  | setBody items =>
    cases hg
    have hset : (function { f with body := if items.isEmpty then none else some items }).Everywhere
        WellMade := by
      -- Without items there is no body.
      cases items with
      | nil => exact everywhere_function.2 ⟨⟨nofun, hf.2⟩, List.forall_mem_nil _⟩
      | cons item rest => exact everywhere_function.2 ⟨⟨by simp, hf.2⟩, hoperands⟩
    have hstamped := everywhere_wellMade_topDown f.level hset
    simpa only [FunctionDef.setBody, FunctionDef.stamping_eq_topDown, Construct.topDown] using hstamped
  | decorate decorator => exact FunctionDef.wellMade_decorate h hg
  | relevel r =>
    cases hg
    have hstamped := everywhere_wellMade_topDown (r.target f.level) h
    simpa only [FunctionDef.relevel_eq_topDown, Construct.topDown] using hstamped

theorem wellMade_applyMethod {e : FunctionEdit} {m x : MethodDef}
    (h : (method m).Everywhere WellMade) (hoperands : ∀ d ∈ e.operands, d.Everywhere WellMade)
    (hx : e.applyMethod m = .ok x) : (method x).Everywhere WellMade := by
  rcases map_eq_ok hx with ⟨g, hg, rfl⟩
  exact everywhere_wellMade_method.2 (wellMade_apply (everywhere_wellMade_method.1 h) hoperands hg)

end FunctionEdit

/-! ## Methods -/

theorem MethodDef.wellMade_setLevel {m : MethodDef} (n : Nat)
    (h : (method m).Everywhere WellMade) : (method (m.setLevel n)).Everywhere WellMade := by
  have hstamped := everywhere_wellMade_topDown n h
  simpa only [MethodDef.stamping_eq_topDown, Construct.topDown] using hstamped

theorem MethodDef.wellMade_new (name : Text) (params : List Text) :
    (method (new name params)).Everywhere WellMade ∧
      (method (newStatic name params)).Everywhere WellMade := by
  have hmoved (params : List Text) :
      (Construct.function ((FunctionDef.new name params).setLevel initialLevel)).Everywhere
        WellMade := by
    have hstamped := everywhere_wellMade_topDown initialLevel (FunctionDef.wellMade_new name params)
    simpa only [FunctionDef.stamping_eq_topDown, Construct.topDown] using hstamped
  exact ⟨everywhere_wellMade_method.2 (hmoved _), everywhere_wellMade_method.2 (hmoved _)⟩

/-! ## Classes -/

namespace ClassDef

/-- Only the members count. -/
theorem wellMade_iff {c : ClassDef} : (classDef c).Everywhere WellMade ↔
    (∀ m ∈ c.methods, (method m).Everywhere WellMade) ∧
      ∀ sub ∈ c.subclasses, (classDef sub).Everywhere WellMade :=
  everywhere_classDef.trans (and_iff_right trivial)

theorem wellMade_addMethod {c : ClassDef} {m : MethodDef} (h : (classDef c).Everywhere WellMade)
    (hm : (method m).Everywhere WellMade) : (classDef (c.addMethod m)).Everywhere WellMade := by
  rcases wellMade_iff.1 h with ⟨hmethods, hsubclasses⟩
  refine wellMade_iff.2 ⟨List.forall_mem_append.2 ⟨hmethods, ?_⟩, hsubclasses⟩
  exact List.forall_mem_singleton.2 (MethodDef.wellMade_setLevel _ hm)

theorem wellMade_addNamedMethod {c d : ClassDef} {name : Text} {params decorators : List Text}
    (h : (classDef c).Everywhere WellMade) (hd : c.addNamedMethod name params decorators = .ok d) :
    (classDef d).Everywhere WellMade := by
  simp only [addNamedMethod] at hd
  split at hd
  · cases hd
  · rcases map_eq_ok hd with ⟨g, hg, rfl⟩
    have hnew := everywhere_wellMade_method.1 (MethodDef.wellMade_new name params).1
    have hg' := FunctionDef.wellMade_decorateAll hnew hg
    exact wellMade_addMethod h (everywhere_wellMade_method.2 hg')

theorem wellMade_addSubclass {c sub : ClassDef} (h : (classDef c).Everywhere WellMade)
    (hsub : (classDef sub).Everywhere WellMade) :
    (classDef (c.addSubclass sub)).Everywhere WellMade := by
  rcases wellMade_iff.1 h with ⟨hmethods, hsubclasses⟩
  refine wellMade_iff.2 ⟨hmethods, List.forall_mem_append.2 ⟨hsubclasses, ?_⟩⟩
  refine List.forall_mem_singleton.2 ?_
  have hstamped := everywhere_wellMade_topDown (c.level + 1) hsub
  simpa only [ClassDef.stamping_eq_topDown, Construct.topDown] using hstamped

end ClassDef

namespace ClassEdit

theorem wellMade_apply {e : ClassEdit} : ∀ {c d : ClassDef}, (classDef c).Everywhere WellMade →
    (∀ x ∈ e.operands, x.Everywhere WellMade) → e.apply c = .ok d →
      (classDef d).Everywhere WellMade := by
  -- The induction is on the edit: an edit in place is an edit of the last subclass.
  induction e with
  | setBase _ | addInit | describe _ | setVariable _ _ =>
    intro c d h _ hd
    cases hd
    have hmembers := ClassDef.wellMade_iff.1 h
    exact ClassDef.wellMade_iff.2 hmembers
  | addMethod m =>
    intro c d h hoperands hd
    cases hd
    exact ClassDef.wellMade_addMethod h (hoperands _ (List.mem_singleton_self _))
  | addNamedMethod name params decorators =>
    intro c d h _ hd
    exact ClassDef.wellMade_addNamedMethod h hd
  | addSubclass sub =>
    intro c d h hoperands hd
    cases hd
    exact ClassDef.wellMade_addSubclass h (hoperands _ (List.mem_singleton_self _))
  | relevel r =>
    intro c d h _ hd
    cases hd
    have hstamped := everywhere_wellMade_topDown (r.target c.level) h
    simpa only [ClassDef.relevel_eq_topDown, Construct.topDown] using hstamped
  | inLastMethod e =>
    intro c d h hoperands hd
    rcases map_eq_ok hd with ⟨methods, hmethods, rfl⟩
    rcases ClassDef.wellMade_iff.1 h with ⟨hold, hsubclasses⟩
    refine ClassDef.wellMade_iff.2 ⟨?_, hsubclasses⟩
    exact forall_mem_of_modifyLast hold hmethods fun _ _ _ hm hx =>
      FunctionEdit.wellMade_applyMethod hm hoperands hx
  | inLastSubclass e ih =>
    intro c d h hoperands hd
    rcases map_eq_ok hd with ⟨subclasses, hsubclasses, rfl⟩
    rcases ClassDef.wellMade_iff.1 h with ⟨hmethods, hold⟩
    refine ClassDef.wellMade_iff.2 ⟨hmethods, ?_⟩
    exact forall_mem_of_modifyLast hold hsubclasses fun _ _ _ hsub hx => ih hsub hoperands hx

end ClassEdit

/-! ## All constructs -/

namespace ConstructEdit

variable {c d : Construct}

theorem wellMade_apply {e : ConstructEdit} (h : c.Everywhere WellMade)
    (hoperands : ∀ x ∈ e.operands, x.Everywhere WellMade) (hd : e.apply c = .ok d) :
    d.Everywhere WellMade := by
  -- The cases are the clauses of the definition; only a box makes it go on.
  fun_induction apply e c generalizing d with
  | case1 c =>
    cases hd
    exact everywhere_boxed.2 ⟨trivial, h⟩
  | case2 r c =>
    cases hd
    simp only [relevel_eq_topDown]
    exact everywhere_wellMade_topDown _ h
  | case3 | case4 | case5 | case6 =>
    -- Nothing is below an assignment, a branch or a chain.
    cases hd
    simp [WellMade]
  | case7 e f =>
    rcases map_eq_ok hd with ⟨g, hg, rfl⟩
    exact FunctionEdit.wellMade_apply h hoperands hg
  | case8 e m =>
    rcases map_eq_ok hd with ⟨x, hx, rfl⟩
    exact FunctionEdit.wellMade_applyMethod h hoperands hx
  | case9 e x =>
    rcases map_eq_ok hd with ⟨y, hy, rfl⟩
    exact ClassEdit.wellMade_apply h hoperands hy
  | case10 e inner _ _ ih =>
    rcases map_eq_ok hd with ⟨y, hy, rfl⟩
    exact everywhere_boxed.2 ⟨trivial, ih (everywhere_boxed.1 h).2 hoperands hy⟩
  | case11 =>
    cases hd
    exact h

/-- An edit keeps the tree well made, whether or not it succeeds. -/
theorem wellMade_step {e : ConstructEdit} (h : c.Everywhere WellMade)
    (hoperands : ∀ x ∈ e.operands, x.Everywhere WellMade) : (e.step c).Everywhere WellMade := by
  simp only [step]
  cases hd : e.apply c with
  | error fault => exact h
  | ok d => exact wellMade_apply h hoperands hd

end ConstructEdit

namespace Construct

theorem Fresh.wellMade {c : Construct} (h : c.Fresh) : c.Everywhere WellMade := by
  cases h with
  | function name params => exact FunctionDef.wellMade_new name params
  | method name params => exact (MethodDef.wellMade_new name params).1
  | staticMethod name params => exact (MethodDef.wellMade_new name params).2
  | classDef name => exact ClassDef.wellMade_iff.2 ⟨List.forall_mem_nil _, List.forall_mem_nil _⟩
  | _ => simp [WellMade]

/-- In a tree that was built, no body is without items and all decorators have their mark, at every
depth. -/
theorem Built.wellMade {c : Construct} (h : c.Built) : c.Everywhere WellMade := by
  -- The induction is on the history, those of the operands included.
  induction h with
  | fresh hfresh => exact hfresh.wellMade
  | edit e _ _ ih ihoperands => exact ConstructEdit.wellMade_step ih ihoperands

end Construct

end Scribe
