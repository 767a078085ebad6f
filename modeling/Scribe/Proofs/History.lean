import Scribe.Construct.Edit
import Scribe.Proofs.LevelLaws
import Scribe.Proofs.Results

/-!
# Histories keep the levels in order

Every edit stamps what it attaches, and a change of level stamps everything, so the levels of a
construct with any history are in order, as long as no member of a class is moved on its own.

* `ConstructEdit.stamped_step` — what one edit keeps;
* `Construct.Reachable.stamped` — what a history keeps;
* `Construct.Reachable.levels_in_order` — stamping such a construct changes nothing, so it can be
  rendered as it is.
-/

namespace Scribe

/-! ## Results of edits -/

/-- A change of the last element leaves the elements before it alone. -/
theorem modifyLast_eq_ok {α ε : Type} {change : α → Except ε α} {xs ys : List α}
    (h : modifyLast change xs = .ok ys) :
    ys = xs ∨ ∃ init x y, xs = init ++ [x] ∧ ys = init ++ [y] ∧ change x = .ok y := by
  -- The recursion has a case of its own for the last element, so the tail is looked at twice.
  induction xs generalizing ys with
  | nil =>
    simp only [modifyLast] at h
    exact .inl (Except.ok.inj h).symm
  | cons x rest ih =>
    cases rest with
    | nil =>
      rcases map_eq_ok h with ⟨y, hy, rfl⟩
      exact .inr ⟨[], x, y, rfl, rfl, hy⟩
    | cons z more =>
      rcases map_eq_ok h with ⟨zs, hzs, rfl⟩
      rcases ih hzs with rfl | ⟨init, w, y, hxs, rfl, hy⟩
      · exact .inl rfl
      · exact .inr ⟨x :: init, w, y, by simp only [hxs]; rfl, rfl, hy⟩

/-! ## Functions -/

namespace FunctionDef

theorem levelsFrom_level {n : Nat} {f : FunctionDef} (h : f.LevelsFrom n) :
    f.LevelsFrom f.level := by
  rwa [(levelsFrom_iff.1 h).1]

theorem levelsFrom_new (name : Text) (params : List Text) : (new name params).LevelsFrom 0 :=
  levelsFrom_iff.2 ⟨rfl, List.forall_mem_nil _⟩

theorem levelsFrom_setLevel (n : Nat) (f : FunctionDef) : (f.setLevel n).LevelsFrom n := by
  simp only [f.stamping_eq_topDown.1 n]
  exact f.levelsFrom_topDown n

theorem levelsFrom_restamp (f : FunctionDef) : f.restamp.LevelsFrom f.level := by
  simp only [f.stamping_eq_topDown.2]
  exact f.levelsFrom_topDown f.level

theorem levelsFrom_relevel (r : Relevel) (f : FunctionDef) :
    (f.relevel r).LevelsFrom (r.target f.level) := by
  simp only [relevel_eq_topDown]
  exact f.levelsFrom_topDown _

end FunctionDef

namespace FunctionEdit

/-- An edit of a function whose levels are in order leaves them in order. -/
theorem levelsFrom_apply {e : FunctionEdit} {f g : FunctionDef} (h : f.LevelsFrom f.level)
    (hg : e.apply f = .ok g) : g.LevelsFrom g.level := by
  rcases FunctionDef.levelsFrom_iff.1 h with ⟨_, hitems⟩
  cases e with
  | push item =>
    cases hg
    refine FunctionDef.levelsFrom_iff.2 ⟨rfl, fun x hx => ?_⟩
    rcases List.mem_append.1 hx with hold | hnew
    · exact hitems x hold
    · rcases List.mem_singleton.1 hnew with rfl
      -- The item may come with any levels; it is stamped as a whole on its way in.
      simp only [Construct.setLevel_eq_topDown, Construct.restamp_eq_topDown,
        Construct.topDown_topDown, Construct.level_topDown]
      exact item.levelsFrom_topDown _
  | setBody items =>
    cases hg
    exact FunctionDef.levelsFrom_level (FunctionDef.levelsFrom_restamp _)
  | decorate decorator =>
    simp only [apply, FunctionDef.decorate] at hg
    -- A decorator that is refused gives no function.
    split at hg
    · cases hg
      exact FunctionDef.levelsFrom_iff.2 ⟨rfl, hitems⟩
    · cases hg
  | relevel r =>
    cases hg
    exact FunctionDef.levelsFrom_level (f.levelsFrom_relevel r)

theorem level_apply {e : FunctionEdit} {f g : FunctionDef} (hstays : e.StaysAt f.level)
    (hg : e.apply f = .ok g) : g.level = f.level := by
  cases e with
  | push item =>
    cases hg
    rfl
  | setBody items =>
    cases hg
    exact (FunctionDef.levelsFrom_iff.1 (FunctionDef.levelsFrom_restamp _)).1
  | decorate decorator =>
    simp only [apply, FunctionDef.decorate] at hg
    split at hg
    · cases hg
      rfl
    · cases hg
  | relevel r =>
    cases hg
    have hlevel := (FunctionDef.levelsFrom_iff.1 (f.levelsFrom_relevel r)).1
    exact hlevel.trans hstays

end FunctionEdit

/-! ## Methods -/

theorem MethodDef.levelsFrom_setLevel (n : Nat) (m : MethodDef) : (m.setLevel n).LevelsFrom n := by
  simp only [m.setLevel_eq, MethodDef.levelsFrom_iff]
  exact m.function.levelsFrom_setLevel n

/-- An edit of a method that stays where it is leaves its levels in order. -/
theorem FunctionEdit.levelsFrom_applyMethod {e : FunctionEdit} {n : Nat} {m x : MethodDef}
    (h : m.LevelsFrom n) (hstays : e.StaysAt m.level) (hx : e.applyMethod m = .ok x) :
    x.LevelsFrom n := by
  simp only [MethodDef.levelsFrom_iff] at h ⊢
  rcases map_eq_ok hx with ⟨g, hg, rfl⟩
  have hlevel : m.function.level = n := (FunctionDef.levelsFrom_iff.1 h).1
  -- The edit keeps the levels in order below the method, and the method at its own.
  have hg' := levelsFrom_apply (FunctionDef.levelsFrom_level h) hg
  rwa [level_apply hstays hg, hlevel] at hg'

/-! ## Classes -/

namespace ClassDef

theorem levelsFrom_level {n : Nat} {c : ClassDef} (h : c.LevelsFrom n) : c.LevelsFrom c.level := by
  rwa [(levelsFrom_iff.1 h).1]

theorem levelsFrom_new (name : Text) : (new name).LevelsFrom 0 :=
  levelsFrom_iff.2 ⟨rfl, List.forall_mem_nil _, List.forall_mem_nil _⟩

/-- Only the own level and the members count. -/
theorem levelsFrom_of_members {n : Nat} {c d : ClassDef} (h : c.LevelsFrom n)
    (hlevel : d.level = c.level) (hmethods : d.methods = c.methods)
    (hsubclasses : d.subclasses = c.subclasses) : d.LevelsFrom n := by
  rw [levelsFrom_iff, hlevel, hmethods, hsubclasses]
  exact levelsFrom_iff.1 h

theorem levelsFrom_setLevel (n : Nat) (c : ClassDef) : (c.setLevel n).LevelsFrom n := by
  simp only [c.stamping_eq_topDown.1 n]
  exact c.levelsFrom_topDown n

theorem levelsFrom_relevel (r : Relevel) (c : ClassDef) :
    (c.relevel r).LevelsFrom (r.target c.level) := by
  simp only [relevel_eq_topDown]
  exact c.levelsFrom_topDown _

theorem levelsFrom_addMethod {c : ClassDef} (h : c.LevelsFrom c.level) (m : MethodDef) :
    (c.addMethod m).LevelsFrom c.level := by
  rcases levelsFrom_iff.1 h with ⟨_, hmethods, hsubclasses⟩
  refine levelsFrom_iff.2 ⟨rfl, fun x hx => ?_, hsubclasses⟩
  rcases List.mem_append.1 hx with hold | hnew
  · exact hmethods x hold
  · rcases List.mem_singleton.1 hnew with rfl
    exact m.levelsFrom_setLevel _

theorem levelsFrom_addNamedMethod {c d : ClassDef} {name : Text} {params decorators : List Text}
    (h : c.LevelsFrom c.level) (hd : c.addNamedMethod name params decorators = .ok d) :
    d.LevelsFrom c.level := by
  simp only [addNamedMethod] at hd
  -- Neither a refused name nor a refused decorator gives a class.
  split at hd
  · cases hd
  · rcases map_eq_ok hd with ⟨f, _, rfl⟩
    exact levelsFrom_addMethod h _

theorem levelsFrom_addSubclass {c : ClassDef} (h : c.LevelsFrom c.level) (sub : ClassDef) :
    (c.addSubclass sub).LevelsFrom c.level := by
  rcases levelsFrom_iff.1 h with ⟨_, hmethods, hsubclasses⟩
  refine levelsFrom_iff.2 ⟨rfl, hmethods, fun x hx => ?_⟩
  rcases List.mem_append.1 hx with hold | hnew
  · exact hsubclasses x hold
  · rcases List.mem_singleton.1 hnew with rfl
    exact sub.levelsFrom_setLevel _

end ClassDef

/-- What holds of all elements still holds of all after a change of the last one that keeps it. -/
theorem forall_mem_of_modifyLast {α ε : Type} {p : α → Prop} {change : α → Except ε α}
    {xs ys : List α} (hall : ∀ x ∈ xs, p x) (hys : modifyLast change xs = .ok ys)
    (hkeep : ∀ x y, xs.getLast? = some x → p x → change x = .ok y → p y) : ∀ y ∈ ys, p y := by
  rcases modifyLast_eq_ok hys with rfl | ⟨init, x, y, rfl, rfl, hy⟩
  · exact hall
  · have hx : p x := hall x (List.mem_append_right _ (List.mem_singleton_self x))
    intro z hz
    rcases List.mem_append.1 hz with hinit | hlast
    · exact hall z (List.mem_append_left _ hinit)
    · rcases List.mem_singleton.1 hlast with rfl
      exact hkeep x z List.getLast?_concat hx hy

namespace ClassEdit

/-- An edit of a class whose levels are in order leaves them in order if no member is moved on its
own. Only a change of its level moves the class. -/
theorem levelsFrom_apply {e : ClassEdit} : ∀ {c d : ClassDef}, c.LevelsFrom c.level →
    e.MembersStay c → e.apply c = .ok d →
      d.LevelsFrom d.level ∧ (e.StaysAt c.level → d.level = c.level) := by
  -- An edit that leaves the class at its level needs only the first half to be shown.
  have settled {c d : ClassDef} {p : Prop} (h : d.LevelsFrom c.level) :
      d.LevelsFrom d.level ∧ (p → d.level = c.level) :=
    ⟨ClassDef.levelsFrom_level h, fun _ => (ClassDef.levelsFrom_iff.1 h).1⟩
  -- The induction is on the edit: an edit in place is an edit of the last subclass.
  induction e with
  | setBase _ | addInit | describe _ | setVariable _ _ =>
    intro c d h _ hd
    cases hd
    exact settled (ClassDef.levelsFrom_of_members h rfl rfl rfl)
  | addMethod m =>
    intro c d h _ hd
    cases hd
    exact settled (ClassDef.levelsFrom_addMethod h m)
  | addNamedMethod name params decorators =>
    intro c d h _ hd
    exact settled (ClassDef.levelsFrom_addNamedMethod h hd)
  | addSubclass sub =>
    intro c d h _ hd
    cases hd
    exact settled (ClassDef.levelsFrom_addSubclass h sub)
  | relevel r =>
    intro c d _ _ hd
    cases hd
    have hlevels := c.levelsFrom_relevel r
    exact ⟨ClassDef.levelsFrom_level hlevels,
      fun hstays => (ClassDef.levelsFrom_iff.1 hlevels).1.trans hstays⟩
  | inLastMethod e =>
    intro c d h hstay hd
    rcases map_eq_ok hd with ⟨methods, hmethods, rfl⟩
    rcases ClassDef.levelsFrom_iff.1 h with ⟨_, hold, hsubclasses⟩
    refine settled (ClassDef.levelsFrom_iff.2 ⟨rfl, ?_, hsubclasses⟩)
    exact forall_mem_of_modifyLast hold hmethods fun m x hlast hm hx =>
      FunctionEdit.levelsFrom_applyMethod hm (hstay m hlast) hx
  | inLastSubclass e ih =>
    intro c d h hstay hd
    rcases map_eq_ok hd with ⟨subclasses, hsubclasses, rfl⟩
    rcases ClassDef.levelsFrom_iff.1 h with ⟨_, hmethods, hold⟩
    refine settled (ClassDef.levelsFrom_iff.2 ⟨rfl, hmethods, ?_⟩)
    -- The subclass stays, so that what holds at its new level holds at one below the class.
    refine forall_mem_of_modifyLast hold hsubclasses fun sub x hlast hsub hx => ?_
    rcases hstay sub hlast with ⟨hself, hmembers⟩
    rcases ih (ClassDef.levelsFrom_level hsub) hmembers hx with ⟨hx', hlevel⟩
    have hsame : x.level = c.level + 1 :=
      (hlevel hself).trans (ClassDef.levelsFrom_iff.1 hsub).1
    rwa [hsame] at hx'

end ClassEdit

/-! ## Branches and chains -/

namespace Branch

theorem levelsFrom_new (guard : Snippet) (actions : List Snippet) (kind : BranchKind) :
    (Branch.new guard actions kind).LevelsFrom 0 :=
  levelsFrom_topDown 0 { guard, actions, kind }

theorem levelsFrom_setKind {n : Nat} {b : Branch} {kind : BranchKind} :
    (b.setKind kind).LevelsFrom n ↔ b.LevelsFrom n := Iff.rfl

theorem levelsFrom_pushAction {b : Branch} (h : b.LevelsFrom b.level) (action : Snippet) :
    (b.pushAction action).LevelsFrom b.level := by
  refine ⟨rfl, fun x hx => ?_⟩
  rcases List.mem_append.1 hx with hold | hnew
  · exact h.2 x hold
  · rcases List.mem_singleton.1 hnew with rfl
    rfl

end Branch

namespace Chain

theorem levelsFrom_new (elseActions : List Snippet) : (Chain.new elseActions).LevelsFrom 0 := by
  simp only [Chain.new, restamp_eq_topDown]
  exact levelsFrom_topDown 0 { elseActions }

/-- The attached branch comes with any levels; it is stamped before it joins the chain. -/
theorem levelsFrom_addBranch {c : Chain} (h : c.LevelsFrom c.level) (b : Branch) :
    (c.addBranch b).LevelsFrom (c.addBranch b).level := by
  have hattached (kind : BranchKind) :
      (((b.setLevel c.level).restamp).setKind kind).LevelsFrom c.level := by
    simp only [Branch.setLevel_eq_topDown, Branch.restamp_eq_topDown]
    exact Branch.levelsFrom_topDown c.level (b.topDown c.level)
  -- Whether the branch becomes the first or the last one, all others are old.
  rcases c with ⟨_ | opening, elifs, elseActions, level⟩
  · refine ⟨rfl, fun x hx => ?_, h.2.2⟩
    rcases List.mem_append.1 hx with hfirst | hrest
    · rcases List.mem_singleton.1 hfirst with rfl
      exact hattached .opening
    · exact h.2.1 x (List.mem_append_right _ hrest)
  · refine ⟨rfl, fun x hx => ?_, h.2.2⟩
    rcases List.mem_append.1 hx with hfirst | hrest
    · exact h.2.1 x (List.mem_append_left _ hfirst)
    · rcases List.mem_append.1 hrest with hold | hnew
      · exact h.2.1 x (List.mem_append_right _ hold)
      · rcases List.mem_singleton.1 hnew with rfl
        exact hattached .alternative

end Chain

/-! ## All constructs -/

section Steps

variable {c d : Construct}

theorem Construct.stamped_topDown (n : Nat) (c : Construct) : (c.topDown n).Stamped := by
  simp only [Stamped, level_topDown]
  exact c.levelsFrom_topDown n

theorem Construct.stamped_relevel (r : Relevel) (c : Construct) : (c.relevel r).Stamped := by
  simp only [relevel_eq_topDown]
  exact stamped_topDown _ _

/-- An edit that succeeds keeps the levels in order. -/
theorem ConstructEdit.stamped_apply {e : ConstructEdit} (h : c.Stamped) (hstay : e.MembersStay c)
    (hd : e.apply c = .ok d) : d.Stamped := by
  -- The cases are the clauses of the definition; only a box makes it go on.
  fun_induction apply e c generalizing d with
  | case1 c =>
    cases hd
    simpa only [Construct.Stamped, Construct.LevelsFrom, Construct.level] using h
  | case2 r c =>
    cases hd
    exact c.stamped_relevel r
  | case3 value a =>
    cases hd
    simp only [Construct.Stamped, Construct.LevelsFrom, Construct.level]
  | case4 kind b =>
    cases hd
    simp only [Construct.Stamped, Construct.LevelsFrom, Construct.level] at h ⊢
    exact Branch.levelsFrom_setKind.2 h
  | case5 action b =>
    cases hd
    simp only [Construct.Stamped, Construct.LevelsFrom, Construct.level] at h ⊢
    exact Branch.levelsFrom_pushAction h action
  | case6 b x =>
    cases hd
    simp only [Construct.Stamped, Construct.LevelsFrom, Construct.level] at h ⊢
    exact Chain.levelsFrom_addBranch h b
  | case7 e f =>
    rcases map_eq_ok hd with ⟨g, hg, rfl⟩
    simp only [Construct.Stamped, Construct.LevelsFrom, Construct.level] at h ⊢
    exact FunctionEdit.levelsFrom_apply h hg
  | case8 e m =>
    rcases map_eq_ok hd with ⟨x, hx, rfl⟩
    rcases map_eq_ok hx with ⟨g, hg, rfl⟩
    simp only [Construct.Stamped, Construct.LevelsFrom, Construct.level,
      MethodDef.levelsFrom_iff] at h ⊢
    exact FunctionEdit.levelsFrom_apply h hg
  | case9 e x =>
    rcases map_eq_ok hd with ⟨y, hy, rfl⟩
    simp only [ConstructEdit.MembersStay] at hstay
    simp only [Construct.Stamped, Construct.LevelsFrom, Construct.level] at h ⊢
    exact (ClassEdit.levelsFrom_apply h hstay hy).1
  | case10 e inner _ _ ih =>
    rcases map_eq_ok hd with ⟨y, hy, rfl⟩
    simp only [ConstructEdit.MembersStay] at hstay
    simp only [Construct.Stamped, Construct.LevelsFrom, Construct.level] at h ih ⊢
    exact ih h hstay hy
  | case11 =>
    -- The edit is not one of this kind of construct.
    cases hd
    exact h

/-- An edit keeps the levels in order, whether or not it succeeds. -/
theorem ConstructEdit.stamped_step {e : ConstructEdit} (h : c.Stamped) (hstay : e.MembersStay c) :
    (e.step c).Stamped := by
  simp only [step]
  cases hd : e.apply c with
  | error fault => exact h
  | ok d => exact stamped_apply h hstay hd

end Steps

/-! ## Histories -/

namespace Construct

variable {c : Construct}

theorem Fresh.stamped (h : c.Fresh) : c.Stamped := by
  cases h with
  | snippet code => simp only [Stamped, LevelsFrom, level]
  | assignment name value => simp only [Stamped, LevelsFrom, level]
  | comment text => simp only [Stamped, LevelsFrom, level]
  | docstring text => simp only [Stamped, LevelsFrom, level]
  | branch guard actions kind =>
    simp only [Stamped, LevelsFrom]
    exact Branch.levelsFrom_new guard actions kind
  | chain elseActions =>
    simp only [Stamped, LevelsFrom]
    exact Chain.levelsFrom_new elseActions
  | function name params =>
    simp only [Stamped, LevelsFrom]
    exact FunctionDef.levelsFrom_new name params
  | method name params | staticMethod name params =>
    simp only [Stamped, LevelsFrom, MethodDef.levelsFrom_iff]
    exact FunctionDef.levelsFrom_level (FunctionDef.levelsFrom_setLevel _ _)
  | classDef name =>
    simp only [Stamped, LevelsFrom]
    exact ClassDef.levelsFrom_new name

/-- The levels of a construct with any history are in order. -/
theorem Reachable.stamped (h : c.Reachable) : c.Stamped := by
  -- The induction is on the history, and the invariant is the statement itself.
  induction h with
  | fresh hfresh => exact hfresh.stamped
  | edit e _ hstay ih => exact ConstructEdit.stamped_step ih hstay

theorem restamp_eq_self (h : c.Stamped) : c.restamp = c := by
  simp only [restamp_eq_topDown]
  exact c.topDown_eq_self h

/-- In a construct with any history, every suite is one level below its owner at every depth. So
stamping leaves the construct as it is, and its text form, or the error in place of it, can be had
without stamping. -/
theorem Reachable.levels_in_order (h : c.Reachable) :
    c.LevelsFrom c.level ∧ c.restamp = c ∧ c.render = c.renderFresh := by
  have hself : c.restamp = c := restamp_eq_self h.stamped
  refine ⟨h.stamped, hself, ?_⟩
  simp only [renderFresh, hself]

/-- A method gets an item at a wrong level and is refused a decorator, both in place; a subclass that
arrives at a wrong level gets a method in place; then the class is moved. -/
theorem levels_in_order_of_edits_in_place :
    let c := ConstructEdit.run
      [.inClass (.addMethod (MethodDef.new "run".toList [])),
        .inClass (.inLastMethod (.push (.snippet { code := "x".toList, level := 9 }))),
        .inClass (.inLastMethod (.decorate "cached".toList)),
        .inClass (.addSubclass { name := "Inner".toList, level := 7 }),
        .inClass (.inLastSubclass (.addMethod (MethodDef.new "stop".toList []))),
        .relevel (.set 3)]
      (.classDef (ClassDef.new "outer".toList))
    c.Reachable ∧ c.level = 3 ∧ c.LevelsFrom c.level ∧ c.restamp = c ∧ c.render = c.renderFresh := by
  intro c
  have h : c.Reachable := by
    simp only [c, ConstructEdit.run, List.foldl_cons, List.foldl_nil]
    -- Of each edit it remains to be shown that no member is moved on its own.
    refine .edit _ (.edit _ (.edit _ (.edit _ (.edit _ (.edit _ (.fresh (.classDef _))
      ?_) ?_) ?_) ?_) ?_) ?_
    · trivial
    · exact fun m _ => trivial
    · exact fun m _ => trivial
    · trivial
    · exact fun sub _ => ⟨trivial, trivial⟩
    · trivial
  exact ⟨h, level_setLevel 3 _, Reachable.levels_in_order h⟩

end Construct

end Scribe
