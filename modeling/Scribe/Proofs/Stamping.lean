import Scribe.Construct.Levels
import Scribe.Construct.Stamp

/-!
# Stamping is one pass

`Construct.setLevel` stamps every subtree again and again, with levels in between that are not yet the
right ones. This module shows that all of it comes to one pass from the root.

* `Construct.topDown_eq_iff` — the pass is characterized by what it keeps and by the levels it leaves;
* `Construct.setLevel_eq_topDown`, `Construct.restamp_eq_topDown` — stamping is that pass.
-/

namespace Scribe

/-! ## Bodies -/

namespace FunctionDef

/-- Two changes of the items of a body agree if they agree on every item. -/
theorem map_body_congr {f : FunctionDef} {g h : Construct → Construct}
    (hitems : ∀ item ∈ f.items, g item = h item) :
    f.body.map (List.map g) = f.body.map (List.map h) := by
  rcases f with ⟨name, params, decorators, _ | items, level⟩
  · rfl
  · exact congrArg some (List.map_congr_left hitems)

theorem map_map_body {f : FunctionDef} {g h k : Construct → Construct}
    (hitems : ∀ item ∈ f.items, g (h item) = k item) :
    (f.body.map (List.map h)).map (List.map g) = f.body.map (List.map k) := by
  simp only [← map_body_congr hitems, Option.map_map]
  -- What is left is that two maps over a list are one map.
  congr 1
  funext items
  exact List.map_map

theorem items_topDown (n : Nat) (f : FunctionDef) :
    (f.topDown n).items = f.items.map (Construct.topDown (n + 1)) := by
  simp only [topDown_eq]
  rcases f with ⟨name, params, decorators, _ | items, level⟩
  · rfl
  · rfl

end FunctionDef

/-! ## What the pass leaves alone -/

namespace Construct

@[simp] theorem level_topDown (n : Nat) (c : Construct) : (c.topDown n).level = n := by
  -- Only a box passes the question on to what is below it.
  induction c with
  | function f _ => simp only [topDown, FunctionDef.topDown_eq]; rfl
  | method m _ => simp only [topDown, MethodDef.topDown_eq, FunctionDef.topDown_eq]; rfl
  | classDef c _ _ => simp only [topDown, ClassDef.topDown_eq]; rfl
  | boxed inner ih => simp only [topDown]; exact ih
  | _ => simp only [topDown]; rfl

@[simp] theorem isLine_topDown (n : Nat) (c : Construct) : (c.topDown n).isLine = c.isLine := by
  induction c with
  | boxed inner ih => simp only [topDown]; exact ih
  | _ => simp only [topDown]; rfl

end Construct

section MapLevels

variable {own guard : Nat → Nat} {n k : Nat}

theorem Branch.topDown_mapLevels (b : Branch) : (b.mapLevels own id).topDown n = b.topDown n := by
  simp only [Branch.topDown, Branch.mapLevels, List.map_map]
  rfl

theorem Chain.topDown_mapLevels (c : Chain) : (c.mapLevels own id).topDown n = c.topDown n := by
  have hbranch : Branch.topDown n ∘ Branch.mapLevels own id = Branch.topDown n :=
    funext fun b => b.topDown_mapLevels
  simp only [Chain.topDown, Chain.mapLevels, Option.map_map, List.map_map, hbranch]
  rfl

theorem FunctionDef.topDown_mapLevels {f : FunctionDef}
    (hitems : ∀ item ∈ f.items, (item.mapLevels own id).topDown (n + 1) = item.topDown (n + 1)) :
    (f.mapLevels own id).topDown n = f.topDown n := by
  simp only [FunctionDef.mapLevels_eq, FunctionDef.topDown_eq]
  simp only [FunctionDef.map_map_body hitems]

/-- The pass does not look at the levels that it replaces. -/
theorem Construct.topDown_mapLevels (c : Construct) :
    ∀ n, (c.mapLevels own id).topDown n = c.topDown n := by
  -- The level stays general: the items of a suite are asked at one level below.
  induction c with
  | branch b => intro n; simp only [mapLevels, topDown, b.topDown_mapLevels]
  | chain c => intro n; simp only [mapLevels, topDown, c.topDown_mapLevels]
  | function f ih =>
    intro n
    simp only [mapLevels, topDown]
    simp only [FunctionDef.topDown_mapLevels fun item hitem => ih item hitem (n + 1)]
  | method m ih =>
    intro n
    simp only [mapLevels, topDown, MethodDef.mapLevels_eq, MethodDef.topDown_eq]
    simp only [FunctionDef.topDown_mapLevels fun item hitem => ih item hitem (n + 1)]
  | classDef c ihm ihs =>
    intro n
    -- The hypotheses speak of members as constructs; here they are needed of members as such.
    simp only [mapLevels, topDown, method.injEq, classDef.injEq] at ihm ihs ⊢
    have hmethods : c.methods.map (MethodDef.topDown (n + 1) ∘ MethodDef.mapLevels own id) =
        c.methods.map (MethodDef.topDown (n + 1)) :=
      List.map_congr_left fun m hm => ihm m hm (n + 1)
    have hsubclasses : c.subclasses.map (ClassDef.topDown (n + 1) ∘ ClassDef.mapLevels own id) =
        c.subclasses.map (ClassDef.topDown (n + 1)) :=
      List.map_congr_left fun sub hsub => ihs sub hsub (n + 1)
    simp only [ClassDef.mapLevels_eq, ClassDef.topDown_eq, List.map_map, hmethods, hsubclasses]
  | boxed inner ih => intro n; simp only [mapLevels, topDown, ih]
  | _ => intro n; simp only [mapLevels, topDown]; rfl

theorem Branch.mapLevels_topDown (b : Branch) :
    (b.topDown n).mapLevels (fun _ => k) guard = b.mapLevels (fun _ => k) guard := by
  simp only [Branch.topDown, Branch.mapLevels, List.map_map]
  rfl

theorem Chain.mapLevels_topDown (c : Chain) :
    (c.topDown n).mapLevels (fun _ => k) guard = c.mapLevels (fun _ => k) guard := by
  have hbranch : Branch.mapLevels (fun _ => k) guard ∘ Branch.topDown n =
      Branch.mapLevels (fun _ => k) guard := funext fun b => b.mapLevels_topDown
  simp only [Chain.topDown, Chain.mapLevels, Option.map_map, List.map_map, hbranch]
  rfl

theorem FunctionDef.mapLevels_topDown {f : FunctionDef}
    (hitems : ∀ item ∈ f.items, (item.topDown (n + 1)).mapLevels (fun _ => k) guard =
      item.mapLevels (fun _ => k) guard) :
    (f.topDown n).mapLevels (fun _ => k) guard = f.mapLevels (fun _ => k) guard := by
  simp only [FunctionDef.topDown_eq, FunctionDef.mapLevels_eq]
  simp only [FunctionDef.map_map_body hitems]

/-- The pass changes nothing but levels, and the guards keep theirs. -/
theorem Construct.mapLevels_topDown (c : Construct) :
    ∀ n, (c.topDown n).mapLevels (fun _ => k) guard = c.mapLevels (fun _ => k) guard := by
  -- A constant in the place of every level hides the pass; the guards are not touched by it.
  induction c with
  | branch b => intro n; simp only [mapLevels, topDown, b.mapLevels_topDown]
  | chain c => intro n; simp only [mapLevels, topDown, c.mapLevels_topDown]
  | function f ih =>
    intro n
    simp only [mapLevels, topDown]
    simp only [FunctionDef.mapLevels_topDown fun item hitem => ih item hitem (n + 1)]
  | method m ih =>
    intro n
    simp only [mapLevels, topDown, MethodDef.mapLevels_eq, MethodDef.topDown_eq]
    simp only [FunctionDef.mapLevels_topDown fun item hitem => ih item hitem (n + 1)]
  | classDef c ihm ihs =>
    intro n
    simp only [mapLevels, topDown, method.injEq, classDef.injEq] at ihm ihs ⊢
    have hmethods :
        c.methods.map (MethodDef.mapLevels (fun _ => k) guard ∘ MethodDef.topDown (n + 1)) =
          c.methods.map (MethodDef.mapLevels (fun _ => k) guard) :=
      List.map_congr_left fun m hm => ihm m hm (n + 1)
    have hsubclasses :
        c.subclasses.map (ClassDef.mapLevels (fun _ => k) guard ∘ ClassDef.topDown (n + 1)) =
          c.subclasses.map (ClassDef.mapLevels (fun _ => k) guard) :=
      List.map_congr_left fun sub hsub => ihs sub hsub (n + 1)
    simp only [ClassDef.mapLevels_eq, ClassDef.topDown_eq, List.map_map, hmethods, hsubclasses]
  | boxed inner ih => intro n; simp only [mapLevels, topDown, ih]
  | _ => intro n; simp only [mapLevels, topDown]; rfl

end MapLevels

/-! ## The levels that the pass leaves -/

theorem map_setLevel_eq_self {n : Nat} {actions : List Snippet}
    (h : ∀ action ∈ actions, action.level = n) : actions.map (Snippet.setLevel n) = actions := by
  have hself : actions.map (Snippet.setLevel n) = actions.map id := by
    refine List.map_congr_left fun action haction => ?_
    simp only [← h action haction]
    rfl
  simp only [hself, List.map_id]

theorem Branch.levelsFrom_topDown (n : Nat) (b : Branch) : (b.topDown n).LevelsFrom n := by
  refine ⟨rfl, fun action haction => ?_⟩
  rcases List.mem_map.1 haction with ⟨_, _, rfl⟩
  rfl

theorem Branch.topDown_eq_self {n : Nat} {b : Branch} (h : b.LevelsFrom n) : b.topDown n = b := by
  rcases h with ⟨rfl, hactions⟩
  simp only [Branch.topDown, map_setLevel_eq_self hactions]

theorem Chain.branches_topDown (n : Nat) (c : Chain) :
    (c.topDown n).branches = c.branches.map (Branch.topDown n) := by
  rcases c with ⟨_ | opening, elifs, elseActions, level⟩
  · rfl
  · rfl

theorem Chain.levelsFrom_topDown (n : Nat) (c : Chain) : (c.topDown n).LevelsFrom n := by
  refine ⟨rfl, fun b hb => ?_, fun action haction => ?_⟩
  · simp only [Chain.branches_topDown] at hb
    rcases List.mem_map.1 hb with ⟨b', _, rfl⟩
    exact b'.levelsFrom_topDown n
  · rcases List.mem_map.1 haction with ⟨_, _, rfl⟩
    rfl

theorem Chain.topDown_eq_self {n : Nat} {c : Chain} (h : c.LevelsFrom n) : c.topDown n = c := by
  rcases c with ⟨primary, elifs, elseActions, level⟩
  rcases h with ⟨rfl, hbranches, helse⟩
  -- The first branch and the later ones are in place for one reason.
  have hself : ∀ b ∈ primary.toList ++ elifs, b.topDown level = b :=
    fun b hb => Branch.topDown_eq_self (hbranches b hb)
  have helifs : elifs.map (Branch.topDown level) = elifs.map id :=
    List.map_congr_left fun b hb => hself b (List.mem_append_right _ hb)
  have hprimary : primary.map (Branch.topDown level) = primary := by
    cases primary with
    | none => rfl
    | some opening => exact congrArg some (hself opening (by simp))
  simp only [Chain.topDown, hprimary, helifs, List.map_id, map_setLevel_eq_self helse]

theorem FunctionDef.levelsFrom_topDown_of_items {n : Nat} {f : FunctionDef}
    (hitems : ∀ item ∈ f.items, (item.topDown (n + 1)).LevelsFrom (n + 1)) :
    (f.topDown n).LevelsFrom n := by
  refine FunctionDef.levelsFrom_iff.2 ⟨by simp only [f.topDown_eq], fun item hitem => ?_⟩
  simp only [f.items_topDown] at hitem
  rcases List.mem_map.1 hitem with ⟨item', hitem', rfl⟩
  exact hitems item' hitem'

theorem FunctionDef.topDown_eq_self {n : Nat} {f : FunctionDef} (hlevel : f.level = n)
    (hitems : ∀ item ∈ f.items, item.topDown (n + 1) = item) : f.topDown n = f := by
  simp only [f.topDown_eq]
  rcases f with ⟨name, params, decorators, _ | items, level⟩
  · simp only [← hlevel]
    rfl
  · have hself : items.map (Construct.topDown (n + 1)) = items.map id := List.map_congr_left hitems
    rw [Option.map_some, hself, List.map_id, ← hlevel]

theorem Construct.levelsFrom_topDown (c : Construct) : ∀ n, (c.topDown n).LevelsFrom n := by
  -- The level goes up by one with every suite, on both sides.
  induction c with
  | branch b => intro n; simp only [topDown, LevelsFrom]; exact b.levelsFrom_topDown n
  | chain c => intro n; simp only [topDown, LevelsFrom]; exact c.levelsFrom_topDown n
  | function f ih =>
    intro n
    simp only [topDown, LevelsFrom]
    exact FunctionDef.levelsFrom_topDown_of_items fun item hitem => ih item hitem (n + 1)
  | method m ih =>
    intro n
    simp only [topDown, LevelsFrom, MethodDef.levelsFrom_iff, MethodDef.topDown_eq]
    exact FunctionDef.levelsFrom_topDown_of_items fun item hitem => ih item hitem (n + 1)
  | classDef c ihm ihs =>
    intro n
    simp only [topDown, LevelsFrom] at ihm ihs ⊢
    rw [ClassDef.topDown_eq, ClassDef.levelsFrom_iff]
    refine ⟨rfl, fun m hm => ?_, fun sub hsub => ?_⟩
    · rcases List.mem_map.1 hm with ⟨m', hm', rfl⟩
      exact ihm m' hm' (n + 1)
    · rcases List.mem_map.1 hsub with ⟨sub', hsub', rfl⟩
      exact ihs sub' hsub' (n + 1)
  | boxed inner ih => intro n; simp only [topDown, LevelsFrom]; exact ih n
  | _ => intro n; simp only [topDown, LevelsFrom]; rfl

theorem FunctionDef.levelsFrom_topDown (n : Nat) (f : FunctionDef) : (f.topDown n).LevelsFrom n := by
  simpa only [Construct.topDown, Construct.LevelsFrom] using
    (Construct.function f).levelsFrom_topDown n

theorem ClassDef.levelsFrom_topDown (n : Nat) (c : ClassDef) : (c.topDown n).LevelsFrom n := by
  simpa only [Construct.topDown, Construct.LevelsFrom] using
    (Construct.classDef c).levelsFrom_topDown n

/-- The pass leaves a tree alone whose levels are in order. -/
theorem Construct.topDown_eq_self (c : Construct) : ∀ {n}, c.LevelsFrom n → c.topDown n = c := by
  -- Every level that the pass would set is there already.
  induction c with
  | branch b =>
    intro n h
    have hb : b.LevelsFrom n := by simpa only [LevelsFrom] using h
    simp only [topDown, Branch.topDown_eq_self hb]
  | chain c =>
    intro n h
    have hc : c.LevelsFrom n := by simpa only [LevelsFrom] using h
    simp only [topDown, Chain.topDown_eq_self hc]
  | function f ih =>
    intro n h
    simp only [LevelsFrom, FunctionDef.levelsFrom_iff] at h
    have hitems : ∀ item ∈ f.items, item.topDown (n + 1) = item :=
      fun item hitem => ih item hitem (h.2 item hitem)
    simp only [topDown, FunctionDef.topDown_eq_self h.1 hitems]
  | method m ih =>
    intro n h
    simp only [LevelsFrom, MethodDef.levelsFrom_iff, FunctionDef.levelsFrom_iff] at h
    simp only [topDown, MethodDef.topDown_eq,
      FunctionDef.topDown_eq_self h.1 fun item hitem => ih item hitem (h.2 item hitem)]
    cases m
    rfl
  | classDef c ihm ihs =>
    intro n h
    simp only [LevelsFrom, topDown, method.injEq, classDef.injEq] at ihm ihs h ⊢
    rcases ClassDef.levelsFrom_iff.1 h with ⟨rfl, hm, hs⟩
    have hmethods : c.methods.map (MethodDef.topDown (c.level + 1)) = c.methods.map id :=
      List.map_congr_left fun m hmem => ihm m hmem (hm m hmem)
    have hsubclasses : c.subclasses.map (ClassDef.topDown (c.level + 1)) = c.subclasses.map id :=
      List.map_congr_left fun sub hmem => ihs sub hmem (hs sub hmem)
    simp only [ClassDef.topDown_eq, hmethods, hsubclasses, List.map_id]
    cases c
    rfl
  | boxed inner ih => intro n h; simp only [topDown, ih (by simpa only [LevelsFrom] using h)]
  | _ => intro n h; simp only [LevelsFrom] at h; simp only [topDown, ← h]; rfl

/-! ## The pass characterized -/

namespace Construct

/-- The result of the pass is the only tree that keeps all but the levels of `c`, and in which the
levels follow from the given one. -/
theorem topDown_eq_iff {n : Nat} {c d : Construct} :
    c.topDown n = d ↔ d.unstamped = c.unstamped ∧ d.LevelsFrom n := by
  constructor
  · rintro rfl
    exact ⟨c.mapLevels_topDown n, c.levelsFrom_topDown n⟩
  · rintro ⟨hsame, hlevels⟩
    -- Neither tree shows the pass its levels, so it cannot tell them apart.
    calc c.topDown n
        = c.unstamped.topDown n := (c.topDown_mapLevels n).symm
      _ = d.unstamped.topDown n := by simp only [hsame]
      _ = d.topDown n := d.topDown_mapLevels n
      _ = d := d.topDown_eq_self hlevels

@[simp] theorem topDown_topDown (m n : Nat) (c : Construct) :
    (c.topDown m).topDown n = c.topDown n := by
  calc (c.topDown m).topDown n
      = (c.topDown m).unstamped.topDown n := ((c.topDown m).topDown_mapLevels n).symm
    _ = c.unstamped.topDown n := by simp only [unstamped, c.mapLevels_topDown]
    _ = c.topDown n := c.topDown_mapLevels n

end Construct

/-! ## Stamping is the pass -/

theorem Branch.setLevel_eq_topDown (n : Nat) (b : Branch) : b.setLevel n = b.topDown n := rfl

theorem Branch.restamp_eq_topDown (b : Branch) : b.restamp = b.topDown b.level := rfl

theorem Branch.restamp_topDown (n : Nat) (b : Branch) : (b.topDown n).restamp = b.topDown n :=
  Branch.topDown_eq_self (b.levelsFrom_topDown n)

theorem Chain.restamp_eq_topDown (c : Chain) : c.restamp = c.topDown c.level := by
  simp only [Chain.restamp, Chain.topDown, Branch.setLevel_eq_topDown, Branch.restamp_topDown]

theorem Chain.setLevel_eq_topDown (n : Nat) (c : Chain) : c.setLevel n = c.topDown n := by
  simp only [Chain.setLevel, Chain.restamp_eq_topDown]
  rfl

theorem Construct.size_setLevel (n : Nat) (c : Construct) : (c.setLevel n).size = c.size :=
  (c.setLevelSized n).2

theorem MethodDef.size_setLevel (n : Nat) (m : MethodDef) : (m.setLevel n).size = m.size :=
  (m.setLevelSized n).2

theorem ClassDef.size_setLevel (n : Nat) (c : ClassDef) : (c.setLevel n).size = c.size :=
  (c.setLevelSized n).2

theorem FunctionDef.level_topDown (n : Nat) (f : FunctionDef) : (f.topDown n).level = n := by
  simp only [FunctionDef.topDown_eq]

theorem FunctionDef.topDown_topDown (m n : Nat) (f : FunctionDef) :
    (f.topDown m).topDown n = f.topDown n := by
  simpa only [Construct.topDown, Construct.function.injEq] using
    (Construct.function f).topDown_topDown m n

theorem MethodDef.level_topDown (n : Nat) (m : MethodDef) : (m.topDown n).level = n := by
  simp only [MethodDef.topDown_eq]
  exact m.function.level_topDown n

theorem MethodDef.topDown_topDown (m n : Nat) (x : MethodDef) :
    (x.topDown m).topDown n = x.topDown n := by
  simpa only [Construct.topDown, Construct.method.injEq] using
    (Construct.method x).topDown_topDown m n

theorem ClassDef.level_topDown (n : Nat) (c : ClassDef) : (c.topDown n).level = n := by
  simp only [ClassDef.topDown_eq]

theorem ClassDef.topDown_topDown (m n : Nat) (c : ClassDef) :
    (c.topDown m).topDown n = c.topDown n := by
  simpa only [Construct.topDown, Construct.classDef.injEq] using
    (Construct.classDef c).topDown_topDown m n

-- The induction follows the recursion of stamping, on the size: the second call of a parent goes
-- into an item that its first call has stamped, and such an item is no part of the tree.
mutual

theorem Construct.stamping_eq_topDown (c : Construct) :
    (∀ n, c.setLevel n = c.topDown n) ∧ c.restamp = c.topDown c.level := by
  match c with
  | .snippet _ | .assignment _ | .comment _ | .docstring _ =>
    simp only [Construct.topDown]
    exact ⟨by simp, by simp; rfl⟩
  | .branch b =>
    simp only [Construct.topDown]
    exact ⟨by simp [b.setLevel_eq_topDown], by simp [b.restamp_eq_topDown, Construct.level]⟩
  | .chain x =>
    simp only [Construct.topDown]
    exact ⟨by simp [x.setLevel_eq_topDown], by simp [x.restamp_eq_topDown, Construct.level]⟩
  | .function f =>
    rcases f.stamping_eq_topDown with ⟨hset, hrestamp⟩
    simp only [Construct.topDown]
    exact ⟨by simp [hset], by simp [hrestamp, Construct.level]⟩
  | .method m =>
    rcases m.stamping_eq_topDown with ⟨hset, hrestamp⟩
    simp only [Construct.topDown]
    exact ⟨by simp [hset], by simp [hrestamp, Construct.level]⟩
  | .classDef x =>
    rcases x.stamping_eq_topDown with ⟨hset, hrestamp⟩
    simp only [Construct.topDown]
    exact ⟨by simp [hset], by simp [hrestamp, Construct.level]⟩
  | .boxed inner =>
    rcases inner.stamping_eq_topDown with ⟨hset, hrestamp⟩
    simp only [Construct.topDown]
    exact ⟨by simp [hset], by simp [hrestamp, Construct.level]⟩
termination_by (c.size, 1)
decreasing_by all_goals (simp only [Construct.size]; omega)

theorem FunctionDef.stamping_eq_topDown (f : FunctionDef) :
    (∀ n, f.setLevel n = f.topDown n) ∧ f.restamp = f.topDown f.level := by
  have hitem (n : Nat) (item : Construct) (h : item ∈ f.items) :
      (item.setLevel (n + 1)).restamp = item.topDown (n + 1) := by
    -- The second stamping finds the levels of the first in order.
    have hset := item.stamping_eq_topDown.1 (n + 1)
    have hrestamp := (item.setLevel (n + 1)).stamping_eq_topDown.2
    rw [hrestamp, hset, Construct.level_topDown, Construct.topDown_topDown]
  -- Both ways of stamping come to stamping every item; they differ in the level of the function.
  refine ⟨fun n => ?_, ?_⟩
  · simp only [FunctionDef.setLevel_eq, FunctionDef.restamp_eq, FunctionDef.topDown_eq]
    simp only [FunctionDef.map_body_congr (hitem n)]
  · simp only [FunctionDef.restamp_eq, FunctionDef.topDown_eq]
    simp only [FunctionDef.map_body_congr (hitem f.level)]
termination_by (f.size, 0)
decreasing_by
  · exact Prod.Lex.left _ _ (FunctionDef.size_item_lt h)
  · simp only [Construct.size_setLevel]
    exact Prod.Lex.left _ _ (FunctionDef.size_item_lt h)

theorem MethodDef.stamping_eq_topDown (m : MethodDef) :
    (∀ n, m.setLevel n = m.topDown n) ∧ m.restamp = m.topDown m.level := by
  rcases m.function.stamping_eq_topDown with ⟨hset, hrestamp⟩
  refine ⟨fun n => ?_, ?_⟩
  · simp only [MethodDef.setLevel_eq, MethodDef.topDown_eq, hset]
  · simp only [MethodDef.restamp_eq, MethodDef.topDown_eq, hrestamp]
    rfl
termination_by (m.size, 1)
decreasing_by
  simp only [m.size_eq]
  exact Prod.Lex.left _ _ (Nat.lt_succ_self _)

theorem ClassDef.stamping_eq_topDown (c : ClassDef) :
    (∀ n, c.setLevel n = c.topDown n) ∧ c.restamp = c.topDown c.level := by
  have hmethod (n : Nat) (m : MethodDef) (h : m ∈ c.methods) :
      (m.setLevel (n + 1)).restamp = m.topDown (n + 1) := by
    -- As for the items of a body, the second stamping has nothing left to do.
    have hset := m.stamping_eq_topDown.1 (n + 1)
    have hrestamp := (m.setLevel (n + 1)).stamping_eq_topDown.2
    rw [hrestamp, hset, MethodDef.level_topDown, MethodDef.topDown_topDown]
  have hsubclass (n : Nat) (sub : ClassDef) (h : sub ∈ c.subclasses) :
      (sub.setLevel (n + 1)).restamp = sub.topDown (n + 1) := by
    have hset := sub.stamping_eq_topDown.1 (n + 1)
    have hrestamp := (sub.setLevel (n + 1)).stamping_eq_topDown.2
    rw [hrestamp, hset, ClassDef.level_topDown, ClassDef.topDown_topDown]
  refine ⟨fun n => ?_, ?_⟩
  · rw [ClassDef.setLevel_eq, ClassDef.restamp_eq, ClassDef.topDown_eq]
    simp only [List.map_congr_left (hmethod n), List.map_congr_left (hsubclass n)]
  · rw [ClassDef.restamp_eq, ClassDef.topDown_eq]
    simp only [List.map_congr_left (hmethod c.level), List.map_congr_left (hsubclass c.level)]
termination_by (c.size, 0)
decreasing_by
  · exact Prod.Lex.left _ _ (ClassDef.size_method_lt h)
  · simp only [MethodDef.size_setLevel]
    exact Prod.Lex.left _ _ (ClassDef.size_method_lt h)
  · exact Prod.Lex.left _ _ (ClassDef.size_subclass_lt h)
  · simp only [ClassDef.size_setLevel]
    exact Prod.Lex.left _ _ (ClassDef.size_subclass_lt h)

end

theorem FunctionDef.relevel_eq_topDown (r : Relevel) (f : FunctionDef) :
    f.relevel r = f.topDown (r.target f.level) :=
  r.apply_eq f.stamping_eq_topDown.1 f.stamping_eq_topDown.2

theorem ClassDef.relevel_eq_topDown (r : Relevel) (c : ClassDef) :
    c.relevel r = c.topDown (r.target c.level) :=
  r.apply_eq c.stamping_eq_topDown.1 c.stamping_eq_topDown.2

namespace Construct

theorem setLevel_eq_topDown (n : Nat) (c : Construct) : c.setLevel n = c.topDown n :=
  c.stamping_eq_topDown.1 n

theorem restamp_eq_topDown (c : Construct) : c.restamp = c.topDown c.level :=
  c.stamping_eq_topDown.2

theorem relevel_eq_topDown (r : Relevel) (c : Construct) :
    c.relevel r = c.topDown (r.target c.level) :=
  r.apply_eq c.stamping_eq_topDown.1 c.stamping_eq_topDown.2

@[simp] theorem level_setLevel (n : Nat) (c : Construct) : (c.setLevel n).level = n := by
  simp only [setLevel_eq_topDown, level_topDown]

end Construct

end Scribe
