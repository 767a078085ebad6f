import Scribe.Construct.Render
import Scribe.Proofs.Stamping

/-!
# Laws of levels

What follows from the fact that stamping is one pass.

* `Construct.render_topDown_mapLevels` — the levels that are replaced do not show in the text;
* `Construct.stamping_is_one_pass` — the pass, and that only the last level given counts.
-/

namespace Scribe

section Rendering

variable {own guard : Nat → Nat} {n : Nat}

@[simp] theorem Construct.isLine_mapLevels (c : Construct) :
    (c.mapLevels own guard).isLine = c.isLine := by
  induction c with
  | boxed inner ih => simp only [mapLevels]; exact ih
  | _ => simp only [mapLevels]; rfl

theorem Branch.render_topDown_mapLevels (b : Branch) :
    ((b.mapLevels own guard).topDown n).render = (b.topDown n).render := by
  have hactions : (b.actions.map (Snippet.mapLevel own)).map (Snippet.setLevel (n + 1)) =
      b.actions.map (Snippet.setLevel (n + 1)) := List.map_map
  simp only [Branch.mapLevels, Branch.topDown, Branch.render, hactions]
  rfl

theorem Chain.render_topDown_mapLevels (c : Chain) :
    ((c.mapLevels own guard).topDown n).render = (c.topDown n).render := by
  have hactions : (c.elseActions.map (Snippet.mapLevel own)).map (Snippet.setLevel (n + 1)) =
      c.elseActions.map (Snippet.setLevel (n + 1)) := List.map_map
  simp only [Chain.mapLevels, Chain.topDown, Chain.render, hactions]
  rcases c with ⟨_ | opening, elifs, elseActions, level⟩
  -- Without an opening branch both are the same error.
  · rfl
  · simp only [Option.map_some, List.flatMap_map, Branch.render_topDown_mapLevels]

theorem FunctionDef.render_topDown_mapLevels {f : FunctionDef}
    (hitems : ∀ item ∈ f.items,
      ((item.mapLevels own guard).topDown (n + 1)).render = (item.topDown (n + 1)).render) :
    ((f.mapLevels own guard).topDown n).render = (f.topDown n).render := by
  simp only [FunctionDef.mapLevels_eq, FunctionDef.topDown_eq,
    FunctionDef.render_eq]
  rcases f with ⟨name, params, decorators, _ | items, level⟩
  · rfl
  · -- An item is put on a line of its own by its kind, and kinds have no levels.
    have hrender : ∀ item ∈ items,
        Construct.renderItem ((item.mapLevels own guard).topDown (n + 1)) =
          Construct.renderItem (item.topDown (n + 1)) := by
      intro item hitem
      simp only [Construct.renderItem, Construct.isLine_topDown, Construct.isLine_mapLevels,
        hitems item hitem]
    simp only [Option.map_some, List.map_map]
    exact congrArg (fun texts => Rendering.prepend _ (Rendering.concat texts))
      (List.map_congr_left hrender)

theorem Construct.render_topDown_mapLevels (c : Construct) :
    ∀ n, ((c.mapLevels own guard).topDown n).render = (c.topDown n).render := by
  -- Not even the guards count here: they are part of the tree but not of the text.
  induction c with
  | branch b => intro n; simp only [mapLevels, topDown, render, b.render_topDown_mapLevels]
  | chain c => intro n; simp only [mapLevels, topDown, render, c.render_topDown_mapLevels]
  | function f ih =>
    intro n
    simp only [mapLevels, topDown, render]
    exact FunctionDef.render_topDown_mapLevels fun item hitem => ih item hitem (n + 1)
  | method m ih =>
    intro n
    simp only [mapLevels, topDown, render, MethodDef.mapLevels_eq, MethodDef.topDown_eq,
      MethodDef.render_eq]
    exact FunctionDef.render_topDown_mapLevels fun item hitem => ih item hitem (n + 1)
  | classDef c ihm ihs =>
    intro n
    simp only [mapLevels, topDown, render] at ihm ihs ⊢
    -- The members render alike one by one, and everything else of a class has no level.
    have hmethods : c.methods.map (fun m => Rendering.prepend ['\n']
          ((m.mapLevels own guard).topDown (n + 1)).render) =
        c.methods.map fun m => Rendering.prepend ['\n'] (m.topDown (n + 1)).render :=
      List.map_congr_left fun m hm => by simp only [ihm m hm (n + 1)]
    have hsubclasses :
        c.subclasses.map (fun sub => ((sub.mapLevels own guard).topDown (n + 1)).render) =
          c.subclasses.map fun sub => (sub.topDown (n + 1)).render :=
      List.map_congr_left fun sub hsub => ihs sub hsub (n + 1)
    simp only [ClassDef.mapLevels_eq, ClassDef.topDown_eq, ClassDef.render_eq]
    simp only [ClassDef.hasMembers, List.map_map, List.isEmpty_map, Function.comp_def, hmethods,
      hsubclasses]
    rfl
  | boxed inner ih => intro n; simp only [mapLevels, topDown, render, ih]
  | _ => intro n; simp only [mapLevels, topDown, render]; rfl

end Rendering

namespace Construct

/-- Moving a construct to a level gives the one tree that keeps everything but levels and in which all
levels follow from the given one, and stamping does the same with the level that is there. So only
the last level counts, and the text form of a stamped tree depends on nothing but the level of the
root and the shape. -/
theorem stamping_is_one_pass (c : Construct) (n : Nat) :
    (∀ d, c.setLevel n = d ↔ d.unstamped = c.unstamped ∧ d.LevelsFrom n) ∧
    c.setLevel n = c.topDown n ∧
    c.restamp = c.topDown c.level ∧
    (∀ m, (c.setLevel m).setLevel n = c.setLevel n) ∧
    c.restamp.restamp = c.restamp ∧
    (∀ d : Construct, d.level = c.level → d.shape = c.shape → d.renderFresh = c.renderFresh) := by
  refine ⟨fun d => ?_, c.setLevel_eq_topDown n, c.restamp_eq_topDown, fun m => ?_, ?_,
    fun d hlevel hshape => ?_⟩
  · simp only [setLevel_eq_topDown]
    exact topDown_eq_iff
  -- Of two passes, the second decides.
  · simp only [setLevel_eq_topDown, topDown_topDown]
  · simp only [restamp_eq_topDown, level_topDown, topDown_topDown]
  -- Both texts are those of one shape, stamped from one level.
  · calc d.renderFresh
        = (d.topDown d.level).render := by simp only [renderFresh, restamp_eq_topDown]
      _ = (d.shape.topDown d.level).render := (d.render_topDown_mapLevels _).symm
      _ = (c.shape.topDown c.level).render := by simp only [hlevel, hshape]
      _ = (c.topDown c.level).render := c.render_topDown_mapLevels _
      _ = c.renderFresh := by simp only [renderFresh, restamp_eq_topDown]

end Construct

end Scribe
