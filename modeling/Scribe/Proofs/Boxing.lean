import Scribe.Construct.Boxing
import Scribe.Proofs.EditOrder
import Scribe.Proofs.Rollback

/-!
# Boxes do not show

Taking the boxes off a tree commutes with every change of level, and nothing that is asked of a tree
depends on them. So two trees that differ in boxes only cannot be told apart.

* `Construct.relevel_bare` — boxes and changes of level;
* `Construct.render_bare` — boxes and text forms;
* `Construct.BoxAdded.bare_eq` — one more box is lost again;
* `Construct.Wrapped.boxes_do_not_show` — all that is seen of a tree and of the tree with boxes.
-/

namespace Scribe

/-! ## What is asked of a tree -/

theorem FunctionDef.items_bare (f : FunctionDef) : f.bare.items = f.items.map Construct.bare := by
  simp only [bare_eq, items]
  cases f.body <;> simp

namespace Construct

@[simp] theorem level_bare (c : Construct) : c.bare.level = c.level := by
  -- A box passes the question on.
  induction c with
  | function f _ => simp only [bare, level, FunctionDef.bare_eq]
  | method m _ =>
    simp only [bare, level, MethodDef.level, MethodDef.bare_eq, FunctionDef.bare_eq]
  | classDef c _ _ => simp only [bare, level, ClassDef.bare_eq]
  | boxed inner ih => simp only [bare, level, ih]
  | _ => simp only [bare]

@[simp] theorem isLine_bare (c : Construct) : c.bare.isLine = c.isLine := by
  induction c with
  | boxed inner ih => simp only [bare, isLine, ih]
  | _ => simp only [bare, isLine]

theorem parts_bare (c : Construct) : c.bare.parts = c.parts.map bare := by
  induction c with
  | branch b => simp [bare, parts]
  | chain c => simp [bare, parts, Function.comp_def]
  | function f _ => simp only [bare, parts, f.items_bare]
  | method m _ => simp only [bare, parts, m.bare_eq, m.function.items_bare]
  | classDef c _ _ => simp [bare, parts, c.bare_eq, Function.comp_def]
  | boxed inner ih => simp only [bare, parts, ih]
  | _ => simp only [bare, parts, List.map_nil]

/-- A path leads to the same construct, but for the boxes in it. -/
theorem nodeAt_bare (path : List Nat) (c : Construct) :
    c.bare.nodeAt path = (c.nodeAt path).map bare := by
  induction path generalizing c with
  | nil => simp only [nodeAt, Option.map_some]
  | cons i rest ih =>
    simp only [nodeAt, parts_bare, List.getElem?_map]
    cases c.parts[i]? with
    | none => simp
    | some part => simp only [Option.map_some, Option.bind_some, ih]

end Construct

/-- What is seen of the construct that a path leads to. -/
theorem Construct.seen_nodeAt_bare (path : List Nat) (c : Construct) :
    (c.bare.nodeAt path).map (fun x => (x.level, x.isLine)) =
      (c.nodeAt path).map fun x => (x.level, x.isLine) := by
  simp only [nodeAt_bare, Option.map_map, Function.comp_def, level_bare, isLine_bare]

/-! ## Changes of level -/

theorem FunctionDef.topDown_bare {n : Nat} {f : FunctionDef}
    (h : ∀ item ∈ f.items, item.bare.topDown (n + 1) = (item.topDown (n + 1)).bare) :
    f.bare.topDown n = (f.topDown n).bare := by
  have hbody : (f.body.map (List.map Construct.bare)).map (List.map (Construct.topDown (n + 1))) =
      (f.body.map (List.map (Construct.topDown (n + 1)))).map (List.map Construct.bare) := by
    rw [map_map_body h, map_map_body fun _ _ => rfl]
  simp only [bare_eq, topDown_eq, hbody]

namespace Construct

theorem topDown_bare (c : Construct) : ∀ n, c.bare.topDown n = (c.topDown n).bare := by
  induction c with
  | function f ih =>
    intro n
    simp only [bare, topDown, FunctionDef.topDown_bare fun item hitem => ih item hitem (n + 1)]
  | method m ih =>
    intro n
    simp only [bare, topDown, MethodDef.bare_eq, MethodDef.topDown_eq,
      FunctionDef.topDown_bare fun item hitem => ih item hitem (n + 1)]
  | classDef c ihm ihs =>
    intro n
    simp only [bare, topDown, method.injEq, classDef.injEq] at ihm ihs ⊢
    have hmethods : (c.methods.map MethodDef.bare).map (MethodDef.topDown (n + 1)) =
        (c.methods.map (MethodDef.topDown (n + 1))).map MethodDef.bare := by
      simp only [List.map_map]
      exact List.map_congr_left fun m hm => ihm m hm (n + 1)
    have hsubclasses : (c.subclasses.map ClassDef.bare).map (ClassDef.topDown (n + 1)) =
        (c.subclasses.map (ClassDef.topDown (n + 1))).map ClassDef.bare := by
      simp only [List.map_map]
      exact List.map_congr_left fun sub hsub => ihs sub hsub (n + 1)
    simp only [ClassDef.bare_eq, ClassDef.topDown_eq, hmethods, hsubclasses]
  | boxed inner ih => intro n; simp only [bare, topDown, ih]
  | _ => intro n; simp only [bare, topDown]

/-- Setting a level, adding one and bringing the levels below in order: on all of these, a box passes
the change on, or makes it up from what it passes on. -/
theorem relevel_bare (r : Relevel) (c : Construct) : c.bare.relevel r = (c.relevel r).bare := by
  simp only [relevel_eq_topDown, level_bare, topDown_bare]

theorem restamp_bare (c : Construct) : c.bare.restamp = c.restamp.bare :=
  c.relevel_bare .keep

theorem relevelAll_bare (changes : List Relevel) (c : Construct) :
    c.bare.relevelAll changes = (c.relevelAll changes).bare := by
  induction changes generalizing c with
  | nil => simp only [relevelAll, List.foldl_nil]
  | cons r rest ih =>
    simp only [relevelAll, List.foldl_cons, relevel_bare] at ih ⊢
    exact ih (c.relevel r)

end Construct

/-! ## Text forms -/

theorem FunctionDef.render_bare {f : FunctionDef}
    (h : ∀ item ∈ f.items, item.bare.render = item.render) : f.bare.render = f.render := by
  rcases f with ⟨name, params, decorators, _ | items, level⟩
  · simp only [bare_eq, Option.map_none]
  · -- An item is put on a line of its own in or out of its boxes.
    have hitems : items.map (Construct.renderItem ∘ Construct.bare) =
        items.map Construct.renderItem :=
      List.map_congr_left fun item hitem => by
        simp only [Function.comp_apply, Construct.renderItem, Construct.isLine_bare, h item hitem]
    simp only [bare_eq, render_eq, Option.map_some, List.map_map, hitems, header]

theorem ClassDef.render_bare {c : ClassDef} (hmethods : ∀ m ∈ c.methods, m.bare.render = m.render)
    (hsubclasses : ∀ sub ∈ c.subclasses, sub.bare.render = sub.render) :
    c.bare.render = c.render := by
  have hmethodTexts : (c.methods.map MethodDef.bare).map (fun m => Rendering.prepend ['\n'] m.render) =
      c.methods.map fun m => Rendering.prepend ['\n'] m.render := by
    rw [List.map_map]
    exact List.map_congr_left fun m hm => by simp only [Function.comp_apply, hmethods m hm]
  have hsubclassTexts : (c.subclasses.map ClassDef.bare).map ClassDef.render =
      c.subclasses.map ClassDef.render := by
    rw [List.map_map]
    exact List.map_congr_left hsubclasses
  -- The lines of the class itself are the same, and so is whether it has members.
  have hmembers : c.bare.hasMembers = c.hasMembers := by simp [hasMembers, c.bare_eq]
  rw [render_eq, hmembers, render_eq c, c.bare_eq, hmethodTexts, hsubclassTexts]
  rfl

namespace Construct

theorem render_bare (c : Construct) : c.bare.render = c.render := by
  induction c with
  | function f ih => simp only [bare, render, FunctionDef.render_bare ih]
  | method m ih =>
    simp only [bare, render, MethodDef.render_eq, MethodDef.bare_eq, FunctionDef.render_bare ih]
  | classDef c ihm ihs =>
    simp only [bare, render] at ihm ihs ⊢
    exact ClassDef.render_bare ihm ihs
  | boxed inner ih => simp only [bare, render, ih]
  | _ => simp only [bare]

theorem renderFresh_bare (c : Construct) : c.bare.renderFresh = c.renderFresh := by
  simp only [renderFresh, restamp_bare, render_bare]

/-- Two trees that differ in boxes only have the same text forms. -/
theorem render_congr_bare {c d : Construct} (h : d.bare = c.bare) :
    d.render = c.render ∧ d.renderFresh = c.renderFresh := by
  constructor
  · calc d.render
        = d.bare.render := d.render_bare.symm
      _ = c.bare.render := by simp only [h]
      _ = c.render := c.render_bare
  · calc d.renderFresh
        = d.bare.renderFresh := d.renderFresh_bare.symm
      _ = c.bare.renderFresh := by simp only [h]
      _ = c.renderFresh := c.renderFresh_bare

end Construct

/-! ## In functions and documents -/

theorem FunctionDef.bare_push (f : FunctionDef) (item : Construct) :
    (f.push item).bare = f.bare.push item.bare := by
  simp only [bare_eq, push_eq, Construct.topDown_bare, items]
  cases f.body <;> simp

/-- A write appends the same text and meets the same faults. What it leaves of the construct differs in
boxes. -/
theorem Document.write_bare (d : Document) (c : Construct) :
    d.write c.bare = { d.write c with construct := c.restamp.bare } := by
  have hrender : c.bare.renderFresh = c.renderFresh := c.renderFresh_bare
  have hseparated (t : Text) : separated c.bare t = separated c t := by
    simp only [separated, Construct.isLine_bare]
  rcases d.write_cases c with ⟨e, hfault, hwrite⟩ | ⟨t, htext, hpolicy, hwrite⟩ |
    ⟨t, u, htext, hpolicy, hformatted, hwrite⟩ | ⟨t, cause, htext, hpolicy, hrefused, hwrite⟩
  · rw [hwrite, write_of_error (hrender.trans hfault), c.restamp_bare]
  · rw [hwrite, write_onFinalize hpolicy (hrender.trans htext), hseparated, c.restamp_bare]
  · rw [← hseparated] at hformatted
    rw [hwrite, write_eachWrite_of_ok hpolicy (hrender.trans htext) hformatted, c.restamp_bare]
  · rw [← hseparated] at hrefused
    rw [hwrite, write_eachWrite_of_error hpolicy (hrender.trans htext) hrefused, c.restamp_bare]

/-! ## Adding boxes -/

namespace Construct

theorem BoxAdded.bare_eq {c d : Construct} (h : BoxAdded c d) : d.bare = c.bare := by
  induction h with
  | here c => simp only [bare]
  | inItem before after hbody _ ih => simp [bare, FunctionDef.bare_eq, hbody, ih]
  | inMethod _ ih =>
    simp only [bare, function.injEq] at ih
    simp only [bare, MethodDef.bare_eq, ih]
  | inMember before after hmethods _ ih =>
    simp only [bare, method.injEq] at ih
    simp [bare, ClassDef.bare_eq, hmethods, ih]
  | @inSubclass c before after sub sub' hsubclasses _ ih =>
    simp only [bare, classDef.injEq] at ih
    rw [bare, bare, c.bare_eq, hsubclasses, ClassDef.bare_eq]
    simp [ih]
  | inBox _ ih => simp only [bare, ih]

theorem Wrapped.bare_eq {c d : Construct} (h : Wrapped c d) : d.bare = c.bare := by
  induction h with
  | refl => rfl
  | tail _ hlast ih => exact hlast.bare_eq.trans ih

/-- A tree and the same tree with boxes around it, and around items of bodies at any depth, cannot be told
apart. After the same changes of level, all levels agree, and so does what is seen along any path; the text
forms agree, with faults; a function that one or the other is pushed to has one text form; and a document
that one or the other is written to is left the same, with the same result, whatever its policy and its
formatter. -/
theorem Wrapped.boxes_do_not_show {c d : Construct} (h : c.Wrapped d)
    (changes : List Relevel) :
    let plain := c.relevelAll changes
    let boxy := d.relevelAll changes
    boxy.bare = plain.bare ∧
      (∀ path, (boxy.nodeAt path).map (fun x => (x.level, x.isLine)) =
        (plain.nodeAt path).map fun x => (x.level, x.isLine)) ∧
      boxy.render = plain.render ∧ boxy.renderFresh = plain.renderFresh ∧
      (∀ f : FunctionDef, (f.push boxy).render = (f.push plain).render ∧
        (function (f.push boxy)).renderFresh = (function (f.push plain)).renderFresh) ∧
      ∀ doc : Document, (doc.write boxy).document = (doc.write plain).document ∧
        (doc.write boxy).result = (doc.write plain).result := by
  intro plain boxy
  have hbare : boxy.bare = plain.bare := by
    simp only [boxy, plain, ← relevelAll_bare, h.bare_eq]
  rcases render_congr_bare hbare with ⟨hrender, hfresh⟩
  refine ⟨hbare, fun path => ?_, hrender, hfresh, fun f => ?_, fun doc => ?_⟩
  · calc (boxy.nodeAt path).map (fun x => (x.level, x.isLine))
        = (boxy.bare.nodeAt path).map fun x => (x.level, x.isLine) :=
          (seen_nodeAt_bare path boxy).symm
      _ = (plain.bare.nodeAt path).map fun x => (x.level, x.isLine) := by simp only [hbare]
      _ = (plain.nodeAt path).map fun x => (x.level, x.isLine) := seen_nodeAt_bare path plain
  · have hpush : (function (f.push boxy)).bare = (function (f.push plain)).bare := by
      simp only [bare, FunctionDef.bare_push, hbare]
    simpa only [render] using render_congr_bare hpush
  · have hwrite := doc.write_bare boxy
    simp only [hbare, doc.write_bare plain] at hwrite
    injection hwrite with hdocument _ hresult
    exact ⟨hdocument.symm, hresult.symm⟩

/-- A comment and a function in a function, each with boxes of its own, all of it in a box. -/
theorem boxes_do_not_show_of_boxed_items :
    let note : Construct := .comment { text := "note".toList }
    let inner (item : Construct) : Construct :=
      .function { name := "inner".toList, params := [], body := some [item], level := 7 }
    let outer (items : List Construct) : Construct :=
      .function { name := "outer".toList, params := [], body := some items }
    let c := outer [note, inner note]
    let d : Construct := .boxed (outer [.boxed (.boxed note), inner (.boxed note)])
    let changes : List Relevel := [.set 0, .deepen, .keep]
    c.Wrapped d ∧ (d.relevelAll changes).render = (c.relevelAll changes).render ∧
      (d.relevelAll changes).render =
        .ok "\n\tdef outer():\n\t\t# note\n\t\tdef inner():\n\t\t\t# note".toList := by
  intro note inner outer c d changes
  have hfirst : BoxAdded c (outer [.boxed note, inner note]) :=
    .inItem [] [inner note] rfl (.here note)
  have hsecond : BoxAdded (outer [.boxed note, inner note])
      (outer [.boxed (.boxed note), inner note]) :=
    .inItem [] [inner note] rfl (.inBox (.here note))
  have hinner : BoxAdded (inner note) (inner (.boxed note)) := .inItem [] [] rfl (.here note)
  have hthird : BoxAdded (outer [.boxed (.boxed note), inner note])
      (outer [.boxed (.boxed note), inner (.boxed note)]) :=
    .inItem [.boxed (.boxed note)] [] rfl hinner
  have hwrapped : c.Wrapped d :=
    (((Relation.ReflTransGen.single hfirst).tail hsecond).tail hthird).tail (.here _)
  -- Three changes of level come to one pass.
  have hpass : d.relevelAll changes = d.topDown 1 := by
    simp only [relevelAll, changes, List.foldl_cons, List.foldl_nil, relevel_eq_topDown, Relevel.target,
      level_topDown, topDown_topDown]
  refine ⟨hwrapped, (hwrapped.boxes_do_not_show changes).2.2.1, ?_⟩
  rw [hpass]
  cbv

end Construct

end Scribe
