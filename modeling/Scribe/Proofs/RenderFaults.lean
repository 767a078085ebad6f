import Scribe.Construct.RenderCall
import Scribe.Proofs.Rows

/-!
# What keeps a construct from being rendered

Whether there is a text form does not depend on levels, so it is the same for every way to ask and after
any calls. There is none if and only if the tree has a chain that nothing opens.

* `Rendering.status` — whether a rendering succeeded, without its text;
* `Construct.status_render_topDown` — stamping has no influence on it;
* `RenderCall.run_keeps` — what calls leave behind;
* `Construct.complete_iff` — trees without such a chain;
* `RenderCall.fails_iff_headless` — all calls fail, with one fault, or none does.
-/

namespace Scribe

/-! ## Success and failure -/

namespace Rendering

/-- Whether a rendering succeeded, or why not. -/
def status (r : Rendering) : Except BuildError Unit := r.map fun _ => ()

theorem status_eq_error_iff {r : Rendering} {e : BuildError} :
    r.status = .error e ↔ r = .error e := by
  cases r with
  | error fault => simp [status, Except.map]
  | ok t => simp [status, Except.map]

theorem status_eq_ok_iff {r : Rendering} : r.status = .ok () ↔ ∃ t, r = .ok t := by
  cases r with
  | error fault => simp [status, Except.map]
  | ok t => simp [status, Except.map]

@[simp] theorem status_ok (t : Text) : status (.ok t) = .ok () := rfl

@[simp] theorem status_prepend (before : Text) (r : Rendering) :
    (prepend before r).status = r.status := by
  cases r with
  | error fault => rfl
  | ok t => rfl

/-- Whether some renderings can be put together is decided by the first that failed. -/
theorem status_concat_cons (r : Rendering) (rs : List Rendering) :
    (concat (r :: rs)).status = r.status.bind fun _ => (concat rs).status := by
  cases r with
  | error fault => rfl
  | ok t =>
    simp only [concat]
    cases concat rs with
    | error fault => rfl
    | ok u => rfl

theorem status_concat_congr {rs ss : List Rendering} (h : rs.map status = ss.map status) :
    (concat rs).status = (concat ss).status := by
  induction rs generalizing ss with
  | nil =>
    rcases List.map_eq_nil_iff.1 h.symm with rfl
    rfl
  | cons r rest ih =>
    cases ss with
    | nil => cases h
    | cons s more =>
      rcases List.cons.inj h with ⟨hfirst, hrest⟩
      simp only [status_concat_cons, hfirst, ih hrest]

end Rendering

open Rendering

/-! ## Levels have no influence -/

theorem Chain.status_render_topDown (n : Nat) (c : Chain) :
    (c.topDown n).render.status = c.render.status := by
  rcases c with ⟨_ | opening, elifs, elseActions, level⟩
  · rfl
  · rfl

theorem FunctionDef.status_render_topDown {n : Nat} {f : FunctionDef}
    (h : ∀ item ∈ f.items, (item.topDown (n + 1)).render.status = item.render.status) :
    (f.topDown n).render.status = f.render.status := by
  simp only [render_eq, status_prepend, topDown_eq]
  rcases f with ⟨name, params, decorators, _ | items, level⟩
  · rfl
  · simp only [Option.map_some]
    refine status_concat_congr ?_
    simp only [List.map_map]
    refine List.map_congr_left fun item hitem => ?_
    simpa only [Function.comp_apply, Construct.renderItem, status_prepend] using h item hitem

theorem ClassDef.status_render_topDown {n : Nat} {c : ClassDef}
    (hmethods : ∀ m ∈ c.methods, (m.topDown (n + 1)).render.status = m.render.status)
    (hsubclasses : ∀ sub ∈ c.subclasses,
      (sub.topDown (n + 1)).render.status = sub.render.status) :
    (c.topDown n).render.status = c.render.status := by
  rw [render_eq, render_eq, hasMembers_topDown, methods_topDown, subclasses_topDown]
  refine status_concat_congr ?_
  -- The lines that belong to the class itself are always there.
  split
  · simp only [List.map_append, List.map_cons, List.map_nil, List.map_map, Function.comp_def, status_ok,
      status_prepend, List.map_congr_left hmethods, List.map_congr_left hsubclasses]
  · rfl

namespace Construct

theorem status_render_topDown (c : Construct) :
    ∀ n, (c.topDown n).render.status = c.render.status := by
  induction c with
  | chain c => intro n; simp only [topDown, render, c.status_render_topDown]
  | function f ih =>
    intro n
    simp only [topDown, render]
    exact FunctionDef.status_render_topDown fun item hitem => ih item hitem (n + 1)
  | method m ih =>
    intro n
    simp only [topDown, render, MethodDef.topDown_eq, MethodDef.render_eq]
    exact FunctionDef.status_render_topDown fun item hitem => ih item hitem (n + 1)
  | classDef c ihm ihs =>
    intro n
    simp only [topDown, render] at ihm ihs ⊢
    exact ClassDef.status_render_topDown (fun m hm => ihm m hm (n + 1))
      fun sub hsub => ihs sub hsub (n + 1)
  | boxed inner ih => intro n; simp only [topDown, render, ih]
  | _ =>
    -- These always have a text form.
    intro n
    simp only [topDown, render]
    rfl

end Construct

/-! ## Calls -/

namespace RenderCall

variable (call : RenderCall) (calls : List RenderCall) (c : Construct)

theorem status_result : (call.result c).status = c.render.status := by
  cases call with
  | stored => rfl
  | fresh =>
    simp only [result, Construct.renderFresh, Construct.restamp_eq_topDown]
    exact c.status_render_topDown c.level

/-- A call changes nothing but the levels below the root. -/
theorem left_keeps : (call.left c).level = c.level ∧ (call.left c).unstamped = c.unstamped ∧
    (call.left c).render.status = c.render.status := by
  cases call with
  | stored => exact ⟨rfl, rfl, rfl⟩
  | fresh =>
    simp only [left, Construct.restamp_eq_topDown, Construct.level_topDown, true_and]
    exact ⟨c.mapLevels_topDown c.level, c.status_render_topDown c.level⟩

/-- Neither do any number of them. -/
theorem run_keeps : (run c calls).level = c.level ∧ (run c calls).unstamped = c.unstamped ∧
    (run c calls).render.status = c.render.status := by
  induction calls generalizing c with
  | nil => exact ⟨rfl, rfl, rfl⟩
  | cons call rest ih =>
    rcases call.left_keeps c with ⟨hlevel, hunstamped, hstatus⟩
    rcases ih (call.left c) with ⟨hlevel', hunstamped', hstatus'⟩
    exact ⟨hlevel'.trans hlevel, hunstamped'.trans hunstamped, hstatus'.trans hstatus⟩

/-- Rendering at the levels that are there leaves no trace. -/
theorem run_stored_eq_self (h : ∀ call ∈ calls, call = stored) : run c calls = c := by
  induction calls with
  | nil => rfl
  | cons call rest ih =>
    rcases List.forall_mem_cons.1 h with ⟨rfl, hrest⟩
    exact ih hrest

end RenderCall

/-! ## Trees without headless chains -/

namespace Construct

/-- If the construct is a chain, then a branch opens it. -/
def Headed : Construct → Prop
  | .chain x => x.primary ≠ none
  | _ => True

theorem everywhere_headed_iff {c : Construct} : c.Everywhere Headed ↔ ¬c.HasHeadlessChain := by
  constructor
  · rintro h ⟨x, hx, hwithin⟩
    exact h _ hwithin hx
  · intro h d hwithin
    cases d with
    | chain x => exact fun hx => h ⟨x, hx, hwithin⟩
    | _ => trivial

theorem complete_iff_everywhere (c : Construct) : c.Complete ↔ c.Everywhere Headed := by
  induction c with
  | function f ih =>
    simp only [Complete, FunctionDef.complete_iff, everywhere_function, Headed, true_and]
    exact forall₂_congr ih
  | method m ih =>
    simp only [Complete, MethodDef.Complete, FunctionDef.complete_iff, everywhere_method, Headed,
      true_and]
    exact forall₂_congr ih
  | classDef c ihm ihs =>
    simp only [Complete] at ihm ihs
    rw [Complete, ClassDef.complete_iff, everywhere_classDef]
    exact (and_congr (forall₂_congr ihm) (forall₂_congr ihs)).trans (and_iff_right trivial).symm
  | boxed inner ih => simp only [Complete, everywhere_boxed, Headed, true_and, ih]
  | _ => simp [Complete, Headed]

theorem complete_iff (c : Construct) : c.Complete ↔ ¬c.HasHeadlessChain :=
  c.complete_iff_everywhere.trans everywhere_headed_iff

/-- Rendering succeeds, at whatever levels, if and only if every chain in the tree was opened, and there
is one fault that it can fail with. -/
theorem status_render (c : Construct) :
    (c.Complete → c.render.status = .ok ()) ∧
      (¬c.Complete → c.render.status = .error .missingPrimary) := by
  have hwrites := c.renderItem_writes c.level
  have hstatus : (c.topDown c.level).renderItem.status = c.render.status := by
    simp only [renderItem, status_prepend, c.status_render_topDown]
  rw [← hstatus]
  exact ⟨fun h => status_eq_ok_iff.2 ⟨_, hwrites.text h⟩,
    fun h => status_eq_error_iff.2 (hwrites.fault h)⟩

end Construct

/-! ## Opening all chains -/

theorem Chain.primary_opened (opening : Chain → Branch) (c : Chain) :
    (c.opened opening).primary ≠ none := by
  rcases c with ⟨_ | first, elifs, elseActions, level⟩
  · exact Option.some_ne_none _
  · exact Option.some_ne_none _

/-- No chain is left without a branch. -/
theorem Construct.complete_openChains (opening : Chain → Branch) (c : Construct) :
    (c.openChains opening).Complete := by
  induction c with
  | chain c =>
    simp only [openChains, Complete]
    exact c.primary_opened opening
  | function f ih =>
    simp only [openChains, Complete, FunctionDef.complete_iff, FunctionDef.items_openChains]
    exact List.forall_mem_map.2 ih
  | method m ih =>
    simp only [openChains, Complete, MethodDef.Complete, MethodDef.openChains_eq,
      FunctionDef.complete_iff, FunctionDef.items_openChains]
    exact List.forall_mem_map.2 ih
  | classDef c ihm ihs =>
    simp only [openChains, Complete] at ihm ihs ⊢
    rw [ClassDef.openChains_eq, ClassDef.complete_iff]
    exact ⟨List.forall_mem_map.2 ihm, List.forall_mem_map.2 ihs⟩
  | boxed inner ih => simpa only [openChains, Complete] using ih
  | _ => simp only [openChains, Complete]

namespace RenderCall

/-- Whatever was called on a construct before, the next call for its text form fails if and only if a
chain that nothing opens stands anywhere in the tree, and then always with the same fault. The calls
have changed nothing but levels below the root, and not even those if none of them stamps. As soon as a
branch was attached to every such chain, every call gives a text. -/
theorem fails_iff_headless (c : Construct) (before : List RenderCall) (call : RenderCall) :
    let left := run c before
    (∀ e, call.result left = .error e ↔ e = .missingPrimary ∧ c.HasHeadlessChain) ∧
      left.level = c.level ∧ left.unstamped = c.unstamped ∧
      ((∀ earlier ∈ before, earlier = .stored) → left = c) ∧
      ∀ opening, ∃ t, call.result (left.openChains opening) = .ok t := by
  intro left
  rcases run_keeps before c with ⟨hlevel, hunstamped, hleft⟩
  have hstatus : (call.result left).status = c.render.status := (call.status_result left).trans hleft
  refine ⟨fun e => ?_, hlevel, hunstamped, run_stored_eq_self before c, fun opening => ?_⟩
  · rw [← Rendering.status_eq_error_iff, hstatus]
    by_cases hheadless : c.HasHeadlessChain
    · have hfault := c.status_render.2 fun hcomplete => c.complete_iff.1 hcomplete hheadless
      simp [hfault, hheadless, eq_comm]
    · have htext := c.status_render.1 (c.complete_iff.2 hheadless)
      simp [htext, hheadless]
  · rw [← Rendering.status_eq_ok_iff, call.status_result]
    exact (left.openChains opening).status_render.1 (left.complete_openChains opening)

end RenderCall

end Scribe
