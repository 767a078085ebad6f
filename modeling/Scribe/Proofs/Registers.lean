import Scribe.Construct.Register
import Scribe.Proofs.Built
import Scribe.Proofs.EditOrder
import Scribe.Proofs.NamedMethods

/-!
# Definitions stay as they were made

A register that was kept call by call agrees with what can be read off the tree after any history, so the
parameters of a definition are those that it was made with, and its decorators those that were accepted.
A text form shows just these.

* `Construct.register_topDown` — levels have no part in a register;
* `ConstructEdit.register_apply` — what one edit does to a tree, it notes;
* `Construct.Recorded.register_eq` — so does a history;
* `Construct.Within.exists_render` — the text form of a tree has those of its constructs in it;
* `FunctionDef.exists_of_render` — the text form of a definition;
* `Construct.definitions_keep_their_record` — all of these together.
-/

namespace Scribe

open Text

/-! ## Levels -/

theorem FunctionDef.register_topDown_of_items {n : Nat} {kind : DefinitionKind} {f : FunctionDef}
    (h : ∀ item ∈ f.items, (item.topDown (n + 1)).register = item.register) :
    (f.topDown n).register kind = f.register kind := by
  have hrecord : (f.topDown n).record kind = f.record kind := by
    simp only [record, topDown_eq]
  rw [register_eq, register_eq, hrecord, items_topDown, List.map_map]
  exact congrArg _ (List.map_congr_left h)

theorem Construct.register_topDown (c : Construct) : ∀ n, (c.topDown n).register = c.register := by
  induction c with
  | function f ih =>
    intro n
    simp only [topDown, register]
    exact FunctionDef.register_topDown_of_items fun item hitem => ih item hitem (n + 1)
  | method m ih =>
    intro n
    simp only [topDown, register, MethodDef.topDown_eq, MethodDef.register_eq, MethodDef.kind]
    exact FunctionDef.register_topDown_of_items fun item hitem => ih item hitem (n + 1)
  | classDef c ihm ihs =>
    intro n
    simp only [topDown, register] at ihm ihs ⊢
    rw [ClassDef.register_eq, ClassDef.register_eq, ClassDef.methods_topDown, ClassDef.subclasses_topDown,
      List.map_map, List.map_map]
    have hmethods := List.map_congr_left fun m hm => ihm m hm (n + 1)
    have hsubclasses := List.map_congr_left fun sub hsub => ihs sub hsub (n + 1)
    simp only [Function.comp_def, hmethods, hsubclasses]
  | boxed inner ih =>
    intro n
    simp only [topDown, register, ih]
  | _ =>
    intro n
    simp only [topDown, register]

theorem FunctionDef.register_topDown (kind : DefinitionKind) (f : FunctionDef) (n : Nat) :
    (f.topDown n).register kind = f.register kind :=
  register_topDown_of_items fun item _ => item.register_topDown (n + 1)

theorem MethodDef.register_topDown (m : MethodDef) (n : Nat) :
    (m.topDown n).register = m.register := by
  simpa only [Construct.topDown, Construct.register] using (Construct.method m).register_topDown n

theorem ClassDef.register_topDown (c : ClassDef) (n : Nat) :
    (c.topDown n).register = c.register := by
  simpa only [Construct.topDown, Construct.register] using (Construct.classDef c).register_topDown n

/-! ## Edits -/

namespace FunctionEdit

/-- What a successful edit does to a function, it notes. -/
theorem register_apply {e : FunctionEdit} {f g : FunctionDef} (kind : DefinitionKind)
    (hg : e.apply f = .ok g) :
    g.register kind = e.note (e.operands.map Construct.register) (f.register kind) := by
  cases e with
  | push item =>
    cases hg
    simp [FunctionDef.push_eq, FunctionDef.register_eq, FunctionDef.record, FunctionDef.items, note,
      operands, Construct.register_topDown]
  | setBody items =>
    cases hg
    rw [FunctionDef.setBody, (FunctionDef.stamping_eq_topDown _).2, FunctionDef.register_topDown,
      FunctionDef.register_eq, FunctionDef.register_eq]
    -- An empty body is none at all, and has no items either.
    cases items with
    | nil => rfl
    | cons item rest => rfl
  | decorate decorator =>
    simp only [apply, FunctionDef.decorate] at hg
    -- Only a decorator that is accepted gives a function.
    split at hg
    · cases hg
      rw [FunctionDef.register_eq, FunctionDef.register_eq]
      rfl
    · cases hg
  | relevel r =>
    cases hg
    rw [FunctionDef.relevel_eq_topDown, FunctionDef.register_topDown]
    rfl

theorem register_applyMethod {e : FunctionEdit} {m x : MethodDef} (hx : e.applyMethod m = .ok x) :
    x.register = e.note (e.operands.map Construct.register) m.register := by
  rcases map_eq_ok hx with ⟨g, hg, rfl⟩
  rw [MethodDef.register_eq, MethodDef.register_eq]
  exact register_apply m.kind hg

end FunctionEdit

/-- If a change of an element corresponds to a change of its image, then so do changes of last elements. -/
theorem map_of_modifyLast {α β ε : Type} {f : α → β} {g : β → β} {change : α → Except ε α}
    {xs ys : List α} (h : modifyLast change xs = .ok ys)
    (hchange : ∀ x y, change x = .ok y → f y = g (f x)) : ys.map f = (xs.map f).modifyLast g := by
  rcases xs.eq_nil_or_concat with rfl | ⟨init, x, rfl⟩
  · cases h
    rfl
  · rw [List.concat_eq_append] at h ⊢
    rw [modifyLast_concat] at h
    rcases map_eq_ok h with ⟨y, hy, rfl⟩
    simp only [List.map_append, List.map_cons, List.map_nil, List.modifyLast_concat, hchange x y hy]

namespace ClassEdit

theorem register_apply {e : ClassEdit} : ∀ {c d : ClassDef}, e.apply c = .ok d →
    d.register = e.note (e.operands.map Construct.register) c.register := by
  -- The induction is on the edit: an edit in place is an edit of the last subclass.
  induction e with
  | setBase _ | addInit | describe _ | setVariable _ _ =>
    intro c d hd
    cases hd
    rw [ClassDef.register_eq, ClassDef.register_eq]
    rfl
  | addMethod m =>
    intro c d hd
    cases hd
    simp [ClassDef.addMethod_eq, ClassDef.register_eq, note, operands, Construct.register,
      MethodDef.register_topDown]
  | addNamedMethod name params decorators =>
    intro c d hd
    by_cases hsound : MethodDef.SoundSignature name params
    · simp only [apply, ClassDef.addNamedMethod_of_sound hsound] at hd
      split at hd
      · cases hd
        simp only [ClassDef.withMethod, ClassDef.register_eq, List.map_append, List.map_cons, List.map_nil,
          MethodDef.register_eq, FunctionDef.register_eq]
        rfl
      · cases hd
    · simp only [apply, ClassDef.addNamedMethod_of_not_sound hsound] at hd
      cases hd
  | addSubclass sub =>
    intro c d hd
    cases hd
    rw [ClassDef.addSubclass_eq, ClassDef.register_eq, ClassDef.register_eq]
    simp [note, operands, Construct.register, ClassDef.register_topDown]
  | relevel r =>
    intro c d hd
    cases hd
    rw [ClassDef.relevel_eq_topDown, ClassDef.register_topDown]
    rfl
  | inLastMethod e =>
    intro c d hd
    rcases map_eq_ok hd with ⟨methods, hmethods, rfl⟩
    rw [ClassDef.register_eq, ClassDef.register_eq,
      map_of_modifyLast hmethods fun _ _ => FunctionEdit.register_applyMethod]
    rfl
  | inLastSubclass e ih =>
    intro c d hd
    rcases map_eq_ok hd with ⟨subclasses, hsubclasses, rfl⟩
    rw [ClassDef.register_eq, ClassDef.register_eq, map_of_modifyLast hsubclasses fun _ _ => ih]
    rfl

end ClassEdit

namespace ConstructEdit

/-- What a successful edit does to a tree, it notes. -/
theorem register_apply {e : ConstructEdit} {c d : Construct} (hd : e.apply c = .ok d) :
    d.register = e.note (e.operands.map Construct.register) c.register := by
  -- The cases are the clauses of the definition; only a box makes it go on.
  fun_induction apply e c generalizing d with
  | case1 c =>
    cases hd
    rw [Construct.register]
    rfl
  | case2 r c =>
    cases hd
    rw [Construct.relevel_eq_topDown, Construct.register_topDown]
    rfl
  | case3 | case4 | case5 | case6 =>
    cases hd
    simp only [Construct.register, note]
  | case7 e f =>
    rcases map_eq_ok hd with ⟨g, hg, rfl⟩
    simp only [Construct.register]
    exact FunctionEdit.register_apply .function hg
  | case8 e m =>
    rcases map_eq_ok hd with ⟨x, hx, rfl⟩
    simp only [Construct.register]
    exact FunctionEdit.register_applyMethod hx
  | case9 e x =>
    rcases map_eq_ok hd with ⟨y, hy, rfl⟩
    simp only [Construct.register]
    exact ClassEdit.register_apply hy
  | case10 e inner _ _ ih =>
    rcases map_eq_ok hd with ⟨y, hy, rfl⟩
    simpa only [Construct.register] using ih hy
  | case11 e c =>
    cases hd
    -- Constructs of this kind do not have such an edit, which goes by the register as well.
    cases e with
    | inFunction e => cases c <;> simp_all [Construct.register, note, ClassDef.register_eq]
    | inClass e =>
      cases c <;> simp_all [Construct.register, note, MethodDef.register_eq, FunctionDef.register_eq]
    | _ => rfl

end ConstructEdit

/-! ## Histories -/

theorem map_eq_of_zip {α β : Type} {f : α → β} {xs : List α} {ys : List β}
    (hlength : ys.length = xs.length) (h : ∀ p ∈ xs.zip ys, f p.1 = p.2) : xs.map f = ys := by
  induction xs generalizing ys with
  | nil => exact (List.length_eq_zero_iff.1 hlength).symm
  | cons x rest ih =>
    cases ys with
    | nil => cases hlength
    | cons y more =>
      rcases List.forall_mem_cons.1 h with ⟨hfirst, hrest⟩
      simp only [List.map_cons, hfirst, ih (Nat.succ.inj hlength) hrest]

theorem MethodDef.newStatic_eq (name : Text) (params : List Text) :
    MethodDef.newStatic name params =
      { function := { name, params, level := MethodDef.initialLevel }, isStatic := true } := by
  rw [MethodDef.newStatic, FunctionDef.setLevel_of_body_eq_none rfl]
  rfl

namespace Construct

/-- The register that was kept of a construct is what can be read off it. -/
theorem Recorded.register_eq {c : Construct} {log : Register} (h : c.Recorded log) :
    c.register = log := by
  -- The induction is on the history, those of the operands included.
  induction h with
  | function name params =>
    rw [register, FunctionDef.register_eq]
    rfl
  | method name params =>
    rw [register, MethodDef.register_eq, MethodDef.new_eq, FunctionDef.register_eq]
    rfl
  | staticMethod name params =>
    rw [register, MethodDef.register_eq, MethodDef.newStatic_eq, FunctionDef.register_eq]
    rfl
  | classDef name =>
    rw [register, ClassDef.register_eq]
    rfl
  | other _ hempty => exact hempty
  | edit e attached _ hlength _ hd ih ihoperands =>
    rw [ConstructEdit.register_apply hd, ih, map_eq_of_zip hlength ihoperands]
  | refused e _ hfault ih =>
    rw [ConstructEdit.step, hfault]
    exact ih

theorem Recorded.built {c : Construct} {log : Register} (h : c.Recorded log) : c.Built := by
  induction h with
  | function name params => exact .fresh (.function name params)
  | method name params => exact .fresh (.method name params)
  | staticMethod name params => exact .fresh (.staticMethod name params)
  | classDef name => exact .fresh (.classDef name)
  | other hfresh _ => exact .fresh hfresh
  | @edit c d log e attached _ hlength _ hd ih ihoperands =>
    have hstep : e.step c = d := by
      rw [ConstructEdit.step, hd]
      rfl
    refine hstep ▸ .edit e ih fun x hx => ?_
    -- Every operand has its register at its side.
    have hsides : e.operands = (e.operands.zip attached).map Prod.fst :=
      (List.map_fst_zip (Nat.le_of_eq hlength.symm)).symm
    rw [hsides] at hx
    rcases List.mem_map.1 hx with ⟨p, hp, rfl⟩
    exact ihoperands p hp
  | @refused c log fault e _ hfault ih =>
    rw [ConstructEdit.step, hfault]
    exact ih

theorem Fresh.recorded {c : Construct} (h : c.Fresh) : ∃ log, c.Recorded log := by
  cases h with
  | function name params => exact ⟨_, .function name params⟩
  | method name params => exact ⟨_, .method name params⟩
  | staticMethod name params => exact ⟨_, .staticMethod name params⟩
  | classDef name => exact ⟨_, .classDef name⟩
  | snippet code => exact ⟨_, .other (.snippet code) (by rw [register])⟩
  | assignment name value => exact ⟨_, .other (.assignment name value) (by rw [register])⟩
  | comment text => exact ⟨_, .other (.comment text) (by rw [register])⟩
  | docstring text => exact ⟨_, .other (.docstring text) (by rw [register])⟩
  | branch guard actions kind =>
    exact ⟨_, .other (.branch guard actions kind) (by rw [register])⟩
  | chain elseActions => exact ⟨_, .other (.chain elseActions) (by rw [register])⟩

/-- A register is kept of every history. -/
theorem Built.recorded {c : Construct} (h : c.Built) : c.Recorded c.register := by
  induction h with
  | fresh hfresh =>
    rcases hfresh.recorded with ⟨log, hlog⟩
    rwa [hlog.register_eq]
  | @edit c e _ hoperands ih ihoperands =>
    cases hd : e.apply c with
    | error fault =>
      have hkept := Recorded.refused e ih hd
      rwa [hkept.register_eq]
    | ok d =>
      have hnoted : d.Recorded (e.note (e.operands.map register) c.register) := by
        refine .edit e _ ih (List.length_map _) (fun p hp => ?_) hd
        rw [← List.map_id e.operands, List.map_map, List.zip_map'] at hp
        rcases List.mem_map.1 hp with ⟨x, hx, rfl⟩
        exact ihoperands x hx
      rw [ConstructEdit.step, hd]
      change d.Recorded d.register
      rwa [hnoted.register_eq]

end Construct

/-! ## Text forms -/

namespace Rendering

theorem exists_of_concat {rs : List Rendering} : ∀ {t : Text}, concat rs = .ok t →
    ∃ ts : List Text, rs = ts.map .ok ∧ t = ts.flatten := by
  induction rs with
  | nil =>
    intro t h
    cases h
    exact ⟨[], rfl, rfl⟩
  | cons r rest ih =>
    intro t h
    cases r with
    | error fault => cases h
    | ok u =>
      cases hrest : concat rest with
      | error fault =>
        simp only [concat, hrest] at h
        cases h
      | ok v =>
        simp only [concat, hrest] at h
        cases h
        rcases ih hrest with ⟨ts, rfl, rfl⟩
        exact ⟨u :: ts, rfl, rfl⟩

theorem exists_of_mem_concat {rs : List Rendering} {r : Rendering} {t : Text} (hr : r ∈ rs)
    (h : concat rs = .ok t) : ∃ u, r = .ok u ∧ u <:+: t := by
  rcases exists_of_concat h with ⟨ts, rfl, rfl⟩
  rcases List.mem_map.1 hr with ⟨u, hu, rfl⟩
  exact ⟨u, rfl, List.infix_of_mem_flatten hu⟩

theorem exists_of_prepend {before : Text} {r : Rendering} {t : Text} (h : prepend before r = .ok t) :
    ∃ u, r = .ok u ∧ t = before ++ u := by
  rcases map_eq_ok h with ⟨u, hu, rfl⟩
  exact ⟨u, hu, rfl⟩

end Rendering

open Rendering

namespace FunctionDef

/-- The text form of a function begins with the lines of its record. -/
theorem exists_of_render {f : FunctionDef} (kind : DefinitionKind) (hbody : f.body ≠ some []) {t : Text}
    (h : f.render = .ok t) :
    ∃ below, t = ((f.record kind).lines.flatMap fun line => '\n' :: tabs f.level ++ line) ++ below ∧
      f.BodyShown below := by
  have hheader : f.header =
      (f.record kind).lines.flatMap fun line => '\n' :: tabs f.level ++ line := by
    simp [header, record, Record.lines]
  rw [render_eq] at h
  rcases exists_of_prepend h with ⟨below, hbelow, rfl⟩
  refine ⟨below, by rw [hheader], ?_⟩
  cases hcases : f.body with
  | none =>
    rw [hcases] at hbelow
    cases hbelow
    exact .placeholder hcases
  | some items =>
    rw [hcases] at hbelow
    cases items with
    | nil => exact absurd hcases hbody
    | cons first rest =>
      rcases exists_of_concat hbelow with ⟨texts, htexts, rfl⟩
      exact .items hcases htexts

theorem exists_render_item {f : FunctionDef} {item : Construct} (hitem : item ∈ f.items) {t : Text}
    (h : f.render = .ok t) : ∃ u, item.render = .ok u ∧ u <:+: t := by
  rw [render_eq] at h
  rcases exists_of_prepend h with ⟨below, hbelow, rfl⟩
  cases hbody : f.body with
  | none => simp [items, hbody] at hitem
  | some all =>
    rw [hbody] at hbelow
    rw [items, hbody] at hitem
    rcases exists_of_mem_concat (List.mem_map_of_mem hitem) hbelow with ⟨v, hv, hinfix⟩
    rcases exists_of_prepend hv with ⟨u, hu, rfl⟩
    exact ⟨u, hu, ((List.suffix_append _ u).isInfix.trans hinfix).trans
      (List.suffix_append _ below).isInfix⟩

end FunctionDef

namespace ClassDef

variable {c : ClassDef} {t : Text}

theorem exists_render_method {m : MethodDef} (hm : m ∈ c.methods) (h : c.render = .ok t) :
    ∃ u, m.render = .ok u ∧ u <:+: t := by
  have hmembers : c.hasMembers = true := by
    simp [hasMembers, List.ne_nil_of_mem hm]
  rw [render_eq, hmembers] at h
  have hpart : prepend ['\n'] m.render ∈ c.methods.map fun m => prepend ['\n'] m.render :=
    List.mem_map_of_mem hm
  rcases exists_of_mem_concat (r := prepend ['\n'] m.render) (by simp [hpart]) h with ⟨v, hv, hinfix⟩
  rcases exists_of_prepend hv with ⟨u, hu, rfl⟩
  exact ⟨u, hu, (List.suffix_append _ u).isInfix.trans hinfix⟩

theorem exists_render_subclass {sub : ClassDef} (hsub : sub ∈ c.subclasses) (h : c.render = .ok t) :
    ∃ u, sub.render = .ok u ∧ u <:+: t := by
  have hmembers : c.hasMembers = true := by
    simp [hasMembers, List.ne_nil_of_mem hsub]
  rw [render_eq, hmembers] at h
  have hpart : sub.render ∈ c.subclasses.map render := List.mem_map_of_mem hsub
  exact exists_of_mem_concat (by simp [hpart]) h

end ClassDef

namespace Construct

/-- If a tree has a text form, then so does every construct in it, and it stands there in one piece. -/
theorem Within.exists_render {d c : Construct} (h : d.Within c) :
    ∀ {t : Text}, c.render = .ok t → ∃ u, d.render = .ok u ∧ u <:+: t := by
  -- The way up from the construct goes through texts that have one another in them.
  have inside {x : Construct} {t : Text}
      (ih : ∀ {t : Text}, x.render = .ok t → ∃ u, d.render = .ok u ∧ u <:+: t)
      (hx : ∃ u, x.render = .ok u ∧ u <:+: t) : ∃ u, d.render = .ok u ∧ u <:+: t := by
    rcases hx with ⟨v, hv, houter⟩
    rcases ih hv with ⟨u, hu, hinner⟩
    exact ⟨u, hu, hinner.trans houter⟩
  induction h with
  | root => exact fun ht => ⟨_, ht, List.infix_rfl⟩
  | item hitem _ ih =>
    intro t ht
    rw [render] at ht
    exact inside ih (FunctionDef.exists_render_item hitem ht)
  | methodItem hitem _ ih =>
    intro t ht
    rw [render, MethodDef.render_eq] at ht
    exact inside ih (FunctionDef.exists_render_item hitem ht)
  | member hm _ ih =>
    intro t ht
    rw [render] at ht
    refine inside ih ?_
    rw [render]
    exact ClassDef.exists_render_method hm ht
  | subclass hsub _ ih =>
    intro t ht
    rw [render] at ht
    refine inside ih ?_
    rw [render]
    exact ClassDef.exists_render_subclass hsub ht
  | boxed _ ih =>
    intro t ht
    rw [render] at ht
    exact ih ht

/-! ## Definitions and their records -/

theorem WellMade.of_definition {d : Construct} {kind : DefinitionKind} {f : FunctionDef}
    (h : d.WellMade) (hd : d.definition? = some (kind, f)) : f.HasItemsAndMarks := by
  cases d with
  | function g =>
    cases hd
    exact h
  | method m =>
    cases hd
    exact h
  | _ => cases hd

theorem render_of_definition {d : Construct} {kind : DefinitionKind} {f : FunctionDef}
    (hd : d.definition? = some (kind, f)) : d.render = f.render := by
  cases d with
  | function g =>
    cases hd
    rw [render]
  | method m =>
    cases hd
    rw [render, MethodDef.render_eq]
  | _ => cases hd

/-- Of every history a register can be kept. After any history, the functions and methods in the tree have
the parameters that they were made with, where a method that is called on an object has its receiver in
front, and the decorators that were accepted since, in order. All of these have their mark, and no body is
without items. A text form of the tree, at the levels that it holds or at fresh ones, shows of each of them
these decorators and, directly below, the signature with these parameters; below that are the items of the
body, or the placeholder. -/
theorem definitions_keep_their_record (c : Construct) :
    (c.Built → ∃ log, c.Recorded log) ∧
    ∀ log, c.Recorded log → c.register = log ∧ c.restamp.Recorded log ∧
      ∀ (d : Construct) (kind : DefinitionKind) (f : FunctionDef),
        d.Within c → d.definition? = some (kind, f) →
          f.body ≠ some [] ∧ (∀ decorator ∈ f.decorators, decorator.head? = some '@') ∧
          ∀ text, c.render = .ok text → ∃ own below, d.render = .ok own ∧ own <:+: text ∧
            own = ((f.record kind).lines.flatMap fun line => '\n' :: tabs f.level ++ line) ++ below ∧
            f.BodyShown below := by
  refine ⟨fun h => ⟨c.register, h.recorded⟩, fun log h => ⟨h.register_eq, ?_, ?_⟩⟩
  · -- To stamp a tree is an edit that is not noted.
    have hstamp : (ConstructEdit.relevel .keep).apply c = .ok c.restamp := by
      rw [ConstructEdit.apply]
      rfl
    exact .edit (.relevel .keep) [] h rfl (by simp [ConstructEdit.operands]) hstamp
  · intro d kind f hwithin hd
    have hmade : f.HasItemsAndMarks := (h.built.wellMade d hwithin).of_definition hd
    refine ⟨hmade.1, hmade.2, fun text htext => ?_⟩
    rcases hwithin.exists_render htext with ⟨own, hown, hinfix⟩
    have hrender : f.render = .ok own := (render_of_definition hd).symm.trans hown
    rcases FunctionDef.exists_of_render kind hmade.1 hrender with ⟨below, heq, hshown⟩
    exact ⟨own, below, hown, hinfix, heq, hshown⟩

/-- A method that is only named, and is then refused a decorator and gets another one where it stands. -/
theorem definitions_keep_their_record_of_named_method :
    let decorated (decorators : List Text) : MethodDef :=
      { function := { name := "f".toList, params := ["self".toList, "x".toList], decorators, level := 1 }
        isStatic := false }
    let owner (m : MethodDef) : Construct := .classDef { name := "C".toList, methods := [m] }
    let log (decorators : List Text) : Register := .classDef
      [.definition { Record.new .method "f".toList ["x".toList] with decorators } []] []
    let m := decorated ["@a".toList, "@b".toList]
    let text := "\n\nclass C:\n\n\t@a\n\t@b\n\tdef f(self, x):\n\t\tpass\n".toList
    (owner m).Recorded (log m.function.decorators) ∧ (owner m).render = .ok text ∧
      (owner m).register = log m.function.decorators ∧
      ∃ own below, (method m).render = .ok own ∧ own <:+: text ∧
        own = ((m.function.record .method).lines.flatMap fun line => '\n' :: tabs 1 ++ line) ++ below ∧
        m.function.BodyShown below := by
  intro decorated owner log m text
  have hsound : MethodDef.SoundSignature "f".toList ["x".toList] := by
    refine ⟨by decide, List.forall_mem_singleton.2 ⟨'x', ?_, ?_⟩⟩
    · decide
    · decide
  have hnamed : (owner (decorated ["@a".toList])).Recorded (log ["@a".toList]) := by
    refine .edit (.inClass (.addNamedMethod "f".toList ["x".toList] ["@a".toList])) []
      (.classDef "c".toList) rfl (by simp [ConstructEdit.operands, ClassEdit.operands]) ?_
    rw [ConstructEdit.apply, ClassEdit.apply, ClassDef.addNamedMethod_of_sound hsound]
    rfl
  have hrefused : (owner (decorated ["@a".toList])).Recorded (log ["@a".toList]) := by
    let e : ConstructEdit := .inClass (.inLastMethod (.decorate "b".toList))
    have hfault : e.apply (owner (decorated ["@a".toList])) = .error (.invalidDecorator "b".toList) := by
      rw [ConstructEdit.apply]
      rfl
    have hkept := Recorded.refused e hnamed hfault
    rwa [ConstructEdit.step, hfault] at hkept
  have haccepted : (owner m).Recorded (log m.function.decorators) := by
    refine .edit (.inClass (.inLastMethod (.decorate "@b".toList))) [] hrefused rfl
      (by simp [ConstructEdit.operands, ClassEdit.operands, FunctionEdit.operands]) ?_
    rw [ConstructEdit.apply]
    rfl
  have hrender : (owner m).render = .ok text := by
    simp only [owner, render, ClassDef.render_eq, MethodDef.render_eq, FunctionDef.render_eq, List.map_cons,
      List.map_nil]
    rfl
  have hmember : m ∈ ClassDef.methods { name := "C".toList, methods := [m] } :=
    List.mem_singleton_self m
  have hwithin : (method m).Within (owner m) := .member hmember .root
  rcases (definitions_keep_their_record (owner m)).2 _ haccepted with ⟨hregister, _, hshown⟩
  refine ⟨haccepted, hrender, hregister, ?_⟩
  exact (hshown (method m) .method m.function hwithin rfl).2.2 text hrender

end Construct

end Scribe
