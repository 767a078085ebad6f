import Scribe.Construct.Render
import Scribe.Construct.Rows
import Scribe.Proofs.Lines
import Scribe.Proofs.Stamping

/-!
# Text forms are made of rows

As an item of a body, every construct is written as exactly its rows, with a line break before each.

* `Rendering.Writes` — a rendering that succeeds under a condition and then writes given rows;
* `Construct.renderItem_writes` — what an item of a body writes.
-/

namespace Scribe

open Text

theorem Entry.newline_mem_line {e : Entry} : '\n' ∈ e.line ↔ '\n' ∈ e.text := by
  simp only [line, List.mem_append, newline_not_mem_tabs, false_or]

/-! ## Written rows -/

namespace Row

@[simp] theorem written_nil : written [] = [] := rfl

@[simp] theorem written_cons (r : Row) (rows : List Row) :
    written (r :: rows) = '\n' :: r.line ++ written rows := rfl

@[simp] theorem written_append (xs ys : List Row) :
    written (xs ++ ys) = written xs ++ written ys :=
  List.flatMap_append

theorem written_flatMap {α : Type} (xs : List α) (rows : α → List Row) :
    written (xs.flatMap rows) = xs.flatMap fun x => written (rows x) :=
  List.flatMap_assoc

theorem written_eq (rows : List Row) :
    written rows = (rows.map line).flatMap fun l => '\n' :: l := by
  simp only [written, List.flatMap_map]

@[simp] theorem written_statements (entries : List Entry) :
    written (statements entries) = entries.flatMap fun e => '\n' :: e.line := by
  simp only [written, statements, List.flatMap_map, line]

/-- The role of an entry does not show. -/
@[simp] theorem written_suite (entries : List Entry) :
    written (suite entries) = entries.flatMap fun e => '\n' :: e.line := by
  cases entries with
  | nil => rfl
  | cons e rest => simp only [suite, written_cons, written_statements, line, List.flatMap_cons]

@[simp] theorem opening_concat (entries : List Entry) (e : Entry) :
    opening (entries ++ [e]) = statements entries ++ [entry .header e] := by
  simp [opening]

end Row

/-! ## Constructs without parts -/

theorem Snippet.newline_render (n : Nat) (s : Snippet) :
    '\n' :: (s.setLevel n).render = Row.written (Row.statements (s.outline n)) := by
  simp [Snippet.outline, Snippet.render, Snippet.setLevel, Entry.line]

theorem Assignment.render_setLevel (n : Nat) (a : Assignment) :
    (a.setLevel n).render = Row.written (Row.statements (a.outline n)) := by
  simp [Assignment.outline, Assignment.render, Assignment.setLevel, Entry.line]

/-- The mark of a comment is not blank, so that trimming stops there at the latest. -/
theorem Comment.trimEnd_mark (line : Text) :
    trimEnd ("# ".toList ++ line) = '#' :: trimEnd (' ' :: line) :=
  trimEnd_cons (' ' :: line) (by decide)

/-- The entries of a comment have its mark in front, and are trimmed lines. -/
theorem Comment.outline_cases {n : Nat} {c : Comment} {e : Entry} (h : e ∈ c.outline n) :
    e.level = n ∧ (∃ rest, e.text = '#' :: rest) ∧ trimEnd e.text = e.text ∧ '\n' ∉ e.text := by
  by_cases hempty : c.text = []
  · simp only [outline, if_pos hempty, List.mem_singleton] at h
    rcases h with rfl
    have hmark : trimEnd "#".toList = "#".toList ∧ '\n' ∉ "#".toList := by decide
    exact ⟨rfl, ⟨[], rfl⟩, hmark⟩
  · simp only [outline, if_neg hempty] at h
    rcases List.mem_map.1 h with ⟨line, hline, rfl⟩
    refine ⟨rfl, ⟨_, trimEnd_mark line⟩, trimEnd_trimEnd _, fun hmem => ?_⟩
    -- A comment may have any text, because it is taken apart at its newlines.
    rcases List.mem_append.1 (mem_of_mem_trimEnd hmem) with hmark | hmem
    · exact absurd hmark (by decide)
    · exact newline_not_mem_lines line hline hmem

theorem Comment.renderLine_eq (n : Nat) (line : Text) :
    Comment.renderLine n line = Entry.line ⟨n, trimEnd ("# ".toList ++ line)⟩ := by
  have hne : trimEnd ("# ".toList ++ line) ≠ [] := by
    rw [trimEnd_mark]
    exact List.cons_ne_nil _ _
  simp only [renderLine, List.append_assoc, trimEnd_append hne, Entry.line]

theorem Comment.newline_render (n : Nat) (c : Comment) :
    '\n' :: (c.setLevel n).render = Row.written ((c.outline n).map (Row.entry .remark)) := by
  simp only [Comment.render, Comment.outline]
  -- An empty text has no lines, and gets its mark all the same.
  by_cases hempty : c.text = []
  · simp [Comment.setLevel, hempty, Entry.line, Row.line]
  · have hlines : (lines c.text).map (Comment.renderLine n) ≠ [] := by
      simpa [lines_eq_nil_iff] using hempty
    simp only [Comment.setLevel, hempty, if_false, newline_unlines hlines, List.flatMap_map,
      Comment.renderLine_eq, Row.written, Row.line]

theorem Docstring.newline_render (n : Nat) (d : Docstring) :
    '\n' :: (d.setLevel n).render = Row.written ((d.outline n).map Row.ofQuoted) := by
  have hquote : tripleQuote ≠ [] := List.cons_ne_nil _ _
  simp only [Docstring.render, Docstring.outline]
  by_cases hlines : '\n' ∈ d.text
  · have hline (line : Text) :
        (Row.ofQuoted ⟨n, line⟩).line = Docstring.renderLine n line := by
      simp only [Row.ofQuoted, Docstring.renderLine]
      split <;> rfl
    simp [Docstring.setLevel, hlines, newline_unlines, Row.written, List.flatMap_map, hline,
      Docstring.renderLine, hquote]
  · have hquoted : inTripleQuotes d.text ≠ [] := List.cons_ne_nil _ _
    simp [Docstring.setLevel, hlines, Row.ofQuoted, hquoted, Row.line, Entry.line]

/-! ## Conditionals -/

theorem placeholder_eq (n : Nat) : placeholder n = Row.written [Row.pass n] := by
  simp [placeholder, Row.pass, Row.line, Entry.line]

theorem renderActions_eq (n : Nat) (actions : List Snippet) :
    renderActions n (actions.map (Snippet.setLevel n)) =
      Row.written (Row.statements (Snippet.suiteOutline n actions)) := by
  simp only [renderActions, Snippet.suiteOutline]
  by_cases hempty : actions = []
  · simp [hempty, placeholder, Entry.line]
  · have haction : (fun action : Snippet => ['\n'] ++ (action.setLevel n).render) =
        fun action => (action.outline n).flatMap fun e => '\n' :: e.line := by
      funext action
      simpa using action.newline_render n
    simp only [hempty, List.map_eq_nil_iff, if_false, List.flatMap_map, Row.written_statements,
      List.flatMap_assoc, haction]

/-- The line of a branch in an outline is the one that the branch writes. -/
theorem Branch.firstLine_eq_keyword (b : Branch) :
    b.firstLine = b.kind.keyword ++ [' '] ++ b.guard.code ++ [':'] := by
  unfold Branch.firstLine
  cases b.kind with
  | opening => rfl
  | alternative => rfl

theorem Branch.render_topDown (n : Nat) (b : Branch) :
    (b.topDown n).render = Row.written (b.rows n) := by
  simp [Branch.render, Branch.topDown, Branch.rows, Branch.outline, Branch.firstLine_eq_keyword,
    renderActions_eq, Entry.line]

/-! ## Renderings that write rows -/

namespace Rendering

theorem prepend_nil (r : Rendering) : prepend [] r = r := by
  cases r with
  | error e => rfl
  | ok t => rfl

/-- The rendering succeeds if and only if the condition holds, and then its text is that of the rows. -/
structure Writes (r : Rendering) (complete : Prop) (rows : List Row) : Prop where
  text : complete → r = .ok (Row.written rows)
  fault : ¬complete → r = .error .missingPrimary

namespace Writes

variable {r s : Rendering} {p q : Prop} {xs ys : List Row}

theorem ok {t : Text} (h : t = Row.written xs) : Writes (.ok t) True xs :=
  ⟨fun _ => congrArg Except.ok h, fun hfalse => absurd trivial hfalse⟩

theorem of_iff (h : r.Writes p xs) (hiff : q ↔ p) : r.Writes q xs :=
  ⟨fun hq => h.text (hiff.1 hq), fun hq => h.fault fun hp => hq (hiff.2 hp)⟩

theorem prepend {t : Text} (ht : t = Row.written xs) (h : r.Writes p ys) :
    (Rendering.prepend t r).Writes p (xs ++ ys) := by
  refine ⟨fun hp => ?_, fun hp => ?_⟩
  · simp only [h.text hp, ht, Row.written_append]
    rfl
  · simp only [h.fault hp]
    rfl

/-- The first fault decides, but all faults are the same. -/
theorem concat_cons {rs : List Rendering} (h : r.Writes p xs) (hs : (concat rs).Writes q ys) :
    (concat (r :: rs)).Writes (p ∧ q) (xs ++ ys) := by
  refine ⟨fun hpq => ?_, fun hpq => ?_⟩
  · simp only [concat, h.text hpq.1, hs.text hpq.2, Row.written_append]
    rfl
  -- Either the fault is in the first rendering, or it is further on.
  · by_cases hp : p
    · simp only [concat, h.text hp, hs.fault fun hq => hpq ⟨hp, hq⟩]
      rfl
    · simp only [h.fault hp]
      rfl

theorem concat_nil : (concat []).Writes True [] := ok rfl

theorem concat_map_append {α : Type} {items : List α} {rendering : α → Rendering}
    {complete : α → Prop} {rows : α → List Row} {rs : List Rendering}
    (h : ∀ x ∈ items, (rendering x).Writes (complete x) (rows x)) (hs : (concat rs).Writes q ys) :
    (concat (items.map rendering ++ rs)).Writes ((∀ x ∈ items, complete x) ∧ q)
      (items.flatMap rows ++ ys) := by
  induction items with
  | nil => exact hs.of_iff (and_iff_right (List.forall_mem_nil _))
  | cons x rest ih =>
    have hrest := ih fun y hy => h y (List.mem_cons_of_mem x hy)
    simp only [List.flatMap_cons, List.append_assoc]
    refine (concat_cons (h x List.mem_cons_self) hrest).of_iff ?_
    simp only [List.forall_mem_cons, and_assoc]

theorem concat_map {α : Type} {items : List α} {rendering : α → Rendering} {complete : α → Prop}
    {rows : α → List Row} (h : ∀ x ∈ items, (rendering x).Writes (complete x) (rows x)) :
    (concat (items.map rendering)).Writes (∀ x ∈ items, complete x) (items.flatMap rows) := by
  have happend := concat_map_append h concat_nil
  simp only [List.append_nil] at happend
  exact happend.of_iff (and_iff_left trivial).symm

end Writes

end Rendering

theorem Chain.render_topDown (n : Nat) (c : Chain) :
    (c.topDown n).render.Writes (c.primary ≠ none) (c.rows n) := by
  rcases c with ⟨_ | opening, elifs, elseActions, level⟩
  -- This is the one place where a rendering can fail.
  · exact ⟨fun h => absurd rfl h, fun _ => rfl⟩
  · refine (Rendering.Writes.ok ?_).of_iff (iff_of_true (Option.some_ne_none _) trivial)
    simp [Chain.rows, Chain.branches, Chain.topDown, Branch.render_topDown, Branch.rows,
      List.flatMap_map, Row.written_flatMap, renderActions_eq, Entry.line]

/-! ## Definitions -/

namespace FunctionDef

theorem header_topDown (n : Nat) (f : FunctionDef) :
    (f.topDown n).header = Row.written (Row.opening (f.headOutline n)) := by
  simp [topDown_eq, header, headOutline, Row.line, Entry.line, List.flatMap_map]

theorem render_topDown {n : Nat} {f : FunctionDef}
    (h : ∀ item ∈ f.items, (item.topDown (n + 1)).renderItem.Writes item.Complete
      (item.rows (n + 1))) :
    (f.topDown n).render.Writes f.Complete (f.rows n) := by
  have hhead := f.header_topDown n
  simp only [render_eq, rows_eq]
  simp only [topDown_eq] at hhead ⊢
  rcases f with ⟨name, params, decorators, _ | items, level⟩
  -- A function without body shows the placeholder and cannot fail.
  · have hpass := Rendering.Writes.ok (placeholder_eq (n + 1))
    refine (hpass.prepend hhead).of_iff (iff_of_true ?_ trivial)
    exact complete_iff.2 (List.forall_mem_nil _)
  · refine (Rendering.Writes.prepend hhead ?_).of_iff complete_iff
    simp only [Option.map_some, List.map_map]
    exact Rendering.Writes.concat_map h

end FunctionDef

namespace ClassDef

theorem signature_eq_firstLine (c : ClassDef) : c.signature = c.firstLine := by
  unfold signature firstLine
  cases c.base with
  | none => simp
  | some base => simp

theorem header_topDown (n : Nat) (c : ClassDef) :
    (c.topDown n).header = Row.written (.blank :: Row.suite (c.headOutline n)) := by
  have hheader : (c.topDown n).header = ['\n', '\n'] ++ tabs n ++ c.signature ++
      c.description.elim [] fun description =>
        ['\n'] ++ tabs (n + 1) ++ inTripleQuotes description := by
    simp only [topDown_eq]
    unfold header
    cases c.description with
    | none => rfl
    | some description => rfl
  simp only [hheader, headOutline, signature_eq_firstLine]
  cases c.description with
  | none => simp [Row.line, Entry.line]
  | some description => simp [Row.line, Entry.line]

theorem initStub_topDown (n : Nat) (c : ClassDef) :
    (c.topDown n).initStub = Row.written (Row.suite (c.initOutline n)) := by
  simp only [topDown_eq, initStub, initOutline]
  by_cases hinit : c.hasInit = true
  · simp [hinit, placeholder, Entry.line]
  · simp [hinit]

theorem variableLines_topDown (n : Nat) (c : ClassDef) :
    (c.topDown n).variableLines = Row.written (Row.statements (c.variablesOutline n)) := by
  simp [topDown_eq, variableLines, variablesOutline, Entry.line, List.flatMap_map]

theorem methods_topDown (n : Nat) (c : ClassDef) :
    (c.topDown n).methods = c.methods.map (MethodDef.topDown (n + 1)) := by
  simp only [topDown_eq]

theorem subclasses_topDown (n : Nat) (c : ClassDef) :
    (c.topDown n).subclasses = c.subclasses.map (ClassDef.topDown (n + 1)) := by
  simp only [topDown_eq]

theorem hasMembers_topDown (n : Nat) (c : ClassDef) : (c.topDown n).hasMembers = c.hasMembers := by
  simp only [topDown_eq]
  simp only [hasMembers, List.isEmpty_map]

theorem hasMembers_eq_false_iff {c : ClassDef} : c.hasMembers = false ↔
    c.hasInit = false ∧ c.methods = [] ∧ c.classVars = [] ∧ c.subclasses = [] := by
  simp [hasMembers, and_assoc]

theorem render_topDown {n : Nat} {c : ClassDef}
    (hmethods : ∀ m ∈ c.methods, (m.topDown (n + 1)).render.Writes m.Complete (m.rows (n + 1)))
    (hsubclasses : ∀ sub ∈ c.subclasses,
      (sub.topDown (n + 1)).render.Writes sub.Complete (sub.rows (n + 1))) :
    (c.topDown n).render.Writes c.Complete (c.rows n) := by
  have hhead := Rendering.Writes.ok (c.header_topDown n)
  have hnewline : ['\n'] = Row.written [.blank] := rfl
  have hend := Rendering.Writes.concat_cons (.ok hnewline) .concat_nil
  rw [render_eq, rows_eq, hasMembers_topDown, complete_iff]
  by_cases hbare : c.hasMembers = false
  -- Without members, there are also none that could fail.
  · have hmembers := hasMembers_eq_false_iff.1 hbare
    have hpass := Rendering.Writes.ok (placeholder_eq (n + 1))
    have hall := Rendering.Writes.concat_cons hhead (Rendering.Writes.concat_cons hpass hend)
    rw [if_pos hmembers, if_neg (by simp [hbare]), level_topDown]
    simpa [hmembers.2.1, hmembers.2.2.2] using hall
  · have hinit := Rendering.Writes.ok (c.initStub_topDown n)
    have hvariables := Rendering.Writes.ok (c.variableLines_topDown n)
    have hmethods' : ∀ m ∈ c.methods, (Rendering.prepend ['\n'] (m.topDown (n + 1)).render).Writes
        m.Complete (.blank :: m.rows (n + 1)) :=
      fun m hm => (hmethods m hm).prepend hnewline
    -- The parts in the order in which the class puts them together.
    have hall := Rendering.Writes.concat_cons hhead <| Rendering.Writes.concat_cons hinit <|
      Rendering.Writes.concat_map_append hmethods' <| Rendering.Writes.concat_cons hvariables <|
      Rendering.Writes.concat_map_append hsubclasses hend
    simp only [if_neg fun h => hbare (hasMembers_eq_false_iff.2 h), if_pos (by simpa using hbare),
      methods_topDown, subclasses_topDown, List.map_map]
    simpa [Function.comp_def] using hall

end ClassDef

/-! ## All constructs -/

namespace Construct

/-- As an item of a body, every construct is written as its rows. -/
theorem renderItem_writes (c : Construct) :
    ∀ n, (c.topDown n).renderItem.Writes c.Complete (c.rows n) := by
  -- Items are the right thing to do the induction on: among them, all kinds keep their distance.
  induction c with
  | snippet s =>
    intro n
    simp only [topDown, Complete, rows, renderItem, render]
    exact .ok (s.newline_render n)
  | comment x =>
    intro n
    simp only [topDown, Complete, rows, renderItem, render]
    exact .ok (x.newline_render n)
  | docstring d =>
    intro n
    simp only [topDown, Complete, rows, renderItem, render]
    exact .ok (d.newline_render n)
  | assignment a =>
    intro n
    simp only [topDown, Complete, rows, renderItem, render]
    exact .ok (a.render_setLevel n)
  | branch b =>
    intro n
    simp only [topDown, Complete, rows, renderItem, render]
    exact .ok (b.render_topDown n)
  | chain c =>
    intro n
    simp only [topDown, Complete, rows, renderItem, isLine, render, Bool.false_eq_true, if_false,
      Rendering.prepend_nil]
    exact c.render_topDown n
  | function f ih =>
    intro n
    simp only [topDown, Complete, rows, renderItem, isLine, render, Bool.false_eq_true, if_false,
      Rendering.prepend_nil]
    exact FunctionDef.render_topDown fun item hitem => ih item hitem (n + 1)
  | method m ih =>
    intro n
    simp only [topDown, Complete, rows, renderItem, isLine, render, Bool.false_eq_true, if_false,
      Rendering.prepend_nil, MethodDef.Complete, MethodDef.rows, MethodDef.topDown_eq,
      MethodDef.render_eq]
    exact FunctionDef.render_topDown fun item hitem => ih item hitem (n + 1)
  | classDef c ihm ihs =>
    intro n
    simp only [topDown, Complete, rows, renderItem, isLine, render, Bool.false_eq_true, if_false,
      Rendering.prepend_nil] at ihm ihs ⊢
    exact ClassDef.render_topDown (fun m hm => ihm m hm (n + 1)) fun sub hsub => ihs sub hsub (n + 1)
  | boxed inner ih =>
    intro n
    -- A box is a bare line if and only if its content is.
    have hitem : (boxed (inner.topDown n)).renderItem = (inner.topDown n).renderItem := by
      rw [renderItem, renderItem, isLine, render]
    simp only [topDown, Complete, rows, hitem]
    exact ih n

end Construct

end Scribe
