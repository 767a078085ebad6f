import Mathlib.Data.List.Basic
import Scribe.Proofs.Built
import Scribe.Proofs.OwnRows

/-!
# A move to another level shifts the text

A construct that is moved further in has the same text form, with more tabs in front of each of its
lines but the empty ones.

* `Construct.rows_add` — the rows at a higher level;
* `Row.shift_written` — what raised rows look like;
* `Construct.Built.text_shifts` — the text form at a higher level.
-/

namespace Scribe

open Text

/-! ## Raised entries -/

def Entry.raise (k : Nat) (e : Entry) : Entry := ⟨e.level + k, e.text⟩

def Row.raise (k : Nat) : Row → Row
  | blank => blank
  | entry role e => entry role (e.raise k)

namespace Row

variable {k : Nat}

@[simp] theorem raise_blank : blank.raise k = blank := rfl

@[simp] theorem raise_pass {n : Nat} : (pass n).raise k = pass (n + k) := rfl

@[simp] theorem map_raise_map_entry {role : Role} {entries : List Entry} :
    (entries.map (entry role)).map (raise k) = (entries.map (Entry.raise k)).map (entry role) := by
  simp only [List.map_map]
  rfl

@[simp] theorem map_raise_statements {entries : List Entry} :
    (statements entries).map (raise k) = statements (entries.map (Entry.raise k)) :=
  map_raise_map_entry

@[simp] theorem map_raise_suite {entries : List Entry} :
    (suite entries).map (raise k) = suite (entries.map (Entry.raise k)) := by
  cases entries with
  | nil => rfl
  | cons e rest => simp only [suite, List.map_cons, map_raise_statements, raise]

@[simp] theorem map_raise_opening {entries : List Entry} :
    (opening entries).map (raise k) = opening (entries.map (Entry.raise k)) := by
  rcases List.eq_nil_or_concat entries with rfl | ⟨init, e, rfl⟩
  · rfl
  · simp only [List.concat_eq_append, List.map_append, List.map_singleton, opening_concat,
      map_raise_statements, raise]

@[simp] theorem map_raise_map_ofQuoted {entries : List Entry} :
    (entries.map ofQuoted).map (raise k) = (entries.map (Entry.raise k)).map ofQuoted := by
  simp only [List.map_map]
  refine List.map_congr_left fun e _ => ?_
  by_cases hempty : e.text = []
  · simp [ofQuoted, Entry.raise, hempty]
  · simp [ofQuoted, Entry.raise, hempty, raise]

end Row

/-! ## Raised outlines -/

section Outlines

variable (n k : Nat)

theorem Snippet.suiteOutline_add (actions : List Snippet) :
    suiteOutline (n + k) actions = (suiteOutline n actions).map (Entry.raise k) := by
  unfold suiteOutline
  split
  · rfl
  · simp only [List.map_flatMap]
    rfl

theorem Comment.outline_add (c : Comment) :
    c.outline (n + k) = (c.outline n).map (Entry.raise k) := by
  unfold outline
  split
  · rfl
  · simp only [List.map_map]
    rfl

theorem Docstring.outline_add (d : Docstring) :
    d.outline (n + k) = (d.outline n).map (Entry.raise k) := by
  unfold outline
  split
  · simp only [List.map_append, List.map_map]
    rfl
  · rfl

theorem Branch.outline_add (b : Branch) :
    b.outline (n + k) = (b.outline n).map (Entry.raise k) := by
  simp only [outline, Nat.add_right_comm n k 1, Snippet.suiteOutline_add, List.map_cons]
  rfl

theorem FunctionDef.headOutline_add (f : FunctionDef) :
    f.headOutline (n + k) = (f.headOutline n).map (Entry.raise k) := by
  simp only [headOutline, List.map_append, List.map_map]
  rfl

theorem ClassDef.headOutline_add (c : ClassDef) :
    c.headOutline (n + k) = (c.headOutline n).map (Entry.raise k) := by
  unfold headOutline
  cases c.description with
  | none => rfl
  | some description => simp [Entry.raise, Nat.add_right_comm n k 1]

theorem ClassDef.initOutline_add (c : ClassDef) :
    c.initOutline (n + k) = (c.initOutline n).map (Entry.raise k) := by
  unfold initOutline
  split
  · simp [Entry.raise, Nat.add_right_comm n k]
  · rfl

theorem ClassDef.variablesOutline_add (c : ClassDef) :
    c.variablesOutline (n + k) = (c.variablesOutline n).map (Entry.raise k) := by
  simp only [variablesOutline, List.map_map, Nat.add_right_comm n k 1]
  rfl

end Outlines

/-! ## Raised rows -/

theorem Branch.rows_add (n k : Nat) (b : Branch) :
    b.rows (n + k) = (b.rows n).map (Row.raise k) := by
  simp only [rows, Row.map_raise_suite, outline_add]

theorem FunctionDef.rows_add {n k : Nat} {f : FunctionDef}
    (h : ∀ item ∈ f.items, item.rows (n + 1 + k) = (item.rows (n + 1)).map (Row.raise k)) :
    f.rows (n + k) = (f.rows n).map (Row.raise k) := by
  simp only [rows_eq, List.map_append, headOutline_add, Row.map_raise_opening,
    Nat.add_right_comm n k 1]
  split
  · rfl
  · simp only [List.map_flatMap]
    exact congrArg _ (List.flatMap_congr h)

namespace Construct

theorem rows_add (k : Nat) (c : Construct) :
    ∀ n, c.rows (n + k) = (c.rows n).map (Row.raise k) := by
  induction c with
  | snippet s => intro n; simp only [rows, Row.map_raise_statements]; rfl
  | assignment a => intro n; simp only [rows, Row.map_raise_statements]; rfl
  | comment x => intro n; simp only [rows, Row.map_raise_map_entry, Comment.outline_add]
  | docstring d => intro n; simp only [rows, Row.map_raise_map_ofQuoted, Docstring.outline_add]
  | branch b => intro n; simp only [rows, Branch.rows_add]
  | chain c =>
    intro n
    have hbranches : c.branches.flatMap (Branch.rows (n + k)) =
        c.branches.flatMap fun b => (b.rows n).map (Row.raise k) :=
      List.flatMap_congr fun b _ => b.rows_add n k
    have helse := Snippet.suiteOutline_add (n + 1) k c.elseActions
    simp only [rows, Chain.rows, List.map_append, List.map_flatMap, Row.map_raise_suite,
      List.map_cons, Nat.add_right_comm n k 1, hbranches, helse]
    rfl
  | function f ih =>
    intro n
    simp only [rows]
    exact FunctionDef.rows_add fun item hitem => ih item hitem (n + 1)
  | method m ih =>
    intro n
    simp only [rows, MethodDef.rows_eq]
    exact FunctionDef.rows_add fun item hitem => ih item hitem (n + 1)
  | classDef c ihm ihs =>
    intro n
    simp only [rows] at ihm ihs ⊢
    have hmethods : c.methods.flatMap (fun m => .blank :: m.rows (n + 1 + k)) =
        c.methods.flatMap fun m => (.blank :: m.rows (n + 1)).map (Row.raise k) :=
      List.flatMap_congr fun m hm => by simp only [ihm m hm (n + 1), List.map_cons, Row.raise_blank]
    have hsubclasses : c.subclasses.flatMap (ClassDef.rows (n + 1 + k)) =
        c.subclasses.flatMap fun sub => (sub.rows (n + 1)).map (Row.raise k) :=
      List.flatMap_congr fun sub hsub => ihs sub hsub (n + 1)
    simp only [c.rows_eq, c.headOutline_add n k, c.initOutline_add n k,
      c.variablesOutline_add n k, Nat.add_right_comm n k 1, hmethods, hsubclasses]
    split
    · simp only [List.map_cons, List.map_append, Row.map_raise_suite, List.map_nil,
        Row.raise_blank, Row.raise_pass]
    · simp only [List.map_cons, List.map_append, List.map_flatMap, Row.map_raise_suite,
        Row.map_raise_statements, List.map_nil, Row.raise_blank]
  | boxed inner ih =>
    intro n
    simp only [rows]
    exact ih n

end Construct

/-! ## Shifted texts -/

namespace Row

variable {k : Nat}

theorem line_raise {r : Row} (h : r.Holds fun e => e.line ≠ []) :
    (r.raise k).line = indentLine k r.line := by
  cases r with
  | blank => rfl
  | entry role e =>
    have hline : e.line ≠ [] := h
    -- The new tabs are put behind the old ones, but tabs are all alike.
    have hraise : (e.raise k).line = tabs k ++ e.line := by
      simp only [Entry.line, Entry.raise, Nat.add_comm e.level k, tabs_add, List.append_assoc]
    simp only [raise, line, hraise, indentLine, hline, if_false]

theorem shift_written {rows : List Row} (hlines : ∀ r ∈ rows, '\n' ∉ r.line)
    (hentries : ∀ r ∈ rows, r.Holds fun e => e.line ≠ []) :
    shift k (written rows) = written (rows.map (raise k)) := by
  calc shift k (written rows)
      = (rows.map line).flatMap fun l => '\n' :: indentLine k l := by
        simp only [written_eq rows, shift_flatMap_newline k (List.forall_mem_map.2 hlines)]
    _ = rows.flatMap fun r => '\n' :: (r.raise k).line := by
        simp only [List.flatMap_map]
        exact List.flatMap_congr fun r hr => congrArg _ (line_raise (hentries r hr)).symm
    _ = written (rows.map (raise k)) := by simp only [written, List.flatMap_map]

end Row

namespace Construct

/-- The newline that a bare line gets as an item is not shifted. -/
theorem render_eq_of_renderItem {c d : Construct} {k : Nat} (hline : d.isLine = c.isLine)
    (h : d.renderItem = c.renderItem.map (shift k)) : d.render = c.render.map (shift k) := by
  simp only [renderItem, hline] at h
  cases hbare : c.isLine with
  | false => simpa only [hbare, Bool.false_eq_true, if_false, Rendering.prepend_nil] using h
  | true =>
    simp only [hbare, if_true, Rendering.prepend] at h
    cases hc : c.render with
    | error fault =>
      cases hd : d.render with
      | error fault' => simpa [hc, hd, Except.map] using h
      | ok u => simp [hc, hd, Except.map] at h
    | ok t =>
      cases hd : d.render with
      | error fault => simp [hc, hd, Except.map] at h
      | ok u => simpa [hc, hd, Except.map, shift_newline] using h

theorem renderItem_topDown_add {c : Construct} (h : c.Built)
    (htexts : c.Everywhere fun d => ∀ t ∈ d.texts, '\n' ∉ t)
    (hroot : ∀ s, c.unboxed = .snippet s → s.code ≠ []) (n k : Nat) :
    (c.topDown (n + k)).renderItem = (c.topDown n).renderItem.map (shift k) := by
  have hlow := c.renderItem_writes n
  have hhigh := c.renderItem_writes (n + k)
  by_cases hcomplete : c.Complete
  · have hshift := Row.shift_written (k := k) (newline_not_mem_line (n := n) htexts)
      (line_ne_nil h.wellMade hroot)
    simp only [hlow.text hcomplete, hhigh.text hcomplete, rows_add, Except.map, hshift]
  -- The same chain is missing its opening branch at any level.
  · simp only [hlow.fault hcomplete, hhigh.fault hcomplete, Except.map]

/-- In a tree that was built, no text of which has newlines of its own, a move to a level that is `k`
higher puts `k` more tabs in front of every line that is not empty, and changes nothing else. If there
is no text form, then for the same reason. Only a bare snippet without code does not show its level. -/
theorem Built.text_shifts {c : Construct} (h : c.Built)
    (htexts : c.Everywhere fun d => ∀ t ∈ d.texts, '\n' ∉ t)
    (hroot : ∀ s, c.unboxed = .snippet s → s.code ≠ []) (n k : Nat) :
    (c.setLevel (n + k)).renderFresh = (c.setLevel n).renderFresh.map (shift k) ∧
      (c.setLevel (n + k)).render = (c.setLevel n).render.map (shift k) := by
  have hline : (c.topDown (n + k)).isLine = (c.topDown n).isLine := by simp only [isLine_topDown]
  have hrender := render_eq_of_renderItem hline (renderItem_topDown_add h htexts hroot n k)
  -- What was moved to a level is stamped as a whole, so that stamping it again does nothing.
  simp only [renderFresh, setLevel_eq_topDown, restamp_eq_topDown, topDown_topDown, level_topDown]
  exact ⟨hrender, hrender⟩

/-- The empty line in the docstring stays empty, and the other lines take their tabs along. -/
theorem text_shifts_of_documented_function :
    let c := ConstructEdit.run
      [.inFunction (.push (.docstring { text := "Runs.\n\nTwice.".toList })),
        .inFunction (.push (.snippet { code := "run()".toList })),
        .inFunction (.decorate "@cached".toList)]
      (.function (FunctionDef.new "f".toList []))
    c.Built ∧ (c.Everywhere fun d => ∀ t ∈ d.texts, '\n' ∉ t) ∧
      (∀ s, c.unboxed = .snippet s → s.code ≠ []) ∧
      (c.setLevel (1 + 2)).renderFresh = (c.setLevel 1).renderFresh.map (shift 2) ∧
      (c.setLevel (1 + 2)).render = (c.setLevel 1).render.map (shift 2) := by
  intro c
  have h : c.Built := by
    simp only [c, ConstructEdit.run, List.foldl_cons, List.foldl_nil]
    refine .edit _ (.edit _ (.edit _ (.fresh (.function _ _)) ?_) ?_) ?_
    · exact List.forall_mem_singleton.2 (.fresh (.docstring _))
    · exact List.forall_mem_singleton.2 (.fresh (.snippet _))
    · exact List.forall_mem_nil _
  have hc : c = .function
      { name := "f".toList
        params := []
        decorators := ["@cached".toList]
        body := some [.docstring { text := "Runs.\n\nTwice.".toList, level := 1 },
          .snippet { code := "run()".toList, level := 1 }] } := by
    simp [c, ConstructEdit.run, ConstructEdit.step, ConstructEdit.apply, FunctionEdit.apply,
      FunctionDef.push, FunctionDef.decorate, FunctionDef.new, FunctionDef.items,
      Docstring.setLevel, Snippet.setLevel, Except.map, Except.toOption]
  have htexts : c.Everywhere fun d => ∀ t ∈ d.texts, '\n' ∉ t := by
    simp [hc, FunctionDef.items, texts, FunctionDef.texts]
  have hroot : ∀ s, c.unboxed = .snippet s → s.code ≠ [] := by
    simp [hc, unboxed]
  exact ⟨h, htexts, hroot, h.text_shifts htexts hroot 1 2⟩

end Construct

end Scribe
