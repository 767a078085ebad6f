import Scribe.Proofs.Rows
import Scribe.Proofs.VisibleLines

/-!
# Text forms show outlines

The text form of a construct shows exactly the lines of its outline: of its rows, only the empty ones
are no entries of the outline, and nobody sees them.

* `Row.shown` — the visible lines of some rows;
* `Text.Shows` — a text that can be put behind any other and shows given entries;
* `Construct.renderItem_shows` — what an item of a body shows;
* `Construct.renderFresh_shows_outline` — what a construct shows.
-/

namespace Scribe

open Text

/-! ## Entries -/

namespace Entry

@[simp] theorem visibleLines_nil : visibleLines [] = [] := rfl

@[simp] theorem visibleLines_cons (e : Entry) (entries : List Entry) :
    visibleLines (e :: entries) = Text.visibleLines e.line ++ visibleLines entries := rfl

@[simp] theorem visibleLines_append (xs ys : List Entry) :
    visibleLines (xs ++ ys) = visibleLines xs ++ visibleLines ys :=
  List.flatMap_append

/-- Entries that are lines show themselves, as far as there is anything to show. -/
theorem visibleLines_of_not_mem {entries : List Entry} (h : ∀ e ∈ entries, '\n' ∉ e.text) :
    visibleLines entries = (entries.map line).filter isVisible := by
  induction entries with
  | nil => rfl
  | cons e rest ih =>
    have hline : '\n' ∉ e.line := fun hmem => h e List.mem_cons_self (newline_mem_line.1 hmem)
    have hrest := ih fun x hx => h x (List.mem_cons_of_mem e hx)
    simp only [visibleLines_cons, hrest, Text.visibleLines_of_not_mem hline, List.map_cons,
      ← List.filter_append, List.singleton_append]

end Entry

/-! ## What rows show -/

namespace Row

/-- The visible lines of some rows. -/
def shown (rows : List Row) : List Text := rows.flatMap fun r => Text.visibleLines r.line

@[simp] theorem shown_nil : shown [] = [] := rfl

@[simp] theorem shown_cons (r : Row) (rows : List Row) :
    shown (r :: rows) = Text.visibleLines r.line ++ shown rows := rfl

@[simp] theorem shown_append (xs ys : List Row) : shown (xs ++ ys) = shown xs ++ shown ys :=
  List.flatMap_append

theorem opensLine_written (rows : List Row) : OpensLine (written rows) := by
  cases rows with
  | nil => exact .inl rfl
  | cons r rest => exact .inr ⟨_, rfl⟩

theorem visibleLines_written (rows : List Row) : Text.visibleLines (written rows) = shown rows := by
  induction rows with
  | nil => rfl
  | cons r rest ih =>
    simp only [written_cons, List.cons_append, visibleLines_newline,
      visibleLines_append _ (opensLine_written rest), ih, shown_cons]

@[simp] theorem shown_map_entry (role : Role) (entries : List Entry) :
    shown (entries.map (entry role)) = Entry.visibleLines entries := by
  simp only [shown, List.flatMap_map, line, Entry.visibleLines]

@[simp] theorem shown_statements (entries : List Entry) :
    shown (statements entries) = Entry.visibleLines entries :=
  shown_map_entry .statement entries

@[simp] theorem shown_suite (entries : List Entry) :
    shown (suite entries) = Entry.visibleLines entries := by
  cases entries with
  | nil => rfl
  | cons e rest => simp only [suite, shown_cons, shown_statements, line, Entry.visibleLines_cons]

theorem shown_map_ofQuoted (entries : List Entry) :
    shown (entries.map ofQuoted) = Entry.visibleLines entries := by
  induction entries with
  | nil => rfl
  | cons e rest ih =>
    -- An empty line is not indented, but it would not be seen if it were.
    have hline : Text.visibleLines (ofQuoted e).line = Text.visibleLines e.line := by
      simp only [ofQuoted]
      split
      · rename_i hempty
        simp [line, Entry.line, hempty]
      · rfl
    simp only [List.map_cons, shown_cons, hline, ih, Entry.visibleLines_cons]

/-- Rows that show what some entries show, part by part. -/
theorem shown_flatMap {α : Type} {xs : List α} {rows : α → List Row} {entries : α → List Entry}
    (h : ∀ x ∈ xs, shown (rows x) = Entry.visibleLines (entries x)) :
    shown (xs.flatMap rows) = Entry.visibleLines (xs.flatMap entries) := by
  induction xs with
  | nil => rfl
  | cons x rest ih =>
    have hrest := ih fun y hy => h y (List.mem_cons_of_mem x hy)
    simp only [List.flatMap_cons, shown_append, h x List.mem_cons_self, hrest,
      Entry.visibleLines_append]

end Row

/-! ## Rows and outlines -/

namespace FunctionDef

theorem shown_rows {n : Nat} {f : FunctionDef}
    (h : ∀ item ∈ f.items,
      Row.shown (item.rows (n + 1)) = Entry.visibleLines (item.outline (n + 1))) :
    Row.shown (f.rows n) = Entry.visibleLines (f.outline n) := by
  have hhead : Row.shown (Row.opening (f.headOutline n)) = Entry.visibleLines (f.headOutline n) := by
    simp only [headOutline, Row.opening_concat, Row.shown_append, Row.shown_statements,
      Entry.visibleLines_append]
    rfl
  simp only [rows_eq, outline_eq, Row.shown_append, Entry.visibleLines_append, hhead]
  split
  · rfl
  · simp only [Row.shown_flatMap h]

end FunctionDef

namespace Construct

/-- Rows show what the entries of the outline show. -/
theorem shown_rows (c : Construct) :
    ∀ n, Row.shown (c.rows n) = Entry.visibleLines (c.outline n) := by
  induction c with
  | snippet s => intro n; simp only [rows, outline, Row.shown_statements]
  | assignment a => intro n; simp only [rows, outline, Row.shown_statements]
  | comment x => intro n; simp only [rows, outline, Row.shown_map_entry]
  | docstring d => intro n; simp only [rows, outline, Row.shown_map_ofQuoted]
  | branch b => intro n; simp only [rows, outline, Branch.rows, Row.shown_suite]
  | chain c =>
    intro n
    have hbranches : Row.shown (c.branches.flatMap (Branch.rows n)) =
        Entry.visibleLines (c.branches.flatMap (Branch.outline n)) :=
      Row.shown_flatMap fun b _ => Row.shown_suite (b.outline n)
    simp only [rows, outline, Chain.rows, Chain.outline, Row.shown_append, hbranches,
      Row.shown_suite, Entry.visibleLines_append]
  | function f ih =>
    intro n
    simp only [rows, outline]
    exact FunctionDef.shown_rows fun item hitem => ih item hitem (n + 1)
  | method m ih =>
    intro n
    simp only [rows, outline, MethodDef.rows_eq, MethodDef.outline_eq]
    exact FunctionDef.shown_rows fun item hitem => ih item hitem (n + 1)
  | classDef c ihm ihs =>
    intro n
    simp only [rows, outline] at ihm ihs ⊢
    -- The empty lines before the class, before its methods and behind it show nothing.
    have hmethods : Row.shown (c.methods.flatMap fun m => .blank :: m.rows (n + 1)) =
        Entry.visibleLines (c.methods.flatMap (MethodDef.outline (n + 1))) :=
      Row.shown_flatMap fun m hm => ihm m hm (n + 1)
    have hsubclasses : Row.shown (c.subclasses.flatMap (ClassDef.rows (n + 1))) =
        Entry.visibleLines (c.subclasses.flatMap (ClassDef.outline (n + 1))) :=
      Row.shown_flatMap fun sub hsub => ihs sub hsub (n + 1)
    have hblank : Text.visibleLines Row.blank.line = [] := rfl
    simp only [ClassDef.rows_eq, ClassDef.outline_eq]
    split
    · simp [Row.pass, Row.line]
    · simp [hblank, hmethods, hsubclasses]
  | boxed inner ih => intro n; simp only [rows, outline, ih]

end Construct

/-! ## What items show -/

/-- Put behind any text, the text adds the visible lines of some entries. -/
structure Text.Shows (t : Text) (entries : List Entry) : Prop where
  opensLine : t.OpensLine
  visible : visibleLines t = Entry.visibleLines entries

/-- The rendering succeeds if and only if the condition holds, and then its text shows the entries. -/
structure Rendering.Shows (r : Rendering) (complete : Prop) (entries : List Entry) : Prop where
  text : complete → ∃ t, r = .ok t ∧ t.Shows entries
  fault : ¬complete → r = .error .missingPrimary

namespace Construct

/-- As an item of a body, every construct opens a line and shows its outline. -/
theorem renderItem_shows (c : Construct) (n : Nat) :
    (c.topDown n).renderItem.Shows c.Complete (c.outline n) := by
  have hwrites := c.renderItem_writes n
  refine ⟨fun hcomplete => ⟨_, hwrites.text hcomplete, Row.opensLine_written _, ?_⟩, hwrites.fault⟩
  simp only [Row.visibleLines_written, c.shown_rows n]

/-- The newline before an item of a body shows nothing. -/
theorem renderItem_eq_ok {c : Construct} {t : Text} (h : c.renderItem = .ok t) :
    ∃ u, c.render = .ok u ∧ visibleLines u = visibleLines t := by
  simp only [renderItem] at h
  cases hrender : c.render with
  | error e =>
    simp only [hrender] at h
    cases h
  | ok u =>
    simp only [hrender] at h
    refine ⟨u, rfl, ?_⟩
    cases h
    split
    · exact (visibleLines_newline u).symm
    · rfl

theorem renderItem_eq_error {c : Construct} {e : BuildError} (h : c.renderItem = .error e) :
    c.render = .error e := by
  simp only [renderItem] at h
  cases hrender : c.render with
  | error fault =>
    simp only [hrender] at h
    exact h
  | ok u =>
    simp only [hrender] at h
    cases h

/-- There is no text form unless every chain in the tree was opened. -/
theorem complete_of_renderFresh {c : Construct} {t : Text} (h : c.renderFresh = .ok t) :
    c.Complete := by
  refine Classical.byContradiction fun hnot => ?_
  have herror := renderItem_eq_error ((c.renderItem_writes c.level).fault hnot)
  simp only [renderFresh, restamp_eq_topDown, herror] at h
  cases h

/-- The text form of a construct shows exactly the lines of its outline at its level, in order, and
there is one if and only if every chain in the tree was opened. If no text in the tree brings
newlines of its own, the visible entries are the visible lines, one by one. -/
theorem renderFresh_shows_outline (c : Construct) :
    (c.Complete → ∃ t, c.renderFresh = .ok t ∧
      visibleLines t = Entry.visibleLines (c.outline c.level) ∧
      ((∀ e ∈ c.outline c.level, '\n' ∉ e.text) →
        visibleLines t = ((c.outline c.level).map Entry.line).filter isVisible)) ∧
    (¬c.Complete → c.renderFresh = .error .missingPrimary) := by
  -- Stamping is the pass from the own level, so that the lemma on items applies.
  have hitem : c.restamp.renderItem.Shows c.Complete (c.outline c.level) := by
    simp only [restamp_eq_topDown]
    exact c.renderItem_shows c.level
  refine ⟨fun hcomplete => ?_, fun hcomplete => renderItem_eq_error (hitem.fault hcomplete)⟩
  rcases hitem.text hcomplete with ⟨t, ht, hshows⟩
  rcases renderItem_eq_ok ht with ⟨u, hu, hvisible⟩
  have hlines : visibleLines u = Entry.visibleLines (c.outline c.level) :=
    hvisible.trans hshows.visible
  exact ⟨u, hu, hlines, fun hplain => hlines.trans (Entry.visibleLines_of_not_mem hplain)⟩

-- The level that the item holds is of no account.
example : (classDef
    { name := "A".toList
      methods := [{ isStatic := false
                    function := { name := "f".toList, params := ["self".toList]
                                  body := some [.snippet { code := "g()".toList, level := 7 }] } }] }
    ).outline 0 =
      [⟨0, "class A:".toList⟩, ⟨1, "def f(self):".toList⟩, ⟨2, "g()".toList⟩] := by
  cbv

end Construct

end Scribe
