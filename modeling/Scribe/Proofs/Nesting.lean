import Scribe.Construct.Nesting
import Scribe.Proofs.Built
import Scribe.Proofs.Outline
import Scribe.Proofs.OwnRows

/-!
# Text forms are well nested

In the text form of a tree that was built, every header has a suite, and nothing but a header makes the
depth go up.

* `Row.WellNested.append`, `Row.Block.header` — how well-nested rows are put together;
* `Construct.nested_rows` — the rows of every construct in such a tree;
* `Construct.Built.text_nested` — the visible lines of the text form.
-/

namespace Scribe

open Text

/-! ## Putting rows together -/

namespace Row

variable {n : Nat} {rows xs ys : List Row}

theorem Suite.append {d : Nat} (h : Suite d xs) (ys : List Row) : Suite d (xs ++ ys) := by
  rcases h with ⟨inner, s, after, rfl, hs⟩
  exact ⟨inner, s, after ++ ys, by simp, hs⟩

theorem wellNested_nil : WellNested n [] where
  first := nofun
  within := List.forall_mem_nil _
  steps := .nil
  suites := fun before r after h => absurd h (by simp)

theorem wellNested_singleton {r : Row} (hdepth : r.depth = n) (hrole : r.role? ≠ some .header) :
    WellNested n [r] where
  first := by simpa using hdepth
  within := List.forall_mem_singleton.2 (Nat.le_of_eq hdepth.symm)
  steps := .singleton r
  suites := by
    intro before x after h hx
    have hmem : x ∈ [r] := h ▸ List.mem_append_right before List.mem_cons_self
    rcases List.mem_singleton.1 hmem with rfl
    exact absurd hx hrole

/-- Well-nested rows do not end in a header, because it would lack its suite. -/
theorem WellNested.last_ne_header (h : WellNested n rows) :
    ∀ r ∈ rows.getLast?, r.role? ≠ some .header := by
  intro r hr hrole
  rcases List.getLast?_eq_some_iff.1 hr with ⟨init, rfl⟩
  rcases h.suites init r [] rfl hrole with ⟨inner, s, after, hnil, _⟩
  exact absurd hnil (by simp)

theorem WellNested.append (hx : WellNested n xs) (hy : WellNested n ys) :
    WellNested n (xs ++ ys) where
  first := by
    intro r hr
    rw [List.head?_append] at hr
    cases hxs : xs.head? with
    | none => exact hy.first r (by simpa [hxs] using hr)
    | some x => exact hx.first r (by simpa [hxs] using hr)
  within := List.forall_mem_append.2 ⟨hx.within, hy.within⟩
  steps := by
    refine hx.steps.append hy.steps fun r hr s hs => ?_
    -- The depth falls back to where it was at first.
    have hrole := hx.last_ne_header r hr
    have hr' := hx.within r (List.mem_of_getLast? hr)
    have hs' := hy.first s hs
    exact ⟨iff_of_false (by omega) hrole, fun hheader => absurd hheader hrole⟩
  suites := by
    intro before r after h hrole
    rcases List.append_eq_append_iff.1 h with ⟨more, rfl, hys⟩ | ⟨more, hxs, hafter⟩
    · exact hy.suites more r after hys hrole
    · cases more with
      | nil => exact hy.suites [] r after hafter.symm hrole
      | cons x rest =>
        rcases List.cons.inj hafter with ⟨rfl, rfl⟩
        exact (hx.suites before r rest hxs hrole).append ys

theorem wellNested_flatMap {α : Type} {items : List α} {rows : α → List Row}
    (h : ∀ x ∈ items, WellNested n (rows x)) : WellNested n (items.flatMap rows) := by
  induction items with
  | nil => exact wellNested_nil
  | cons x rest ih =>
    rcases List.forall_mem_cons.1 h with ⟨hx, hrest⟩
    exact hx.append (ih hrest)

/-- Rows at one depth are well nested if none is a header. -/
theorem wellNested_of_flat (h : ∀ r ∈ rows, r.depth = n ∧ r.role? ≠ some .header) :
    WellNested n rows := by
  have hsingle : WellNested n (rows.flatMap fun r => [r]) := wellNested_flatMap fun r hr =>
    wellNested_singleton (h r hr).1 (h r hr).2
  simpa using hsingle

/-- Well-nested rows that may be a suite: one of them is at their depth and no line of a comment. -/
structure Block (n : Nat) (rows : List Row) : Prop where
  nested : WellNested n rows
  shows : ∃ s ∈ rows, s.depth = n ∧ s.role? ≠ some .remark

theorem Block.append (h : Block n xs) (hy : WellNested n ys) : Block n (xs ++ ys) := by
  rcases h.shows with ⟨s, hs, hshows⟩
  exact ⟨h.nested.append hy, s, List.mem_append_left _ hs, hshows⟩

theorem Block.append_left (h : Block n ys) (hx : WellNested n xs) : Block n (xs ++ ys) := by
  rcases h.shows with ⟨s, hs, hshows⟩
  exact ⟨hx.append h.nested, s, List.mem_append_right _ hs, hshows⟩

/-- Among well-nested parts, one that may be a suite is enough. -/
theorem block_flatMap {α : Type} {items : List α} {rows : α → List Row}
    (hall : ∀ x ∈ items, WellNested n (rows x)) (hsome : ∃ x ∈ items, Block n (rows x)) :
    Block n (items.flatMap rows) := by
  rcases hsome with ⟨x, hx, hblock⟩
  rcases hblock.shows with ⟨s, hs, hshows⟩
  exact ⟨wellNested_flatMap hall, s, List.mem_flatMap.2 ⟨x, hx, hs⟩, hshows⟩

/-- A header in front of a block makes a suite of it. -/
theorem Block.header {r : Row} (h : Block (n + 1) rows) (hdepth : r.depth = n)
    (hrole : r.role? = some .header) : Block n (r :: rows) where
  nested :=
    { first := by simpa using hdepth
      within := List.forall_mem_cons.2
        ⟨Nat.le_of_eq hdepth.symm, fun s hs => Nat.le_of_succ_le (h.nested.within s hs)⟩
      steps := by
        refine List.isChain_cons.2 ⟨fun s hs => ?_, h.nested.steps⟩
        have hs' := h.nested.first s hs
        exact ⟨iff_of_true (by omega) hrole, fun _ => by omega⟩
      suites := by
        intro before x after heq hx
        cases before with
        | nil =>
          rcases List.cons.inj heq with ⟨rfl, rfl⟩
          rcases h.shows with ⟨s, hs, hsdepth, hsrole⟩
          rcases List.append_of_mem hs with ⟨inner, rest, rfl⟩
          -- All lines of the block are further in than the header, so the first ones are no matter.
          refine ⟨inner, s, rest, rfl, fun y hy => ?_, by omega, hsrole⟩
          have hy' := h.nested.within y (List.mem_append_left _ hy)
          omega
        | cons y rest =>
          rcases List.cons.inj heq with ⟨rfl, hrest⟩
          exact h.nested.suites rest x after hrest hx }
  shows := ⟨r, List.mem_cons_self, hdepth, by simp [hrole]⟩

end Row

/-! ## Solid texts -/

namespace Text

theorem isVisible_append {s t : Text} :
    isVisible (s ++ t) = true ↔ isVisible s = true ∨ isVisible t = true := by
  simp [isVisible]

/-- A text is solid if its first character is no blank: a tab is one. -/
theorem isSolid_cons {c : Char} (t : Text) (h : isBlank c = false) : IsSolid (c :: t) := by
  refine ⟨by simp [isVisible, h], fun hhead => ?_⟩
  rcases Option.some.inj hhead with rfl
  exact absurd h (by decide)

theorem isSolid_pass : IsSolid "pass".toList := isSolid_cons _ (by decide)

theorem IsSolid.append {s : Text} (h : s.IsSolid) (t : Text) : IsSolid (s ++ t) := by
  refine ⟨isVisible_append.2 (.inl h.1), ?_⟩
  cases s with
  | nil => exact absurd h.1 (by decide)
  | cons c rest => exact h.2

end Text

/-! ## Visible rows -/

namespace Row

@[simp] theorem visible_append (xs ys : List Row) : visible (xs ++ ys) = visible xs ++ visible ys :=
  List.filter_append xs ys

@[simp] theorem visible_blank (rows : List Row) : visible (blank :: rows) = visible rows := rfl

theorem visible_flatMap {α : Type} (items : List α) (rows : α → List Row) :
    visible (items.flatMap rows) = items.flatMap fun x => visible (rows x) :=
  List.filter_flatMap

/-- An entry stands at its level if its text brings no tabs. -/
theorem depth_entry {role : Role} {e : Entry} (h : e.text.head? ≠ some '\t') :
    (entry role e).depth = e.level := by
  have htabs : ∀ c ∈ tabs e.level, (c == '\t') = true := fun c hc =>
    beq_iff_eq.2 (List.eq_of_mem_replicate hc)
  have htext : e.text.takeWhile (· == '\t') = [] := by
    cases htext : e.text with
    | nil => rfl
    | cons c rest =>
      have hc : c ≠ '\t' := fun heq => h (by rw [htext, heq]; rfl)
      simp [hc]
  simp only [depth, line, Entry.line, Normalizer.depth, List.takeWhile_append_of_pos htabs, htext]
  simp [tabs]

theorem isVisible_entry {role : Role} {e : Entry} (h : e.text.IsSolid) :
    isVisible (entry role e).line = true :=
  isVisible_append.2 (.inr h.1)

theorem visible_entry {role : Role} {e : Entry} (h : e.text.IsSolid) (rows : List Row) :
    visible (entry role e :: rows) = entry role e :: visible rows :=
  List.filter_cons_of_pos (isVisible_entry h)

/-! ## Statements and suites -/

variable {n : Nat}

theorem wellNested_statements {entries : List Entry}
    (h : ∀ e ∈ entries, e.level = n ∧ e.text.head? ≠ some '\t') :
    WellNested n (visible (statements entries)) := by
  refine wellNested_of_flat fun r hr => ?_
  rcases List.mem_map.1 (List.mem_of_mem_filter hr) with ⟨e, he, rfl⟩
  exact ⟨(depth_entry (h e he).2).trans (h e he).1, nofun⟩

theorem block_statements {entries : List Entry} (hne : entries ≠ [])
    (h : ∀ e ∈ entries, e.level = n ∧ e.text.IsSolid) : Block n (visible (statements entries)) := by
  rcases List.exists_mem_of_ne_nil entries hne with ⟨e, he⟩
  refine ⟨wellNested_statements fun x hx => ⟨(h x hx).1, (h x hx).2.2⟩, entry .statement e, ?_, ?_,
    nofun⟩
  · exact List.mem_filter.2 ⟨List.mem_map_of_mem he, isVisible_entry (h e he).2⟩
  · exact (depth_entry (h e he).2.2).trans (h e he).1

theorem block_pass : Block n (visible [pass n]) :=
  @block_statements n [⟨n, "pass".toList⟩] (List.cons_ne_nil _ _)
    (List.forall_mem_singleton.2 ⟨rfl, isSolid_pass⟩)

theorem block_header {e : Entry} {rows : List Row} (hlevel : e.level = n) (hsolid : e.text.IsSolid)
    (h : Block (n + 1) (visible rows)) : Block n (visible (entry .header e :: rows)) := by
  simp only [visible_entry hsolid]
  exact h.header ((depth_entry hsolid.2).trans hlevel) rfl

end Row

/-! ## Comments and docstrings -/

theorem Comment.isSolid_outline {n : Nat} (c : Comment) :
    ∀ e ∈ c.outline n, e.level = n ∧ e.text.IsSolid := by
  intro e he
  rcases outline_cases he with ⟨hlevel, ⟨rest, htext⟩, _⟩
  refine ⟨hlevel, ?_⟩
  rw [htext]
  exact isSolid_cons rest (by decide)

theorem Comment.outline_ne_nil (n : Nat) (c : Comment) : c.outline n ≠ [] := by
  unfold outline
  split
  · exact List.cons_ne_nil _ _
  · rename_i hne
    simpa [lines_eq_nil_iff] using hne

theorem Comment.wellNested_rows {n : Nat} (c : Comment) :
    Row.WellNested n (Row.visible ((c.outline n).map (Row.entry .remark))) := by
  refine Row.wellNested_of_flat fun r hr => ?_
  rcases List.mem_map.1 (List.mem_of_mem_filter hr) with ⟨e, he, rfl⟩
  rcases c.isSolid_outline e he with ⟨hlevel, hsolid⟩
  exact ⟨(Row.depth_entry hsolid.2).trans hlevel, nofun⟩

theorem Comment.visible_rows_ne_nil (n : Nat) (c : Comment) :
    Row.visible ((c.outline n).map (Row.entry .remark)) ≠ [] := by
  rcases List.exists_mem_of_ne_nil _ (c.outline_ne_nil n) with ⟨e, he⟩
  have hvisible : isVisible (Row.entry .remark e).line = true :=
    Row.isVisible_entry (c.isSolid_outline e he).2
  exact List.ne_nil_of_mem (List.mem_filter.2 ⟨List.mem_map_of_mem he, hvisible⟩)

/-- The first line of a docstring has its quotes, and the lines of its text bring no tabs. -/
theorem Docstring.outline_cases {n : Nat} {d : Docstring}
    (h : ∀ line ∈ lines d.text, line.head? ≠ some '\t') :
    (∃ e ∈ d.outline n, e.level = n ∧ e.text.IsSolid) ∧
      ∀ e ∈ d.outline n, e.level = n ∧ e.text.head? ≠ some '\t' := by
  have hquote (t : Text) : IsSolid (tripleQuote ++ t) := isSolid_cons _ (by decide)
  have hquotes : IsSolid tripleQuote := isSolid_cons _ (by decide)
  unfold outline
  split
  · refine ⟨⟨⟨n, tripleQuote⟩, by simp, rfl, hquotes⟩, ?_⟩
    simp only [List.forall_mem_append, List.forall_mem_map, List.forall_mem_singleton]
    exact ⟨⟨⟨trivial, hquotes.2⟩, fun line hline => ⟨trivial, h line hline⟩⟩, trivial, hquotes.2⟩
  · have hline : IsSolid (inTripleQuotes d.text) := by
      simpa only [inTripleQuotes, List.append_assoc] using hquote _
    exact ⟨⟨_, List.mem_singleton_self _, rfl, hline⟩, List.forall_mem_singleton.2 ⟨rfl, hline.2⟩⟩

theorem Docstring.block_rows {n : Nat} {d : Docstring}
    (h : ∀ line ∈ lines d.text, line.head? ≠ some '\t') :
    Row.Block n (Row.visible ((d.outline n).map Row.ofQuoted)) := by
  rcases outline_cases (n := n) h with ⟨⟨e, he, hlevel, hsolid⟩, hall⟩
  have hentry : Row.ofQuoted e = .entry .statement e := by
    refine if_neg fun hempty => ?_
    rw [hempty] at hsolid
    exact absurd hsolid.1 (by decide)
  have hstatement (x : Entry) : (Row.entry .statement x).role? = some .statement := rfl
  refine ⟨Row.wellNested_of_flat fun r hr => ?_, .entry .statement e, ?_, ?_, by simp [hstatement]⟩
  · rcases List.mem_filter.1 hr with ⟨hmem, hvisible⟩
    rcases List.mem_map.1 hmem with ⟨x, hx, rfl⟩
    -- An empty line of the text is not seen.
    by_cases hempty : x.text = []
    · simp [Row.ofQuoted, hempty, Row.line, isVisible] at hvisible
    · simp only [Row.ofQuoted, hempty, if_false]
      exact ⟨(Row.depth_entry (hall x hx).2).trans (hall x hx).1, by simp [hstatement]⟩
  · exact List.mem_filter.2 ⟨List.mem_map.2 ⟨e, he, hentry⟩, Row.isVisible_entry hsolid⟩
  · exact (Row.depth_entry hsolid.2).trans hlevel

/-! ## Conditionals -/

theorem Snippet.block_suiteOutline {n : Nat} {actions : List Snippet}
    (h : ∀ action ∈ actions, action.code.IsSolid) :
    Row.Block n (Row.visible (Row.statements (suiteOutline n actions))) := by
  have hne : suiteOutline n actions ≠ [] := by
    cases actions with
    | nil => exact List.cons_ne_nil _ _
    | cons action rest => simp [suiteOutline, outline]
  exact Row.block_statements hne
    (forall_suiteOutline ⟨rfl, isSolid_pass⟩ fun action haction => ⟨rfl, h action haction⟩)

theorem Branch.isSolid_firstLine (b : Branch) : b.firstLine.IsSolid := by
  unfold firstLine
  cases b.kind with
  | opening => exact isSolid_cons _ (by decide)
  | alternative => exact isSolid_cons _ (by decide)

theorem Branch.block_rows {n : Nat} {b : Branch} (h : ∀ t ∈ b.texts, t.IsSolid) :
    Row.Block n (Row.visible (b.rows n)) := by
  have hactions : ∀ action ∈ b.actions, action.code.IsSolid := fun action haction =>
    h _ (List.mem_cons_of_mem _ (List.mem_map_of_mem haction))
  exact Row.block_header rfl b.isSolid_firstLine (Snippet.block_suiteOutline hactions)

theorem Chain.block_rows {n : Nat} {c : Chain} (h : ∀ t ∈ c.texts, t.IsSolid) :
    Row.Block n (Row.visible (c.rows n)) := by
  simp only [texts, List.forall_mem_append, List.forall_mem_flatMap, List.forall_mem_map] at h
  have hbranches : Row.WellNested n (c.branches.flatMap fun b => Row.visible (b.rows n)) :=
    Row.wellNested_flatMap fun b hb => (Branch.block_rows (h.1 b hb)).nested
  have helse : Row.Block n (Row.visible
      (Row.suite (⟨n, "else:".toList⟩ :: Snippet.suiteOutline (n + 1) c.elseActions))) :=
    Row.block_header rfl (isSolid_cons _ (by decide)) (Snippet.block_suiteOutline h.2)
  simp only [rows, Row.visible_append, Row.visible_flatMap]
  exact helse.append_left hbranches

/-! ## Definitions -/

theorem FunctionDef.HasItemsAndMarks.items_ne_nil {f : FunctionDef} (h : f.HasItemsAndMarks)
    (hbody : f.body ≠ none) : f.items ≠ [] := by
  rcases f with ⟨name, params, decorators, _ | items, level⟩
  · exact absurd rfl hbody
  · exact fun hitems => h.1 (congrArg some hitems)

/-- What an item shows has to be well nested, and what an item shows that is no comment, a block. -/
theorem FunctionDef.block_rows {n : Nat} {f : FunctionDef} (hmade : f.HasItemsAndMarks)
    (htexts : ∀ t ∈ f.texts, t.IsSolid)
    (hitems : f.items ≠ [] → ∃ item ∈ f.items, item.isRemark = false)
    (h : ∀ item ∈ f.items, Row.WellNested (n + 1) (Row.visible (item.rows (n + 1))) ∧
      (item.isRemark = false → Row.Block (n + 1) (Row.visible (item.rows (n + 1))))) :
    Row.Block n (Row.visible (f.rows n)) := by
  simp only [texts, List.forall_mem_append] at htexts
  have hdecorators : Row.WellNested n (Row.visible
      (Row.statements (f.decorators.map fun decorator => ⟨n, decorator⟩))) :=
    Row.wellNested_statements (List.forall_mem_map.2 fun d hd => ⟨rfl, (htexts.2 d hd).2⟩)
  have hbody : Row.Block (n + 1) (Row.visible
      (if f.body = none then [Row.pass (n + 1)]
        else f.items.flatMap (Construct.rows (n + 1)))) := by
    split
    · exact Row.block_pass
    -- The body is there, so it has items, and one of them has something to show.
    · rename_i hsome
      rcases hitems (hmade.items_ne_nil hsome) with ⟨item, hitem, hremark⟩
      simp only [Row.visible_flatMap]
      exact Row.block_flatMap (fun x hx => (h x hx).1) ⟨item, hitem, (h item hitem).2 hremark⟩
  have hdefinition : Row.Block n (Row.visible (.entry .header ⟨n, "def ".toList ++ f.name
      ++ "(".toList ++ commaSeparated f.params ++ "):".toList⟩ ::
        if f.body = none then [Row.pass (n + 1)]
        else f.items.flatMap (Construct.rows (n + 1)))) :=
    Row.block_header rfl (isSolid_cons _ (by decide)) hbody
  simp only [rows_eq, headOutline, Row.opening_concat, List.append_assoc, List.singleton_append,
    Row.visible_append]
  simp only [List.append_assoc] at hdefinition
  exact hdefinition.append_left hdecorators

namespace ClassDef

variable {n : Nat} {c : ClassDef}

theorem isSolid_firstLine (c : ClassDef) : c.firstLine.IsSolid := by
  unfold firstLine
  split
  · exact isSolid_cons _ (by decide)
  · exact isSolid_cons _ (by decide)

/-- Below the line that names the class, there is at most its docstring. -/
theorem suite_headOutline (n : Nat) (c : ClassDef) :
    ∃ docs : List Entry, Row.suite (c.headOutline n) =
        .entry .header ⟨n, c.firstLine⟩ :: Row.statements docs ∧
      ∀ e ∈ docs, e.level = n + 1 ∧ e.text.head? ≠ some '\t' := by
  refine ⟨_, rfl, ?_⟩
  cases c.description with
  | none => exact List.forall_mem_nil _
  | some description =>
    exact List.forall_mem_singleton.2 ⟨rfl, by simp [inTripleQuotes, tripleQuote, quoteMark]⟩

theorem block_initRows (h : c.hasInit = true) :
    Row.Block (n + 1) (Row.visible (Row.suite (c.initOutline n))) := by
  simp only [initOutline, h, if_true]
  exact Row.block_header rfl (isSolid_cons _ (by decide)) Row.block_pass

theorem wellNested_initRows :
    Row.WellNested (n + 1) (Row.visible (Row.suite (c.initOutline n))) := by
  by_cases hinit : c.hasInit = true
  · exact (block_initRows hinit).nested
  · simp only [initOutline, hinit]
    exact Row.wellNested_nil

theorem block_rows (htexts : ∀ t ∈ c.texts, t.IsSolid)
    (hmethods : ∀ m ∈ c.methods, Row.Block (n + 1) (Row.visible (m.rows (n + 1))))
    (hsubclasses : ∀ sub ∈ c.subclasses, Row.Block (n + 1) (Row.visible (sub.rows (n + 1)))) :
    Row.Block n (Row.visible (c.rows n)) := by
  rcases suite_headOutline n c with ⟨docs, hhead, hdocs⟩
  have hvariable : ∀ e ∈ c.variablesOutline n, e.level = n + 1 ∧ e.text.IsSolid := by
    simp only [texts, List.forall_mem_append, List.forall_mem_flatMap, List.forall_mem_cons] at htexts
    refine forall_variablesOutline.2 fun entry hentry => ⟨rfl, ?_⟩
    simpa only [List.append_assoc] using (htexts.2 entry hentry).1.append _
  have hmembers : Row.Block (n + 1) (Row.visible
      (if c.hasInit = false ∧ c.methods = [] ∧ c.classVars = [] ∧ c.subclasses = [] then
        [Row.pass (n + 1)]
      else
        Row.suite (c.initOutline n) ++ c.methods.flatMap (fun m => .blank :: m.rows (n + 1))
          ++ Row.statements (c.variablesOutline n)
          ++ c.subclasses.flatMap (ClassDef.rows (n + 1)))) := by
    split
    · exact Row.block_pass
    · rename_i hbare
      have hinits := wellNested_initRows (n := n) (c := c)
      have hmethods' := Row.wellNested_flatMap fun m hm => (hmethods m hm).nested
      have hvariables := Row.wellNested_statements fun e he =>
        ⟨(hvariable e he).1, (hvariable e he).2.2⟩
      have hsubclasses' := Row.wellNested_flatMap fun sub hsub => (hsubclasses sub hsub).nested
      simp only [Row.visible_append, Row.visible_flatMap, Row.visible_blank]
      -- Whichever kind of member there is, it fills the suite, and the others do no harm.
      simp only [not_and_or, Bool.not_eq_false] at hbare
      rcases hbare with hinit | hne | hne | hne
      · exact (((block_initRows hinit).append hmethods').append hvariables).append hsubclasses'
      · rcases List.exists_mem_of_ne_nil _ hne with ⟨m, hm⟩
        have hblock := Row.block_flatMap (fun m hm => (hmethods m hm).nested) ⟨m, hm, hmethods m hm⟩
        exact ((hblock.append_left hinits).append hvariables).append hsubclasses'
      · have hblock := Row.block_statements (by simpa [variablesOutline] using hne) hvariable
        exact (hblock.append_left (hinits.append hmethods')).append hsubclasses'
      · rcases List.exists_mem_of_ne_nil _ hne with ⟨sub, hsub⟩
        have hblock := Row.block_flatMap (fun sub hsub => (hsubclasses sub hsub).nested)
          ⟨sub, hsub, hsubclasses sub hsub⟩
        exact hblock.append_left ((hinits.append hmethods').append hvariables)
  -- The empty lines around the class are not seen.
  have hlast : Row.WellNested (n + 1) (Row.visible [.blank]) := Row.wellNested_nil
  have hbody := (hmembers.append_left (Row.wellNested_statements hdocs)).append hlast
  simp only [← Row.visible_append] at hbody
  simp only [rows_eq, hhead, List.cons_append, Row.visible_blank]
  exact Row.block_header rfl c.isSolid_firstLine hbody

end ClassDef

/-! ## All constructs -/

namespace Construct

theorem Nestable.isSolid {d : Construct} (h : d.Nestable) : ∀ t ∈ d.texts, t.IsSolid :=
  fun t ht => (h.texts t ht).2

/-- The visible rows of every construct are well nested. There are some, and unless the construct is a
comment, they may be a suite. -/
theorem nested_rows (c : Construct) : (c.Everywhere fun d => d.Nestable ∧ d.WellMade) →
    ∀ n, Row.WellNested n (Row.visible (c.rows n)) ∧ Row.visible (c.rows n) ≠ [] ∧
      (c.isRemark = false → Row.Block n (Row.visible (c.rows n))) := by
  have of_block {n : Nat} {rows : List Row} {p : Prop} (h : Row.Block n rows) :
      Row.WellNested n rows ∧ rows ≠ [] ∧ (p → Row.Block n rows) := by
    rcases h.shows with ⟨s, hs, _⟩
    exact ⟨h.nested, List.ne_nil_of_mem hs, fun _ => h⟩
  induction c with
  | snippet s =>
    intro h n
    simp only [rows]
    exact of_block (Row.block_statements (List.cons_ne_nil _ _)
      (List.forall_mem_singleton.2 ⟨rfl, h.root.1.isSolid _ List.mem_cons_self⟩))
  | assignment a =>
    intro h n
    have hname : a.name.IsSolid := h.root.1.isSolid _ List.mem_cons_self
    simp only [rows]
    refine of_block (Row.block_statements (List.cons_ne_nil _ _)
      (List.forall_mem_singleton.2 ⟨rfl, ?_⟩))
    simpa only [List.append_assoc] using hname.append _
  | comment x =>
    intro h n
    simp only [rows]
    refine ⟨x.wellNested_rows, x.visible_rows_ne_nil n, fun hother => ?_⟩
    cases hother
  | docstring d =>
    intro h n
    simp only [rows]
    exact of_block (Docstring.block_rows h.root.1.docLines)
  | branch b =>
    intro h n
    simp only [rows]
    exact of_block (Branch.block_rows h.root.1.isSolid)
  | chain c =>
    intro h n
    simp only [rows]
    exact of_block (Chain.block_rows h.root.1.isSolid)
  | function f ih =>
    intro h n
    rcases everywhere_function.1 h with ⟨⟨hnest, hmade⟩, hitems⟩
    simp only [rows]
    refine of_block (FunctionDef.block_rows hmade hnest.isSolid hnest.items fun item hitem => ?_)
    have hitem' := ih item hitem (hitems item hitem) (n + 1)
    exact ⟨hitem'.1, hitem'.2.2⟩
  | method m ih =>
    intro h n
    rcases everywhere_method.1 h with ⟨⟨hnest, hmade⟩, hitems⟩
    simp only [rows, MethodDef.rows_eq]
    refine of_block (FunctionDef.block_rows hmade hnest.isSolid hnest.items fun item hitem => ?_)
    have hitem' := ih item hitem (hitems item hitem) (n + 1)
    exact ⟨hitem'.1, hitem'.2.2⟩
  | classDef c ihm ihs =>
    intro h n
    rcases everywhere_classDef.1 h with ⟨hroot, hmethods, hsubclasses⟩
    simp only [rows] at ihm ihs ⊢
    exact of_block (ClassDef.block_rows hroot.1.isSolid
      (fun m hm => (ihm m hm (hmethods m hm) (n + 1)).2.2 rfl)
      fun sub hsub => (ihs sub hsub (hsubclasses sub hsub) (n + 1)).2.2 rfl)
  | boxed inner ih =>
    intro h n
    simp only [rows]
    exact ih (everywhere_boxed.1 h).2 n

/-- The visible lines of the text form of a construct are its visible rows. -/
theorem visibleLines_of_renderFresh {c : Construct} {t : Text}
    (htexts : c.Everywhere fun d => ∀ t ∈ d.texts, '\n' ∉ t) (ht : c.renderFresh = .ok t) :
    visibleLines t = c.visibleRows.map Row.line := by
  have hwrites := c.renderItem_writes c.level
  rcases renderItem_eq_ok (hwrites.text (complete_of_renderFresh ht)) with ⟨u, hu, hvisible⟩
  simp only [renderFresh, restamp_eq_topDown, hu] at ht
  rcases Except.ok.inj ht with rfl
  have hlines : ∀ l ∈ (c.rows c.level).map Row.line, '\n' ∉ l :=
    List.forall_mem_map.2 (newline_not_mem_line htexts)
  calc visibleLines u
      = visibleLines (Row.written (c.rows c.level)) := hvisible
    _ = ([] :: (c.rows c.level).map Row.line).filter isVisible := by
        simp only [visibleLines, Row.written_eq, split_flatMap_newline hlines]
    _ = ((c.rows c.level).map Row.line).filter isVisible :=
        List.filter_cons_of_neg Bool.false_ne_true
    _ = c.visibleRows.map Row.line := List.filter_map

/-- In a tree that was built, with texts that are solid lines and bodies that are more than comments,
the visible lines of the text form are well nested: the first is at the level of the construct and none
is further out; the depth goes up after headers only, and then by one; and each header has a suite,
with a line in it that is not a comment. -/
theorem Built.text_nested {c : Construct} (h : c.Built) (hnest : c.Everywhere Nestable) {t : Text}
    (ht : c.renderFresh = .ok t) :
    visibleLines t = c.visibleRows.map Row.line ∧ c.visibleRows ≠ [] ∧
      Row.WellNested c.level c.visibleRows := by
  have hrows := c.nested_rows (fun d hd => ⟨hnest d hd, h.wellMade d hd⟩) c.level
  have htexts : c.Everywhere fun d => ∀ t ∈ d.texts, '\n' ∉ t :=
    fun d hd t ht => ((hnest d hd).texts t ht).1
  exact ⟨visibleLines_of_renderFresh htexts ht, hrows.2.1, hrows.1⟩

/-- A function with a comment and a chain, the `else` of which has nothing to do. -/
theorem text_nested_of_commented_function :
    let branch := Branch.new { code := "ready".toList } [{ code := "stop()".toList }]
    let chain := ConstructEdit.step (.addBranch branch) (.chain (Chain.new []))
    let c := ConstructEdit.run
      [.inFunction (.push (.comment { text := "Later.".toList })), .inFunction (.push chain)]
      (.function (FunctionDef.new "run".toList []))
    let t := "\ndef run():\n\t# Later.\n\tif ready:\n\t\tstop()\n\telse:\n\t\tpass".toList
    c.Built ∧ c.Everywhere Nestable ∧ c.renderFresh = .ok t ∧
      visibleLines t = c.visibleRows.map Row.line ∧ c.visibleRows ≠ [] ∧
      Row.WellNested c.level c.visibleRows := by
  intro branch chain c t
  have h : c.Built := by
    simp only [c, ConstructEdit.run, List.foldl_cons, List.foldl_nil]
    refine .edit _ (.edit _ (.fresh (.function _ _)) ?_) ?_
    · exact List.forall_mem_singleton.2 (.fresh (.comment _))
    · exact List.forall_mem_singleton.2 (.edit _ (.fresh (.chain _)) (List.forall_mem_nil _))
  have hc : c = .function
      { name := "run".toList
        params := []
        body := some [.comment { text := "Later.".toList, level := 1 },
          .chain
            { primary := some
                { guard := { code := "ready".toList }
                  actions := [{ code := "stop()".toList, level := 2 }]
                  level := 1 }
              elseActions := []
              level := 1 }] } := by
    simp only [c, chain, branch]
    cbv
  have hline {first : Char} {rest : Text} (hfirst : isBlank first = false)
      (hrest : '\n' ∉ first :: rest) : '\n' ∉ first :: rest ∧ IsSolid (first :: rest) :=
    ⟨hrest, isSolid_cons rest hfirst⟩
  have hnest : c.Everywhere Nestable := by
    rw [hc]
    refine everywhere_function.2 ⟨⟨?_, List.forall_mem_nil _, fun _ => ?_⟩, ?_⟩
    · exact List.forall_mem_singleton.2 (hline (by decide) (by decide))
    · exact ⟨_, List.mem_cons_of_mem _ (List.mem_singleton_self _), rfl⟩
    · refine List.forall_mem_cons.2 ⟨everywhere_comment.2 ?_, ?_⟩
      · exact ⟨List.forall_mem_nil _, List.forall_mem_nil _, fun hne => absurd rfl hne⟩
      · refine List.forall_mem_singleton.2 (everywhere_chain.2 ?_)
        refine ⟨List.forall_mem_cons.2 ⟨hline (by decide) (by decide), ?_⟩, List.forall_mem_nil _,
          fun hne => absurd rfl hne⟩
        exact List.forall_mem_singleton.2 (hline (by decide) (by decide))
  have ht : c.renderFresh = .ok t := by
    simp only [renderFresh, restamp_eq_topDown, hc, t]
    cbv
  exact ⟨h, hnest, ht, h.text_nested hnest ht⟩

end Construct

end Scribe
