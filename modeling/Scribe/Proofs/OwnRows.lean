import Scribe.Construct.Built
import Scribe.Proofs.Rows

/-!
# Where rows come from

Every row of a tree is a row of one of its constructs, so that what all rows have in common is a matter
of single constructs.

* `Construct.mem_rows` — the construct that a row belongs to, and its level;
* `Row.Holds` — a fact about the entry of a row, if it has one;
* `Construct.newline_not_mem_line`, `Construct.line_ne_nil` — rows are lines, and only rows without an
  entry are empty.
-/

namespace Scribe

open Text

/-! ## The construct of a row -/

theorem FunctionDef.mem_rows {n : Nat} {f : FunctionDef} {r : Row} (h : r ∈ f.rows n) :
    r ∈ Row.opening (f.headOutline n) ++ [Row.pass (n + 1)] ∨
      ∃ item ∈ f.items, r ∈ item.rows (n + 1) := by
  rw [rows_eq] at h
  rcases List.mem_append.1 h with hhead | hbody
  · exact .inl (List.mem_append_left _ hhead)
  · split at hbody
    · exact .inl (List.mem_append_right _ hbody)
    · exact .inr (List.mem_flatMap.1 hbody)

namespace Construct

/-- Every row is an own row of some construct in the tree, which stands further in unless it is the
root without its boxes. -/
theorem mem_rows {r : Row} (c : Construct) : ∀ {n}, r ∈ c.rows n →
    ∃ d m, d.Within c ∧ (n < m ∨ m = n ∧ d = c.unboxed) ∧ r ∈ d.ownRows m := by
  have own {c : Construct} {n : Nat} (hself : c = c.unboxed) (hr : r ∈ c.ownRows n) :
      ∃ d m, d.Within c ∧ (n < m ∨ m = n ∧ d = c.unboxed) ∧ r ∈ d.ownRows m :=
    ⟨c, n, .root, .inr ⟨rfl, hself⟩, hr⟩
  -- A row of a construct below is found there; whatever its level, it is further in than the root.
  have below {c item : Construct} {n : Nat} (hin : ∀ {d : Construct}, d.Within item → d.Within c)
      (h : ∃ d m, d.Within item ∧ (n + 1 < m ∨ m = n + 1 ∧ d = item.unboxed) ∧ r ∈ d.ownRows m) :
      ∃ d m, d.Within c ∧ (n < m ∨ m = n ∧ d = c.unboxed) ∧ r ∈ d.ownRows m := by
    rcases h with ⟨d, m, hd, hm, hr⟩
    exact ⟨d, m, hin hd, .inl (by omega), hr⟩
  induction c with
  | snippet s => exact fun h => own rfl (by simpa only [rows, ownRows] using h)
  | assignment a => exact fun h => own rfl (by simpa only [rows, ownRows] using h)
  | comment x => exact fun h => own rfl (by simpa only [rows, ownRows] using h)
  | docstring d => exact fun h => own rfl (by simpa only [rows, ownRows] using h)
  | branch b => exact fun h => own rfl (by simpa only [rows, ownRows] using h)
  | chain c => exact fun h => own rfl (by simpa only [rows, ownRows] using h)
  | function f ih =>
    intro n h
    simp only [rows] at h
    rcases FunctionDef.mem_rows h with hown | ⟨item, hitem, hr⟩
    · exact own rfl hown
    · exact below (.item hitem) (ih item hitem hr)
  | method m ih =>
    intro n h
    simp only [rows, MethodDef.rows_eq] at h
    rcases FunctionDef.mem_rows h with hown | ⟨item, hitem, hr⟩
    · exact own rfl hown
    · exact below (.methodItem hitem) (ih item hitem hr)
  | classDef c ihm ihs =>
    intro n h
    -- All parts of a class but the members are its own.
    have part (h : r = .blank ∨ r ∈ Row.suite (c.headOutline n) ∨ r = Row.pass (n + 1) ∨
        r ∈ Row.suite (c.initOutline n) ∨ r ∈ Row.statements (c.variablesOutline n)) :=
      own (c := classDef c) (n := n) rfl (by simpa [ownRows, or_assoc] using h)
    simp only [rows] at ihm ihs
    simp only [rows, ClassDef.rows_eq] at h
    split at h
    · simp only [List.mem_append, List.mem_cons, List.not_mem_nil, or_false] at h
      rcases h with ((rfl | hhead) | hpass) | rfl
      · exact part (.inl rfl)
      · exact part (.inr (.inl hhead))
      · exact part (.inr (.inr (.inl hpass)))
      · exact part (.inl rfl)
    · simp only [List.mem_append, List.mem_cons, List.mem_flatMap, List.not_mem_nil, or_false] at h
      rcases h with ((rfl | hhead) | ((hinit | ⟨m, hm, rfl | hr⟩) | hvariables) | ⟨sub, hsub, hr⟩) | rfl
      · exact part (.inl rfl)
      · exact part (.inr (.inl hhead))
      · exact part (.inr (.inr (.inr (.inl hinit))))
      · exact part (.inl rfl)
      · exact below (.member hm) (ihm m hm hr)
      · exact part (.inr (.inr (.inr (.inr hvariables))))
      · exact below (.subclass hsub) (ihs sub hsub hr)
      · exact part (.inl rfl)
  | boxed inner ih =>
    intro n h
    simp only [rows] at h
    rcases ih h with ⟨d, m, hd, hm, hr⟩
    exact ⟨d, m, .boxed hd, hm, hr⟩

end Construct

/-! ## Facts about entries -/

namespace Row

/-- A fact about the entry of a row. An empty line has none. -/
def Holds (p : Entry → Prop) : Row → Prop
  | blank => True
  | entry _ e => p e

variable {p : Entry → Prop}

@[simp] theorem holds_blank : blank.Holds p := trivial

@[simp] theorem holds_entry {role : Role} {e : Entry} : (entry role e).Holds p ↔ p e := Iff.rfl

@[simp] theorem holds_pass {n : Nat} : (pass n).Holds p ↔ p ⟨n, "pass".toList⟩ := Iff.rfl

@[simp] theorem holds_map_entry {role : Role} {entries : List Entry} :
    (∀ r ∈ entries.map (entry role), r.Holds p) ↔ ∀ e ∈ entries, p e := by
  simp only [List.forall_mem_map, holds_entry]

@[simp] theorem holds_statements {entries : List Entry} :
    (∀ r ∈ statements entries, r.Holds p) ↔ ∀ e ∈ entries, p e :=
  holds_map_entry

@[simp] theorem holds_suite {entries : List Entry} :
    (∀ r ∈ suite entries, r.Holds p) ↔ ∀ e ∈ entries, p e := by
  cases entries with
  | nil => simp [suite]
  | cons e rest => simp [suite]

@[simp] theorem holds_opening {entries : List Entry} :
    (∀ r ∈ opening entries, r.Holds p) ↔ ∀ e ∈ entries, p e := by
  rcases List.eq_nil_or_concat entries with rfl | ⟨init, e, rfl⟩
  · simp [opening, statements]
  · simp only [List.concat_eq_append, opening_concat, List.forall_mem_append, holds_statements,
      List.forall_mem_singleton, holds_entry]

/-- An empty text between quotes is no entry. -/
@[simp] theorem holds_map_ofQuoted {entries : List Entry} :
    (∀ r ∈ entries.map ofQuoted, r.Holds p) ↔ ∀ e ∈ entries, e.text ≠ [] → p e := by
  simp only [List.forall_mem_map, ofQuoted]
  refine forall₂_congr fun e _ => ?_
  by_cases hempty : e.text = []
  · simp [hempty]
  · simp [hempty]

end Row

/-! ## Facts about own rows -/

section OwnRows

variable {p : Entry → Prop} {n : Nat}

theorem Snippet.forall_suiteOutline {actions : List Snippet} (hpass : p ⟨n, "pass".toList⟩)
    (h : ∀ action ∈ actions, p ⟨n, action.code⟩) : ∀ e ∈ suiteOutline n actions, p e := by
  unfold suiteOutline
  split
  · exact List.forall_mem_singleton.2 hpass
  · exact List.forall_mem_flatMap.2 fun action haction =>
      List.forall_mem_singleton.2 (h action haction)

theorem FunctionDef.forall_headOutline {f : FunctionDef} :
    (∀ e ∈ f.headOutline n, p e) ↔ (∀ decorator ∈ f.decorators, p ⟨n, decorator⟩) ∧
      p ⟨n, "def ".toList ++ f.name ++ "(".toList ++ commaSeparated f.params ++ "):".toList⟩ := by
  simp only [headOutline, List.forall_mem_append, List.forall_mem_map, List.forall_mem_singleton]

theorem ClassDef.forall_headOutline {c : ClassDef} :
    (∀ e ∈ c.headOutline n, p e) ↔ p ⟨n, c.firstLine⟩ ∧
      ∀ description, c.description = some description →
        p ⟨n + 1, inTripleQuotes description⟩ := by
  cases hdescription : c.description <;> simp [headOutline, hdescription]

theorem ClassDef.forall_initOutline {c : ClassDef} (hheader : p ⟨n + 1, "def __init__(self):".toList⟩)
    (hpass : p ⟨n + 2, "pass".toList⟩) : ∀ e ∈ c.initOutline n, p e := by
  unfold initOutline
  split
  · exact List.forall_mem_cons.2 ⟨hheader, List.forall_mem_singleton.2 hpass⟩
  · exact List.forall_mem_nil _

theorem ClassDef.forall_variablesOutline {c : ClassDef} : (∀ e ∈ c.variablesOutline n, p e) ↔
    ∀ entry ∈ c.classVars, p ⟨n + 1, entry.1 ++ " = ".toList ++ entry.2⟩ := by
  simp only [variablesOutline, List.forall_mem_map]

end OwnRows

/-! ## Rows are lines -/

mutual

/-- The written form of a value is a line if the texts in it are: what is put between them has no
newlines. -/
theorem Value.newline_not_mem_text :
    ∀ v : Value, (∀ t ∈ v.texts, '\n' ∉ t) → '\n' ∉ v.text
  | .literal text, h => by
    simpa [Value.text, Value.texts, inApostrophes, apostrophe] using h
  | .raw code, h => by
    simpa [Value.text, Value.texts] using h
  | .call c, h => by
    rw [Value.text]
    exact Call.newline_not_mem_text c h

theorem Call.newline_not_mem_text :
    ∀ c : Call, (∀ t ∈ c.texts, '\n' ∉ t) → '\n' ∉ c.text
  | ⟨callee, args, kwargs⟩, h => by
    simp only [Call.texts, List.forall_mem_append, List.forall_mem_cons] at h
    have hargs := newline_not_mem_commaSeparated h.1.2
    have hkwargs := newline_not_mem_commaSeparated
      (List.forall_mem_map.2 (Call.newline_not_mem_kwargs kwargs h.2))
    simp only [Call.text]
    split
    · simpa [h.1.1, hargs] using hkwargs
    · simpa [h.1.1, hargs] using hkwargs

theorem Call.newline_not_mem_kwargs :
    ∀ kwargs : List (Text × Value), (∀ t ∈ Call.kwargTexts kwargs, '\n' ∉ t) →
      ∀ entry ∈ kwargs, '\n' ∉ entry.1 ++ ['='] ++ entry.2.text
  | [], _ => List.forall_mem_nil _
  | (key, value) :: rest, h => by
    simp only [Call.kwargTexts, List.forall_mem_append, List.forall_mem_cons] at h
    have hvalue := Value.newline_not_mem_text value h.1.2
    refine List.forall_mem_cons.2 ⟨?_, Call.newline_not_mem_kwargs rest h.2⟩
    simpa [h.1.1] using hvalue

end

theorem Branch.firstLine_ne_nil (b : Branch) : b.firstLine ≠ [] := by
  unfold firstLine
  cases b.kind with
  | opening => simp
  | alternative => simp

namespace Construct

theorem newline_not_mem_branchOutline {m : Nat} {b : Branch} (h : ∀ t ∈ b.texts, '\n' ∉ t) :
    ∀ e ∈ b.outline m, '\n' ∉ e.text := by
  simp only [Branch.texts, List.forall_mem_cons, List.forall_mem_map] at h
  refine List.forall_mem_cons.2 ⟨?_, Snippet.forall_suiteOutline (by simp) h.2⟩
  cases hkind : b.kind with
  | opening => simpa [Branch.firstLine, hkind] using h.1
  | alternative => simpa [Branch.firstLine, hkind] using h.1

theorem newline_not_mem_ownRow {d : Construct} (h : ∀ t ∈ d.texts, '\n' ∉ t) (m : Nat) :
    ∀ r ∈ d.ownRows m, r.Holds fun e => '\n' ∉ e.text := by
  have hfunction {f : FunctionDef} (h : ∀ t ∈ f.texts, '\n' ∉ t) :
      ∀ e ∈ f.headOutline m, '\n' ∉ e.text := by
    simp only [FunctionDef.texts, List.forall_mem_append, List.forall_mem_cons] at h
    have hparams := newline_not_mem_commaSeparated h.1.2
    exact FunctionDef.forall_headOutline.2 ⟨h.2, by simp [h.1.1, hparams]⟩
  cases d with
  | snippet s => simpa [ownRows, Snippet.outline, texts] using h
  | assignment a =>
    rcases List.forall_mem_cons.1 h with ⟨hname, htexts⟩
    have hvalue := a.value.newline_not_mem_text htexts
    simpa [ownRows, Assignment.outline, hname] using hvalue
  | comment c =>
    simp only [ownRows, Row.holds_map_entry]
    exact fun e he => (Comment.outline_cases he).2.2.2
  | docstring d =>
    simp only [ownRows, Row.holds_map_ofQuoted, Docstring.outline]
    -- So is a docstring, unless there is nothing to take apart.
    split
    · simp only [List.forall_mem_append, List.forall_mem_map, List.forall_mem_singleton]
      exact ⟨⟨by decide, fun line hline _ => newline_not_mem_lines line hline⟩, by decide⟩
    · rename_i hplain
      simpa [inTripleQuotes, tripleQuote, quoteMark] using hplain
  | branch b =>
    simp only [ownRows, Branch.rows, Row.holds_suite]
    exact newline_not_mem_branchOutline h
  | chain c =>
    simp only [texts, Chain.texts, List.forall_mem_append, List.forall_mem_flatMap,
      List.forall_mem_map] at h
    simp only [ownRows, Chain.rows, Branch.rows, List.forall_mem_append, List.forall_mem_flatMap,
      Row.holds_suite, List.forall_mem_cons]
    exact ⟨fun b hb => newline_not_mem_branchOutline (h.1 b hb), by simp,
      Snippet.forall_suiteOutline (by simp) h.2⟩
  | function f =>
    simp only [ownRows, List.forall_mem_append, Row.holds_opening, List.forall_mem_singleton,
      Row.holds_pass]
    exact ⟨hfunction h, by simp⟩
  | method x =>
    simp only [ownRows, List.forall_mem_append, Row.holds_opening, List.forall_mem_singleton,
      Row.holds_pass]
    exact ⟨hfunction h, by simp⟩
  | classDef c =>
    simp only [texts, ClassDef.texts, List.forall_mem_append, List.forall_mem_cons,
      List.forall_mem_flatMap] at h
    rcases h with ⟨⟨⟨hname, hbase⟩, hdescription⟩, hvariables⟩
    have hfirst : '\n' ∉ c.firstLine := by
      unfold ClassDef.firstLine
      cases hbase' : c.base with
      | none => simpa using hname
      | some base => simpa [hname] using hbase base (by simp [hbase'])
    simp only [ownRows, List.forall_mem_append, List.forall_mem_cons, Row.holds_suite,
      Row.holds_statements, Row.holds_blank, Row.holds_pass, ClassDef.forall_headOutline,
      ClassDef.forall_variablesOutline]
    refine ⟨⟨⟨⟨trivial, hfirst, fun t ht => ?_⟩, by simp⟩,
      ClassDef.forall_initOutline (by simp) (by simp)⟩, fun entry hentry => ?_⟩
    · simpa [inTripleQuotes, tripleQuote, quoteMark] using hdescription t (by simp [ht])
    · simpa using hvariables entry hentry
  | boxed inner => exact List.forall_mem_nil _

/-- The row of a construct that is further in has its tabs. At the margin, only a bare snippet could be
empty. -/
theorem line_ne_nil_ownRow {d : Construct} {m : Nat} (hmade : d.WellMade)
    (hshows : 0 < m ∨ ∀ s, d = .snippet s → s.code ≠ []) :
    ∀ r ∈ d.ownRows m, r.Holds fun e => e.line ≠ [] := by
  have hline {e : Entry} (h : 0 < e.level ∨ e.text ≠ []) : e.line ≠ [] := by
    simp only [Entry.line, ne_eq, List.append_eq_nil_iff, tabs, List.replicate_eq_nil_iff]
    rintro ⟨hlevel, htext⟩
    exact h.elim (fun hpos => absurd hlevel (Nat.ne_of_gt hpos)) fun hne => hne htext
  have hsuite {actions : List Snippet} :
      ∀ e ∈ Snippet.suiteOutline (m + 1) actions, e.line ≠ [] :=
    Snippet.forall_suiteOutline (hline (.inl m.succ_pos)) fun _ _ => hline (.inl m.succ_pos)
  have hfunction {f : FunctionDef} (hf : f.HasItemsAndMarks) :
      ∀ e ∈ f.headOutline m, e.line ≠ [] := by
    refine FunctionDef.forall_headOutline.2 ⟨fun decorator hd => hline (.inr ?_), hline (by simp)⟩
    rintro rfl
    cases hf.2 [] hd
  cases d with
  | snippet s =>
    simp only [ownRows, Row.holds_statements]
    exact List.forall_mem_singleton.2 (hline (hshows.imp_right fun h => h s rfl))
  | assignment a =>
    simp only [ownRows, Row.holds_statements]
    exact List.forall_mem_singleton.2 (hline (by simp))
  | comment c =>
    simp only [ownRows, Row.holds_map_entry]
    intro e he
    rcases Comment.outline_cases he with ⟨_, ⟨rest, htext⟩, _⟩
    exact hline (.inr (by rw [htext]; exact List.cons_ne_nil _ _))
  | docstring d =>
    simp only [ownRows, Row.holds_map_ofQuoted]
    exact fun e _ htext => hline (.inr htext)
  | branch b =>
    simp only [ownRows, Branch.rows, Row.holds_suite]
    exact List.forall_mem_cons.2 ⟨hline (.inr b.firstLine_ne_nil), hsuite⟩
  | chain c =>
    simp only [ownRows, Chain.rows, Branch.rows, List.forall_mem_append, List.forall_mem_flatMap,
      Row.holds_suite, List.forall_mem_cons]
    exact ⟨fun b _ => List.forall_mem_cons.2 ⟨hline (.inr b.firstLine_ne_nil), hsuite⟩,
      hline (by simp), hsuite⟩
  | function f =>
    simp only [ownRows, List.forall_mem_append, Row.holds_opening, List.forall_mem_singleton]
    exact ⟨hfunction hmade, hline (by simp)⟩
  | method x =>
    simp only [ownRows, List.forall_mem_append, Row.holds_opening, List.forall_mem_singleton]
    exact ⟨hfunction hmade, hline (by simp)⟩
  | classDef c =>
    have hfirst : c.firstLine ≠ [] := by
      unfold ClassDef.firstLine
      split <;> simp
    simp only [ownRows, List.forall_mem_append, List.forall_mem_cons, Row.holds_suite,
      Row.holds_statements, Row.holds_blank, Row.holds_pass, ClassDef.forall_headOutline,
      ClassDef.forall_variablesOutline]
    exact ⟨⟨⟨⟨trivial, hline (.inr hfirst), fun _ _ => hline (by simp)⟩, hline (by simp),
      List.forall_mem_nil _⟩, ClassDef.forall_initOutline (hline (by simp)) (hline (by simp))⟩,
      fun _ _ => hline (by simp)⟩
  | boxed inner => exact List.forall_mem_nil _

/-! ## Rows of trees -/

variable {c : Construct} {n : Nat}

theorem newline_not_mem_line (h : c.Everywhere fun d => ∀ t ∈ d.texts, '\n' ∉ t) :
    ∀ r ∈ c.rows n, '\n' ∉ r.line := by
  intro r hr
  rcases c.mem_rows hr with ⟨d, m, hd, _, hown⟩
  cases r with
  | blank => exact List.not_mem_nil
  | entry role e =>
    have htext := newline_not_mem_ownRow (h d hd) m _ hown
    exact fun hmem => htext (Entry.newline_mem_line.1 hmem)

theorem line_ne_nil (hmade : c.Everywhere WellMade)
    (hroot : ∀ s, c.unboxed = .snippet s → s.code ≠ []) :
    ∀ r ∈ c.rows n, r.Holds fun e => e.line ≠ [] := by
  intro r hr
  rcases c.mem_rows hr with ⟨d, m, hd, hm, hown⟩
  refine line_ne_nil_ownRow (hmade d hd) ?_ r hown
  rcases hm with hbelow | ⟨_, rfl⟩
  · exact .inl (Nat.zero_lt_of_lt hbelow)
  · exact .inr hroot

end Construct

end Scribe
