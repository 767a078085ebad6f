import Scribe.Value.WellFormed

/-!
# The text of a value determines the value

The written form of a well-formed value closes whatever it opens, so the commas between the arguments of a
call are the commas that nothing encloses, and the arguments can be told apart. A keyword argument is the
one whose leading name is followed by an equals sign.

* `Text.outerParts_commaSeparated` — the parts of balanced texts with commas between them;
* `Value.WellFormed.balanced` — the written form of a well-formed value is balanced, at any depth;
* `Call.text_eq` — the separators in a call stand between its arguments and nowhere else;
* `Value.text_eq_iff` — well-formed values with the same written form are the same.
-/

namespace Scribe

open Text

/-! ## Balanced texts -/

namespace Text

variable {s : Enclosure} {c : Char} {t u : Text}

theorem balanced_nil : Balanced s [] := fun rest => by
  have hid : ([] ++ · : Text → Text) = id := funext List.nil_append
  rw [hid, List.modifyHead_id, List.nil_append, id]

theorem Balanced.append (ht : Balanced s t) (hu : Balanced s u) : Balanced s (t ++ u) := by
  intro rest
  calc outerParts s (t ++ u ++ rest)
      = outerParts s (t ++ (u ++ rest)) := by simp only [List.append_assoc]
    _ = ((outerParts s rest).modifyHead (u ++ ·)).modifyHead (t ++ ·) := by simp only [ht _, hu _]
    _ = (outerParts s rest).modifyHead (t ++ u ++ ·) := by
      simp only [List.modifyHead_modifyHead, Function.comp_def, List.append_assoc]

/-- A character that is no separator where it stands belongs to the part around it. -/
theorem outerParts_cons (h : c ≠ ',' ∨ s ≠ {}) (rest : Text) :
    outerParts s (c :: rest) = (outerParts (s.after c) rest).modifyHead (c :: ·) := by
  have hinside : ¬(c = ',' ∧ s = {}) := fun hboth => h.elim (· hboth.1) (· hboth.2)
  simp only [outerParts, if_neg hinside]

theorem balanced_of_after_eq (h : ∀ c ∈ t, (c ≠ ',' ∨ s ≠ {}) ∧ s.after c = s) : Balanced s t := by
  induction t with
  | nil => exact balanced_nil
  | cons c rest ih =>
    rcases List.forall_mem_cons.1 h with ⟨⟨hinside, hafter⟩, hrest⟩
    have hfirst : Balanced s [c] := fun more => by
      simp only [List.singleton_append, outerParts_cons hinside, hafter]
    exact hfirst.append (ih hrest)

theorem after_of_isCodeChar (h : isCodeChar c = true) : c ≠ ',' ∧ s.after c = s := by
  have hne (mark : Char) (hmark : isCodeChar mark = false) : c ≠ mark := fun heq => by simp_all
  have hquote : c ≠ apostrophe := hne _ (by decide)
  have hopen : c ≠ '(' := hne _ (by decide)
  have hclose : c ≠ ')' := hne _ (by decide)
  refine ⟨hne _ (by decide), ?_⟩
  simp only [Enclosure.after, if_neg hquote, if_neg hopen, if_neg hclose, ite_self]

theorem balanced_of_isCodeChar (h : ∀ c ∈ t, isCodeChar c = true) : Balanced s t :=
  balanced_of_after_eq fun c hc => by
    have hkeep : c ≠ ',' ∧ s.after c = s := after_of_isCodeChar (h c hc)
    exact ⟨.inl hkeep.1, hkeep.2⟩

/-- Between apostrophes nothing counts but an apostrophe. -/
theorem balanced_inApostrophes {d : Nat} (h : apostrophe ∉ t) :
    Balanced { depth := d } (inApostrophes t) := by
  have hinside : Balanced { quoted := true, depth := d } t :=
    balanced_of_after_eq fun c hc => by
      have hne : c ≠ apostrophe := fun heq => h (heq ▸ hc)
      exact ⟨.inr (by simp), by simp [Enclosure.after, hne]⟩
  intro rest
  have hmark : apostrophe ≠ ',' := by decide
  rw [inApostrophes, List.cons_append, List.cons_append, List.append_assoc, outerParts_cons (.inl hmark)]
  simp only [Enclosure.after, if_pos, Bool.not_false]
  rw [hinside, List.singleton_append, outerParts_cons (.inl hmark)]
  simp [Enclosure.after, List.modifyHead_modifyHead, Function.comp_def]

/-- Inside of parentheses a comma separates nothing on the outside. -/
theorem balanced_inParentheses {d : Nat} (h : Balanced { depth := d + 1 } t) :
    Balanced { depth := d } ('(' :: t ++ [')']) := by
  intro rest
  have hopen : Enclosure.after { depth := d } '(' = { depth := d + 1 } := by
    simp [Enclosure.after, apostrophe]
  have hclose : Enclosure.after { depth := d + 1 } ')' = { depth := d } := by
    simp [Enclosure.after, apostrophe]
  rw [List.cons_append, List.cons_append, List.append_assoc, outerParts_cons (.inl (by decide)), hopen, h,
    List.singleton_append, outerParts_cons (.inl (by decide)), hclose]
  simp [List.modifyHead_modifyHead, Function.comp_def]

theorem balanced_commaSeparated {d : Nat} {ts : List Text}
    (h : ∀ t ∈ ts, Balanced { depth := d + 1 } t) :
    Balanced { depth := d + 1 } (commaSeparated ts) := by
  have hcomma : Balanced { depth := d + 1 } [',', ' '] :=
    balanced_of_after_eq fun c hc => by
      refine ⟨.inr (by simp), ?_⟩
      have hmark : c = ',' ∨ c = ' ' := by simpa using hc
      rcases hmark with rfl | rfl <;> simp [Enclosure.after, apostrophe]
  induction ts with
  | nil => exact balanced_nil
  | cons t rest ih =>
    rcases List.forall_mem_cons.1 h with ⟨ht, hrest⟩
    cases rest with
    | nil => simpa [commaSeparated] using ht
    | cons u more =>
      simp only [commaSeparated, List.intercalate_cons_cons] at ih ⊢
      exact (ht.append hcomma).append (ih hrest)

/-- The parts of balanced texts with separators between them. The blank of a separator stays with the
part that follows. -/
theorem outerParts_commaSeparated {t : Text} {ts : List Text}
    (h : ∀ u ∈ t :: ts, Balanced {} u) :
    outerParts {} (commaSeparated (t :: ts)) = t :: ts.map (' ' :: ·) := by
  induction ts generalizing t with
  | nil =>
    have ht := h t (List.mem_singleton_self t) []
    simpa [commaSeparated, outerParts] using ht
  | cons u more ih =>
    rcases List.forall_mem_cons.1 h with ⟨ht, hrest⟩
    have hsplit : commaSeparated (t :: u :: more) = t ++ ',' :: ' ' :: commaSeparated (u :: more) := by
      simp [commaSeparated, List.intercalate_cons_cons]
    have hblank : outerParts {} (' ' :: commaSeparated (u :: more)) =
        (outerParts {} (commaSeparated (u :: more))).modifyHead (' ' :: ·) :=
      outerParts_cons (.inl (by decide)) _
    rw [hsplit, ht, outerParts, if_pos ⟨rfl, rfl⟩, hblank, ih hrest]
    simp

theorem commaSeparated_eq_nil_iff {ts : List Text} (h : ∀ t ∈ ts, t ≠ []) :
    commaSeparated ts = [] ↔ ts = [] := by
  cases ts with
  | nil => simp [commaSeparated]
  | cons t rest =>
    have ht : t ≠ [] := h t (List.mem_cons_self ..)
    cases rest with
    | nil => simpa [commaSeparated] using ht
    | cons u more => simp [commaSeparated, List.intercalate_cons_cons]

theorem commaSeparated_append {ts us : List Text} (ht : ts ≠ []) (hu : us ≠ []) :
    commaSeparated (ts ++ us) = commaSeparated ts ++ [',', ' '] ++ commaSeparated us := by
  rcases List.exists_cons_of_ne_nil hu with ⟨u, more, rfl⟩
  induction ts with
  | nil => exact absurd rfl ht
  | cons t rest ih =>
    cases rest with
    | nil => simp [commaSeparated, List.intercalate_cons_cons]
    | cons t' rest =>
      simp only [commaSeparated, List.cons_append, List.intercalate_cons_cons] at ih ⊢
      simp only [ih (List.cons_ne_nil _ _), List.append_assoc]

/-- Balanced texts that have something in them can be told apart when separators stand between them. -/
theorem commaSeparated_inj {ts us : List Text} (hts : ∀ t ∈ ts, t ≠ [] ∧ Balanced {} t)
    (hus : ∀ u ∈ us, u ≠ [] ∧ Balanced {} u) (h : commaSeparated ts = commaSeparated us) : ts = us := by
  have hnil : ts = [] ↔ us = [] := by
    rw [← commaSeparated_eq_nil_iff fun t ht => (hts t ht).1, h,
      commaSeparated_eq_nil_iff fun u hu => (hus u hu).1]
  cases ts with
  | nil => exact (hnil.1 rfl).symm
  | cons t ts =>
    cases us with
    | nil => exact absurd (hnil.2 rfl) (List.cons_ne_nil _ _)
    | cons u us =>
      have hparts := outerParts_commaSeparated fun x hx => (hts x hx).2
      rw [h, outerParts_commaSeparated fun x hx => (hus x hx).2] at hparts
      rcases List.cons.inj hparts with ⟨rfl, hrest⟩
      have hcons : Function.Injective (fun x : Text => ' ' :: x) := fun _ _ heq => (List.cons.inj heq).2
      rw [(List.map_inj_right hcons).1 hrest]

/-! ## Leading names -/

theorem IsName.isCodeChar {name : Text} (h : IsName name) : ∀ c ∈ name, isCodeChar c = true :=
  fun c hc => by simp only [Text.isCodeChar, h.2 c hc, Bool.true_or]

/-- A name in front ends at the first character that no name has. -/
theorem IsName.append_cons_inj {mark : Char} {a b : Text} (ha : IsName a) (hb : IsName b)
    (hmark : isNameChar mark = false) (h : a ++ mark :: t = b ++ mark :: u) : a = b ∧ t = u := by
  have hlead {name rest : Text} (hname : IsName name) :
      (name ++ mark :: rest).takeWhile isNameChar = name := by
    rw [List.takeWhile_append_of_pos hname.2, List.takeWhile_cons_of_neg (by simp [hmark]), List.append_nil]
  have hab : a = b := by rw [← hlead ha, h, hlead hb]
  subst hab
  exact ⟨rfl, (List.cons.inj (List.append_cancel_left h)).2⟩

theorem IsName.mark?_append_cons {mark : Char} {name : Text} (h : IsName name)
    (hmark : isNameChar mark = false) : mark? (name ++ mark :: t) = some mark := by
  have hname : name.find? (fun c => !isNameChar c) = none :=
    List.find?_eq_none.2 fun c hc => by simp [h.2 c hc]
  rw [mark?, List.find?_append, hname, Option.none_or, List.find?_cons_of_pos (by simp [hmark])]

theorem mark?_of_isCodeChar (h : ∀ c ∈ t, isCodeChar c = true) {mark : Char}
    (hmark : isCodeChar mark = false) : mark? t ≠ some mark := fun hfound => by
  have hcode : Text.isCodeChar mark = true := h mark (List.mem_of_find?_eq_some hfound)
  rw [hmark] at hcode
  cases hcode

end Text

/-! ## Written forms of values -/

namespace Call

theorem forall_mem_argumentTexts {c : Call} {p : Text → Prop} :
    (∀ t ∈ c.argumentTexts, p t) ↔ (∀ a ∈ c.args, p a) ∧ ∀ entry ∈ c.kwargs, p (namedText entry) := by
  rw [argumentTexts, List.forall_mem_append, List.forall_mem_map]

theorem namedText_ne_nil (entry : Text × Value) : namedText entry ≠ [] := by
  simp [namedText]

theorem balanced_namedText {entry : Text × Value} {s : Enclosure} (hname : IsName entry.1)
    (hval : Balanced s entry.2.text) : Balanced s (namedText entry) := by
  have hmark : Balanced s ['='] :=
    balanced_of_after_eq fun c hc => by
      rw [List.mem_singleton.1 hc]
      exact ⟨.inl (by decide), by simp [Enclosure.after, apostrophe]⟩
  have hfront : Balanced s entry.1 := balanced_of_isCodeChar hname.isCodeChar
  simpa [namedText] using hfront.append (hmark.append hval)

theorem namedText_inj {entry other : Text × Value} (hname : IsName entry.1) (hother : IsName other.1)
    (h : namedText entry = namedText other) : entry.1 = other.1 ∧ entry.2.text = other.2.text :=
  hname.append_cons_inj hother (by decide) h

/-- The separators in a call stand between its arguments and nowhere else. -/
theorem text_eq (c : Call) (h : ∀ a ∈ c.args, a ≠ []) :
    c.text = c.callee ++ ('(' :: commaSeparated c.argumentTexts ++ [')']) := by
  rcases c with ⟨callee, args, kwargs⟩
  have hnamed : ∀ t ∈ kwargs.map namedText, t ≠ [] :=
    List.forall_mem_map.2 fun entry _ => namedText_ne_nil entry
  have hmap : kwargs.map (fun entry => entry.1 ++ ['='] ++ entry.2.text) = kwargs.map namedText :=
    List.map_congr_left fun entry _ => by simp [namedText]
  simp only [Call.text, argumentTexts, hmap, ne_eq, commaSeparated_eq_nil_iff h,
    commaSeparated_eq_nil_iff hnamed]
  by_cases hargs : args = []
  · simp [hargs, commaSeparated]
  by_cases hkw : kwargs.map namedText = []
  · simp [hkw, commaSeparated]
  · simp [hargs, hkw, commaSeparated_append hargs hkw]

end Call

namespace Value

variable {text code : Text} {c d : Call} {v w : Value} {mark : Char}

theorem WellFormed.text_ne_nil (h : v.WellFormed) : v.text ≠ [] := by
  cases h with
  | literal _ => simp [Value.text, inApostrophes]
  | raw hne _ => simpa only [Value.text] using hne
  | call positional _ _ _ _ => simp [Value.text, Call.text]

theorem WellFormed.call_text (h : (Value.call c).WellFormed) :
    c.text = c.callee ++ ('(' :: commaSeparated c.argumentTexts ++ [')']) :=
  c.text_eq fun a ha => by
    rcases h.exists_of_mem_args ha with ⟨v, hv, rfl⟩
    exact hv.text_ne_nil

/-- A well-formed value closes what it opens, and what separates its arguments is enclosed. -/
theorem WellFormed.balanced (h : v.WellFormed) (n : Nat) : Balanced { depth := n } v.text := by
  induction h generalizing n with
  | literal hquote =>
    simpa only [Value.text] using balanced_inApostrophes hquote
  | raw _ hcode =>
    simpa only [Value.text] using balanced_of_isCodeChar hcode
  | @call callee positional kwargs hcallee hpos hnames hvals ihpos ihvals =>
    have hargs : ∀ t ∈ Call.argumentTexts { callee, args := positional.map Value.text, kwargs },
        Balanced { depth := n + 1 } t := by
      rw [Call.forall_mem_argumentTexts, List.forall_mem_map]
      exact ⟨fun v hv => ihpos v hv (n + 1), fun entry hentry =>
        Call.balanced_namedText (hnames entry hentry) (ihvals entry hentry (n + 1))⟩
    rw [Value.text, (WellFormed.call positional hcallee hpos hnames hvals).call_text]
    exact (balanced_of_isCodeChar hcallee.isCodeChar).append
      (balanced_inParentheses (balanced_commaSeparated hargs))

/-! ## The three forms -/

theorem mark?_literal : mark? (Value.literal text).text = some apostrophe := by
  rw [Value.text, inApostrophes]
  rfl

theorem WellFormed.mark?_raw (h : (Value.raw code).WellFormed) (hmark : isCodeChar mark = false) :
    mark? (Value.raw code).text ≠ some mark := by
  rw [Value.text]
  exact mark?_of_isCodeChar (fun _ => h.isCodeChar_of_mem) hmark

theorem WellFormed.mark?_call (h : (Value.call c).WellFormed) : mark? (Value.call c).text = some '(' := by
  rw [Value.text, h.call_text, List.cons_append]
  exact h.isName_callee.mark?_append_cons (by decide)

/-- No value looks like a keyword argument. -/
theorem WellFormed.mark?_ne (h : v.WellFormed) : mark? v.text ≠ some '=' := by
  cases v with
  | literal text => simp [mark?_literal, apostrophe]
  | raw code => exact h.mark?_raw (by decide)
  | call c => simp [h.mark?_call]

/-! ## Reading the arguments back -/

theorem WellFormed.argumentTexts_balanced (h : (Value.call c).WellFormed) :
    ∀ t ∈ c.argumentTexts, t ≠ [] ∧ Balanced {} t := by
  refine Call.forall_mem_argumentTexts.2 ⟨fun a ha => ?_, fun entry hentry => ?_⟩
  · rcases h.exists_of_mem_args ha with ⟨v, hv, rfl⟩
    exact ⟨hv.text_ne_nil, hv.balanced 0⟩
  · have hval := (h.of_mem_kwargs hentry).balanced 0
    exact ⟨Call.namedText_ne_nil entry, Call.balanced_namedText (h.isName_of_mem_kwargs hentry) hval⟩

/-- The two groups of arguments are told apart by what follows the name in front. -/
theorem WellFormed.partition_argumentTexts (h : (Value.call c).WellFormed) :
    c.argumentTexts.partition (mark? · == some '=') = (c.kwargs.map Call.namedText, c.args) := by
  have hargs : ∀ a ∈ c.args, mark? a ≠ some '=' := fun a ha => by
    rcases h.exists_of_mem_args ha with ⟨v, hv, rfl⟩
    exact hv.mark?_ne
  have hnamed : ∀ a ∈ c.kwargs.map Call.namedText, mark? a = some '=' :=
    List.forall_mem_map.2 fun _ hentry => (h.isName_of_mem_kwargs hentry).mark?_append_cons (by decide)
  have hfirst : c.args.filter (mark? · == some '=') = [] :=
    List.filter_eq_nil_iff.2 fun a ha => by simp [hargs a ha]
  have hlast : (c.kwargs.map Call.namedText).filter (not ∘ (mark? · == some '=')) = [] :=
    List.filter_eq_nil_iff.2 fun a ha => by simp [hnamed a ha]
  rw [List.partition_eq_filter_filter, Call.argumentTexts, List.filter_append, List.filter_append, hfirst,
    hlast, List.nil_append, List.append_nil]
  congr 1
  · exact List.filter_eq_self.2 fun a ha => by simp [hnamed a ha]
  · exact List.filter_eq_self.2 fun a ha => by simp [hargs a ha]

/-- The written form of a call gives back the callee and the texts of both groups of arguments. -/
theorem WellFormed.call_text_inj (hc : (Value.call c).WellFormed) (hd : (Value.call d).WellFormed)
    (h : c.text = d.text) :
    c.callee = d.callee ∧ c.args = d.args ∧ c.kwargs.map Call.namedText = d.kwargs.map Call.namedText := by
  rw [hc.call_text, hd.call_text, List.cons_append, List.cons_append] at h
  rcases hc.isName_callee.append_cons_inj hd.isName_callee (by decide) h with ⟨hcallee, hinside⟩
  have htexts : c.argumentTexts = d.argumentTexts :=
    commaSeparated_inj hc.argumentTexts_balanced hd.argumentTexts_balanced (List.append_cancel_right hinside)
  have hparts : (c.kwargs.map Call.namedText, c.args) = (d.kwargs.map Call.namedText, d.args) := by
    rw [← hc.partition_argumentTexts, htexts, hd.partition_argumentTexts]
  exact ⟨hcallee, (Prod.mk.inj hparts).2, (Prod.mk.inj hparts).1⟩

theorem kwargs_eq_of_namedText {xs ys : List (Text × Value)} (hxs : ∀ x ∈ xs, IsName x.1)
    (hys : ∀ y ∈ ys, IsName y.1) (hvals : ∀ x ∈ xs, ∀ y ∈ ys, x.2.text = y.2.text → x.2 = y.2)
    (h : xs.map Call.namedText = ys.map Call.namedText) : xs = ys := by
  induction xs generalizing ys with
  | nil => exact (List.map_eq_nil_iff.1 h.symm).symm
  | cons x xs ih =>
    cases ys with
    | nil => cases h
    | cons y ys =>
      rcases List.cons.inj h with ⟨hhead, htail⟩
      rcases List.forall_mem_cons.1 hxs with ⟨hx, hxs⟩
      rcases List.forall_mem_cons.1 hys with ⟨hy, hys⟩
      rcases Call.namedText_inj hx hy hhead with ⟨hkey, htext⟩
      have hval : x.2 = y.2 := hvals x (List.mem_cons_self ..) y (List.mem_cons_self ..) htext
      have hrest : xs = ys := ih hxs hys
        (fun x hx y hy => hvals x (List.mem_cons_of_mem _ hx) y (List.mem_cons_of_mem _ hy)) htail
      rw [hrest, Prod.ext hkey hval]

/-! ## Values from their texts -/

/-- The written form of a well-formed value determines the value. -/
theorem text_eq_iff (hv : v.WellFormed) (hw : w.WellFormed) : v.text = w.text ↔ v = w := by
  refine ⟨fun h => ?_, fun h => h ▸ rfl⟩
  -- The forms are compared by their marks; arguments of a call are compared by the induction.
  have hmark : mark? v.text = mark? w.text := congrArg mark? h
  induction hv generalizing w with
  | literal _ =>
    rw [mark?_literal] at hmark
    cases w with
    | literal _ =>
      simp only [Value.text, inApostrophes, List.cons_append] at h
      rw [List.append_cancel_right (List.cons.inj h).2]
    | raw _ => exact absurd hmark.symm (hw.mark?_raw (by decide))
    | call _ =>
      rw [hw.mark?_call] at hmark
      cases hmark
  | raw hne hcode =>
    have hv := WellFormed.raw hne hcode
    cases w with
    | literal _ =>
      rw [mark?_literal] at hmark
      exact absurd hmark (hv.mark?_raw (by decide))
    | raw _ =>
      simp only [Value.text] at h
      rw [h]
    | call _ =>
      rw [hw.mark?_call] at hmark
      exact absurd hmark (hv.mark?_raw (by decide))
  | call positional hcallee hpos hnames hvals _ ih =>
    have hv := WellFormed.call positional hcallee hpos hnames hvals
    rw [hv.mark?_call] at hmark
    cases w with
    | literal _ =>
      rw [mark?_literal] at hmark
      cases hmark
    | raw _ => exact absurd hmark.symm (hw.mark?_raw (by decide))
    | call d =>
      simp only [Value.text] at h
      rcases hv.call_text_inj hw h with ⟨hsame, hargs, hnamed⟩
      have hkwargs := kwargs_eq_of_namedText hnames (fun _ => hw.isName_of_mem_kwargs)
        (fun x hx y hy htext => ih x hx (hw.of_mem_kwargs hy) htext (congrArg mark? htext)) hnamed
      cases d with
      | mk callee args kwargs =>
        simp only at hsame hargs hkwargs
        rw [hsame, hargs, hkwargs]

/-- A literal with a comma in it, two calls deep, is not taken for two arguments. -/
theorem text_ne_of_literal_with_comma :
    let nested (positional : List Value) : Value :=
      .call { callee := "f".toList,
              kwargs := [("k".toList, .call { callee := "g".toList, args := positional.map Value.text })] }
    let one := nested [.literal "a, b".toList]
    let two := nested [.raw "a".toList, .raw "b".toList]
    one.WellFormed ∧ two.WellFormed ∧ one.text ≠ two.text := by
  intro nested one two
  have hname (c : Char) (hc : isNameChar c = true) : IsName [c] :=
    ⟨List.cons_ne_nil _ _, fun _ hmem => List.mem_singleton.1 hmem ▸ hc⟩
  have hnested {positional : List Value} (hpos : ∀ v ∈ positional, v.WellFormed) :
      (nested positional).WellFormed :=
    .call [] (hname 'f' rfl) nofun
      (fun entry hentry => List.mem_singleton.1 hentry ▸ hname 'k' rfl)
      (fun entry hentry => List.mem_singleton.1 hentry ▸ .call positional (hname 'g' rfl) hpos nofun nofun)
  have hone : one.WellFormed :=
    hnested fun v hv => List.mem_singleton.1 hv ▸ .literal (by decide)
  have hraw (c : Char) (hc : isNameChar c = true) : (Value.raw [c]).WellFormed :=
    .raw (hname c hc).1 (hname c hc).isCodeChar
  have htwo : two.WellFormed :=
    hnested <| List.forall_mem_cons.2 ⟨hraw 'a' rfl, fun v hv => List.mem_singleton.1 hv ▸ hraw 'b' rfl⟩
  refine ⟨hone, htwo, fun h => ?_⟩
  have heq : one = two := (text_eq_iff hone htwo).1 h
  simp [one, two, nested] at heq

end Value

end Scribe
