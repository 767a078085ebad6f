import Scribe.Proofs.Composition
import Scribe.Proofs.Spacing

/-!
# What the policy decides

A document that is formatted at every write and one that is formatted at the end show the same lines.
They differ in the blank lines between what was written: formatted contents end with a newline, and so
the newline that a construct brings along makes a blank line; contents that wait for the end stop short
of it.

* `ReformatPolicy.settle` — what a write makes of the contents;
* `Document.write_of_appended`, `Document.gaps_cons` — one write, and the blank lines that it makes;
* `Document.finalize_writeAll_spaced` — the finished text of a run;
* `Document.policy_decides_blank_lines` — both policies compared.
-/

namespace Scribe

open Text

/-- The contents that a write leaves of the extended ones. -/
def ReformatPolicy.settle (n : Normalizer) : ReformatPolicy → Text → Text
  | eachWrite, t => n.reformat t
  | onFinalize, t => t

namespace Document

variable {n : Normalizer} {d : Document} {c : Construct} {t : Text}

theorem reformat_settle (n : Normalizer) (policy : ReformatPolicy) (t : Text) :
    n.reformat (policy.settle n t) = n.reformat t := by
  cases policy with
  | eachWrite => exact n.reformat_eq_self (n.isNormal_reformat t)
  | onFinalize => rfl

/-! ## One write -/

theorem exists_of_appended (h : appended? c = some t) :
    ∃ u, c.renderFresh = .ok u ∧ t = trimNewlines (separated c u) := by
  cases hrender : c.renderFresh with
  | error e => simp [appended?, hrender, Except.toOption] at h
  | ok u => exact ⟨u, rfl, by simpa [appended?, hrender, Except.toOption] using h.symm⟩

theorem opensLine_of_appended (h : appended? c = some t) : t.OpensLine := by
  rcases exists_of_appended h with ⟨u, hrender, rfl⟩
  exact opensLine_trimNewlines (opensLine_separated hrender)

theorem write_of_appended (hformatter : d.formatter = n.formatter) (h : appended? c = some t) :
    (d.write c).document = { d with contents := d.policy.settle n (d.contents ++ t) } := by
  rcases exists_of_appended h with ⟨rendered, hrender, rfl⟩
  cases hpolicy : d.policy with
  | onFinalize =>
    simp only [write_onFinalize hpolicy hrender, appendText, ReformatPolicy.settle, hpolicy]
  | eachWrite =>
    have hformatted : d.formatter (d.appendText (separated c rendered)).contents =
        .ok (n.reformat (d.appendText (separated c rendered)).contents) := by
      rw [hformatter]
      rfl
    simp only [write_eachWrite_of_ok hpolicy hrender hformatted, appendText, ReformatPolicy.settle,
      hpolicy]

theorem write_of_not_appended (h : appended? c = none) : (d.write c).document = d := by
  cases hrender : c.renderFresh with
  | error e => rw [write_of_error hrender]
  | ok u => simp [appended?, hrender, Except.toOption] at h

/-- The text that is appended is formatted as the text form of the construct is by itself. -/
theorem reformat_appended (n : Normalizer) (c : Construct) :
    (appended? c).map n.reformat = c.renderFresh.toOption.map n.reformat := by
  simp only [appended?, Option.map_map]
  refine congrArg (Option.map · _) (funext fun t => ?_)
  have htrim : n.reformat (trimNewlines (separated c t)) = n.reformat (separated c t) := by
    obtain ⟨k, hk⟩ := exists_replicate_of_trimNewlines (separated c t)
    calc n.reformat (trimNewlines (separated c t))
        = n.reformat (trimNewlines (separated c t) ++ List.replicate k '\n') :=
          (n.reformat_append_replicate _ k).symm
      _ = n.reformat (separated c t) := by simp only [← hk]
  refine htrim.trans ?_
  simp only [separated]
  split
  · exact n.reformat_newline t
  · rfl

/-! ## A run of writes -/

theorem opensLine_flatten {texts : List Text} (h : ∀ u ∈ texts, u.OpensLine) :
    OpensLine texts.flatten := by
  induction texts with
  | nil => exact .inl rfl
  | cons t rest ih =>
    rcases List.forall_mem_cons.1 h with ⟨ht, hrest⟩
    exact ht.append (ih hrest)

/-- The blank lines before the later texts are those of a run that begins after the first one. -/
theorem gapBefore_cons (n : Normalizer) (policy : ReformatPolicy) (start : Text) {texts : List Text}
    (h : ∀ u ∈ texts, u.OpensLine) :
    policy.gapBefore start (t :: texts) = policy.gapBefore (policy.settle n (start ++ t)) texts := by
  cases policy with
  | onFinalize => simp [ReformatPolicy.gapBefore, ReformatPolicy.settle]
  | eachWrite =>
    cases texts with
    | nil => simp [ReformatPolicy.gapBefore, ReformatPolicy.settle, n.gapAtEnd_reformat]
    | cons u rest =>
      -- Whether there is anything to see does not depend on what was normalized before.
      have hopens := opensLine_flatten h
      have hshown : visibleLines (n.reformat (start ++ t) ++ (u :: rest).flatten) = [] ↔
          visibleLines (start ++ t ++ (u :: rest).flatten) = [] := by
        simp only [visibleLines_append _ hopens, n.visibleLines_reformat, List.append_eq_nil_iff,
          List.map_eq_nil_iff]
      simp only [ReformatPolicy.gapBefore, ReformatPolicy.settle, reduceCtorEq, if_false, hshown]
      simp only [List.flatten_cons (l := t), List.append_assoc]

theorem gaps_cons_eq_mapIdx (n : Normalizer) (policy : ReformatPolicy) (start t : Text)
    (rest : List Text) :
    gaps n policy start (t :: rest) = n.gap (gapAtEnd start) t ::
      rest.mapIdx fun i u => n.gap (policy.gapBefore start (t :: rest.take i)) u := by
  have hfirst : policy.gapBefore start [] = gapAtEnd start := by
    cases policy with
    | onFinalize => exact congrArg gapAtEnd (List.append_nil start)
    | eachWrite => rfl
  simp only [gaps, List.mapIdx_cons, List.take_zero, List.take_succ_cons, hfirst]

theorem gaps_cons (n : Normalizer) (policy : ReformatPolicy) (start : Text) {texts : List Text}
    (h : ∀ u ∈ texts, u.OpensLine) :
    gaps n policy start (t :: texts) =
      n.gap (gapAtEnd start) t :: gaps n policy (policy.settle n (start ++ t)) texts := by
  have hlater (i : Nat) : policy.gapBefore start (t :: texts.take i) =
      policy.gapBefore (policy.settle n (start ++ t)) (texts.take i) :=
    gapBefore_cons n policy start fun u hu => h u (List.mem_of_mem_take hu)
  simp only [gaps_cons_eq_mapIdx, hlater]
  rfl

theorem finalize_of_normalizer (hformatter : d.formatter = n.formatter) :
    d.finalize = .ok (n.reformat d.contents) := by
  simp only [finalize, (shown_reformat hformatter).1]

/-- The finished text of a run, with the blank lines that the policy makes. -/
theorem finalize_writeAll_spaced (hformatter : d.formatter = n.formatter) (cs : List Construct) :
    (d.writeAll cs).1.finalize = .ok (n.reformat d.contents ++
      n.spaced (gaps n d.policy d.contents (cs.filterMap appended?)) (cs.filterMap appended?)) := by
  -- The induction is on the constructs, with the document of any write as the first one.
  induction cs generalizing d with
  | nil =>
    simp only [writeAll, finalize_of_normalizer hformatter]
    exact congrArg Except.ok (List.append_nil _).symm
  | cons c rest ih =>
    simp only [writeAll_cons]
    cases hc : appended? c with
    | none =>
      simp only [write_of_not_appended hc, List.filterMap_cons_none hc]
      exact ih hformatter
    | some t =>
      have hopens : ∀ u ∈ rest.filterMap appended?, OpensLine u := by
        intro u hu
        obtain ⟨c', _, hc'⟩ := List.mem_filterMap.1 hu
        exact opensLine_of_appended hc'
      have hkept : (d.write c).document.formatter = n.formatter := by
        rw [write_of_appended hformatter hc]
        exact hformatter
      have hrest := ih hkept
      simp only [write_of_appended hformatter hc] at hrest ⊢
      rw [hrest, reformat_settle, n.reformat_append _ (opensLine_of_appended hc),
        List.filterMap_cons_some hc, gaps_cons n _ _ hopens]
      simp [Normalizer.spaced]

/-! ## Both policies -/

section Gaps

variable {start : Text} {texts : List Text}

/-- Formatting at every write leaves one newline where waiting leaves whatever the texts end with. -/
theorem gapBefore_eachWrite (h : texts ≠ []) :
    ReformatPolicy.gapBefore start texts .eachWrite =
      (ReformatPolicy.gapBefore start texts .onFinalize).map fun _ => 1 := by
  have hsome := isSome_gapAtEnd (start ++ texts.flatten)
  simp only [ReformatPolicy.gapBefore, h, if_false]
  cases hgap : gapAtEnd (start ++ texts.flatten) with
  | none =>
    have hnone : visibleLines (start ++ texts.flatten) = [] := by simpa [hgap] using hsome
    rw [if_pos hnone]
    rfl
  | some k =>
    have hvisible : visibleLines (start ++ texts.flatten) ≠ [] := by simpa [hgap] using hsome
    rw [if_neg hvisible]
    rfl

/-- A text that brings as many blank lines along as there may be has them before it either way. -/
theorem gaps_eachWrite_of_le (h : ∀ t ∈ texts.tail, n.maxBlankLines ≤ blanksInFront t) :
    gaps n .eachWrite start texts = gaps n .onFinalize start texts := by
  cases texts with
  | nil => rfl
  | cons t rest =>
    simp only [gaps_cons_eq_mapIdx]
    refine congrArg _ (List.mapIdx_eq_mapIdx_iff.2 fun i hi => ?_)
    have hle := h rest[i] (List.getElem_mem hi)
    rw [gapBefore_eachWrite (List.cons_ne_nil _ _)]
    cases ReformatPolicy.gapBefore start (t :: rest.take i) .onFinalize with
    | none => rfl
    | some k =>
      have hlimit (j : Nat) : min (j + blanksInFront rest[i]) n.maxBlankLines = n.maxBlankLines :=
        Nat.min_eq_right (Nat.le_trans hle (Nat.le_add_left _ j))
      simp only [Normalizer.gap, Option.map_some, hlimit]

theorem gapAtEnd_append_flatten (h : ∀ t ∈ texts, t.OpensLine ∧ gapAtEnd t = some 0)
    (hne : texts ≠ []) (start : Text) : gapAtEnd (start ++ texts.flatten) = some 0 := by
  induction texts generalizing start with
  | nil => exact absurd rfl hne
  | cons t rest ih =>
    rcases List.forall_mem_cons.1 h with ⟨⟨hopens, hlast⟩, hrest⟩
    have htail : gapAfter none (split '\n' t).tail = some 0 := by
      rw [gapAtEnd, split_of_opensLine hopens] at hlast
      exact hlast
    have hfirst : gapAtEnd (start ++ t) = some 0 := by
      rw [gapAtEnd_append start hopens]
      exact gapAfter_of_none htail _
    cases rest with
    | nil => simpa using hfirst
    | cons u more =>
      have hmore := ih hrest (List.cons_ne_nil _ _) (start ++ t)
      simpa using hmore

/-- Where every text ends with a visible line, formatting at every write makes one blank line more. -/
theorem tail_gaps_of_visible (h : ∀ t ∈ texts, t.OpensLine ∧ gapAtEnd t = some 0) :
    (gaps n .onFinalize start texts).tail =
        texts.tail.map (fun t => min (blanksInFront t) n.maxBlankLines) ∧
      (gaps n .eachWrite start texts).tail =
        texts.tail.map (fun t => min (blanksInFront t + 1) n.maxBlankLines) := by
  cases texts with
  | nil => exact ⟨rfl, rfl⟩
  | cons t rest =>
    rcases List.forall_mem_cons.1 h with ⟨ht, hrest⟩
    have hgap (i : Nat) : ReformatPolicy.gapBefore start (t :: rest.take i) .onFinalize = some 0 := by
      refine gapAtEnd_append_flatten (List.forall_mem_cons.2 ⟨ht, fun u hu => ?_⟩)
        (List.cons_ne_nil _ _) start
      exact hrest u (List.mem_of_mem_take hu)
    have hvisible : ∀ u ∈ rest, visibleLines u ≠ [] := fun u hu =>
      (isSome_gapAtEnd u).1 (by rw [(hrest u hu).2]; rfl)
    simp only [gaps_cons_eq_mapIdx, List.tail_cons, gapBefore_eachWrite (List.cons_ne_nil _ _), hgap]
    constructor
    all_goals
      refine List.mapIdx_eq_iff.2 fun i => ?_
      rw [List.getElem?_map]
      refine Option.map_congr fun u hu => ?_
      simp [Normalizer.gap, hvisible u (List.mem_of_getElem? hu), Nat.add_comm]

end Gaps

/-- The finished text is the normalized header and then the normalized text of every construct that
has one, under either policy, with as many blank lines between them as the text before and the next
one make together, cut off at the limit. The policy decides only what the text before adds: if
everything is formatted in the end, then what it ends with, and if it was formatted at once, one
newline. Hence the finished texts are the same if and only if these blank lines are, and in particular
if there is at most one text, or if every later one brings the limit along. Where every text ends with a
visible line, formatting at every write makes exactly one blank line more, as far as the limit allows. -/
theorem policy_decides_blank_lines (d : Document) (header : Text) (n : Normalizer)
    (cs : List Construct) :
    let start policy := ((d.setHeader header).setPolicy policy).setFormatter n.formatter
    let finished policy := ((start policy).writeAll cs).1.finalize
    let texts := cs.filterMap appended?
    let blanks policy := gaps n policy (headerLine header) texts
    (∀ policy, finished policy = .ok (n.reformat header ++ n.spaced (blanks policy) texts)) ∧
      texts.map n.reformat = (cs.filterMap fun c => c.renderFresh.toOption).map n.reformat ∧
      (finished .eachWrite = finished .onFinalize ↔ blanks .eachWrite = blanks .onFinalize) ∧
      ((∀ t ∈ texts.tail, n.maxBlankLines ≤ blanksInFront t) →
        finished .eachWrite = finished .onFinalize) ∧
      ((∀ t ∈ texts, gapAtEnd t = some 0) →
        (blanks .onFinalize).tail =
            texts.tail.map (fun t => min (blanksInFront t) n.maxBlankLines) ∧
          (blanks .eachWrite).tail =
            texts.tail.map (fun t => min (blanksInFront t + 1) n.maxBlankLines)) := by
  intro start finished texts blanks
  have hheader : n.reformat (headerLine header) = n.reformat header := by
    simp only [headerLine]
    split
    · rename_i hempty
      rw [hempty]
    · exact n.reformat_append_replicate header 1
  have hfinished (policy : ReformatPolicy) :
      finished policy = .ok (n.reformat header ++ n.spaced (blanks policy) texts) :=
    hheader ▸ finalize_writeAll_spaced (d := start policy) rfl cs
  have hiff : finished .eachWrite = finished .onFinalize ↔ blanks .eachWrite = blanks .onFinalize := by
    rw [hfinished, hfinished]
    refine ⟨fun h => ?_, fun h => by rw [h]⟩
    exact n.spaced_inj (List.append_cancel_left (Except.ok.inj h))
  refine ⟨hfinished, ?_, hiff, fun h => hiff.2 (gaps_eachWrite_of_le h), fun h => ?_⟩
  · simp only [texts, List.map_filterMap, reformat_appended]
  · refine tail_gaps_of_visible fun t ht => ⟨?_, h t ht⟩
    obtain ⟨c, _, hc⟩ := List.mem_filterMap.1 ht
    exact opensLine_of_appended hc

/-- The second text brings along the one blank line that there may be. -/
theorem policy_decides_blank_lines_before_snippet :
    let n : Normalizer := { maxBlankLines := 1 }
    let d := named "a.py".toList
    let cs : List Construct :=
      [.assignment { name := "x".toList, value := .raw "1".toList },
        .snippet { code := "\nf()".toList }]
    let finished policy :=
      ((((d.setHeader "#".toList).setPolicy policy).setFormatter n.formatter).writeAll cs).1.finalize
    let texts := cs.filterMap appended?
    texts = ["\nx = 1".toList, "\n\nf()".toList] ∧
      finished .eachWrite = finished .onFinalize ∧
      (gaps n .onFinalize (headerLine "#".toList) texts).tail = [1] ∧
      (gaps n .eachWrite (headerLine "#".toList) texts).tail = [1] := by
  intro n d cs finished texts
  have htexts : texts = ["\nx = 1".toList, "\n\nf()".toList] := by
    change cs.filterMap appended? = _
    cbv
  have hleading : ∀ t ∈ texts.tail, n.maxBlankLines ≤ blanksInFront t := by
    rw [htexts]
    decide
  have hlast : ∀ t ∈ texts, gapAtEnd t = some 0 := by
    rw [htexts]
    decide
  rcases policy_decides_blank_lines d "#".toList n cs with ⟨_, _, _, hsame, hblanks⟩
  rcases hblanks hlast with ⟨hlate, hearly⟩
  have hlimit : texts.tail.map (fun t => min (blanksInFront t) n.maxBlankLines) = [1] ∧
      texts.tail.map (fun t => min (blanksInFront t + 1) n.maxBlankLines) = [1] := by
    rw [htexts]
    decide
  exact ⟨htexts, hsame hleading, hlate.trans hlimit.1, hearly.trans hlimit.2⟩

/-- Two lines that are kept apart only if each of them is formatted at once. -/
theorem finalize_depends_on_policy :
    let run policy := ((named "a.py".toList).setPolicy policy).writeAll
      [.assignment { name := "x".toList, value := .raw "1".toList },
        .assignment { name := "y".toList, value := .raw "2".toList }]
    (run .eachWrite).2 = [.ok (), .ok ()] ∧ (run .onFinalize).2 = [.ok (), .ok ()] ∧
      (run .eachWrite).1.finalize =
        .ok "# This file was generated by Jenna\n\nx = 1\n\ny = 2\n".toList ∧
      (run .onFinalize).1.finalize =
        .ok "# This file was generated by Jenna\n\nx = 1\ny = 2\n".toList ∧
      (run .eachWrite).1.finalize ≠ (run .onFinalize).1.finalize := by
  intro run
  have hearly : (run .eachWrite).1.finalize =
      .ok "# This file was generated by Jenna\n\nx = 1\n\ny = 2\n".toList := by
    cbv
  have hlate : (run .onFinalize).1.finalize =
      .ok "# This file was generated by Jenna\n\nx = 1\ny = 2\n".toList := by
    cbv
  have hresults (policy : ReformatPolicy) : (run policy).2 = [.ok (), .ok ()] := by
    simp only [run, writeAll]
    cases policy with
    | eachWrite => cbv
    | onFinalize => cbv
  refine ⟨hresults .eachWrite, hresults .onFinalize, hearly, hlate, ?_⟩
  rw [hearly, hlate]
  exact fun h => absurd (Except.ok.inj h) (by decide)

end Document

end Scribe
