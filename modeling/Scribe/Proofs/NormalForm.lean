import Scribe.Layout.NormalForm
import Scribe.Proofs.Normalizing

/-!
# Normalized texts are the texts in normal form

What a normalizer leaves is in normal form, and it leaves alone what is in normal form. Both are facts
about the list of the lines that it writes.

* `Normalizer.regularLines_written` — these lines are regular;
* `Normalizer.isNormal_reformat`, `Normalizer.reformat_eq_self` — the two halves;
* `Normalizer.reformat_image_and_fixed_points` — normal forms, fixed points and results are one.
-/

namespace Scribe

open Text

/-! ## Runs of one element -/

section Runs

variable {α : Type} {x r : α} {rest : List α} {k : Nat}

theorem replicate_prefix_le (hr : r ≠ x) :
    ∀ {k j : Nat}, List.replicate k x <+: List.replicate j x ++ r :: rest → k ≤ j := by
  intro k j
  induction j generalizing k with
  | zero =>
    intro h
    cases k with
    | zero => exact Nat.le_refl 0
    | succ k => exact absurd (List.cons_prefix_cons.1 h).1.symm hr
  | succ j ih =>
    intro h
    cases k with
    | zero => exact Nat.zero_le _
    | succ k => exact Nat.succ_le_succ (ih (List.cons_prefix_cons.1 h).2)

/-- A run is in front of the element that breaks it off, or behind. -/
theorem replicate_infix_cases (hr : r ≠ x) {j : Nat} :
    List.replicate k x <:+: List.replicate j x ++ r :: rest →
      k ≤ j ∨ List.replicate k x <:+: rest := by
  induction j with
  | zero =>
    intro h
    rcases List.infix_cons_iff.1 h with hprefix | hinfix
    · exact .inl (replicate_prefix_le (j := 0) hr hprefix)
    · exact .inr hinfix
  | succ j ih =>
    intro h
    rcases List.infix_cons_iff.1 h with hprefix | hinfix
    · exact .inl (replicate_prefix_le (j := j + 1) hr hprefix)
    · exact (ih hinfix).imp_left Nat.le_succ_of_le

end Runs

namespace Normalizer

variable (n : Normalizer)

/-! ## The lines that are written -/

theorem restyle_ne_nil {line : Text} (h : isVisible line = true) : n.restyle line ≠ [] :=
  List.append_ne_nil_of_right_ne_nil _ (trimEnd_content h).2

/-- Nothing is written before the first visible line. -/
theorem head?_written (ls : List Text) : (n.written none ls).head? ≠ some [] := by
  induction ls with
  | nil => simp [written]
  | cons line rest ih =>
    simp only [written, Option.map_none, Option.getD_none, Nat.zero_min]
    split
    · rename_i hvisible
      simpa using n.restyle_ne_nil hvisible
    · exact ih

/-- Empty lines are written only together with a visible line behind them. -/
theorem getLast?_written (gap : Option Nat) (ls : List Text) :
    (n.written gap ls).getLast? ≠ some [] := by
  induction ls generalizing gap with
  | nil => simp [written]
  | cons line rest ih =>
    simp only [written]
    split
    · rename_i hvisible
      cases hlast : (n.written (some 0) rest).getLast? with
      | none => simpa [hlast, List.getLast?_cons] using n.restyle_ne_nil hvisible
      | some row =>
        have hrow := ih (some 0)
        simpa [hlast, List.getLast?_cons] using hrow
    · exact ih _

/-- A run of empty lines comes from one gap, which is cut off at the limit. -/
theorem runs_written {gap : Option Nat} {ls : List Text} {k : Nat}
    (h : List.replicate k [] <:+: n.written gap ls) : k ≤ n.maxBlankLines := by
  induction ls generalizing gap with
  | nil =>
    have hk : k = 0 := by simpa [written] using h
    exact hk ▸ Nat.zero_le _
  | cons line rest ih =>
    simp only [written] at h
    split at h
    · rename_i hvisible
      rcases replicate_infix_cases (n.restyle_ne_nil hvisible) h with hgap | hrest
      · exact Nat.le_trans hgap (Nat.min_le_right _ _)
      · exact ih hrest
    · exact ih h

/-! ## Results are in normal form -/

theorem head?_content_ne_tab (line : Text) : (content line).head? ≠ some '\t' := by
  intro h
  have htab := List.head?_dropWhile_not (· == '\t') line
  simp only [content] at h
  simp [h] at htab

/-- Where tabs are replaced, none is left at the front of a line. -/
theorem head?_restyle_ne_tab {n : Normalizer} {width : Nat} (h : n.indent = .spaces width)
    (line : Text) : (n.restyle line).head? ≠ some '\t' := by
  intro htab
  simp only [restyle, h] at htab
  -- Either there were no tabs, or a space now stands in the place of the first one.
  cases hdepth : depth (trimEnd line) with
  | zero =>
    simp only [hdepth, Indent.repeated_zero, List.nil_append] at htab
    exact head?_content_ne_tab _ htab
  | succ k =>
    obtain ⟨rest, hrest⟩ := Indent.exists_repeated_spaces_succ width k
    simp [hdepth, hrest] at htab

theorem regularLines_written (s : Text) : n.RegularLines (n.written none (lines s)) where
  first := n.head?_written (lines s)
  last := n.getLast?_written none (lines s)
  trimmed := by
    intro row hrow c hc
    rcases n.mem_written hrow with rfl | ⟨line, _, hvisible, rfl⟩
    · cases hc
    · have htrim := n.trimEnd_restyle hvisible
      exact isBlank_of_getLast?_trimEnd (htrim.symm ▸ hc)
  runs := fun k hk => n.runs_written hk
  untabbed := by
    intro width hindent row hrow
    rcases n.mem_written hrow with rfl | ⟨line, _, _, rfl⟩
    · exact nofun
    · exact head?_restyle_ne_tab hindent line

/-- Terminated lines are a text whose parts they are. -/
theorem exists_body_of_terminated {rows : List Text} (hne : rows ≠ [])
    (h : ∀ row ∈ rows, '\n' ∉ row) :
    ∃ body, terminated rows = body ++ ['\n'] ∧ split '\n' body = rows := by
  obtain ⟨init, last, rfl⟩ : ∃ init last, rows = init ++ [last] :=
    ⟨_, _, (List.dropLast_concat_getLast hne).symm⟩
  have hbody : terminated (init ++ [last]) = (terminated init ++ last) ++ ['\n'] := by
    simp [terminated_append]
  refine ⟨terminated init ++ last, hbody, ?_⟩
  have hsplit := split_terminated h
  simp only [hbody, split_append_cons] at hsplit
  exact List.append_cancel_right hsplit

theorem isNormal_reformat (s : Text) : n.IsNormal (n.reformat s) := by
  have hlines : ∀ row ∈ n.written none (lines s), '\n' ∉ row :=
    n.newline_not_mem_written newline_not_mem_lines none
  simp only [reformat_eq_written]
  by_cases hnil : n.written none (lines s) = []
  · exact .inl (by simp only [hnil, terminated_nil])
  · rcases exists_body_of_terminated hnil hlines with ⟨body, hbody, hsplit⟩
    refine .inr ⟨body, hbody, ?_⟩
    simp only [hsplit]
    exact n.regularLines_written s

/-! ## Normal forms are left alone -/

/-- A line that trails no blanks and needs no other indentation is its own form. -/
theorem restyle_eq_self {row : Text} (htrim : trimEnd row = row)
    (hindent : ∀ width, n.indent = .spaces width → row.head? ≠ some '\t') :
    n.restyle row = row := by
  simp only [restyle, htrim]
  cases h : n.indent with
  | tab =>
    simp only [Indent.repeated_tab]
    exact tabs_depth_append_content row
  | spaces width =>
    -- There is no tab that could be counted.
    have hhead := hindent width h
    cases row with
    | nil => rfl
    | cons c rest =>
      have hc : (c == '\t') = false := by simpa using hhead
      simp [depth, content, hc]

/-- Regular lines behind a gap are written as they stand, and the gap in full. -/
theorem written_eq_append {g : Nat} {rows : List Text} (hne : rows ≠ [])
    (hlast : rows.getLast? ≠ some [])
    (hruns : ∀ k, List.replicate k [] <:+: List.replicate g [] ++ rows → k ≤ n.maxBlankLines)
    (hself : ∀ row ∈ rows, trimEnd row = row ∧ n.restyle row = row) :
    n.written (some g) rows = List.replicate g [] ++ rows := by
  induction rows generalizing g with
  | nil => exact absurd rfl hne
  | cons row rest ih =>
    rcases List.forall_mem_cons.1 hself with ⟨⟨htrim, hform⟩, hrest⟩
    by_cases hempty : row = []
    · -- An empty line lengthens the gap, and another line must follow it.
      subst hempty
      have hgap : List.replicate g [] ++ [] :: rest = List.replicate (g + 1) ([] : Text) ++ rest := by
        simp [List.replicate_succ']
      have hrestne : rest ≠ [] := by
        rintro rfl
        exact hlast rfl
      simp only [hgap] at hruns ⊢
      have hlast' : rest.getLast? ≠ some [] := by
        rwa [List.getLast?_cons_of_ne_nil hrestne] at hlast
      exact ih hrestne hlast' hruns hrest
    · have hvisible : isVisible row = true := isVisible_iff.2 (by rwa [htrim])
      have hle : g ≤ n.maxBlankLines := hruns g (List.prefix_append _ _).isInfix
      simp only [written, hvisible, if_true, Option.getD_some, Nat.min_eq_left hle, hform]
      by_cases hnil : rest = []
      · simp [hnil, written]
      · have hlast' : rest.getLast? ≠ some [] := by
          rwa [List.getLast?_cons_of_ne_nil hnil] at hlast
        have hruns' : ∀ k, List.replicate k [] <:+: List.replicate 0 [] ++ rest →
            k ≤ n.maxBlankLines := by
          intro k hk
          exact hruns k (hk.trans ⟨List.replicate g [] ++ [row], [], by simp⟩)
        have hih := ih hnil hlast' hruns' hrest
        simp [hih]

theorem reformat_eq_self {t : Text} (h : n.IsNormal t) : n.reformat t = t := by
  rcases h with rfl | ⟨body, rfl, hregular⟩
  · rfl
  · have hself : ∀ row ∈ split '\n' body, trimEnd row = row ∧ n.restyle row = row := by
      intro row hrow
      have htrim := trimEnd_eq_self (hregular.trimmed row hrow)
      exact ⟨htrim, n.restyle_eq_self htrim fun width hw => hregular.untabbed width hw row hrow⟩
    have hlines : lines (terminated (split '\n' body)) = split '\n' body := by
      refine lines_terminated fun row hrow => ⟨newline_not_mem_split body row hrow, fun hlast => ?_⟩
      exact absurd (hregular.trimmed row hrow '\r' hlast) (by decide)
    -- The first line is visible, so that the text might as well stand behind an empty gap.
    have hnogap : n.written none (split '\n' body) = n.written (some 0) (split '\n' body) := by
      cases hrows : split '\n' body with
      | nil => rfl
      | cons row rest =>
        have hfirst := hregular.first
        simp only [hrows, List.head?_cons, ne_eq, Option.some.injEq] at hfirst hself
        have htrim := (hself row List.mem_cons_self).1
        have hvisible : isVisible row = true := isVisible_iff.2 (by rwa [htrim])
        simp only [written, hvisible, if_true, Option.getD_none, Option.getD_some]
    have hwritten : n.written (some 0) (split '\n' body) = split '\n' body :=
      n.written_eq_append (split_ne_nil body) hregular.last hregular.runs hself
    calc n.reformat (body ++ ['\n'])
        = n.reformat (terminated (split '\n' body)) := by simp only [terminated_split]
      _ = terminated (n.written none (split '\n' body)) := by
          simp only [reformat_eq_written, hlines]
      _ = terminated (split '\n' body) := by simp only [hnogap, hwritten]
      _ = body ++ ['\n'] := terminated_split body

/-! ## Fixed points -/

/-- What a normalizer leaves is in normal form, and exactly the texts in normal form stay as they
are. -/
theorem reformat_image_and_fixed_points (s : Text) :
    n.IsNormal (n.reformat s) ∧ (n.reformat s = s ↔ n.IsNormal s) := by
  refine ⟨n.isNormal_reformat s, fun h => ?_, n.reformat_eq_self⟩
  have hnormal := n.isNormal_reformat s
  rwa [h] at hnormal

end Normalizer

end Scribe
