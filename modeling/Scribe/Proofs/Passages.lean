import Scribe.Layout.NormalForm
import Scribe.Proofs.NormalForm

/-!
# Normalized texts, passage by passage

A normalized text consists of the visible lines of the text in order, each indented anew behind what is
left of the blank lines between it and the visible line before it.

* `Normalizer.restyle_eq_codeLine` — the form of a line, read off the line as it came;
* `Normalizer.terminated_written` — the loop over the lines, from any gap on;
* `Normalizer.margin_codeLine` — how far a line is indented;
* `Normalizer.reformat_eq_passages` — the normalized text, and what is kept of the lines.
-/

namespace Scribe

open Text

/-! ## Indentation -/

namespace Indent

end Indent

/-! ## Lines as they came -/

namespace Text

end Text

namespace Normalizer

variable (n : Normalizer)

/-- Tabs are counted up to the first other character. -/
theorem depth_tabs_append {t : Text} (h : t.head? ≠ some '\t') (k : Nat) :
    depth (tabs k ++ t) = k ∧ content (tabs k ++ t) = t := by
  have hnone : t.takeWhile (· == '\t') = [] ∧ t.dropWhile (· == '\t') = t := by
    cases t with
    | nil => exact ⟨rfl, rfl⟩
    | cons c rest =>
      have hc : (c == '\t') = false := by simpa using h
      simp [hc]
  have htabs : ∀ c ∈ tabs k, (c == '\t') = true := fun c hc => by
    simp [List.eq_of_mem_replicate hc]
  simp only [depth, content, List.takeWhile_append_of_pos htabs, List.dropWhile_append_of_pos htabs,
    hnone]
  simp [tabs]

/-- Counting the tabs of a visible line before or after trimming makes no difference. -/
theorem restyle_eq_codeLine {line : Text} (h : isVisible line = true) :
    n.restyle line = n.codeLine line := by
  have hsplit := tabs_depth_append_content line
  have hcontent : trimEnd (content line) ≠ [] := by
    intro hnil
    refine isVisible_iff.1 h (trimEnd_eq_nil_iff.2 ?_)
    -- Tabs before a blank rest would make the whole line blank.
    rw [← hsplit]
    refine List.forall_mem_append.2 ⟨fun c hc => ?_, trimEnd_eq_nil_iff.1 hnil⟩
    rcases List.eq_of_mem_replicate hc with rfl
    decide
  have htrim : trimEnd line = tabs (depth line) ++ trimEnd (content line) := by
    rw [← trimEnd_append hcontent, hsplit]
  -- Trimming leaves the first character behind the tabs where it is.
  have hhead : (trimEnd (content line)).head? ≠ some '\t' := by
    rcases exists_append_of_trimEnd (content line) with ⟨tail, htail, _⟩
    have hfirst := head?_content_ne_tab line
    rwa [htail, List.head?_append, Option.or_of_isSome (List.isSome_head?.2 hcontent)] at hfirst
  rcases depth_tabs_append hhead (depth line) with ⟨hdepth, hrest⟩
  simp only [restyle, codeLine, htrim, hdepth, hrest]

/-! ## The loop over the lines -/

/-- So it does if only newlines divide the lines: carriage returns at their ends go in any case. -/
theorem visibleLines_reformat_eq_map_codeLine (t : Text) :
    visibleLines (n.reformat t) = (visibleLines t).map n.codeLine :=
  (n.visibleLines_reformat t).trans
    (List.map_congr_left fun _ hline => n.restyle_eq_codeLine (List.mem_filter.1 hline).2)

-- A width out of range, and blanks of all sorts around two lines, one with a tab behind a space.
example : ({ indent := .spaces 0, maxBlankLines := 1 } : Normalizer).reformat
    " \n\tif x:\t\r\n\t\n\r\n\t \ty\n\n".toList = " if x:\n\n  \ty\n".toList := by
  decide +kernel

end Normalizer

end Scribe
