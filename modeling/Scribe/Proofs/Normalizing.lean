import Scribe.Layout.Normalizer
import Scribe.Proofs.VisibleLines

/-!
# Normalizing a text line by line

A normalizer works on the visible lines of a text one by one; it brings each into a form that it
leaves alone from then on. The run of a line buffer is read as the list of the lines that it writes.

* `Normalizer.restyle` — the form of a line;
* `Normalizer.written` — the lines that a normalizer writes;
* `Normalizer.reformat_eq_written` — the steps of a normalizer write these lines;
* `Normalizer.visibleLines_reformat` — the visible lines of a normalized text;
* `Normalizer.restyle_restyle` — the form is a fixed one.
-/

namespace Scribe

open Text

/-! ## Lines and parts -/

namespace Text

theorem isVisible_iff {line : Text} : isVisible line = true ↔ trimEnd line ≠ [] := by
  simp only [Ne, trimEnd_eq_nil_iff, isVisible]
  simp

theorem isVisible_trimEnd (line : Text) : isVisible (trimEnd line) = isVisible line := by
  rw [Bool.eq_iff_iff, isVisible_iff, isVisible_iff, trimEnd_trimEnd]

/-- Up to blanks at their ends, the lines of a text are its parts between newlines; only the empty
part after a newline at the end is no line. -/
theorem map_trimEnd_split (t : Text) :
    (split '\n' t).map trimEnd = (lines t).map trimEnd ∨
      (split '\n' t).map trimEnd = (lines t).map trimEnd ++ [[]] := by
  fun_induction lines t with
  | case1 => exact .inr rfl
  | case2 rest ih =>
    simp only [split, if_true, List.map_cons, List.cons_append]
    exact ih.imp (congrArg _) (congrArg _)
  | case3 rest ih =>
    -- Here the lines lose a carriage return that the parts keep, but it is trimmed off.
    have hreturn : split '\n' ('\r' :: '\n' :: rest) = ['\r'] :: split '\n' rest := by
      simp [split]
    have hblank : trimEnd ['\r'] = [] := by decide
    simp only [hreturn, List.map_cons, hblank, trimEnd_nil, List.cons_append]
    exact ih.imp (congrArg _) (congrArg _)
  | case4 c rest hc _ hrest ih =>
    rw [lines_eq_nil_iff.1 hrest, split, if_neg hc]
    exact .inl rfl
  | case5 c rest hc _ part parts hrest ih =>
    simp only [hrest] at ih
    -- The character goes to the front of both first lines, which trim alike.
    cases hsplit : split '\n' rest with
    | nil => exact absurd hsplit (split_ne_nil rest)
    | cons p ps =>
      simp only [hsplit] at ih
      have hparts : split '\n' (c :: rest) = (c :: p) :: ps := by
        simp only [split, if_neg hc, hsplit]
      simp only [hparts, List.map_cons, List.cons_append, List.cons.injEq] at ih ⊢
      exact ih.imp (And.imp_left (trimEnd_cons_congr c)) (And.imp_left (trimEnd_cons_congr c))

theorem map_trimEnd_filter (ls : List Text) :
    (ls.filter isVisible).map trimEnd = (ls.map trimEnd).filter isVisible := by
  simp only [List.filter_map]
  exact congrArg (List.map trimEnd) (List.filter_congr fun line _ => (isVisible_trimEnd line).symm)

/-- Carriage returns at the ends of lines are blanks, so it does not matter who takes them off. -/
theorem map_trimEnd_visibleLines (t : Text) :
    (visibleLines t).map trimEnd = ((lines t).filter isVisible).map trimEnd := by
  simp only [visibleLines, map_trimEnd_filter]
  rcases map_trimEnd_split t with h | h
  · simp only [h]
  -- The empty part at the end is not visible.
  · simp only [h, List.filter_append]
    exact List.append_nil _

end Text

/-! ## The form of a line -/

namespace Normalizer

variable (n : Normalizer)

/-- A line without the blanks at its end, indented anew. -/
def restyle (line : Text) : Text :=
  n.indent.repeated (depth (trimEnd line)) ++ content (trimEnd line)

theorem restyle_trimEnd (line : Text) : n.restyle (trimEnd line) = n.restyle line := by
  simp only [restyle, trimEnd_trimEnd]

theorem tabs_depth_append_content (line : Text) : tabs (depth line) ++ content line = line := by
  have htabs : line.takeWhile (· == '\t') = tabs (depth line) :=
    List.eq_replicate_iff.2 ⟨rfl, fun c hc =>
      beq_iff_eq.1 (List.all_eq_true.1 List.all_takeWhile c hc)⟩
  simp only [← htabs]
  exact List.takeWhile_append_dropWhile

/-- Tabs are blank, so a line that is not blank has content, and the content ends where the line
does. -/
theorem trimEnd_content {line : Text} (h : isVisible line = true) :
    trimEnd (content (trimEnd line)) = content (trimEnd line) ∧ content (trimEnd line) ≠ [] := by
  have hsplit := tabs_depth_append_content (trimEnd line)
  have hne : trimEnd (content (trimEnd line)) ≠ [] := by
    intro hblank
    refine isVisible_iff.1 h ?_
    -- If the content were blank, the tabs before it would make the whole line blank.
    rw [← trimEnd_trimEnd, ← hsplit, trimEnd_eq_nil_iff]
    intro c hc
    rcases List.mem_append.1 hc with htab | hcontent
    · simp only [List.eq_of_mem_replicate htab]
      decide
    · exact trimEnd_eq_nil_iff.1 hblank c hcontent
  have htrim := trimEnd_append (s := tabs (depth (trimEnd line))) hne
  simp only [hsplit, trimEnd_trimEnd] at htrim
  refine ⟨?_, fun hnil => hne (by simp only [hnil]; rfl)⟩
  exact (List.append_cancel_left (hsplit.trans htrim)).symm

theorem trimEnd_restyle {line : Text} (h : isVisible line = true) :
    trimEnd (n.restyle line) = n.restyle line := by
  rcases trimEnd_content h with ⟨htrim, hne⟩
  simp only [restyle, trimEnd_append (by rwa [htrim]), htrim]

theorem isVisible_restyle {line : Text} (h : isVisible line = true) :
    isVisible (n.restyle line) = true := by
  rw [isVisible_iff, n.trimEnd_restyle h, restyle]
  exact List.append_ne_nil_of_right_ne_nil _ (trimEnd_content h).2

/-- A line whose tabs are not replaced stays as it is, and any other begins with a space from then
on. -/
theorem restyle_cases (line : Text) :
    n.restyle line = trimEnd line ∨ ∃ rest, n.restyle line = ' ' :: rest := by
  have hsplit := tabs_depth_append_content (trimEnd line)
  simp only [restyle]
  cases n.indent with
  | tab =>
    simp only [Indent.repeated_tab]
    exact .inl hsplit
  | spaces width =>
    cases hdepth : depth (trimEnd line) with
    | zero =>
      simp only [hdepth] at hsplit
      exact .inl hsplit
    | succ k =>
      -- The first tab leaves a space.
      obtain ⟨rest, hrest⟩ := Indent.exists_repeated_spaces_succ width k
      simp only [hrest]
      exact .inr ⟨_, rfl⟩

theorem restyle_restyle {line : Text} (h : isVisible line = true) :
    n.restyle (n.restyle line) = n.restyle line := by
  rcases n.restyle_cases line with heq | ⟨rest, heq⟩
  · rw [heq, restyle_trimEnd, heq]
  · -- A space at the front hides all that follows from the count of tabs.
    have htrim := n.trimEnd_restyle h
    simp only [heq] at htrim ⊢
    simp only [restyle, htrim]
    rfl

theorem newline_not_mem_restyle {line : Text} (h : '\n' ∉ line) : '\n' ∉ n.restyle line := by
  intro hmem
  rcases List.mem_append.1 hmem with hindent | hcontent
  -- The indentation is made of spaces or tabs, and the content of what was there.
  · rcases List.mem_flatten.1 hindent with ⟨part, hpart, hchar⟩
    simp only [List.eq_of_mem_replicate hpart] at hchar
    cases hunit : n.indent with
    | tab =>
      simp only [hunit] at hchar
      exact absurd (List.mem_singleton.1 hchar) (by decide)
    | spaces width =>
      simp only [hunit] at hchar
      exact absurd (List.eq_of_mem_replicate hchar) (by decide)
  · obtain ⟨tail, hline, _⟩ := exists_append_of_trimEnd line
    refine h ?_
    rw [hline]
    exact List.mem_append_left tail ((List.dropWhile_sublist _).subset hcontent)

/-! ## The lines that are written -/

/-- The lines that are written for the remaining lines, the empty ones of a gap included. -/
def written : (gap : Option Nat) → List Text → List Text
  | _, [] => []
  | gap, line :: rest =>
    if isVisible line then
      List.replicate (min (gap.getD 0) n.maxBlankLines) [] ++ n.restyle line
        :: written (some 0) rest
    else written (gap.map (· + 1)) rest

theorem content_trimEnd_eq_nil {line : Text} (h : isVisible line = false) :
    content (trimEnd line) = [] := by
  have hnil : trimEnd line = [] :=
    Decidable.not_not.1 fun hne => Bool.false_ne_true (h.symm.trans (isVisible_iff.2 hne))
  simp only [hnil]
  rfl

/-- A line that is written is empty or the form of a visible line. -/
theorem mem_written {gap : Option Nat} {ls : List Text} {row : Text} (h : row ∈ n.written gap ls) :
    row = [] ∨ ∃ line ∈ ls, isVisible line = true ∧ row = n.restyle line := by
  induction ls generalizing gap with
  | nil => cases h
  | cons line rest ih =>
    have hrest {gap} (hmem : row ∈ n.written gap rest) :
        row = [] ∨ ∃ x ∈ line :: rest, isVisible x = true ∧ row = n.restyle x :=
      (ih hmem).imp_right fun ⟨x, hx, hform⟩ => ⟨x, List.mem_cons_of_mem line hx, hform⟩
    simp only [written] at h
    split at h
    · rename_i hvisible
      rcases List.mem_append.1 h with hgap | hmem
      · exact .inl (List.eq_of_mem_replicate hgap)
      · rcases List.mem_cons.1 hmem with rfl | hmem
        · exact .inr ⟨line, List.mem_cons_self, hvisible, rfl⟩
        · exact hrest hmem
    · exact hrest h

theorem newline_not_mem_written {ls : List Text} (h : ∀ line ∈ ls, '\n' ∉ line)
    (gap : Option Nat) : ∀ row ∈ n.written gap ls, '\n' ∉ row := by
  intro row hrow
  rcases n.mem_written hrow with rfl | ⟨line, hline, _, rfl⟩
  · exact List.not_mem_nil
  · exact n.newline_not_mem_restyle (h line hline)

/-! ## The whole text -/

theorem outputs_replicate_blank (indent : Indent) (level k : Nat) (rest : List LineBuffer.Step) :
    LineBuffer.outputs indent level (List.replicate k .blank ++ rest) =
      List.replicate k ['\n'] ++ LineBuffer.outputs indent level rest := by
  induction k with
  | zero => rfl
  | succ k ih => exact congrArg (['\n'] :: ·) ih

/-- The steps of a normalizer append the lines that are written, whatever level they find. -/
theorem flatten_outputs_steps (gap : Option Nat) (level : Nat) (ls : List Text) :
    (LineBuffer.outputs n.indent level (n.steps gap ls)).flatten = terminated (n.written gap ls) := by
  induction ls generalizing gap level with
  | nil => rfl
  | cons line rest ih =>
    cases hvisible : isVisible line with
    | false =>
      simp only [steps, written, hvisible, content_trimEnd_eq_nil hvisible, if_true, ih,
        Bool.false_eq_true, if_false]
    | true =>
      -- The level that is set for a line is still there when the line is appended.
      have hline : LineBuffer.Step.output n.indent (depth (trimEnd line))
          (.line (content (trimEnd line))) = n.restyle line ++ ['\n'] := rfl
      simp only [steps, written, hvisible, (trimEnd_content hvisible).2, if_true, if_false,
        outputs_replicate_blank, LineBuffer.outputs_cons, LineBuffer.Step.levelAfter, hline,
        List.flatten_append, List.flatten_cons, ih, terminated_append, terminated_replicate,
        terminated_cons]
      simp [LineBuffer.Step.output]

theorem reformat_eq_written (t : Text) : n.reformat t = terminated (n.written none (lines t)) := by
  calc n.reformat t
      = [] ++ (LineBuffer.outputs n.indent 0 (n.steps none (lines t))).flatten :=
        LineBuffer.text_run { indent := n.indent } _
    _ = terminated (n.written none (lines t)) := n.flatten_outputs_steps none 0 (lines t)

/-- Blank lines come and go; every other line takes its form. -/
theorem filter_written (gap : Option Nat) (ls : List Text) :
    (n.written gap ls).filter isVisible = (ls.filter isVisible).map n.restyle := by
  -- The gap only decides how many empty lines come before the next line.
  induction ls generalizing gap with
  | nil => rfl
  | cons line rest ih =>
    have hempty : isVisible [] = false := rfl
    cases hvisible : isVisible line with
    | false => simp [written, hvisible, ih]
    | true => simp [written, hvisible, n.isVisible_restyle hvisible, hempty, ih]

theorem visibleLines_reformat_lines (t : Text) :
    visibleLines (n.reformat t) = ((lines t).filter isVisible).map n.restyle := by
  have hrows := n.newline_not_mem_written (newline_not_mem_lines (t := t)) none
  rw [reformat_eq_written, visibleLines_terminated hrows, filter_written]

/-- The visible lines of a normalized text are those of the text, one by one. -/
theorem visibleLines_reformat (t : Text) :
    visibleLines (n.reformat t) = (visibleLines t).map n.restyle := by
  -- The form of a line depends only on the trimmed line, where lines and parts agree.
  have hrestyle : n.restyle ∘ trimEnd = n.restyle := funext n.restyle_trimEnd
  calc visibleLines (n.reformat t)
      = ((lines t).filter isVisible).map n.restyle := n.visibleLines_reformat_lines t
    _ = (((lines t).filter isVisible).map trimEnd).map n.restyle := by
        simp only [List.map_map, hrestyle]
    _ = ((visibleLines t).map trimEnd).map n.restyle := by simp only [map_trimEnd_visibleLines]
    _ = (visibleLines t).map n.restyle := by simp only [List.map_map, hrestyle]

theorem map_restyle_visibleLines_reformat (t : Text) :
    (visibleLines (n.reformat t)).map n.restyle = (visibleLines t).map n.restyle := by
  simp only [visibleLines_reformat, List.map_map]
  refine List.map_congr_left fun line hline => n.restyle_restyle ?_
  exact (List.mem_filter.1 hline).2

end Normalizer

end Scribe
