import Scribe.Document.Spacing
import Scribe.Proofs.NormalForm

/-!
# Normalizing what was appended

A text that is appended to another keeps its normalized form; all that depends on the text before are
the blank lines between the two.

* `Text.gapAtEnd_append` — the gap at the end of both;
* `Normalizer.written_append`, `Normalizer.written_some` — the loop over the lines, taken apart;
* `Normalizer.reformat_append` — the normalized text of both;
* `Normalizer.gapAtEnd_reformat` — the gap at the end of a normalized text;
* `Normalizer.spaced_inj` — the blank lines can be read off.
-/

namespace Scribe

open Text

/-! ## Gaps -/

namespace Text

variable {ls : List Text} {t : Text}

@[simp] theorem gapAfter_nil (gap : Option Nat) : gapAfter gap [] = gap := rfl

@[simp] theorem gapAfter_cons (gap : Option Nat) (line : Text) (rest : List Text) :
    gapAfter gap (line :: rest) = gapAfter (gapStep gap line) rest := rfl

theorem gapAfter_append (gap : Option Nat) (xs ys : List Text) :
    gapAfter gap (xs ++ ys) = gapAfter (gapAfter gap xs) ys := List.foldl_append

/-- What counts on from a gap, or begins at a visible line, is a gap. -/
theorem isSome_gapAfter (gap : Option Nat) (ls : List Text) :
    (gapAfter gap ls).isSome = (gap.isSome || ls.any isVisible) := by
  induction ls generalizing gap with
  | nil => simp
  | cons line rest ih =>
    simp only [gapAfter_cons, ih, gapStep, List.any_cons]
    cases hvisible : isVisible line with
    | true => simp
    | false => simp

theorem isSome_gapAtEnd (t : Text) : (gapAtEnd t).isSome = true ↔ visibleLines t ≠ [] := by
  simp [gapAtEnd, isSome_gapAfter, visibleLines]

/-- From its last visible line on, a text alone decides. -/
theorem gapAfter_of_none {k : Nat} (h : gapAfter none ls = some k) (gap : Option Nat) :
    gapAfter gap ls = some k := by
  induction ls generalizing gap with
  | nil => cases h
  | cons line rest ih =>
    cases hvisible : isVisible line with
    | true => simpa [gapStep, hvisible] using h
    | false =>
      simp only [gapAfter_cons, gapStep, hvisible, Bool.false_eq_true, if_false] at h ⊢
      exact ih h _

/-- A text that opens a line leaves the lines before it as they are. -/
theorem split_append (s : Text) (ht : t.OpensLine) :
    split '\n' (s ++ t) = split '\n' s ++ (split '\n' t).tail := by
  rcases ht with rfl | ⟨u, rfl⟩
  · simp [split]
  · simp [split_append_cons, split]

theorem split_of_opensLine (ht : t.OpensLine) : split '\n' t = [] :: (split '\n' t).tail := by
  rcases ht with rfl | ⟨u, rfl⟩ <;> simp [split]

theorem gapAtEnd_append (s : Text) (ht : t.OpensLine) :
    gapAtEnd (s ++ t) = gapAfter (gapAtEnd s) (split '\n' t).tail := by
  simp only [gapAtEnd, split_append s ht, gapAfter_append]

end Text

namespace Normalizer

variable (n : Normalizer)

/-! ## The loop over the lines -/

theorem written_append (gap : Option Nat) (xs ys : List Text) :
    n.written gap (xs ++ ys) = n.written gap xs ++ n.written (gapAfter gap xs) ys := by
  induction xs generalizing gap with
  | nil => rfl
  | cons line rest ih =>
    simp only [List.cons_append, written, gapAfter_cons, gapStep]
    split
    · simp [ih]
    · exact ih _

theorem written_eq_nil {ls : List Text} (h : ls.filter isVisible = []) (gap : Option Nat) :
    n.written gap ls = [] := by
  induction ls generalizing gap with
  | nil => rfl
  | cons line rest ih =>
    rw [List.filter_eq_nil_iff] at h
    rcases List.forall_mem_cons.1 h with ⟨hline, hrest⟩
    simp only [written, hline, Bool.false_eq_true, if_false]
    exact ih (List.filter_eq_nil_iff.2 hrest) _

/-- Only the blank lines before the first visible line depend on the gap that was found. -/
theorem written_some {ls : List Text} (h : ls.filter isVisible ≠ []) (k : Nat) :
    n.written (some k) ls =
      List.replicate (min (k + (ls.takeWhile fun line => !isVisible line).length) n.maxBlankLines) []
        ++ n.written none ls := by
  induction ls generalizing k with
  | nil => exact absurd rfl h
  | cons line rest ih =>
    cases hvisible : isVisible line with
    | true => simp [written, hvisible]
    | false =>
      have hrest : rest.filter isVisible ≠ [] := by simpa [hvisible] using h
      simp only [written, hvisible, Bool.false_eq_true, if_false, Option.map_some, Option.map_none,
        ih hrest, List.takeWhile_cons, Bool.not_false, if_true, List.length_cons]
      simp only [Nat.add_assoc, Nat.add_comm 1]

/-- Blanks at the ends of lines are not written. -/
theorem written_map_trimEnd (gap : Option Nat) (ls : List Text) :
    n.written gap (ls.map trimEnd) = n.written gap ls := by
  induction ls generalizing gap with
  | nil => rfl
  | cons line rest ih => simp only [List.map_cons, written, isVisible_trimEnd, restyle_trimEnd, ih]

/-- The parts of a text between its newlines do as well as its lines. -/
theorem reformat_eq_terminated (t : Text) :
    n.reformat t = terminated (n.written none (split '\n' t)) := by
  rw [reformat_eq_written, ← written_map_trimEnd, ← n.written_map_trimEnd _ (split _ _)]
  rcases map_trimEnd_split t with h | h
  · rw [h]
  -- A blank line at the end is not written.
  · rw [h, written_append]
    exact congrArg terminated (List.append_nil _).symm

/-! ## Appending -/

variable {t : Text}

theorem reformat_of_opensLine (ht : t.OpensLine) :
    n.reformat t = terminated (n.written none (split '\n' t).tail) := by
  rw [reformat_eq_terminated, split_of_opensLine ht]
  rfl

/-- The normalized form of two texts consists of the two normalized forms and a gap. -/
theorem reformat_append (s : Text) (ht : t.OpensLine) :
    n.reformat (s ++ t) =
      n.reformat s ++ List.replicate (n.gap (gapAtEnd s) t) '\n' ++ n.reformat t := by
  have hvisible : visibleLines t = (split '\n' t).tail.filter isVisible := by
    rw [visibleLines, split_of_opensLine ht]
    rfl
  rw [reformat_eq_terminated, split_append s ht, written_append, terminated_append,
    ← reformat_eq_terminated, n.reformat_of_opensLine ht, List.append_assoc]
  refine congrArg (n.reformat s ++ ·) ?_
  -- The lines that follow are written from the gap that the first text leaves.
  change terminated (n.written (gapAtEnd s) _) = _
  simp only [gap]
  cases gapAtEnd s with
  | none => rfl
  | some k =>
    by_cases hnone : visibleLines t = []
    · have hlines := hvisible.symm.trans hnone
      simp only [hnone, if_true, n.written_eq_nil hlines]
      rfl
    · simp only [hnone, if_false, n.written_some (hvisible ▸ hnone), terminated_append,
        terminated_replicate]
      rfl

theorem reformat_newline (t : Text) : n.reformat ('\n' :: t) = n.reformat t := by
  simp only [reformat_eq_terminated, split, if_true]
  rfl

theorem gap_eq_zero (h : visibleLines t = []) (before : Option Nat) : n.gap before t = 0 := by
  cases before with
  | none => rfl
  | some k => simp only [gap, h, if_true]

/-- Newlines at the end are of no account. -/
theorem reformat_append_replicate (s : Text) (k : Nat) :
    n.reformat (s ++ List.replicate k '\n') = n.reformat s := by
  cases k with
  | zero => simp
  | succ k =>
    have hopens : OpensLine (List.replicate (k + 1) '\n') := .inr ⟨List.replicate k '\n', rfl⟩
    have hnone : visibleLines (List.replicate (k + 1) '\n') = [] := by
      simpa using visibleLines_append_replicate [] (k + 1)
    have hnothing : n.reformat (List.replicate (k + 1) '\n') = [] := by
      rw [reformat_eq_terminated, n.written_eq_nil hnone]
      rfl
    rw [n.reformat_append s hopens, n.gap_eq_zero hnone, hnothing]
    simp

/-! ## The gap after a normalized text -/

/-- Blank lines are written only before a visible one. -/
theorem gapAfter_written (gap : Option Nat) (ls : List Text) :
    gapAfter (some 0) (n.written gap ls) = some 0 := by
  induction ls generalizing gap with
  | nil => rfl
  | cons line rest ih =>
    simp only [written]
    split
    · rename_i hvisible
      simp only [gapAfter_append, gapAfter_cons, gapStep, n.isVisible_restyle hvisible, if_true, ih]
    · exact ih _

theorem gapAfter_written_none (ls : List Text) :
    gapAfter none (n.written none ls) = if ls.filter isVisible = [] then none else some 0 := by
  induction ls with
  | nil => rfl
  | cons line rest ih =>
    cases hvisible : isVisible line with
    | false => simp [written, hvisible, ih]
    | true =>
      simp [written, hvisible, gapStep, n.isVisible_restyle hvisible, gapAfter_written]

/-- A normalized text ends with one newline, if it shows anything at all. -/
theorem gapAtEnd_reformat (t : Text) :
    gapAtEnd (n.reformat t) = if visibleLines t = [] then none else some 1 := by
  have hrows := n.newline_not_mem_written (newline_not_mem_split t) none
  rw [reformat_eq_terminated, gapAtEnd, split_terminated hrows, gapAfter_append,
    gapAfter_written_none]
  change gapStep (if visibleLines t = [] then none else some 0) [] = _
  split <;> rfl

/-! ## Reading off the blank lines -/

/-- A normalized text that shows anything begins with it. -/
theorem exists_cons_of_visible (h : visibleLines t ≠ []) :
    ∃ c rest, n.reformat t = c :: rest ∧ c ≠ '\n' := by
  have hrows : ∀ row ∈ n.written none (lines t), '\n' ∉ row :=
    n.newline_not_mem_written newline_not_mem_lines none
  have hfirst := n.head?_written (lines t)
  have hshown : visibleLines (n.reformat t) ≠ [] := by simpa [visibleLines_reformat] using h
  rw [reformat_eq_written] at hshown ⊢
  cases hwritten : n.written none (lines t) with
  | nil => simp [hwritten] at hshown
  | cons row more =>
    rw [hwritten] at hrows hfirst
    cases row with
    | nil => exact absurd rfl hfirst
    | cons c rest =>
      refine ⟨c, rest ++ '\n' :: terminated more, by simp, fun hc => ?_⟩
      exact hrows _ List.mem_cons_self (hc ▸ List.mem_cons_self)

theorem replicate_append_inj {α : Type} {x c : α} (hc : c ≠ x) {s u : List α} {j k : Nat}
    (h : List.replicate j x ++ c :: s = List.replicate k x ++ c :: u) : j = k ∧ s = u := by
  induction j generalizing k with
  | zero =>
    cases k with
    | zero => exact ⟨rfl, (List.cons.inj h).2⟩
    | succ k => exact absurd (List.cons.inj h).1 hc
  | succ j ih =>
    cases k with
    | zero => exact absurd (List.cons.inj h).1.symm hc
    | succ k => exact (ih (List.cons.inj h).2).imp_left (congrArg Nat.succ)

/-- Different blank lines make different texts. -/
theorem spaced_inj {texts : List Text} {before before' : Nat → Option Nat}
    (h : n.spaced (texts.mapIdx fun i t => n.gap (before i) t) texts =
      n.spaced (texts.mapIdx fun i t => n.gap (before' i) t) texts) :
    (texts.mapIdx fun i t => n.gap (before i) t) =
      texts.mapIdx fun i t => n.gap (before' i) t := by
  induction texts generalizing before before' with
  | nil => rfl
  | cons t rest ih =>
    simp only [List.mapIdx_cons, spaced, List.zipWith_cons_cons, List.flatten_cons] at h ⊢
    by_cases hnone : visibleLines t = []
    · simp only [n.gap_eq_zero hnone, List.append_cancel_left_eq] at h ⊢
      exact congrArg _ (ih h)
    · rcases n.exists_cons_of_visible hnone with ⟨c, more, hform, hc⟩
      simp only [hform, List.append_assoc, List.cons_append] at h
      rcases replicate_append_inj hc h with ⟨hgap, hrest⟩
      rw [hgap, ih (List.append_cancel_left hrest)]

end Normalizer

end Scribe
