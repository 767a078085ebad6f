import Scribe.Proofs.Lines
import Scribe.Text.Blank

/-!
# Visible lines of parts

How the visible lines of a text follow from those of its parts.

* `Text.visibleLines_append_newline` — a newline divides the lines;
* `Text.visibleLines_append` — so does the place before a text that opens a line.
-/

namespace Scribe
namespace Text

/-! ## Visible lines -/

@[simp] theorem visibleLines_nil : visibleLines [] = [] := rfl

theorem visibleLines_append_newline (s u : Text) :
    visibleLines (s ++ '\n' :: u) = visibleLines s ++ visibleLines u := by
  rw [visibleLines, split_append_cons, List.filter_append]
  rfl

@[simp] theorem visibleLines_newline (u : Text) : visibleLines ('\n' :: u) = visibleLines u :=
  visibleLines_append_newline [] u

theorem visibleLines_replicate_append (k : Nat) (u : Text) :
    visibleLines (List.replicate k '\n' ++ u) = visibleLines u := by
  induction k with
  | zero => rfl
  | succ k ih => exact (visibleLines_newline _).trans ih

theorem visibleLines_append_replicate (s : Text) (k : Nat) :
    visibleLines (s ++ List.replicate k '\n') = visibleLines s := by
  cases k with
  | zero => simp only [List.replicate_zero, List.append_nil]
  | succ k =>
    have hnewlines : visibleLines (List.replicate k '\n') = [] := by
      simpa using visibleLines_replicate_append k []
    simp only [List.replicate_succ, visibleLines_append_newline, hnewlines, List.append_nil]

theorem visibleLines_of_not_mem {t : Text} (h : '\n' ∉ t) :
    visibleLines t = [t].filter isVisible := by
  simp only [visibleLines, split_of_not_mem h]

theorem visibleLines_terminated {ls : List Text} (h : ∀ line ∈ ls, '\n' ∉ line) :
    visibleLines (terminated ls) = ls.filter isVisible := by
  rw [visibleLines, split_terminated h, List.filter_append]
  exact List.append_nil _

@[simp] theorem visibleLines_tabs (n : Nat) : visibleLines (tabs n) = [] := by
  -- There is one line, and a tab is a blank.
  have hblank : isVisible (tabs n) = false := by
    simp [isVisible, tabs, show isBlank '\t' = true by decide]
  simp only [visibleLines_of_not_mem (newline_not_mem_tabs n)]
  simp [hblank]

/-! ## Texts that open a line -/

/-- Put behind another text, the text does not lengthen its last line. -/
def OpensLine (t : Text) : Prop := t = [] ∨ ∃ u, t = '\n' :: u

theorem OpensLine.append {s t : Text} (hs : s.OpensLine) (ht : t.OpensLine) :
    OpensLine (s ++ t) := by
  rcases hs with rfl | ⟨u, rfl⟩
  · exact ht
  · exact .inr ⟨u ++ t, rfl⟩

theorem visibleLines_append (s : Text) {t : Text} (ht : t.OpensLine) :
    visibleLines (s ++ t) = visibleLines s ++ visibleLines t := by
  rcases ht with rfl | ⟨u, rfl⟩
  · simp
  -- The part before the newline is blank by itself.
  · simp only [visibleLines_append_newline, visibleLines_newline]

end Text
end Scribe
