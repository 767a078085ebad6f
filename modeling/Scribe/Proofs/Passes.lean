import Scribe.Layout.NormalForm
import Scribe.Proofs.NormalForm

/-!
# Two passes are one

A text that was normalized is a text like any other, and can be normalized anew with other settings.
What comes out is what one normalizer makes of the first text.

* `Normalizer.restyle_followedBy` — what two passes make of a line;
* `Normalizer.written_followedBy` — what they write, from any gap on;
* `Normalizer.reformat_reformat` — the two passes in one.
-/

namespace Scribe
namespace Normalizer

open Text

variable (first second : Normalizer)

/-! ## Lines -/

/-- Tabs that are not replaced are there for the second pass, and spaces are no tabs any more. -/
theorem restyle_followedBy {line : Text} (h : isVisible line = true) :
    second.restyle (first.restyle line) = (first.followedBy second).restyle line := by
  cases hindent : first.indent with
  | tab =>
    have hkept : first.restyle line = trimEnd line := by
      simp only [restyle, hindent, Indent.repeated_tab]
      exact tabs_depth_append_content _
    simp only [hkept, restyle_trimEnd]
    simp only [restyle, followedBy, hindent]
  | spaces width =>
    have hself : second.restyle (first.restyle line) = first.restyle line :=
      second.restyle_eq_self (first.trimEnd_restyle h) fun _ _ => head?_restyle_ne_tab hindent line
    simp only [hself]
    simp only [restyle, followedBy, hindent]

/-! ## Blank lines -/

/-- Empty lines are counted, and the count is used where the next line is written. -/
theorem written_replicate_append (n : Normalizer) (gap : Option Nat) (k : Nat) (rows : List Text) :
    n.written gap (List.replicate k [] ++ rows) = n.written (gap.map (· + k)) rows := by
  induction k generalizing gap with
  | zero => simp
  | succ k ih =>
    have hempty : isVisible [] = false := rfl
    have hgap : (gap.map (· + 1)).map (· + k) = gap.map (· + (k + 1)) := by
      cases gap with
      | none => rfl
      | some g => simp only [Option.map_some, Nat.add_assoc, Nat.add_comm 1]
    simp only [List.replicate_succ, List.cons_append, written, hempty, Bool.false_eq_true, if_false,
      ih, hgap]

/-- The second pass finds the blank lines that the first has left, and cuts them off once more. -/
theorem written_followedBy (gap : Option Nat) (ls : List Text) :
    second.written (gap.map fun _ => 0) (first.written gap ls) =
      (first.followedBy second).written gap ls := by
  induction ls generalizing gap with
  | nil => rfl
  | cons line rest ih =>
    cases hvisible : isVisible line with
    | false =>
      have hnogap : (gap.map (· + 1)).map (fun _ => 0) = gap.map fun _ => 0 := by
        cases gap <;> rfl
      have hrest := ih (gap.map (· + 1))
      simpa only [written, hvisible, Bool.false_eq_true, if_false, hnogap] using hrest
    | true =>
      have hcut : min (((gap.map fun _ => 0).map
            (· + min (gap.getD 0) first.maxBlankLines)).getD 0) second.maxBlankLines =
          min (gap.getD 0) (first.followedBy second).maxBlankLines := by
        cases gap with
        | none => simp
        | some g => simp [followedBy, Nat.min_comm second.maxBlankLines, Nat.min_assoc]
      have hrest : second.written (some 0) (first.written (some 0) rest) =
          (first.followedBy second).written (some 0) rest := ih (some 0)
      simp only [written, hvisible, if_true, written_replicate_append,
        first.isVisible_restyle hvisible, hcut, first.restyle_followedBy second hvisible, hrest]

/-! ## Texts -/

/-- The lines of a normalized text are the lines that were written. -/
theorem lines_reformat (n : Normalizer) (source : Text) :
    lines (n.reformat source) = n.written none (lines source) := by
  simp only [reformat_eq_written]
  refine lines_terminated fun row hrow => ⟨?_, fun hreturn => ?_⟩
  · exact n.newline_not_mem_written newline_not_mem_lines none row hrow
  -- Nothing blank is left at the end of a line.
  · exact absurd ((n.regularLines_written source).trimmed row hrow '\r' hreturn) (by decide)

/-- A normalizer that is run on what another one has left gives the text that one normalizer makes of
the source: with the indentation of the first pass if that has replaced the tabs, else with that of the
second, and with the lower of the two limits for blank lines. -/
theorem reformat_reformat (source : Text) :
    second.reformat (first.reformat source) = (first.followedBy second).reformat source := by
  calc second.reformat (first.reformat source)
      = terminated (second.written none (lines (first.reformat source))) := by
        simp only [reformat_eq_written]
    _ = terminated (second.written none (first.written none (lines source))) := by
        simp only [lines_reformat]
    _ = terminated ((first.followedBy second).written none (lines source)) :=
        congrArg terminated (first.written_followedBy second none (lines source))
    _ = (first.followedBy second).reformat source := by
        simp only [reformat_eq_written]

end Normalizer

end Scribe
