import Scribe.Construct.Leaf
import Scribe.Proofs.Nesting
import Scribe.Proofs.Passages
import Scribe.Proofs.Policies

/-!
# Comments keep their texts

Every line of a comment is marked, however many lines its text has and whatever stands in them, and the text
can be read off the lines again. Normalizing the lines changes their indentation and nothing else.

* `Comment.unmark?_trimEnd_mark` — a marked line says what was put behind the mark;
* `Comment.shows_outline` — the lines of a comment behind any indentation;
* `Comment.split_render`, `Comment.visibleLines_reformat_render` — as rendered, and as normalized;
* `Comment.text_stays_behind_marks` — the same in a document.
-/

namespace Scribe

open Text

namespace Comment

variable {k : Nat}

/-! ## Marked lines -/

/-- Trimming takes the space behind the mark along if nothing else stands there, and only then. -/
theorem unmark?_trimEnd_mark (indent line : Text) :
    unmark? indent (indent ++ trimEnd ("# ".toList ++ line)) = some (trimEnd line) := by
  have hindent : indent.isPrefixOf? (indent ++ trimEnd ("# ".toList ++ line)) =
      some (trimEnd ("# ".toList ++ line)) :=
    List.isPrefixOf?_eq_some_iff_append_eq.2 rfl
  simp only [unmark?, hindent, Option.bind_eq_bind, Option.bind_some]
  by_cases hblank : trimEnd line = []
  · have hspace : trimEnd (' ' :: line) = [] :=
      trimEnd_eq_nil_iff.2 (List.forall_mem_cons.2 ⟨by decide, trimEnd_eq_nil_iff.1 hblank⟩)
    rw [if_pos (by rw [trimEnd_mark, hspace]), hblank]
  · have htext : trimEnd ("# ".toList ++ line) = "# ".toList ++ trimEnd line := trimEnd_append hblank
    have hspace : "# ".toList ++ trimEnd line ≠ ['#'] := fun heq =>
      absurd (List.cons.inj heq).2 (List.cons_ne_nil _ _)
    rw [htext, if_neg hspace]
    exact List.isPrefixOf?_eq_some_iff_append_eq.2 rfl

/-! ## The lines of a comment -/

theorem shows_outline (c : Comment) (indent : Text) :
    Shows indent c.text ((c.outline k).map fun e => indent ++ e.text) where
  length_eq := by
    by_cases hempty : c.text = []
    · simp [outline, hempty, lines]
    · have hlines : 0 < (lines c.text).length :=
        List.length_pos_iff.2 fun hnil => hempty (lines_eq_nil_iff.1 hnil)
      simp only [outline, if_neg hempty, List.length_map]
      omega
  isMarked := List.forall_mem_map.2 fun e he => by
    rcases outline_cases he with ⟨_, ⟨rest, htext⟩, _⟩
    exact ⟨rest, by simp [htext]⟩
  keeps i line hline := by
    by_cases hempty : c.text = []
    · simp [hempty, lines] at hline
    · simp only [outline, if_neg hempty, List.map_map, List.getElem?_map, hline]
      exact unmark?_trimEnd_mark indent line

/-! ## The text form -/

theorem split_render (c : Comment) : split '\n' c.render = (c.outline c.level).map Entry.line := by
  refine split_of_newline_cons ?_ (List.forall_mem_map.2 fun e he => ?_)
  · refine (Comment.newline_render c.level c).trans ?_
    rw [Row.written_eq, List.map_map]
    rfl
  · exact fun hmem => (outline_cases he).2.2.2 (Entry.newline_mem_line.1 hmem)

/-- No line of a comment is blank, and the tabs are all in front of the mark. -/
theorem visibleLines_reformat_render (c : Comment) (n : Normalizer) :
    visibleLines (n.reformat c.render) =
      (c.outline c.level).map fun e => n.indent.repeated c.level ++ e.text := by
  have hvisible : ∀ line ∈ (c.outline c.level).map Entry.line, isVisible line = true :=
    List.forall_mem_map.2 fun e he => isVisible_append.2 (.inr (c.isSolid_outline e he).2.1)
  rw [n.visibleLines_reformat, visibleLines, split_render, List.filter_eq_self.2 hvisible, List.map_map]
  refine List.map_congr_left fun e he => ?_
  rcases outline_cases he with ⟨hlevel, _, htrim, _⟩
  rcases Normalizer.depth_tabs_append (c.isSolid_outline e he).2.2 e.level with ⟨hdepth, hcontent⟩
  rw [Function.comp_apply, n.restyle_eq_codeLine (hvisible _ (List.mem_map_of_mem he))]
  rw [Normalizer.codeLine, Entry.line, hdepth, hcontent, htrim, hlevel]

/-! ## Documents -/

/-- A comment shows its text behind its marks: as rendered, as normalized, and as written to a document with
a normalizer, whatever was written before and is written later. -/
theorem text_stays_behind_marks (c : Comment) :
    Shows (tabs c.level) c.text (split '\n' c.render) ∧
      ∀ n : Normalizer,
        Shows (n.indent.repeated c.level) c.text (visibleLines (n.reformat c.render)) ∧
        ∀ (d : Document) (later : List Construct),
          let start := d.setFormatter n.formatter
          let write := start.write (.comment c)
          write.result = .ok () ∧
            ∃ before text, start.finalize = .ok before ∧
              (write.document.writeAll later).1.finalize = .ok text ∧
              visibleLines text = visibleLines before ++ visibleLines (n.reformat c.render) ++
                (later.filterMap fun c => c.renderFresh.toOption).flatMap fun t =>
                  visibleLines (n.reformat t) := by
  refine ⟨?_, fun n => ⟨?_, fun d later => ?_⟩⟩
  · have hlines : (c.outline c.level).map Entry.line =
        (c.outline c.level).map fun e => tabs c.level ++ e.text :=
      List.map_congr_left fun e he => by rw [Entry.line, (outline_cases he).1]
    rw [split_render, hlines]
    exact c.shows_outline _
  · rw [c.visibleLines_reformat_render n]
    exact c.shows_outline _
  · intro start write
    have hrender : (Construct.comment c).renderFresh = .ok c.render := by
      simp only [Construct.renderFresh, Construct.restamp_comment, Construct.render]
    rcases Document.write_of_ok (d := start) (n := n) rfl hrender with ⟨hwrite, hresult, hshown⟩
    rcases Document.writeAll_shown hwrite later with ⟨hlater, _, hlast⟩
    refine ⟨hresult, _, _, Document.finalize_of_normalizer rfl,
      Document.finalize_of_normalizer hlater, ?_⟩
    rw [← Document.shown_eq, ← Document.shown_eq, hlast, hshown]

-- Blanks go at the ends of the lines, a carriage return among them, and stay at the fronts.
example : split '\n' (Comment.render { text := " one \r\n\n\ttwo".toList, level := 1 }) =
    ["\t#  one".toList, "\t#".toList, "\t# \ttwo".toList] := by
  decide

end Comment

end Scribe
