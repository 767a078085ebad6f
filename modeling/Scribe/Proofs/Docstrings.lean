import Mathlib.Data.List.Basic
import Scribe.Construct.Leaf
import Scribe.Proofs.Lines

/-!
# Docstrings keep their texts

The text of a docstring can be read off its lines, whatever stands in it: tabs, quotes and blanks of its own
are told from those that the docstring adds.

* `Docstring.unindent?_renderLine`, `Docstring.unquote?_inTripleQuotes` — one line, with and without quotes;
* `Docstring.shows_split_render` — all lines;
* `Docstring.Shows.agree` — lines that say what two texts say;
* `Docstring.text_can_be_read` — what is read, and which texts look alike.
-/

namespace Scribe

open Text

namespace Docstring

variable {level : Nat} {text other : Text} {shown : List Text}

/-! ## One line -/

theorem unindent?_renderLine (level : Nat) (line : Text) :
    unindent? level (renderLine level line) = some line := by
  by_cases hempty : line = []
  · simp [renderLine, unindent?, hempty]
  · have hline : tabs level ++ line ≠ [] := List.append_ne_nil_of_right_ne_nil _ hempty
    simp only [renderLine, if_neg hempty, unindent?, if_neg hline]
    exact List.isPrefixOf?_eq_some_iff_append_eq.2 rfl

theorem unquote?_inTripleQuotes (level : Nat) (text : Text) :
    unquote? level (tabs level ++ inTripleQuotes text) = some text := by
  have hindent : (tabs level).isPrefixOf? (tabs level ++ inTripleQuotes text) =
      some (inTripleQuotes text) := List.isPrefixOf?_eq_some_iff_append_eq.2 rfl
  have hopened : tripleQuote.isPrefixOf? (inTripleQuotes text) = some (text ++ tripleQuote) :=
    List.isPrefixOf?_eq_some_iff_append_eq.2 (List.append_assoc _ _ _).symm
  simp only [unquote?, hindent, hopened, Option.bind_eq_bind, Option.bind_some]
  exact dropSuffix?_eq_some_iff.2 rfl

theorem newline_not_mem_tripleQuote : '\n' ∉ tripleQuote := by decide

theorem newline_not_mem_renderLine {line : Text} (h : '\n' ∉ line) :
    '\n' ∉ renderLine level line := by
  by_cases hempty : line = []
  · simp [renderLine, hempty]
  · simp [renderLine, hempty, newline_not_mem_tabs, h]

/-! ## All lines -/

/-- What a docstring shows, line by line. -/
theorem split_render (d : Docstring) :
    split '\n' d.render =
      if '\n' ∈ d.text then
        [tabs d.level ++ tripleQuote] ++ (lines d.text).map (renderLine d.level)
          ++ [tabs d.level ++ tripleQuote]
      else [tabs d.level ++ inTripleQuotes d.text] := by
  have hmark : '\n' ∉ tabs d.level ++ tripleQuote := by
    simp [newline_not_mem_tabs, newline_not_mem_tripleQuote]
  by_cases hnewline : '\n' ∈ d.text
  · simp only [render, if_pos hnewline]
    have hlines : ∀ line ∈ (lines d.text).map (renderLine d.level), '\n' ∉ line :=
      List.forall_mem_map.2 fun part hpart => newline_not_mem_renderLine (newline_not_mem_lines part hpart)
    refine split_unlines (by simp) ?_
    simp only [List.forall_mem_append, List.forall_mem_singleton]
    exact ⟨⟨hmark, hlines⟩, hmark⟩
  · simp only [render, if_neg hnewline]
    refine split_of_not_mem ?_
    simp [inTripleQuotes, newline_not_mem_tabs, newline_not_mem_tripleQuote, hnewline]

theorem shows_split_render (d : Docstring) : Shows d.level d.text (split '\n' d.render) := by
  by_cases hnewline : '\n' ∈ d.text
  · simp only [Shows, split_render, if_pos hnewline]
    exact {
      length_eq := by simp
      opens := by simp
      closes := List.getLast?_concat
      keeps := by simp [unindent?_renderLine] }
  · simp only [Shows, split_render, if_neg hnewline, List.map_cons, List.map_nil, unquote?_inTripleQuotes]

/-! ## Texts that look alike -/

/-- Only the quotes of a text with a newline have lines of their own. -/
theorem Shows.two_le_length_iff (h : Shows level text shown) : 2 ≤ shown.length ↔ '\n' ∈ text := by
  by_cases hnewline : '\n' ∈ text
  · simp only [Shows, if_pos hnewline] at h
    simp [h.length_eq, hnewline]
  · simp only [Shows, if_neg hnewline] at h
    have hone : shown.length = 1 := by simpa using congrArg List.length h
    simp [hone, hnewline]

theorem Shows.agree (h : Shows level text shown) (h' : Shows level other shown) :
    ('\n' ∈ text ↔ '\n' ∈ other) ∧ lines text = lines other := by
  have hiff : '\n' ∈ text ↔ '\n' ∈ other := h.two_le_length_iff.symm.trans h'.two_le_length_iff
  refine ⟨hiff, ?_⟩
  by_cases hnewline : '\n' ∈ text
  · simp only [Shows, if_pos hnewline] at h
    simp only [Shows, if_pos (hiff.1 hnewline)] at h'
    exact List.map_injective_iff.2 (fun _ _ => Option.some.inj) (h.keeps.symm.trans h'.keeps)
  · simp only [Shows, if_neg hnewline] at h
    simp only [Shows, if_neg (mt hiff.2 hnewline)] at h'
    have heq : text = other := by simpa using h.symm.trans h'
    rw [heq]

/-- Nothing else of a text is looked at. -/
theorem render_congr (hiff : '\n' ∈ text ↔ '\n' ∈ other) (hlines : lines text = lines other) :
    render ⟨text, level⟩ = render ⟨other, level⟩ := by
  by_cases hnewline : '\n' ∈ text
  · simp only [render, if_pos hnewline, if_pos (hiff.1 hnewline), hlines]
  · have hother : '\n' ∉ other := mt hiff.2 hnewline
    have heq : text = other := by
      calc text = (lines text).flatten := (flatten_lines hnewline).symm
        _ = (lines other).flatten := by rw [hlines]
        _ = other := flatten_lines hother
    rw [heq]

/-- The text of a docstring can be read off its lines, and two texts look alike at a level if and only if
they have the same lines, and both have a newline or neither has. -/
theorem text_can_be_read (d : Docstring) :
    Shows d.level d.text (split '\n' d.render) ∧
      ∀ other : Text, render ⟨other, d.level⟩ = d.render ↔
        ('\n' ∈ other ↔ '\n' ∈ d.text) ∧ lines other = lines d.text := by
  refine ⟨shows_split_render d, fun other => ⟨fun h => ?_, fun ⟨hiff, hlines⟩ => ?_⟩⟩
  · have hshows : Shows d.level other (split '\n' d.render) := h ▸ shows_split_render ⟨other, d.level⟩
    exact hshows.agree (shows_split_render d)
  · exact render_congr hiff hlines

-- A final newline gives the quotes lines of their own, and a carriage return before it goes.
example : split '\n' (render ⟨"\t\"\"\"\n\n \r\n".toList, 1⟩) =
    ["\t\"\"\"".toList, "\t\t\"\"\"".toList, [], "\t ".toList, "\t\"\"\"".toList] := by
  decide

end Docstring

end Scribe
