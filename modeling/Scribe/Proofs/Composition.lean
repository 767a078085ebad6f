import Scribe.Proofs.Outline
import Scribe.Proofs.Passages
import Scribe.Proofs.Rollback

/-!
# Documents are composed of their constructs

Whatever is written to a document, its finished text shows the header and then the texts of the
constructs, each as it would be normalized by itself.

* `Document.shown` — the lines that a document would show if it were finished now;
* `Document.write_of_ok` — what one write adds, for both policies;
* `Document.writeAll_shown` — what a run of writes does;
* `Document.finalize_writeAll` — the finished text.
-/

namespace Scribe

open Text

/-! ## Separation -/

namespace Document

theorem exists_replicate_of_trimNewlines (t : Text) :
    ∃ k, t = trimNewlines t ++ List.replicate k '\n' := by
  induction t with
  | nil => exact ⟨0, rfl⟩
  | cons c rest ih =>
    rcases ih with ⟨k, hk⟩
    simp only [trimNewlines]
    -- The first character can go only if nothing is kept of the rest.
    cases hrest : trimNewlines rest with
    | nil =>
      simp only [hrest, List.nil_append] at hk
      by_cases hc : c = '\n'
      · exact ⟨k + 1, by rw [if_pos hc, hc, hk]; rfl⟩
      · exact ⟨k, by simp only [if_neg hc, hk]; rfl⟩
    | cons d more =>
      simp only [hrest] at hk
      exact ⟨k, congrArg (c :: ·) hk⟩

theorem visibleLines_trimNewlines (t : Text) : visibleLines (trimNewlines t) = visibleLines t := by
  rcases exists_replicate_of_trimNewlines t with ⟨k, hk⟩
  calc visibleLines (trimNewlines t)
      = visibleLines (trimNewlines t ++ List.replicate k '\n') :=
        (visibleLines_append_replicate _ k).symm
    _ = visibleLines t := by simp only [← hk]

theorem opensLine_trimNewlines {t : Text} (h : t.OpensLine) : OpensLine (trimNewlines t) := by
  rcases h with rfl | ⟨u, rfl⟩
  · exact .inl rfl
  · simp only [trimNewlines]
    split
    · exact .inl rfl
    · exact .inr ⟨_, rfl⟩

/-- The text form of a construct is kept away from what stands before it. -/
theorem opensLine_separated {c : Construct} {t : Text} (h : c.renderFresh = .ok t) :
    OpensLine (separated c t) := by
  have hrender : (c.topDown c.level).render = .ok t := by
    simpa only [Construct.renderFresh, Construct.restamp_eq_topDown] using h
  have hitem : (c.topDown c.level).renderItem = .ok (separated c t) := by
    simp only [Construct.renderItem, hrender, Construct.isLine_topDown, separated]
    split <;> rfl
  rcases (c.renderItem_shows c.level).text (Construct.complete_of_renderFresh h) with
    ⟨u, hu, hopens, _⟩
  rw [hitem] at hu
  rcases Except.ok.inj hu with rfl
  exact hopens

theorem visibleLines_separated (c : Construct) (t : Text) :
    visibleLines (separated c t) = visibleLines t := by
  simp only [separated]
  split
  · exact visibleLines_newline t
  · rfl

theorem visibleLines_appendText (d : Document) {t : Text} (h : t.OpensLine) :
    visibleLines (d.appendText t).contents = visibleLines d.contents ++ visibleLines t := by
  simp only [appendText, visibleLines_append _ (opensLine_trimNewlines h), visibleLines_trimNewlines]

theorem visibleLines_headerLine (header : Text) :
    visibleLines (headerLine header) = visibleLines header := by
  simp only [headerLine]
  split
  · rename_i hempty
    simp only [hempty]
  · simp only [visibleLines_append_newline, visibleLines_nil, List.append_nil]

/-! ## One write -/

/-- The lines that a document would show if a normalizer finished it now. -/
def shown (n : Normalizer) (d : Document) : List Text :=
  (visibleLines d.contents).map n.restyle

section Writes

variable {n : Normalizer} {d : Document} {c : Construct}

theorem shown_eq (n : Normalizer) (d : Document) :
    shown n d = visibleLines (n.reformat d.contents) :=
  (n.visibleLines_reformat d.contents).symm

/-- Normalizing early does not change what is shown in the end. -/
theorem shown_reformat (hformatter : d.formatter = n.formatter) :
    d.reformat = ({ d with contents := n.reformat d.contents }, .ok ()) ∧
      shown n d.reformat.1 = shown n d := by
  have hreformat : d.reformat = ({ d with contents := n.reformat d.contents }, .ok ()) := by
    simp only [reformat, hformatter]
    rfl
  refine ⟨hreformat, ?_⟩
  simp only [hreformat]
  -- A line that was brought into its form once keeps it.
  exact n.map_restyle_visibleLines_reformat d.contents

theorem shown_appendText {t : Text} (h : c.renderFresh = .ok t) :
    shown n (d.appendText (separated c t)) = shown n d ++ visibleLines (n.reformat t) := by
  simp only [shown, visibleLines_appendText d (opensLine_separated h), visibleLines_separated,
    List.map_append, n.visibleLines_reformat]

/-- A construct with a text form adds the lines of that, under either policy. -/
theorem write_of_ok (hformatter : d.formatter = n.formatter) {t : Text} (h : c.renderFresh = .ok t) :
    (d.write c).document.formatter = n.formatter ∧ (d.write c).result = .ok () ∧
      shown n (d.write c).document = shown n d ++ visibleLines (n.reformat t) := by
  have happended : (d.appendText (separated c t)).formatter = n.formatter := hformatter
  cases hpolicy : d.policy with
  | onFinalize =>
    simp only [write_onFinalize hpolicy h]
    exact ⟨hformatter, trivial, shown_appendText h⟩
  | eachWrite =>
    have hformatted : d.formatter (d.appendText (separated c t)).contents =
        .ok (n.reformat (d.appendText (separated c t)).contents) := by
      rw [hformatter]
      rfl
    rcases shown_reformat happended with ⟨hreformat, hshown⟩
    simp only [hreformat] at hshown
    simp only [write_eachWrite_of_ok hpolicy h hformatted]
    exact ⟨hformatter, trivial, hshown.trans (shown_appendText h)⟩

/-! ## A run of writes -/

theorem writeAll_cons (d : Document) (c : Construct) (rest : List Construct) :
    d.writeAll (c :: rest) =
      (((d.write c).document.writeAll rest).1,
        (d.write c).result :: ((d.write c).document.writeAll rest).2) := rfl

/-- Every write does what its construct says, whatever came before. -/
theorem writeAll_shown (hformatter : d.formatter = n.formatter) (cs : List Construct) :
    (d.writeAll cs).1.formatter = n.formatter ∧
      (d.writeAll cs).2 =
        cs.map (fun c => (c.renderFresh.mapError WriteError.build).map fun _ => ()) ∧
      shown n (d.writeAll cs).1 = shown n d ++
        (cs.filterMap fun c => c.renderFresh.toOption).flatMap fun t =>
          visibleLines (n.reformat t) := by
  -- The induction is on the constructs, with the document of any write as the first one.
  induction cs generalizing d with
  | nil => exact ⟨hformatter, rfl, (List.append_nil _).symm⟩
  | cons c rest ih =>
    simp only [writeAll_cons]
    cases hc : c.renderFresh with
    | error e =>
      -- The rest of the run begins where this write began.
      simp only [write_of_error (d := d) hc]
      rcases ih hformatter with ⟨hkept, hresults, hshown⟩
      refine ⟨hkept, ?_, ?_⟩
      · simp only [List.map_cons, hc, hresults]
        rfl
      · simpa [hc, Except.toOption] using hshown
    | ok t =>
      rcases write_of_ok hformatter hc with ⟨hformatter', hresult, hshown'⟩
      rcases ih hformatter' with ⟨hkept, hresults, hshown⟩
      refine ⟨hkept, ?_, ?_⟩
      · simp only [List.map_cons, hc, hresult, hresults]
        rfl
      · simp only [hshown, hshown']
        simp [hc, Except.toOption]

end Writes

/-- The finished text shows the header and the texts of all constructs that have one, in order and
each as it would be normalized by itself; a write fails if and only if its construct has no text. Every
visible line of the header and of these texts comes out once, indented anew and without the blanks at its
end. -/
theorem finalize_writeAll (d : Document) (header : Text) (policy : ReformatPolicy) (n : Normalizer)
    (cs : List Construct) :
    let start := ((d.setHeader header).setPolicy policy).setFormatter n.formatter
    (start.writeAll cs).2 =
        cs.map (fun c => (c.renderFresh.mapError WriteError.build).map fun _ => ()) ∧
      ∃ text, (start.writeAll cs).1.finalize = .ok text ∧
        visibleLines text = visibleLines (n.reformat header) ++
          ((cs.filterMap fun c => c.renderFresh.toOption).flatMap fun t =>
            visibleLines (n.reformat t)) ∧
        visibleLines text = (visibleLines header ++
          (cs.filterMap fun c => c.renderFresh.toOption).flatMap visibleLines).map n.codeLine := by
  intro start
  -- The newline after the header adds no line to it.
  have hstart : shown n start = visibleLines (n.reformat header) := by
    simp only [shown, n.visibleLines_reformat]
    exact congrArg _ (visibleLines_headerLine header)
  rcases writeAll_shown (d := start) rfl cs with ⟨hformatter, hresults, hshown⟩
  have htext : visibleLines (n.reformat (start.writeAll cs).1.contents) =
      visibleLines (n.reformat header) ++
        (cs.filterMap fun c => c.renderFresh.toOption).flatMap fun t =>
          visibleLines (n.reformat t) := by
    simp only [← shown_eq, hshown, hstart]
  refine ⟨hresults, n.reformat (start.writeAll cs).1.contents, ?_, htext, ?_⟩
  · simp only [finalize, (shown_reformat hformatter).1]
  · simp only [htext, n.visibleLines_reformat_eq_map_codeLine, List.map_append, List.map_flatMap]

-- The chain has no text form, and the line before it stays apart from the line after it.
example : (((Document.named "a.py".toList).setPolicy .eachWrite).writeAll
    [.snippet { code := "x()".toList }, .chain { elseActions := [] },
      .assignment { name := "y".toList, value := .raw "1".toList }]).1.finalize =
        .ok "# This file was generated by Jenna\n\nx()\n\ny = 1\n".toList := by
  cbv

end Document

end Scribe
