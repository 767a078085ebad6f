import Scribe.Proofs.Composition
import Scribe.Proofs.NormalForm

/-!
# Documents that are formatted at every write

If a document is to be formatted at every write, its contents are formatted text from the first
successful write on, whatever fails later.

* `Normalizer.idempotent_formatter` — a normalizer is a formatter as it should be;
* `Document.IsFormatted` — the formatter has nothing left to do;
* `Document.isFormatted_write`, `Document.isFormatted_writeAll` — what a write does, and what a run does;
* `Document.eachWrite_stays_formatted` — formatting and finishing such a document change nothing.
-/

namespace Scribe

open Text

theorem Normalizer.idempotent_formatter (n : Normalizer) : n.formatter.Idempotent := by
  intro s t h
  have hnormal : n.IsNormal (n.reformat s) := n.isNormal_reformat s
  cases h
  exact congrArg Except.ok (n.reformat_eq_self hnormal)

namespace Document

variable {d : Document} {c : Construct}

/-- The formatter accepts the contents and leaves them as they are. -/
def IsFormatted (d : Document) : Prop := d.formatter d.contents = .ok d.contents

theorem reformat_of_isFormatted (h : d.IsFormatted) : d.reformat = (d, .ok ()) := by
  have hcontents : d.formatter d.contents = .ok d.contents := h
  simp only [reformat, hcontents]

theorem finalize_of_isFormatted (h : d.IsFormatted) : d.finalize = .ok d.contents := by
  simp only [finalize, reformat_of_isFormatted h]

/-! ## One write -/

/-- A write touches nothing of a document but its contents. -/
theorem exists_contents_write (d : Document) (c : Construct) :
    ∃ contents, (d.write c).document = { d with contents } := by
  rcases d.write_cases c with ⟨_, _, hwrite⟩ | ⟨_, _, _, hwrite⟩ | ⟨_, u, _, _, _, hwrite⟩ |
    ⟨_, _, _, _, _, hwrite⟩
  · exact ⟨d.contents, by rw [hwrite]⟩
  · exact ⟨_, by rw [hwrite, appendText]⟩
  · exact ⟨u, by rw [hwrite]⟩
  · exact ⟨d.contents, by rw [hwrite]⟩

/-- A write that succeeds leaves what the formatter returned, and one that fails leaves what was there
before. -/
theorem isFormatted_write (hpolicy : d.policy = .eachWrite) (hformatter : d.formatter.Idempotent)
    (h : d.IsFormatted ∨ (d.write c).result = .ok ()) : (d.write c).document.IsFormatted := by
  rcases d.write_cases c with ⟨e, _, hwrite⟩ | ⟨t, _, hdeferred, _⟩ | ⟨t, u, _, _, haccepted, hwrite⟩ |
    ⟨t, cause, _, _, _, hwrite⟩
  · simp only [hwrite, reduceCtorEq, or_false] at h ⊢
    exact h
  · -- The document is not one that is formatted later.
    rw [hpolicy] at hdeferred
    cases hdeferred
  · simp only [hwrite]
    exact hformatter _ u haccepted
  · simp only [hwrite, reduceCtorEq, or_false] at h ⊢
    exact h

/-! ## A run of writes -/

/-- Once a document is formatted, no run of writes changes that, and one success is enough to get
there. -/
theorem isFormatted_writeAll (hpolicy : d.policy = .eachWrite) (hformatter : d.formatter.Idempotent)
    {cs : List Construct} (h : d.IsFormatted ∨ .ok () ∈ (d.writeAll cs).2) :
    (d.writeAll cs).1.IsFormatted ∧ (d.writeAll cs).1.formatter = d.formatter := by
  -- The induction is on the constructs; policy and formatter stay the same from write to write.
  induction cs generalizing d with
  | nil =>
    refine ⟨h.resolve_right fun hmem => ?_, rfl⟩
    exact List.not_mem_nil hmem
  | cons c rest ih =>
    obtain ⟨contents, hkept⟩ := d.exists_contents_write c
    have hpolicy' : (d.write c).document.policy = .eachWrite := by simp only [hkept, hpolicy]
    have hsame : (d.write c).document.formatter = d.formatter := by simp only [hkept]
    have hnext : (d.write c).document.IsFormatted ∨
        .ok () ∈ ((d.write c).document.writeAll rest).2 := by
      rcases h with hbefore | hmem
      · exact .inl (isFormatted_write hpolicy hformatter (.inl hbefore))
      · rcases List.mem_cons.1 hmem with hfirst | hrest
        · exact .inl (isFormatted_write hpolicy hformatter (.inr hfirst.symm))
        · exact .inr hrest
    simp only [writeAll_cons]
    rcases ih hpolicy' (hsame ▸ hformatter) hnext with ⟨hformatted, hrest⟩
    exact ⟨hformatted, hrest.trans hsame⟩

/-- A document that is formatted at every write, by a formatter that leaves alone what it returned, and
by any normalizer in particular, is formatted text after every run of writes of which one succeeded: to
format it once more, or to finish it, succeeds and changes nothing. -/
theorem eachWrite_stays_formatted {d : Document} {cs : List Construct}
    (hpolicy : d.policy = .eachWrite)
    (hformatter : d.formatter.Idempotent ∨ ∃ n : Normalizer, d.formatter = n.formatter)
    (hsuccess : .ok () ∈ (d.writeAll cs).2) :
    let last := (d.writeAll cs).1
    d.formatter last.contents = .ok last.contents ∧
      last.reformat = (last, .ok ()) ∧ last.finalize = .ok last.contents := by
  intro last
  have hidempotent : d.formatter.Idempotent := by
    rcases hformatter with hidempotent | ⟨n, hn⟩
    · exact hidempotent
    · exact hn ▸ n.idempotent_formatter
  rcases isFormatted_writeAll hpolicy hidempotent (.inr hsuccess) with ⟨hformatted, hsame⟩
  have hcontents : d.formatter last.contents = .ok last.contents := hsame ▸ hformatted
  exact ⟨hcontents, reformat_of_isFormatted hformatted, finalize_of_isFormatted hformatted⟩

/-- The formatter cuts off blanks and refuses an x. A chain that nothing opens is followed by a line
that is accepted and one that is refused. -/
theorem eachWrite_stays_formatted_between_failures :
    let strict : Formatter := fun t => if 'x' ∈ t then .error "no".toList else .ok (trimEnd t)
    let d := ((named "a.py".toList).setPolicy .eachWrite).setFormatter strict
    let run := d.writeAll [.chain { elseActions := [] }, .snippet { code := "y  ".toList },
      .snippet { code := "x".toList }]
    run.2 = [.error (.build .missingPrimary), .ok (), .error (.reformat "a.py".toList "no".toList)] ∧
      run.1.contents = "# This file was generated by Jenna\n\ny".toList ∧
      strict run.1.contents = .ok run.1.contents ∧
      run.1.reformat = (run.1, .ok ()) ∧ run.1.finalize = .ok run.1.contents := by
  intro strict d run
  have hidempotent : d.formatter.Idempotent := by
    intro s t h
    have hstrict : strict s = .ok t := h
    simp only [strict] at hstrict
    split at hstrict
    · cases hstrict
    · rename_i hx
      cases hstrict
      have hx' : 'x' ∉ trimEnd s := fun hmem => hx (mem_of_mem_trimEnd hmem)
      show strict (trimEnd s) = .ok (trimEnd s)
      simp only [strict, if_neg hx', trimEnd_trimEnd]
  have hresults : run.2 = [.error (.build .missingPrimary), .ok (),
      .error (.reformat "a.py".toList "no".toList)] := by
    simp only [run, writeAll_cons, writeAll]
    cbv
  have hsuccess : .ok () ∈ run.2 := by
    rw [hresults]
    exact List.mem_cons_of_mem _ List.mem_cons_self
  exact ⟨hresults, by cbv, eachWrite_stays_formatted rfl (.inl hidempotent) hsuccess⟩

end Document

end Scribe
