import Scribe.Document.Session
import Scribe.Proofs.Stamping

/-!
# Failures leave no trace

A call that fails leaves the document as it was, and all that it leaves of a construct is that it was
stamped, which the next write would have done anyway. So a run can be thinned out to its successful
calls without a difference.

* `Document.document_of_write_error`, `Document.document_of_reformat_error` — a failing call;
* `Document.write_eq_ok_iff` — which writes succeed;
* `Session.Alike` — what a run cannot tell apart, with the step lemma `Session.Alike.call`;
* `Session.events_of_successful_calls` — the run without its failing calls;
* `Session.failures_leave_no_trace` — all of this.
-/

namespace Scribe

open Text

/-! ## One call -/

theorem Construct.restamp_restamp (c : Construct) : c.restamp.restamp = c.restamp := by
  simp only [Construct.restamp_eq_topDown, Construct.level_topDown, Construct.topDown_topDown]

namespace Document

variable {d : Document} {c : Construct}

theorem separated_restamp (c : Construct) (t : Text) : separated c.restamp t = separated c t := by
  simp only [separated, Construct.restamp_eq_topDown, Construct.isLine_topDown]

/-- A construct without text form leaves the document as it was. -/
theorem write_of_error {e : BuildError} (h : c.renderFresh = .error e) :
    d.write c = { document := d, construct := c.restamp, result := .error (.build e) } := by
  have hrender : c.restamp.render = .error e := h
  simp only [write, hrender]

/-- If the document is to be formatted later, then a text form is all that a write needs. -/
theorem write_onFinalize {t : Text} (hpolicy : d.policy = .onFinalize)
    (h : c.renderFresh = .ok t) :
    d.write c =
      { document := d.appendText (separated c t), construct := c.restamp, result := .ok () } := by
  have hrender : c.restamp.render = .ok t := h
  simp only [write, hrender, hpolicy, separated_restamp]

theorem write_eachWrite_of_ok {t u : Text} (hpolicy : d.policy = .eachWrite)
    (h : c.renderFresh = .ok t)
    (hformatted : d.formatter (d.appendText (separated c t)).contents = .ok u) :
    d.write c =
      { document := { d with contents := u }, construct := c.restamp, result := .ok () } := by
  have hrender : c.restamp.render = .ok t := h
  have hreformat : (d.appendText (separated c t)).reformat =
      ({ d with contents := u }, .ok ()) := by
    simp only [reformat, show (d.appendText (separated c t)).formatter = d.formatter from rfl,
      hformatted]
    rfl
  simp only [write, hrender, hpolicy, separated_restamp, hreformat]

/-- The text that the formatter refuses is taken back. -/
theorem write_eachWrite_of_error {t cause : Text} (hpolicy : d.policy = .eachWrite)
    (h : c.renderFresh = .ok t)
    (hrefused : d.formatter (d.appendText (separated c t)).contents = .error cause) :
    d.write c =
      { document := d, construct := c.restamp, result := .error (.reformat d.name cause) } := by
  have hrender : c.restamp.render = .ok t := h
  have hreformat : (d.appendText (separated c t)).reformat =
      (d.appendText (separated c t), .error (.reformat d.name cause)) := by
    simp only [reformat, show (d.appendText (separated c t)).formatter = d.formatter from rfl,
      hrefused]
    rfl
  simp only [write, hrender, hpolicy, separated_restamp, hreformat]
  rfl

/-- All that a write can do. -/
theorem write_cases (d : Document) (c : Construct) :
    (∃ e, c.renderFresh = .error e ∧ d.write c = ⟨d, c.restamp, .error (.build e)⟩) ∨
    (∃ t, c.renderFresh = .ok t ∧ d.policy = .onFinalize ∧
      d.write c = ⟨d.appendText (separated c t), c.restamp, .ok ()⟩) ∨
    (∃ t u, c.renderFresh = .ok t ∧ d.policy = .eachWrite ∧
      d.formatter (d.appendText (separated c t)).contents = .ok u ∧
      d.write c = ⟨{ d with contents := u }, c.restamp, .ok ()⟩) ∨
    (∃ t cause, c.renderFresh = .ok t ∧ d.policy = .eachWrite ∧
      d.formatter (d.appendText (separated c t)).contents = .error cause ∧
      d.write c = ⟨d, c.restamp, .error (.reformat d.name cause)⟩) := by
  cases hrender : c.renderFresh with
  | error e => exact .inl ⟨e, rfl, write_of_error hrender⟩
  | ok t =>
    refine .inr ?_
    have hpolicies : d.policy = .onFinalize ∨ d.policy = .eachWrite := by
      cases d.policy with
      | onFinalize => exact .inl rfl
      | eachWrite => exact .inr rfl
    rcases hpolicies with hpolicy | hpolicy
    · exact .inl ⟨t, rfl, hpolicy, write_onFinalize hpolicy hrender⟩
    · refine .inr ?_
      cases hformatter : d.formatter (d.appendText (separated c t)).contents with
      | ok u =>
        exact .inl
          ⟨t, u, rfl, hpolicy, hformatter, write_eachWrite_of_ok hpolicy hrender hformatter⟩
      | error cause =>
        exact .inr
          ⟨t, cause, rfl, hpolicy, hformatter, write_eachWrite_of_error hpolicy hrender hformatter⟩

theorem construct_write (d : Document) (c : Construct) : (d.write c).construct = c.restamp := by
  rcases d.write_cases c with ⟨_, _, hwrite⟩ | ⟨_, _, _, hwrite⟩ | ⟨_, _, _, _, _, hwrite⟩ |
    ⟨_, _, _, _, _, hwrite⟩
  all_goals simp only [hwrite]

theorem document_of_write_error {e : WriteError} (h : (d.write c).result = .error e) :
    (d.write c).document = d := by
  rcases d.write_cases c with ⟨_, _, hwrite⟩ | ⟨_, _, _, hwrite⟩ | ⟨_, _, _, _, _, hwrite⟩ |
    ⟨_, _, _, _, _, hwrite⟩
  · simp only [hwrite]
  · simp only [hwrite] at h
    cases h
  · simp only [hwrite] at h
    cases h
  · simp only [hwrite]

/-- A write needs a text form, and the consent of the formatter if that is asked at every write. -/
theorem write_eq_ok_iff :
    (d.write c).result = .ok () ↔ ∃ t, c.renderFresh = .ok t ∧
      (d.policy = .eachWrite → ∃ u, d.formatter (d.appendText (separated c t)).contents = .ok u) := by
  rcases d.write_cases c with ⟨e, hrender, hwrite⟩ | ⟨t, hrender, hpolicy, hwrite⟩ |
    ⟨t, u, hrender, hpolicy, hformatter, hwrite⟩ | ⟨t, cause, hrender, hpolicy, hformatter, hwrite⟩
  · simp [hwrite, hrender]
  · simp [hwrite, hrender, hpolicy]
  · simp [hwrite, hrender, hformatter]
  · simp [hwrite, hrender, hpolicy, hformatter]

theorem write_congr {c' : Construct} (h : c.restamp = c'.restamp) : d.write c = d.write c' := by
  simp only [write, h]

theorem document_of_reformat_error {e : WriteError} (h : d.reformat.2 = .error e) :
    d.reformat.1 = d := by
  simp only [reformat] at h ⊢
  cases hformatter : d.formatter d.contents with
  | ok contents =>
    simp only [hformatter] at h
    cases h
  | error cause => rfl

end Document

/-! ## Runs -/

namespace Session

/-- Two sessions differ at most in the levels of constructs that the next stamping will replace. -/
structure Alike (s u : Session) : Prop where
  document : s.document = u.document
  held : ∀ slot, (s.held slot).restamp = (u.held slot).restamp

namespace Alike

variable {s u v : Session}

theorem refl (s : Session) : Alike s s := ⟨rfl, fun _ => rfl⟩

theorem symm (h : Alike s u) : Alike u s := ⟨h.document.symm, fun slot => (h.held slot).symm⟩

theorem trans (h : Alike s u) (h' : Alike u v) : Alike s v :=
  ⟨h.document.trans h'.document, fun slot => (h.held slot).trans (h'.held slot)⟩

/-- No call can tell them apart, nor brings out a difference. -/
theorem call (h : Alike s u) (call : DocumentCall) :
    (s.call call).2 = (u.call call).2 ∧ Alike (s.call call).1 (u.call call).1 := by
  have hdocument := h.document
  cases call with
  | write slot =>
    have hwrite : s.document.write (s.held slot) = u.document.write (u.held slot) := by
      simp only [hdocument, Document.write_congr (h.held slot)]
    refine ⟨by simp only [Session.call, hwrite], ?_, fun other => ?_⟩
    · simp only [Session.call, hold, hwrite]
    · simp only [Session.call, hold, hwrite]
      split
      · rfl
      · exact h.held other
  | append text =>
    exact ⟨rfl, by simp only [Session.call, hdocument], h.held⟩
  | reformat =>
    simp only [Session.call, hdocument]
    exact ⟨trivial, rfl, h.held⟩

/-- After a failing call nothing has happened but that a construct was stamped. -/
theorem of_call_error {call : DocumentCall} {e : WriteError} (h : (s.call call).2 = .error e) :
    Alike (s.call call).1 s := by
  cases call with
  | write slot =>
    refine ⟨Document.document_of_write_error h, fun other => ?_⟩
    simp only [Session.call, hold, Document.construct_write]
    split
    · rename_i heq
      simp only [heq, Construct.restamp_restamp]
    · rfl
  | append text => cases h
  | reformat => exact ⟨Document.document_of_reformat_error h, fun _ => rfl⟩

end Alike

/-- The run of the calls that succeed has the same results, and the same document after each. -/
theorem events_of_successful_calls {s u : Session} (h : Alike s u) (calls : List DocumentCall) :
    u.events (((s.events calls).filter Event.succeeded).map Event.call) =
      (s.events calls).filter Event.succeeded := by
  -- The second session lags behind the first by the stampings of the failing writes.
  induction calls generalizing s u with
  | nil => rfl
  | cons call rest ih =>
    simp only [events_cons]
    cases hresult : (s.call call).2 with
    | error e =>
      have hnext : Alike (s.call call).1 u := (Alike.of_call_error hresult).trans h
      rw [List.filter_cons_of_neg Bool.false_ne_true]
      exact ih hnext
    | ok _ =>
      rcases h.call call with ⟨hsame, hnext⟩
      rw [List.filter_cons_of_pos rfl, List.map_cons]
      simp only [events_cons, ih hnext, ← hsame, hresult, hnext.document]

/-- A call that fails leaves the document as it was, and a run without its failing calls has the same
results and documents, although every write, a failing one too, leaves its construct stamped. A write
succeeds if and only if the construct has a text form and, where the document is formatted at every
write, the formatter accepts the contents with that text. -/
theorem failures_leave_no_trace (s : Session) (calls : List DocumentCall) :
    (∀ (u : Session) call e, (u.call call).2 = .error e → (u.call call).1.document = u.document) ∧
    (let kept := (s.events calls).filter Event.succeeded
     s.events (kept.map Event.call) = kept) ∧
    (∀ (d : Document) c, (d.write c).construct = c.restamp ∧
      ((d.write c).result = .ok () ↔ ∃ t, c.renderFresh = .ok t ∧
        (d.policy = .eachWrite →
          ∃ u, d.formatter (d.appendText (Document.separated c t)).contents = .ok u))) :=
  ⟨fun _ _ _ h => (Alike.of_call_error h).document,
    events_of_successful_calls (Alike.refl s) calls,
    fun d c => ⟨d.construct_write c, Document.write_eq_ok_iff⟩⟩

-- The formatter refuses any text with an x in it; the write is taken back, and the run goes on.
example :
    let refuses : Formatter := fun t => if t.contains 'x' then .error "no".toList else .ok t
    let d := ((Document.named "a.py".toList).setHeader "#".toList).setFormatter refuses
    (events ⟨d.setPolicy .eachWrite, fun _ => .snippet { code := "x".toList }⟩
        [.append "y".toList, .write 0, .reformat]).map (fun e => e.document.contents) =
      ["#\ny".toList, "#\ny".toList, "#\ny".toList] := by
  cbv

end Session

end Scribe
