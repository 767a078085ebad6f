import Scribe.Proofs.FileNames
import Scribe.Proofs.Settled
import Scribe.Settings.Basic

/-!
# Names of documents

Every way to make a document checks its name, or makes up one that would pass the check, and nothing
changes it from then on.

* `Naming.isDocumentName_defaultDocumentName` — the digits of any number make a name;
* `Document.ofSettings_cases` — whether settings describe a document, and which;
* `Document.Reachable.isDocumentName` — the name of a document with any history.
-/

namespace Scribe

open Text

/-! ## Names -/

namespace Naming

theorem isWordChar_of_isDigit {c : Char} (h : c.isDigit = true) : isWordChar c = true := by
  -- The decimal digits of ASCII are the first range of the table.
  have hnumeral : isNumeral c = true := by
    have hbounds : 48 ≤ c.toNat ∧ c.toNat ≤ 57 := by
      simpa [Char.isDigit, UInt32.le_iff_toNat_le] using h
    have hcovers : CodeRange.covers (⟨48, 57, 1⟩ :: numeralRanges.tail) c.toNat = true := by
      simp [CodeRange.covers, Nat.not_lt.2 hbounds.1, hbounds.2, Nat.mod_one]
    exact hcovers
  simp only [isWordChar, hnumeral, Bool.or_true, Bool.true_or]

/-- The name made up from a count of seconds passes the check, whatever the count. -/
theorem isDocumentName_defaultDocumentName (seconds : Nat) :
    isDocumentName (defaultDocumentName seconds) = true := by
  have hprefix : ∀ c ∈ "jenna_output_".toList, isWordChar c = true :=
    List.all_eq_true.1 (by decide)
  refine isDocumentName_append_pythonEnding ?_ fun c hc => ?_
  · exact List.append_ne_nil_of_left_ne_nil (List.cons_ne_nil _ _) _
  · rcases List.mem_append.1 hc with hword | hdigit
    · exact hprefix c hword
    · exact isWordChar_of_isDigit (Nat.isDigit_of_mem_toDigits (by decide) (by decide) hdigit)

end Naming

namespace Document

open Naming

/-! ## Making a document -/

theorem new_of_isDocumentName {name : Text} (h : isDocumentName name = true) :
    new name = .ok (named name) := by
  simp only [new, checkName, h, if_true]
  rfl

theorem new_of_not_isDocumentName {name : Text} (h : isDocumentName name = false) :
    new name = .error (.invalidDocumentName name) := by
  simp only [new, checkName, h]
  rfl

/-- The document that settings describe, once there is one with its name. -/
def dressed (s : Settings) (d : Document) : Document :=
  ((d.setHeader s.document.header).setPolicy s.document.reformat).setFormatter
    s.format.normalizer.formatter

theorem ofSettings_of_none {s : Settings} (seconds : Nat) (h : s.document.name = none) :
    ofSettings seconds s = .ok (dressed s (untitled seconds)) := by
  simp only [ofSettings, h]
  rfl

theorem ofSettings_of_isDocumentName {s : Settings} {name : Text} (seconds : Nat)
    (h : s.document.name = some name) (hname : isDocumentName name = true) :
    ofSettings seconds s = .ok (dressed s (named name)) := by
  simp only [ofSettings, h, new_of_isDocumentName hname]
  rfl

theorem ofSettings_of_not_isDocumentName {s : Settings} {name : Text} (seconds : Nat)
    (h : s.document.name = some name) (hname : isDocumentName name = false) :
    ofSettings seconds s = .error (.invalidDocumentName name) := by
  simp only [ofSettings, h, new_of_not_isDocumentName hname]
  rfl

/-- Settings describe a document unless they give it a name that no document can have. -/
theorem ofSettings_cases (seconds : Nat) (s : Settings) :
    (∃ name, s.document.name = some name ∧ isDocumentName name = false ∧
      ofSettings seconds s = .error (.invalidDocumentName name)) ∨
    ∃ name, name = s.document.name.getD (defaultDocumentName seconds) ∧ isDocumentName name = true ∧
      ofSettings seconds s = .ok (dressed s (named name)) := by
  cases hgiven : s.document.name with
  | none =>
    exact .inr ⟨_, rfl, isDocumentName_defaultDocumentName seconds, ofSettings_of_none seconds hgiven⟩
  | some name =>
    cases hname : isDocumentName name with
    | false => exact .inl ⟨name, rfl, hname, ofSettings_of_not_isDocumentName seconds hgiven hname⟩
    | true => exact .inr ⟨name, rfl, hname, ofSettings_of_isDocumentName seconds hgiven hname⟩

theorem ofSettings_eq_error_iff {seconds : Nat} {s : Settings} {e : BuildError} :
    ofSettings seconds s = .error e ↔
      ∃ name, s.document.name = some name ∧ isDocumentName name = false ∧
        e = .invalidDocumentName name := by
  constructor
  · intro h
    rcases ofSettings_cases seconds s with ⟨name, hgiven, hname, heq⟩ | ⟨name, _, _, heq⟩
    · exact ⟨name, hgiven, hname, Except.error.inj (h.symm.trans heq)⟩
    · rw [heq] at h
      cases h
  · rintro ⟨name, hgiven, hname, rfl⟩
    exact ofSettings_of_not_isDocumentName seconds hgiven hname

/-! ## Using a document -/

theorem exists_contents_reformat (d : Document) : ∃ contents, d.reformat.1 = { d with contents } := by
  simp only [reformat]
  cases d.formatter d.contents with
  | ok contents => exact ⟨contents, rfl⟩
  | error cause => exact ⟨d.contents, rfl⟩

/-- Whatever is done with a document, it has a valid name. -/
theorem Reachable.isDocumentName {d : Document} (h : d.Reachable) : isDocumentName d.name = true := by
  -- The induction is on the history; only its beginning has to do with the name.
  induction h with
  | @new name d hnew =>
    cases hname : Naming.isDocumentName name with
    | false =>
      rw [new_of_not_isDocumentName hname] at hnew
      cases hnew
    | true =>
      rw [new_of_isDocumentName hname] at hnew
      cases hnew
      exact hname
  | untitled seconds => exact isDocumentName_defaultDocumentName seconds
  | @ofSettings seconds s d hof =>
    rcases ofSettings_cases seconds s with ⟨name, _, _, heq⟩ | ⟨name, _, hname, heq⟩
    · rw [heq] at hof
      cases hof
    · rw [heq] at hof
      cases hof
      exact hname
  | setHeader header _ ih => exact ih
  | setPolicy policy _ ih => exact ih
  | setFormatter f _ ih => exact ih
  | appendText text _ ih => exact ih
  | @write d c _ ih =>
    obtain ⟨contents, hkept⟩ := d.exists_contents_write c
    simp only [hkept, ih]
  | @reformat d _ ih =>
    obtain ⟨contents, hkept⟩ := d.exists_contents_reformat
    simp only [hkept, ih]

end Document

end Scribe
