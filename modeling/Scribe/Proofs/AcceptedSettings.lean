import Scribe.Proofs.DocumentNames
import Scribe.Proofs.Results
import Scribe.Settings.Load

/-!
# Accepted settings describe a document

Settings that were read from a source have passed all checks, so that nothing is left that could keep
them from describing a document.

* `SectionReader.read_keeps` — what the taking over of every field keeps, the reading of a section keeps;
* `Decode.inRange_indent`, `Settings.inRange_of_decodeWith` — the indentation unit is within its range;
* `Settings.decodeWith_of_loadWith` — the name is one that a document can have;
* `Settings.documents_have_valid_names` — names, units and documents of accepted settings.
-/

namespace Scribe

open Text Toml

/-! ## Sections -/

namespace SectionReader

variable {σ : Type} {r : SectionReader σ} {p : σ → Prop}

theorem setKey_keeps (hset : ∀ field span item s t, p s → r.set field span item s = .ok t → p t)
    {m : Key × Spanned Item} {s t : σ} (hs : p s) (ht : r.setKey s m = .ok t) : p t := by
  simp only [setKey] at ht
  split at ht
  · exact hset _ _ _ _ _ hs ht
  · cases ht

/-- What the taking over of every field keeps, the reading of the section keeps. -/
theorem read_keeps (hset : ∀ field span item s t, p s → r.set field span item s = .ok t → p t)
    {initial s : σ} {item : Spanned Item} (hinitial : p initial) (hs : r.read initial item = .ok s) :
    p s := by
  simp only [read] at hs
  split at hs
  · exact foldlM_keeps (fun _ _ _ => setKey_keeps hset) hinitial hs
  · exact foldlM_keeps (fun s x t hs => hset x.1 item.span x.2 s t hs) hinitial hs
  · cases hs
  · cases hs

end SectionReader

/-! ## Indentation units -/

/-- The width is compared as it is written, before it is made a natural number. -/
theorem Decode.inRange_indent {span : Span} {item : Spanned Item} {indent : Indent}
    (h : Decode.indent span item = .ok indent) : indent.InRange := by
  simp only [Decode.indent] at h
  split at h
  · cases h
  · split at h
    · rename_i n _
      split at h
      · rename_i hrange
        cases h
        simp only [Indent.InRange]
        omega
      · split at h <;> cases h
    · split at h
      · cases h
        trivial
      · cases h
    · cases h

theorem FormatSettings.inRange_of_ofItem {item : Spanned Item} {f : FormatSettings}
    (h : FormatSettings.ofItem item = .ok f) : f.indent.InRange := by
  refine SectionReader.read_keeps (p := fun f => f.indent.InRange) ?_ ?_ h
  · intro field span value s t hs ht
    simp only [reader] at ht
    -- Only one of the two fields has to do with the unit.
    split at ht
    · obtain ⟨indent, hindent, hset⟩ := bind_eq_ok ht
      cases hset
      exact Decode.inRange_indent hindent
    · obtain ⟨count, _, hset⟩ := bind_eq_ok ht
      cases hset
      exact hs
  · exact ⟨by decide, by decide⟩

namespace Settings

variable {read : Reader} {source sourceName : Text} {s : Settings}

theorem inRange_of_ofMembers {members : Members} (h : ofMembers members = .ok s) :
    s.format.indent.InRange := by
  have hset : ∀ field span item (s t : Settings), s.format.indent.InRange →
      reader.set field span item s = .ok t → t.format.indent.InRange := by
    intro field span value s t hs ht
    simp only [reader] at ht
    split at ht
    · obtain ⟨document, _, hset⟩ := bind_eq_ok ht
      cases hset
      exact hs
    · obtain ⟨format, hformat, hset⟩ := bind_eq_ok ht
      cases hset
      exact FormatSettings.inRange_of_ofItem hformat
  have hdefault : ({} : Settings).format.indent.InRange := ⟨by decide, by decide⟩
  exact foldlM_keeps (p := fun s : Settings => s.format.indent.InRange)
    (fun _ _ _ => SectionReader.setKey_keeps hset) hdefault h

theorem inRange_of_decodeWith (h : decodeWith read source sourceName = .ok s) :
    s.format.indent.InRange := by
  simp only [decodeWith] at h
  split at h
  · cases h
  · split at h
    · rename_i hmembers
      cases h
      exact inRange_of_ofMembers hmembers
    · cases h
    · cases h

/-! ## Names -/

theorem eq_of_checkName {t : Settings} (h : checkName source sourceName s = .ok t) :
    t = s ∧ ∀ name, s.document.name = some name → Naming.isDocumentName name = true := by
  simp only [checkName] at h
  split at h
  · rename_i hnone
    cases h
    refine ⟨rfl, fun name hname => ?_⟩
    rw [hnone] at hname
    cases hname
  · rename_i name hgiven
    split at h
    · rename_i hvalid
      cases h
      refine ⟨rfl, fun other hother => ?_⟩
      rw [hgiven] at hother
      cases hother
      exact hvalid
    · cases h

theorem decodeWith_of_loadWith (h : loadWith read source sourceName = .ok s) :
    decodeWith read source sourceName = .ok s ∧
      ∀ name, s.document.name = some name → Naming.isDocumentName name = true := by
  obtain ⟨decoded, hdecoded, hchecked⟩ := bind_eq_ok h
  rcases eq_of_checkName hchecked with ⟨rfl, hname⟩
  exact ⟨hdecoded, hname⟩

/-! ## Documents -/

/-- Every document has a valid name, whatever was done with it. Settings that any reader got from a source
give no name or a valid one and a unit that is a tab or up to eight spaces as they are asked for, and they
describe a document: with their name or a made up one that is valid too, with their policy, their header as
contents, and the normalizer of their unit and limit. Of settings that were made in any other way, those and
only those with a name that is not valid describe no document, which is the error that is given. -/
theorem documents_have_valid_names :
    (∀ d : Document, d.Reachable → Naming.isDocumentName d.name = true) ∧
    (∀ (read : Reader) source sourceName s, loadWith read source sourceName = .ok s →
      (∀ name, s.document.name = some name → Naming.isDocumentName name = true) ∧
      (s.format.indent = .tab ∨ ∃ width, 1 ≤ width ∧ width ≤ 8 ∧ s.format.indent = .spaces width ∧
        s.format.indent.unit = List.replicate width ' ') ∧
      ∀ seconds, ∃ d, Document.ofSettings seconds s = .ok d ∧
        d.name = s.document.name.getD (Naming.defaultDocumentName seconds) ∧
        Naming.isDocumentName d.name = true ∧
        d.policy = s.document.reformat ∧
        d.contents = Document.headerLine s.document.header ∧
        d.formatter =
          Normalizer.formatter { indent := s.format.indent, maxBlankLines := s.format.maxBlankLines }) ∧
    (∀ (s : Settings) seconds e, Document.ofSettings seconds s = .error e ↔
      ∃ name, s.document.name = some name ∧ Naming.isDocumentName name = false ∧
        e = .invalidDocumentName name) := by
  refine ⟨fun d h => h.isDocumentName, fun read source sourceName s h => ?_,
    fun s seconds e => Document.ofSettings_eq_error_iff⟩
  rcases decodeWith_of_loadWith h with ⟨hdecoded, hvalid⟩
  refine ⟨hvalid, ?_, fun seconds => ?_⟩
  · have hrange := inRange_of_decodeWith hdecoded
    cases hindent : s.format.indent with
    | tab => exact .inl rfl
    | spaces width =>
      rw [hindent] at hrange
      exact .inr ⟨width, hrange.1, hrange.2, rfl, Indent.unit_spaces_of_inRange hrange⟩
  · rcases Document.ofSettings_cases seconds s with ⟨name, hgiven, hname, _⟩ | ⟨name, hgiven, hname, heq⟩
    -- A name that no document can have was refused before.
    · exact absurd (hname.symm.trans (hvalid name hgiven)) Bool.false_ne_true
    · exact ⟨_, heq, hgiven, hname, rfl, rfl, rfl⟩

/-- A source that names a document, and a document that is named after a count of seconds and has text
appended. -/
theorem documents_have_valid_names_of_source :
    let source := "[document]\nname = 'out/a.py'".toList
    let s : Settings := { document := { name := some "out/a.py".toList } }
    let appended := (Document.untitled 7).appendText "x".toList
    load source = .ok s ∧ appended.Reachable ∧
      Naming.isDocumentName appended.name = true ∧
      (∃ d, Document.ofSettings 7 s = .ok d ∧ d.name = "out/a.py".toList ∧
        Naming.isDocumentName d.name = true) ∧
      Document.ofSettings 7 { document := { name := some "a.txt".toList } } =
        .error (.invalidDocumentName "a.txt".toList) := by
  intro source s appended
  have hload : load source = .ok s := eq_ok_of_toOption (by decide +kernel)
  have happended : appended.Reachable := .appendText _ (.untitled 7)
  rcases documents_have_valid_names with ⟨hnames, haccepted, hrefused⟩
  rcases (haccepted parse? source defaultSourceName s hload).2.2 7 with ⟨d, hd, hname, hvalid, _⟩
  have hinvalid : Naming.isDocumentName "a.txt".toList = false := by decide
  exact ⟨hload, happended, hnames appended happended, ⟨d, hd, hname, hvalid⟩,
    (hrefused _ 7 _).2 ⟨_, rfl, hinvalid, rfl⟩⟩

end Settings

end Scribe
