import Scribe.Proofs.Results
import Scribe.Proofs.ValuePlaces
import Scribe.Settings.Load

/-!
# Labels of rejected names

A name that no document can have is reported, and a place in the source is pointed at. The place is searched
for: it is that of the name unless the same text stands in quotes somewhere else as well.

* `Settings.loadWith_of_rejected_name` — the error;
* `Settings.valueSpan?_eq_inside_iff` — when the search finds a given place;
* `Settings.label_of_rejected_name` — when the label is in its place;
* `Settings.label_of_name_in_remark` — a source in which it is not.
-/

namespace Scribe

open Text Toml

namespace Settings

variable {read : Reader} {source sourceName name before : Text} {mark : Char} {s : Settings}

theorem loadWith_of_rejected_name (hdecode : decodeWith read source sourceName = .ok s)
    (hname : s.document.name = some name) (hinvalid : Naming.isDocumentName name = false) :
    loadWith read source sourceName = .error (.invalidName name (valueSpan? name source) sourceName) := by
  have hcheck : checkName source sourceName s =
      .error (.invalidName name (valueSpan? name source) sourceName) := by
    simp only [checkName, hname, hinvalid, Bool.false_eq_true, if_false]
  simp only [loadWith, hdecode]
  exact hcheck

/-! ## Finding a place -/

theorem utf8Size_of_isQuote (hmark : mark = quoteMark ∨ mark = apostrophe) : mark.utf8Size = 1 := by
  rcases hmark with rfl | rfl
  · rfl
  · rfl

/-- Two values in quotes have the same place if and only if they stand behind the same text. -/
theorem ofSize_eq_iff {found : Text} {mark' : Char} (hmark : mark = quoteMark ∨ mark = apostrophe)
    (hmark' : mark' = quoteMark ∨ mark' = apostrophe) (hfound : found <+: source)
    (hbefore : before <+: source) :
    Span.ofSize (utf8Size found + mark'.utf8Size) (utf8Size name) =
      Span.ofSize (utf8Size before + mark.utf8Size) (utf8Size name) ↔ found = before := by
  refine ⟨fun h => eq_of_utf8Size_eq hfound hbefore ?_, fun h => ?_⟩
  · have hstart := congrArg Span.start h
    simp only [Span.ofSize, utf8Size_of_isQuote hmark, utf8Size_of_isQuote hmark'] at hstart
    omega
  · rw [h, utf8Size_of_isQuote hmark, utf8Size_of_isQuote hmark']

/-- A text does not go on in two ways. -/
theorem mark_eq_of_stands {mark' : Char} (h : before ++ ([mark] ++ name ++ [mark]) <+: source)
    (h' : before ++ ([mark'] ++ name ++ [mark']) <+: source) : mark = mark' := by
  rcases h with ⟨after, rfl⟩
  rcases h' with ⟨after', heq⟩
  simp only [List.append_assoc, List.append_cancel_left_eq, List.singleton_append] at heq
  exact (List.cons.inj heq).1.symm

/-- A value in quotes is found where it stands if it stands in such quotes nowhere earlier and, unless these
are quotation marks, nowhere between quotation marks at all. -/
theorem valueSpan?_eq_inside_iff (hmark : mark = quoteMark ∨ mark = apostrophe)
    (hstands : before ++ ([mark] ++ name ++ [mark]) <+: source) :
    ∃ place, valueSpan? name source = some place ∧
      (place = Span.ofSize (utf8Size before + mark.utf8Size) (utf8Size name) ↔
        IsFirst ([mark] ++ name ++ [mark]) source before ∧
          (mark = apostrophe → ¬[quoteMark] ++ name ++ [quoteMark] <:+: source)) := by
  have hbefore : before <+: source := (List.prefix_append before _).trans hstands
  have hinfix : [mark] ++ name ++ [mark] <:+: source :=
    (List.suffix_append before _).isInfix.trans hstands.isInfix
  obtain ⟨place, hplace⟩ := exists_valueAt ((isInfix_marked mark name).trans hinfix)
  refine ⟨place, hplace.valueSpan?_eq, ?_⟩
  cases hplace with
  | @quoted found hfound =>
    have hfront : found <+: source := (List.prefix_append found _).trans hfound.stands
    rw [Span.behind_marked, ofSize_eq_iff hmark (.inl rfl) hfront hbefore]
    constructor
    · rintro rfl
      -- The marks that are found there are those that stand there.
      rcases mark_eq_of_stands hfound.stands hstands with rfl
      exact ⟨hfound, fun h => absurd h (by decide)⟩
    · rintro ⟨hfirst, hnowhere⟩
      rcases hmark with rfl | rfl
      · exact hfound.eq hfirst
      · exact absurd hfound.isInfix (hnowhere rfl)
  | @inApostrophes found hnowhere hfound =>
    rcases hmark with rfl | rfl
    · exact absurd hinfix hnowhere
    · have hfront : found <+: source := (List.prefix_append found _).trans hfound.stands
      rw [Span.behind_marked, ofSize_eq_iff (.inr rfl) (.inr rfl) hfront hbefore]
      constructor
      · rintro rfl
        exact ⟨hfound, fun _ => hnowhere⟩
      · rintro ⟨hfirst, _⟩
        exact hfound.eq hfirst
  | bare hnowhere hunmarked _ =>
    -- The name does stand between two marks.
    rcases hmark with rfl | rfl
    · exact absurd hinfix hnowhere
    · exact absurd hinfix hunmarked

/-! ## Labels -/

/-- A name that no document can have is reported with a label, whatever else is in the source and whichever
reader has read the name where it stands. The label is on the name, inside its quotes, if and only if the
name stands in such quotes nowhere earlier and, unless these are quotation marks, nowhere between quotation
marks. -/
theorem label_of_rejected_name (hdecode : decodeWith read source sourceName = .ok s)
    (hname : s.document.name = some name) (hinvalid : Naming.isDocumentName name = false)
    (hwritten : NameWritten read source before mark name) :
    ∃ place, let e : SettingsError := .invalidName name (some place) sourceName
      loadWith read source sourceName = .error e ∧ e.label = some ⟨e.message, place⟩ ∧
        (place = Span.ofSize (utf8Size before + mark.utf8Size) (utf8Size name) ↔
          IsFirst ([mark] ++ name ++ [mark]) source before ∧
            (mark = apostrophe → ¬[quoteMark] ++ name ++ [quoteMark] <:+: source)) := by
  rcases valueSpan?_eq_inside_iff hwritten.isQuote hwritten.stands with ⟨place, hplace, hiff⟩
  refine ⟨place, ?_, rfl, hiff⟩
  rw [loadWith_of_rejected_name hdecode hname hinvalid, hplace]

/-- The name stands in apostrophes in a remark before. -/
theorem label_of_rejected_name_behind_remark :
    let source := "# 'a.txt'\n[document]\nname = \"a.txt\"".toList
    let before := "# 'a.txt'\n[document]\nname = ".toList
    let name := "a.txt".toList
    let s : Settings := { document := { name := some name } }
    decodeWith parse? source defaultSourceName = .ok s ∧ s.document.name = some name ∧
      Naming.isDocumentName name = false ∧ NameWritten parse? source before quoteMark name ∧
      load source = .error (.invalidName name (some ⟨29, 34⟩) defaultSourceName) := by
  intro source before name s
  have hdecode : decodeWith parse? source defaultSourceName = .ok s :=
    eq_ok_of_toOption (by decide +kernel)
  have hinvalid : Naming.isDocumentName name = false := by decide
  have hwritten : NameWritten parse? source before quoteMark name := by
    refine ⟨.inl rfl, ?_, ?_⟩
    · decide
    · decide +kernel
  refine ⟨hdecode, rfl, hinvalid, hwritten, ?_⟩
  rcases label_of_rejected_name hdecode rfl hinvalid hwritten with ⟨place, hload, _, hiff⟩
  have hfirst : IsFirst ([quoteMark] ++ name ++ [quoteMark]) source before :=
    before?_eq_some_iff.1 (by decide)
  have hplace := hiff.2 ⟨hfirst, fun h => absurd h (by decide)⟩
  have hnumbers : Span.ofSize (utf8Size before + quoteMark.utf8Size) (utf8Size name) = ⟨29, 34⟩ := by
    decide
  rw [load, hload, hplace, hnumbers]

/-- The name stands in quotation marks in a remark before, and the label is there. -/
theorem label_of_name_in_remark :
    let source := "# not \"a.txt\"\n[document]\nname = \"a.txt\"".toList
    let before := "# not \"a.txt\"\n[document]\nname = ".toList
    let name := "a.txt".toList
    let s : Settings := { document := { name := some name } }
    decodeWith parse? source defaultSourceName = .ok s ∧ Naming.isDocumentName name = false ∧
      NameWritten parse? source before quoteMark name ∧
      load source = .error (.invalidName name (some ⟨7, 12⟩) defaultSourceName) ∧
      Span.ofSize (utf8Size before + quoteMark.utf8Size) (utf8Size name) = ⟨33, 38⟩ := by
  intro source before name s
  have hdecode : decodeWith parse? source defaultSourceName = .ok s :=
    eq_ok_of_toOption (by decide +kernel)
  have hinvalid : Naming.isDocumentName name = false := by decide
  refine ⟨hdecode, hinvalid, ⟨.inl rfl, by decide, by decide +kernel⟩, ?_, by decide⟩
  have hfound : valueSpan? name source = some ⟨7, 12⟩ := by decide
  rw [load, loadWith_of_rejected_name hdecode rfl hinvalid, hfound]

end Settings

end Scribe
