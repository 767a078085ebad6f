import Scribe.Proofs.Occurrences
import Scribe.Text.Span

/-!
# Where a value is found

A value is found in a source if it occurs there at all. Of its occurrences, one between quotation marks is
preferred to one between apostrophes, this to any other, and an earlier one to a later one. What is found are
its bytes.

* `Text.ValueAt` — the place of a value;
* `Text.pointsAt_behind` — the bytes of a text behind another;
* `Text.valueSpan?_eq_none_iff`, `Text.ValueAt.valueSpan?_eq` — what the search finds;
* `Text.value_is_found` — all of this.
-/

namespace Scribe
namespace Text

variable {pattern value source before : Text} {mark : Char} {place : Span}

/-! ## Bytes -/

theorem size_utf8Encode (t : Text) : t.utf8Encode.size = utf8Size t := by
  induction t with
  | nil => rfl
  | cons c rest ih =>
    have hfirst : [c].utf8Encode.size = c.utf8Size := by
      simp [List.utf8Encode_singleton]
    calc (c :: rest).utf8Encode.size
        = [c].utf8Encode.size + rest.utf8Encode.size := by
          simp only [List.utf8Encode_cons (l := rest), ByteArray.size_append]
      _ = utf8Size (c :: rest) := by simp only [hfirst, ih, utf8Size_cons]

/-- Where a beginning of a text ends, no character is cut in two. -/
theorem isValid_utf8Size {front : Text} (h : front <+: source) :
    (⟨utf8Size front⟩ : String.Pos.Raw).IsValid (String.ofList source) := by
  refine String.Pos.Raw.isValid_ofList.2 ⟨front.length, ?_⟩
  have hbytes : (String.ofList front).utf8ByteSize = front.utf8Encode.size := by
    simp [← String.size_toByteArray]
  obtain ⟨rest, rfl⟩ := h
  simp [hbytes, size_utf8Encode]

theorem pointsAt_behind (h : before ++ value <+: source) :
    (Span.behind before value).PointsAt source value := by
  have hstop : (Span.behind before value).start + (Span.behind before value).length =
      utf8Size (before ++ value) := by
    simp [Span.behind, Span.ofSize, Span.length]
  obtain ⟨after, hsource⟩ := h
  exact {
    inside := by
      simp only [hstop, ← hsource, ← size_utf8Encode, List.utf8Encode_append, ByteArray.size_append]
      omega
    start_valid := isValid_utf8Size ((List.prefix_append before value).trans ⟨after, hsource⟩)
    stop_valid := hstop ▸ isValid_utf8Size ⟨after, hsource⟩
    bytes := by
      calc source.utf8Encode.extract (utf8Size before)
            ((Span.behind before value).start + (Span.behind before value).length)
          = (before.utf8Encode ++ (value.utf8Encode ++ after.utf8Encode)).extract
              (before.utf8Encode.size + 0) (before.utf8Encode.size + value.utf8Encode.size) := by
            simp only [hstop, ← hsource, List.utf8Encode_append, ByteArray.append_assoc,
              utf8Size_append, size_utf8Encode, Nat.add_zero]
        _ = (value.utf8Encode ++ after.utf8Encode).extract 0 value.utf8Encode.size :=
            ByteArray.extract_append_size_add
        _ = value.utf8Encode := ByteArray.extract_append_eq_left rfl }

/-! ## The place of a value -/

/-- The place of a value in a source: that of its first occurrence between quotation marks; if it has none,
that of its first occurrence between apostrophes; and if it has no such either, that of its first. -/
inductive ValueAt (value source : Text) : Span → Prop where
  | quoted {before : Text} (first : IsFirst ([quoteMark] ++ value ++ [quoteMark]) source before) :
      ValueAt value source (Span.behind (before ++ [quoteMark]) value)
  | inApostrophes {before : Text} (unquoted : ¬[quoteMark] ++ value ++ [quoteMark] <:+: source)
      (first : IsFirst ([apostrophe] ++ value ++ [apostrophe]) source before) :
      ValueAt value source (Span.behind (before ++ [apostrophe]) value)
  | bare {before : Text} (unquoted : ¬[quoteMark] ++ value ++ [quoteMark] <:+: source)
      (unmarked : ¬[apostrophe] ++ value ++ [apostrophe] <:+: source)
      (first : IsFirst value source before) : ValueAt value source (Span.behind before value)

theorem isInfix_marked (mark : Char) (value : Text) : value <:+: [mark] ++ value ++ [mark] :=
  ⟨[mark], [mark], rfl⟩

/-- A pattern that occurs has a first occurrence. -/
theorem exists_isFirst (h : pattern <:+: source) : ∃ before, IsFirst pattern source before := by
  cases hfound : before? pattern source with
  | none => exact absurd h (before?_eq_none_iff.1 hfound)
  | some before => exact ⟨before, before?_eq_some_iff.1 hfound⟩

theorem IsFirst.markedSpan?_eq (h : IsFirst ([mark] ++ value ++ [mark]) source before) :
    markedSpan? mark value source = some (Span.behind (before ++ [mark]) value) :=
  markedSpan?_eq_some_iff.2 ⟨before, h, Span.behind_marked before value mark⟩

theorem IsFirst.pointsAt_marked (h : IsFirst ([mark] ++ value ++ [mark]) source before) :
    (Span.behind (before ++ [mark]) value).PointsAt source value := by
  refine pointsAt_behind (List.IsPrefix.trans ⟨[mark], ?_⟩ h.stands)
  simp only [List.append_assoc]

theorem exists_valueAt (h : value <:+: source) : ∃ place, ValueAt value source place := by
  by_cases hquoted : [quoteMark] ++ value ++ [quoteMark] <:+: source
  · obtain ⟨before, hfirst⟩ := exists_isFirst hquoted
    exact ⟨_, .quoted hfirst⟩
  · by_cases hmarked : [apostrophe] ++ value ++ [apostrophe] <:+: source
    · obtain ⟨before, hfirst⟩ := exists_isFirst hmarked
      exact ⟨_, .inApostrophes hquoted hfirst⟩
    · obtain ⟨before, hfirst⟩ := exists_isFirst h
      exact ⟨_, .bare hquoted hmarked hfirst⟩

theorem ValueAt.pointsAt (h : ValueAt value source place) : place.PointsAt source value := by
  cases h with
  | quoted first => exact first.pointsAt_marked
  | inApostrophes _ first => exact first.pointsAt_marked
  | bare _ _ first => exact pointsAt_behind first.stands

theorem ValueAt.valueSpan?_eq (h : ValueAt value source place) :
    valueSpan? value source = some place := by
  cases h with
  | quoted first => simp [valueSpan?, first.markedSpan?_eq]
  | inApostrophes unquoted first =>
    have hquoted := markedSpan?_eq_none_iff.2 unquoted
    simp [valueSpan?, hquoted, first.markedSpan?_eq]
  | bare unquoted unmarked first =>
    have hquoted := markedSpan?_eq_none_iff.2 unquoted
    have hmarked := markedSpan?_eq_none_iff.2 unmarked
    have hfound := before?_eq_some_iff.2 first
    simp [valueSpan?, hquoted, hmarked, hfound, Span.behind]

theorem valueSpan?_eq_none_iff : valueSpan? value source = none ↔ ¬value <:+: source := by
  constructor
  · intro hnone hinfix
    obtain ⟨place, hplace⟩ := exists_valueAt hinfix
    cases hnone.symm.trans hplace.valueSpan?_eq
  · intro hinfix
    -- A value between two marks occurs as well.
    have hmarked (mark : Char) : markedSpan? mark value source = none :=
      markedSpan?_eq_none_iff.2 fun h => hinfix ((isInfix_marked mark value).trans h)
    have hbare : before? value source = none := before?_eq_none_iff.2 hinfix
    simp [valueSpan?, hmarked, hbare]

theorem valueSpan?_eq_some_iff : valueSpan? value source = some place ↔ ValueAt value source place := by
  constructor
  · intro h
    by_cases hinfix : value <:+: source
    · obtain ⟨found, hfound⟩ := exists_valueAt hinfix
      have heq : found = place := Option.some.inj (hfound.valueSpan?_eq.symm.trans h)
      exact heq ▸ hfound
    · cases (valueSpan?_eq_none_iff.2 hinfix).symm.trans h
  · exact ValueAt.valueSpan?_eq

/-- A search finds nothing if and only if the value does not occur, and a place if and only if it is that of
the value, and its bytes are those of the value. -/
theorem value_is_found (value source : Text) :
    (valueSpan? value source = none ↔ ¬value <:+: source) ∧
      ∀ place, valueSpan? value source = some place ↔
        ValueAt value source place ∧ place.PointsAt source value := by
  refine ⟨valueSpan?_eq_none_iff, fun place => ⟨fun h => ?_, fun h => h.1.valueSpan?_eq⟩⟩
  have hplace : ValueAt value source place := valueSpan?_eq_some_iff.1 h
  exact ⟨hplace, hplace.pointsAt⟩

-- The value stands between quotation marks last of all, and places are counted in bytes.
example : valueSpan? "é".toList "'é' é \"é\"".toList = some ⟨9, 11⟩ := by decide

end Text
end Scribe
