import Scribe.Text.Basic

/-!
# Places in a text

A place in a text is given by byte offsets into its UTF-8 form.

* `Span` — a range of bytes;
* `Span.behind` — where a text ends up that is put behind another;
* `Span.PointsAt` — a span whose bytes are those of a text;
* `Spanned` — a value and where it was read;
* `Text.before?` — what stands before the first occurrence of a pattern;
* `Text.valueSpan?` — where a value is written in a source.
-/

namespace Scribe

open Text

/-- The bytes from `start` up to, and without, `stop`. -/
structure Span where
  start : Nat
  stop : Nat
deriving DecidableEq, Repr

namespace Span

/-- The number of bytes. -/
def length (s : Span) : Nat := s.stop - s.start

/-- The bytes of `size` from `start` on. -/
def ofSize (start size : Nat) : Span := ⟨start, start + size⟩

/-- From the start of one place to the end of another. -/
def cover (s t : Span) : Span := ⟨s.start, t.stop⟩

/-- The place of a text that stands behind another one. -/
def behind (before part : Text) : Span := ofSize (utf8Size before) (utf8Size part)

/-- The span does not reach beyond the UTF-8 form of the source, it begins and ends between two characters,
and its bytes are the UTF-8 form of a part. -/
structure PointsAt (place : Span) (source part : Text) : Prop where
  inside : place.start + place.length ≤ source.utf8Encode.size
  start_valid : (⟨place.start⟩ : String.Pos.Raw).IsValid (String.ofList source)
  stop_valid : (⟨place.start + place.length⟩ : String.Pos.Raw).IsValid (String.ofList source)
  bytes : source.utf8Encode.extract place.start (place.start + place.length) = part.utf8Encode

theorem behind_marked (before part : Text) (mark : Char) :
    behind (before ++ [mark]) part = ofSize (utf8Size before + mark.utf8Size) (utf8Size part) := by
  simp [behind]

end Span

/-- A value and the place where it was read. -/
structure Spanned (α : Type) where
  value : α
  span : Span
deriving DecidableEq, Repr

namespace Text

/-- The text before the first occurrence of `pattern`. -/
def before? (pattern : Text) : Text → Option Text
  | [] => if pattern.isEmpty then some [] else none
  | c :: rest =>
    if pattern.isPrefixOf (c :: rest) then some []
    else (before? pattern rest).map (c :: ·)

/-- Where `value` first stands between two marks `mark`; the marks are left out. -/
def markedSpan? (mark : Char) (value source : Text) : Option Span :=
  (before? ([mark] ++ value ++ [mark]) source).map fun before =>
    Span.ofSize (utf8Size before + mark.utf8Size) (utf8Size value)

/-- Where a value is written in a source: its first occurrence between quotation marks, or else
between apostrophes, or else its first occurrence. -/
def valueSpan? (value source : Text) : Option Span :=
  markedSpan? quoteMark value source
    <|> markedSpan? apostrophe value source
    <|> (before? value source).map fun before => Span.ofSize (utf8Size before) (utf8Size value)

end Text

end Scribe
