import Scribe.Value.Basic

/-!
# Well-formed values

Values whose parts do not get in the way of the marks that a written form puts between them, and what it
takes to find these marks again.

* `Text.IsName`, `Text.isCodeChar` — plain names, and plain code;
* `Text.mark?` — the character that ends the name in front of a text;
* `Value.WellFormed` — literals without apostrophes, plain code, and calls of plain names;
* `Call.namedText`, `Call.argumentTexts` — the texts of the arguments;
* `Enclosure` — what a place in a text is enclosed in;
* `Text.outerParts` — the parts of a text between the commas that nothing encloses.
-/

namespace Scribe

open Text

/-! ## Plain texts -/

namespace Text

/-- A letter or a digit of ASCII, or an underscore. -/
def isNameChar (c : Char) : Bool := c.isAlphanum || c == '_'

def isCodeChar (c : Char) : Bool := isNameChar c || c == '.'

def IsName (t : Text) : Prop := t ≠ [] ∧ ∀ c ∈ t, isNameChar c = true

/-- The first character that no name has: what ends the name in front of a text. -/
def mark? (t : Text) : Option Char := t.find? fun c => !isNameChar c

end Text

/-! ## Values -/

/-- A literal without apostrophes, plain code, or a call of a plain name: its positional arguments are
the written forms of well-formed values, and its keyword arguments have plain names and well-formed
values. -/
inductive Value.WellFormed : Value → Prop where
  | literal {text : Text} : apostrophe ∉ text → WellFormed (.literal text)
  | raw {code : Text} : code ≠ [] → (∀ c ∈ code, isCodeChar c = true) → WellFormed (.raw code)
  | call {callee : Text} (positional : List Value) {kwargs : List (Text × Value)} :
      IsName callee → (∀ v ∈ positional, WellFormed v) → (∀ entry ∈ kwargs, IsName entry.1) →
      (∀ entry ∈ kwargs, WellFormed entry.2) →
        WellFormed (.call { callee, args := positional.map Value.text, kwargs })

namespace Value.WellFormed

variable {c : Call} {code : Text}

theorem isCodeChar_of_mem (h : (Value.raw code).WellFormed) {ch : Char} (hch : ch ∈ code) :
    isCodeChar ch = true := by
  cases h with
  | raw _ hcode => exact hcode ch hch

theorem isName_callee (h : (Value.call c).WellFormed) : IsName c.callee := by
  cases h with
  | call _ hcallee _ _ _ => exact hcallee

theorem exists_of_mem_args (h : (Value.call c).WellFormed) {a : Text} (ha : a ∈ c.args) :
    ∃ v : Value, v.WellFormed ∧ a = v.text := by
  cases h with
  | call positional _ hpos _ _ =>
    rcases List.mem_map.1 ha with ⟨v, hv, rfl⟩
    exact ⟨v, hpos v hv, rfl⟩

theorem isName_of_mem_kwargs (h : (Value.call c).WellFormed) {entry : Text × Value}
    (hentry : entry ∈ c.kwargs) : IsName entry.1 := by
  cases h with
  | call _ _ _ hnames _ => exact hnames entry hentry

theorem of_mem_kwargs (h : (Value.call c).WellFormed) {entry : Text × Value} (hentry : entry ∈ c.kwargs) :
    entry.2.WellFormed := by
  cases h with
  | call _ _ _ _ hvals => exact hvals entry hentry

end Value.WellFormed

namespace Call

def namedText (entry : Text × Value) : Text := entry.1 ++ '=' :: entry.2.text

/-- The texts of all arguments, positional ones first. -/
def argumentTexts (c : Call) : List Text := c.args ++ c.kwargs.map namedText

end Call

/-! ## Enclosed places -/

/-- What a place in a text is enclosed in: apostrophes or not, and how many parentheses. -/
structure Enclosure where
  quoted : Bool := false
  depth : Nat := 0
deriving DecidableEq, Repr

namespace Enclosure

/-- The enclosure after one more character. Between apostrophes, parentheses do not count. -/
def after (s : Enclosure) (c : Char) : Enclosure :=
  if c = apostrophe then { s with quoted := !s.quoted }
  else if s.quoted then s
  else if c = '(' then { s with depth := s.depth + 1 }
  else if c = ')' then { s with depth := s.depth - 1 }
  else s

end Enclosure

namespace Text

/-- The parts of a text between the commas that nothing encloses, for a text that begins enclosed as
given. -/
def outerParts (s : Enclosure) : Text → List Text
  | [] => [[]]
  | c :: rest =>
    if c = ',' ∧ s = {} then [] :: outerParts s rest
    else (outerParts (s.after c) rest).modifyHead (c :: ·)

/-- A text that closes whatever it opens, and has no comma that nothing encloses. -/
def Balanced (s : Enclosure) (t : Text) : Prop :=
  ∀ rest, outerParts s (t ++ rest) = (outerParts s rest).modifyHead (t ++ ·)

end Text

end Scribe
