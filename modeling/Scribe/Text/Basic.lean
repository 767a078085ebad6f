/-!
# Texts

Texts are lists of characters, so that every function on them is a recursion on a list.

* `Text.split` — the parts between the occurrences of a separator;
* `Text.lines` — the lines of a text, without their terminators;
* `Text.unlines`, `Text.terminated` — lines joined by newlines, and lines with a newline after each;
* `Text.dropSuffix?` — what stands before a given ending;
* `Text.utf8Size` — the length in bytes of the UTF-8 form;
* `Text.notAfter` — the order of code points;
* `Text.tabs`, `Text.shift` — the leading tabs of an indent level, and more of them for all lines;
* `Text.inApostrophes`, `Text.inTripleQuotes` — the forms of a string literal and of a docstring;
* `Text.stripQuotes` — one pair of surrounding quotation marks removed.
-/

namespace Scribe

/-- A text is the list of its characters. -/
abbrev Text := List Char

namespace Text

/-- The parts of a text between the occurrences of a character; there is always one more part than
occurrences. -/
def split (separator : Char) : Text → List Text
  | [] => [[]]
  | c :: rest =>
    if c = separator then [] :: split separator rest
    else
      match split separator rest with
      | [] => [[c]]
      | part :: parts => (c :: part) :: parts

/-- The lines of a text. A line ends at a newline, which takes one carriage return before it along;
the last line may lack the newline, and then keeps a final carriage return. -/
def lines : Text → List Text
  | [] => []
  | '\n' :: rest => [] :: lines rest
  | '\r' :: '\n' :: rest => [] :: lines rest
  | c :: rest =>
    match lines rest with
    | [] => [[c]]
    | line :: more => (c :: line) :: more

/-- Lines joined by newlines, without a newline after the last. -/
def unlines (ls : List Text) : Text :=
  ['\n'].intercalate ls

/-- Lines with a newline after each. -/
def terminated (ls : List Text) : Text :=
  ls.flatMap (· ++ ['\n'])

/-- The parts joined by a comma and a space. -/
def commaSeparated (parts : List Text) : Text :=
  [',', ' '].intercalate parts

/-- What stands before `ending`, if the text ends so. -/
def dropSuffix? (ending t : Text) : Option Text :=
  if ending.isSuffixOf t then some (t.take (t.length - ending.length)) else none

/-- The number of bytes of the UTF-8 form. -/
def utf8Size : Text → Nat
  | [] => 0
  | c :: rest => c.utf8Size + utf8Size rest

/-- Whether a text stands before another, or is the same, in the order of code points. This is also the
order of the UTF-8 forms, byte by byte. -/
def notAfter : Text → Text → Bool
  | [], _ => true
  | _ :: _, [] => false
  | c :: s, d :: t => if c = d then notAfter s t else c.toNat < d.toNat

/-- The leading tabs of a line at an indent level. -/
def tabs (level : Nat) : Text :=
  List.replicate level '\t'

/-- A line with more tabs in front; an empty one stays empty. -/
def indentLine (k : Nat) (line : Text) : Text :=
  if line = [] then [] else tabs k ++ line

/-- The text with more tabs in front of all its lines but the empty ones. -/
def shift (k : Nat) (t : Text) : Text :=
  unlines ((split '\n' t).map (indentLine k))

/-! ## Quotation marks -/

/-- The quotation mark. -/
def quoteMark : Char := '\x22'

/-- The apostrophe. -/
def apostrophe : Char := '\x27'

/-- Three quotation marks, which open and close a docstring. -/
def tripleQuote : Text := [quoteMark, quoteMark, quoteMark]

/-- The text between two apostrophes. Nothing inside is escaped. -/
def inApostrophes (t : Text) : Text :=
  apostrophe :: t ++ [apostrophe]

/-- The text between two triple quotes. Nothing inside is escaped. -/
def inTripleQuotes (t : Text) : Text :=
  tripleQuote ++ t ++ tripleQuote

/-- The text without the quotation marks around it; a text that lacks one of the two stays as it is,
and a single mark is not both. -/
def stripQuotes (t : Text) : Text :=
  match t with
  | [] => t
  | c :: rest => if c = quoteMark then (dropSuffix? [quoteMark] rest).getD t else t

/-! ## Equations -/

@[simp] theorem utf8Size_nil : utf8Size [] = 0 := rfl

@[simp] theorem utf8Size_cons (c : Char) (t : Text) :
    utf8Size (c :: t) = c.utf8Size + utf8Size t := rfl

@[simp] theorem utf8Size_append (s t : Text) : utf8Size (s ++ t) = utf8Size s + utf8Size t := by
  induction s with
  | nil => simp
  | cons c rest ih => simp [ih, Nat.add_assoc]

@[simp] theorem tabs_zero : tabs 0 = [] := rfl

theorem tabs_add (m n : Nat) : tabs (m + n) = tabs m ++ tabs n := by
  simp [tabs, List.replicate_append_replicate]

theorem dropSuffix?_eq_some_iff {ending t s : Text} :
    dropSuffix? ending t = some s ↔ t = s ++ ending := by
  unfold dropSuffix?
  constructor
  · intro h
    split at h
    · rename_i hs
      obtain ⟨r, rfl⟩ := List.isSuffixOf_iff_suffix.mp hs
      simp at h
      simp [h]
    · cases h
  · intro h
    subst h
    simp

end Text
end Scribe
