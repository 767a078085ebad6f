import Scribe.Text.Span

/-!
# Lexemes of TOML

The smallest parts of a TOML source. Words are cut where a dot, a bracket or another mark stands, so
that a number with a fraction is made of three lexemes; their meaning is settled by their place.

* `Lexeme` — a part of the source, with its kind;
* `Lexeme.scanString` — the contents of a string and where it ends;
* `Lexeme.scan` — all lexemes of a source;
* `Lexeme.locate` — their places in the source.
-/

namespace Scribe
namespace Toml

open Text

/-! ## Characters -/

/-- A space or a tab. -/
def isSpace (c : Char) : Bool := c == ' ' || c == '\t'

/-- A character that comments and strings may hold as it is: a tab, or anything but a control
character. -/
def isPlain (c : Char) : Bool := c == '\t' || (0x20 ≤ c.toNat && c != '\x7f')

/-- A character that a word goes on with. -/
def isWordPart (c : Char) : Bool :=
  !isSpace c && c != '\n' && c != '\r' && c != '.' && c != '=' && c != ',' && c != '#'
    && c != '\x5b' && c != '\x5d' && c != '\x7b' && c != '\x7d'

/-! ## Lexemes -/

/-- The two kinds of brackets. -/
inductive Bracket where
  | square
  | curly
deriving DecidableEq, Repr

/-- What a part of the source is. A string comes with its contents. -/
inductive Lexeme.Kind where
  | dot
  | equals
  | comma
  | opening (b : Bracket)
  | closing (b : Bracket)
  | space
  | comment
  | newline
  | word
  | string (multiline : Bool) (contents : Text)
deriving DecidableEq, Repr

/-- A part of the source and its kind. -/
structure Lexeme where
  kind : Lexeme.Kind
  source : Text
deriving DecidableEq, Repr

namespace Lexeme

/-! ## Strings -/

/-- The value of a hexadecimal digit. -/
def hexDigit? (c : Char) : Option Nat :=
  let n := c.toNat
  if 0x30 ≤ n ∧ n ≤ 0x39 then some (n - 0x30)
  else if 0x41 ≤ n ∧ n ≤ 0x46 then some (n - 0x41 + 10)
  else if 0x61 ≤ n ∧ n ≤ 0x66 then some (n - 0x61 + 10)
  else none

/-- The character whose code point is written in the first `count` hexadecimal digits. -/
def codePoint? (count : Nat) (t : Text) : Option Char := do
  let digits ← (t.take count).mapM hexDigit?
  let n := digits.foldl (fun n d => 16 * n + d) 0
  if digits.length = count ∧ n.isValidChar then some (Char.ofNat n) else none

/-- The character that an escape sequence stands for, and the length of the sequence. What is given
follows the backslash. -/
def escape? : Text → Option (Char × Nat)
  | [] => none
  | c :: rest =>
    match c with
    | 'b' => some ('\x08', 1)
    | 't' => some ('\t', 1)
    | 'n' => some ('\n', 1)
    | 'f' => some ('\x0c', 1)
    | 'r' => some ('\r', 1)
    | 'e' => some ('\x1b', 1)
    | '\x22' => some ('\x22', 1)
    | '\\' => some ('\\', 1)
    | 'x' => (codePoint? 2 rest).map fun d => (d, 3)
    | 'u' => (codePoint? 4 rest).map fun d => (d, 5)
    | 'U' => (codePoint? 8 rest).map fun d => (d, 9)
    | _ => none

/-- The length of a line terminator at the start of a text; zero if there is none. -/
def terminatorLength : Text → Nat
  | '\n' :: _ => 1
  | '\r' :: '\n' :: _ => 2
  | _ => 0

/-- The length of the spaces, tabs and line terminators at the start of a text. -/
def gapLength : Text → Nat
  | ' ' :: rest => gapLength rest + 1
  | '\t' :: rest => gapLength rest + 1
  | '\n' :: rest => gapLength rest + 1
  | '\r' :: '\n' :: rest => gapLength rest + 2
  | _ => 0

/-- The length of a gap that begins with the end of a line. Such a gap is left out of a string after a
backslash. -/
def lineGap? (t : Text) : Option Nat :=
  if terminatorLength (t.dropWhile isSpace) = 0 then none else some (gapLength t)

/-- How a string is written. -/
structure Quoting where
  mark : Char
  escapes : Bool
  multiline : Bool
deriving DecidableEq, Repr

/-- If a text begins with three marks, they end the string; up to two marks before them belong to its
contents. Returns their number. -/
def closing? (mark : Char) (t : Text) : Option Nat :=
  let run := (t.takeWhile (· == mark)).length
  if run < 3 then none else some (min (run - 3) 2)

/-- The end of a string, if it has come: the contents among its closing marks, and the number of marks. -/
def ending? (q : Quoting) (t : Text) : Option (Text × Nat) :=
  if q.multiline then
    (closing? q.mark t).map fun extra => (List.replicate extra q.mark, extra + 3)
  else if t.head? = some q.mark then some ([], 1)
  else none

/-- The contents that the next characters of a string stand for, and how many characters these are
besides the first. There are none if the characters are not allowed. -/
def piece? (q : Quoting) (c : Char) (rest : Text) : Option (Text × Nat) :=
  if q.escapes && c == '\\' then
    match if q.multiline then lineGap? rest else none with
    | some gap => some ([], gap)
    | none => (escape? rest).map fun (d, length) => ([d], length)
  else if c = '\n' then if q.multiline then some ([c], 0) else none
  else if c = '\r' then if q.multiline && rest.head? == some '\n' then some ([c], 0) else none
  else if isPlain c then some ([c], 0)
  else none

/-- The contents of a string, and the number of characters up to and with its closing mark. What is
given follows the opening mark. -/
def scanString (q : Quoting) : Text → Option (Text × Nat)
  | [] => none
  | c :: rest =>
    match ending? q (c :: rest) with
    | some contents => some contents
    | none =>
      match piece? q c rest with
      | some (piece, n) =>
        (scanString q (rest.drop n)).map fun (contents, m) => (piece ++ contents, n + m + 1)
      | none => none
termination_by t => t.length
decreasing_by simp only [List.length_cons, List.length_drop]; omega

/-- A string after its first mark: three marks in a row open one that may have several lines, of which
an empty first line is left out. -/
def stringAfter? (mark : Char) (t : Text) : Option (Kind × Nat) :=
  let escapes := mark == quoteMark
  if [mark, mark].isPrefixOf t then
    let body := t.drop 2
    let skip := terminatorLength body
    (scanString ⟨mark, escapes, true⟩ (body.drop skip)).map fun (contents, n) =>
      (.string true contents, n + skip + 2)
  else
    (scanString ⟨mark, escapes, false⟩ t).map fun (contents, n) => (.string false contents, n)

/-! ## All lexemes -/

/-- The length of a comment after its first mark: up to the end of the line. -/
def commentAfter? (t : Text) : Option (Kind × Nat) :=
  let line := t.takeWhile (· != '\n')
  let text :=
    match t.dropWhile (· != '\n') with
    | [] => line
    | _ => (dropSuffix? ['\r'] line).getD line
  if text.all isPlain then some (.comment, text.length) else none

/-- The kind of the lexeme that begins with `c`, and how many more characters it has. -/
def after? (c : Char) (rest : Text) : Option (Kind × Nat) :=
  match c with
  | '.' => some (.dot, 0)
  | '=' => some (.equals, 0)
  | ',' => some (.comma, 0)
  | '\x5b' => some (.opening .square, 0)
  | '\x5d' => some (.closing .square, 0)
  | '\x7b' => some (.opening .curly, 0)
  | '\x7d' => some (.closing .curly, 0)
  | '\n' => some (.newline, 0)
  | '\r' => if rest.head? = some '\n' then some (.newline, 1) else none
  | '#' => commentAfter? rest
  | '\x22' => stringAfter? '\x22' rest
  | '\x27' => stringAfter? '\x27' rest
  | c =>
    if isSpace c then some (.space, (rest.takeWhile isSpace).length)
    else some (.word, (rest.takeWhile isWordPart).length)

/-- The lexemes of a source, unless a string, a comment or a line is not well formed. -/
def scan : Text → Option (List Lexeme)
  | [] => some []
  | c :: rest =>
    match after? c rest with
    | some (kind, n) =>
      (scan (rest.drop n)).map ({ kind, source := c :: rest.take n } :: ·)
    | none => none
termination_by t => t.length
decreasing_by simp only [List.length_cons, List.length_drop]; omega

/-- The lexemes with their places, the first of which is at `start`. -/
def locate (start : Nat) : List Lexeme → List (Spanned Lexeme)
  | [] => []
  | x :: rest =>
    let stop := start + utf8Size x.source
    ⟨x, ⟨start, stop⟩⟩ :: locate stop rest

/-- The lexemes make up the source. -/
theorem flatten_scan {t : Text} {xs : List Lexeme} (h : scan t = some xs) :
    (xs.map Lexeme.source).flatten = t := by
  fun_induction scan t generalizing xs with
  | case1 => cases h; rfl
  | case2 c rest kind n _ ih =>
    obtain ⟨ys, hys, rfl⟩ := Option.map_eq_some_iff.mp h
    simp [ih hys]
  | case3 => cases h

end Lexeme

end Toml
end Scribe
