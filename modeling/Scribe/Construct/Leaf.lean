import Scribe.Text.Blank
import Scribe.Value.Basic

/-!
# Constructs without parts

The constructs that hold no others. Each has an indent level and a text form that never fails.

* `Snippet` — a piece of code that is written as it stands;
* `Assignment` — a name and its value;
* `Comment` — one comment line per line of its text;
* `Docstring` — a triple-quoted text;
* `Comment.Shows`, `Docstring.Shows` — lines that say what a text says, and how it is read off them.
-/

namespace Scribe

open Text

/-! ## Snippets -/

/-- Code that is written as it stands. -/
structure Snippet where
  code : Text
  level : Nat := 0
deriving DecidableEq, Repr

namespace Snippet

def setLevel (level : Nat) (s : Snippet) : Snippet := { s with level }

def render (s : Snippet) : Text := tabs s.level ++ s.code

def ofCall (c : Call) : Snippet := { code := c.text }

end Snippet

/-! ## Assignments -/

structure Assignment where
  name : Text
  value : Value
  level : Nat := 0
deriving DecidableEq

namespace Assignment

def setLevel (level : Nat) (a : Assignment) : Assignment := { a with level }

def setValue (a : Assignment) (value : Value) : Assignment := { a with value }

/-- A line of its own: the name, an equals sign and the value. -/
def render (a : Assignment) : Text :=
  ['\n'] ++ tabs a.level ++ a.name ++ " = ".toList ++ a.value.text

end Assignment

/-! ## Comments -/

structure Comment where
  text : Text
  level : Nat := 0
deriving DecidableEq, Repr

namespace Comment

def setLevel (level : Nat) (c : Comment) : Comment := { c with level }

/-- One comment line. Trailing blanks go, and with them the space after the mark of an empty line. -/
def renderLine (level : Nat) (line : Text) : Text :=
  trimEnd (tabs level ++ "# ".toList ++ line)

/-- A comment line per line of the text; an empty text still has its mark. -/
def render (c : Comment) : Text :=
  if c.text = [] then tabs c.level ++ ['#']
  else unlines ((lines c.text).map (renderLine c.level))

/-- What a line says behind its indentation and its mark, if it has both. The mark of a line that says
something has a space behind it. -/
def unmark? (indent line : Text) : Option Text := do
  let marked ← indent.isPrefixOf? line
  if marked = ['#'] then some [] else "# ".toList.isPrefixOf? marked

/-- The lines are those of a comment with this text: one for each line of the text, and at least one, all
marked behind the same indentation. Each says what the line of the text says, up to the blanks at its
end. -/
structure Shows (indent text : Text) (shown : List Text) : Prop where
  length_eq : shown.length = max 1 (lines text).length
  isMarked : ∀ line ∈ shown, indent ++ ['#'] <+: line
  keeps : ∀ (i : Nat) (line : Text), (lines text)[i]? = some line →
    shown[i]?.bind (unmark? indent) = some (trimEnd line)

end Comment

/-! ## Docstrings -/

/-- A triple-quoted text that documents what it stands in. -/
structure Docstring where
  text : Text
  level : Nat := 0
deriving DecidableEq, Repr

namespace Docstring

def setLevel (level : Nat) (d : Docstring) : Docstring := { d with level }

/-- A line between the quotes; an empty one is not indented. -/
def renderLine (level : Nat) (line : Text) : Text :=
  if line = [] then [] else tabs level ++ line

/-- A text without newline stands between its quotes; of any other text, the quotes and all lines
have lines of their own. -/
def render (d : Docstring) : Text :=
  if '\n' ∈ d.text then
    unlines ([tabs d.level ++ tripleQuote] ++ (lines d.text).map (renderLine d.level)
      ++ [tabs d.level ++ tripleQuote])
  else tabs d.level ++ inTripleQuotes d.text

/-- What is behind the indentation of a line, if there is as much of it as asked for. An empty line says
nothing and needs none. -/
def unindent? (level : Nat) (line : Text) : Option Text :=
  if line = [] then some [] else (tabs level).isPrefixOf? line

/-- What stands between the quotes of a line, if it is indented and has both. -/
def unquote? (level : Nat) (line : Text) : Option Text := do
  let quoted ← (tabs level).isPrefixOf? line
  let opened ← tripleQuote.isPrefixOf? quoted
  dropSuffix? tripleQuote opened

/-- The quotes have lines of their own, and the lines between them say what the lines of the text say. -/
structure ShowsBetween (level : Nat) (text : Text) (shown : List Text) : Prop where
  length_eq : shown.length = (lines text).length + 2
  opens : shown.head? = some (tabs level ++ tripleQuote)
  closes : shown.getLast? = some (tabs level ++ tripleQuote)
  keeps : shown.tail.dropLast.map (unindent? level) = (lines text).map some

/-- The lines are those of a docstring with this text. If the text has a newline, its lines are shown between
the quotes; otherwise there is one line, and it says all between its own quotes. -/
def Shows (level : Nat) (text : Text) (shown : List Text) : Prop :=
  if '\n' ∈ text then ShowsBetween level text shown
  else shown.map (unquote? level) = [some text]

end Docstring

end Scribe
