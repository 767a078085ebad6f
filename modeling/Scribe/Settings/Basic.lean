import Scribe.Document.Basic
import Scribe.Text.Span

/-!
# Settings

What can be set for a document and its formatting.

* `DocumentSettings`, `FormatSettings`, `Settings` — the two sections and their union;
* `FormatSettings.normalizer` — the normalizer that a section describes;
* `Document.ofSettings` — the document that settings describe;
* `Document.Reachable` — a document that was made in one of the three ways, after any operations.
-/

namespace Scribe

/-- The settings of a document. -/
structure DocumentSettings where
  name : Option Text := none
  header : Text := Document.defaultHeader
  reformat : ReformatPolicy := ReformatPolicy.default
deriving DecidableEq, Repr

/-- The settings of the formatting. -/
structure FormatSettings where
  indent : Indent := (default : Normalizer).indent
  maxBlankLines : Nat := (default : Normalizer).maxBlankLines
deriving DecidableEq, Repr

namespace FormatSettings

/-- The normalizer that the settings describe. -/
def normalizer (f : FormatSettings) : Normalizer :=
  { indent := f.indent, maxBlankLines := f.maxBlankLines }

end FormatSettings

/-- All settings. -/
structure Settings where
  document : DocumentSettings := {}
  format : FormatSettings := {}
deriving DecidableEq, Repr

namespace Document

/-- The document that settings describe. If they give no name, it is named after a count of seconds. -/
def ofSettings (seconds : Nat) (s : Settings) : Except BuildError Document := do
  let d ← match s.document.name with
    | some name => Document.new name
    | none => .ok (Document.untitled seconds)
  return ((d.setHeader s.document.header).setPolicy s.document.reformat).setFormatter
    s.format.normalizer.formatter

end Document

/-! ## Documents with a history -/

/-- A document that was made from a name, from a count of seconds or from settings, and used in any
way since. An operation that fails leaves a document too. -/
inductive Document.Reachable : Document → Prop where
  | new {name : Text} {d : Document} : Document.new name = .ok d → Reachable d
  | untitled (seconds : Nat) : Reachable (Document.untitled seconds)
  | ofSettings {seconds : Nat} {s : Settings} {d : Document} :
      Document.ofSettings seconds s = .ok d → Reachable d
  | setHeader {d : Document} (header : Text) : Reachable d → Reachable (d.setHeader header)
  | setPolicy {d : Document} (policy : ReformatPolicy) : Reachable d → Reachable (d.setPolicy policy)
  | setFormatter {d : Document} (f : Formatter) : Reachable d → Reachable (d.setFormatter f)
  | appendText {d : Document} (text : Text) : Reachable d → Reachable (d.appendText text)
  | write {d : Document} (c : Construct) : Reachable d → Reachable (d.write c).document
  | reformat {d : Document} : Reachable d → Reachable d.reformat.1

end Scribe
