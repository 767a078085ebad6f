import Scribe.Settings.Decode
import Scribe.Toml.Source

/-!
# Loading settings

Settings from the text of a source, or from the bytes of a file. Any reader will do for the notation of the
source; `Toml.parse?` is the one that is used.

* `Settings.Reader` — what turns a source into a table;
* `Settings.loadWith`, `Settings.load` — from a text; the name of the document is checked last;
* `Settings.loadFile` — from the bytes of a file, if it is there;
* `Settings.nameIn?` — the name that a table gives, with the place of its string, quotes included;
* `Settings.NameWritten` — a source in which this string has no escapes.
-/

namespace Scribe

open Text Toml

namespace Settings

/-- The name of a source that has no other. -/
def defaultSourceName : Text := "jenna.toml".toList

/-- Refuses settings that name a document in a way that no document can be named. -/
def checkName (source sourceName : Text) (s : Settings) : Except SettingsError Settings :=
  match s.document.name with
  | none => .ok s
  | some name =>
    if Naming.isDocumentName name then .ok s
    else .error (.invalidName name (valueSpan? name source) sourceName)

/-- The table that a source describes, if it keeps to the notation. -/
abbrev Reader := Text → Option Members

/-- The settings that a source describes, by its notation alone. -/
def decodeWith (read : Reader) (source sourceName : Text) : Except SettingsError Settings :=
  match read source with
  | none => .error (.malformed none sourceName)
  | some members =>
    match ofMembers members with
    | .ok s => .ok s
    | .error .wrongType => .error (.malformed none sourceName)
    | .error (.fault f span) => .error (.malformed (some ⟨f, span⟩) sourceName)

/-- The settings that a source describes. -/
def loadWith (read : Reader) (source sourceName : Text) : Except SettingsError Settings := do
  checkName source sourceName (← decodeWith read source sourceName)

/-- The settings that a source of TOML describes. -/
def load (source : Text) (sourceName : Text := defaultSourceName) : Except SettingsError Settings :=
  loadWith parse? source sourceName

/-- The settings in a file, given its bytes if it exists. -/
def loadFile (path : Text) : Option ByteArray → Except SettingsError Settings
  | none => .error (.unreadable path .notFound)
  | some bytes =>
    match String.fromUTF8? bytes with
    | none => .error (.unreadable path .invalidData)
    | some source => load source.toList path

/-! ## Where a name is written -/

/-- The name that a table gives: it stands under its key in the section, or first in a section that is
written as an array. -/
def nameIn? (members : Members) : Option (Spanned Text) := do
  let item ← match (← members.get? "document".toList).value with
    | .table _ fields => Members.get? "name".toList fields
    | .array _ items => items.head?
    | _ => none
  match item.value with
  | .string name => some ⟨name, item.span⟩
  | _ => none

/-- The name of the document is written behind `before`, as it stands between two of `mark`, and it is read
from there. -/
structure NameWritten (read : Reader) (source before : Text) (mark : Char) (name : Text) : Prop where
  isQuote : mark = quoteMark ∨ mark = apostrophe
  stands : before ++ ([mark] ++ name ++ [mark]) <+: source
  isRead : (read source).bind nameIn? =
    some ⟨name, Span.ofSize (utf8Size before) (utf8Size ([mark] ++ name ++ [mark]))⟩

end Settings

end Scribe
