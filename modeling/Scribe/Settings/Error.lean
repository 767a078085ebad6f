import Scribe.Text.Span

/-!
# Errors of settings

Why settings cannot be read, and how this is reported.

* `SettingFault` — what is wrong with a key or a value;
* `SettingsError` — why there are no settings;
* `SettingsError.message`, `SettingsError.code`, `SettingsError.help`, `SettingsError.label` — the parts
  of a report.
-/

namespace Scribe

open Text

/-! ## Faults of a key or a value -/

/-- What is wrong with a key or a value in its place. -/
inductive SettingFault where
  | indentWidth (width : Int)
  | indentWord (word : Text)
  | indentForm
  | unknownField (name : Text) (known : List Text)
  | unknownPolicy (name : Text)
deriving DecidableEq, Repr

/-- Names between back quotes: two joined by `or`, more as a list. -/
def alternatives (names : List Text) : Text :=
  let quoted := names.map fun name => ['\x60'] ++ name ++ ['\x60']
  match quoted with
  | [a, b] => a ++ " or ".toList ++ b
  | _ => "one of ".toList ++ commaSeparated quoted

namespace SettingFault

/-- The fault in words. -/
def message : SettingFault → Text
  | indentWidth width =>
    "indent width must be between 1 and 8, got ".toList ++ (toString width).toList
  | indentWord word =>
    "unknown indent ".toList ++ inApostrophes word
      ++ ", expected a width or ".toList ++ [quoteMark] ++ "tab".toList ++ [quoteMark]
  | indentForm => "data did not match any variant of untagged enum RawIndent".toList
  | unknownField name known =>
    "unknown field ".toList ++ ['\x60'] ++ name ++ ['\x60'] ++ ", expected ".toList
      ++ alternatives known
  | unknownPolicy name =>
    "unknown variant ".toList ++ ['\x60'] ++ name ++ ['\x60'] ++ ", expected ".toList
      ++ alternatives ["each-write".toList, "on-finalize".toList]

end SettingFault

/-! ## Errors -/

/-- Why a file of settings cannot be read. -/
inductive ReadFailure where
  | notFound
  | invalidData
deriving DecidableEq, Repr

/-- Why there are no settings. A source is malformed if it breaks a rule of its notation or holds a
value of a wrong type, for which no detail is given, or else for a fault that has a place. -/
inductive SettingsError where
  | unreadable (path : Text) (failure : ReadFailure)
  | malformed (detail : Option (Spanned SettingFault)) (sourceName : Text)
  | invalidName (name : Text) (place : Option Span) (sourceName : Text)
deriving DecidableEq, Repr

namespace SettingsError

/-- The error in words. -/
def message : SettingsError → Text
  | unreadable path _ => "failed to read ".toList ++ inApostrophes path
  | malformed _ _ => "failed to parse jenna.toml".toList
  | invalidName name _ _ =>
    "invalid document name ".toList ++ inApostrophes name ++ ", expected a python file name".toList

/-- The code under which the error is known. -/
def code : SettingsError → Option Text
  | unreadable _ _ => none
  | malformed _ _ => some "jenna::parse_error".toList
  | invalidName _ _ _ => some "jenna::validation_error".toList

/-- What can be done about the error. -/
def help : SettingsError → Option Text
  | unreadable _ _ => some "create a jenna.toml or construct the configuration in code".toList
  | malformed _ _ | invalidName _ _ _ => none

/-- The place in the source that the error points at, and what is said there. -/
def label : SettingsError → Option (Spanned Text)
  | unreadable _ _ => none
  | malformed detail _ => detail.map fun d => ⟨"parse error here".toList, d.span⟩
  | invalidName name place sourceName =>
    place.map fun span => ⟨message (invalidName name place sourceName), span⟩

end SettingsError

end Scribe
