import Scribe.Layout.Normalizer

/-!
# Formatters and policies

What is done to the whole text of a document, and when.

* `Formatter` — a function on texts that may fail;
* `Formatter.passthrough`, `Normalizer.formatter` — the two that this library brings;
* `Formatter.Idempotent` — what is expected of a formatter;
* `ReformatPolicy` — after every write, or once at the end.
-/

namespace Scribe

/-- A style for whole texts: the text in that style, or the cause of a failure. -/
abbrev Formatter := Text → Except Text Text

namespace Formatter

def passthrough : Formatter := fun source => .ok source

/-- A text that the formatter returned is accepted and stays as it is. -/
def Idempotent (f : Formatter) : Prop := ∀ s t, f s = .ok t → f t = .ok t

end Formatter

namespace Normalizer

/-- A normalizer accepts every text. -/
def formatter (n : Normalizer) : Formatter := fun source => .ok (n.reformat source)

end Normalizer

inductive ReformatPolicy where
  | eachWrite
  | onFinalize
deriving DecidableEq, Repr

namespace ReformatPolicy

def default : ReformatPolicy := onFinalize

/-- The name of the policy in settings. -/
def name : ReformatPolicy → Text
  | eachWrite => "each-write".toList
  | onFinalize => "on-finalize".toList

def ofName? (t : Text) : Option ReformatPolicy :=
  [eachWrite, onFinalize].find? fun policy => policy.name == t

end ReformatPolicy

end Scribe
