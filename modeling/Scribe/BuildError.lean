import Scribe.Text.Basic

/-!
# Build errors

What can be wrong with a construct, or with the name of a document, when it is built or rendered.

* `BuildError` — the causes;
* `BuildError.message` — their wording.
-/

namespace Scribe

/-- Why a construct or a document cannot be built or rendered. -/
inductive BuildError where
  | invalidDecorator (decorator : Text)
  | missingPrimary
  | invalidMethod
  | invalidDocumentName (name : Text)
deriving DecidableEq, Repr

namespace BuildError

/-- The cause in words. -/
def message : BuildError → Text
  | invalidDecorator decorator =>
    "invalid decorator ".toList ++ Text.inApostrophes decorator
      ++ ": decorator should start with @".toList
  | missingPrimary => "No If object attached to IfElse object".toList
  | invalidMethod => "method name or argument name invalid".toList
  | invalidDocumentName name =>
    "invalid document name ".toList ++ Text.inApostrophes name
      ++ ": expected a python file name such as 'output.py'".toList

end BuildError

end Scribe
