import Scribe.Construct.Render
import Scribe.Document.Policy
import Scribe.Naming.FileName

/-!
# Documents

A document collects the texts of constructs under a header and hands the whole to a formatter.

* `Document` — name, contents, policy and formatter;
* `Document.new`, `Document.untitled` — a document that holds its header;
* `Document.write`, `Document.writeAll` — render constructs and append them;
* `Document.reformat`, `Document.finalize` — run the formatter;
* `WriteError` — why one of these fails.
-/

namespace Scribe

open Text

/-- A text under construction. -/
structure Document where
  name : Text
  contents : Text
  policy : ReformatPolicy
  formatter : Formatter

/-! ## Errors -/

/-- Why a document cannot be written to or finished. -/
inductive WriteError where
  | build (e : BuildError)
  | reformat (documentName cause : Text)
deriving DecidableEq, Repr

namespace WriteError

def message : WriteError → Text
  | build e => e.message
  | reformat documentName _ => "failed to reformat ".toList ++ inApostrophes documentName

/-- The error and its causes in words, from the outermost to the innermost. -/
def chain : WriteError → List Text
  | build e => [e.message]
  | reformat documentName cause => [message (reformat documentName cause), cause]

end WriteError

namespace Document

/-! ## Making a document -/

/-- The header of a document that asks for no other. -/
def defaultHeader : Text := "# This file was generated by Jenna".toList

/-- The contents of a new document: the header is terminated, an empty one leaves nothing. -/
def headerLine (header : Text) : Text :=
  if header = [] then [] else header ++ ['\n']

/-- A document of a given name with the default header, policy and formatter. -/
def named (name : Text) : Document :=
  { name
    contents := headerLine defaultHeader
    policy := ReformatPolicy.default
    formatter := (default : Normalizer).formatter }

def checkName (name : Text) : Except BuildError Unit :=
  if Naming.isDocumentName name then .ok () else .error (.invalidDocumentName name)

def new (name : Text) : Except BuildError Document := do
  checkName name
  return named name

/-- A document named after a count of seconds. -/
def untitled (seconds : Nat) : Document :=
  named (Naming.defaultDocumentName seconds)

/-- The document with another header, which replaces all contents. -/
def setHeader (d : Document) (header : Text) : Document :=
  { d with contents := headerLine header }

def setPolicy (d : Document) (policy : ReformatPolicy) : Document := { d with policy }

def setFormatter (d : Document) (formatter : Formatter) : Document := { d with formatter }

/-! ## Writing -/

def trimNewlines : Text → Text
  | [] => []
  | c :: rest =>
    match trimNewlines rest with
    | [] => if c = '\n' then [] else [c]
    | kept => c :: kept

/-- The document with a text at its end, less the newlines at the end of that text. -/
def appendText (d : Document) (text : Text) : Document :=
  { d with contents := d.contents ++ trimNewlines text }

/-- The document with its contents as the formatter leaves them. If the formatter fails, they stay. -/
def reformat (d : Document) : Document × Except WriteError Unit :=
  match d.formatter d.contents with
  | .ok contents => ({ d with contents }, .ok ())
  | .error cause => (d, .error (.reformat d.name cause))

/-- A text form as it is appended: a bare line is put on a line of its own. -/
def separated (c : Construct) (rendered : Text) : Text :=
  if c.isLine then '\n' :: rendered else rendered

/-- What a write leaves behind: the document, the construct as it was stamped, and whether the write
failed. -/
structure WriteOutcome where
  document : Document
  construct : Construct
  result : Except WriteError Unit

/-- Stamps and renders a construct and appends it; the document is then reformatted if the policy asks
for it. A document that cannot be reformatted gets its contents from before the write back. -/
def write (d : Document) (c : Construct) : WriteOutcome :=
  let construct := c.restamp
  match construct.render with
  | .error e => { document := d, construct, result := .error (.build e) }
  | .ok rendered =>
    let appended := d.appendText (separated construct rendered)
    match d.policy with
    | .onFinalize => { document := appended, construct, result := .ok () }
    | .eachWrite =>
      match appended.reformat with
      | (formatted, .ok ()) => { document := formatted, construct, result := .ok () }
      | (kept, .error e) =>
        { document := { kept with contents := d.contents }, construct, result := .error e }

/-- Writes constructs one after the other, whether or not the writes before succeeded. -/
def writeAll (d : Document) : List Construct → Document × List (Except WriteError Unit)
  | [] => (d, [])
  | c :: rest =>
    let outcome := d.write c
    let (last, results) := outcome.document.writeAll rest
    (last, outcome.result :: results)

def finalize (d : Document) : Except WriteError Text :=
  match d.reformat with
  | (finished, .ok ()) => .ok finished.contents
  | (_, .error e) => .error e

end Document

end Scribe
