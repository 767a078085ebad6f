import Scribe.Document.Basic

/-!
# Sessions

A document in use: the calls on it as data, and what is seen of them.

* `DocumentCall` — a call on a document;
* `Session` — a document and the constructs that its caller holds;
* `Session.call` — one call, which may fail;
* `Session.events` — the calls of a run with their results and the documents that they leave.
-/

namespace Scribe

/-- A call on a document. The construct of a write is one of those that the caller holds, so that one
construct can be written many times. -/
inductive DocumentCall where
  | write (slot : Nat)
  | append (text : Text)
  | reformat
deriving DecidableEq, Repr

/-- A document and the constructs that its caller holds, each in its slot. -/
structure Session where
  document : Document
  held : Nat → Construct

namespace Session

/-- The session with another construct in a slot. -/
def hold (s : Session) (slot : Nat) (c : Construct) : Session :=
  { s with held := fun other => if other = slot then c else s.held other }

/-- A call and its result. A write leaves the construct stamped, whether or not it fails. -/
def call (s : Session) : DocumentCall → Session × Except WriteError Unit
  | .write slot =>
    let outcome := s.document.write (s.held slot)
    ({ s with document := outcome.document }.hold slot outcome.construct, outcome.result)
  | .append text => ({ s with document := s.document.appendText text }, .ok ())
  | .reformat =>
    let (document, result) := s.document.reformat
    ({ s with document }, result)

end Session

/-- What is seen of a call: its result and the document after it. -/
structure Event where
  call : DocumentCall
  result : Except WriteError Unit
  document : Document

namespace Event

def succeeded (e : Event) : Bool := e.result.isOk

end Event

namespace Session

/-- The events of a run, which goes on after a failure. -/
def events (s : Session) : List DocumentCall → List Event
  | [] => []
  | call :: rest =>
    let (next, result) := s.call call
    { call, result, document := next.document } :: next.events rest

@[simp] theorem events_nil (s : Session) : s.events [] = [] := rfl

@[simp] theorem events_cons (s : Session) (call : DocumentCall) (rest : List DocumentCall) :
    s.events (call :: rest) =
      ⟨call, (s.call call).2, (s.call call).1.document⟩ :: (s.call call).1.events rest := rfl

end Session

end Scribe
