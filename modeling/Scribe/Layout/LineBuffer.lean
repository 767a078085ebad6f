import Scribe.Layout.Indent

/-!
# Line buffers

A buffer to which lines are appended at a current indent level.

* `LineBuffer` — the text so far, its level and its indentation unit;
* `LineBuffer.Step` — what can be done to a buffer;
* `LineBuffer.apply`, `LineBuffer.run` — one step and many;
* `LineBuffer.outputs` — the texts that the steps append, one by one.

A segment is a list of steps that go up and down from the current level and never to a given one, so that it
can stand inside of another.

* `LineBuffer.Step.isRelative` — the steps of a segment;
* `LineBuffer.balance`, `LineBuffer.lowest` — how far a segment goes, and how far down on its way;
* `LineBuffer.Step.behind` — a line with more in front.
-/

namespace Scribe

/-- A growing text with a current indent level. -/
structure LineBuffer where
  indent : Indent := Indent.default
  level : Nat := 0
  text : Text := []
deriving DecidableEq, Repr

namespace LineBuffer

inductive Step where
  | line (s : Text)
  | raw (s : Text)
  | blank
  | deepen
  | shallow
  | setLevel (level : Nat)
deriving DecidableEq, Repr

namespace Step

/-- The text that a step appends at a level: a line is indented and terminated, raw text is not. -/
def output (indent : Indent) (level : Nat) : Step → Text
  | line s => indent.repeated level ++ s ++ ['\n']
  | raw s => s
  | blank => ['\n']
  | deepen | shallow | setLevel _ => []

/-- The level after a step. The outermost level is its own parent. -/
def levelAfter (level : Nat) : Step → Nat
  | deepen => level + 1
  | shallow => level - 1
  | setLevel n => n
  | line _ | raw _ | blank => level

end Step

def apply (b : LineBuffer) (s : Step) : LineBuffer :=
  { b with level := s.levelAfter b.level, text := b.text ++ s.output b.indent b.level }

def run (b : LineBuffer) (steps : List Step) : LineBuffer :=
  steps.foldl apply b

/-- What each of the steps appends, from a level on. -/
def outputs (indent : Indent) (level : Nat) : List Step → List Text
  | [] => []
  | s :: rest => s.output indent level :: outputs indent (s.levelAfter level) rest

/-! ## Equations -/

@[simp] theorem run_nil (b : LineBuffer) : b.run [] = b := rfl

@[simp] theorem run_cons (b : LineBuffer) (s : Step) (steps : List Step) :
    b.run (s :: steps) = (b.apply s).run steps := rfl

@[simp] theorem outputs_nil (indent : Indent) (level : Nat) : outputs indent level [] = [] := rfl

@[simp] theorem outputs_cons (indent : Indent) (level : Nat) (s : Step) (rest : List Step) :
    outputs indent level (s :: rest) =
      s.output indent level :: outputs indent (s.levelAfter level) rest := rfl

/-- A run appends what its steps append, one after the other. -/
theorem text_run (b : LineBuffer) (steps : List Step) :
    (b.run steps).text = b.text ++ (outputs b.indent b.level steps).flatten := by
  induction steps generalizing b with
  | nil => simp
  | cons s rest ih =>
    calc (b.run (s :: rest)).text
        = (b.apply s).text ++ (outputs b.indent (s.levelAfter b.level) rest).flatten := ih (b.apply s)
      _ = b.text ++ (s.output b.indent b.level ++
            (outputs b.indent (s.levelAfter b.level) rest).flatten) := List.append_assoc _ _ _
      _ = b.text ++ (outputs b.indent b.level (s :: rest)).flatten := rfl

/-! ## Segments -/

namespace Step

/-- Whether a step can be taken at any level and does the same at all. -/
def isRelative : Step → Bool
  | setLevel _ => false
  | line _ | raw _ | blank | deepen | shallow => true

/-- The output of a step with a text in front of it if the step is a line. -/
def behind (front : Text) : Step → Text → Text
  | line _, output => front ++ output
  | raw _, output | blank, output | deepen, output | shallow, output | setLevel _, output => output

end Step

/-- How many more steps go deeper than come back. -/
def balance (steps : List Step) : Int :=
  (steps.count .deepen : Int) - steps.count .shallow

/-- The least balance on the way, that of no steps included. -/
def lowest : List Step → Int
  | [] => 0
  | s :: rest => min 0 (balance [s] + lowest rest)

end LineBuffer

end Scribe
