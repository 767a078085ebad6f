import Scribe.Text.Basic

/-!
# Indentation units

Constructs are rendered with tabs; an indentation unit says what a tab becomes in the finished text.

* `Indent` — a number of spaces, or a tab;
* `Indent.unit` — the text of one level;
* `Indent.repeated` — the text of several levels;
* `Indent.InRange` — the width can be taken as it is.
-/

namespace Scribe

/-- The indentation of one level. Any width can be asked for; `Indent.unit` brings it into range. -/
inductive Indent where
  | spaces (width : Nat)
  | tab
deriving DecidableEq, Repr

namespace Indent

def minWidth : Nat := 1

def maxWidth : Nat := 8

def default : Indent := spaces 4

instance : Inhabited Indent := ⟨default⟩

/-- The text of one level: the width is moved to the nearest end of its range. -/
def unit : Indent → Text
  | spaces width => List.replicate (max minWidth (min width maxWidth)) ' '
  | tab => ['\t']

/-- The text of `level` levels. -/
def repeated (indent : Indent) (level : Nat) : Text :=
  (List.replicate level indent.unit).flatten

/-- The unit needs no bringing into range. -/
def InRange : Indent → Prop
  | spaces width => minWidth ≤ width ∧ width ≤ maxWidth
  | tab => True

/-! ## Equations -/

theorem unit_spaces_of_inRange {width : Nat} (h : (spaces width).InRange) :
    (spaces width).unit = List.replicate width ' ' := by
  simp only [unit, Nat.min_eq_left h.2, Nat.max_eq_right h.1]

@[simp] theorem repeated_zero (indent : Indent) : indent.repeated 0 = [] := rfl

theorem repeated_succ (indent : Indent) (level : Nat) :
    indent.repeated (level + 1) = indent.unit ++ indent.repeated level := by
  simp [repeated, List.replicate_succ]

theorem repeated_add (indent : Indent) (j k : Nat) :
    indent.repeated (j + k) = indent.repeated j ++ indent.repeated k := by
  simp only [repeated, ← List.replicate_append_replicate, List.flatten_append]

@[simp] theorem repeated_tab (level : Nat) : tab.repeated level = Text.tabs level := by
  induction level with
  | zero => rfl
  | succ n ih => rw [repeated_succ, ih]; rfl

/-- A unit of spaces is at least one space wide. -/
theorem exists_repeated_spaces_succ (width level : Nat) :
    ∃ rest, (spaces width).repeated (level + 1) = ' ' :: rest := by
  obtain ⟨w, hw⟩ : ∃ w, max minWidth (min width maxWidth) = w + 1 :=
    Nat.exists_eq_succ_of_ne_zero (by simp [minWidth])
  simp only [repeated_succ, unit, hw, List.replicate_succ]
  exact ⟨_, rfl⟩

end Indent

end Scribe
