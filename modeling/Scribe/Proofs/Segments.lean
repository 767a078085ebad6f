import Mathlib.Order.Bounds.Basic
import Scribe.Layout.LineBuffer

/-!
# Segments can be nested

A segment ends at the level where it began plus its balance, unless it goes below the outermost level: what
is missing there is made up for. As long as it does not go below the level where it began, it writes there
what it writes at the outermost level, with the indentation of that level in front of its lines.

* `LineBuffer.isLeast_lowest` — the least balance on the way is reached and never passed;
* `LineBuffer.level_run` — the level at the end;
* `LineBuffer.outputs_take` — the texts of the first steps;
* `LineBuffer.outputs_add` — the texts of a segment at a deeper level;
* `LineBuffer.segments_nest` — all of this.
-/

namespace Scribe
namespace LineBuffer

variable {s : Step} {steps : List Step} {indent : Indent} {level : Nat}

/-! ## Balances -/

theorem balance_nil : balance [] = 0 := rfl

theorem balance_cons (s : Step) (rest : List Step) :
    balance (s :: rest) = balance [s] + balance rest := by
  simp only [balance, List.count_cons, List.count_nil]
  omega

theorem lowest_nonpos (steps : List Step) : lowest steps ≤ 0 := by
  cases steps with
  | nil => exact Int.le_refl 0
  | cons s rest => exact Int.min_le_left _ _

theorem lowest_le (steps : List Step) (k : Nat) : lowest steps ≤ balance (steps.take k) := by
  induction steps generalizing k with
  | nil => simp [lowest, balance_nil]
  | cons s rest ih =>
    cases k with
    | zero => exact lowest_nonpos _
    | succ k =>
      have hrest := ih k
      simp only [lowest, List.take_succ_cons, balance_cons s (rest.take k)]
      omega

theorem exists_balance_eq_lowest (steps : List Step) : ∃ k, balance (steps.take k) = lowest steps := by
  induction steps with
  | nil => exact ⟨0, rfl⟩
  | cons s rest ih =>
    obtain ⟨k, hk⟩ := ih
    -- The least balance is that of no steps, or the way to it begins with the first.
    by_cases hdown : balance [s] + lowest rest ≤ 0
    · refine ⟨k + 1, ?_⟩
      simp only [List.take_succ_cons, balance_cons s (rest.take k), hk, lowest, Int.min_eq_right hdown]
    · have hstart : lowest (s :: rest) = 0 := Int.min_eq_left (by omega)
      exact ⟨0, by simp [hstart, balance_nil]⟩

/-- Of the levels on the way from `level`, as they would be if there were any below the outermost. -/
theorem isLeast_lowest (level : Nat) (steps : List Step) :
    IsLeast (Set.range fun k => (level : Int) + balance (steps.take k)) (level + lowest steps) := by
  constructor
  · obtain ⟨k, hk⟩ := exists_balance_eq_lowest steps
    exact ⟨k, by simp only [hk]⟩
  · rintro _ ⟨k, rfl⟩
    have hlowest := lowest_le steps k
    show (level : Int) + lowest steps ≤ level + balance (steps.take k)
    omega

/-! ## One step -/

/-- A step goes where its balance says, or to the outermost level if there is no such level. -/
theorem levelAfter_eq (h : s.isRelative = true) (level : Nat) :
    (s.levelAfter level : Int) = max 0 (level + balance [s]) := by
  cases s with
  | setLevel n => cases h
  | deepen => simp [Step.levelAfter, balance]; omega
  | shallow => simp [Step.levelAfter, balance]; omega
  | line t => simp [Step.levelAfter, balance]
  | raw t => simp [Step.levelAfter, balance]
  | blank => simp [Step.levelAfter, balance]

theorem levelAfter_add (h : s.isRelative = true) (hroom : 0 ≤ level + balance [s]) (more : Nat) :
    s.levelAfter (more + level) = more + s.levelAfter level := by
  have hlow := levelAfter_eq h level
  have hhigh := levelAfter_eq h (more + level)
  omega

theorem output_add (h : s.isRelative = true) (more level : Nat) :
    s.output indent (more + level) = s.behind (indent.repeated more) (s.output indent level) := by
  cases s with
  | setLevel n => cases h
  | line t => simp [Step.output, Step.behind, Indent.repeated_add]
  | _ => rfl

/-! ## All steps -/

/-- The level at the end. The reflection at the outermost level is one correction for the whole segment. -/
theorem level_run (b : LineBuffer) (h : ∀ s ∈ steps, s.isRelative = true) :
    ((b.run steps).level : Int) =
      b.level + balance steps + max 0 (-(b.level + lowest steps)) := by
  induction steps generalizing b with
  | nil => simp [balance_nil, lowest]
  | cons s rest ih =>
    obtain ⟨hs, hrest⟩ := List.forall_mem_cons.1 h
    have hstep : ((b.apply s).level : Int) = max 0 (b.level + balance [s]) := levelAfter_eq hs b.level
    have hnonpos := lowest_nonpos rest
    have hend := ih (b.apply s) hrest
    simp only [run_cons, balance_cons s rest, lowest]
    omega

theorem outputs_take (indent : Indent) (level k : Nat) (steps : List Step) :
    outputs indent level (steps.take k) = (outputs indent level steps).take k := by
  induction steps generalizing level k with
  | nil => simp [outputs]
  | cons s rest ih =>
    cases k with
    | zero => rfl
    | succ k => simp [outputs, ih]

/-- A segment with room above the outermost level writes the same deeper in, lines behind the indentation. -/
theorem outputs_add (more : Nat) (h : ∀ s ∈ steps, s.isRelative = true)
    (hroom : ∀ k, 0 ≤ level + balance (steps.take k)) :
    outputs indent (more + level) steps =
      List.zipWith (Step.behind (indent.repeated more)) steps (outputs indent level steps) := by
  induction steps generalizing level with
  | nil => rfl
  | cons s rest ih =>
    obtain ⟨hs, hrest⟩ := List.forall_mem_cons.1 h
    have hfirst : 0 ≤ level + balance [s] := by simpa using hroom 1
    have hlater : ∀ k, 0 ≤ (s.levelAfter level : Int) + balance (rest.take k) := by
      intro k
      have hnext := hroom (k + 1)
      have hlevel := levelAfter_eq hs level
      simp only [List.take_succ_cons, balance_cons s (rest.take k)] at hnext
      omega
    simp only [outputs, List.zipWith_cons_cons, output_add hs, levelAfter_add hs hfirst,
      ih hrest hlater]

/-- A segment ends at its balance above the level where it began, or as much higher as it would have gone
below the outermost level; it only appends; and if it nowhere goes below the level where it began, it
appends what it appends at the outermost level, with the indentation in front of its lines. -/
theorem segments_nest (b : LineBuffer) (h : ∀ s ∈ steps, s.isRelative = true) :
    let low : Int := b.level + lowest steps
    IsLeast (Set.range fun k => (b.level : Int) + balance (steps.take k)) low ∧
      ((b.run steps).level : Int) = b.level + balance steps + max 0 (-low) ∧
      b.text <+: (b.run steps).text ∧
      (∀ level k, (run { b with level } (steps.take k)).text =
        b.text ++ ((outputs b.indent level steps).take k).flatten) ∧
      ((∀ k, 0 ≤ balance (steps.take k)) →
        outputs b.indent b.level steps =
          List.zipWith (Step.behind (b.indent.repeated b.level)) steps (outputs b.indent 0 steps)) := by
  refine ⟨isLeast_lowest b.level steps, level_run b h, ?_, fun level k => ?_, fun hroom => ?_⟩
  · exact ⟨_, (text_run b steps).symm⟩
  · have htext := text_run { b with level } (steps.take k)
    simpa only [outputs_take] using htext
  · have hroom' : ∀ k, 0 ≤ ((0 : Nat) : Int) + balance (steps.take k) := by simpa using hroom
    exact outputs_add b.level h hroom'

/-- A step too many back is made up for, and a class is written inside of a block as it is outside. -/
theorem segments_nest_of_class :
    let b : LineBuffer := { indent := .tab, level := 1, text := "if x:\n".toList }
    let surplus : List Step := [.shallow, .shallow, .deepen, .line "y".toList]
    let body : List Step := [.line "class A:".toList, .deepen, .line "pass".toList, .shallow]
    (∀ s ∈ surplus, s.isRelative = true) ∧ (∀ s ∈ body, s.isRelative = true) ∧
      (b.run surplus).level = 1 ∧
      outputs b.indent 1 body = ["\tclass A:\n".toList, [], "\t\tpass\n".toList, []] := by
  intro b surplus body
  have hsurplus : ∀ s ∈ surplus, s.isRelative = true := by decide
  have hbody : ∀ s ∈ body, s.isRelative = true := by decide
  obtain ⟨_, hlevel, _⟩ := segments_nest b hsurplus
  obtain ⟨_, _, _, _, hnest⟩ := segments_nest b hbody
  have hroom : ∀ k, 0 ≤ balance (body.take k) := fun k =>
    Int.le_trans (by decide) (lowest_le body k)
  refine ⟨hsurplus, hbody, ?_, ?_⟩
  · have hend : ((b.run surplus).level : Int) = 1 := hlevel.trans (by decide)
    omega
  · exact (hnest hroom).trans (by decide)

end LineBuffer
end Scribe
