import Scribe.Text.Basic

/-!
# Blank characters

The characters with the Unicode property White_Space, the removal of trailing ones, and what is left of
a text for a reader who does not see blank lines.

* `Text.isBlank` — the property;
* `Text.trimEnd` — a text without its trailing blanks;
* `Text.isVisible`, `Text.visibleLines` — the lines that have anything but blanks, in order.

Only a newline ends a visible line: a carriage return is a blank of the line that it stands in.
-/

namespace Scribe
namespace Text

/-- A character of horizontal or vertical white space. -/
def isBlank (c : Char) : Bool :=
  let n := c.toNat
  (0x09 ≤ n && n ≤ 0x0D) || n == 0x20 || n == 0x85 || n == 0xA0 || n == 0x1680
    || (0x2000 ≤ n && n ≤ 0x200A) || n == 0x2028 || n == 0x2029 || n == 0x202F || n == 0x205F
    || n == 0x3000

/-- The text up to its last character that is not blank. -/
def trimEnd : Text → Text
  | [] => []
  | c :: rest =>
    match trimEnd rest with
    | [] => if isBlank c then [] else [c]
    | kept => c :: kept

/-- Whether a line has anything to show. -/
def isVisible (line : Text) : Bool := !line.all isBlank

/-- The lines of a text that have anything but blanks. -/
def visibleLines (t : Text) : List Text := (split '\n' t).filter isVisible

/-! ## What trimming leaves -/

@[simp] theorem trimEnd_nil : trimEnd [] = [] := rfl

theorem trimEnd_eq_nil_iff {t : Text} : trimEnd t = [] ↔ ∀ c ∈ t, isBlank c = true := by
  induction t with
  | nil => simp
  | cons c rest ih =>
    unfold trimEnd
    split
    · rename_i h
      by_cases hc : isBlank c = true
      · simpa [hc] using ih.mp h
      · simp [hc]
    · rename_i h
      simp only [reduceCtorEq, List.mem_cons, forall_eq_or_imp, false_iff, not_and]
      intro _ hall
      exact h (ih.mpr hall)

/-- Only blanks are removed, and only at the end. -/
theorem exists_append_of_trimEnd (t : Text) :
    ∃ tail, t = trimEnd t ++ tail ∧ ∀ c ∈ tail, isBlank c = true := by
  induction t with
  | nil => exact ⟨[], rfl, by simp⟩
  | cons c rest ih =>
    obtain ⟨tail, hrest, htail⟩ := ih
    unfold trimEnd
    split
    · rename_i h
      rw [h, List.nil_append] at hrest
      by_cases hc : isBlank c = true
      · exact ⟨c :: rest, by simp [hc], by simpa [hc, hrest] using htail⟩
      · exact ⟨rest, by simp [hc], by simpa [hrest] using htail⟩
    · exact ⟨tail, by rw [List.cons_append, ← hrest], htail⟩

theorem mem_of_mem_trimEnd {t : Text} {c : Char} (h : c ∈ trimEnd t) : c ∈ t := by
  obtain ⟨tail, ht, _⟩ := exists_append_of_trimEnd t
  rw [ht]
  exact List.mem_append_left _ h

theorem trimEnd_append {s t : Text} (h : trimEnd t ≠ []) : trimEnd (s ++ t) = s ++ trimEnd t := by
  induction s with
  | nil => rfl
  | cons c rest ih =>
    rw [List.cons_append, trimEnd, ih]
    split
    · rename_i hnil
      exact absurd (List.append_eq_nil_iff.1 hnil).2 h
    · rfl

theorem trimEnd_cons {c : Char} (t : Text) (h : isBlank c = false) :
    trimEnd (c :: t) = c :: trimEnd t := by
  rw [trimEnd]
  split
  · rename_i hnil
    simp [h, hnil]
  · rfl

theorem trimEnd_cons_congr {s t : Text} (c : Char) (h : trimEnd s = trimEnd t) :
    trimEnd (c :: s) = trimEnd (c :: t) := by
  rw [trimEnd, trimEnd, h]

@[simp] theorem trimEnd_trimEnd (t : Text) : trimEnd (trimEnd t) = trimEnd t := by
  induction t with
  | nil => rfl
  | cons c rest ih =>
    by_cases hrest : trimEnd rest = []
    · by_cases hc : isBlank c = true
      · simp [trimEnd, hrest, hc]
      · simp [trimEnd, hrest, hc]
    · have hkept : trimEnd (c :: rest) = c :: trimEnd rest := @trimEnd_append [c] rest hrest
      rw [hkept]
      rw [← ih] at hrest
      exact (@trimEnd_append [c] (trimEnd rest) hrest).trans (congrArg (c :: ·) ih)

/-- What is left ends in a character that is not blank. -/
theorem isBlank_of_getLast?_trimEnd {t : Text} {c : Char} (h : (trimEnd t).getLast? = some c) :
    isBlank c = false := by
  induction t with
  | nil => cases h
  | cons d rest ih =>
    cases hrest : trimEnd rest with
    | nil =>
      by_cases hd : isBlank d = true
      · simp [trimEnd, hrest, hd] at h
      · simp only [trimEnd, hrest, if_neg hd, List.getLast?_singleton, Option.some.injEq] at h
        simpa [h] using hd
    | cons e more =>
      simp only [trimEnd, hrest, List.getLast?_cons_cons] at h
      exact ih (by rw [hrest]; exact h)

theorem trimEnd_eq_self {t : Text} (h : ∀ c, t.getLast? = some c → isBlank c = false) :
    trimEnd t = t := by
  obtain ⟨tail, ht, htail⟩ := exists_append_of_trimEnd t
  cases hlast : tail.getLast? with
  | none =>
    rw [List.getLast?_eq_none_iff] at hlast
    rw [hlast, List.append_nil] at ht
    exact ht.symm
  | some c =>
    -- The last character that was trimmed off would be blank.
    have hend : t.getLast? = some c := by rw [ht, List.getLast?_append, hlast, Option.some_or]
    have hc : isBlank c = true := htail c (List.mem_of_getLast? hlast)
    exact absurd ((h c hend).symm.trans hc) Bool.false_ne_true

end Text
end Scribe
