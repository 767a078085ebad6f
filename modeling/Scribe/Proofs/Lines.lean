import Scribe.Text.Basic

/-!
# Lines and parts of a text

A text falls into parts at its newlines, and into lines; both can be put together again.

* `Text.split_append_cons`, `Text.split_append_flatMap`, `Text.newline_not_mem_split` — the parts of a text;
* `Text.newline_not_mem_lines`, `Text.lines_append_newline`, `Text.flatten_lines` — the lines of a text;
* `Text.split_terminated`, `Text.terminated_split`, `Text.lines_terminated` — lines with a newline after
  each, taken apart and put together;
* `Text.newline_not_mem_commaSeparated`, `Text.newline_not_mem_tabs` — parts of a line;
* `Text.newline_unlines`, `Text.split_flatMap_newline`, `Text.split_of_newline_cons`, `Text.split_unlines` —
  lines with a newline before each, or between them;
* `Text.shift_newline`, `Text.shift_flatMap_newline` — the same with more tabs.
-/

namespace Scribe
namespace Text

/-! ## Splitting -/

section Split

variable {separator : Char}

theorem split_ne_nil (t : Text) : split separator t ≠ [] := by
  cases t with
  | nil => exact List.cons_ne_nil _ _
  | cons c rest =>
    simp only [split]
    split
    · exact List.cons_ne_nil _ _
    · split <;> exact List.cons_ne_nil _ _

theorem split_append_cons (s u : Text) :
    split separator (s ++ separator :: u) = split separator s ++ split separator u := by
  -- The first part is the only one that a character before it can change.
  induction s with
  | nil => simp [split]
  | cons c rest ih =>
    by_cases hc : c = separator
    · simp [split, hc, ih]
    · cases hrest : split separator rest with
      | nil => exact absurd hrest (split_ne_nil rest)
      | cons part parts => simp [split, hc, ih, hrest]

theorem split_of_not_mem {t : Text} (h : separator ∉ t) : split separator t = [t] := by
  induction t with
  | nil => rfl
  | cons c rest ih =>
    have hc : c ≠ separator := fun heq => h (heq ▸ List.mem_cons_self)
    have hrest : separator ∉ rest := fun hmem => h (List.mem_cons_of_mem c hmem)
    simp [split, hc, ih hrest]

/-- Parts with the separator before each but the first are taken apart again. -/
theorem split_append_flatMap {first : Text} {rest : List Text} (hfirst : separator ∉ first)
    (h : ∀ part ∈ rest, separator ∉ part) :
    split separator (first ++ rest.flatMap fun part => separator :: part) = first :: rest := by
  induction rest generalizing first with
  | nil => rw [List.flatMap_nil, List.append_nil, split_of_not_mem hfirst]
  | cons part more ih =>
    rcases List.forall_mem_cons.1 h with ⟨hpart, hmore⟩
    rw [List.flatMap_cons, List.cons_append, split_append_cons, split_of_not_mem hfirst,
      ih hpart hmore, List.singleton_append]

end Split

theorem newline_not_mem_split (t : Text) : ∀ part ∈ split '\n' t, '\n' ∉ part := by
  induction t with
  | nil => exact List.forall_mem_singleton.2 List.not_mem_nil
  | cons c rest ih =>
    by_cases hc : c = '\n'
    · rw [split, if_pos hc]
      exact List.forall_mem_cons.2 ⟨List.not_mem_nil, ih⟩
    · cases hrest : split '\n' rest with
      | nil => exact absurd hrest (split_ne_nil rest)
      | cons part parts =>
        rw [hrest] at ih
        rcases List.forall_mem_cons.1 ih with ⟨hpart, hparts⟩
        simp only [split, if_neg hc, hrest]
        refine List.forall_mem_cons.2 ⟨fun hmem => ?_, hparts⟩
        rcases List.mem_cons.1 hmem with heq | hmem
        · exact hc heq.symm
        · exact hpart hmem

/-! ## Lines -/

theorem lines_eq_nil_iff {t : Text} : lines t = [] ↔ t = [] := by
  refine ⟨fun h => ?_, fun h => by simp only [h, lines]⟩
  fun_induction lines t with
  | case1 => rfl
  | _ => cases h

theorem newline_not_mem_lines {t : Text} : ∀ line ∈ lines t, '\n' ∉ line := by
  -- The recursion eats a newline in two of its cases, and the others have none at their head.
  fun_induction lines t with
  | case1 => exact List.forall_mem_nil _
  | case2 rest ih => exact List.forall_mem_cons.2 ⟨List.not_mem_nil, ih⟩
  | case3 rest ih => exact List.forall_mem_cons.2 ⟨List.not_mem_nil, ih⟩
  | case4 c rest hc _ _ ih =>
    refine List.forall_mem_singleton.2 fun hmem => ?_
    exact hc (List.mem_singleton.1 hmem).symm
  | case5 c rest hc _ part parts hrest ih =>
    simp only [hrest] at ih
    rcases List.forall_mem_cons.1 ih with ⟨hpart, hparts⟩
    refine List.forall_mem_cons.2 ⟨fun hmem => ?_, hparts⟩
    rcases List.mem_cons.1 hmem with heq | hmem
    · exact hc heq.symm
    · exact hpart hmem

/-- A line that does not end in a carriage return is read as it stands. -/
theorem lines_append_newline {line : Text} (rest : Text) (hnewline : '\n' ∉ line)
    (hreturn : line.getLast? ≠ some '\r') : lines (line ++ '\n' :: rest) = line :: lines rest := by
  induction line with
  | nil => simp [lines]
  | cons c more ih =>
    have hc : c ≠ '\n' := fun heq => hnewline (heq ▸ List.mem_cons_self)
    have hmore : '\n' ∉ more := fun hmem => hnewline (List.mem_cons_of_mem c hmem)
    have hline : lines (more ++ '\n' :: rest) = more :: lines rest := by
      refine ih hmore fun hlast => hreturn ?_
      rw [List.getLast?_cons, hlast]
      rfl
    -- The only way to lose the character is that it is a return right before the newline.
    have hkept : ∀ u, c = '\r' → more ++ '\n' :: rest ≠ '\n' :: u := by
      rintro u rfl heq
      cases more with
      | nil => exact hreturn rfl
      | cons d _ =>
        rw [List.cons_append, List.cons.injEq] at heq
        exact hmore (heq.1 ▸ List.mem_cons_self)
    rw [List.cons_append, lines]
    · rw [hline]
    · exact hc
    · exact hkept

/-- Without a newline there is at most one line, and nothing is lost. -/
theorem flatten_lines {t : Text} (h : '\n' ∉ t) : (lines t).flatten = t := by
  fun_induction lines t with
  | case1 => rfl
  | case2 rest ih => exact absurd List.mem_cons_self h
  | case3 rest ih => exact absurd (List.mem_cons_of_mem _ List.mem_cons_self) h
  | case4 c rest _ _ hrest ih =>
    have hempty : rest = [] := lines_eq_nil_iff.1 hrest
    simp [hempty]
  | case5 c rest _ _ part parts hrest ih =>
    have hkept := ih fun hmem => h (List.mem_cons_of_mem c hmem)
    simpa [hrest] using hkept

/-! ## Terminated lines -/

@[simp] theorem terminated_nil : terminated [] = [] := rfl

@[simp] theorem terminated_cons (line : Text) (rest : List Text) :
    terminated (line :: rest) = line ++ '\n' :: terminated rest := by
  simp [terminated]

theorem terminated_append (xs ys : List Text) :
    terminated (xs ++ ys) = terminated xs ++ terminated ys :=
  List.flatMap_append

theorem terminated_replicate (k : Nat) :
    terminated (List.replicate k []) = List.replicate k '\n' := by
  induction k with
  | zero => rfl
  | succ k ih => simp [List.replicate_succ, ih]

theorem split_terminated {ls : List Text} (h : ∀ line ∈ ls, '\n' ∉ line) :
    split '\n' (terminated ls) = ls ++ [[]] := by
  induction ls with
  | nil => rfl
  | cons line rest ih =>
    rcases List.forall_mem_cons.1 h with ⟨hline, hrest⟩
    rw [terminated_cons, split_append_cons, split_of_not_mem hline, ih hrest]
    rfl

/-- The parts between newlines, terminated, are the text with a newline at its end. -/
theorem terminated_split (t : Text) : terminated (split '\n' t) = t ++ ['\n'] := by
  induction t with
  | nil => rfl
  | cons c rest ih =>
    by_cases hc : c = '\n'
    · simp [split, hc, ih]
    · cases hrest : split '\n' rest with
      | nil => exact absurd hrest (split_ne_nil rest)
      | cons part parts =>
        rw [hrest] at ih
        simpa [split, hc, hrest] using ih

theorem lines_terminated {ls : List Text}
    (h : ∀ line ∈ ls, '\n' ∉ line ∧ line.getLast? ≠ some '\r') : lines (terminated ls) = ls := by
  induction ls with
  | nil => simp [lines]
  | cons line rest ih =>
    rcases List.forall_mem_cons.1 h with ⟨⟨hnewline, hreturn⟩, hrest⟩
    rw [terminated_cons, lines_append_newline _ hnewline hreturn, ih hrest]

/-! ## Joined lines -/

theorem unlines_cons_cons (line next : Text) (more : List Text) :
    unlines (line :: next :: more) = line ++ '\n' :: unlines (next :: more) := by
  simp [unlines, List.intercalate]

/-- With a newline in front as well, all lines are alike. -/
theorem newline_unlines {ls : List Text} (h : ls ≠ []) :
    '\n' :: unlines ls = ls.flatMap fun line => '\n' :: line := by
  induction ls with
  | nil => exact absurd rfl h
  | cons line rest ih =>
    cases rest with
    | nil => simp [unlines]
    | cons next more =>
      simp only [unlines_cons_cons, ih (List.cons_ne_nil _ _), List.flatMap_cons, List.cons_append]

theorem unlines_nil_cons (ls : List Text) :
    unlines ([] :: ls) = ls.flatMap fun line => '\n' :: line := by
  cases ls with
  | nil => rfl
  | cons line rest =>
    simp only [unlines_cons_cons, List.nil_append]
    exact newline_unlines (List.cons_ne_nil _ _)

theorem split_flatMap_newline {ls : List Text} (h : ∀ line ∈ ls, '\n' ∉ line) :
    split '\n' (ls.flatMap fun line => '\n' :: line) = [] :: ls :=
  split_append_flatMap List.not_mem_nil h

theorem split_of_newline_cons {t : Text} {ls : List Text}
    (h : '\n' :: t = ls.flatMap fun line => '\n' :: line) (hls : ∀ line ∈ ls, '\n' ∉ line) :
    split '\n' t = ls := by
  have hfront : [] :: split '\n' t = [] :: ls := by
    rw [← split_flatMap_newline hls, ← h, split, if_pos rfl]
  exact (List.cons.inj hfront).2

theorem split_unlines {ls : List Text} (hne : ls ≠ []) (hls : ∀ line ∈ ls, '\n' ∉ line) :
    split '\n' (unlines ls) = ls :=
  split_of_newline_cons (newline_unlines hne) hls

theorem newline_not_mem_commaSeparated {parts : List Text} (h : ∀ part ∈ parts, '\n' ∉ part) :
    '\n' ∉ commaSeparated parts := by
  induction parts with
  | nil => exact List.not_mem_nil
  | cons part rest ih =>
    rcases List.forall_mem_cons.1 h with ⟨hpart, hrest⟩
    cases rest with
    | nil => simpa [commaSeparated] using hpart
    | cons next more =>
      have hjoined : commaSeparated (part :: next :: more) =
          part ++ [',', ' '] ++ commaSeparated (next :: more) := by
        simp [commaSeparated, List.intercalate]
      simpa [hjoined, hpart] using ih hrest

/-! ## Tabs -/

theorem newline_not_mem_tabs (n : Nat) : '\n' ∉ tabs n := by
  intro h
  have heq : '\n' = '\t' := List.eq_of_mem_replicate h
  exact absurd heq (by decide)

theorem shift_newline (k : Nat) (t : Text) : shift k ('\n' :: t) = '\n' :: shift k t := by
  simp only [shift, split, if_true, List.map_cons]
  -- A text has at least one part, so the newline stays between two lines.
  cases hsplit : split '\n' t with
  | nil => exact absurd hsplit (split_ne_nil t)
  | cons line rest =>
    simp only [List.map_cons, unlines_cons_cons]
    rfl

theorem shift_flatMap_newline (k : Nat) {ls : List Text} (h : ∀ line ∈ ls, '\n' ∉ line) :
    shift k (ls.flatMap fun line => '\n' :: line) =
      ls.flatMap fun line => '\n' :: indentLine k line := by
  simp only [shift, split_flatMap_newline h, List.map_cons]
  exact (unlines_nil_cons _).trans (List.flatMap_map _ _ _)

end Text
end Scribe
