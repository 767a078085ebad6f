import Scribe.Text.Span

/-!
# Searching a text

A search finds the first occurrence of a pattern, and finds one if there is any. Places in a text may be
compared by their bytes.

* `Text.IsFirst` — a pattern stands behind a text, and nowhere earlier;
* `Text.before?_eq_some_iff`, `Text.before?_eq_none_iff` — what a search finds;
* `Text.markedSpan?_eq_some_iff`, `Text.markedSpan?_eq_none_iff` — the same for a value between two marks;
* `Text.eq_of_utf8Size_eq` — two beginnings of a text with equally many bytes.
-/

namespace Scribe
namespace Text

variable {pattern source before : Text}

/-! ## First occurrences -/

/-- The pattern stands in the source behind `before`, and nowhere earlier. -/
structure IsFirst (pattern source before : Text) : Prop where
  stands : before ++ pattern <+: source
  first : ∀ earlier, earlier ++ pattern <+: source → before.length ≤ earlier.length

theorem IsFirst.isInfix (h : IsFirst pattern source before) : pattern <:+: source :=
  (List.suffix_append before pattern).isInfix.trans h.stands.isInfix

theorem IsFirst.eq {before' : Text} (h : IsFirst pattern source before)
    (h' : IsFirst pattern source before') : before = before' := by
  have hlength : before.length = before'.length :=
    Nat.le_antisymm (h.first before' h'.stands) (h'.first before h.stands)
  have hprefix := (List.prefix_append before pattern).trans h.stands
  have hprefix' := (List.prefix_append before' pattern).trans h'.stands
  exact (List.prefix_of_prefix_length_le hprefix hprefix' (Nat.le_of_eq hlength)).eq_of_length hlength

theorem isFirst_of_before? : ∀ {source before : Text}, before? pattern source = some before →
    IsFirst pattern source before := by
  intro source
  induction source with
  | nil =>
    intro before h
    simp only [before?] at h
    split at h
    · rename_i hempty
      cases h
      rw [List.isEmpty_iff.1 hempty]
      exact ⟨List.prefix_rfl, fun _ _ => Nat.zero_le _⟩
    · cases h
  | cons c rest ih =>
    intro before h
    simp only [before?] at h
    split at h
    · rename_i hprefix
      cases h
      exact ⟨List.isPrefixOf_iff_prefix.1 hprefix, fun _ _ => Nat.zero_le _⟩
    · rename_i hprefix
      rcases Option.map_eq_some_iff.1 h with ⟨more, hmore, rfl⟩
      rcases ih hmore with ⟨hstands, hfirst⟩
      refine ⟨(List.prefix_cons_inj c).2 hstands, fun earlier hearlier => ?_⟩
      -- The pattern does not stand at the front, so what is before it begins as the source does.
      cases earlier with
      | nil => exact absurd (List.isPrefixOf_iff_prefix.2 hearlier) hprefix
      | cons d front =>
        rw [List.cons_append, List.cons_prefix_cons] at hearlier
        exact Nat.succ_le_succ (hfirst front hearlier.2)

theorem before?_eq_none_iff : before? pattern source = none ↔ ¬pattern <:+: source := by
  refine ⟨fun hnone hinfix => ?_, fun hinfix => ?_⟩
  · induction source with
    | nil => simp [before?, List.infix_nil.1 hinfix] at hnone
    | cons c rest ih =>
      simp only [before?] at hnone
      split at hnone
      · cases hnone
      · rename_i hprefix
        rcases List.infix_cons_iff.1 hinfix with hfront | hrest
        · exact hprefix (List.isPrefixOf_iff_prefix.2 hfront)
        · exact ih (Option.map_eq_none_iff.1 hnone) hrest
  · cases h : before? pattern source with
    | none => rfl
    | some before => exact absurd (isFirst_of_before? h).isInfix hinfix

theorem before?_eq_some_iff : before? pattern source = some before ↔ IsFirst pattern source before := by
  refine ⟨isFirst_of_before?, fun h => ?_⟩
  cases hfound : before? pattern source with
  | none => exact absurd h.isInfix (before?_eq_none_iff.1 hfound)
  | some other => rw [(isFirst_of_before? hfound).eq h]

/-! ## Values between marks -/

variable {mark : Char} {value : Text}

theorem markedSpan?_eq_some_iff {span : Span} :
    markedSpan? mark value source = some span ↔ ∃ before,
      IsFirst ([mark] ++ value ++ [mark]) source before ∧
        span = Span.ofSize (utf8Size before + mark.utf8Size) (utf8Size value) := by
  simp only [markedSpan?, Option.map_eq_some_iff, before?_eq_some_iff, eq_comm (a := span)]

theorem markedSpan?_eq_none_iff :
    markedSpan? mark value source = none ↔ ¬[mark] ++ value ++ [mark] <:+: source := by
  simp only [markedSpan?, Option.map_eq_none_iff, before?_eq_none_iff]

/-! ## Bytes -/

theorem utf8Size_eq_zero_iff {t : Text} : utf8Size t = 0 ↔ t = [] := by
  cases t with
  | nil => simp
  | cons c rest =>
    have hpos : 0 < c.utf8Size := c.utf8Size_pos
    simp only [utf8Size_cons, reduceCtorEq, iff_false]
    omega

theorem eq_of_utf8Size_eq {s t : Text} (hs : s <+: source) (ht : t <+: source)
    (hsize : utf8Size s = utf8Size t) : s = t := by
  have heq_of_front {s t : Text} (h : s <+: t) (hsize : utf8Size s = utf8Size t) : s = t := by
    rcases h with ⟨more, rfl⟩
    rw [utf8Size_append] at hsize
    have hmore : more = [] := utf8Size_eq_zero_iff.1 (by omega)
    rw [hmore, List.append_nil]
  -- Of two beginnings of one text, the shorter is a beginning of the longer.
  rcases List.prefix_or_prefix_of_prefix hs ht with h | h
  · exact heq_of_front h hsize
  · exact (heq_of_front h hsize.symm).symm

end Text
end Scribe
