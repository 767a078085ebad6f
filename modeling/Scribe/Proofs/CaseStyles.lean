import Mathlib.Data.Set.Function
import Scribe.Naming.CaseStyle
import Scribe.Naming.Words
import Scribe.Proofs.Lines

/-!
# Case styles undo each other

A name in one style consists of segments, and each conversion rewrites the segments one by one. On ASCII
letters and digits, every one of these steps can be undone.

* `Naming.capitalize_word`, `Naming.lower_title` — a segment, there and back;
* `Naming.toCamel_joined`, `Naming.toPascal_joined`, `Naming.toSnake_append_flatten` — a name, segment by
  segment;
* `Naming.case_styles_convert` — the conversions are bijections.
-/

namespace Scribe

open Text Computability

namespace Naming

variable {c : Char} {p : Char → Bool} {first t w : Text} {titles words : List Text}

/-! ## Characters -/

theorem isUpper_iff_toNat : c.isUpper = true ↔ 65 ≤ c.toNat ∧ c.toNat ≤ 90 :=
  decide_eq_true_iff

theorem isLower_iff_toNat : c.isLower = true ↔ 97 ≤ c.toNat ∧ c.toNat ≤ 122 :=
  Bool.and_eq_true_iff.trans (and_congr decide_eq_true_iff decide_eq_true_iff)

/-- What is said of each ASCII character can be tried out. -/
@[elab_as_elim]
theorem forall_ascii {motive : Char → Prop} (hall : ∀ n < 128, motive (Char.ofNat n)) (c : Char)
    (h : c.toNat < 128) : motive c := by
  have hc := hall c.toNat h
  rwa [Char.ofNat_toNat] at hc

theorem upper_of_isLower (h : c.isLower = true) :
    c.toUpper.isUpper = true ∧ upper c = [c.toUpper] ∧ lower c.toUpper = [c] := by
  have hascii : c.toNat < 128 := Nat.lt_of_le_of_lt (isLower_iff_toNat.1 h).2 (by decide)
  revert h
  refine forall_ascii ?_ c hascii
  decide +kernel

theorem lower_of_isUpper (h : c.isUpper = true) :
    c.toLower.isLower = true ∧ lower c = [c.toLower] ∧ upper c.toLower = [c] ∧
      isUppercase c = true := by
  have hascii : c.toNat < 128 := Nat.lt_of_le_of_lt (isUpper_iff_toNat.1 h).2 (by decide)
  revert h
  refine forall_ascii ?_ c hascii
  decide +kernel

theorem lower_of_isSmall (h : isSmall c = true) : lower c = [c] ∧ isUppercase c = false := by
  have hascii : c.toNat < 128 := by
    rcases Bool.or_eq_true_iff.1 h with hc | hc
    · exact Nat.lt_of_le_of_lt (isLower_iff_toNat.1 hc).2 (by decide)
    · exact Nat.lt_of_le_of_lt (Char.isDigit_iff_toNat.1 hc).2 (by decide)
  revert h
  refine forall_ascii ?_ c hascii
  decide +kernel

/-! ## Segments -/

theorem mem_segment :
    t ∈ segment p ↔ ∃ c rest, p c = true ∧ (∀ d ∈ rest, isSmall d = true) ∧ t = c :: rest := by
  constructor
  · intro h
    rcases Language.mem_mul.1 h with ⟨_, ⟨c, hc, rfl⟩, _, hrest, rfl⟩
    rcases Language.mem_kstar.1 hrest with ⟨parts, rfl, hparts⟩
    refine ⟨c, parts.flatten, hc, fun d hd => ?_, rfl⟩
    rcases List.mem_flatten.1 hd with ⟨part, hpart, hd⟩
    rcases hparts part hpart with ⟨e, he, rfl⟩
    rwa [List.mem_singleton.1 hd]
  · rintro ⟨c, rest, hc, hrest, rfl⟩
    have hstar : (rest.map fun d => [d]).flatten ∈ (one isSmall)∗ :=
      Language.join_mem_kstar (List.forall_mem_map.2 fun d hd => ⟨d, hrest d hd, rfl⟩)
    have hflat : (rest.map fun d => [d]).flatten = rest := by
      rw [← List.flatMap_def, List.flatMap_singleton']
    rw [hflat] at hstar
    have hone : [c] ∈ one p := ⟨c, hc, rfl⟩
    exact Language.append_mem_mul hone hstar

theorem isSmall_of_mem_word (h : w ∈ word) : ∀ d ∈ w, isSmall d = true := by
  rcases mem_segment.1 h with ⟨c, rest, hc, hrest, rfl⟩
  exact List.forall_mem_cons.2 ⟨by simp [isSmall, hc], hrest⟩

theorem underscore_not_mem_word (h : w ∈ word) : '_' ∉ w := fun hmem =>
  absurd (isSmall_of_mem_word h _ hmem) (by decide)

theorem flatMap_lower_of_isSmall (h : ∀ d ∈ t, isSmall d = true) : t.flatMap lower = t := by
  induction t with
  | nil => rfl
  | cons c rest ih =>
    rcases List.forall_mem_cons.1 h with ⟨hc, hrest⟩
    rw [List.flatMap_cons, ih hrest, (lower_of_isSmall hc).1, List.singleton_append]

/-- No word begins at a small letter or a digit. -/
theorem flatMap_snakeChar_of_isSmall (h : ∀ d ∈ t, isSmall d = true) : t.flatMap snakeChar = t := by
  induction t with
  | nil => rfl
  | cons c rest ih =>
    rcases List.forall_mem_cons.1 h with ⟨hc, hrest⟩
    rcases lower_of_isSmall hc with ⟨hlower, hcapital⟩
    simp only [List.flatMap_cons, ih hrest, snakeChar, hcapital, hlower, Bool.false_eq_true, if_false,
      List.singleton_append]

theorem flatMap_lower_word (h : w ∈ word) : w.flatMap lower = w :=
  flatMap_lower_of_isSmall (isSmall_of_mem_word h)

/-- A word becomes a title and can be read back. -/
theorem capitalize_word (h : w ∈ word) :
    capitalize w ∈ title ∧ titleCase w = capitalize w ∧ (capitalize w).flatMap lower = w := by
  rcases mem_segment.1 h with ⟨c, rest, hc, hrest, rfl⟩
  rcases upper_of_isLower hc with ⟨hcapital, hupper, hback⟩
  have hsmall := flatMap_lower_of_isSmall hrest
  refine ⟨?_, ?_, ?_⟩
  · rw [capitalize, hupper]
    exact mem_segment.2 ⟨_, rest, hcapital, hrest, rfl⟩
  · rw [titleCase, capitalize, hsmall]
  · rw [capitalize, hupper, List.singleton_append, List.flatMap_cons, hback, hsmall,
      List.singleton_append]

/-- A title becomes a word and can be read back. Inside a name, it begins a new word. -/
theorem lower_title (h : t ∈ title) :
    t.flatMap lower ∈ word ∧ capitalize (t.flatMap lower) = t ∧
      t.flatMap snakeChar = '_' :: t.flatMap lower := by
  rcases mem_segment.1 h with ⟨c, rest, hc, hrest, rfl⟩
  rcases lower_of_isUpper hc with ⟨hsmall, hlower, hback, hcapital⟩
  have hword : (c :: rest).flatMap lower = c.toLower :: rest := by
    rw [List.flatMap_cons, hlower, flatMap_lower_of_isSmall hrest, List.singleton_append]
  refine ⟨?_, ?_, ?_⟩
  · rw [hword]
    exact mem_segment.2 ⟨_, rest, hsmall, hrest, rfl⟩
  · rw [hword, capitalize, hback, List.singleton_append]
  · rw [hword, List.flatMap_cons, flatMap_snakeChar_of_isSmall hrest, snakeChar, if_pos hcapital,
      hlower]
    rfl

/-! ## Names -/

/-- Segments joined by single underscores. -/
def joined (first : Text) (rest : List Text) : Text :=
  first ++ rest.flatMap fun part => '_' :: part

theorem mem_snake :
    t ∈ snake ↔ ∃ (first : Text) (words : List Text),
      first ∈ word ∧ (∀ w ∈ words, w ∈ word) ∧ t = joined first words := by
  constructor
  · intro h
    rcases Language.mem_mul.1 h with ⟨first, hfirst, _, hrest, rfl⟩
    rcases Language.mem_kstar.1 hrest with ⟨parts, rfl, hparts⟩
    -- Each part is an underscore with a word behind it.
    refine ⟨first, parts.map List.tail, hfirst, List.forall_mem_map.2 fun part hpart => ?_, ?_⟩
    · rcases Language.mem_mul.1 (hparts part hpart) with ⟨_, rfl, w, hw, rfl⟩
      exact hw
    · have hunderscore : ∀ part ∈ parts, part = '_' :: part.tail := fun part hpart => by
        rcases Language.mem_mul.1 (hparts part hpart) with ⟨_, rfl, w, hw, rfl⟩
        rfl
      rw [joined, List.flatMap_map, List.flatMap_def, ← List.map_congr_left hunderscore,
        List.map_id']
  · rintro ⟨first, words, hfirst, hwords, rfl⟩
    refine Language.append_mem_mul hfirst (Language.join_mem_kstar ?_)
    have hunderscore : ['_'] ∈ ({['_']} : Language Char) := rfl
    exact List.forall_mem_map.2 fun w hw => Language.append_mem_mul hunderscore (hwords w hw)

theorem mem_mul_titles {l : Language Char} :
    t ∈ l * title∗ ↔ ∃ (first : Text) (titles : List Text),
      first ∈ l ∧ (∀ u ∈ titles, u ∈ title) ∧ t = first ++ titles.flatten := by
  constructor
  · intro h
    rcases Language.mem_mul.1 h with ⟨first, hfirst, _, hrest, rfl⟩
    rcases Language.mem_kstar.1 hrest with ⟨titles, rfl, htitles⟩
    exact ⟨first, titles, hfirst, htitles, rfl⟩
  · rintro ⟨first, titles, hfirst, htitles, rfl⟩
    exact Language.append_mem_mul hfirst (Language.join_mem_kstar htitles)

/-! ## Conversions, segment by segment -/

theorem split_joined (hfirst : first ∈ word) (hwords : ∀ w ∈ words, w ∈ word) :
    split '_' (joined first words) = first :: words :=
  split_append_flatMap (underscore_not_mem_word hfirst) fun w hw =>
    underscore_not_mem_word (hwords w hw)

theorem toCamel_joined (hfirst : first ∈ word) (hwords : ∀ w ∈ words, w ∈ word) :
    toCamel (joined first words) = first ++ (words.map capitalize).flatten := by
  have htitle : ∀ w ∈ words, titleCase w = capitalize w := fun w hw =>
    (capitalize_word (hwords w hw)).2.1
  simp only [toCamel, split_joined hfirst hwords, List.flatMap_def, List.map_congr_left htitle]

theorem toPascal_joined (hfirst : first ∈ word) (hwords : ∀ w ∈ words, w ∈ word) :
    toPascal (joined first words) = capitalize first ++ (words.map capitalize).flatten := by
  rw [toPascal, split_joined hfirst hwords, List.flatMap_cons, List.flatMap_def]

theorem hyphen_not_mem_joined (hfirst : first ∈ word) (hwords : ∀ w ∈ words, w ∈ word) :
    '-' ∉ joined first words := by
  intro h
  rcases List.mem_append.1 h with h | h
  · exact absurd (isSmall_of_mem_word hfirst _ h) (by decide)
  · rcases List.mem_flatMap.1 h with ⟨w, hw, h⟩
    rcases List.mem_cons.1 h with h | h
    · exact absurd h (by decide)
    · exact absurd (isSmall_of_mem_word (hwords w hw) _ h) (by decide)

/-- The first segment may be a word or a title. -/
theorem toSnake_append_flatten (hfirst : first ∈ segment p) (hlower : first.flatMap lower ∈ word)
    (htitles : ∀ u ∈ titles, u ∈ title) :
    toSnake (first ++ titles.flatten) =
      joined (first.flatMap lower) (titles.map fun u => u.flatMap lower) := by
  rcases mem_segment.1 hfirst with ⟨c, rest, _, hrest, rfl⟩
  have hlater : titles.flatten.flatMap snakeChar =
      (titles.map fun u => u.flatMap lower).flatMap fun w => '_' :: w := by
    have hmarked : ∀ u ∈ titles, u.flatMap snakeChar = '_' :: u.flatMap lower := fun u hu =>
      (lower_title (htitles u hu)).2.2
    rw [List.flatMap_map, List.flatMap_def, List.flatMap_def, ← List.map_congr_left hmarked]
    simp only [List.map_flatten, List.flatten_flatten, List.map_map]
    rfl
  have hwords : lower c ++ (rest ++ titles.flatten).flatMap snakeChar =
      joined ((c :: rest).flatMap lower) (titles.map fun u => u.flatMap lower) := by
    rw [List.flatMap_append, flatMap_snakeChar_of_isSmall hrest, hlater, joined, List.flatMap_cons,
      flatMap_lower_of_isSmall hrest, List.append_assoc]
  have hhyphen := hyphen_not_mem_joined hlower
    (List.forall_mem_map.2 fun u hu => (lower_title (htitles u hu)).1)
  have hkeep : ∀ d ∈ joined ((c :: rest).flatMap lower) (titles.map fun u => u.flatMap lower),
      (if d = '-' then '_' else d) = d := fun d hd =>
    if_neg fun heq : d = '-' => hhyphen (heq ▸ hd)
  simp only [toSnake, List.cons_append, hwords]
  rw [List.map_congr_left hkeep, List.map_id']

/-! ## There and back -/

theorem titles_of_words (h : ∀ w ∈ words, w ∈ word) : ∀ u ∈ words.map capitalize, u ∈ title :=
  List.forall_mem_map.2 fun w hw => (capitalize_word (h w hw)).1

theorem words_of_titles (h : ∀ u ∈ titles, u ∈ title) :
    ∀ w ∈ titles.map (fun u => u.flatMap lower), w ∈ word :=
  List.forall_mem_map.2 fun u hu => (lower_title (h u hu)).1

theorem map_lower_capitalize (h : ∀ w ∈ words, w ∈ word) :
    (words.map capitalize).map (fun u => u.flatMap lower) = words := by
  have hback : ∀ w ∈ words, (capitalize w).flatMap lower = w := fun w hw =>
    (capitalize_word (h w hw)).2.2
  rw [List.map_map]
  exact (List.map_congr_left hback).trans (List.map_id' words)

theorem map_capitalize_lower (h : ∀ u ∈ titles, u ∈ title) :
    (titles.map fun u => u.flatMap lower).map capitalize = titles := by
  have hback : ∀ u ∈ titles, capitalize (u.flatMap lower) = u := fun u hu =>
    (lower_title (h u hu)).2.1
  rw [List.map_map]
  exact (List.map_congr_left hback).trans (List.map_id' titles)

theorem capitalize_append (h : w ∈ word) (rest : Text) :
    capitalize (w ++ rest) = capitalize w ++ rest := by
  rcases mem_segment.1 h with ⟨c, letters, _, _, rfl⟩
  exact (List.append_assoc (upper c) letters rest).symm

/-- A name in snake case, written in the two other styles and read back. -/
theorem convert_snake (h : t ∈ snake) :
    (toCamel t ∈ camel ∧ toSnake (toCamel t) = t) ∧ (toPascal t ∈ pascal ∧ toSnake (toPascal t) = t) ∧
      toPascal t = capitalize (toCamel t) := by
  rcases mem_snake.1 h with ⟨first, words, hfirst, hwords, rfl⟩
  rcases capitalize_word hfirst with ⟨hcapital, _, hback⟩
  have hsmall := flatMap_lower_word hfirst
  have htitles := titles_of_words hwords
  rw [toCamel_joined hfirst hwords, toPascal_joined hfirst hwords]
  refine ⟨⟨mem_mul_titles.2 ⟨first, _, hfirst, htitles, rfl⟩, ?_⟩,
    ⟨mem_mul_titles.2 ⟨_, _, hcapital, htitles, rfl⟩, ?_⟩, (capitalize_append hfirst _).symm⟩
  · rw [toSnake_append_flatten hfirst (by rwa [hsmall]) htitles, hsmall, map_lower_capitalize hwords]
  · rw [toSnake_append_flatten hcapital (by rwa [hback]) htitles, hback, map_lower_capitalize hwords]

theorem convert_camel (h : t ∈ camel) : toSnake t ∈ snake ∧ toCamel (toSnake t) = t := by
  rcases mem_mul_titles.1 h with ⟨first, titles, hfirst, htitles, rfl⟩
  have hsmall := flatMap_lower_word hfirst
  have hwords := words_of_titles htitles
  rw [toSnake_append_flatten hfirst (by rwa [hsmall]) htitles, hsmall]
  refine ⟨mem_snake.2 ⟨first, _, hfirst, hwords, rfl⟩, ?_⟩
  rw [toCamel_joined hfirst hwords, map_capitalize_lower htitles]

theorem convert_pascal (h : t ∈ pascal) : toSnake t ∈ snake ∧ toPascal (toSnake t) = t := by
  rcases mem_mul_titles.1 h with ⟨first, titles, hfirst, htitles, rfl⟩
  rcases lower_title hfirst with ⟨hlower, hback, _⟩
  have hwords := words_of_titles htitles
  rw [toSnake_append_flatten hfirst hlower htitles]
  refine ⟨mem_snake.2 ⟨_, _, hlower, hwords, rfl⟩, ?_⟩
  rw [toPascal_joined hlower hwords, hback, map_capitalize_lower htitles]

/-- The conversions undo each other, and so each is a bijection between two languages of names: no two names
of one style become the same in another. -/
theorem case_styles_convert :
    (∀ s ∈ snake, toSnake (toCamel s) = s ∧ toSnake (toPascal s) = s ∧
      toPascal s = capitalize (toCamel s)) ∧
    (∀ c ∈ camel, toCamel (toSnake c) = c) ∧ (∀ p ∈ pascal, toPascal (toSnake p) = p) ∧
    Set.BijOn toCamel snake camel ∧ Set.BijOn toPascal snake pascal ∧
    Set.BijOn toSnake camel snake ∧ Set.BijOn toSnake pascal snake := by
  have hcamel : Set.InvOn toSnake toCamel snake camel :=
    ⟨fun _ h => (convert_snake h).1.2, fun _ h => (convert_camel h).2⟩
  have hpascal : Set.InvOn toSnake toPascal snake pascal :=
    ⟨fun _ h => (convert_snake h).2.1.2, fun _ h => (convert_pascal h).2⟩
  have hto : Set.MapsTo toCamel snake camel := fun _ h => (convert_snake h).1.1
  have hto' : Set.MapsTo toPascal snake pascal := fun _ h => (convert_snake h).2.1.1
  have hfrom : Set.MapsTo toSnake camel snake := fun _ h => (convert_camel h).1
  have hfrom' : Set.MapsTo toSnake pascal snake := fun _ h => (convert_pascal h).1
  refine ⟨fun s h => ?_, fun c h => hcamel.2 h, fun p h => hpascal.2 h, hcamel.bijOn hto hfrom,
    hpascal.bijOn hto' hfrom', hcamel.symm.bijOn hfrom hto, hpascal.symm.bijOn hfrom' hto'⟩
  exact ⟨hcamel.1 h, hpascal.1 h, (convert_snake h).2.2⟩

/-- Three words, one of them a single letter. -/
theorem case_styles_convert_matrix :
    let s := "scale_a_matrix2".toList
    s ∈ snake ∧ toCamel s = "scaleAMatrix2".toList ∧ toSnake "scaleAMatrix2".toList = s ∧
      toPascal s = capitalize "scaleAMatrix2".toList := by
  have hword : ∀ c rest, c.isLower = true → rest.all isSmall = true → c :: rest ∈ word :=
    fun c rest hc hrest => mem_segment.2 ⟨c, rest, hc, List.all_eq_true.1 hrest, rfl⟩
  have hs : "scale_a_matrix2".toList ∈ snake := by
    refine mem_snake.2 ⟨"scale".toList, ["a".toList, "matrix2".toList], ?_, ?_, rfl⟩
    · exact hword _ _ (by decide) (by decide)
    · exact List.forall_mem_cons.2 ⟨hword _ _ (by decide) (by decide),
        List.forall_mem_singleton.2 (hword _ _ (by decide) (by decide))⟩
  have hcamel : toCamel "scale_a_matrix2".toList = "scaleAMatrix2".toList := by decide +kernel
  rcases case_styles_convert.1 _ hs with ⟨hback, _, hpascal⟩
  rw [hcamel] at hback hpascal
  exact ⟨hs, hcamel, hback, hpascal⟩

end Naming

end Scribe
