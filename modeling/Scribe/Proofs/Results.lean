/-!
# Results that may be errors

General facts about `Except`: what a success says about the parts that it came from, how results are
mapped, and what steps that can fail keep.

* `bind_eq_ok`, `map_eq_ok`, `eq_ok_of_toOption` — where a value comes from;
* `map_then_map`, `getD_toOption_map` — maps one after the other, and behind a value to fall back on;
* `foldlM_keeps` — what every step keeps, the whole of the steps keeps.
-/

namespace Scribe

variable {α β γ ε : Type}

/-! ## Successes -/

theorem bind_eq_ok {r : Except ε α} {f : α → Except ε β} {y : β} (h : r >>= f = .ok y) :
    ∃ x, r = .ok x ∧ f x = .ok y := by
  cases r with
  | error e => cases h
  | ok x => exact ⟨x, rfl, h⟩

theorem map_eq_ok {f : α → β} {r : Except ε α} {y : β} (h : r.map f = .ok y) :
    ∃ x, r = .ok x ∧ f x = y := by
  cases r with
  | error e => cases h
  | ok x => exact ⟨x, rfl, Except.ok.inj h⟩

/-- A success can be told from the value alone, also where errors cannot be compared. -/
theorem eq_ok_of_toOption {r : Except ε α} {x : α} (h : r.toOption = some x) : r = .ok x := by
  cases r with
  | error e => cases h
  | ok y => exact congrArg Except.ok (Option.some.inj h)

/-! ## Maps -/

theorem map_then_map (f : α → β) (g : β → γ) (r : Except ε α) :
    (r.map f).map g = r.map fun x => g (f x) := by
  cases r with
  | error e => rfl
  | ok x => rfl

theorem getD_toOption_map (f : α → β) (r : Except ε α) (x : α) :
    (r.map f).toOption.getD (f x) = f (r.toOption.getD x) := by
  cases r with
  | error e => rfl
  | ok y => rfl

/-! ## Steps that can fail -/

/-- A fact that every step keeps holds at the end, if it held at the beginning. -/
theorem foldlM_keeps {p : β → Prop} {step : β → α → Except ε β}
    (hstep : ∀ s x t, p s → step s x = .ok t → p t) {xs : List α} {s t : β} (hs : p s)
    (ht : xs.foldlM step s = .ok t) : p t := by
  induction xs generalizing s with
  | nil =>
    cases ht
    exact hs
  | cons x rest ih =>
    rw [List.foldlM_cons] at ht
    obtain ⟨next, hnext, hrest⟩ := bind_eq_ok ht
    exact ih (hstep s x next hs hnext) hrest

end Scribe
