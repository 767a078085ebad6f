import Scribe.Text.Basic

/-!
# Ordered entries

Keyword arguments and class variables are lists of named entries, kept in the order in which their
names first came up.

* `Entries` — the list;
* `Entries.insert` — a new entry goes to the end, a known name keeps its place;
* `Entries.keys`, `Entries.get?` — what is seen of a list of entries;
* `Entries.IsInsertion` — what is asked of an insertion into an ordered map.
-/

namespace Scribe

/-- Entries in the order of their first insertion. -/
abbrev Entries (α : Type) := List (Text × α)

namespace Entries

variable {α : Type}

/-- Gives `key` the value `value`: in place if the key is there, else at the end. -/
def insert (key : Text) (value : α) : Entries α → Entries α
  | [] => [(key, value)]
  | (k, v) :: rest =>
    if k = key then (k, value) :: rest else (k, v) :: insert key value rest

/-- The entries that result from insertions, first to last. -/
def ofInsertions (insertions : List (Text × α)) : Entries α :=
  insertions.foldl (fun entries entry => insert entry.1 entry.2 entries) []

/-- The keys, in order. -/
def keys (entries : Entries α) : List Text :=
  entries.map Prod.fst

/-- The value of a key. -/
def get? (key : Text) : Entries α → Option α
  | [] => none
  | (k, v) :: rest => if k = key then some v else get? key rest

/-- An insertion into a map that keeps its entries in order: the value of a known key is replaced in
place, and an unknown key goes to the end. Nothing is asked on a list that is no map because a key comes
up in it twice. -/
structure IsInsertion (put : Text → α → Entries α → Entries α) : Prop where
  replaces (key : Text) (old new : α) (before after : Entries α) :
    (keys (before ++ (key, old) :: after)).Nodup →
      put key new (before ++ (key, old) :: after) = before ++ (key, new) :: after
  appends (key : Text) (new : α) (entries : Entries α) :
    (keys entries).Nodup → key ∉ keys entries → put key new entries = entries ++ [(key, new)]

/-! ## How an insertion is seen -/

@[simp] theorem keys_nil : keys ([] : Entries α) = [] := rfl

@[simp] theorem keys_cons (entry : Text × α) (rest : Entries α) :
    keys (entry :: rest) = entry.1 :: keys rest := rfl

theorem keys_insert (key : Text) (value : α) (entries : Entries α) :
    keys (insert key value entries) =
      if key ∈ keys entries then keys entries else keys entries ++ [key] := by
  induction entries with
  | nil => simp [insert]
  | cons entry rest ih =>
    obtain ⟨k, v⟩ := entry
    by_cases hk : k = key
    · simp [insert, hk]
    · have hk' : key ≠ k := fun h => hk h.symm
      by_cases hm : key ∈ keys rest <;> simp [insert, hk, hk', ih, hm]

theorem get?_insert (key other : Text) (value : α) (entries : Entries α) :
    get? other (insert key value entries) =
      if key = other then some value else get? other entries := by
  induction entries with
  | nil => simp [insert, get?]
  | cons entry rest ih =>
    obtain ⟨k, v⟩ := entry
    by_cases hk : k = key
    · subst hk
      by_cases ho : k = other <;> simp [insert, get?, ho]
    · by_cases ho : k = other
      · subst ho
        have hk' : key ≠ k := fun h => hk h.symm
        simp [insert, get?, hk, hk']
      · simp [insert, get?, hk, ho, ih]

end Entries

end Scribe
