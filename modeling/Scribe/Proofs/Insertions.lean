import Mathlib.Data.List.Nodup
import Mathlib.Data.List.Induction
import Scribe.Construct.Build
import Scribe.Construct.Render

/-!
# Keyword arguments and class variables are the same map

* `Entries.IsInsertion.insert`, `Entries.IsInsertion.eq_insert` — the search for a known key is an
  insertion, and there is no other on a list without repeated keys;
* `Entries.keys_ofInsertions`, `Entries.get?_ofInsertions` — the keys stand where they were first inserted,
  with the values that were inserted last;
* `Call.kwargAll_new`, `ClassDef.setVariableAll_eq` — the entries that a call and a class end up with;
* `Entries.IsInsertion.kwargs_and_classVars` — both are the same, and are shown so.
-/

namespace Scribe

open Text

/-! ## Insertions into a map -/

namespace Entries

variable {α β : Type} {put : Text → α → Entries α → Entries α} {entries : Entries α}

theorem keys_append (before after : Entries α) : keys (before ++ after) = keys before ++ keys after :=
  List.map_append

theorem insert_of_notMem {key : Text} {new : α} (h : key ∉ keys entries) :
    insert key new entries = entries ++ [(key, new)] := by
  induction entries with
  | nil => rfl
  | cons entry rest ih =>
    rcases not_or.1 (mt List.mem_cons.2 h) with ⟨hne, hrest⟩
    rw [insert, if_neg (Ne.symm hne), ih hrest, List.cons_append]

theorem insert_append_cons {key : Text} {old new : α} {before after : Entries α} (h : key ∉ keys before) :
    insert key new (before ++ (key, old) :: after) = before ++ (key, new) :: after := by
  induction before with
  | nil => rw [List.nil_append, insert, if_pos rfl, List.nil_append]
  | cons entry rest ih =>
    rcases not_or.1 (mt List.mem_cons.2 h) with ⟨hne, hrest⟩
    rw [List.cons_append, insert, if_neg (Ne.symm hne), ih hrest, List.cons_append]

theorem exists_append_of_mem_keys {key : Text} (h : key ∈ keys entries) :
    ∃ before old after, entries = before ++ (key, old) :: after := by
  rcases List.mem_map.1 h with ⟨⟨_, old⟩, hmem, rfl⟩
  rcases List.append_of_mem hmem with ⟨before, after, rfl⟩
  exact ⟨before, old, after, rfl⟩

/-- The search for a known key, from the front, is an insertion into a map. -/
theorem IsInsertion.insert : IsInsertion (insert : Text → α → Entries α → Entries α) where
  replaces key _ _ before after hnodup := by
    have hnotMem : key ∉ keys before := fun hmem => by
      rw [keys_append] at hnodup
      exact List.disjoint_of_nodup_append hnodup hmem (List.mem_cons_self ..)
    exact insert_append_cons hnotMem
  appends _ _ _ _ h := insert_of_notMem h

/-- On a map there is only one insertion. -/
theorem IsInsertion.eq_insert (hput : IsInsertion put) (key : Text) (new : α)
    (h : (keys entries).Nodup) : put key new entries = Entries.insert key new entries := by
  by_cases hmem : key ∈ keys entries
  · rcases exists_append_of_mem_keys hmem with ⟨before, old, after, rfl⟩
    rw [hput.replaces key old new before after h, IsInsertion.insert.replaces key old new before after h]
  · rw [hput.appends key new entries h hmem, IsInsertion.insert.appends key new entries h hmem]

theorem insert_map (f : α → β) (key : Text) (value : α) (entries : Entries α) :
    insert key (f value) (entries.map (Prod.map id f)) =
      (insert key value entries).map (Prod.map id f) := by
  induction entries with
  | nil => rfl
  | cons entry rest ih =>
    rcases entry with ⟨k, old⟩
    by_cases hkey : k = key
    · simp only [insert, List.map_cons, Prod.map_apply, id, if_pos hkey]
    · simp only [insert, List.map_cons, Prod.map_apply, id, if_neg hkey, ih]

/-! ## Insertions one after the other -/

theorem nodup_keys_insert (key : Text) (value : α) (h : (keys entries).Nodup) :
    (keys (insert key value entries)).Nodup := by
  rw [keys_insert]
  split
  · exact h
  · next hnew =>
    exact List.nodup_append.2 ⟨h, List.nodup_singleton _, fun a ha b hb heq =>
      hnew (List.mem_singleton.1 hb ▸ heq ▸ ha)⟩

variable (insertions : List (Text × α))

theorem ofInsertions_append_singleton (entry : Text × α) :
    ofInsertions (insertions ++ [entry]) = insert entry.1 entry.2 (ofInsertions insertions) :=
  List.foldl_concat ..

theorem nodup_keys_ofInsertions : (keys (ofInsertions insertions)).Nodup := by
  induction insertions using List.reverseRecOn with
  | nil => exact List.nodup_nil
  | append_singleton earlier entry ih =>
    rw [ofInsertions_append_singleton]
    exact nodup_keys_insert entry.1 entry.2 ih

theorem eraseDups_append_singleton (ts : List Text) (t : Text) :
    (ts ++ [t]).eraseDups = if t ∈ ts then ts.eraseDups else ts.eraseDups ++ [t] := by
  rw [List.eraseDups_append]
  by_cases hmem : t ∈ ts
  · simp [List.removeAll, hmem]
  · simp [List.removeAll, hmem, List.eraseDups_cons]

/-- The keys stand in the order in which they first came up. -/
theorem keys_ofInsertions : keys (ofInsertions insertions) = (insertions.map Prod.fst).eraseDups := by
  induction insertions using List.reverseRecOn with
  | nil => rfl
  | append_singleton earlier entry ih =>
    simp only [ofInsertions_append_singleton, keys_insert, ih, List.map_append, List.map_singleton,
      eraseDups_append_singleton, List.mem_eraseDups]

/-- Each key has the value that was inserted last. -/
theorem get?_ofInsertions (key : Text) :
    get? key (ofInsertions insertions) = get? key insertions.reverse := by
  induction insertions using List.reverseRecOn with
  | nil => rfl
  | append_singleton earlier entry ih =>
    rw [ofInsertions_append_singleton, get?_insert, ih, List.reverse_append]
    rfl

theorem count_keys_ofInsertions {key : Text} (h : key ∈ insertions.map Prod.fst) :
    (keys (ofInsertions insertions)).count key = 1 := by
  refine List.count_eq_one_of_mem (nodup_keys_ofInsertions insertions) ?_
  rw [keys_ofInsertions]
  exact List.mem_eraseDups.2 h

/-- Whatever the insertion of a map, the entries that insertions leave are the same. -/
theorem IsInsertion.foldl_eq (hput : IsInsertion put) :
    insertions.foldl (fun entries entry => put entry.1 entry.2 entries) [] = ofInsertions insertions := by
  induction insertions using List.reverseRecOn with
  | nil => rfl
  | append_singleton earlier entry ih =>
    rw [List.foldl_concat, ih, ofInsertions_append_singleton]
    exact hput.eq_insert entry.1 entry.2 (nodup_keys_ofInsertions earlier)

end Entries

/-! ## Keyword arguments -/

variable (insertions : List (Text × Text))

theorem Call.kwargAll_new (callee : Text) :
    (Call.new callee).kwargAll insertions =
      { callee, kwargs := (Entries.ofInsertions insertions).map (Prod.map id Value.raw) } := by
  induction insertions using List.reverseRecOn with
  | nil => rfl
  | append_singleton earlier entry ih =>
    rw [Call.kwargAll, List.foldl_concat, Entries.ofInsertions_append_singleton]
    rw [Call.kwargAll] at ih
    rw [ih, Call.kwarg, Entries.insert_map]

/-- A call without positional arguments lists its keyword arguments, with commas between them. -/
theorem Call.text_of_raw_kwargs (callee : Text) (entries : Entries Text) :
    Call.text { callee, kwargs := entries.map (Prod.map id Value.raw) } =
      callee ++ ['('] ++ commaSeparated (entries.map fun entry => entry.1 ++ ['='] ++ entry.2) ++ [')'] := by
  have hnil : commaSeparated [] = [] := rfl
  simp [Call.text, Value.text, hnil, Function.comp_def]

/-! ## Class variables -/

theorem Rendering.concat_ok (ts : List Text) : concat (ts.map .ok) = .ok ts.flatten := by
  induction ts with
  | nil => rfl
  | cons t rest ih =>
    simp only [List.map_cons, concat, ih, List.flatten_cons]
    rfl

namespace ClassDef

variable {put : Text → Text → Entries Text → Entries Text}

theorem setVariableAll_eq (hput : Entries.IsInsertion put) {c : ClassDef} (h : c.classVars = []) :
    c.setVariableAll put insertions = { c with classVars := Entries.ofInsertions insertions } := by
  rw [← hput.foldl_eq]
  induction insertions using List.reverseRecOn with
  | nil =>
    cases c
    subst h
    rfl
  | append_singleton earlier entry ih =>
    rw [setVariableAll] at ih
    rw [setVariableAll, List.foldl_concat, List.foldl_concat, ih]

theorem setLevel_new (name : Text) (n : Nat) :
    (ClassDef.new name).setLevel n = { name := Naming.capitalize name, level := n } := by
  rw [ClassDef.setLevel_eq, ClassDef.restamp_eq]
  rfl

theorem header_of_classVars (name : Text) (entries : Entries Text) (n : Nat) :
    header { name, classVars := entries, level := n } =
      ['\n', '\n'] ++ tabs n ++ "class ".toList ++ name ++ [':'] := by
  unfold header signature
  simp only [List.append_assoc, List.append_nil]

/-- A class that has nothing but variables lists them on lines of their own. -/
theorem render_of_classVars (name : Text) (entries : Entries Text) (n : Nat) :
    ClassDef.render { name, classVars := entries, level := n } =
      .ok (['\n', '\n'] ++ tabs n ++ "class ".toList ++ name ++ [':']
        ++ (if entries = [] then placeholder (n + 1)
            else entries.flatMap fun entry =>
              ['\n'] ++ tabs (n + 1) ++ entry.1 ++ " = ".toList ++ entry.2)
        ++ ['\n']) := by
  rw [ClassDef.render_eq, header_of_classVars]
  generalize ['\n', '\n'] ++ tabs n ++ "class ".toList ++ name ++ [':'] = front
  cases entries with
  | nil => simpa [hasMembers] using Rendering.concat_ok [front, placeholder (n + 1), ['\n']]
  | cons entry rest =>
    simpa [hasMembers, initStub, variableLines] using
      Rendering.concat_ok [front, [], variableLines { name, classVars := entry :: rest, level := n }, ['\n']]

end ClassDef

/-! ## Both maps -/

/-- After the same insertions, a call without arguments and a class without variables hold the same
entries: every key once, where it first came up, with its last value. Both show just these. -/
theorem Entries.IsInsertion.kwargs_and_classVars {put : Text → Text → Entries Text → Entries Text}
    (hput : IsInsertion put) (callee name : Text) (n : Nat) :
    let call := (Call.new callee).kwargAll insertions
    let definition := ((ClassDef.new name).setLevel n).setVariableAll put insertions
    let entries := definition.classVars
    call.kwargs = entries.map (Prod.map id Value.raw) ∧
      entries.keys = (insertions.map Prod.fst).eraseDups ∧
      (∀ key ∈ insertions.map Prod.fst, entries.keys.count key = 1) ∧
      (∀ key, entries.get? key = get? key insertions.reverse) ∧
      call.text =
        callee ++ ['('] ++ commaSeparated (entries.map fun entry => entry.1 ++ ['='] ++ entry.2) ++ [')'] ∧
      definition.render =
        .ok (['\n', '\n'] ++ tabs n ++ "class ".toList ++ Naming.capitalize name ++ [':']
          ++ (if entries = [] then placeholder (n + 1)
              else entries.flatMap fun entry =>
                ['\n'] ++ tabs (n + 1) ++ entry.1 ++ " = ".toList ++ entry.2)
          ++ ['\n']) := by
  intro call definition entries
  have hcall : call = { callee, kwargs := (ofInsertions insertions).map (Prod.map id Value.raw) } :=
    Call.kwargAll_new insertions callee
  have hdefinition : definition =
      { name := Naming.capitalize name, classVars := ofInsertions insertions, level := n } := by
    have hempty := ClassDef.setLevel_new name n
    calc definition
        = { (ClassDef.new name).setLevel n with classVars := ofInsertions insertions } :=
          ClassDef.setVariableAll_eq insertions hput (by rw [hempty])
      _ = _ := by rw [hempty]
  have hentries : entries = ofInsertions insertions := congrArg ClassDef.classVars hdefinition
  rw [hentries, hcall, hdefinition]
  exact ⟨rfl, keys_ofInsertions insertions, fun _ => count_keys_ofInsertions insertions,
    get?_ofInsertions insertions, Call.text_of_raw_kwargs callee _, ClassDef.render_of_classVars _ _ n⟩

/-- A key that comes up again keeps its place in both. -/
theorem Entries.kwargs_and_classVars_of_repeated_key :
    let insertions := [("x".toList, "1".toList), ("y".toList, "2".toList), ("x".toList, "3".toList)]
    let call := (Call.new "Point".toList).kwargAll insertions
    let definition := ((ClassDef.new "point".toList).setLevel 1).setVariableAll Entries.insert insertions
    IsInsertion (Entries.insert : Text → Text → Entries Text → Entries Text) ∧
      call.text = "Point(x=3, y=2)".toList ∧
      definition.render = .ok "\n\n\tclass Point:\n\t\tx = 3\n\t\ty = 2\n".toList := by
  intro insertions call definition
  have hentries : definition.classVars = [("x".toList, "3".toList), ("y".toList, "2".toList)] := by
    simp only [definition, ClassDef.setLevel_new]
    rfl
  rcases IsInsertion.insert.kwargs_and_classVars insertions "Point".toList "point".toList 1 with
    ⟨_, _, _, _, hcall, hdefinition⟩
  rw [hentries] at hcall hdefinition
  exact ⟨.insert, hcall, hdefinition⟩

end Scribe
