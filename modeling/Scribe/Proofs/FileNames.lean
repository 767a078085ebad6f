import Scribe.Document.Basic
import Scribe.Naming.FileName

/-!
# Names of Python files

A name is accepted if and only if it is the path of a Python file. The directory is all up to the last
separator, so that there is only one way to take a path apart.

* `Naming.fileName_append`, `Naming.exists_directory` — a directory and what is behind it;
* `Naming.isDocumentName_iff_fileName`, `Naming.isDocumentName_iff` — the check;
* `Naming.isDocumentName_append_pythonEnding` — a stem of word characters makes a name;
* `Naming.document_names_are_python_paths` — all of this.
-/

namespace Scribe
namespace Naming

open Text

variable {path dir stem : Text} {c : Char}

/-! ## Characters -/

theorem isWordChar_iff : isWordChar c = true ↔ isAlphabetic c = true ∨ isNumeral c = true ∨ c = '_' := by
  simp [isWordChar, or_assoc]

theorem isPathSeparator_of_isWordChar (h : isWordChar c = true) : isPathSeparator c = false := by
  have hslash : isWordChar '/' = false := by decide
  have hbackslash : isWordChar '\\' = false := by decide
  have hne (d : Char) (hd : isWordChar d = false) : c ≠ d :=
    fun heq => Bool.false_ne_true (hd.symm.trans (heq ▸ h))
  simp [isPathSeparator, hne '/' hslash, hne '\\' hbackslash]

theorem isPathSeparator_of_mem_pythonEnding : ∀ c ∈ pythonEnding, isPathSeparator c = false := by
  have hall : pythonEnding.all (fun c => !isPathSeparator c) = true := by decide
  simpa using hall

/-! ## Directories -/

theorem isDirectory_iff :
    IsDirectory dir ↔ dir = [] ∨ ∃ parent c, isPathSeparator c = true ∧ dir = parent ++ [c] := by
  simp [IsDirectory, isPathSeparator, exists_or, or_and_right]

/-- A path without separators is all file name. -/
theorem fileName_eq_self (h : ∀ c ∈ path, isPathSeparator c = false) : fileName path = path := by
  have hall : ∀ c ∈ path.reverse, (!isPathSeparator c) = true := by
    intro c hc
    simp only [h c (List.mem_reverse.1 hc), Bool.not_false]
  have hwhole := @List.takeWhile_append_of_pos _ _ _ [] hall
  simp only [List.append_nil, List.takeWhile_nil] at hwhole
  simp only [fileName, hwhole, List.reverse_reverse]

theorem fileName_append (h : IsDirectory dir) (path : Text) : fileName (dir ++ path) = fileName path := by
  rcases isDirectory_iff.1 h with rfl | ⟨parent, c, hc, rfl⟩
  · rfl
  · have hstop : (c :: parent.reverse).takeWhile (fun d => !isPathSeparator d) = [] := by simp [hc]
    have hreverse : (parent ++ [c] ++ path).reverse = path.reverse ++ c :: parent.reverse := by simp
    simp only [fileName, hreverse, List.takeWhile_append, hstop, List.append_nil]
    split
    · rename_i hlength
      simp only [(List.takeWhile_prefix _).eq_of_length hlength]
    · rfl

/-- All up to the last separator is a directory. -/
theorem exists_directory (path : Text) : ∃ dir, IsDirectory dir ∧ path = dir ++ fileName path := by
  refine ⟨(path.reverse.dropWhile fun c => !isPathSeparator c).reverse, ?_, ?_⟩
  · refine isDirectory_iff.2 ?_
    have hhead := List.head?_dropWhile_not (fun c => !isPathSeparator c) path.reverse
    cases hrest : path.reverse.dropWhile fun c => !isPathSeparator c with
    | nil => exact .inl rfl
    | cons c more =>
      simp only [hrest, List.head?_cons, Bool.not_eq_false'] at hhead
      exact .inr ⟨more.reverse, c, hhead, List.reverse_cons⟩
  · calc path = path.reverse.reverse := path.reverse_reverse.symm
      _ = (path.reverse.takeWhile (fun c => !isPathSeparator c) ++
            path.reverse.dropWhile fun c => !isPathSeparator c).reverse := by
          simp only [List.takeWhile_append_dropWhile]
      _ = _ := List.reverse_append

/-! ## The check -/

theorem isDocumentName_iff_fileName :
    isDocumentName path = true ↔
      ∃ stem, fileName path = stem ++ pythonEnding ∧ stem ≠ [] ∧ ∀ c ∈ stem, isWordChar c = true := by
  simp only [isDocumentName, ← dropSuffix?_eq_some_iff]
  cases dropSuffix? pythonEnding (fileName path) with
  | none => simp
  | some stem => simp

theorem IsPythonPath.fileName_eq (h : IsPythonPath path dir stem) :
    fileName path = stem ++ pythonEnding := by
  have hfile : ∀ c ∈ stem ++ pythonEnding, isPathSeparator c = false := by
    intro c hc
    rcases List.mem_append.1 hc with hstem | hending
    · exact isPathSeparator_of_isWordChar (isWordChar_iff.2 (h.stem_word c hstem))
    · exact isPathSeparator_of_mem_pythonEnding c hending
  calc fileName path = fileName (dir ++ (stem ++ pythonEnding)) := by
        simp only [h.eq_append, List.append_assoc]
    _ = fileName (stem ++ pythonEnding) := fileName_append h.isDirectory _
    _ = stem ++ pythonEnding := fileName_eq_self hfile

theorem isDocumentName_iff : isDocumentName path = true ↔ ∃ dir stem, IsPythonPath path dir stem := by
  constructor
  · intro h
    obtain ⟨stem, hfile, hne, hword⟩ := isDocumentName_iff_fileName.1 h
    obtain ⟨dir, hdir, hpath⟩ := exists_directory path
    refine ⟨dir, stem, ?_, hdir, hne, fun c hc => isWordChar_iff.1 (hword c hc)⟩
    simp only [List.append_assoc, ← hfile, ← hpath]
  · rintro ⟨dir, stem, h⟩
    exact isDocumentName_iff_fileName.2
      ⟨stem, h.fileName_eq, h.stem_ne_nil, fun c hc => isWordChar_iff.2 (h.stem_word c hc)⟩

theorem isDocumentName_append_pythonEnding (hne : stem ≠ [])
    (hword : ∀ c ∈ stem, isWordChar c = true) : isDocumentName (stem ++ pythonEnding) = true :=
  isDocumentName_iff.2 ⟨[], stem, rfl, .inl rfl, hne, fun c hc => isWordChar_iff.1 (hword c hc)⟩

/-- The file name tells the stem, and what is left is the directory. -/
theorem IsPythonPath.unique {dir' stem' : Text} (h : IsPythonPath path dir stem)
    (h' : IsPythonPath path dir' stem') : dir = dir' ∧ stem = stem' := by
  have hstem : stem = stem' := List.append_cancel_right (h.fileName_eq.symm.trans h'.fileName_eq)
  subst hstem
  have hpath : dir ++ (stem ++ pythonEnding) = dir' ++ (stem ++ pythonEnding) := by
    simpa only [List.append_assoc] using h.eq_append.symm.trans h'.eq_append
  exact ⟨List.append_cancel_right hpath, rfl⟩

theorem isDocumentName_append (h : IsDirectory dir) (path : Text) :
    isDocumentName (dir ++ path) = isDocumentName path := by
  simp only [isDocumentName, fileName_append h]

theorem checkName_eq_error_iff {e : BuildError} :
    Document.checkName path = .error e ↔
      isDocumentName path = false ∧ e = .invalidDocumentName path := by
  cases hname : isDocumentName path with
  | true => simp [Document.checkName, hname]
  | false => simp [Document.checkName, hname, eq_comm]

/-- The names that are accepted are the paths of Python files. A path has one directory and one stem, any
other directory may stand in front of it, and a name that is no such path is reported as it is. -/
theorem document_names_are_python_paths (name : Text) :
    (isDocumentName name = true ↔ ∃ dir stem, IsPythonPath name dir stem) ∧
      (∀ dir stem dir' stem', IsPythonPath name dir stem → IsPythonPath name dir' stem' →
        dir = dir' ∧ stem = stem') ∧
      (∀ dir, IsDirectory dir → isDocumentName (dir ++ name) = isDocumentName name) ∧
      ∀ e, Document.checkName name = .error e ↔
        (¬∃ dir stem, IsPythonPath name dir stem) ∧ e = .invalidDocumentName name := by
  refine ⟨isDocumentName_iff, fun _ _ _ _ h h' => h.unique h',
    fun dir h => isDocumentName_append h name, fun e => ?_⟩
  have hinvalid : isDocumentName name = false ↔ ¬∃ dir stem, IsPythonPath name dir stem := by
    simp only [← isDocumentName_iff, Bool.not_eq_true]
  simp only [checkName_eq_error_iff, hinvalid]

-- Both separators end a directory, in which dots may stand; a stem has none.
example : isDocumentName "out/v1.2\\models.py".toList = true ∧
    isDocumentName "models.py.py".toList = false := by
  decide

end Naming
end Scribe
