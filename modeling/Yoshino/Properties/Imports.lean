import Yoshino.Library.Cycles
import Yoshino.Properties.Grammar

/-!
# Imports between property files

A file that is loaded without a filter loads the files its import lines name, and those that are
named without a filter load theirs. Nothing remembers which files are being loaded, so loading ends
exactly when these imports form no cycle.
-/

namespace Yoshino.Properties

open Yoshino.Library Relation

/-- The first file imports the second one without a filter. -/
def Imports (files : Files) (filename imported : List UInt8) : Prop :=
  ∃ data, files.lookup filename = some data ∧ ∃ line ∈ fileLines data, isImport line = true ∧
    importedFile (trim line) = imported ∧ Filter.ofArgument (importFilter (trim line)) = .all

/-- The loader returns, having done finitely many things. -/
def Terminates (files : Files) (filename : List UInt8) (filter : Option (List UInt8)) : Prop :=
  ∃ depth actions, loadPropertiesFromFile files depth filename filter = .ok actions

/-- No line of a file holds a NUL byte. -/
theorem nul_not_mem_of_mem_fileLines {data line : List UInt8} (h : line ∈ fileLines data) :
    0 ∉ line := by
  intro hmem
  have htext := mem_of_mem_splitOn (List.mem_of_mem_dropLast h) hmem
  simpa using List.mem_takeWhile_imp htext

/-- Loading a file that exists performs its lines. -/
theorem loadPropertiesFromFile_succ {files : Files} {filename data : List UInt8}
    {filter : Option (List UInt8)} (hfile : files.lookup filename = some data)
    (hfilter : IsFilter filter) (depth : Nat) :
    loadPropertiesFromFile files (depth + 1) filename filter =
      (performAll (loadPropertiesFromFile files depth) filter (fileLines data)).map
        (.readFile filename :: ·) := by
  rw [loadPropertiesFromFile, hfile]
  dsimp only
  rw [loadProperties_eq _ hfilter.nul_not_mem]
  cases performAll (loadPropertiesFromFile files depth) filter (fileLines data) <;> rfl

/-- A run that returns is the same with more depth. -/
theorem performAll_mono {load load' : Load} {filter : Option (List UInt8)}
    {lines : List (List UInt8)} {actions : List Action}
    (hload : ∀ line ∈ lines, ∀ actions, load (importedFile (trim line)) (importFilter (trim line)) =
      .ok actions → load' (importedFile (trim line)) (importFilter (trim line)) = .ok actions)
    (h : performAll load filter lines = .ok actions) : performAll load' filter lines = .ok actions := by
  induction lines generalizing actions with
  | nil => exact h
  | cons line rest ih =>
    obtain ⟨first, later, hfirst, hlater, rfl⟩ := performAll_cons_eq_ok_iff.mp h
    refine performAll_cons_eq_ok_iff.mpr ⟨first, later, ?_, ?_, rfl⟩
    · unfold perform at hfirst ⊢
      split
      next himport =>
        rw [if_pos himport] at hfirst
        exact hload line List.mem_cons_self first hfirst
      next himport => rwa [if_neg himport] at hfirst
    · exact ih (fun line hline => hload line (List.mem_cons_of_mem _ hline)) hlater

/-- A call that returns does the same with more depth. -/
theorem loadPropertiesFromFile_mono {files : Files} {depth depth' : Nat} (hle : depth ≤ depth')
    {filename : List UInt8} {filter : Option (List UInt8)} (hfilter : IsFilter filter)
    {actions : List Action} (h : loadPropertiesFromFile files depth filename filter = .ok actions) :
    loadPropertiesFromFile files depth' filename filter = .ok actions := by
  induction depth generalizing depth' filename filter actions with
  | zero => exact absurd h (loadPropertiesFromFile_zero _ _ _ _)
  | succ depth ih =>
    obtain ⟨more, rfl⟩ : ∃ more, depth' = more + 1 := ⟨depth' - 1, by omega⟩
    cases hfile : files.lookup filename with
    | none =>
      rw [loadPropertiesFromFile, hfile] at h ⊢
      exact h
    | some data =>
      rw [loadPropertiesFromFile_succ hfile hfilter] at h ⊢
      obtain ⟨done, hall, rfl⟩ := map_eq_ok_iff.mp h
      refine map_eq_ok_iff.mpr ⟨done, performAll_mono (fun line hline actions hactions => ?_) hall, rfl⟩
      exact ih (by omega) (isFilter_importFilter (nul_not_mem_of_mem_fileLines hline)) hactions

/-- What a call does depends only on the filter its argument stands for. -/
theorem loadPropertiesFromFile_congr (files : Files) (depth : Nat) (filename : List UInt8)
    {filter filter' : Option (List UInt8)} (hfilter : IsFilter filter)
    (hfilter' : IsFilter filter')
    (h : Filter.ofArgument filter = Filter.ofArgument filter') :
    loadPropertiesFromFile files depth filename filter =
      loadPropertiesFromFile files depth filename filter' := by
  have hall (load : Load) (lines : List (List UInt8)) :
      performAll load filter lines = performAll load filter' lines := by
    induction lines with
    | nil => rfl
    | cons line rest ih => rw [performAll, performAll, ih, perform, perform, h]
  cases depth with
  | zero => rfl
  | succ depth =>
    cases hfile : files.lookup filename with
    | none => rw [loadPropertiesFromFile, loadPropertiesFromFile, hfile]
    | some data =>
      rw [loadPropertiesFromFile_succ hfile hfilter, loadPropertiesFromFile_succ hfile hfilter', hall]

/-- Lines can be performed when the imports among them that are followed return. -/
theorem exists_performAll {files : Files} {filter : Option (List UInt8)} {lines : List (List UInt8)}
    (hnul : ∀ line ∈ lines, 0 ∉ line)
    (h : ∀ line ∈ lines, isImport line = true → Filter.ofArgument filter = .all →
      Terminates files (importedFile (trim line)) (importFilter (trim line))) :
    ∃ depth actions, performAll (loadPropertiesFromFile files depth) filter lines = .ok actions := by
  induction lines with
  | nil => exact ⟨0, [], rfl⟩
  | cons line rest ih =>
    obtain ⟨depth, later, hlater⟩ := ih (fun line hline => hnul line (List.mem_cons_of_mem _ hline))
      (fun line hline => h line (List.mem_cons_of_mem _ hline))
    have hmore {depth depth' : Nat} (hle : depth ≤ depth') {lines : List (List UInt8)}
        (hlines : ∀ line ∈ lines, 0 ∉ line) {actions : List Action}
        (hactions : performAll (loadPropertiesFromFile files depth) filter lines = .ok actions) :
        performAll (loadPropertiesFromFile files depth') filter lines = .ok actions :=
      performAll_mono (fun line hline actions => loadPropertiesFromFile_mono hle
        (isFilter_importFilter (hlines line hline))) hactions
    have hrest : ∀ line ∈ rest, 0 ∉ line := fun line hline => hnul line (List.mem_cons_of_mem _ hline)
    by_cases himport : (isImport line && decide (Filter.ofArgument filter = .all)) = true
    · obtain ⟨hkeyword, hall⟩ := Bool.and_eq_true_iff.mp himport
      obtain ⟨depth', first, hfirst⟩ := h line List.mem_cons_self hkeyword (of_decide_eq_true hall)
      have hfirst' := loadPropertiesFromFile_mono (Nat.le_max_right depth depth')
        (isFilter_importFilter (hnul line List.mem_cons_self)) hfirst
      refine ⟨max depth depth', first ++ later, performAll_cons_eq_ok_iff.mpr ⟨first, later, ?_,
        hmore (Nat.le_max_left depth depth') hrest hlater, rfl⟩⟩
      rw [perform, if_pos himport, hfirst']
    · have hperform (load : Load) : ∃ first, perform load filter line = .ok first := by
        unfold perform
        rw [if_neg himport]
        cases keyValue line with
        | none => exact ⟨_, rfl⟩
        | some property => exact ⟨_, rfl⟩
      obtain ⟨first, hfirst⟩ := hperform (loadPropertiesFromFile files depth)
      exact ⟨depth, first ++ later,
        performAll_cons_eq_ok_iff.mpr ⟨first, later, hfirst, hlater, rfl⟩⟩

/-- A call returns when the imports it follows do. -/
theorem terminates_of_imports {files : Files} {filename : List UInt8} {filter : Option (List UInt8)}
    (hfilter : IsFilter filter)
    (h : ∀ data, files.lookup filename = some data → ∀ line ∈ fileLines data, isImport line = true →
      Filter.ofArgument filter = .all →
        Terminates files (importedFile (trim line)) (importFilter (trim line))) :
    Terminates files filename filter := by
  cases hfile : files.lookup filename with
  | none =>
    refine ⟨1, [.readFile filename], ?_⟩
    rw [loadPropertiesFromFile, hfile]
  | some data =>
    obtain ⟨depth, actions, hactions⟩ := exists_performAll
      (fun line hline => nul_not_mem_of_mem_fileLines hline) (h data hfile)
    refine ⟨depth + 1, .readFile filename :: actions, ?_⟩
    rw [loadPropertiesFromFile_succ hfile hfilter, hactions]
    rfl

/-- A call with a filter follows no imports. -/
theorem terminates_of_filter {files : Files} {filename : List UInt8} {filter : Option (List UInt8)}
    (hfilter : IsFilter filter) (h : Filter.ofArgument filter ≠ .all) :
    Terminates files filename filter :=
  terminates_of_imports hfilter fun _ _ _ _ _ hall => absurd hall h

/-- A file whose chains of imports end can be loaded. -/
theorem terminates_of_acc {files : Files} {filename : List UInt8}
    (h : Acc (fun imported filename => Imports files filename imported) filename) :
    Terminates files filename none := by
  induction h with
  | intro filename _ ih =>
    refine terminates_of_imports isFilter_none fun data hfile line hline himport _ => ?_
    have hfilter := isFilter_importFilter (nul_not_mem_of_mem_fileLines hline)
    by_cases hall : Filter.ofArgument (importFilter (trim line)) = .all
    · obtain ⟨depth, actions, hactions⟩ := ih _ ⟨data, hfile, line, hline, himport, rfl, hall⟩
      refine ⟨depth, actions, ?_⟩
      rw [loadPropertiesFromFile_congr files depth _ hfilter isFilter_none hall, hactions]
    · exact terminates_of_filter hfilter hall

/-- When lines can be performed, the imports among them return. -/
theorem load_of_performAll {load : Load} {filter : Option (List UInt8)} {lines : List (List UInt8)}
    {actions : List Action} (h : performAll load filter lines = .ok actions)
    (hfilter : Filter.ofArgument filter = .all) {line : List UInt8} (hline : line ∈ lines)
    (himport : isImport line = true) :
    ∃ imported, load (importedFile (trim line)) (importFilter (trim line)) = .ok imported := by
  induction lines generalizing actions with
  | nil => exact absurd hline List.not_mem_nil
  | cons head rest ih =>
    obtain ⟨first, later, hhead, hrest, -⟩ := performAll_cons_eq_ok_iff.mp h
    rcases List.mem_cons.mp hline with rfl | hlater
    · rw [perform, himport, hfilter] at hhead
      exact ⟨first, hhead⟩
    · exact ih hrest hlater

/-- The chains of imports of a file that can be loaded end. -/
theorem acc_of_terminates {files : Files} {filename : List UInt8}
    (h : Terminates files filename none) :
    Acc (fun imported filename => Imports files filename imported) filename := by
  obtain ⟨depth, actions, hactions⟩ := h
  induction depth generalizing filename actions with
  | zero => exact absurd hactions (loadPropertiesFromFile_zero _ _ _ _)
  | succ depth ih =>
    refine Acc.intro _ fun imported himports => ?_
    obtain ⟨data, hfile, line, hline, himport, rfl, hall⟩ := himports
    have hfilter := isFilter_importFilter (nul_not_mem_of_mem_fileLines hline)
    rw [loadPropertiesFromFile_succ hfile isFilter_none] at hactions
    obtain ⟨done, hperform, -⟩ := map_eq_ok_iff.mp hactions
    obtain ⟨actions, hload⟩ := load_of_performAll hperform rfl hline himport
    rw [loadPropertiesFromFile_congr files depth _ hfilter isFilter_none hall] at hload
    exact ih actions hload

/-- Only files that exist import others. -/
theorem imports_finite (files : Files) : {filename | ∃ imported, Imports files filename imported}.Finite := by
  refine (files.map Prod.fst).finite_toSet.subset fun filename ⟨imported, data, hfile, _⟩ => ?_
  obtain ⟨before, after, hfiles, -⟩ := List.lookup_eq_some_iff.mp hfile
  simp [hfiles]

/-- Loading a file without a filter performs finitely many reads and returns exactly when no file that
its unfiltered imports reach imports itself, directly or over others. -/
theorem loadPropertiesFromFile_terminates_iff (files : Files) (filename : List UInt8) :
    (∃ depth actions, loadPropertiesFromFile files depth filename none = .ok actions) ↔
      ∀ imported, ReflTransGen (Imports files) filename imported →
        ¬ TransGen (Imports files) imported imported := by
  constructor
  · intro hterminates imported hreach
    exact not_cycle_of_acc (acc_of_terminates hterminates) hreach
  · intro hacyclic
    exact terminates_of_acc (acc_of_not_cycle (imports_finite files) hacyclic)

/-- A file that imports itself is read without end. -/
theorem loadPropertiesFromFile_import_itself :
    ¬ ∃ depth actions,
      loadPropertiesFromFile [(ascii "/p", ascii "import /p")] depth (ascii "/p") none = .ok actions := by
  have hlines : fileLines (ascii "import /p") = [ascii "import /p"] := by decide +kernel
  have hperform (load : Load) : perform load none (ascii "import /p") = load (ascii "/p") none := rfl
  rintro ⟨depth, actions, hactions⟩
  induction depth generalizing actions with
  | zero => exact loadPropertiesFromFile_zero _ _ _ _ hactions
  | succ depth ih =>
    rw [loadPropertiesFromFile_succ List.lookup_cons_self isFilter_none, hlines] at hactions
    obtain ⟨done, hdone, -⟩ := map_eq_ok_iff.mp hactions
    obtain ⟨imported, -, himported, -⟩ := performAll_cons_eq_ok_iff.mp hdone
    rw [hperform] at himported
    exact ih imported himported

end Yoshino.Properties
