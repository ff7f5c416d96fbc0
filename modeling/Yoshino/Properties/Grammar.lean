import Yoshino.Properties.Lines

/-!
# The grammar of a property file

The loop of `load_properties` performs the lines of the file one after the other, up to a NUL byte.
For a file without NUL bytes and imports this is the grammar of property files: the lines with a key
and a value, as far as the filter keeps their keys.
-/

namespace Yoshino.Properties

open Yoshino.Library

/-- The lines the loader sees: those that end before the first NUL byte. -/
def fileLines (data : List UInt8) : List (List UInt8) :=
  (((data ++ [newline]).takeWhile (· ≠ 0)).splitOn newline).dropLast

/-- Perform one line after the other. -/
def performAll (load : Load) (filter : Option (List UInt8)) :
    List (List UInt8) → Except Stop (List Action)
  | [] => .ok []
  | line :: rest => do
    let actions ← perform load filter line
    let later ← performAll load filter rest
    return actions ++ later

/-- The properties of a file: in the order of the lines, those whose keys the filter keeps. -/
def properties (filter : Filter) (text : List UInt8) : List (List UInt8 × List UInt8) :=
  ((text.splitOn newline).filterMap keyValue).filter fun property => filter.keeps property.1

/-- Lines are performed when the first one and the others are. -/
theorem performAll_cons_eq_ok_iff {load : Load} {filter : Option (List UInt8)} {line : List UInt8}
    {rest : List (List UInt8)} {actions : List Action} :
    performAll load filter (line :: rest) = .ok actions ↔
      ∃ first later, perform load filter line = .ok first ∧ performAll load filter rest = .ok later ∧
        first ++ later = actions := by
  rw [performAll]
  cases perform load filter line with
  | error stop => simp [bind, Except.bind]
  | ok first =>
    cases performAll load filter rest with
    | error stop => simp [bind, Except.bind]
    | ok later => simp [pure, Except.pure]

/-- Without a step left nothing is loaded. -/
theorem loadPropertiesFromFile_zero (files : Files) (filename : List UInt8)
    (filter : Option (List UInt8)) (actions : List Action) :
    loadPropertiesFromFile files 0 filename filter ≠ .ok actions := by
  simp [loadPropertiesFromFile]

/-- The loop performs the lines of the C string it starts at. -/
theorem loadLines_append (load : Load) {filter : Option (List UInt8)}
    (hfilter : ∀ text ∈ filter, 0 ∉ text) {n : Nat} {text : List UInt8} (hnul : 0 ∉ text)
    (hn : text.length < n) (front back : List UInt8) :
    loadLines load filter n (front ++ (text ++ 0 :: back)) front.length =
      performAll load filter (text.splitOn newline).dropLast := by
  -- on the iterations; the buffer before the line changes, the rest of the text does not
  induction n generalizing text front with
  | zero => exact absurd hn (Nat.not_lt_zero _)
  | succ n ih =>
    rw [loadLines]
    by_cases hnewline : newline ∈ text
    · obtain ⟨line, rest, rfl, hbefore⟩ := List.eq_append_cons_of_mem hnewline
      have hlineNul : 0 ∉ line := fun hmem => hnul (List.mem_append_left _ hmem)
      have hrestNul : 0 ∉ rest := fun hmem =>
        hnul (List.mem_append_right _ (List.mem_cons_of_mem _ hmem))
      obtain ⟨erased, herased, hline⟩ :=
        loadLine_append load hfilter hlineNul newline front (rest ++ 0 :: back)
      have hlines : ((line ++ newline :: rest).splitOn newline).dropLast =
          line :: (rest.splitOn newline).dropLast := by
        rw [List.splitOn_append_cons_self_of_not_mem hbefore,
          List.dropLast_cons_of_ne_nil (List.splitOn_ne_nil _ _)]
      have hnext : front.length + line.length + 1 = (front ++ erased).length := by
        rw [List.length_append, herased, Nat.add_assoc]
      have hrest : rest.length < n := by
        rw [List.length_append, List.length_cons] at hn
        omega
      rw [List.append_assoc, List.cons_append, strchr_append_cons hlineNul hbefore, checked_some,
        ok_bind]
      dsimp only
      rw [hline, hlines, performAll]
      cases perform load filter line with
      | error stop => rfl
      | ok actions =>
        rw [Except.map, ok_bind, ok_bind]
        dsimp only
        rw [← List.append_assoc front, hnext, ih hrestNul hrest]
    · rw [strchr_append_of_not_mem (by decide) hnul hnewline, checked_some, ok_bind,
        List.splitOn_eq_singleton hnewline]
      rfl

/-- The buffer of a file holds the C string up to its first NUL byte. -/
theorem takeWhile_buffer (data : List UInt8) :
    ∃ back, data ++ [newline, 0] = (data ++ [newline]).takeWhile (· ≠ 0) ++ 0 :: back := by
  by_cases hnul : 0 ∈ data ++ [newline]
  · obtain ⟨first, second, htext, hcut⟩ := List.eq_append_cons_of_mem hnul
    refine ⟨second ++ [0], ?_⟩
    have hbuffer : data ++ [newline, 0] = (data ++ [newline]) ++ [0] := by simp
    rw [hbuffer, htext, takeWhile_cut hcut, List.append_assoc, List.cons_append]
  · refine ⟨[], ?_⟩
    rw [takeWhile_of_not_mem hnul]
    simp

/-- `load_properties` performs the lines of the file. -/
theorem loadProperties_eq (load : Load) {filter : Option (List UInt8)}
    (hfilter : ∀ text ∈ filter, 0 ∉ text) (data : List UInt8) :
    loadProperties load (data ++ [newline, 0]) filter = performAll load filter (fileLines data) := by
  obtain ⟨back, hback⟩ := takeWhile_buffer data
  have hnul : 0 ∉ (data ++ [newline]).takeWhile (· ≠ 0) := fun hmem => by
    simpa using List.mem_takeWhile_imp hmem
  unfold loadProperties fileLines
  rw [hback, List.length_append, List.length_cons]
  exact loadLines_append load hfilter hnul (by omega) [] back

/-- Without NUL bytes these are all the lines. -/
theorem fileLines_eq {data : List UInt8} (hnul : 0 ∉ data) : fileLines data = data.splitOn newline := by
  have hbuffer : 0 ∉ data ++ [newline] := by
    rw [List.mem_append, not_or]
    exact ⟨hnul, by decide⟩
  rw [fileLines, takeWhile_of_not_mem hbuffer, List.splitOn_append_cons_self, List.splitOn_nil,
    List.dropLast_concat]

/-- Lines without imports set the properties the filter keeps. -/
theorem performAll_eq (load : Load) (filter : Option (List UInt8)) {lines : List (List UInt8)}
    (himports : ∀ line ∈ lines, isImport line = false) :
    performAll load filter lines = .ok (((lines.filterMap keyValue).filter fun property =>
      (Filter.ofArgument filter).keeps property.1).map fun property =>
        .propertySet property.1 property.2) := by
  induction lines with
  | nil => rfl
  | cons line rest ih =>
    have hline : isImport line = false := himports line List.mem_cons_self
    rw [performAll, ih fun later hlater => himports later (List.mem_cons_of_mem _ hlater), perform,
      hline]
    cases hkeyValue : keyValue line with
    | none => simp [hkeyValue, pure, Except.pure]
    | some property =>
      by_cases hkeeps : (Filter.ofArgument filter).keeps property.1 = true <;>
        simp [hkeyValue, hkeeps, pure, Except.pure]

/-- A file without NUL bytes and imports is read inside its buffer, and sets exactly the properties
of the grammar in the order of the file, for every filter: none, exact, or a beginning of keys. -/
theorem loadPropertiesFromFile_grammar (files : Files) (depth : Nat) {filename text : List UInt8}
    {filter : Option (List UInt8)} (hfile : files.lookup filename = some text) (hnul : 0 ∉ text)
    (himports : ∀ line ∈ text.splitOn newline, isImport line = false) (hfilter : IsFilter filter) :
    loadPropertiesFromFile files (depth + 1) filename filter =
      .ok (.readFile filename :: (properties (.ofArgument filter) text).map fun property =>
        .propertySet property.1 property.2) := by
  rw [loadPropertiesFromFile, hfile]
  dsimp only
  rw [loadProperties_eq _ hfilter.nul_not_mem, fileLines_eq hnul, performAll_eq _ _ himports, ok_bind]
  rfl

/-- A file with comments, blank lines and white space, read with a filter for the keys that begin
with `ro.`. -/
theorem loadPropertiesFromFile_grammar_ro :
    let text := ascii "# a=b\n\n  ro.a = 1 2 \n=\nrw.b=3\nro.c=\tx=y"
    (∀ line ∈ text.splitOn newline, isImport line = false) ∧ IsFilter (some (ascii "ro.*")) ∧
      loadPropertiesFromFile [(ascii "/p", text)] 1 (ascii "/p") (some (ascii "ro.*")) =
        .ok [.readFile (ascii "/p"), .propertySet (ascii "ro.a") (ascii "1 2"),
          .propertySet (ascii "ro.c") (ascii "x=y")] := by
  have himports : ∀ line ∈ (ascii "# a=b\n\n  ro.a = 1 2 \n=\nrw.b=3\nro.c=\tx=y").splitOn newline,
      isImport line = false := by decide +kernel
  have hfilter : IsFilter (some (ascii "ro.*")) := by
    intro text htext
    obtain rfl := Option.some.inj htext
    decide +kernel
  refine ⟨himports, hfilter, ?_⟩
  rw [loadPropertiesFromFile_grammar _ 0 List.lookup_cons_self (by decide +kernel) himports hfilter]
  decide +kernel

end Yoshino.Properties
