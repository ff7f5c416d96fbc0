import Yoshino.Library.CString
import Yoshino.PowerHal.Stats

/-!
# Statistics and their sections

In a statistics file each section has a header and some of its parameter lines, mixed with unknown lines.
This module says what the two loops do with such lines: which are passed over, what is stored for the
lines of a section, and which places are left alone while another section is read.
-/

namespace Yoshino.PowerHal

open Yoshino.Library

/-- A section of a statistics file. -/
structure StatSection where
  entry : StatPair
  header : List UInt8
  body : List (List UInt8)

/-- The lines of a section. -/
def StatSection.lines (sec : StatSection) : List (List UInt8) := sec.header :: sec.body

/-- The parameters a section has lines for. -/
def StatSection.present (sec : StatSection) : List Nat :=
  sec.body.filterMap (parameterOf sec.entry.parameters)

/-- A section with at least one parameter line. -/
def StatSection.HasParameter (sec : StatSection) : Prop :=
  ∃ line ∈ sec.body, ∃ p, parameterOf sec.entry.parameters line = some p

/-- A section with a line for every parameter. -/
def StatSection.Complete (sec : StatSection) : Prop :=
  ∀ p < sec.entry.parameters.length, ∃ line ∈ sec.body, parameterOf sec.entry.parameters line = some p

/-- A section as a file has it: the header is that of the section, and each other line is a parameter
line of it, at most one for each parameter, or an unknown line, which is neither a header nor a parameter
line of any section. -/
structure StatSection.WellFormed (map : List StatPair) (sec : StatSection) : Prop where
  header : sectionOf map sec.header = some sec.entry
  body : ∀ line ∈ sec.body, sectionOf map line = none ∧
    ((∃ p, parameterOf sec.entry.parameters line = some p) ∨
      ∀ entry ∈ map, parameterOf entry.parameters line = none)
  once : sec.present.Nodup

/-- A statistics file: lines before the first header, and sections none of which occurs twice. -/
structure StatsFile (map : List StatPair) where
  before : List (List UInt8)
  sections : List StatSection
  before_unknown : ∀ line ∈ before, sectionOf map line = none
  wellFormed : ∀ sec ∈ sections, sec.WellFormed map
  nodup : (sections.map (·.entry)).Nodup

/-- The lines of a file. -/
def StatsFile.lines {map : List StatPair} (file : StatsFile map) : List (List UInt8) :=
  file.before ++ file.sections.flatMap StatSection.lines

/-- Each number is in the place of the parameter of its section, and every other place is as before. -/
structure Attributed (strtoull : List UInt8 → UInt64) (sections : List StatSection)
    (before after : Nat → UInt64) : Prop where
  stored : ∀ sec ∈ sections, ∀ line ∈ sec.body, ∀ p, parameterOf sec.entry.parameters line = some p →
    after (sec.entry.slot p) = strtoull (valueText line)
  unchanged : ∀ slot, (∀ sec ∈ sections, ∀ line ∈ sec.body, ∀ p,
    parameterOf sec.entry.parameters line = some p → slot ≠ sec.entry.slot p) → after slot = before slot

/-- The headers and the places of a table are kept apart: no header is a parameter line, and no two
parameters have one place. -/
structure Separate (map : List StatPair) : Prop where
  header : ∀ line entry, sectionOf map line = some entry →
    ∀ other ∈ map, parameterOf other.parameters line = none
  slot : ∀ entry ∈ map, ∀ other ∈ map, ∀ p < entry.parameters.length, ∀ q < other.parameters.length,
    entry.slot p = other.slot q → entry = other ∧ p = q

/-- A parameter line is for one of the parameters. -/
theorem parameterOf_lt {params : List (List UInt8)} {line : List UInt8} {p : Nat}
    (h : parameterOf params line = some p) : p < params.length := by
  unfold parameterOf at h
  split at h
  · exact (List.findIdx?_eq_some_iff_getElem.mp h).1
  · exact absurd h (by simp)

/-- A label and a parameter that no line can both start with. -/
def apart (label param : List UInt8) : Bool :=
  if colon ∈ label then label.takeWhile (· ≠ colon) != param else !label.isPrefixOf param

/-- The key of a line that starts with a label is none of the parameters apart from it. -/
theorem takeWhile_ne_of_apart {label param : List UInt8} (h : apart label param = true)
    (rest : List UInt8) : (label ++ rest).takeWhile (· ≠ colon) ≠ param := by
  unfold apart at h
  split at h
  next hcolon =>
    obtain ⟨front, back, rfl, hfront⟩ := List.eq_append_cons_of_mem hcolon
    rw [takeWhile_cut hfront] at h
    rw [List.append_assoc, List.cons_append, takeWhile_cut hfront]
    simpa using h
  next hcolon =>
    have hlabel : ∀ c ∈ label, decide (c ≠ colon) = true := fun c hc =>
      decide_eq_true fun heq => hcolon (heq ▸ hc)
    rw [List.takeWhile_append_of_pos hlabel]
    rintro rfl
    rw [Bool.not_eq_true', List.isPrefixOf_iff_prefix.mpr (List.prefix_append _ _)] at h
    exact absurd h (by decide)

/-- A table with every label apart from every parameter, and with places apart, is separate. -/
theorem separate_of_apart {map : List StatPair}
    (hapart : ∀ entry ∈ map, ∀ other ∈ map, ∀ param ∈ other.parameters,
      apart entry.label param = true)
    (hslot : ∀ entry ∈ map, ∀ other ∈ map, ∀ p < entry.parameters.length,
      ∀ q < other.parameters.length, entry.slot p = other.slot q → entry = other ∧ p = q) :
    Separate map where
  header := by
    intro line entry hentry other hother
    have hmem : entry ∈ map := List.mem_of_find?_eq_some hentry
    have hfound : entry.label.isPrefixOf (afterBlanks line) = true := by
      simpa using List.find?_some hentry
    obtain ⟨rest, hrest⟩ := List.isPrefixOf_iff_prefix.mp hfound
    unfold parameterOf
    split
    · rw [List.findIdx?_eq_none_iff]
      intro param hparam
      rw [← hrest]
      simpa using (takeWhile_ne_of_apart (hapart entry hmem other hother param hparam) rest).symm
    · rfl
  slot := hslot

theorem separate_rpmStatMap : Separate rpmStatMap :=
  separate_of_apart (by decide +kernel) (by decide +kernel)

theorem separate_wlanStatMap : Separate wlanStatMap :=
  separate_of_apart (by decide +kernel) (by decide +kernel)

/-- What is stored for the lines of a section. -/
def bodyWrites (strtoull : List UInt8 → UInt64) (entry : StatPair) (body : List (List UInt8)) :
    List (Nat × UInt64) :=
  body.filterMap fun line =>
    (parameterOf entry.parameters line).map fun p => (entry.slot p, strtoull (valueText line))

/-- Nothing is stored for another line. -/
theorem bodyWrites_cons_none (strtoull : List UInt8 → UInt64) {entry : StatPair} {line : List UInt8}
    (h : parameterOf entry.parameters line = none) (body : List (List UInt8)) :
    bodyWrites strtoull entry (line :: body) = bodyWrites strtoull entry body := by
  simp [bodyWrites, h]

/-- The number of a parameter line is stored. -/
theorem bodyWrites_cons_some (strtoull : List UInt8 → UInt64) {entry : StatPair} {line : List UInt8}
    {p : Nat} (h : parameterOf entry.parameters line = some p) (body : List (List UInt8)) :
    bodyWrites strtoull entry (line :: body) =
      (entry.slot p, strtoull (valueText line)) :: bodyWrites strtoull entry body := by
  simp [bodyWrites, h]

section

variable {map : List StatPair} {strtoull : List UInt8 → UInt64} {malloc : Nat → Bool}

/-- The loop over the parameters passes over any other line. -/
theorem Extraction.step_of_no_parameter {s : Extraction} {entry : StatPair} {n : Nat}
    (hreading : s.reading = .parameters entry n) {line : List UInt8}
    (hline : parameterOf entry.parameters line = none) : s.step map strtoull malloc line = s := by
  simp [step, hreading, hline]

/-- The loop over the headers passes over any other line. -/
theorem Extraction.step_of_no_header {s : Extraction} (hreading : s.reading = .headers)
    {line : List UInt8} (hline : sectionOf map line = none) : s.step map strtoull malloc line = s := by
  simp [step, hreading, hline]

/-- A header starts the loop over the parameters of its section. -/
theorem Extraction.step_of_header (hmalloc : ∀ n, malloc n = true) {s : Extraction}
    (hreading : s.reading = .headers) (hstats : s.statsRead < map.length) {line : List UInt8}
    {entry : StatPair} (hline : sectionOf map line = some entry) :
    s.step map strtoull malloc line =
      { s with statsRead := s.statsRead + 1, reading := .within entry 0 } := by
  simp [step, hreading, hstats, hline, hmalloc]

/-- A parameter line is stored and counted. -/
theorem Extraction.step_of_parameter {s : Extraction} {entry : StatPair} {n : Nat}
    (hreading : s.reading = .parameters entry n) {line : List UInt8} {p : Nat}
    (hline : parameterOf entry.parameters line = some p) :
    s.step map strtoull malloc line =
      { s with
        list := Function.update s.list (entry.slot p) (strtoull (valueText line))
        reading := .within entry (n + 1) } := by
  simp [step, hreading, hline]

/-- The lines of a section are stored in its places. When all parameters are there, the loop over the
headers reads the rest of the section and passes over it. -/
theorem Extraction.run_body {s : Extraction} {entry : StatPair} {n : Nat}
    (hreading : s.reading = .within entry n) (body : List (List UInt8))
    (hheaders : ∀ line ∈ body, sectionOf map line = none)
    (hcount : n + (body.filterMap (parameterOf entry.parameters)).length ≤ entry.parameters.length) :
    run (step map strtoull malloc) s body =
      { s with
        list := applyWrites (bodyWrites strtoull entry body) s.list
        reading := .within entry (n + (body.filterMap (parameterOf entry.parameters)).length) } := by
  induction body generalizing s n with
  | nil => simp [bodyWrites, ← hreading]
  | cons line body ih =>
    obtain ⟨hline, hbody⟩ := List.forall_mem_cons.mp hheaders
    cases hparam : parameterOf entry.parameters line with
    | none =>
      have hstep : s.step map strtoull malloc line = s := by
        by_cases hn : n < entry.parameters.length
        · rw [Reading.within, if_pos hn] at hreading
          exact step_of_no_parameter hreading hparam
        · rw [Reading.within, if_neg hn] at hreading
          exact step_of_no_header hreading hline
      rw [List.filterMap_cons_none hparam] at hcount ⊢
      rw [run_cons, hstep, ih hreading hbody hcount, bodyWrites_cons_none strtoull hparam]
    | some p =>
      rw [List.filterMap_cons_some hparam, List.length_cons] at hcount ⊢
      have hn : n < entry.parameters.length := by omega
      rw [Reading.within, if_pos hn] at hreading
      have hnext : n + ((body.filterMap (parameterOf entry.parameters)).length + 1) =
          n + 1 + (body.filterMap (parameterOf entry.parameters)).length := by omega
      rw [run_cons, step_of_parameter hreading hparam, ih rfl hbody (by omega),
        bodyWrites_cons_some strtoull hparam, applyWrites_cons, hnext]

/-- The loop over the parameters of a section passes over everything that is no parameter line of it. -/
theorem Extraction.run_of_no_parameter {s : Extraction} {entry : StatPair} {n : Nat}
    (hreading : s.reading = .parameters entry n) (lines : List (List UInt8))
    (hlines : ∀ line ∈ lines, parameterOf entry.parameters line = none) :
    run (step map strtoull malloc) s lines = s :=
  run_eq_self fun line hline => step_of_no_parameter hreading (hlines line hline)

/-- The loop over the headers passes over everything that is no header. -/
theorem Extraction.run_of_no_header {s : Extraction} (hreading : s.reading = .headers)
    (lines : List (List UInt8)) (hlines : ∀ line ∈ lines, sectionOf map line = none) :
    run (step map strtoull malloc) s lines = s :=
  run_eq_self fun line hline => step_of_no_header hreading (hlines line hline)

/-- The parameters of another section are read, or none. -/
def Reading.Elsewhere (map : List StatPair) (entry : StatPair) (reading : Reading) : Prop :=
  ∀ other n, reading = .parameters other n → other ∈ map ∧ other ≠ entry

/-- The loop over the parameters of a section reads the parameters of that section only. -/
theorem Reading.elsewhere_within {entry other : StatPair} (hother : other ∈ map) (hne : other ≠ entry)
    (n : Nat) : (Reading.within other n).Elsewhere map entry := by
  intro another m h
  unfold Reading.within at h
  split at h
  · cases h
    exact ⟨hother, hne⟩
  · exact absurd h (by simp)

/-- A step that reads no header of a section while elsewhere stays elsewhere, and leaves the places of
the section. -/
theorem Extraction.step_elsewhere (hmap : Separate map) {s : Extraction} {entry : StatPair}
    (hentry : entry ∈ map) (hreading : s.reading.Elsewhere map entry) {line : List UInt8}
    (hline : sectionOf map line ≠ some entry) :
    (s.step map strtoull malloc line).reading.Elsewhere map entry ∧
      ∀ p < entry.parameters.length,
        (s.step map strtoull malloc line).list (entry.slot p) = s.list (entry.slot p) := by
  cases hcase : s.reading with
  | stopped =>
    have hsame : s.step map strtoull malloc line = s := by simp [step, hcase]
    rw [hsame]
    exact ⟨hreading, fun _ _ => rfl⟩
  | parameters other n =>
    obtain ⟨hother, hne⟩ := hreading other n hcase
    cases hparam : parameterOf other.parameters line with
    | none =>
      rw [step_of_no_parameter hcase hparam]
      exact ⟨hreading, fun _ _ => rfl⟩
    | some q =>
      rw [step_of_parameter hcase hparam]
      refine ⟨Reading.elsewhere_within hother hne _, fun p hp => Function.update_of_ne ?_ _ _⟩
      intro hslot
      exact hne (hmap.slot _ hentry _ hother p hp q (parameterOf_lt hparam) hslot).1.symm
  | headers =>
    cases hsection : sectionOf map line with
    | none =>
      rw [step_of_no_header hcase hsection]
      exact ⟨hreading, fun _ _ => rfl⟩
    | some other =>
      have hother : other ∈ map := List.mem_of_find?_eq_some hsection
      have hne : other ≠ entry := fun h => hline (h ▸ hsection)
      simp only [step, hcase, hsection]
      split
      · split
        · exact ⟨Reading.elsewhere_within hother hne 0, fun _ _ => rfl⟩
        · exact ⟨fun _ _ h => absurd h (by simp), fun _ _ => rfl⟩
      · exact ⟨hreading, fun _ _ => rfl⟩

/-- Lines without a header of a section leave its places, when it is not being read. -/
theorem Extraction.run_elsewhere (hmap : Separate map) {s : Extraction} {entry : StatPair}
    (hentry : entry ∈ map) (hreading : s.reading.Elsewhere map entry) (lines : List (List UInt8))
    (hlines : ∀ line ∈ lines, sectionOf map line ≠ some entry) {p : Nat}
    (hp : p < entry.parameters.length) :
    (run (step map strtoull malloc) s lines).list (entry.slot p) = s.list (entry.slot p) := by
  induction lines generalizing s with
  | nil => rfl
  | cons line lines ih =>
    obtain ⟨hline, hrest⟩ := List.forall_mem_cons.mp hlines
    obtain ⟨hnext, hslot⟩ := @step_elsewhere map strtoull malloc hmap s entry hentry hreading line hline
    rw [run_cons, ih hnext hrest, hslot p hp]

end

end Yoshino.PowerHal
