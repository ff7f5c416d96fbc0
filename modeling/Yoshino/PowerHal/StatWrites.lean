import Mathlib.Data.Finset.Card
import Mathlib.Data.Finset.Range
import Mathlib.Data.List.Nodup
import Yoshino.PowerHal.StatSections

/-!
# What is stored for the sections of a statistics file

Reading a section from its header on stores the numbers of its parameter lines. When only the last
section with a parameter line misses some, all sections are stored, each in its own places.
-/

namespace Yoshino.PowerHal

open Yoshino.Library

/-- Different numbers below a bound are all of them exactly when there are as many. -/
theorem length_eq_iff_of_nodup {l : List Nat} (hnodup : l.Nodup) {n : Nat} (hlt : ∀ p ∈ l, p < n) :
    l.length = n ↔ ∀ p < n, p ∈ l := by
  have hsubset : l.toFinset ⊆ Finset.range n := fun p hp =>
    Finset.mem_range.mpr (hlt p (List.mem_toFinset.mp hp))
  have hcard : l.toFinset.card = l.length := List.toFinset_card_of_nodup hnodup
  constructor
  · intro hlength p hp
    have heq := Finset.eq_of_subset_of_card_le hsubset (by rw [hcard, hlength, Finset.card_range])
    exact List.mem_toFinset.mp (heq ▸ Finset.mem_range.mpr hp)
  · intro hall
    have heq : l.toFinset = Finset.range n := hsubset.antisymm fun p hp =>
      List.mem_toFinset.mpr (hall p (Finset.mem_range.mp hp))
    rw [← hcard, heq, Finset.card_range]

/-- Different numbers below a bound are no more than it. -/
theorem length_le_of_nodup {l : List Nat} (hnodup : l.Nodup) {n : Nat} (hlt : ∀ p ∈ l, p < n) :
    l.length ≤ n := by
  rw [← List.toFinset_card_of_nodup hnodup, ← Finset.card_range n]
  exact Finset.card_le_card fun p hp => Finset.mem_range.mpr (hlt p (List.mem_toFinset.mp hp))

/-- The parameters with lines are parameters. -/
theorem StatSection.present_lt (sec : StatSection) : ∀ p ∈ sec.present, p < sec.entry.parameters.length :=
  fun _ hp => by
    obtain ⟨line, -, hline⟩ := List.mem_filterMap.mp hp
    exact parameterOf_lt hline

/-- A section is complete when it has as many parameter lines as parameters. -/
theorem StatSection.complete_iff {sec : StatSection} (hnodup : sec.present.Nodup) :
    sec.Complete ↔ sec.present.length = sec.entry.parameters.length := by
  rw [length_eq_iff_of_nodup hnodup sec.present_lt]
  refine forall₂_congr fun p hp => ?_
  rw [StatSection.present, List.mem_filterMap]

/-- After a complete section the loop over the headers reads on. -/
theorem StatSection.Complete.within_eq {sec : StatSection} (h : sec.Complete)
    (hnodup : sec.present.Nodup) : Reading.within sec.entry sec.present.length = .headers := by
  rw [Reading.within, if_neg (by rw [(complete_iff hnodup).mp h]; omega)]

/-- After an incomplete section the loop over its parameters does. -/
theorem StatSection.within_of_incomplete {sec : StatSection} (h : ¬ sec.Complete)
    (hnodup : sec.present.Nodup) :
    Reading.within sec.entry sec.present.length = .parameters sec.entry sec.present.length := by
  have hmissing : sec.present.length < sec.entry.parameters.length :=
    lt_of_le_of_ne (length_le_of_nodup hnodup sec.present_lt) (mt (complete_iff hnodup).mpr h)
  rw [Reading.within, if_pos hmissing]

/-- What is stored for a section. -/
def StatSection.writes (strtoull : List UInt8 → UInt64) (sec : StatSection) : List (Nat × UInt64) :=
  bodyWrites strtoull sec.entry sec.body

/-- A number is stored for each parameter line. -/
theorem StatSection.mem_writes {strtoull : List UInt8 → UInt64} {sec : StatSection} {w : Nat × UInt64} :
    w ∈ sec.writes strtoull ↔ ∃ line ∈ sec.body, ∃ p, parameterOf sec.entry.parameters line = some p ∧
      (sec.entry.slot p, strtoull (valueText line)) = w := by
  simp only [writes, bodyWrites, List.mem_filterMap, Option.map_eq_some_iff]

/-- The places of a section, in the order of its lines. -/
theorem StatSection.writes_slots (strtoull : List UInt8 → UInt64) (sec : StatSection) :
    (sec.writes strtoull).map Prod.fst = sec.present.map sec.entry.slot := by
  simp only [writes, bodyWrites, present, List.map_filterMap, Option.map_map]
  rfl

/-- Nothing is stored in the places of another section. -/
theorem StatSection.slot_not_mem_writes {map : List StatPair} (hmap : Separate map)
    (strtoull : List UInt8 → UInt64) {sec other : StatSection} (hsec : sec.entry ∈ map)
    (hother : other.entry ∈ map) (hne : sec.entry ≠ other.entry) {p : Nat}
    (hp : p < other.entry.parameters.length) :
    other.entry.slot p ∉ (sec.writes strtoull).map Prod.fst := by
  rw [writes_slots, List.mem_map]
  rintro ⟨q, hq, heq⟩
  exact hne (hmap.slot _ hsec _ hother q (sec.present_lt q hq) p hp heq).1

/-- The section of a header is one of the table. -/
theorem StatSection.WellFormed.entry_mem {map : List StatPair} {sec : StatSection}
    (hsec : sec.WellFormed map) : sec.entry ∈ map :=
  List.mem_of_find?_eq_some hsec.header

/-- A section without parameter lines has no line that is a parameter line of any section. -/
theorem StatSection.WellFormed.no_parameter {map : List StatPair} (hmap : Separate map)
    {sec : StatSection} (hsec : sec.WellFormed map) (hnone : ¬ sec.HasParameter) {entry : StatPair}
    (hentry : entry ∈ map) : ∀ line ∈ sec.lines, parameterOf entry.parameters line = none := by
  intro line hline
  rcases List.mem_cons.mp hline with rfl | hbody
  · exact hmap.header _ _ hsec.header entry hentry
  · rcases (hsec.body line hbody).2 with hparam | hunknown
    · exact absurd ⟨line, hbody, hparam⟩ hnone
    · exact hunknown entry hentry

section

variable {map : List StatPair} {strtoull : List UInt8 → UInt64} {malloc : Nat → Bool}

/-- Reading a section from its header on stores its numbers; the loop over its parameters goes on
afterwards when there were too few. -/
theorem Extraction.run_section (hmalloc : ∀ n, malloc n = true) {s : Extraction}
    (hreading : s.reading = .headers) (hstats : s.statsRead < map.length) {sec : StatSection}
    (hsec : sec.WellFormed map) :
    run (step map strtoull malloc) s sec.lines =
      { s with
        list := applyWrites (sec.writes strtoull) s.list
        statsRead := s.statsRead + 1
        reading := .within sec.entry sec.present.length } := by
  have hcount : 0 + sec.present.length ≤ sec.entry.parameters.length := by
    rw [Nat.zero_add]
    exact length_le_of_nodup hsec.once sec.present_lt
  rw [StatSection.lines, run_cons, step_of_header hmalloc hreading hstats hsec.header,
    run_body rfl sec.body (fun line hline => (hsec.body line hline).1) hcount, Nat.zero_add]
  rfl

/-- Sections of which only the last with a parameter line may miss some are stored as they are. -/
theorem Extraction.run_sections (hmap : Separate map) (hmalloc : ∀ n, malloc n = true) {s : Extraction}
    (hreading : s.reading = .headers) (sections : List StatSection)
    (hstats : s.statsRead + sections.length ≤ map.length)
    (hsections : ∀ sec ∈ sections, sec.WellFormed map)
    (hcomplete : sections.Pairwise fun a b => b.HasParameter → a.Complete) :
    (run (step map strtoull malloc) s (sections.flatMap StatSection.lines)).list =
      applyWrites (sections.flatMap (StatSection.writes strtoull)) s.list := by
  induction sections generalizing s with
  | nil => rfl
  | cons sec rest ih =>
    obtain ⟨hsec, hrest⟩ := List.forall_mem_cons.mp hsections
    obtain ⟨hhead, htail⟩ := List.pairwise_cons.mp hcomplete
    rw [List.length_cons] at hstats
    rw [List.flatMap_cons, run_append, run_section hmalloc hreading (by omega) hsec, List.flatMap_cons,
      applyWrites_append]
    by_cases hall : sec.Complete
    · rw [ih (hall.within_eq hsec.once) (by dsimp only; omega) hrest htail]
    · -- an incomplete section is followed by no parameter line
      have hnone : ∀ b ∈ rest, ¬ b.HasParameter := fun b hb hparam => hall (hhead b hb hparam)
      have hpassed : ∀ line ∈ rest.flatMap StatSection.lines,
          parameterOf sec.entry.parameters line = none := by
        intro line hline
        obtain ⟨b, hb, hline⟩ := List.mem_flatMap.mp hline
        exact (hrest b hb).no_parameter hmap (hnone b hb) hsec.entry_mem line hline
      have hwrites : rest.flatMap (StatSection.writes strtoull) = [] := by
        refine List.flatMap_eq_nil_iff.mpr fun b hb => List.eq_nil_iff_forall_not_mem.mpr fun w hw => ?_
        obtain ⟨line, hline, p, hp, -⟩ := StatSection.mem_writes.mp hw
        exact hnone b hb ⟨line, hline, p, hp⟩
      rw [run_of_no_parameter (StatSection.within_of_incomplete hall hsec.once) _ hpassed, hwrites,
        applyWrites_nil]

end

/-- No place of a file is stored to twice. -/
theorem nodup_writes {map : List StatPair} (hmap : Separate map) (strtoull : List UInt8 → UInt64)
    {sections : List StatSection} (hsections : ∀ sec ∈ sections, sec.WellFormed map)
    (hnodup : (sections.map (·.entry)).Nodup) :
    ((sections.flatMap (StatSection.writes strtoull)).map Prod.fst).Nodup := by
  rw [List.map_flatMap, List.nodup_flatMap]
  constructor
  · intro sec hsec
    rw [StatSection.writes_slots]
    exact (hsections sec hsec).once.map fun p q h => by simpa [StatPair.slot] using h
  · refine List.Pairwise.imp_of_mem ?_ (List.pairwise_map.mp hnodup)
    intro sec other hsec hother hne slot hslot hslot'
    dsimp only at hslot hslot'
    rw [StatSection.writes_slots, List.mem_map] at hslot'
    obtain ⟨p, hp, rfl⟩ := hslot'
    exact StatSection.slot_not_mem_writes hmap strtoull (hsections sec hsec).entry_mem
      (hsections other hother).entry_mem hne (other.present_lt p hp) hslot

/-- Storing the numbers of all sections attributes them. -/
theorem attributed_applyWrites {map : List StatPair} (hmap : Separate map)
    (strtoull : List UInt8 → UInt64) {sections : List StatSection}
    (hsections : ∀ sec ∈ sections, sec.WellFormed map) (hnodup : (sections.map (·.entry)).Nodup)
    (list : Nat → UInt64) :
    Attributed strtoull sections list
      (applyWrites (sections.flatMap (StatSection.writes strtoull)) list) where
  stored := by
    intro sec hsec line hline p hp
    refine applyWrites_of_mem (nodup_writes hmap strtoull hsections hnodup) ?_ list
    exact List.mem_flatMap.mpr ⟨sec, hsec, StatSection.mem_writes.mpr ⟨line, hline, p, hp, rfl⟩⟩
  unchanged := by
    intro slot hslot
    refine applyWrites_of_not_mem (fun hmem => ?_) list
    obtain ⟨w, hw, rfl⟩ := List.mem_map.mp hmem
    obtain ⟨sec, hsec, hwrite⟩ := List.mem_flatMap.mp hw
    obtain ⟨line, hline, p, hp, rfl⟩ := StatSection.mem_writes.mp hwrite
    exact hslot sec hsec line hline p hp rfl

end Yoshino.PowerHal
