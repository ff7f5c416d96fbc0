import Yoshino.PowerHal.StatWrites

/-!
# Which numbers reach their section

The numbers of a statistics file end up in their own section exactly when every section before the last
one with a parameter line has all of its parameter lines: the loop over the parameters of a section does
not look for headers, and reads on through the following sections while it misses a parameter.
-/

namespace Yoshino.PowerHal

open Yoshino.Library

section

variable {map : List StatPair} {strtoull : List UInt8 → UInt64} {malloc : Nat → Bool}

/-- The lines of sections hold the headers of these sections only. -/
theorem sectionOf_ne_of_not_mem {sections : List StatSection}
    (hsections : ∀ sec ∈ sections, sec.WellFormed map) {entry : StatPair}
    (hentry : entry ∉ sections.map (·.entry)) :
    ∀ line ∈ sections.flatMap StatSection.lines, sectionOf map line ≠ some entry := by
  intro line hline heq
  obtain ⟨sec, hsec, hline⟩ := List.mem_flatMap.mp hline
  rcases List.mem_cons.mp hline with rfl | hbody
  · have hsame := (hsections sec hsec).header.symm.trans heq
    exact hentry (List.mem_map.mpr ⟨sec, hsec, Option.some.inj hsame⟩)
  · rw [((hsections sec hsec).body line hbody).1] at heq
    exact absurd heq (by simp)

/-- While the loop over the parameters of a section goes on, the next section with a parameter line is
not stored. -/
theorem exists_eaten_within (hmap : Separate map) {entry : StatPair} (hentry : entry ∈ map)
    (sections : List StatSection) (hsections : ∀ sec ∈ sections, sec.WellFormed map)
    (hnodup : (entry :: sections.map (·.entry)).Nodup) (hparam : ∃ sec ∈ sections, sec.HasParameter) :
    ∃ sec ∈ sections, sec.HasParameter ∧ ∀ (s : Extraction) n, s.reading = .parameters entry n →
      ∀ p < sec.entry.parameters.length,
        (run (Extraction.step map strtoull malloc) s (sections.flatMap StatSection.lines)).list
          (sec.entry.slot p) = s.list (sec.entry.slot p) := by
  induction sections with
  | nil => exact absurd hparam (by simp)
  | cons sec rest ih =>
    obtain ⟨hsec, hrest⟩ := List.forall_mem_cons.mp hsections
    obtain ⟨hfresh, hentries⟩ := List.nodup_cons.mp hnodup
    obtain ⟨hne, hfreshRest⟩ := not_or.mp (mt List.mem_cons.mpr hfresh)
    obtain ⟨hsecFresh, hrestNodup⟩ := List.nodup_cons.mp hentries
    by_cases hhas : sec.HasParameter
    · refine ⟨sec, List.mem_cons_self .., hhas, fun s n hreading p hp => ?_⟩
      have hheader : s.step map strtoull malloc sec.header = s :=
        Extraction.step_of_no_parameter hreading (hmap.header _ _ hsec.header entry hentry)
      rw [List.flatMap_cons, StatSection.lines, List.cons_append, run_cons, hheader]
      refine Extraction.run_elsewhere hmap hsec.entry_mem ?_ _ (fun line hline => ?_) hp
      · intro other m h
        rw [hreading] at h
        cases h
        exact ⟨hentry, hne⟩
      · rcases List.mem_append.mp hline with hbody | hlater
        · rw [(hsec.body line hbody).1]
          simp
        · exact sectionOf_ne_of_not_mem hrest hsecFresh line hlater
    · obtain ⟨later, hlater, hhasLater⟩ := hparam
      have hlaterRest : later ∈ rest := (List.mem_cons.mp hlater).resolve_left fun h => hhas (h ▸ hhasLater)
      obtain ⟨eaten, heaten, hhasEaten, hkept⟩ := ih hrest
        (List.nodup_cons.mpr ⟨hfreshRest, hrestNodup⟩) ⟨later, hlaterRest, hhasLater⟩
      refine ⟨eaten, List.mem_cons_of_mem _ heaten, hhasEaten, fun s n hreading p hp => ?_⟩
      rw [List.flatMap_cons, run_append, Extraction.run_of_no_parameter hreading _
        (hsec.no_parameter hmap hhas hentry)]
      exact hkept s n hreading p hp

/-- A section leaves the places of another one alone, and so do the lines after it when they do. -/
theorem Extraction.kept_after_section (hmap : Separate map) (hmalloc : ∀ n, malloc n = true)
    {sec other : StatSection} (hsec : sec.WellFormed map) (hother : other.WellFormed map)
    (hne : sec.entry ≠ other.entry) {s : Extraction} (hreading : s.reading = .headers)
    (hstats : s.statsRead < map.length) {later : List (List UInt8)} {p : Nat}
    (hp : p < other.entry.parameters.length)
    (hkept : ∀ t : Extraction, t.reading = .within sec.entry sec.present.length →
      t.statsRead = s.statsRead + 1 →
      (run (step map strtoull malloc) t later).list (other.entry.slot p) = t.list (other.entry.slot p)) :
    (run (step map strtoull malloc) s (sec.lines ++ later)).list (other.entry.slot p) =
      s.list (other.entry.slot p) := by
  rw [run_append, run_section hmalloc hreading hstats hsec, hkept _ rfl rfl]
  exact applyWrites_of_not_mem
    (StatSection.slot_not_mem_writes hmap strtoull hsec.entry_mem hother.entry_mem hne hp) _

/-- When a section before one with a parameter line is incomplete, some section with a parameter line is
not stored. -/
theorem exists_eaten (hmap : Separate map) (hmalloc : ∀ n, malloc n = true)
    (sections : List StatSection) (hsections : ∀ sec ∈ sections, sec.WellFormed map)
    (hnodup : (sections.map (·.entry)).Nodup)
    (hincomplete : ¬ sections.Pairwise fun a b => b.HasParameter → a.Complete) :
    ∃ sec ∈ sections, sec.HasParameter ∧ ∀ s : Extraction, s.reading = .headers →
      s.statsRead + sections.length ≤ map.length → ∀ p < sec.entry.parameters.length,
        (run (Extraction.step map strtoull malloc) s (sections.flatMap StatSection.lines)).list
          (sec.entry.slot p) = s.list (sec.entry.slot p) := by
  induction sections with
  | nil => exact absurd List.Pairwise.nil hincomplete
  | cons sec rest ih =>
    obtain ⟨hsec, hrest⟩ := List.forall_mem_cons.mp hsections
    obtain ⟨hfresh, hrestNodup⟩ := List.nodup_cons.mp hnodup
    have hne {other : StatSection} (hother : other ∈ rest) : sec.entry ≠ other.entry := fun h =>
      hfresh (List.mem_map.mpr ⟨other, hother, h.symm⟩)
    by_cases hall : sec.Complete
    · have hrestIncomplete : ¬ rest.Pairwise fun a b => b.HasParameter → a.Complete := fun h =>
        hincomplete (List.pairwise_cons.mpr ⟨fun _ _ _ => hall, h⟩)
      obtain ⟨eaten, heaten, hhas, hkept⟩ := ih hrest hrestNodup hrestIncomplete
      refine ⟨eaten, List.mem_cons_of_mem _ heaten, hhas, fun s hreading hstats p hp => ?_⟩
      rw [List.length_cons] at hstats
      refine Extraction.kept_after_section hmap hmalloc hsec (hrest eaten heaten) (hne heaten) hreading
        (by omega) hp fun t htreading htstats => ?_
      rw [hall.within_eq hsec.once] at htreading
      exact hkept t htreading (by omega) p hp
    · have hparam : ∃ b ∈ rest, b.HasParameter := by
        by_contra hnone
        have hrestNone : ∀ b ∈ rest, ¬ b.HasParameter := fun b hb hhas => hnone ⟨b, hb, hhas⟩
        refine hincomplete (List.pairwise_cons.mpr ⟨fun b hb hhas => absurd hhas (hrestNone b hb), ?_⟩)
        exact List.pairwise_of_forall_mem_list fun _ _ b hb hhas => absurd hhas (hrestNone b hb)
      obtain ⟨eaten, heaten, hhas, hkept⟩ :=
        @exists_eaten_within map strtoull malloc hmap _ hsec.entry_mem rest hrest hnodup hparam
      refine ⟨eaten, List.mem_cons_of_mem _ heaten, hhas, fun s hreading hstats p hp => ?_⟩
      rw [List.length_cons] at hstats
      refine Extraction.kept_after_section hmap hmalloc hsec (hrest eaten heaten) (hne heaten) hreading
        (by omega) hp fun t htreading _ => ?_
      rw [StatSection.within_of_incomplete hall hsec.once] at htreading
      exact hkept t _ htreading p hp

end

/-- A file has no more sections than the table. -/
theorem StatsFile.length_le {map : List StatPair} (file : StatsFile map) :
    file.sections.length ≤ map.length := by
  have hsubset : file.sections.map (·.entry) ⊆ map := by
    intro entry hentry
    obtain ⟨sec, hsec, rfl⟩ := List.mem_map.mp hentry
    exact (file.wellFormed sec hsec).entry_mem
  rw [← List.length_map (·.entry)]
  exact (List.subperm_of_subset file.nodup hsubset).length_le

/-- Reading a file is reading its sections. -/
theorem extractStats_list {map : List StatPair} (strtoull : List UInt8 → UInt64) {malloc : Nat → Bool}
    (hmalloc : ∀ n, malloc n = true) (file : StatsFile map) (list : Nat → UInt64) :
    (extractStats map strtoull malloc (.ok file.lines) list).1 =
      (run (Extraction.step map strtoull malloc) ⟨list, 0, .headers, 0⟩
        (file.sections.flatMap StatSection.lines)).list := by
  rw [extractStats, if_pos (hmalloc 0), StatsFile.lines, run_append,
    Extraction.run_of_no_header rfl _ file.before_unknown]

/-- The numbers of every file are attributed to their own section, whatever the list held before, exactly
when each section that precedes a parameter line of another has a line for each of its parameters. -/
theorem extractStats_attributed_iff {map : List StatPair}
    (hmap : map = rpmStatMap ∨ map = wlanStatMap) (strtoull : List UInt8 → UInt64)
    {malloc : Nat → Bool} (hmalloc : ∀ n, malloc n = true) (file : StatsFile map) :
    (∀ list, Attributed strtoull file.sections list
      (extractStats map strtoull malloc (.ok file.lines) list).1) ↔
    file.sections.Pairwise fun a b => b.HasParameter → a.Complete := by
  have hseparate : Separate map := by
    rcases hmap with rfl | rfl
    · exact separate_rpmStatMap
    · exact separate_wlanStatMap
  have hstats : 0 + file.sections.length ≤ map.length := by
    rw [Nat.zero_add]
    exact file.length_le
  simp only [extractStats_list strtoull hmalloc file]
  constructor
  · intro hattributed
    by_contra hincomplete
    obtain ⟨eaten, heaten, ⟨line, hline, p, hp⟩, hkept⟩ := @exists_eaten map strtoull malloc hseparate
      hmalloc file.sections file.wellFormed file.nodup hincomplete
    -- a list that does not hold the number of the line yet
    let other : UInt64 := if strtoull (valueText line) = 0 then 1 else 0
    have hstored := (hattributed fun _ => other).stored eaten heaten line hline p hp
    rw [hkept _ rfl hstats p (parameterOf_lt hp)] at hstored
    dsimp only [other] at hstored
    split at hstored
    next hzero => exact absurd (hstored.trans hzero) (by decide)
    next hnonzero => exact hnonzero hstored.symm
  · intro hcomplete list
    rw [Extraction.run_sections hseparate hmalloc rfl file.sections hstats file.wellFormed hcomplete]
    exact attributed_applyWrites hseparate strtoull file.wellFormed file.nodup list

/-- A section that misses a parameter. -/
def vlowSection : StatSection where
  entry := ⟨.rpmModeXo, statText "RPM Mode:vlow", rpmStatParams⟩
  header := statText "RPM Mode:vlow"
  body := [statText " count:5"]

/-- A complete section. -/
def vminSection : StatSection where
  entry := ⟨.rpmModeVmin, statText "RPM Mode:vmin", rpmStatParams⟩
  header := statText "RPM Mode:vmin"
  body := [statText " count:7", statText " actual last sleep(msec):9"]

theorem vlowSection_wellFormed : vlowSection.WellFormed rpmStatMap where
  header := by decide +kernel
  body := List.forall_mem_singleton.mpr ⟨by decide +kernel, .inl ⟨0, by decide +kernel⟩⟩
  once := by decide +kernel

theorem vminSection_wellFormed : vminSection.WellFormed rpmStatMap where
  header := by decide +kernel
  body := List.forall_mem_cons.mpr ⟨⟨by decide +kernel, .inl ⟨0, by decide +kernel⟩⟩,
    List.forall_mem_singleton.mpr ⟨by decide +kernel, .inl ⟨1, by decide +kernel⟩⟩⟩
  once := by decide +kernel

/-- The incomplete section after the complete one. -/
def vminFirst : StatsFile rpmStatMap where
  before := []
  sections := [vminSection, vlowSection]
  before_unknown := by simp
  wellFormed := by simp [vlowSection_wellFormed, vminSection_wellFormed]
  nodup := by decide +kernel

/-- The incomplete section before the complete one. -/
def vlowFirst : StatsFile rpmStatMap where
  before := []
  sections := [vlowSection, vminSection]
  before_unknown := by simp
  wellFormed := by simp [vlowSection_wellFormed, vminSection_wellFormed]
  nodup := by decide +kernel

/-- A decimal number, for texts that are one. -/
def decimal (text : List UInt8) : UInt64 :=
  text.foldl (fun n c => n * 10 + (c - 48).toUInt64) 0

/-- A parameter may be missing in the last section. -/
theorem extractStats_attributed_vminFirst :
    Attributed decimal vminFirst.sections (fun _ => 0)
      (extractStats rpmStatMap decimal (fun _ => true) (.ok vminFirst.lines) fun _ => 0).1 := by
  have hcomplete : vminSection.Complete := by
    intro p hp
    match p, hp with
    | 0, _ => exact ⟨statText " count:7", by decide +kernel, by decide +kernel⟩
    | 1, _ => exact ⟨statText " actual last sleep(msec):9", by decide +kernel, by decide +kernel⟩
  exact (extractStats_attributed_iff (.inl rfl) decimal (fun _ => rfl) vminFirst).mpr
    (List.pairwise_pair.mpr fun _ => hcomplete) fun _ => 0

/-- A parameter missing in an earlier section takes the number of the next one, which is lost. -/
theorem extractStats_vlowFirst :
    let list := (extractStats rpmStatMap decimal (fun _ => true) (.ok vlowFirst.lines) fun _ => 0).1
    list (vlowSection.entry.slot 0) = 7 ∧ list (vminSection.entry.slot 0) = 0 ∧
      list (vminSection.entry.slot 1) = 0 ∧ ¬ Attributed decimal vlowFirst.sections (fun _ => 0) list := by
  intro list
  have hvlow : list (vlowSection.entry.slot 0) = 7 := by decide +kernel
  refine ⟨hvlow, by decide +kernel, by decide +kernel, fun h => ?_⟩
  have hstored := h.stored vlowSection (List.mem_cons_self ..) (statText " count:5")
    (List.mem_cons_self ..) 0 (by decide +kernel)
  exact absurd (hvlow.symm.trans hstored) (by decide +kernel)

end Yoshino.PowerHal
