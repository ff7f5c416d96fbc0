import Mathlib
import Yoshino.Customization.ModemImages
import Yoshino.Library.FirstMax

/-!
# The SIM combination that is selected

`getMappingMatch` is meant to select, among the combinations that accept the SIM, the first with the
most criteria. Its loop adds one for a criterion that matches and takes one away for a criterion that
does not, so a combination that meets as many of its criteria as it violates still has a positive
count, and is selected unless one that accepts the SIM outscores it.
-/

namespace Yoshino.Customization

open Yoshino.Library

/-- The runtime with a given meaning of the regular expressions, none of which is malformed. -/
def JavaText.withRegex (j : JavaText) (regex : String → String → Bool) : JavaText :=
  { j with regexMatches := fun pattern s => some (regex pattern s) }

/-- For each of the criteria a combination has, whether the SIM meets it. -/
def criteria (j : JavaText) (sim : SimInfo) (combo : SimCombination) : List Bool :=
  (combo.serviceProvider.map fun pattern => matchOnSP j pattern sim.sp == some true).toList ++
    (combo.imsi.map fun pattern => matchOnImsi j pattern sim.imsi == some true).toList ++
    (combo.gid1.map fun pattern => matchOnGid1 j pattern sim.gid1).toList

/-- The combination accepts the SIM. -/
def accepts (j : JavaText) (sim : SimInfo) (combo : SimCombination) : Bool :=
  sameNetwork sim combo && (criteria j sim combo).all id

/-- The loop of `getMappingMatch`, keeping the combination instead of its id. -/
def bestEntry (j : JavaText) (sim : SimInfo) :
    List SimCombination → Option SimCombination → Int → Option (Option SimCombination)
  | [], best, _ => some best
  | combo :: rest, best, numberOfMatches =>
    match matchCount j sim combo with
    | none => none
    | some count =>
      if numberOfMatches < count then bestEntry j sim rest (some combo) count
      else bestEntry j sim rest best numberOfMatches

/-- The id that is returned is that of the combination. -/
theorem bestMatch_eq_map (j : JavaText) (sim : SimInfo) (combos : List SimCombination)
    (best : Option SimCombination) (numberOfMatches : Int) :
    bestMatch j sim combos (best.map SimCombination.simConfigId) numberOfMatches =
      (bestEntry j sim combos best numberOfMatches).map (Option.map SimCombination.simConfigId) := by
  induction combos generalizing best numberOfMatches with
  | nil => rfl
  | cons combo rest ih =>
    simp only [bestMatch, bestEntry]
    cases matchCount j sim combo with
    | none => rfl
    | some count =>
      dsimp only
      split
      · exact ih (some combo) count
      · exact ih best numberOfMatches

/-- The count of a combination when every regular expression has a meaning. -/
def score (j : JavaText) (sim : SimInfo) (combo : SimCombination) : Int :=
  if sameNetwork sim combo then
    1 + (criteria j sim combo).count true - (criteria j sim combo).count false
  else 0

/-- A field counts by whether its criterion is met. -/
theorem fieldScore_eq (field : Option String) {test : String → Option Bool}
    {met : String → Bool} (h : ∀ pattern, test pattern = some (met pattern)) :
    fieldScore field test =
      some ((field.map met).toList.count true - (field.map met).toList.count false : Int) := by
  cases field with
  | none => rfl
  | some pattern => cases hmet : met pattern <;> simp [fieldScore, h, hmet]

/-- The loop counts criteria met against criteria violated. -/
theorem matchCount_withRegex (j : JavaText) (regex : String → String → Bool) (sim : SimInfo)
    (combo : SimCombination) :
    matchCount (j.withRegex regex) sim combo = some (score (j.withRegex regex) sim combo) := by
  have hdefined (answer : Option Bool) (h : answer.isSome) : answer = some (answer == some true) := by
    obtain ⟨matched, rfl⟩ := Option.isSome_iff_exists.mp h
    cases matched <;> rfl
  have himsi (pattern : String) := hdefined (matchOnImsi (j.withRegex regex) pattern sim.imsi) (by
    unfold matchOnImsi
    split <;> rfl)
  have hsp (pattern : String) := hdefined (matchOnSP (j.withRegex regex) pattern sim.sp) (by
    unfold matchOnSP
    split
    · rfl
    · split <;> rfl)
  unfold matchCount score
  split
  · rw [fieldScore_eq _ hsp, fieldScore_eq _ himsi, fieldScore_eq _ fun _ => rfl]
    simp only [criteria, List.count_append, Nat.cast_add, Option.bind_eq_bind, Option.bind_some,
      Option.pure_def, Option.some.injEq]
    omega
  · rfl

/-- A loop that replaces its best element by every greater one finds the first greatest. -/
theorem bestEntry_eq {j : JavaText} {sim : SimInfo} {f : SimCombination → Int}
    (hcount : ∀ combo, matchCount j sim combo = some (f combo)) (combos : List SimCombination)
    (best : Option SimCombination) (numberOfMatches : Int) :
    bestEntry j sim combos best numberOfMatches = some (match combos.argmax f with
      | none => best
      | some combo => if numberOfMatches < f combo then some combo else best) := by
  induction combos generalizing best numberOfMatches with
  | nil => rfl
  | cons head tail ih =>
    simp only [bestEntry, hcount, ih, List.argmax_cons]
    cases htail : tail.argmax f with
    | none => split <;> simp_all
    | some c =>
      by_cases hc : f head < f c
      · by_cases hn : numberOfMatches < f head
        · simp [hc, hn, hn.trans hc]
        · simp [hc, hn]
      · by_cases hn : numberOfMatches < f head
        · simp [hc, hn]
        · have hle : ¬ numberOfMatches < f c := by omega
          simp [hc, hn, hle]

/-- A combination that accepts the SIM scores one for the network and one for each criterion. -/
theorem score_of_accepts {j : JavaText} {sim : SimInfo} {combo : SimCombination}
    (h : accepts j sim combo = true) : score j sim combo = 1 + (criteria j sim combo).length := by
  obtain ⟨hnetwork, hall⟩ := Bool.and_eq_true_iff.mp h
  have hall : ∀ met ∈ criteria j sim combo, met = true := by simpa using hall
  have htrue : (criteria j sim combo).count true = (criteria j sim combo).length :=
    List.count_eq_length.mpr fun met hmet => (hall met hmet).symm
  have hfalse : (criteria j sim combo).count false = 0 :=
    List.count_eq_zero.mpr fun hmem => absurd (hall false hmem) nofun
  rw [score, if_pos hnetwork, htrue, hfalse]
  omega

section

variable {j : JavaText} {sim : SimInfo}
variable (hcount : ∀ combo, matchCount j sim combo = some (score j sim combo))

include hcount

/-- The combination whose id is returned is the first with the greatest score, if that is positive. -/
theorem bestEntry_eq_some_iff (combos : List SimCombination) (combo : SimCombination) :
    bestEntry j sim combos none 0 = some (some combo) ↔
      combos.argmax (score j sim) = some combo ∧ 0 < score j sim combo := by
  rw [bestEntry_eq hcount]
  cases combos.argmax (score j sim) with
  | none => simp
  | some first =>
    dsimp only
    split
    next hpositive =>
      constructor
      · intro h
        cases h
        exact ⟨rfl, hpositive⟩
      · rintro ⟨h, -⟩
        exact congrArg some h
    next hzero =>
      refine iff_of_false nofun ?_
      rintro ⟨h, hpositive⟩
      cases h
      exact hzero hpositive

/-- No combination is selected only when none accepts the SIM. -/
theorem accepts_of_bestEntry_eq_none {combos : List SimCombination}
    (h : bestEntry j sim combos none 0 = some none) : combos.filter (accepts j sim) = [] := by
  rw [List.filter_eq_nil_iff]
  intro combo hcombo haccepts
  cases hfirst : combos.argmax (score j sim) with
  | none => exact absurd hcombo (by simp [List.argmax_eq_none.mp hfirst])
  | some first =>
    have hle : score j sim combo ≤ score j sim first := List.le_of_mem_argmax hcombo hfirst
    rw [score_of_accepts haccepts] at hle
    have hselected := (bestEntry_eq_some_iff hcount combos first).mpr ⟨hfirst, by omega⟩
    exact absurd (h.symm.trans hselected) nofun

/-- When the combination selected accepts the SIM, it is the first with the most criteria among
those that do. -/
theorem bestEntry_of_accepts {combos : List SimCombination}
    (h : ∀ combo, bestEntry j sim combos none 0 = some (some combo) → accepts j sim combo = true) :
    bestEntry j sim combos none 0 = some ((combos.filter (accepts j sim)).argmax
      fun combo => (criteria j sim combo).length) := by
  have hcriteria : (combos.filter (accepts j sim)).argmax (fun combo => (criteria j sim combo).length) =
      (combos.filter (accepts j sim)).argmax (score j sim) := by
    refine argmax_congr fun x hx y hy => ?_
    rw [score_of_accepts (List.of_mem_filter hx), score_of_accepts (List.of_mem_filter hy)]
    omega
  rw [hcriteria]
  obtain ⟨selected, hselected⟩ : ∃ selected, bestEntry j sim combos none 0 = some selected :=
    ⟨_, bestEntry_eq hcount combos none 0⟩
  cases selected with
  | none =>
    rw [accepts_of_bestEntry_eq_none hcount hselected]
    exact hselected
  | some combo =>
    obtain ⟨hfirst, -⟩ := (bestEntry_eq_some_iff hcount combos combo).mp hselected
    rw [argmax_filter hfirst (h combo hselected), hselected]

/-- The combination selected accepts the SIM exactly when every one that does not and still has a
positive score is outscored. -/
theorem bestEntry_accepts_iff (combos : List SimCombination) :
    (∀ combo, bestEntry j sim combos none 0 = some (some combo) → accepts j sim combo = true) ↔
      ∀ before v after, combos = before ++ v :: after → 0 < score j sim v → accepts j sim v = false →
        (∃ a ∈ before, accepts j sim a = true ∧ score j sim v ≤ score j sim a) ∨
          ∃ a ∈ after, accepts j sim a = true ∧ score j sim v < score j sim a := by
  have hsatisfies := argmax_satisfies_iff (score j sim) combos
    fun combo => 0 < score j sim combo → accepts j sim combo = true
  simp only [bestEntry_eq_some_iff hcount, and_imp]
  refine hsatisfies.trans ?_
  refine forall₄_congr fun before v after _ => ?_
  constructor
  · intro h hpositive hviolates
    rcases h (by simp [hpositive, hviolates]) with ⟨a, ha, haccepts, hle⟩ | ⟨a, ha, haccepts, hlt⟩
    · exact .inl ⟨a, ha, haccepts (by omega), hle⟩
    · exact .inr ⟨a, ha, haccepts (by omega), hlt⟩
  · intro h hviolates
    obtain ⟨hpositive, hviolates⟩ := Classical.not_imp.mp hviolates
    rcases h hpositive (by simpa using hviolates) with ⟨a, ha, haccepts, hle⟩ | ⟨a, ha, haccepts, hlt⟩
    · exact .inl ⟨a, ha, fun _ => haccepts, hle⟩
    · exact .inr ⟨a, ha, fun _ => haccepts, hlt⟩

end

/-- A positive score without acceptance, in terms of the criteria, and what outscores it. -/
theorem outscored_iff (j : JavaText) (sim : SimInfo) (before after : List SimCombination)
    (v : SimCombination) :
    (0 < score j sim v → accepts j sim v = false →
      (∃ a ∈ before, accepts j sim a = true ∧ score j sim v ≤ score j sim a) ∨
        ∃ a ∈ after, accepts j sim a = true ∧ score j sim v < score j sim a) ↔
    (sameNetwork sim v = true → false ∈ criteria j sim v →
      (criteria j sim v).count false ≤ (criteria j sim v).count true →
      (∃ a ∈ before, accepts j sim a = true ∧
        (criteria j sim v).count true ≤ (criteria j sim v).count false + (criteria j sim a).length) ∨
      ∃ a ∈ after, accepts j sim a = true ∧
        (criteria j sim v).count true < (criteria j sim v).count false + (criteria j sim a).length) := by
  cases hnetwork : sameNetwork sim v with
  | false => simp [score, hnetwork]
  | true =>
    have hscore : score j sim v =
        1 + (criteria j sim v).count true - (criteria j sim v).count false := if_pos hnetwork
    have hviolates : accepts j sim v = false ↔ false ∈ criteria j sim v := by
      simp [accepts, hnetwork]
    have hpositive : 0 < score j sim v ↔
        (criteria j sim v).count false ≤ (criteria j sim v).count true := by omega
    have hle (a : SimCombination) : accepts j sim a = true ∧ score j sim v ≤ score j sim a ↔
        accepts j sim a = true ∧ (criteria j sim v).count true ≤
          (criteria j sim v).count false + (criteria j sim a).length :=
      and_congr_right fun ha => by
        rw [score_of_accepts ha]
        omega
    have hlt (a : SimCombination) : accepts j sim a = true ∧ score j sim v < score j sim a ↔
        accepts j sim a = true ∧ (criteria j sim v).count true <
          (criteria j sim v).count false + (criteria j sim a).length :=
      and_congr_right fun ha => by
        rw [score_of_accepts ha]
        omega
    simp only [hpositive, hviolates, hle, hlt, true_imp_iff]
    exact forall_comm

/-- `getMappingMatch` returns the id of the first combination with the most criteria among those that
accept the SIM, and selects none with a violated criterion, exactly when every combination of the
network that violates some criteria but no more than it meets is outscored by one that accepts the
SIM. -/
theorem getMappingMatch_best_iff (java : JavaText) (regex : String → String → Bool) (sim : SimInfo)
    (combos : List SimCombination) :
    let j := java.withRegex regex
    (getMappingMatch j combos sim = some (((combos.filter (accepts j sim)).argmax
        fun combo => (criteria j sim combo).length).map SimCombination.simConfigId) ∧
      ∀ combo, bestEntry j sim combos none 0 = some (some combo) → accepts j sim combo = true) ↔
      ∀ before v after, combos = before ++ v :: after → sameNetwork sim v = true →
        false ∈ criteria j sim v → (criteria j sim v).count false ≤ (criteria j sim v).count true →
        (∃ a ∈ before, accepts j sim a = true ∧
          (criteria j sim v).count true ≤ (criteria j sim v).count false + (criteria j sim a).length) ∨
        ∃ a ∈ after, accepts j sim a = true ∧
          (criteria j sim v).count true < (criteria j sim v).count false + (criteria j sim a).length := by
  intro j
  have hcount : ∀ combo, matchCount j sim combo = some (score j sim combo) :=
    matchCount_withRegex java regex sim
  rw [and_iff_right_of_imp, bestEntry_accepts_iff hcount]
  · exact forall₄_congr fun before v after _ => outscored_iff j sim before after v
  · intro h
    have hmap := bestMatch_eq_map j sim combos none 0
    rw [bestEntry_of_accepts hcount h] at hmap
    exact hmap

/-- A combination for one operator name and one IMSI is selected for every SIM with that name. -/
theorem getMappingMatch_violating_imsi :
    let j := JavaText.ascii.withRegex fun pattern s => pattern == s
    let combo : SimCombination :=
      { simConfigId := "S8753.2", mcc := some "214", mnc := some "03", serviceProvider := some "simyo",
        imsi := some "2140358" }
    let sim : SimInfo :=
      { mcc := some "214", mnc := some "03", sp := some "simyo", imsi := some "2140359", gid1 := some "" }
    accepts j sim combo = false ∧ getMappingMatch j [combo] sim = some (some "S8753.2") := by
  decide +kernel

end Yoshino.Customization
