import Yoshino.Customization.ModemImages

/-!
# Reading the SIM combinations

A `service_providers` document is a sequence of elements, each with attributes and text children. An
element with a usable id becomes a SIM combination, whose fields are the last non-empty texts of its
children. The parser keeps the newest combination as the current one and does not let go of it at an
element without a usable id, whose children therefore go to the combination before.
-/

namespace Yoshino.Customization

/-- The children of an element. -/
inductive SimField
  | mcc
  | mnc
  | sp
  | imsi
  | gid1
  | gid2
  deriving DecidableEq, Repr

/-- The name of the child. -/
def SimField.tag : SimField → String
  | .mcc => "mcc"
  | .mnc => "mnc"
  | .sp => "sp"
  | .imsi => "imsi"
  | .gid1 => "gid1"
  | .gid2 => "gid2"

/-- The field of a combination. -/
def SimField.get : SimField → SimCombination → Option String
  | .mcc, c => c.mcc
  | .mnc, c => c.mnc
  | .sp, c => c.serviceProvider
  | .imsi, c => c.imsi
  | .gid1, c => c.gid1
  | .gid2, c => c.gid2

/-- The setter of the field. -/
def SimField.set : SimField → SimCombination → String → SimCombination
  | .mcc, c, v => { c with mcc := some v }
  | .mnc, c, v => { c with mnc := some v }
  | .sp, c, v => { c with serviceProvider := some v }
  | .imsi, c, v => { c with imsi := some v }
  | .gid1, c, v => { c with gid1 := some v }
  | .gid2, c, v => { c with gid2 := some v }

/-- A child, after text that does not matter. -/
structure SimChild where
  gap : List String := []
  field : SimField
  text : Option String
  deriving DecidableEq, Repr

/-- An element, with text that does not matter before it and at its end. -/
structure SimElement where
  gap : List String := []
  attributes : List (String × String)
  children : List SimChild
  trailing : List String := []
  deriving DecidableEq, Repr

/-- The events of a child. -/
def SimChild.events (c : SimChild) : List XmlEvent :=
  c.gap.map .text ++ .startTag c.field.tag [] ::
    (c.text.toList.map .text ++ [.endTag c.field.tag])

/-- The events of an element. -/
def SimElement.events (e : SimElement) : List XmlEvent :=
  e.gap.map .text ++ .startTag "service_provider_sim_config" e.attributes ::
    (e.children.flatMap SimChild.events ++ e.trailing.map .text ++
      [.endTag "service_provider_sim_config"])

/-- The events of a document. -/
def simDocument (elements : List SimElement) : List XmlEvent :=
  .startTag "service_provider_sim_configs" [] ::
    (elements.flatMap SimElement.events ++ [.endTag "service_provider_sim_configs"])

/-- The trimmed id of an element. -/
def SimElement.id (e : SimElement) : String :=
  fix (getAttributeValue e.attributes "sim_config_id")

/-- The id can be used. -/
def SimElement.usable (e : SimElement) : Bool :=
  e.id != ""

/-- The last non-empty trimmed text of a field. -/
def lastText (field : SimField) (children : List SimChild) : Option String :=
  (((children.filter (·.field == field)).map fun c => fix c.text).filter (· != "")).getLast?

/-- The combination an element stands for. -/
def SimElement.combination (e : SimElement) : SimCombination where
  simConfigId := e.id
  mcc := lastText .mcc e.children
  mnc := lastText .mnc e.children
  serviceProvider := lastText .sp e.children
  imsi := lastText .imsi e.children
  gid1 := lastText .gid1 e.children
  gid2 := lastText .gid2 e.children

/-- The names the parser compares. -/
def simTags : List String :=
  ["mcc", "mnc", "sp", "imsi", "gid1", "gid2", "service_provider_sim_config"]

/-- `equalsIgnoreCase` does not confuse two of the names. -/
def JavaText.SeparatesTags (j : JavaText) : Prop :=
  ∀ s ∈ simTags, ∀ t ∈ simTags, j.equalsIgnoreCase s t = true → s = t

/-- Comparing two of the names is comparing them exactly. -/
theorem JavaText.SeparatesTags.equalsIgnoreCase {j : JavaText} (hj : j.SeparatesTags) {s t : String}
    (hs : s ∈ simTags) (ht : t ∈ simTags) : j.equalsIgnoreCase s t = (s == t) := by
  by_cases h : s = t
  · simp [h, JavaText.equalsIgnoreCase]
  · rw [beq_false_of_ne h]
    exact Bool.eq_false_iff.mpr fun heq => h (hj s hs t ht heq)

/-- The setter of the first name that matches is selected. -/
theorem simField_eq_find (j : JavaText) (tag : String) :
    simField j tag = ([.mcc, .mnc, .sp, .imsi, .gid1, .gid2].find?
      fun field : SimField => j.equalsIgnoreCase field.tag tag).map SimField.set := by
  unfold simField
  simp only [List.find?_cons, List.find?_nil, SimField.tag]
  split_ifs <;> simp only [*] <;> rfl

/-- The parser's names are compared exactly. -/
theorem simField_of_mem {j : JavaText} (hj : j.SeparatesTags) {tag : String} (htag : tag ∈ simTags) :
    simField j tag = ([.mcc, .mnc, .sp, .imsi, .gid1, .gid2].find?
      fun field : SimField => field.tag == tag).map SimField.set := by
  have hmem (field : SimField) : field.tag ∈ simTags := by cases field <;> decide
  have hfind : (fun field : SimField => j.equalsIgnoreCase field.tag tag) =
      fun field => field.tag == tag :=
    funext fun field => hj.equalsIgnoreCase (hmem field) htag
  rw [simField_eq_find, hfind]

/-- Set a field from a child, unless its text is empty. -/
def setChild (row : SimCombination) (c : SimChild) : SimCombination :=
  if fix c.text = "" then row else c.field.set row (fix c.text)

/-- Set the fields of the newest row. -/
def setChildren (rows : List SimCombination) (children : List SimChild) : List SimCombination :=
  match rows with
  | [] => []
  | row :: older => children.foldl setChild row :: older

/-- Setting fields twice is setting them in turn. -/
theorem setChildren_append (rows : List SimCombination) (children later : List SimChild) :
    setChildren rows (children ++ later) = setChildren (setChildren rows children) later := by
  cases rows with
  | nil => rfl
  | cons row older => simp only [setChildren, List.foldl_append]

/-- No child sets no field. -/
theorem setChildren_nil (rows : List SimCombination) : setChildren rows [] = rows := by
  cases rows <;> rfl

/-- Text between the tags is skipped. -/
theorem read_gap (j : JavaText) (gap : List String) (rest : List XmlEvent)
    (rows : List SimCombination) :
    readServiceProviders j (gap.map .text ++ rest) rows = readServiceProviders j rest rows := by
  induction gap with
  | nil => rfl
  | cons content gap ih => simpa [readServiceProviders] using ih

/-- A child sets its field of the newest row. -/
theorem read_child {j : JavaText} (hj : j.SeparatesTags) (c : SimChild) (rest : List XmlEvent)
    (rows : List SimCombination) :
    readServiceProviders j (c.events ++ rest) rows =
      readServiceProviders j rest (setChildren rows [c]) := by
  obtain ⟨gap, field, text⟩ := c
  have hfield : simField j field.tag = some field.set := by
    rw [simField_of_mem hj (by cases field <;> decide)]
    cases field <;> rfl
  have hopen : openCombination rows field.tag [] = rows := by
    cases field <;> rfl
  simp only [SimChild.events, List.append_assoc, read_gap, List.cons_append]
  rw [readServiceProviders, hopen, hfield]
  cases rows with
  | nil => cases text <;> simp [readServiceProviders, setChildren]
  | cons row older =>
    cases text with
    | none => simp [setChildren, setChild, fix, isEmpty]
    | some content =>
      have hset : setChildren (row :: older) [⟨gap, field, some content⟩] =
          setField (row :: older) field.set (fix (some content)) := by
        simp only [setChildren, List.foldl_cons, List.foldl_nil, setChild, setField]
        split <;> rfl
      rw [hset]
      rfl

/-- The children of an element set the fields of the newest row in turn. -/
theorem read_children {j : JavaText} (hj : j.SeparatesTags) (children : List SimChild)
    (rest : List XmlEvent) (rows : List SimCombination) :
    readServiceProviders j (children.flatMap SimChild.events ++ rest) rows =
      readServiceProviders j rest (setChildren rows children) := by
  induction children generalizing rows with
  | nil => rw [setChildren_nil, List.flatMap_nil, List.nil_append]
  | cons c children ih =>
    rw [List.flatMap_cons, List.append_assoc, read_child hj, ih, ← setChildren_append,
      List.singleton_append]

/-- The rows after an element. -/
def SimElement.read (rows : List SimCombination) (e : SimElement) : List SimCombination :=
  setChildren (if e.usable then { simConfigId := e.id } :: rows else rows) e.children

/-- An element opens a row if its id can be used, and its children go to the newest row. -/
theorem read_element {j : JavaText} (hj : j.SeparatesTags) (e : SimElement) (rest : List XmlEvent)
    (rows : List SimCombination) :
    readServiceProviders j (e.events ++ rest) rows = readServiceProviders j rest (e.read rows) := by
  have hfield : simField j "service_provider_sim_config" = none := by
    rw [simField_of_mem hj (by decide)]
    rfl
  have hopen : openCombination rows "service_provider_sim_config" e.attributes =
      if e.usable then { simConfigId := e.id } :: rows else rows := by
    simp only [openCombination, if_true, SimElement.usable, SimElement.id]
    split <;> simp_all
  simp only [SimElement.events, List.append_assoc, read_gap, List.cons_append]
  rw [readServiceProviders, hopen, hfield, SimElement.read]
  generalize (if e.usable then { simConfigId := e.id } :: rows else rows) = opened
  cases opened <;>
    simp only [read_children hj, read_gap, List.nil_append, readServiceProviders]

/-- The whole document. -/
theorem getServiceProviders_document {p : Platform} (hj : p.java.SeparatesTags)
    (elements : List SimElement) :
    getServiceProviders { p with serviceProviders := some (simDocument elements) } =
      (elements.foldl (fun rows e => e.read rows) []).reverse := by
  have hread (rest : List XmlEvent) (rows : List SimCombination) :
      readServiceProviders p.java (elements.flatMap SimElement.events ++ rest) rows =
        readServiceProviders p.java rest (elements.foldl (fun rows e => e.read rows) rows) := by
    induction elements generalizing rows with
    | nil => rfl
    | cons e elements ih =>
      rw [List.flatMap_cons, List.append_assoc, read_element hj, ih]
      rfl
  have hopen : openCombination [] "service_provider_sim_configs" [] = [] := rfl
  simp only [getServiceProviders, simDocument, readServiceProviders, hopen, hread]

/-- Setting a field does not touch the others. -/
theorem SimField.get_set (field other : SimField) (row : SimCombination) (value : String) :
    other.get (field.set row value) = if field = other then some value else other.get row := by
  cases field <;> cases other <;> rfl

/-- A combination is its id and its fields. -/
theorem SimCombination.ext_fields {a b : SimCombination} (hid : a.simConfigId = b.simConfigId)
    (hfields : ∀ field : SimField, field.get a = field.get b) : a = b := by
  have hmcc := hfields .mcc
  have hmnc := hfields .mnc
  have hsp := hfields .sp
  have himsi := hfields .imsi
  have hgid1 := hfields .gid1
  have hgid2 := hfields .gid2
  cases a
  cases b
  simp_all [SimField.get]

/-- Later texts count. -/
theorem lastText_append (field : SimField) (children later : List SimChild) :
    lastText field (children ++ later) = (lastText field later).or (lastText field children) := by
  simp [lastText, List.getLast?_append]

/-- The text of one child. -/
theorem lastText_singleton (field : SimField) (c : SimChild) :
    lastText field [c] = if c.field = field ∧ fix c.text ≠ "" then some (fix c.text) else none := by
  by_cases hfield : c.field = field <;> by_cases htext : fix c.text = "" <;>
    simp [lastText, hfield, htext]

/-- The id and the fields of a row after children: the last texts, or what was there. -/
theorem setChild_foldl (children : List SimChild) (row : SimCombination) :
    (children.foldl setChild row).simConfigId = row.simConfigId ∧
      ∀ field : SimField, field.get (children.foldl setChild row) =
        (lastText field children).or (field.get row) := by
  induction children generalizing row with
  | nil => exact ⟨rfl, fun _ => rfl⟩
  | cons c children ih =>
    obtain ⟨hid, hfields⟩ := ih (setChild row c)
    have hset : (setChild row c).simConfigId = row.simConfigId := by
      unfold setChild
      split
      · rfl
      · cases c.field <;> rfl
    have hget (field : SimField) :
        field.get (setChild row c) = (lastText field [c]).or (field.get row) := by
      rw [lastText_singleton]
      unfold setChild
      split
      next htext => simp [htext]
      next htext => rw [SimField.get_set]; by_cases h : c.field = field <;> simp [h, htext]
    refine ⟨hid.trans hset, fun field => ?_⟩
    rw [List.foldl_cons, hfields, hget, ← Option.or_assoc, ← lastText_append]
    rfl

/-- The combination of an element is the row its children build. -/
theorem combination_eq_foldl (e : SimElement) :
    e.combination = e.children.foldl setChild { simConfigId := e.id } := by
  obtain ⟨hid, hfields⟩ := setChild_foldl e.children { simConfigId := e.id }
  refine SimCombination.ext_fields hid.symm fun field => ?_
  rw [hfields]
  cases field <;> exact Option.or_none.symm

/-- The children that follow an element before the next one with a usable id. -/
def strayChildren (elements : List SimElement) : List SimChild :=
  (elements.takeWhile fun e => !e.usable).flatMap SimElement.children

/-- The elements with a usable id, each with the children that follow it. -/
def absorbed : List SimElement → List SimElement
  | [] => []
  | e :: rest =>
    if e.usable then { e with children := e.children ++ strayChildren rest } :: absorbed rest
    else absorbed rest

/-- An element with a usable id ends the children that follow the one before. -/
theorem strayChildren_cons (e : SimElement) (rest : List SimElement) :
    strayChildren (e :: rest) = if e.usable then [] else e.children ++ strayChildren rest := by
  by_cases husable : e.usable = true <;> simp [strayChildren, husable]

/-- The parser adds the elements with a usable id, each with the children that follow it, to the rows,
the newest of which goes on with the children before the first of them. -/
theorem foldl_read (elements : List SimElement) (rows : List SimCombination) :
    elements.foldl (fun rows e => e.read rows) rows =
      ((absorbed elements).map SimElement.combination).reverse ++
        setChildren rows (strayChildren elements) := by
  induction elements generalizing rows with
  | nil => exact (setChildren_nil rows).symm
  | cons e rest ih =>
    rw [List.foldl_cons, ih, strayChildren_cons, SimElement.read, ← setChildren_append]
    by_cases husable : e.usable = true
    · have habsorbed : absorbed (e :: rest) =
          { e with children := e.children ++ strayChildren rest } :: absorbed rest := if_pos husable
      rw [habsorbed, List.map_cons, List.reverse_cons, combination_eq_foldl, if_pos husable,
        if_pos husable, setChildren_nil, List.append_assoc, List.singleton_append]
      rfl
    · have habsorbed : absorbed (e :: rest) = absorbed rest := if_neg husable
      rw [habsorbed, if_neg husable, if_neg husable]

/-- The fields of the combination of an element. -/
theorem SimField.get_combination (field : SimField) (e : SimElement) :
    field.get e.combination = lastText field e.children := by
  cases field <;> rfl

/-- Children that follow leave an element's combination alone when each field's last text among them
is missing or the same. -/
theorem combination_absorbed_iff (e : SimElement) (later : List SimChild) :
    { e with children := e.children ++ later }.combination = e.combination ↔
      ∀ field, lastText field later = none ∨ lastText field later = lastText field e.children := by
  have hfield (field : SimField) : field.get { e with children := e.children ++ later }.combination =
      (lastText field later).or (lastText field e.children) := by
    rw [SimField.get_combination, lastText_append]
  constructor
  · intro h field
    have hsame := hfield field
    rw [h, SimField.get_combination] at hsame
    cases hlater : lastText field later with
    | none => exact .inl rfl
    | some text =>
      rw [hlater] at hsame
      exact .inr hsame.symm
  · intro h
    refine SimCombination.ext_fields rfl fun field => ?_
    rw [hfield, SimField.get_combination]
    rcases h field with hnone | hsame
    · rw [hnone, Option.none_or]
    · rw [hsame, Option.or_self]

/-- Every element with its rest, from the front. -/
private theorem forall_suffix_cons {A : Type*} (P : A → List A → Prop) (head : A) (tail : List A) :
    (∀ e rest, e :: rest <:+ head :: tail → P e rest) ↔
      P head tail ∧ ∀ e rest, e :: rest <:+ tail → P e rest := by
  simp only [List.suffix_cons_iff, List.cons.injEq]
  constructor
  · exact fun h => ⟨h head tail (.inl ⟨rfl, rfl⟩), fun e rest hsuffix => h e rest (.inr hsuffix)⟩
  · rintro ⟨hhead, htail⟩ e rest (⟨rfl, rfl⟩ | hsuffix)
    · exact hhead
    · exact htail e rest hsuffix

/-- The combinations are those of the elements' own children when no field is changed by the children
that follow. -/
theorem absorbed_combinations_iff (elements : List SimElement) :
    (absorbed elements).map SimElement.combination =
        (elements.filter SimElement.usable).map SimElement.combination ↔
      ∀ e rest, e :: rest <:+ elements → e.usable = true → ∀ field,
        lastText field (strayChildren rest) = none ∨
          lastText field (strayChildren rest) = lastText field e.children := by
  induction elements with
  | nil => simp [absorbed]
  | cons head tail ih =>
    rw [forall_suffix_cons, ← ih]
    by_cases husable : head.usable = true
    · simp only [absorbed, husable, if_true, List.filter_cons_of_pos, List.map_cons, List.cons.injEq,
        combination_absorbed_iff, true_imp_iff]
    · simp [absorbed, husable]

/-- The parser returns exactly one combination for each element with a usable id, in order and with
the last texts of the element's own children, exactly when no field of an element is changed by the
children of the elements without a usable id that follow it. -/
theorem getServiceProviders_exact_iff {p : Platform} (hj : p.java.SeparatesTags)
    (elements : List SimElement) :
    getServiceProviders { p with serviceProviders := some (simDocument elements) } =
        (elements.filter SimElement.usable).map SimElement.combination ↔
      ∀ e rest, e :: rest <:+ elements → e.usable = true → ∀ field,
        lastText field (strayChildren rest) = none ∨
          lastText field (strayChildren rest) = lastText field e.children := by
  rw [getServiceProviders_document hj, foldl_read, setChildren, List.append_nil,
    List.reverse_reverse, absorbed_combinations_iff]

/-- Of three elements the one without an id is passed over; its child repeats the country of the
element before it, which is read as it stands, as is the one after it. -/
theorem getServiceProviders_of_repeated :
    let first : SimElement :=
      { attributes := [("sim_config_id", "S6.1")]
        children := [⟨[], .mcc, some "208"⟩, ⟨[], .mnc, some " "⟩, ⟨[], .gid1, some "31"⟩] }
    let unnamed : SimElement := { attributes := [], children := [⟨[], .mcc, some "208"⟩] }
    let last : SimElement :=
      { attributes := [("sim_config_id", "S7.2")], children := [⟨[], .mcc, some "214"⟩] }
    Device.plainModem.platform.java.SeparatesTags ∧
      getServiceProviders { Device.plainModem.platform with
        serviceProviders := some (simDocument [first, unnamed, last]) } =
          [first.combination, last.combination] := by
  intro first unnamed last
  have hj : Device.plainModem.platform.java.SeparatesTags := by
    unfold JavaText.SeparatesTags
    decide +kernel
  refine ⟨hj, ((getServiceProviders_exact_iff hj [first, unnamed, last]).mpr ?_).trans
    (by decide +kernel)⟩
  iterate 3 rw [forall_suffix_cons]
  refine ⟨fun _ field => ?_, fun husable => absurd husable (by decide), fun _ _ => .inl rfl,
    fun e rest hsuffix => by simp at hsuffix⟩
  cases field <;> decide +kernel

/-- The children of an element without an id overwrite the combination before it. -/
theorem getServiceProviders_overwritten :
    let named : SimElement :=
      { attributes := [("sim_config_id", "S6.1")], children := [⟨[], .mcc, some "208"⟩] }
    let unnamed : SimElement := { attributes := [], children := [⟨[], .mcc, some "214"⟩] }
    named.combination.mcc = some "208" ∧ unnamed.usable = false ∧
      getServiceProviders { Device.plainModem.platform with
        serviceProviders := some (simDocument [named, unnamed]) } =
          [{ simConfigId := "S6.1", mcc := some "214" }] := by
  decide +kernel

end Yoshino.Customization
