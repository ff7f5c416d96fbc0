import Yoshino.Customization.ModemImages

/-!
# Reading the carrier configurations

A `configuration_selectors` document is a sequence of `configuration` elements with texts for SIM ids
and marks for any SIM. Both go into one map: the mark under the key `anysim`, an empty text under the
empty key. A SIM id is resolved as documented unless one of these two keys gets in the way.
-/

namespace Yoshino.Customization

/-- The children of a `configuration`. -/
inductive ConfigChild
  | simConfigId (text : Option String)
  | anySim
  deriving DecidableEq, Repr

/-- A `configuration`, with its children after text that does not matter, and such text before it and
at its end. -/
structure ConfigElement where
  gap : List String := []
  attributes : List (String × String)
  children : List (List String × ConfigChild)
  trailing : List String := []
  deriving DecidableEq, Repr

/-- The events of a child. -/
def ConfigChild.events : ConfigChild → List XmlEvent
  | .simConfigId text =>
    .startTag "sim_config_id" [] :: (text.toList.map .text ++ [.endTag "sim_config_id"])
  | .anySim => [.startTag "anysim" [], .endTag "anysim"]

/-- The events of an element. -/
def ConfigElement.events (e : ConfigElement) : List XmlEvent :=
  e.gap.map .text ++ .startTag "configuration" e.attributes ::
    (e.children.flatMap (fun c => c.1.map .text ++ c.2.events) ++ e.trailing.map .text ++
      [.endTag "configuration"])

/-- The events of a document. -/
def configDocument (elements : List ConfigElement) : List XmlEvent :=
  .startTag "configurations" [] ::
    (elements.flatMap ConfigElement.events ++ [.endTag "configurations"])

/-- The trimmed id of an element. -/
def ConfigElement.id (e : ConfigElement) : String :=
  fix (getAttributeValue e.attributes "config_id")

/-- The element has a text for the SIM id. -/
def ConfigElement.lists (simId : String) (e : ConfigElement) : Bool :=
  e.children.any fun
    | (_, .simConfigId text) => fix text == simId
    | (_, .anySim) => false

/-- The element has a mark for any SIM. -/
def ConfigElement.marksAny (e : ConfigElement) : Bool :=
  e.children.any (·.2 == .anySim)

/-- The id of the last element with an id that satisfies a test. -/
def lastConfigId (elements : List ConfigElement) (test : ConfigElement → Bool) : Option String :=
  ((elements.filter fun e => e.id != "" && test e).map ConfigElement.id).getLast?

/-- An id as the carrier configuration: none and the default are the empty one. -/
def JavaText.configIdOf (j : JavaText) : Option String → String
  | none => ""
  | some id => if j.equalsIgnoreCase "default" id then "" else id

/-- What a SIM id stands for: the last element that lists it if it is not empty and listed, otherwise
the last one for any SIM. -/
def documentedConfigId (j : JavaText) (elements : List ConfigElement) (simId : Option String) :
    String :=
  let own := simId.bind fun id => if id = "" then none else lastConfigId elements (·.lists id)
  j.configIdOf (own.or (lastConfigId elements ConfigElement.marksAny))

/-- The key a child is stored under. -/
def ConfigChild.key : ConfigChild → String
  | .simConfigId text => fix text
  | .anySim => "anysim"

/-- The element stores something under a key. -/
def ConfigElement.stores (key : String) (e : ConfigElement) : Bool :=
  e.children.any (·.2.key == key)

/-- The map after a child. -/
def putChild (configId : String) (configuration : ConfigMap) (c : ConfigChild) : ConfigMap :=
  if configId = "" then configuration else (c.key, configId) :: configuration

/-- The map after an element. -/
def ConfigElement.put (configuration : ConfigMap) (e : ConfigElement) : ConfigMap :=
  (e.children.map Prod.snd).foldl (putChild e.id) configuration

/-- Names of different lengths are different, whatever the case. -/
theorem equalsIgnoreCase_of_length_ne (j : JavaText) {s t : String}
    (h : s.toList.length ≠ t.toList.length) : j.equalsIgnoreCase s t = false := by
  unfold JavaText.equalsIgnoreCase
  refine beq_false_of_ne fun heq => h ?_
  simpa using congrArg List.length heq

/-- Text between the tags is skipped. -/
theorem readConfiguration_gap (j : JavaText) (gap : List String) (rest : List XmlEvent)
    (configId : String) (configuration : ConfigMap) :
    readConfiguration j (gap.map .text ++ rest) configId configuration =
      readConfiguration j rest configId configuration := by
  induction gap with
  | nil => rfl
  | cons content gap ih => simpa [readConfiguration] using ih

/-- A child is stored under its key. -/
theorem readConfiguration_child (j : JavaText) (c : ConfigChild) (rest : List XmlEvent)
    (configId : String) (configuration : ConfigMap) :
    readConfiguration j (c.events ++ rest) configId configuration =
      readConfiguration j rest configId (putChild configId configuration c) := by
  have hself (s : String) : j.equalsIgnoreCase s s = true := beq_self_eq_true _
  have hany : j.equalsIgnoreCase "anysim" "sim_config_id" = false :=
    equalsIgnoreCase_of_length_ne j (by decide)
  have hsim : j.equalsIgnoreCase "sim_config_id" "anysim" = false :=
    equalsIgnoreCase_of_length_ne j (by decide)
  cases c with
  | anySim =>
    simp only [ConfigChild.events, List.cons_append, List.nil_append, readConfiguration, hself, hsim]
    by_cases hid : configId = "" <;> simp [putChild, ConfigChild.key, hid]
  | simConfigId text =>
    cases text with
    | none =>
      simp [ConfigChild.events, readConfiguration, hself, hany, putChild, ConfigChild.key, fix,
        isEmpty]
    | some content =>
      simp [ConfigChild.events, readConfiguration, hself, hany, putChild, ConfigChild.key]

/-- The children of an element are stored in turn. -/
theorem readConfiguration_children (j : JavaText) (children : List (List String × ConfigChild))
    (rest : List XmlEvent) (configId : String) (configuration : ConfigMap) :
    readConfiguration j (children.flatMap (fun c => c.1.map .text ++ c.2.events) ++ rest) configId
        configuration =
      readConfiguration j rest configId
        ((children.map Prod.snd).foldl (putChild configId) configuration) := by
  induction children generalizing configuration with
  | nil => rfl
  | cons c children ih =>
    rw [List.flatMap_cons, List.append_assoc, List.append_assoc, readConfiguration_gap,
      readConfiguration_child, ih]
    rfl

/-- A tag that is none of the children's at most sets the id. -/
theorem readConfiguration_startTag {j : JavaText} {tag : String}
    (hsim : j.equalsIgnoreCase "sim_config_id" tag = false)
    (hany : j.equalsIgnoreCase "anysim" tag = false) (attributes : List (String × String))
    (rest : List XmlEvent) (configId : String) (configuration : ConfigMap) :
    readConfiguration j (.startTag tag attributes :: rest) configId configuration =
      readConfiguration j rest
        (if tag = "configuration" then fix (getAttributeValue attributes "config_id") else configId)
        configuration := by
  rw [readConfiguration.eq_def]
  dsimp only
  rw [hsim, if_neg Bool.false_ne_true, hany, Bool.false_and, if_neg Bool.false_ne_true]

/-- An element gives the id its children are stored with. -/
theorem readConfiguration_element {j : JavaText}
    (hj : j.equalsIgnoreCase "sim_config_id" "configuration" = false) (e : ConfigElement)
    (rest : List XmlEvent) (configId : String) (configuration : ConfigMap) :
    readConfiguration j (e.events ++ rest) configId configuration =
      readConfiguration j rest e.id (e.put configuration) := by
  have hany : j.equalsIgnoreCase "anysim" "configuration" = false :=
    equalsIgnoreCase_of_length_ne j (by decide)
  simp only [ConfigElement.events, List.append_assoc, readConfiguration_gap, List.cons_append]
  rw [readConfiguration_startTag hj hany, if_pos rfl, readConfiguration_children,
    readConfiguration_gap]
  rfl

/-- The elements of a document are stored in turn. -/
theorem readConfiguration_elements {j : JavaText}
    (hj : j.equalsIgnoreCase "sim_config_id" "configuration" = false) (elements : List ConfigElement)
    (rest : List XmlEvent) (configId : String) (configuration : ConfigMap) :
    ∃ lastId, readConfiguration j (elements.flatMap ConfigElement.events ++ rest) configId
        configuration =
      readConfiguration j rest lastId (elements.foldl ConfigElement.put configuration) := by
  induction elements generalizing configId configuration with
  | nil => exact ⟨configId, rfl⟩
  | cons e elements ih =>
    rw [List.flatMap_cons, List.append_assoc, readConfiguration_element hj, List.foldl_cons]
    exact ih e.id (e.put configuration)

/-- The whole document. -/
theorem getConfiguration_document {p : Platform} {elements : List ConfigElement}
    (hdocument : p.configurationSelectors = some (configDocument elements))
    (hj : p.java.equalsIgnoreCase "sim_config_id" "configuration" = false) :
    getConfiguration p = elements.foldl ConfigElement.put [] := by
  have hsim : p.java.equalsIgnoreCase "sim_config_id" "configurations" = false :=
    equalsIgnoreCase_of_length_ne _ (by decide)
  have hany : p.java.equalsIgnoreCase "anysim" "configurations" = false :=
    equalsIgnoreCase_of_length_ne _ (by decide)
  obtain ⟨lastId, hread⟩ :=
    readConfiguration_elements hj elements [.endTag "configurations"] "" []
  unfold getConfiguration
  rw [hdocument]
  dsimp only
  rw [configDocument, readConfiguration_startTag hsim hany]
  exact hread

/-- What an element leaves under a key. -/
theorem ConfigElement.lookup_put (e : ConfigElement) (configuration : ConfigMap) (key : String) :
    (e.put configuration).lookup key =
      if e.id != "" && e.stores key then some e.id else configuration.lookup key := by
  unfold ConfigElement.put ConfigElement.stores
  by_cases hid : e.id = ""
  · have hskip (children : List ConfigChild) :
        children.foldl (putChild e.id) configuration = configuration := by
      induction children with
      | nil => rfl
      | cons c children ih => rw [List.foldl_cons, putChild, if_pos hid, ih]
    rw [hskip, if_neg (by simp [hid])]
  · have hput (children : List ConfigChild) (configuration : ConfigMap) :
        (children.foldl (putChild e.id) configuration).lookup key =
          if children.any (·.key == key) then some e.id else configuration.lookup key := by
      induction children generalizing configuration with
      | nil => rfl
      | cons c children ih =>
        rw [List.foldl_cons, ih, putChild, if_neg hid, List.lookup_cons, List.any_cons]
        by_cases hkey : c.key = key
        · simp [hkey]
        · have hbeq : (key == c.key) = false := beq_false_of_ne (Ne.symm hkey)
          simp [hkey, hbeq]
    have hbne : (e.id != "") = true := bne_iff_ne.mpr hid
    rw [hput, List.any_map, hbne, Bool.true_and]
    rfl

/-- Later elements count. -/
theorem lastConfigId_cons (e : ConfigElement) (elements : List ConfigElement)
    (test : ConfigElement → Bool) : lastConfigId (e :: elements) test =
      (lastConfigId elements test).or (if e.id != "" && test e then some e.id else none) := by
  unfold lastConfigId
  rw [← List.singleton_append, List.filter_append, List.map_append, List.getLast?_append]
  by_cases htest : (e.id != "" && test e) = true
  · simp [htest]
  · simp [htest]

/-- The map gives the id of the last element that stores a key. -/
theorem lookup_foldl_put (elements : List ConfigElement) (configuration : ConfigMap) (key : String) :
    (elements.foldl ConfigElement.put configuration).lookup key =
      (lastConfigId elements (·.stores key)).or (configuration.lookup key) := by
  induction elements generalizing configuration with
  | nil => rfl
  | cons e elements ih =>
    rw [List.foldl_cons, ih, e.lookup_put, lastConfigId_cons, Option.or_assoc]
    congr 1
    by_cases hstores : (e.id != "" && e.stores key) = true
    · simp [hstores]
    · simp [hstores]

/-- The id that is found is not empty. -/
theorem isEmpty_lastConfigId (elements : List ConfigElement) (test : ConfigElement → Bool) :
    isEmpty (lastConfigId elements test) = (lastConfigId elements test).isNone := by
  cases hlast : lastConfigId elements test with
  | none => rfl
  | some id =>
    have hmem := List.mem_of_getLast? hlast
    obtain ⟨e, he, rfl⟩ := List.mem_map.mp hmem
    have hid := (Bool.and_eq_true_iff.mp (List.mem_filter.mp he).2).1
    exact beq_false_of_ne (bne_iff_ne.mp hid)

/-- Under a key stand the texts for that SIM id, and under `anysim` also the marks. -/
theorem ConfigElement.stores_eq (key : String) (e : ConfigElement) :
    e.stores key = (e.lists key || (key == "anysim" && e.marksAny)) := by
  unfold ConfigElement.stores ConfigElement.lists ConfigElement.marksAny
  induction e.children with
  | nil => simp
  | cons c children ih =>
    rw [List.any_cons, List.any_cons, List.any_cons, ih]
    obtain ⟨gap, text | _⟩ := c
    · have hkind : (ConfigChild.simConfigId text == ConfigChild.anySim) = false := rfl
      simp only [ConfigChild.key, hkind, Bool.false_or, Bool.or_assoc]
    · by_cases hkey : key = "anysim"
      · simp [ConfigChild.key, hkey]
      · simp only [ConfigChild.key, beq_false_of_ne hkey, beq_false_of_ne (Ne.symm hkey),
          Bool.false_or, Bool.false_and]

/-- The configuration for any SIM that the map gives. -/
def lastAnySim (elements : List ConfigElement) : Option String :=
  lastConfigId elements fun e => e.lists "anysim" || e.marksAny

theorem lastConfigId_stores_anysim (elements : List ConfigElement) :
    lastConfigId elements (·.stores "anysim") = lastAnySim elements := by
  simp only [lastAnySim, ConfigElement.stores_eq, BEq.rfl, Bool.true_and]

theorem lastConfigId_stores {key : String} (hkey : key ≠ "anysim") (elements : List ConfigElement) :
    lastConfigId elements (·.stores key) = lastConfigId elements (·.lists key) := by
  simp only [ConfigElement.stores_eq, beq_false_of_ne hkey, Bool.false_and, Bool.or_false]

/-- The carrier configuration of a SIM id in terms of the elements. -/
theorem carrierConfigId_document {p : Platform} {elements : List ConfigElement}
    (hdocument : p.configurationSelectors = some (configDocument elements))
    (hj : p.java.equalsIgnoreCase "sim_config_id" "configuration" = false) (simId : Option String) :
    carrierConfigId p simId = p.java.configIdOf
      ((simId.bind fun id => lastConfigId elements (·.stores id)).or (lastAnySim elements)) := by
  have hlookup (key : String) :
      (getConfiguration p).lookup key = lastConfigId elements (·.stores key) := by
    rw [getConfiguration_document hdocument hj, lookup_foldl_put]
    exact Option.or_none
  have hown : isEmpty (simId.bind fun id => lastConfigId elements (·.stores id)) =
      (simId.bind fun id => lastConfigId elements (·.stores id)).isNone := by
    cases simId with
    | none => rfl
    | some id => exact isEmpty_lastConfigId elements _
  unfold carrierConfigId
  simp only [hlookup, lastConfigId_stores_anysim, hown]
  cases (simId.bind fun id => lastConfigId elements (·.stores id)) with
  | none => rfl
  | some own => rfl

/-- The keys that get in the way lead to the same configuration: text `anysim` in the place of the
last mark, a mark in the place of the last text `anysim`, an empty text in the place of a mark. -/
def Undisturbed (j : JavaText) (elements : List ConfigElement) (simId : Option String) : Prop :=
  let marked := lastConfigId elements ConfigElement.marksAny
  match simId.bind fun id => (lastConfigId elements (·.lists id)).map fun own => (id, own) with
  | none => j.configIdOf (lastAnySim elements) = j.configIdOf marked
  | some (id, own) =>
    (id = "anysim" → j.configIdOf (lastAnySim elements) = j.configIdOf (some own)) ∧
      (id = "" → j.configIdOf (some own) = j.configIdOf marked)

instance (j : JavaText) (elements : List ConfigElement) (simId : Option String) :
    Decidable (Undisturbed j elements simId) := by
  unfold Undisturbed
  dsimp only
  split <;> infer_instance

/-- A SIM id is resolved as documented exactly when the two keys do not get in the way. -/
theorem carrierConfigId_documented_iff {p : Platform} {elements : List ConfigElement}
    (hdocument : p.configurationSelectors = some (configDocument elements))
    (hj : p.java.equalsIgnoreCase "sim_config_id" "configuration" = false) (simId : Option String) :
    carrierConfigId p simId = documentedConfigId p.java elements simId ↔
      Undisturbed p.java elements simId := by
  rw [carrierConfigId_document hdocument hj]
  unfold documentedConfigId Undisturbed
  dsimp only
  cases simId with
  | none => rfl
  | some id =>
    rw [Option.bind_some, Option.bind_some, Option.bind_some]
    by_cases hreserved : id = "anysim"
    · subst hreserved
      rw [lastConfigId_stores_anysim, Option.or_self, if_neg (by decide)]
      cases lastConfigId elements (·.lists "anysim") with
      | none => rfl
      | some own => simp
    · rw [lastConfigId_stores hreserved]
      cases lastConfigId elements (·.lists id) with
      | none => simp
      | some own =>
        by_cases hempty : id = ""
        · simp [hempty]
        · simp [hempty, hreserved]

/-- For every document and every SIM id the bundle has the configuration of the last element that
lists the id if it is not empty and listed, otherwise of the last element for any SIM, exactly when
the keys for empty texts and for any SIM do not get in the way. -/
theorem getCarrierBundle_configId_iff {d : Device} {elements : List ConfigElement} {bundle : Bundle}
    (hdocument : d.platform.configurationSelectors = some (configDocument elements))
    (hj : d.platform.java.equalsIgnoreCase "sim_config_id" "configuration" = false)
    (hbundle : getCarrierBundle d = some bundle) :
    bundle.configId = documentedConfigId d.platform.java elements bundle.simId ↔
      Undisturbed d.platform.java elements bundle.simId := by
  obtain ⟨simId, -, rfl⟩ := Option.map_eq_some_iff.mp hbundle
  exact carrierConfigId_documented_iff hdocument hj simId

/-- A phone with the carrier configurations of a document, without a SIM. -/
def Device.withSelectors (elements : List ConfigElement) : Device :=
  { Device.plainModem with
    platform := { Device.plainModem.platform with
      configurationSelectors := some (configDocument elements) }
    telephony := { Telephony.single "" with
      defaultDataSubscriptionId := -1, activeSubscriptions := none } }

/-- The SIM is listed by two of four configurations and the last of them is taken; without a SIM the
last one for any SIM is. -/
theorem getCarrierBundle_of_listed :
    let elements : List ConfigElement :=
      [⟨[], [("config_id", "A")], [([], .anySim), ([], .simConfigId (some "S1"))], []⟩,
        ⟨[], [("config_id", "B")], [([], .simConfigId (some "S0")), ([], .simConfigId (some "S1"))], []⟩,
        ⟨[], [], [([], .simConfigId (some "S1"))], []⟩,
        ⟨[], [("config_id", "C")], [([], .anySim)], []⟩]
    let providers : List XmlEvent :=
      [.startTag "service_provider_sim_config" [("sim_config_id", "S1")],
        .startTag "mcc" [], .text "262", .endTag "mcc",
        .startTag "mnc" [], .text "01", .endTag "mnc", .endTag "service_provider_sim_config"]
    let empty := Device.withSelectors elements
    let inserted := { empty with
      telephony := .single "89"
      platform := { empty.platform with serviceProviders := some providers } }
    (∃ bundle, getCarrierBundle inserted = some bundle ∧ bundle.simId = some "S1" ∧
        bundle.configId = "B") ∧
      ∃ bundle, getCarrierBundle empty = some bundle ∧ bundle.configId = "C" := by
  intro elements providers empty inserted
  have hsim : (getCarrierBundle inserted).map Bundle.simId = some (some "S1") := by decide +kernel
  have hnone : (getCarrierBundle empty).map Bundle.simId = some (some "") := by decide +kernel
  obtain ⟨listed, hlisted, hsimId⟩ := Option.map_eq_some_iff.mp hsim
  obtain ⟨unlisted, hunlisted, hblank⟩ := Option.map_eq_some_iff.mp hnone
  have hlast := getCarrierBundle_configId_iff rfl (by decide) hlisted
  have hany := getCarrierBundle_configId_iff rfl (by decide) hunlisted
  rw [hsimId] at hlast
  rw [hblank] at hany
  exact ⟨⟨listed, hlisted, hsimId, (hlast.mpr (by decide +kernel)).trans (by decide +kernel)⟩,
    unlisted, hunlisted, (hany.mpr (by decide +kernel)).trans (by decide +kernel)⟩

/-- Without a SIM an empty text is taken for the SIM id, instead of the mark for any SIM. -/
theorem getCarrierBundle_of_blank_text :
    let elements : List ConfigElement := [⟨[], [("config_id", "A")], [([], .anySim)], []⟩,
      ⟨[], [("config_id", "B")], [([], .simConfigId (some " "))], []⟩]
    let d := Device.withSelectors elements
    (getCarrierBundle d).map (fun bundle => (bundle.simId, bundle.configId)) = some (some "", "B") ∧
      documentedConfigId d.platform.java elements (some "") = "A" := by
  decide +kernel

end Yoshino.Customization
