import Yoshino.Customization.ModemSwitcher

/-!
# The names of modem images

A modem configuration is the path of an image, or the placeholder of a device without images. The
file name that is written for a path is the name the image has in the modem directory.
-/

namespace Yoshino.Customization

/-- The name of a path below the modem directory is the plain name it was built from. -/
theorem getName_modemFsPath_append (name : String) (hne : name ≠ "") (hplain : '/' ∉ name.toList) :
    getName (modemFsPath ++ name) = name := by
  have hdirectory : modemFsPath.toList = "/system/etc/customization/modem".toList ++ ['/'] := by
    decide +kernel
  have hpath : (modemFsPath ++ name).toList =
      "/system/etc/customization/modem".toList ++ '/' :: name.toList := by
    rw [String.toList_append, hdirectory, List.append_assoc, List.singleton_append]
  have hlist : name.toList ≠ [] := by
    intro h
    exact hne (String.toList_injective h)
  rw [getName, hpath, List.splitOn_append_cons_self, List.splitOn_eq_singleton hplain,
    List.filter_append]
  simp [hlist, List.getLastD_eq_getLast?]

/-- An image has a plain name. -/
theorem ModemDir.images_plain (dir : ModemDir) {name : String} (h : name ∈ dir.images) :
    name ≠ "" ∧ '/' ∉ name.toList := by
  unfold images at h
  split at h
  · have hmem := (List.mem_filter.mp (List.mem_insertionSort _ |>.mp h)).1
    cases hentries : dir.entries with
    | none => simp [hentries] at hmem
    | some names =>
      rw [hentries, Option.getD_some] at hmem
      exact dir.entry_plain names hentries name hmem
  · simp at h

/-- A configuration is the path of an image, or the placeholder when there is no image. -/
theorem ModemDir.mem_configurations (dir : ModemDir) {modem : String}
    (h : modem ∈ dir.configurations) :
    (dir.images = [] ∧ modem = singleModemFs) ∨
      ∃ name ∈ dir.images, modem = modemFsPath ++ name := by
  unfold configurations at h
  split at h
  next hnone => exact Or.inl ⟨hnone, List.mem_singleton.mp h⟩
  next =>
    obtain ⟨name, hname, rfl⟩ := List.mem_map.mp h
    exact Or.inr ⟨name, hname, rfl⟩

/-- The file name of an image's configuration is the image. -/
theorem ModemDir.getName_image (dir : ModemDir) {name : String} (h : name ∈ dir.images) :
    getName (modemFsPath ++ name) = name :=
  getName_modemFsPath_append name (dir.images_plain h).1 (dir.images_plain h).2

/-- A modem directory without links. -/
def ModemDir.ofNames (names : List String)
    (hplain : ∀ name ∈ names, name ≠ "" ∧ '/' ∉ name.toList) : ModemDir where
  isDirectory := true
  entries := some names
  canonicalName path := if '/' ∈ path.toList then none else some path
  fileExists path := names.contains path
  entry_plain := by
    intro names' h name hname
    obtain rfl := Option.some.inj h
    exact hplain name hname
  canonical_plain := by
    intro path name h
    split at h
    · simp at h
    next hpath => exact Option.some.inj h ▸ hpath

/-- The runtime on ASCII text; patterns match themselves only. -/
def JavaText.ascii : JavaText where
  foldCase := Char.toLower
  toLowerCase s := .ofList (s.toList.map Char.toLower)
  digit c := if '0' ≤ c ∧ c ≤ '9' then some (c.toNat - 48) else none
  regexMatches pattern s := some (pattern == s)

/-- A telephony service with one loaded SIM in slot 0, subscription 1. -/
def Telephony.single (iccid : String) : Telephony where
  available := true
  phoneCount := 1
  defaultDataSubscriptionId := 1
  isUsableSubIdValue subId := decide (0 ≤ subId)
  activeSubscriptions := some [1]
  sim _ := ⟨some "26201", some "", some "262010000000000", none, some iccid⟩
  slotIndex _ := 0
  simState _ := .ready
  subId _ := some 1
  signal _ := true
  invalidId_unusable := by decide

/-- A phone fresh from the factory, without carrier tables, that reports the named modem. -/
def Device.factory (dir : ModemDir) (current : String) (telephony : Telephony) : Device where
  platform := {
    java := .ascii
    modemDir := dir
    oemDirectory := false
    confFile := fun _ => none
    serviceProviders := none
    configurationSelectors := none
    buildFlavor := "lineage_maple-userdebug"
    directBoot := true }
  status := ⟨true, 32, some ("0," ++ current)⟩
  telephony := telephony
  versions := ⟨"", "", "", "", "", ""⟩
  csIms := none
  csReApplyModem := none
  userUnlocked := true
  simConfigIds := ""
  configKey := none
  savedConfig := none
  eventSubId := none
  initialModem := none
  units _ := []
  taOutcomes := []
  log := []

/-- A phone with one plain and one IMS image that runs the plain one. -/
def Device.plainModem : Device :=
  .factory (.ofNames ["a_tar.mbn", "ir51_ir92_ims_tar.mbn"] (by decide)) "a_tar.mbn" (.single "89")

end Yoshino.Customization
