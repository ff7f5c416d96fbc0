import Yoshino.Customization.ImsOff
import Yoshino.Customization.ModemLists

/-!
# Only real images are asked for

Without images `getAvailableModemConfigurations` answers with a placeholder, and
`getCurrentModemConfig` answers with the same placeholder when the `default` link is missing.
`getModemConfigurationNeeded` and the modem activity look out for it. `reApplyModem` does not, and
`set` takes the placeholder from the list when the current modem is some other value. A listed image is
not looked at before it is asked for, so the link of an image that is gone is asked for as well. All
other commands name a file of the modem directory.
-/

namespace Yoshino.Customization

open Yoshino.Library

/-- A name that denotes an entry of a directory, and not the directory, its parent or a path. -/
def isPlainName (name : String) : Bool :=
  name != "" && name != "." && name != ".." && !name.toList.contains '/'

/-- The modem directory holds a file of this name. -/
def ModemDir.holds (dir : ModemDir) (name : String) : Bool :=
  isPlainName name && dir.fileExists name

/-- A `set` with a changed key is reached only when there are images, or when the current modem is
unreadable or the placeholder. -/
def System.setsImage (s : System) (e : Event) : Bool :=
  (s.setting e).isNone || !anythingChangedSinceLastEvaluation s.device ||
    !s.device.platform.modemDir.images.isEmpty ||
    (getCurrentModemConfig s.device).all (s.device.platform.java.equalsIgnoreCase singleModemFs)

/-- `reApplyModem` is reached only when it is switched off, or when the status file names no modem,
or one whose link target is not the missing `default` and, if it exists, is an entry of the
directory. -/
def System.reAppliesImage (s : System) (e : Event) : Bool :=
  !s.reApplies e || !reApplyEnabled s.device ||
    (readModemAndStatus s.device).all fun status =>
      !status.success ||
        (let target := lookupSymlinkTarget s.device.platform.modemDir status.currentModem
        if s.device.platform.modemDir.fileExists target then target == "default" || isPlainName target
        else target != "default")

/-- A listed image is asked for only when every listed image exists. -/
def System.listsFiles (s : System) (e : Event) : Bool :=
  !s.asksForImage e || s.device.platform.modemDir.images.all s.device.platform.modemDir.fileExists

/-- A path below the modem directory is not the placeholder. -/
theorem modemFsPath_append_ne_single (name : String) : modemFsPath ++ name ≠ singleModemFs := by
  intro h
  have hhead := congrArg (fun s : String => s.toList.head?) h
  have hpath : modemFsPath.toList.head? = some '/' := by decide +kernel
  have hsingle : singleModemFs.toList.head? = some 's' := by decide +kernel
  simp only [String.toList_append, List.head?_append, hpath, hsingle] at hhead
  simp at hhead

/-- The directory holds its images, unless they are links to nowhere. -/
theorem ModemDir.holds_image (dir : ModemDir) (hfiles : dir.images.all dir.fileExists = true)
    {name : String} (h : name ∈ dir.images) : dir.holds name = true := by
  obtain ⟨hne, hplain⟩ := dir.images_plain h
  have hexists : dir.fileExists name = true := List.all_eq_true.mp hfiles name h
  have hsuffix : endsWith name "_tar.mbn" = true := by
    unfold images at h
    split at h
    · have haccept := (List.mem_filter.mp (List.mem_insertionSort _ |>.mp h)).2
      simp only [accept, Bool.and_eq_true] at haccept
      exact haccept.2
    · simp at h
  have hdot : name ≠ "." := by
    rintro rfl
    exact absurd hsuffix (by decide +kernel)
  have hdots : name ≠ ".." := by
    rintro rfl
    exact absurd hsuffix (by decide +kernel)
  simp [holds, isPlainName, hexists, hne, hdot, hdots, hplain]

/-- An available configuration below the modem directory names a file of it. -/
theorem ModemDir.holds_configuration (dir : ModemDir) (hfiles : dir.images.all dir.fileExists = true)
    {name : String} (h : modemFsPath ++ name ∈ dir.configurations) :
    dir.holds (getName (modemFsPath ++ name)) = true := by
  rcases dir.mem_configurations h with ⟨-, hsingle⟩ | ⟨image, himage, heq⟩
  · exact absurd hsingle (modemFsPath_append_ne_single name)
  · rw [heq, dir.getName_image himage]
    exact dir.holds_image hfiles himage

/-- The current modem that `reApplyModem` writes names a file of the directory. -/
theorem holds_current {s : System} {e : Event} {modem : String} (hreApplies : s.reApplies e = true)
    (henabled : reApplyEnabled s.device = true)
    (hcurrent : getCurrentModemConfig s.device = some modem) (hne : modem ≠ "")
    (hguard : s.reAppliesImage e = true) :
    s.device.platform.modemDir.holds (getName modem) = true := by
  unfold getCurrentModemConfig at hcurrent
  cases hstatus : readModemAndStatus s.device with
  | none => simp [hstatus] at hcurrent
  | some status =>
    cases hsuccess : status.success with
    | false => simp [hstatus, hsuccess] at hcurrent
    | true =>
      simp only [System.reAppliesImage, hreApplies, henabled, hstatus, hsuccess, Option.all_some,
        Bool.not_true, Bool.false_or] at hguard
      simp only [hstatus, hsuccess, Bool.not_true, Bool.false_eq_true, if_false] at hcurrent
      generalize lookupSymlinkTarget s.device.platform.modemDir status.currentModem = target
        at hguard hcurrent
      cases hexists : s.device.platform.modemDir.fileExists target with
      | true =>
        by_cases hdefault : target = "default"
        · subst hdefault
          simp [hexists] at hcurrent
        · simp only [hexists, hdefault, if_true, if_false, Option.some.injEq] at hcurrent
          have hplain : isPlainName target = true := by
            simpa [hexists, hdefault] using hguard
          have hparts : target ≠ "" ∧ '/' ∉ target.toList := by
            simp only [isPlainName, Bool.and_eq_true, bne_iff_ne, ne_eq, Bool.not_eq_true',
              List.contains_eq_mem, decide_eq_false_iff_not] at hplain
            exact ⟨hplain.1.1.1, hplain.2⟩
          rw [← hcurrent, getName_modemFsPath_append target hparts.1 hparts.2]
          simp [ModemDir.holds, hplain, hexists]
      | false =>
        have hdefault : target ≠ "default" := by
          simpa [hexists] using hguard
        simp only [hexists, hdefault, Bool.false_eq_true, if_false, Option.some.injEq] at hcurrent
        exact absurd hcurrent.symm hne

/-- A step that reaches `set` and `reApplyModem` only for images, and asks for a listed image only when
these exist, commands a file of the directory. -/
theorem System.requests_image {s : System} (hsound : s.Sound) (hcaches : s.CachesFresh) {e : Event}
    {modem : String} (hset : s.setsImage e = true) (hreApply : s.reAppliesImage e = true)
    (hlists : s.listsFiles e = true) (h : s.Requests e modem) :
    s.device.platform.modemDir.holds (getName modem) = true := by
  have hfiles (hasks : s.asksForImage e = true) :
      s.device.platform.modemDir.images.all s.device.platform.modemDir.fileExists = true := by
    simpa only [listsFiles, hasks, Bool.not_true, Bool.false_or] using hlists
  cases h with
  | reApply hcall henabled hcurrent hne =>
    exact holds_current (by simp [reApplies, hcall]) henabled hcurrent hne hreApply
  | set op hasks hsetting hchanged hmodem hne havailable hcurrent =>
    rcases ModemDir.mem_configurations _ havailable with ⟨hnone, -⟩ | ⟨image, himage, heq⟩
    · -- without images the evaluation answers "" unless the current modem is some other value
      rcases (hsound op (setting_mem_operations hsetting)).modem with
        hempty | ⟨bundle, hbundle, hfound⟩
      · exact absurd (hmodem.symm.trans hempty) hne
      · have hneeded := hfound.symm.trans hmodem
        unfold getModemConfigurationNeeded at hneeded
        simp only [setsImage, hsetting, hchanged, hnone, Option.isNone_some, Bool.not_true,
          List.isEmpty_nil, Bool.false_or] at hset
        cases hnow : getCurrentModemConfig s.device with
        | none =>
          rw [hnow] at hneeded
          exact absurd hneeded.symm hne
        | some current =>
          rw [hnow, Option.all_some] at hset
          rw [hnow] at hneeded
          simp only [hset, if_true] at hneeded
          exact absurd hneeded.symm hne
    · rw [heq, ModemDir.getName_image _ himage]
      exact ModemDir.holds_image _ (hfiles hasks) himage
  | imsOff hasks hmodem havailable =>
    unfold modemForImsOff at hmodem
    split at hmodem
    · simp at hmodem
    · split at hmodem
      · simp at hmodem
      · obtain ⟨name, -, rfl⟩ := Option.map_eq_some_iff.mp hmodem
        exact ModemDir.holds_configuration _ (hfiles hasks) havailable
  | pick activity name a hasks he hpicked havailable =>
    unfold picked at hpicked
    split at hpicked
    next shown _ hget =>
      split at hpicked
      · obtain ⟨rfl, rfl⟩ := Prod.mk.inj (Option.some.inj hpicked)
        have hcached := hcaches _ (List.mem_of_getElem? hget)
        rw [ModemSwitcher.getAvailableModemConfigurations, hcached, Option.getD_some] at havailable
        exact ModemDir.holds_configuration _ (hfiles hasks) havailable
      · simp at hpicked
    · simp at hpicked

/-- In every run that reaches `set` and `reApplyModem` only for images, and asks for a listed image only
while all of these exist, every command names a file of the modem directory. -/
theorem System.only_real_images (d : Device) (events : List Event) (e : Event)
    (hguard : StepsMeet System.step
      (fun s e => s.setsImage e = true ∧ s.reAppliesImage e = true ∧ s.listsFiles e = true)
      (fresh d) (events ++ [e])) :
    ∀ data ∈ (run System.step (fresh d) (events ++ [e])).device.modemWrites,
      ∃ name, data = changeCommand name ∧
        (run System.step (fresh d) events).device.platform.modemDir.holds name = true := by
  intro data hdata
  rw [run_concat] at hdata
  obtain ⟨modem, hcommand, hrequest⟩ := System.step_writes _ e hdata
  obtain ⟨-, ⟨hset, hreApply, hlists⟩, -⟩ := (stepsMeet_append _ events [e]).mp hguard
  have hcaches := run_invariant_of_step System.CachesFresh (fun _ e h => h.step e) (fresh d) events
    fun _ ha => absurd ha List.not_mem_nil
  exact ⟨getName modem, hcommand,
    requests_image (sound_run d events) hcaches hset hreApply hlists hrequest⟩

/-- A phone whose status file names a `default` link that is missing. -/
def Device.missingDefault : Device :=
  .factory (.ofNames ["a_tar.mbn"] (by decide)) "default" (.single "89")

/-- Switching re-apply on writes the placeholder to the unit. -/
theorem System.placeholder_requested :
    let after := run step (fresh .missingDefault) [.reApplyPreference 1]
    changeCommand singleModemFs ∈ after.device.modemWrites ∧
      after.device.platform.modemDir.fileExists singleModemFs = false := by
  decide +kernel

/-- The setup wizard on a phone with images meets the condition and commands one of them. -/
theorem System.wizard_requests_image :
    let wizard := [.suwHandle, .mainStep]
    (run step (fresh .plainModem) (wizard ++ [.mainStep])).device.modemWrites =
        [changeCommand "ir51_ir92_ims_tar.mbn"] ∧
      ∀ data ∈ (run step (fresh .plainModem) (wizard ++ [.mainStep])).device.modemWrites,
        ∃ name, data = changeCommand name ∧
          (run step (fresh .plainModem) wizard).device.platform.modemDir.holds name = true :=
  ⟨by decide +kernel, only_real_images .plainModem [.suwHandle, .mainStep] .mainStep (by decide +kernel)⟩

end Yoshino.Customization
