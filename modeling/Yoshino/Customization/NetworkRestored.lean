import Yoshino.Customization.ModemImages
import Yoshino.Customization.NetworkSwitcher
import Yoshino.Library.Runs

/-!
# Giving the preferred network mode back

Once the switcher has stopped itself, every subscription should have the mode that was last written
by anyone else. Two things break that: a life of the service that begins while an earlier one has
left a mode lowered, since `switchDown` looks at the stored mode alone, and a mode written by the
user while the switcher holds another one to restore. In every run that avoids both the user's mode
is back whenever the service has stopped.
-/

namespace Yoshino.Customization

open Yoshino.Library

/-- The subscription whose mode the running service is to restore. -/
def Switcher.restoring : Switcher → Option Int
  | .running _ (.unlock subId) | .running _ (.airplane subId _) | .running _ (.simService subId) =>
    some subId
  | _ => none

/-- The mode saved for a subscription is still the last one that anyone else has written. -/
def NetworkPhone.originalKept (p : NetworkPhone) (subId : Int) : Bool :=
  p.userMode subId == some (p.getOriginalNetwork subId)

/-- `switchDown` runs only when no earlier life of the service has left a mode lowered, and a mode
is restored only when it is still the last one that anyone else has written. -/
def NetworkPhone.keepsNetwork (p : NetworkPhone) (e : NetworkEvent) : Bool :=
  match e, p.switcher with
  | .switchDownDue, .running _ (.switchDown _) => p.lowered.isEmpty
  | .userUnlocked, .running _ (.unlock subId) =>
    p.isAirplaneModeOn || !p.hasSignal subId || p.originalKept subId
  | .poll, .running _ (.airplane subId true) | .poll, .running _ (.simService subId) =>
    subId == invalidId || !(p.telephony.available && p.hasSignal subId) || p.originalKept subId
  | _, _ => true

/-- A mode that the switcher has not lowered is the user's. -/
def NetworkPhone.Kept (p : NetworkPhone) : Prop :=
  ∀ subId, subId ∉ p.lowered → p.settings.preferredNetworkMode subId = p.userMode subId

/-- Only the mode that the service is to restore differs from the user's, and none does once it has
stopped. -/
structure NetworkPhone.Returnable (p : NetworkPhone) : Prop where
  kept : p.Kept
  only : ∀ subId, p.switcher.restoring = some subId → ∀ other ∈ p.lowered, other = subId
  stopped : p.switcher = .stopped → p.lowered = []

/-- A step that touches no mode and neither stops the service nor begins to restore keeps the
modes returnable. -/
theorem NetworkPhone.Returnable.of_same {p p' : NetworkPhone} (h : p.Returnable)
    (hmode : p'.settings.preferredNetworkMode = p.settings.preferredNetworkMode)
    (huser : p'.userMode = p.userMode) (hlowered : p'.lowered = p.lowered)
    (hrestoring : p'.switcher.restoring = none ∨ p'.switcher.restoring = p.switcher.restoring)
    (hstopped : p'.switcher = .stopped → p.switcher = .stopped) : p'.Returnable where
  kept subId := by
    rw [hmode, huser, hlowered]
    exact h.kept subId
  only subId hsub := by
    rw [hlowered]
    rcases hrestoring with hnone | hsame
    · exact absurd (hnone.symm.trans hsub) nofun
    · exact h.only subId (hsame.symm.trans hsub)
  stopped hs := hlowered.trans (h.stopped (hstopped hs))

/-- The service goes on waiting, for the same subscription if it is to restore one. -/
theorem NetworkPhone.Returnable.waitFor {p : NetworkPhone} (h : p.Returnable) (unlockObserver : Bool)
    (waiting : Waiting)
    (hrestoring : (Switcher.running unlockObserver waiting).restoring = none ∨
      (Switcher.running unlockObserver waiting).restoring = p.switcher.restoring) :
    (p.waitFor unlockObserver waiting).Returnable :=
  h.of_same rfl rfl rfl hrestoring nofun

/-- Restoring a mode that is still the user's leaves every subscription with the user's mode. -/
theorem NetworkPhone.Kept.restore {p : NetworkPhone} {subId : Int} (h : p.Kept)
    (honly : ∀ other ∈ p.lowered, other = subId) (haccepts : p.accepts = true)
    (horiginal : p.originalKept subId = true) : (p.restore subId).Returnable := by
  have hlowered : (p.restore subId).lowered = [] := by
    simpa [NetworkPhone.restore, NetworkPhone.stopSelf, haccepts] using honly
  refine ⟨fun other _ => ?_, nofun, fun _ => hlowered⟩
  have huser : p.userMode subId = some (p.getOriginalNetwork subId) := beq_iff_eq.mp horiginal
  simp only [NetworkPhone.restore, NetworkPhone.stopSelf, NetworkPhone.changeNetwork, haccepts,
    if_true]
  by_cases hother : other = subId
  · rw [hother, Function.update_self, huser]
  · rw [Function.update_of_ne hother]
    exact h other fun hmem => hother (honly other hmem)

/-- `handleConnection` waits, or restores a mode that is still the user's. -/
theorem NetworkPhone.Kept.handleConnection {p : NetworkPhone} {subId : Int} (h : p.Kept)
    (unlockObserver : Bool) (honly : ∀ other ∈ p.lowered, other = subId) (haccepts : p.accepts = true)
    (hkeeps : (p.isAirplaneModeOn || !p.hasSignal subId || p.originalKept subId) = true) :
    (p.handleConnection unlockObserver subId).Returnable := by
  have hwait (waiting : Waiting)
      (hsub : (Switcher.running unlockObserver waiting).restoring = some subId) :
      (p.waitFor unlockObserver waiting).Returnable := by
    refine ⟨h, fun other hother => ?_, nofun⟩
    obtain rfl : subId = other := Option.some.inj (hsub.symm.trans hother)
    exact honly
  unfold NetworkPhone.handleConnection
  split
  · exact hwait _ rfl
  next hairplane =>
    split
    next hsignal => exact h.restore honly haccepts (by simpa [hairplane, hsignal] using hkeeps)
    · exact hwait _ rfl

/-- Lowering a mode leaves the saved ones and the user's alone. -/
theorem NetworkPhone.lower_frame (p : NetworkPhone) (subId : Int) :
    (p.lower subId).accepts = p.accepts ∧ (p.lower subId).userMode = p.userMode ∧
      (p.lower subId).settings.nsPreferred = p.settings.nsPreferred := by
  unfold lower changeNetwork
  split <;> exact ⟨rfl, rfl, rfl⟩

/-- Lowering a mode either records it or leaves it as it was. -/
theorem NetworkPhone.Kept.lower {p : NetworkPhone} (h : p.Kept) (subId : Int) :
    (p.lower subId).Kept := by
  intro other hother
  have hothers (hne : other ≠ subId) : (p.lower subId).settings.preferredNetworkMode other =
      p.settings.preferredNetworkMode other := by
    unfold NetworkPhone.lower changeNetwork
    split
    · exact Function.update_of_ne hne _ _
    · rfl
  rw [(p.lower_frame subId).2.1]
  by_cases hsame : (p.lower subId).settings.preferredNetworkMode subId =
      p.settings.preferredNetworkMode subId
  · have hlowered : (p.lower subId).lowered = p.lowered := if_pos hsame
    rw [hlowered] at hother
    by_cases hne : other = subId
    · rw [hne, hsame]
      exact h subId (hne ▸ hother)
    · rw [hothers hne]
      exact h other hother
  · have hlowered : (p.lower subId).lowered = subId :: p.lowered := if_neg hsame
    rw [hlowered, List.mem_cons, not_or] at hother
    rw [hothers hother.1]
    exact h other hother.2

/-- When nothing was lowered before, only the given subscription is afterwards. -/
theorem NetworkPhone.lower_only {p : NetworkPhone} (hlowered : p.lowered = []) (subId : Int) :
    ∀ other ∈ (p.lower subId).lowered, other = subId := by
  intro other hother
  unfold lower at hother
  simp only [hlowered] at hother
  split at hother <;> simp_all

/-- The saved mode is the one that was stored. -/
theorem NetworkPhone.nsPreferred_setOriginalNetwork (p : NetworkPhone) (subId network : Int) :
    (p.setOriginalNetwork subId network).settings.nsPreferred subId = some network :=
  Function.update_self ..

/-- A stored LTE mode was written: the default is none. -/
theorem NetworkPhone.preferred_of_isLTE (p : NetworkPhone) (subId : Int)
    (hlte : p.radio.isLTE (p.getPreferredNetwork subId) = true) :
    p.settings.preferredNetworkMode subId = some (p.getPreferredNetwork subId) := by
  unfold getPreferredNetwork at hlte ⊢
  cases hmode : p.settings.preferredNetworkMode subId with
  | none =>
    rw [hmode] at hlte
    simp [Radio.isLTE, networkModeWcdmaPref, p.radio.wcdmaPref_notLTE] at hlte
  | some mode => rfl

/-- `switchDown` lowers a mode that can be given back. -/
theorem NetworkPhone.Returnable.switchDown {p : NetworkPhone} (h : p.Returnable)
    (unlockObserver : Bool) (subId : Int) (haccepts : p.accepts = true) (hlowered : p.lowered = []) :
    (p.switchDown unlockObserver subId).Returnable := by
  have hstop : p.stopSelf.Returnable := ⟨h.kept, nofun, fun _ => hlowered⟩
  unfold NetworkPhone.switchDown
  split
  · exact hstop
  · dsimp only
    split
    next hlte =>
      split
      · exact ⟨h.kept, nofun, nofun⟩
      · set saved := p.setOriginalNetwork subId (p.getPreferredNetwork subId) with hsaved
        have hkept : (saved.lower subId).Kept := Kept.lower (p := saved) h.kept subId
        have honly := lower_only (p := saved) hlowered subId
        obtain ⟨hsame, huser, hpreferred⟩ := saved.lower_frame subId
        have horiginal : (saved.lower subId).originalKept subId = true := by
          rw [originalKept, getOriginalNetwork, huser, hpreferred, hsaved,
            nsPreferred_setOriginalNetwork, Option.getD_some, beq_iff_eq]
          exact (h.kept subId (by simp [hlowered])).symm.trans (p.preferred_of_isLTE subId hlte)
        split
        · exact ⟨hkept, fun other hother => Option.some.inj hother ▸ honly, nofun⟩
        · exact hkept.handleConnection unlockObserver honly (hsame.trans haccepts)
            (by rw [horiginal, Bool.or_true])
    · exact hstop

/-- Waiting for the SIM changes no mode. -/
theorem NetworkPhone.Returnable.initProcess {p : NetworkPhone} (h : p.Returnable)
    (unlockObserver : Bool) (subId : Int) : (p.initProcess unlockObserver subId).Returnable := by
  unfold NetworkPhone.initProcess
  split <;> exact h.waitFor unlockObserver _ (.inl rfl)

/-- A new life of the service begins by waiting for the SIM. -/
theorem NetworkPhone.Returnable.onCreate {p : NetworkPhone} (h : p.Returnable) :
    p.onCreate.Returnable := by
  unfold NetworkPhone.onCreate
  split
  · exact h.waitFor true .subId (.inl rfl)
  · exact h.initProcess true _

/-- The boot broadcast creates the service, or leaves it alone. -/
theorem NetworkPhone.Returnable.bootCompleted {p : NetworkPhone} (h : p.Returnable) :
    p.bootCompleted.Returnable := by
  unfold NetworkPhone.bootCompleted
  split
  · split
    · exact h
    all_goals exact h.onCreate
  · exact h

/-- The runnable of `SimServiceObserver` goes on waiting, or restores a mode that is the user's. -/
theorem NetworkPhone.Returnable.simServicePoll {p : NetworkPhone} (h : p.Returnable)
    (unlockObserver : Bool) (subId : Int) (unregistered : Waiting)
    (hrestoring : p.switcher.restoring = some subId)
    (hunregistered : (Switcher.running unlockObserver unregistered).restoring = none ∨
      (Switcher.running unlockObserver unregistered).restoring = some subId)
    (haccepts : p.accepts = true)
    (hkeeps : (subId == invalidId || !(p.telephony.available && p.hasSignal subId) ||
      p.originalKept subId) = true) :
    (p.simServicePoll unlockObserver subId unregistered).Returnable := by
  unfold NetworkPhone.simServicePoll
  split
  · exact h.waitFor unlockObserver unregistered (hrestoring ▸ hunregistered)
  next hvalid =>
    split
    next hsignal =>
      have horiginal : p.originalKept subId = true := by
        simpa only [hvalid, hsignal, Bool.false_or, Bool.not_true] using hkeeps
      exact h.kept.restore (h.only subId hrestoring) haccepts horiginal
    · exact h

/-- The runnables of the observers keep the modes returnable. -/
theorem NetworkPhone.Returnable.poll {p : NetworkPhone} (h : p.Returnable) (unlockObserver : Bool)
    (waiting : Waiting) (hswitcher : p.switcher = .running unlockObserver waiting)
    (haccepts : p.accepts = true) (hkeeps : p.keepsNetwork .poll = true) :
    (p.poll unlockObserver waiting).Returnable := by
  cases waiting with
  | subId =>
    simp only [NetworkPhone.poll]
    split
    · exact h
    · exact h.initProcess unlockObserver _
  | slot subId =>
    simp only [NetworkPhone.poll]
    split
    · exact h.waitFor unlockObserver .nothing (.inl rfl)
    · split
      · exact h.waitFor unlockObserver _ (.inl rfl)
      · exact h
  | airplane subId simService =>
    cases simService with
    | true =>
      refine h.simServicePoll unlockObserver subId _ (by rw [hswitcher]; rfl) (.inr rfl) haccepts ?_
      simpa only [keepsNetwork, hswitcher] using hkeeps
    | false => exact h
  | simService subId =>
    refine h.simServicePoll unlockObserver subId _ (by rw [hswitcher]; rfl) (.inl rfl) haccepts ?_
    simpa only [keepsNetwork, hswitcher] using hkeeps
  | switchDown subId | unlock subId | nothing => exact h

/-- The broadcast `USER_UNLOCKED` keeps the modes returnable. -/
theorem NetworkPhone.Returnable.userUnlocked {p : NetworkPhone} (h : p.Returnable)
    (haccepts : p.accepts = true) (hkeeps : p.keepsNetwork .userUnlocked = true) :
    (p.step .userUnlocked).Returnable := by
  simp only [NetworkPhone.step]
  split
  next unlockObserver subId hswitcher =>
    refine h.kept.handleConnection unlockObserver (h.only subId (by rw [hswitcher]; rfl)) haccepts ?_
    simpa only [keepsNetwork, hswitcher] using hkeeps
  next waiting hother hswitcher =>
    refine h.waitFor false waiting (.inr ?_)
    rw [hswitcher]
    cases waiting <;> rfl
  · exact h

/-- A mode that anyone else writes is the user's. -/
theorem NetworkPhone.Returnable.preferredWritten {p : NetworkPhone} (h : p.Returnable)
    (subId mode : Int) : (p.step (.preferredWritten subId mode)).Returnable := by
  refine ⟨fun other hother => ?_, fun restoring hrestoring other hother => ?_, fun hstopped => ?_⟩
  · by_cases hne : other = subId
    · simp [NetworkPhone.step, hne]
    · have hnot : other ∉ p.lowered := by simpa [NetworkPhone.step, hne] using hother
      simpa [NetworkPhone.step, hne] using h.kept other hnot
  · exact h.only restoring hrestoring other (List.mem_of_mem_filter hother)
  · change p.lowered.filter _ = []
    rw [h.stopped hstopped, List.filter_nil]

/-- Every step that keeps the network keeps the modes returnable. -/
theorem NetworkPhone.Returnable.step {p : NetworkPhone} (h : p.Returnable) (e : NetworkEvent)
    (haccepts : p.accepts = true) (hkeeps : p.keepsNetwork e = true) : (p.step e).Returnable := by
  cases e with
  | bootCompleted => exact h.bootCompleted
  | reboot => exact h.of_same rfl rfl rfl (.inl rfl) nofun
  | kill =>
    simp only [NetworkPhone.step]
    split
    · exact h.of_same rfl rfl rfl (.inl rfl) nofun
    · exact h
  | restart =>
    simp only [NetworkPhone.step]
    split
    · exact h.onCreate
    · exact h
  | userUnlocked => exact h.userUnlocked haccepts hkeeps
  | airplaneObserved =>
    simp only [NetworkPhone.step]
    split
    next hswitcher => exact h.waitFor _ _ (.inr (by rw [hswitcher]; rfl))
    · exact h
  | poll =>
    simp only [NetworkPhone.step]
    split
    next unlockObserver waiting hswitcher =>
      exact h.poll unlockObserver waiting hswitcher haccepts hkeeps
    · exact h
  | switchDownDue =>
    simp only [NetworkPhone.step]
    split
    next unlockObserver subId hswitcher =>
      have hlowered : p.lowered = [] := by simpa [keepsNetwork, hswitcher] using hkeeps
      exact h.switchDown unlockObserver subId haccepts hlowered
    · exact h
  | preferredWritten subId mode => exact h.preferredWritten subId mode
  | airplaneMode | telephonyChanged | configured | radioChanged =>
    exact h.of_same rfl rfl rfl (.inr rfl) id

/-- The switcher gives the user's network back: with a modem that accepts every network type, in
every run that never starts to lower from a lowered mode and never restores over a newer one, every
subscription has the mode last written by anyone else whenever the service has stopped. -/
theorem NetworkPhone.network_given_back (radio : Radio) (directBoot : Bool) (telephony : Telephony)
    (settings : NetworkSettings) (events : List NetworkEvent)
    (hkeeps : StepsMeet NetworkPhone.step
      (fun p e => p.accepts = true ∧ p.keepsNetwork e = true)
      (.fresh radio directBoot telephony settings) events) :
    let p := run NetworkPhone.step (.fresh radio directBoot telephony settings) events
    p.switcher = .stopped → ∀ subId, p.settings.preferredNetworkMode subId = p.userMode subId := by
  intro p hstopped subId
  have hfresh : (NetworkPhone.fresh radio directBoot telephony settings).Returnable :=
    ⟨fun _ _ => rfl, nofun, nofun⟩
  have h : p.Returnable := run_invariant Returnable (fun _ e h hguard => h.step e hguard.1 hguard.2)
    _ events hfresh hkeeps
  exact h.kept subId (by rw [h.stopped hstopped]; exact List.not_mem_nil)

/-- Mode 9 is the only LTE mode of this radio. -/
def Radio.oneLTEMode : Radio where
  getRafFromNetworkType network := if network = networkModeLteGsmWcdma then 2 ^ 12 else 0
  rafLTE := 2 ^ 12
  rafLTECA := 2 ^ 18
  wcdmaPref_notLTE := by decide

/-- The switcher is on and the user prefers LTE. -/
def NetworkPhone.userOnLTE : NetworkPhone :=
  .fresh .oneLTEMode true (.single "89")
    ⟨fun _ => some networkModeLteGsmWcdma, fun _ => none, none, some 1, none, 0⟩

/-- A reboot before the unlock makes the switcher stop with the lowered mode in place. -/
theorem NetworkPhone.network_lost_by_reboot :
    let p := run NetworkPhone.step .userOnLTE
      [.bootCompleted, .switchDownDue, .reboot, .bootCompleted, .switchDownDue]
    p.switcher = .stopped ∧ p.userMode 1 = some networkModeLteGsmWcdma ∧
      p.settings.preferredNetworkMode 1 = some networkModeWcdmaPref := by
  decide +kernel

/-- A boot with an airplane mode in between ends with the user's mode. -/
theorem NetworkPhone.network_given_back_after_airplane :
    let p := run NetworkPhone.step .userOnLTE [.bootCompleted, .switchDownDue, .airplaneMode 1,
      .userUnlocked, .airplaneMode 0, .airplaneObserved, .poll]
    p.switcher = .stopped ∧ p.settings.preferredNetworkMode 1 = p.userMode 1 :=
  ⟨by decide +kernel, network_given_back .oneLTEMode true (.single "89") _
    [.bootCompleted, .switchDownDue, .airplaneMode 1, .userUnlocked, .airplaneMode 0,
      .airplaneObserved, .poll] (by decide +kernel) (by decide +kernel) 1⟩

end Yoshino.Customization
