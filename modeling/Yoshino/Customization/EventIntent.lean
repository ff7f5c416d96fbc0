import Yoshino.Customization.ModemImages
import Yoshino.Customization.Underway

/-!
# The broadcast that starts an evaluation

`EventReceiver.onReceive` starts the evaluation service when the subscription of the intent is the
default one. Both sides of the comparison use `INVALID_SUBSCRIPTION_ID` for none at all, and the
comparison does not leave that case out: without any subscription every carrier configuration
starts an evaluation.
-/

namespace Yoshino.Customization

/-- A broadcast: its action, and the extra `subscription` if it has one. -/
structure Intent where
  action : Option String
  subscription : Option Int
  deriving DecidableEq, Repr

/-- `CarrierConfigManager.ACTION_CARRIER_CONFIG_CHANGED`. -/
def actionCarrierConfigChanged : String := "android.telephony.action.CARRIER_CONFIG_CHANGED"

/-- `Intent.ACTION_BOOT_COMPLETED`. -/
def actionBootCompleted : String := "android.intent.action.BOOT_COMPLETED"

/-- `EventReceiver.onReceive`. -/
def System.onReceive (s : System) (intent : Intent) : System :=
  let subscription := intent.subscription.getD invalidId
  if intent.action = some actionCarrierConfigChanged then s.carrierConfigChanged subscription
  else if intent.action = some actionBootCompleted then s.bootCompleted subscription
  else (s.receive subscription).1

/-- The receiver starts the evaluation service. -/
def System.Starts (s : System) (intent : Intent) : Prop :=
  s.pending < (s.onReceive intent).pending

/-- With IMS on the receiver looks at the action, and has remembered at most the subscription. -/
theorem System.receive_of_enabled {s : System} (h : isIMSEnabledBySetting s.device = true)
    (subscription : Int) : ∃ subId, s.receive subscription =
      ({ s with device := { s.device with eventSubId := subId } }, true) := by
  obtain ⟨subId, hspec⟩ := s.receive_spec subscription
  exact ⟨subId, hspec.trans (if_pos h)⟩

/-- With IMS off it does not. -/
theorem System.receive_of_disabled {s : System} (h : isIMSEnabledBySetting s.device = false)
    (subscription : Int) : (s.receive subscription).2 = false := by
  obtain ⟨subId, hspec⟩ := s.receive_spec subscription
  rw [hspec, if_neg (Bool.eq_false_iff.mp h)]
  split <;> rfl

/-- An evaluation is asked for when the subscription is the default one. -/
theorem System.pending_carrierConfigChanged (s : System) (subscription : Int) :
    s.pending < (s.carrierConfigChanged subscription).pending ↔
      isIMSEnabledBySetting s.device = true ∧
        getDefaultSubId s.device.telephony = eventSubId s.device subscription := by
  cases hims : isIMSEnabledBySetting s.device with
  | true =>
    obtain ⟨subId, hreceive⟩ := System.receive_of_enabled hims subscription
    unfold System.carrierConfigChanged
    rw [hreceive]
    dsimp only
    change s.pending < (if getDefaultSubId s.device.telephony == eventSubId s.device subscription
      then _ else _ : System).pending ↔ _
    by_cases hdefault : getDefaultSubId s.device.telephony = eventSubId s.device subscription
    · simp [hdefault]
    · simp [hdefault]
  | false =>
    obtain ⟨d, hdevice⟩ := s.receive_eq subscription
    have hfurther := System.receive_of_disabled hims subscription
    have hreceive : s.receive subscription = ({ s with device := d }, false) :=
      Prod.ext hdevice hfurther
    unfold System.carrierConfigChanged
    rw [hreceive]
    simp

/-- Exactly a changed carrier configuration of the default subscription, with IMS on, starts the
service. -/
theorem System.starts_iff (s : System) (intent : Intent) :
    s.Starts intent ↔ intent.action = some actionCarrierConfigChanged ∧
      isIMSEnabledBySetting s.device = true ∧
      getDefaultSubId s.device.telephony =
        eventSubId s.device (intent.subscription.getD invalidId) := by
  unfold System.Starts System.onReceive
  by_cases hconfig : intent.action = some actionCarrierConfigChanged
  · simp only [hconfig, if_true, true_and]
    exact s.pending_carrierConfigChanged _
  · have hpending : (s.receive (intent.subscription.getD invalidId)).1.pending = s.pending := by
      obtain ⟨d, hdevice⟩ := s.receive_eq (intent.subscription.getD invalidId)
      rw [hdevice]
    have hboot : (s.bootCompleted (intent.subscription.getD invalidId)).pending = s.pending := by
      obtain ⟨d, job, hdevice⟩ := s.bootCompleted_eq (intent.subscription.getD invalidId)
      rw [hdevice]
    rw [if_neg hconfig]
    simp only [hconfig, false_and, iff_false, Nat.not_lt]
    split
    · exact hboot.le
    · exact hpending.le

/-- There is neither a default data subscription nor a usable active one. -/
def Telephony.NoDefault (t : Telephony) : Prop :=
  t.defaultDataSubscriptionId = invalidId ∧
    ∀ subId ∈ t.activeSubscriptions.getD [], t.isUsableSubIdValue subId = false

/-- `getDefaultSubId` finds nothing. -/
theorem getDefaultSubId_eq_invalidId_iff (t : Telephony) :
    getDefaultSubId t = invalidId ↔ t.NoDefault := by
  have husable := t.invalidId_unusable
  unfold getDefaultSubId Telephony.NoDefault
  constructor
  · intro h
    split at h
    next hdata => rw [h, husable] at hdata; exact absurd hdata (by simp)
    · cases hfind : (t.activeSubscriptions.getD []).find? t.isUsableSubIdValue with
      | none =>
        rw [hfind] at h
        exact ⟨h, fun subId hmem => by simpa using List.find?_eq_none.mp hfind subId hmem⟩
      | some subId =>
        rw [hfind] at h
        have hfound := List.find?_some hfind
        rw [show subId = invalidId from h, husable] at hfound
        exact absurd hfound (by simp)
  · rintro ⟨hdata, hactive⟩
    have hfind : (t.activeSubscriptions.getD []).find? t.isUsableSubIdValue = none :=
      List.find?_eq_none.mpr fun subId hmem => by simp [hactive subId hmem]
    rw [hdata, husable, hfind]
    rfl

/-- The subscription is not the sentinel, and its operator, IMSI and ICCID are there. -/
def Telephony.Ready (t : Telephony) (subId : Int) : Prop :=
  subId ≠ invalidId ∧ isEmpty (t.sim subId).simOperator = false ∧
    isEmpty (t.sim subId).subscriberId = false ∧ isEmpty (t.sim subId).simSerialNumber = false

/-- The receiver takes the subscription of the intent when it is ready. -/
theorem eventSubId_eq_ite (d : Device) (subscription : Int) :
    eventSubId d subscription = if subscription ≠ invalidId ∧
      isMandatorySimParamsAvailable d.telephony subscription = true then subscription
      else invalidId := by
  simp [eventSubId]

/-- The mandatory parameters of a subscription are there when the telephony manager gives them. -/
theorem isMandatorySimParamsAvailable_iff (t : Telephony) (subId : Int) :
    isMandatorySimParamsAvailable t subId = true ↔ t.available = true ∧
      isEmpty (t.sim subId).simOperator = false ∧ isEmpty (t.sim subId).subscriberId = false ∧
      isEmpty (t.sim subId).simSerialNumber = false := by
  simp [isMandatorySimParamsAvailable, and_assoc]

/-- For every broadcast and every telephony state the service is started only for a subscription of
the intent that is ready and the default one, unless a changed carrier configuration comes with IMS
on, without a subscription that is ready, while there is no default subscription. -/
theorem System.starts_only_for_default_iff (s : System) (intent : Intent) :
    (s.Starts intent → ∃ subId, intent.subscription = some subId ∧
        s.device.telephony.Ready subId ∧ subId = getDefaultSubId s.device.telephony) ↔
      ¬ (intent.action = some actionCarrierConfigChanged ∧ isIMSEnabledBySetting s.device = true ∧
        (∀ subId, intent.subscription = some subId → subId = invalidId ∨
          isMandatorySimParamsAvailable s.device.telephony subId = false) ∧
        s.device.telephony.NoDefault) := by
  rw [s.starts_iff, ← getDefaultSubId_eq_invalidId_iff, eventSubId_eq_ite]
  by_cases hready : ∃ subId, intent.subscription = some subId ∧ subId ≠ invalidId ∧
      isMandatorySimParamsAvailable s.device.telephony subId = true
  · obtain ⟨subId, hsome, hvalid, hparams⟩ := hready
    refine iff_of_true (fun h => ?_) fun h => ?_
    · obtain ⟨-, -, hdefault⟩ := h
      rw [hsome, Option.getD_some, if_pos ⟨hvalid, hparams⟩] at hdefault
      exact ⟨subId, hsome, ⟨hvalid, ((isMandatorySimParamsAvailable_iff _ _).mp hparams).2⟩,
        hdefault.symm⟩
    · obtain ⟨-, -, hnone, -⟩ := h
      rcases hnone subId hsome with hinvalid | hmissing
      · exact hvalid hinvalid
      · exact absurd (hparams.symm.trans hmissing) (by simp)
  · have hnone : ∀ subId, intent.subscription = some subId → subId = invalidId ∨
        isMandatorySimParamsAvailable s.device.telephony subId = false := by
      intro subId hsome
      by_contra h
      push Not at h
      exact hready ⟨subId, hsome, h.1, by simpa using h.2⟩
    have hsentinel : ¬ (intent.subscription.getD invalidId ≠ invalidId ∧
        isMandatorySimParamsAvailable s.device.telephony (intent.subscription.getD invalidId) =
          true) := by
      cases hsome : intent.subscription with
      | none => exact fun h => h.1 rfl
      | some subId => exact fun h => hready ⟨subId, hsome, h⟩
    rw [if_neg hsentinel]
    -- whatever starts the service now is the sentinel, which is not ready
    constructor
    · rintro h ⟨haction, hims, -, hdefault⟩
      obtain ⟨subId, -, hsubId, heq⟩ := h ⟨haction, hims, hdefault⟩
      exact hsubId.1 (heq.trans hdefault)
    · rintro h ⟨haction, hims, hdefault⟩
      exact absurd ⟨haction, hims, hnone, hdefault⟩ h

/-- Without a SIM a changed carrier configuration that names no subscription starts the service. -/
theorem System.starts_without_subscription :
    let telephony : Telephony :=
      { Telephony.single "" with defaultDataSubscriptionId := -1, activeSubscriptions := none }
    let s := System.fresh { Device.plainModem with telephony }
    (s.onReceive ⟨some actionCarrierConfigChanged, none⟩).pending = s.pending + 1 := by
  decide +kernel

end Yoshino.Customization
