import Yoshino.Core.Sharing

/-!
# What a commit shows

Between the preparation of a frame and its commit the calls of the other displays go on, and they take
pipes from the same table. A display that hands a frame to the driver still has exactly the pipes that
the frame names, and the frame is the one that the driver has validated last. The exception is a display
whose `ReConfigure` has failed in `Commit`: that error is lost, and the frame goes to the driver.
-/

namespace Yoshino.Display

open ResourceDefault

variable {F : Type} {info : HWResourceInfo} {s s' : ResourceDefault} {type : DisplayType}

/-- Two displays do not share a block. -/
theorem DisplayType.eq_of_block {other : DisplayType} {block : HWBlockType}
    (h : type.block = some block) (hother : other.block = some block) : other = type := by
  cases type <;> cases other <;> cases h <;> first | rfl | cases hother

/-- The pipes of a display are those that its configuration names. -/
def Names (s : ResourceDefault) (type : DisplayType) (hw : HWLayers F) : Prop :=
  ∃ block, type.block = some block ∧ (s.reservedIds block).Perm hw.config.storedIds

/-- There is nothing to show, or what is shown has been validated and has its pipes. -/
def Shown (s : ResourceDefault) (type : DisplayType) (d : DisplayBase F) : Prop :=
  d.hwLayers.info.hwLayers = [] ∨ d.validated = some d.hwLayers ∧ Names s type d.hwLayers

/-- What holds of a display at every point of its calls. -/
structure Settled (s : ResourceDefault) (type : DisplayType) (d : DisplayBase F) : Prop where
  preparing : d.progress = .preparing → d.needsValidate = true
  reconfiguring : ∀ stack, d.progress = .reconfiguring stack → d.needsValidate = false
  committing : ∀ stack, d.progress = .committing stack → d.needsValidate = false
  switching : ∀ active, d.progress = .switching .off active → d.hwLayers.info.hwLayers = []
  shown : d.needsValidate = false → d.unsettled = false → Shown s type d

/-- The pipes of a display are the same in two states. -/
def SamePipes (type : DisplayType) (s s' : ResourceDefault) : Prop :=
  ∀ block, type.block = some block → s'.reserved block = s.reserved block

/-- With the same pipes a configuration still names them. -/
theorem Names.congr {hw : HWLayers F} (h : Names s type hw) (hsame : SamePipes type s s') :
    Names s' type hw := by
  obtain ⟨block, hblock, hperm⟩ := h
  refine ⟨block, hblock, ?_⟩
  rwa [reservedIds, hsame block hblock]

/-- With the same pipes a frame is still shown. -/
theorem Shown.congr {d : DisplayBase F} (h : Shown s type d) (hsame : SamePipes type s s') :
    Shown s' type d :=
  h.imp_right fun hboth => ⟨hboth.1, hboth.2.congr hsame⟩

/-- A call of another display leaves the pipes, and with them what holds of this one. -/
theorem Settled.congr {d : DisplayBase F} (h : Settled s type d) (hsame : SamePipes type s s') :
    Settled s' type d :=
  { h with shown := fun hvalidate hsettled => (h.shown hvalidate hsettled).congr hsame }

/-- A call that has returned, of a display that has to validate. -/
theorem Settled.of_needsValidate {d : DisplayBase F} (hvalidate : d.needsValidate = true)
    (hprogress : d.progress = .idle ∨ d.progress = .preparing) : Settled s type d where
  preparing _ := hvalidate
  reconfiguring stack h := by rcases hprogress with h' | h' <;> simp [h'] at h
  committing stack h := by rcases hprogress with h' | h' <;> simp [h'] at h
  switching active h := by rcases hprogress with h' | h' <;> simp [h'] at h
  shown h := by simp [hvalidate] at h

/-- The points of a call at which nothing but the shown frame matters. -/
def Progress.plain : Progress F → Bool
  | preparing | reconfiguring _ | committing _ | switching .off _ => false
  | _ => true

/-- At a point without an obligation of its own only what is shown has to be known. -/
theorem Settled.of_plain {d : DisplayBase F} (hplain : d.progress.plain = true)
    (h : d.needsValidate = false → d.unsettled = false → Shown s type d) : Settled s type d where
  preparing hprogress := by simp [hprogress, Progress.plain] at hplain
  reconfiguring stack hprogress := by simp [hprogress, Progress.plain] at hplain
  committing stack hprogress := by simp [hprogress, Progress.plain] at hplain
  switching active hprogress := by simp [hprogress, Progress.plain] at hplain
  shown := h

/-- A commit goes on only with a frame that need not be validated. -/
theorem Settled.of_commit {d : DisplayBase F} {stack : LayerStack F} (hvalidate : d.needsValidate = false)
    (hprogress : d.progress = .reconfiguring stack ∨ d.progress = .committing stack)
    (h : d.unsettled = false → Shown s type d) : Settled s type d where
  preparing hpreparing := by rcases hprogress with h' | h' <;> simp [h'] at hpreparing
  reconfiguring _ _ := hvalidate
  committing _ _ := hvalidate
  switching active hswitching := by rcases hprogress with h' | h' <;> simp [h'] at hswitching
  shown _ := h

/-! ## The composition manager -/

namespace CompManager

variable [FloatArith F] {m m' : CompManager}

/-- New attributes of a display do not touch its pipes. -/
theorem samePipes_reconfigureDisplay (panel : HWPanelInfo) (mixer : HWMixerAttributes) :
    SamePipes type m.resource (m.reconfigureDisplay type panel mixer).resource := by
  intro block _
  rw [reconfigureDisplay]
  dsimp only [onResource]
  cases m.resourceContext type <;> rfl

/-- The end of safe mode does not matter to the resource manager. -/
theorem resource_postCommit (h : m.postCommit type = some m') :
    m'.resource = (m.onResource type m.resource.postCommit).resource := by
  obtain ⟨_, -, rfl⟩ := Option.map_eq_some_iff.mp h
  by_cases hall : insert type m.configuredDisplays = m.registeredDisplays
  · simp only [if_pos hall, setContext, onResource, resourceContext]
    cases type.block.bind m.resource.contexts <;> rfl
  · simp only [if_neg hall, setContext, onResource, resourceContext]
    cases type.block.bind m.resource.contexts <;> rfl

/-- `PostCommit` calls the resource manager for its own display only. -/
theorem callsOf_postCommit (h : m.postCommit type = some m') : CallsOf F type m.resource m'.resource := by
  rw [resource_postCommit h]
  exact callsOf_onResource .postCommit (fun _ => rfl) (fun _ => rfl)

/-- `PostCommit` leaves its display the pipes. -/
theorem samePipes_postCommit (hsound : m.resource.Sound info) (h : m.postCommit type = some m') :
    SamePipes type m.resource m'.resource := by
  intro block _
  rw [resource_postCommit h, onResource]
  cases m.resourceContext type with
  | none => rfl
  | some r =>
    dsimp only
    rw [ResourceDefault.postCommit, hsound.kernel.handoff_eq, ite_self]
    rfl

/-- A preparation that succeeds leaves the display the pipes of its configuration. -/
theorem names_of_prepare (hinfo : info.Consistent) (hsorted : info.priorityOrder = info.hwPipes.zipIdx)
    (hsound : s.Sound info) {block : HWBlockType} (hblock : type.block = some block)
    {ctx : DisplayResourceContext} (hctx : s.contexts block = some ctx) {hw : HWLayersInfo F}
    {config : HWLayerConfig F} (hexit : (s.prepare ctx hw.hwLayers config).exit = .reserved) :
    Names (s.prepare ctx hw.hwLayers config).resource type
      ⟨hw, (s.prepare ctx hw.hwLayers config).config⟩ := by
  have hperm := hsound.laidOut.reserved_perm_stored hinfo hsorted ctx hw.hwLayers config hexit
  rw [hsound.held.context block ctx hctx] at hperm
  exact ⟨block, hblock, hperm⟩

/-- The loop of `Prepare` calls for its display only, and when it succeeds the display has the pipes of the
configuration. -/
theorem tryStrategies_spec (hinfo : info.Consistent) (hsorted : info.priorityOrder = info.hwPipes.zipIdx)
    {st : Strategy} {ctx : DisplayResourceContext} {block : HWBlockType} (hblock : type.block = some block)
    {count : Nat} {hw : HWLayers F} {error : Option CoreError} {t : Attempt F}
    (hsound : s.Sound info) (hctx : s.contexts block = some ctx)
    (h : tryStrategies st ctx count s hw error = some t) :
    CallsOf F type s t.resource ∧
      (error ≠ none → t.error = none → Names t.resource type t.hwLayers) := by
  induction count generalizing s hw error with
  | zero =>
    obtain rfl := Option.some.inj h
    exact ⟨.refl, fun herror hnone => absurd hnone herror⟩
  | succ count ih =>
    obtain ⟨next, hnext, h⟩ := Option.bind_eq_some_iff.mp h
    cases next with
    | error e =>
      obtain rfl := Option.some.inj h
      exact ⟨.refl, fun _ hnone => nomatch hnone⟩
    | ok hwInfo =>
      have hcalls := callsOf_prepare hblock hctx hwInfo.hwLayers hw.config
      have hcontexts : (s.prepare ctx hwInfo.hwLayers hw.config).resource.contexts block = some ctx := by
        rw [contexts_prepare, hctx]
      have hretry {e : CoreError} (h : tryStrategies st ctx count
          (s.prepare ctx hwInfo.hwLayers hw.config).resource
          ⟨hwInfo, (s.prepare ctx hwInfo.hwLayers hw.config).config⟩ (some e) = some t) :
          CallsOf F type s t.resource ∧
            (error ≠ none → t.error = none → Names t.resource type t.hwLayers) := by
        obtain ⟨hrest, hnames⟩ := ih (hsound.callsOf hcalls) hcontexts h
        exact ⟨hcalls.trans hrest, fun _ => hnames (by simp)⟩
      dsimp only at h
      cases hexit : (s.prepare ctx hwInfo.hwLayers hw.config).exit with
      | aborted => simp [hexit] at h
      | refused e =>
        rw [hexit] at h
        exact hretry h
      | failed e =>
        rw [hexit] at h
        exact hretry h
      | reserved =>
        rw [hexit] at h
        obtain rfl := Option.some.inj h
        exact ⟨hcalls, fun _ _ => names_of_prepare hinfo hsorted hsound hblock hctx hexit⟩

/-- `Prepare` calls the resource manager for its own display, and without an error the pipes of the
display are those that the prepared configuration names. -/
theorem prepare_spec (hinfo : info.Consistent) (hsorted : info.priorityOrder = info.hwPipes.zipIdx)
    (hsound : m.resource.Sound info) {hw hw' : HWLayers F} {error : Option CoreError}
    (h : m.prepare type hw = some (m', hw', error)) :
    CallsOf F type m.resource m'.resource ∧ (error = none → Names m'.resource type hw') := by
  obtain ⟨ctx, -, h⟩ := Option.bind_eq_some_iff.mp h
  obtain ⟨r, hr, h⟩ := Option.bind_eq_some_iff.mp h
  obtain ⟨block, hblock, hctx⟩ := Option.bind_eq_some_iff.mp hr
  obtain ⟨t, ht, heq⟩ := Option.map_eq_some_iff.mp h
  obtain ⟨hcalls, hnames⟩ := tryStrategies_spec hinfo hsorted hblock hsound hctx ht
  cases heq
  exact ⟨hcalls, hnames (by simp)⟩

/-- The same for `ReConfigure`, when it gets as far as a reservation. -/
theorem reConfigure_spec (hinfo : info.Consistent) (hsorted : info.priorityOrder = info.hwPipes.zipIdx)
    (hsound : m.resource.Sound info) {hw hw' : HWLayers F} {exit : Exit}
    (h : m.reConfigure type hw = some (m', hw', exit)) :
    CallsOf F type m.resource m'.resource ∧ (exit = .reserved → Names m'.resource type hw') := by
  obtain ⟨r, hr, h⟩ := Option.bind_eq_some_iff.mp h
  obtain ⟨block, hblock, hctx⟩ := Option.bind_eq_some_iff.mp hr
  obtain ⟨-, heq⟩ := Option.ite_none_left_eq_some.mp h
  cases heq
  exact ⟨callsOf_prepare hblock hctx _ _, fun hexit =>
    names_of_prepare hinfo hsorted hsound hblock hctx hexit⟩

/-- Only a display that is switched off gives its pipes back. -/
theorem setDisplayState_cases {state : DisplayState} (h : m.setDisplayState type state = some m') :
    CallsOf F type m.resource m'.resource ∧ (state ≠ .off → m'.resource = m.resource) := by
  cases state with
  | off =>
    obtain ⟨m₁, hpurge, rfl⟩ := Option.map_eq_some_iff.mp h
    have hcalls := callsOf_purge (F := F) hpurge
    exact ⟨hcalls, fun hne => absurd rfl hne⟩
  | on =>
    have hresource : m'.resource = m.resource := by
      obtain rfl := Option.some.inj h
      split <;> rfl
    exact ⟨hresource ▸ .refl, fun _ => hresource⟩
  | doze | dozeSuspend | standby =>
    obtain rfl := Option.some.inj h
    exact ⟨.refl, fun _ => rfl⟩

end CompManager

/-! ## The displays -/

namespace Core

open CompManager

variable [FloatArith F] {c c' : Core F} {m : CompManager} {d : DisplayBase F}

/-- What holds in every run. -/
structure Sound (info : HWResourceInfo) (c : Core F) : Prop where
  resource : c.manager.resource.Sound info
  settled : ∀ type d, c.displays type = some d → Settled c.manager.resource type d

/-- The calls for one display matter to that display only. -/
theorem Sound.of_calls (h : c.Sound info) (hcalls : CallsOf F type c.manager.resource m.resource)
    {displays : DisplayType → Option (DisplayBase F)}
    (hothers : ∀ other, other ≠ type → displays other = c.displays other)
    (hown : ∀ d, displays type = some d → Settled m.resource type d) :
    Sound info { manager := m, displays } where
  resource := h.resource.callsOf hcalls
  settled other d hd := by
    by_cases heq : other = type
    · subst heq
      exact hown d hd
    · refine (h.settled other d ((hothers other heq).symm.trans hd)).congr fun block hblock => ?_
      exact (h.resource.sameFor_callsOf hcalls fun htype =>
        heq (DisplayType.eq_of_block htype hblock)).reserved

/-- A display and the calls for it are put back, and the other displays keep their pipes. -/
theorem Sound.put (h : c.Sound info) (hcalls : CallsOf F type c.manager.resource m.resource)
    (hd : Settled m.resource type d) : (c.put type m d).Sound info := by
  refine h.of_calls hcalls (fun other hne => Function.update_of_ne hne _ _) fun d' hd' => ?_
  rw [Function.update_self] at hd'
  exact Option.some.inj hd' ▸ hd

/-- A display is put back without a call of the resource manager. -/
theorem Sound.putDisplay (h : c.Sound info) (hd : Settled c.manager.resource type d) :
    (c.putDisplay type d).Sound info :=
  h.put .refl hd

omit [FloatArith F] in
/-- The contexts of the composition manager do not matter. -/
theorem Sound.writeContext (h : c.Sound info) (f : DisplayCompositionContext → DisplayCompositionContext) :
    Sound info { c with manager := c.manager.writeContext type f } :=
  ⟨h.resource, h.settled⟩

/-- A new display has nothing to show. -/
theorem Sound.create (h : c.Sound info) (hnone : c.displays type = none) (created : Created)
    (attributes : HWAttributes) : (c.create type created attributes).Sound info := by
  unfold Core.create
  dsimp only
  split
  · exact h
  · split
    · exact h.putDisplay (.of_needsValidate rfl (.inl rfl))
    · split
      next => exact h
      next m hregister =>
        have hcalls := callsOf_registerDisplay (F := F) hregister
        split
        · refine h.of_calls (hcalls.trans callsOf_unregisterDisplay) (fun _ _ => rfl) fun d hd => ?_
          cases hnone.symm.trans hd
        · exact h.put hcalls (.of_needsValidate rfl (.inl rfl))

/-- A display goes, and the others keep their pipes. -/
theorem Sound.destroy (h : c.Sound info) : (c.destroy type).Sound info := by
  refine h.of_calls ?_ (fun other hne => Function.update_of_ne hne _ _) fun d hd => ?_
  · split
    · exact .refl
    · exact callsOf_unregisterDisplay
  · rw [Function.update_self] at hd
    cases hd

/-- `Prepare` begins: the display has to validate from here on. -/
theorem Sound.prepare (h : c.Sound info) {stack : LayerStack F} {hdr : Option CoreError}
    (hstep : c.prepare type d stack hdr = some c') : c'.Sound info := by
  unfold Core.prepare at hstep
  dsimp only at hstep
  split at hstep
  · obtain rfl := Option.some.inj hstep
    exact h.putDisplay (.of_needsValidate rfl (.inl rfl))
  · split at hstep
    · obtain rfl := Option.some.inj hstep
      exact h.putDisplay (.of_needsValidate rfl (.inl rfl))
    · split at hstep
      · obtain rfl := Option.some.inj hstep
        exact h.putDisplay (.of_needsValidate rfl (.inl rfl))
      · obtain ⟨m, hm, rfl⟩ := Option.map_eq_some_iff.mp hstep
        obtain ⟨ctx, -, rfl⟩ := Option.map_eq_some_iff.mp hm
        exact h.put .refl (.of_needsValidate rfl (.inr rfl))

/-- `Commit` begins; a display that has to validate is refused. -/
theorem Sound.commit (h : c.Sound info) (hd : Settled c.manager.resource type d) (stack : LayerStack F) :
    (c.commit type d stack).Sound info := by
  unfold Core.commit
  split
  · exact h.putDisplay (.of_needsValidate rfl (.inl rfl))
  · split
    next hvalidate => exact h.putDisplay (.of_needsValidate hvalidate (.inl rfl))
    next hvalidate =>
      have hvalid : d.needsValidate = false := by simpa using hvalidate
      split
      · exact h.putDisplay (.of_commit hvalid (.inl rfl) (hd.shown hvalid))
      · exact h.putDisplay (.of_commit hvalid (.inr rfl) (hd.shown hvalid))

/-- `Flush` keeps the system sound. -/
theorem Sound.flush (h : c.Sound info) (hd : Settled c.manager.resource type d)
    (answer : Option CoreError) : (c.flush type d answer).Sound info := by
  unfold Core.flush
  split
  · exact h.putDisplay (.of_plain rfl hd.shown)
  · split
    · exact h.putDisplay (.of_plain rfl fun _ _ => .inl rfl)
    · exact h.putDisplay (.of_plain rfl fun _ _ => .inl rfl)

/-- `SetDisplayState` begins and leaves the system sound. -/
theorem Sound.setDisplayState (h : c.Sound info) (hd : Settled c.manager.resource type d)
    (state : DisplayState) (answer : Option CoreError) :
    (c.setDisplayState type d state answer).Sound info := by
  unfold Core.setDisplayState
  by_cases hsame : state = d.state
  · rw [if_pos hsame]
    exact h.putDisplay (.of_plain rfl hd.shown)
  · rw [if_neg hsame]
    by_cases hanswer : answer.isSome
    · simp only [hanswer, if_true]
      refine h.putDisplay (.of_plain rfl ?_)
      split
      · exact fun _ _ => .inl rfl
      · exact hd.shown
    · simp only [hanswer]
      cases state with
      | on =>
        dsimp only
        by_cases hvirtual : type = .virtual
        · rw [if_pos hvirtual]
          exact h.putDisplay (.of_plain rfl hd.shown)
        · rw [if_neg hvirtual]
          exact h.putDisplay (.of_plain rfl hd.shown)
      | off =>
        exact h.putDisplay ⟨by simp, by simp, by simp, fun _ _ => rfl, fun _ _ => .inl rfl⟩
      | standby | doze | dozeSuspend => exact h.putDisplay (.of_plain rfl hd.shown)

/-- `ReconfigureDisplay` changes the attributes only. -/
theorem reconfigureDisplay_spec (m : CompManager) (type : DisplayType) (d : DisplayBase F)
    (answer : Except CoreError HWAttributes) :
    let r := Core.reconfigureDisplay m type d answer
    CallsOf F type m.resource r.1.resource ∧ SamePipes type m.resource r.1.resource ∧
      ∃ attributes, r.2.1 = { d with attributes := attributes } := by
  cases answer with
  | error e => exact ⟨.refl, fun _ _ => rfl, d.attributes, rfl⟩
  | ok attributes =>
    unfold Core.reconfigureDisplay
    dsimp only
    split
    · exact ⟨.refl, fun _ _ => rfl, d.attributes, rfl⟩
    · exact ⟨callsOf_reconfigureDisplay _ _, samePipes_reconfigureDisplay _ _, attributes, rfl⟩

/-- The end of a reconfiguration, whatever the driver answers. -/
theorem Sound.putReconfigured (h : c.Sound info) (hd : Settled c.manager.resource type d)
    (answer : Except CoreError HWAttributes) (result : Option CoreError) :
    let r := Core.reconfigureDisplay c.manager type d answer
    (c.put type r.1 (r.2.1.finish result)).Sound info := by
  obtain ⟨hcalls, hsame, attributes, hattributes⟩ := reconfigureDisplay_spec c.manager type d answer
  refine h.put hcalls (.of_plain rfl ?_)
  rw [hattributes]
  exact fun hvalidate hsettled => (hd.shown hvalidate hsettled).congr hsame

/-- A new configuration of the frame buffer. -/
theorem Sound.setFrameBufferConfig (h : c.Sound info) (hd : Settled c.manager.resource type d)
    (fbConfig : FrameBufferConfig) (layout : BufferLayout) :
    (c.setFrameBufferConfig type d fbConfig layout).Sound info := by
  unfold Core.setFrameBufferConfig
  dsimp only
  split
  · exact h.putDisplay (.of_plain rfl hd.shown)
  · refine h.put (callsOf_reconfigureDisplay _ _) (.of_plain rfl fun hvalidate hsettled => ?_)
    exact (hd.shown hvalidate hsettled).congr (samePipes_reconfigureDisplay _ _)

/-- Every call begins in a sound state. -/
theorem Sound.startCall (h : c.Sound info) (hd : Settled c.manager.resource type d) {call : Event F}
    (hstep : c.startCall type d call = some c') : c'.Sound info := by
  cases call with
  | prepare stack hdr => exact h.prepare hstep
  | destroy => exact Option.some.inj hstep ▸ h.destroy
  | commit stack => exact Option.some.inj hstep ▸ h.commit hd stack
  | flush answer => exact Option.some.inj hstep ▸ h.flush hd answer
  | setDisplayState state answer => exact Option.some.inj hstep ▸ h.setDisplayState hd state answer
  | reconfigure answer => exact Option.some.inj hstep ▸ h.putReconfigured hd answer _
  | setFrameBufferConfig fbConfig layout =>
    exact Option.some.inj hstep ▸ h.setFrameBufferConfig hd fbConfig layout
  | setCompositionState composition enable => exact Option.some.inj hstep ▸ h.writeContext _
  | thermalEvent level =>
    obtain rfl := Option.some.inj hstep
    split
    · exact h.writeContext _
    · exact h
  | create created attributes => exact Option.some.inj hstep ▸ h
  | idleTimeout => exact Option.some.inj hstep ▸ h
  | go answer => exact Option.some.inj hstep ▸ h

section Going

variable (hinfo : info.Consistent) (hsorted : info.priorityOrder = info.hwPipes.zipIdx)
include hinfo hsorted

/-- The loop of `Prepare` ends with a validation only when the display has its pipes. -/
theorem Sound.goPreparing (h : c.Sound info) (hvalidate : d.needsValidate = true)
    (hprogress : d.progress = .preparing) {answer : Option CoreError}
    (hstep : c.goPreparing type d answer = some c') : c'.Sound info := by
  obtain ⟨⟨m, hw, error⟩, hprepare, rfl⟩ := Option.map_eq_some_iff.mp hstep
  obtain ⟨hcalls, hnames⟩ := prepare_spec hinfo hsorted h.resource hprepare
  refine h.put hcalls ?_
  cases error with
  | some e => exact .of_needsValidate hvalidate (.inl rfl)
  | none =>
    cases answer with
    | none => exact .of_plain rfl fun _ _ => .inr ⟨rfl, hnames rfl⟩
    | some e =>
      dsimp only [afterAttempt]
      split
      · exact .of_needsValidate hvalidate (.inl rfl)
      · exact .of_needsValidate hvalidate (.inr hprogress)

/-- `ReConfigure` in `Commit`: its error is lost, and the display is then unsettled. -/
theorem Sound.goReconfiguring (h : c.Sound info) (hvalidate : d.needsValidate = false)
    {stack : LayerStack F} {answer : Option CoreError}
    (hstep : c.goReconfiguring type d stack answer = some c') : c'.Sound info := by
  obtain ⟨⟨m, hw, exit⟩, hreconfigure, rfl⟩ := Option.map_eq_some_iff.mp hstep
  obtain ⟨hcalls, hnames⟩ := reConfigure_spec hinfo hsorted h.resource hreconfigure
  refine h.put hcalls ?_
  cases answer with
  | some e => exact .of_plain rfl fun _ hsettled => by simp [DisplayBase.finish] at hsettled
  | none =>
    refine .of_commit hvalidate (.inr rfl) fun hsettled => .inr ⟨rfl, hnames ?_⟩
    simpa using hsettled

/-- A call goes on, from each point at which it can have been interrupted. -/
theorem Sound.go (h : c.Sound info) (hd : Settled c.manager.resource type d) {answer : Answer}
    (hstep : c.go type d answer = some c') : c'.Sound info := by
  unfold Core.go at hstep
  cases hprogress : d.progress with
  | idle =>
    rw [hprogress] at hstep
    exact Option.some.inj hstep ▸ h
  | preparing =>
    rw [hprogress] at hstep
    exact h.goPreparing hinfo hsorted (hd.preparing hprogress) hprogress hstep
  | reconfiguring stack =>
    rw [hprogress] at hstep
    exact h.goReconfiguring hinfo hsorted (hd.reconfiguring stack hprogress) hstep
  | committing stack =>
    rw [hprogress] at hstep
    obtain ⟨-, heq⟩ := Option.ite_none_left_eq_some.mp hstep
    obtain rfl := Option.some.inj heq
    refine h.putDisplay ?_
    split
    · exact .of_plain rfl hd.shown
    · exact .of_plain rfl hd.shown
  | committed =>
    rw [hprogress] at hstep
    obtain ⟨m, hm, rfl⟩ := Option.map_eq_some_iff.mp hstep
    have hshown (hvalidate : d.needsValidate = false) (hsettled : d.unsettled = false) :=
      (hd.shown hvalidate hsettled).congr (samePipes_postCommit h.resource hm)
    refine h.put (callsOf_postCommit hm) ?_
    split
    · exact .of_plain rfl hshown
    · exact .of_plain rfl hshown
  | refreshing =>
    rw [hprogress] at hstep
    exact Option.some.inj hstep ▸ h.putReconfigured hd answer.attributes none
  | purging =>
    rw [hprogress] at hstep
    obtain ⟨m, hm, rfl⟩ := Option.map_eq_some_iff.mp hstep
    exact h.put (callsOf_purge hm) (.of_needsValidate rfl (.inl rfl))
  | poweringOn =>
    rw [hprogress] at hstep
    obtain rfl := Option.some.inj hstep
    refine h.put (callsOf_reconfigureDisplay _ _) (.of_plain rfl fun hvalidate hsettled => ?_)
    exact (hd.shown hvalidate hsettled).congr (samePipes_reconfigureDisplay _ _)
  | switching state active =>
    rw [hprogress] at hstep
    obtain ⟨m, hm, rfl⟩ := Option.map_eq_some_iff.mp hstep
    obtain ⟨hcalls, hresource⟩ := setDisplayState_cases (F := F) hm
    refine h.put hcalls (.of_plain rfl fun hvalidate hsettled => ?_)
    -- the pipes are gone when the display is switched off, and so are its layers
    by_cases hoff : state = .off
    · subst hoff
      exact .inl (hd.switching active hprogress)
    · refine (hd.shown hvalidate hsettled).congr fun _ _ => ?_
      rw [hresource hoff]

/-- Every step of every display keeps the system sound. -/
theorem Sound.step (h : c.Sound info) {event : DisplayType × Event F} (hstep : c.step event = some c') :
    c'.Sound info := by
  obtain ⟨type, event⟩ := event
  unfold Core.step at hstep
  dsimp only at hstep
  cases hdisplay : c.displays type with
  | none =>
    rw [hdisplay] at hstep
    cases event with
    | create created attributes => exact Option.some.inj hstep ▸ h.create hdisplay created attributes
    | _ => exact Option.some.inj hstep ▸ h
  | some d =>
    rw [hdisplay] at hstep
    have hd := h.settled type d hdisplay
    cases event with
    | go answer => exact h.go hinfo hsorted hd hstep
    | idleTimeout =>
      obtain rfl := Option.some.inj hstep
      split
      · exact h.writeContext _
      · exact h
    | _ =>
      dsimp only at hstep
      split at hstep
      · exact h.startCall hd hstep
      · exact Option.some.inj hstep ▸ h

end Going

/-- For a consistent hardware table in order of priority, in every state that calls of the displays lead
to, in any interleaving and whatever the driver answers: a display that is about to hand its frame to the
driver has no layer to show, or the frame is the one that the driver has validated last and the pipes of
the display are exactly those that the frame names. This is said of a display whose last `ReConfigure`
since `Prepare`, and the validation after it, has not failed. -/
theorem committing_of_reachable (info : HWResourceInfo) (hinfo : info.Consistent)
    (hsorted : info.priorityOrder = info.hwPipes.zipIdx) (resource : ResourceDefault)
    (hinit : info.init = some resource) (c : Core F) (hreach : Core.Reachable resource c)
    (type : DisplayType) (d : DisplayBase F) (hd : c.displays type = some d) (stack : LayerStack F)
    (hprogress : d.progress = .committing stack) (hsettled : d.unsettled = false) :
    d.hwLayers.info.hwLayers = [] ∨ d.validated = some d.hwLayers ∧
      ∃ block, type.block = some block ∧
        (c.manager.resource.reservedIds block).Perm d.hwLayers.config.storedIds := by
  obtain ⟨extMaxLayers, separateRotator, hreach⟩ := hreach
  have hstart : Sound (F := F) info { manager := { resource, extMaxLayers, separateRotator } } := by
    obtain ⟨s, hs, hlaid⟩ := exists_init hinfo
    obtain rfl := Option.some.inj (hs.symm.trans hinit)
    exact ⟨⟨hlaid, kernelKeeps_init hinfo hinit, held_init hinfo hinit⟩, fun _ _ hnone => by cases hnone⟩
  have hsound := hreach.invariant (Sound info) (fun _ _ _ h hstep => h.step hinfo hsorted hstep) hstart
  have hown := hsound.settled type d hd
  exact hown.shown (hown.committing stack hprogress) hsettled

/-- A frame of one layer of an application above a target of some size. -/
def oneLayer (width height : Rat) : LayerStack Rat :=
  { layers := [{ framebuffer width height with composition := .gpu }, { framebuffer width height with }] }

/-- The external display takes a pipe between the preparation of the primary one and its commit. -/
def crossedCommit : List (DisplayType × Event Rat) :=
  [(.primary, .create .done { mixer := { width := 3840, height := 2160 } }),
    (.hdmi, .create .done { mixer := { width := 1920, height := 1080 } }),
    (.primary, .setDisplayState .on none), (.hdmi, .setDisplayState .on none),
    (.primary, .go {}), (.hdmi, .go {}), (.primary, .go {}), (.hdmi, .go {}),
    (.primary, .prepare (oneLayer 3840 2160) none), (.hdmi, .prepare (oneLayer 1920 1080) none),
    (.primary, .go {}), (.hdmi, .go {}), (.primary, .commit (oneLayer 3840 2160))]

/-- The primary display is about to hand over a frame with two pipes, and the external one has a pipe. -/
def crossed (c : Core Rat) : Bool :=
  (c.displays .primary).any fun d =>
    (match d.progress with
      | .committing _ => true
      | _ => false) && !d.unsettled && d.hwLayers.info.hwLayers.length == 1 &&
    d.hwLayers.config.storedIds == [16, 32] && (c.manager.resource.reservedIds .hdmi).length == 1

/-- The frame of the primary display still has its two pipes although the external one has taken a
pipe in between. -/
theorem committing_of_reachable_crossed :
    ∃ resource, sortedTable.init = some resource ∧ ∃ c : Core Rat, Core.Reachable resource c ∧
      (c.manager.resource.reservedIds .hdmi).length = 1 ∧
      (c.manager.resource.reservedIds .primary).Perm [16, 32] := by
  have hinfo : sortedTable.Consistent := ⟨by decide, by decide, by decide, by decide, by decide⟩
  obtain ⟨resource, hinit, -⟩ := exists_init hinfo
  have hrun : (sortedTable.init.bind fun resource =>
      Library.tryRun Core.step { manager := { resource } } crossedCommit).any crossed = true := by
    decide +kernel
  rw [hinit, Option.bind_some] at hrun
  obtain ⟨c, hreach, hcrossed⟩ := Library.Reaches.of_any crossedCommit crossed hrun
  have hreachable : Core.Reachable resource c := ⟨2, false, hreach⟩
  refine ⟨resource, hinit, ?_⟩
  cases hdisplay : c.displays .primary with
  | none => simp [crossed, hdisplay] at hcrossed
  | some d =>
    cases hprogress : d.progress with
    | committing stack =>
      simp only [crossed, hdisplay, hprogress, Option.any_some, Bool.true_and, Bool.and_eq_true,
        Bool.not_eq_true', beq_iff_eq] at hcrossed
      obtain ⟨⟨⟨hsettled, hlayers⟩, hstored⟩, hother⟩ := hcrossed
      have hshown := committing_of_reachable sortedTable hinfo (by decide) resource hinit c hreachable .primary d
        hdisplay stack hprogress hsettled
      obtain hnone | ⟨-, block, hblock, hperm⟩ := hshown
      · simp [hnone] at hlayers
      · cases hblock
        exact ⟨c, hreachable, hother, hstored ▸ hperm⟩
    | _ => simp [crossed, hdisplay, hprogress] at hcrossed

end Core

end Yoshino.Display
