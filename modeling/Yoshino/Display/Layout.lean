import Yoshino.Display.PipeOrder

/-!
# The layout of the pipes stays

Every call gives back the pipes of a block, takes free pipes one by one, hands pipes over to the user
mode or changes a context. What each of these preserves, every run preserves. The layout of the pipes
is of this kind: only the owner and the block of a pipe ever change.
-/

namespace Yoshino.Display

open Yoshino.Library

variable {F : Type} [FloatArith F]

namespace ResourceDefault

section Rules

variable {inv : ResourceDefault → Prop} {block : HWBlockType}
  (hreserve : ∀ s i, s.isFree i = true → inv s → inv (s.reserve i block))

include hreserve

/-- A search takes one free pipe at most. -/
theorem searchPipe_rule {s : ResourceDefault} (hs : inv s) (start numPipe : Nat) :
    inv (s.searchPipe block start numPipe).2 := by
  unfold searchPipe
  split
  next i hfind => exact hreserve s i (List.find?_some hfind) hs
  · exact hs

/-- The search among the pipes of one type. -/
theorem nextPipe_rule {s : ResourceDefault} (hs : inv s) (type : PipeType) :
    inv (s.nextPipe type block).2 := by
  unfold nextPipe
  split <;> exact searchPipe_rule hreserve hs _ _

/-- The search of `GetPipe`, type by type. -/
theorem getPipe_rule {s : ResourceDefault} (hs : inv s) (needScale : Bool) :
    inv (s.getPipe block needScale).2 := by
  have hdma : inv (if !needScale then s.nextPipe .dma block else (s.numPipe, s)).2 := by
    split
    · exact nextPipe_rule hreserve hs .dma
    · exact hs
  unfold getPipe
  generalize (if !needScale then s.nextPipe .dma block else (s.numPipe, s)) = dma at hdma ⊢
  obtain ⟨index, s⟩ := dma
  dsimp only at hdma ⊢
  split
  · split
    · exact nextPipe_rule hreserve (nextPipe_rule hreserve hdma .rgb) .vig
    · exact nextPipe_rule hreserve hdma .rgb
  · split
    · exact nextPipe_rule hreserve hdma .vig
    · exact hdma

/-- The pipe for the left half. -/
theorem leftPipe_rule {s : ResourceDefault} (hs : inv s) (c : HWLayerConfig F) :
    inv (s.leftPipe block c).2 := by
  unfold leftPipe
  split
  · exact getPipe_rule hreserve hs _
  · exact hs

/-- The pipe for the right half, if there is one. -/
theorem acquireRight_rule {s : ResourceDefault} (hs : inv s) (leftIndex : Nat) (c : HWLayerConfig F) :
    inv (s.acquireRight block leftIndex c).resource := by
  have hright := getPipe_rule hreserve hs (isScalingNeeded c.rightPipe)
  unfold acquireRight
  generalize s.getPipe block (isScalingNeeded c.rightPipe) = right at hright ⊢
  dsimp only
  split
  · exact hright
  · split <;> exact hright

/-- What giving back and taking preserve, taking the pipes for a layer preserves. -/
theorem acquire_rule (hrelease : ∀ s, inv s → inv (s.release block)) {s : ResourceDefault}
    (hs : inv s) (c : HWLayerConfig F) : inv (s.acquire block c).resource := by
  have hleft := leftPipe_rule hreserve (hrelease s hs) c
  unfold acquire
  generalize (s.release block).leftPipe block c = left at hleft ⊢
  dsimp only
  split
  · exact hleft
  · split
    · exact hleft
    · split
      · exact acquireRight_rule hreserve hleft left.1 _
      · exact hleft

/-- What reserving a free pipe and releasing the block keep, `Prepare` keeps. -/
theorem prepare_rule (hrelease : ∀ s, inv s → inv (s.release block)) {s : ResourceDefault}
    (hs : inv s) {ctx : DisplayResourceContext} (hblock : ctx.hwBlockId = block)
    (layers : List (Layer F)) (c : HWLayerConfig F) : inv (s.prepare ctx layers c).resource := by
  subst hblock
  unfold prepare
  split
  · exact hs
  · exact hs
  · split
    · exact hs
    · split
      · exact hs
      · exact acquire_rule hreserve hrelease hs _

end Rules

/-- A display is refused, or it gets a block that was not in use. -/
theorem registerDisplay_cases (s : ResourceDefault) (type : DisplayType) (mixer : HWMixerAttributes) :
    (∃ error, s.registerDisplay type mixer = .error error) ∨
      ∃ block, s.contexts block = none ∧
        s.registerDisplay type mixer =
          .ok (s.setContext block (some { hwBlockId := block, mixerAttributes := mixer })) := by
  unfold registerDisplay
  cases type.block with
  | none => exact .inl ⟨.parameters, rfl⟩
  | some block =>
    cases hcontext : s.contexts block with
    | some ctx => exact .inl ⟨.resources, by simp only [hcontext]; rfl⟩
    | none => exact .inr ⟨block, hcontext, by simp only [hcontext]; rfl⟩

/-- A call for a block without a context does nothing. -/
theorem call_rule {inv : ResourceDefault → Prop} {s : ResourceDefault} (hs : inv s)
    (block : HWBlockType) {f : DisplayResourceContext → ResourceDefault}
    (hf : ∀ ctx, s.contexts block = some ctx → inv (f ctx)) : inv (s.call block f) := by
  unfold call
  split
  next ctx hctx => exact hf ctx hctx
  · exact hs

/-- What the four kinds of change preserve, every call preserves. -/
theorem step_rule {inv : ResourceDefault → Prop}
    (hreserve : ∀ block s i, s.isFree i = true → inv s → inv (s.reserve i block))
    (hrelease : ∀ block s, inv s → inv (s.release block))
    (hhandoff : ∀ block s, inv s → inv (s.handoff block))
    (hcontext : ∀ block ctx s, inv s → inv (s.setContext block ctx))
    {s : ResourceDefault} (hs : inv s) (e : ResourceEvent F) : inv (s.step e) := by
  cases e with
  | registerDisplay type mixer =>
    unfold step
    dsimp only
    obtain ⟨error, hrefused⟩ | ⟨block, -, hregistered⟩ := registerDisplay_cases s type mixer
    · rw [hrefused]
      exact hs
    · rw [hregistered]
      exact hcontext _ _ _ hs
  | unregisterDisplay block => exact call_rule hs block fun ctx _ => hcontext _ _ _ (hrelease _ _ hs)
  | reconfigureDisplay block mixer => exact call_rule hs block fun ctx _ => hcontext _ _ _ hs
  | prepare block layers c =>
    exact call_rule hs block fun ctx _ => prepare_rule (hreserve _) (hrelease _) hs rfl layers c
  | postCommit block =>
    refine call_rule hs block fun ctx _ => hcontext _ _ _ ?_
    split
    · exact hhandoff _ _ hs
    · exact hs
  | purge block => exact call_rule hs block fun ctx _ => hrelease _ _ hs

end ResourceDefault

/-- A pipe without what changes, its owner and its block. -/
def SourcePipe.bare (p : SourcePipe) : SourcePipe := { p with owner := .userMode, hwBlockId := none }

/-- The pipes in order of priority, all of them free. -/
def HWResourceInfo.layout (info : HWResourceInfo) : List SourcePipe :=
  (info.priorityOrder.map TableEntry.pipe).mapIdx fun k p => { p with priority := k }

/-- The pipes of a resource manager are those of a hardware table in order of priority. -/
structure ResourceDefault.LaidOut (info : HWResourceInfo) (s : ResourceDefault) : Prop where
  hwResInfo : s.hwResInfo = info.limitScale
  numPipe : s.numPipe = info.hwPipes.length
  bare : s.srcPipes.map SourcePipe.bare = info.layout

namespace ResourceDefault

variable {info : HWResourceInfo} {s : ResourceDefault}

/-- A change of one pipe that keeps its place keeps the layout. -/
theorem map_bare_modify (pipes : List SourcePipe) (i : Nat) (f : SourcePipe → SourcePipe)
    (hf : ∀ p, (f p).bare = p.bare) :
    (pipes.modify i f).map SourcePipe.bare = pipes.map SourcePipe.bare := by
  refine List.ext_getElem? fun k => ?_
  rw [List.getElem?_map, List.getElem?_modify, List.getElem?_map]
  cases pipes[k]? with
  | none => rfl
  | some p => by_cases hk : i = k <;> simp [hk, hf]

/-- Taking a pipe changes only to whom it belongs. -/
theorem LaidOut.reserve (h : s.LaidOut info) (i : Nat) (block : HWBlockType) :
    (s.reserve i block).LaidOut info where
  hwResInfo := h.hwResInfo
  numPipe := h.numPipe
  bare := (map_bare_modify s.srcPipes i (SourcePipe.giveTo block) fun _ => rfl).trans h.bare

/-- A change of each pipe that keeps its place keeps the layout. -/
theorem LaidOut.map (h : s.LaidOut info) {f : SourcePipe → SourcePipe} (hf : ∀ p, (f p).bare = p.bare) :
    ({ s with srcPipes := s.srcPipes.map f } : ResourceDefault).LaidOut info where
  hwResInfo := h.hwResInfo
  numPipe := h.numPipe
  bare := by
    rw [← h.bare, List.map_map]
    exact List.map_congr_left fun p _ => hf p

/-- Releasing the pipes of a block changes only to whom they belong. -/
theorem LaidOut.release (h : s.LaidOut info) (block : HWBlockType) : (s.release block).LaidOut info :=
  h.map fun p => by split <;> rfl

/-- Handing the pipes of the kernel over changes only to whom they belong. -/
theorem LaidOut.handoff (h : s.LaidOut info) (block : HWBlockType) : (s.handoff block).LaidOut info :=
  h.map fun p => by split <;> rfl

/-- Every call leaves the pipes where `Init` has put them. -/
theorem LaidOut.step (h : s.LaidOut info) (e : ResourceEvent F) : (s.step e).LaidOut info :=
  step_rule (fun block _ i _ hs => hs.reserve i block) (fun block _ hs => hs.release block)
    (fun block _ hs => hs.handoff block) (fun _ _ _ hs => ⟨hs.hwResInfo, hs.numPipe, hs.bare⟩) h e

/-- `Init` succeeds, lays the table out and leaves the two pipes after the VIG ones to the kernel. -/
theorem init_eq (h : info.Consistent) :
    info.init = some
      { hwResInfo := info.limitScale
        srcPipes := (info.layout.modify info.numVigPipe SourcePipe.keep).modify (info.numVigPipe + 1)
          SourcePipe.keep
        numPipe := info.hwPipes.length } := by
  have hsome : ¬ info.numVigPipe + info.numRgbPipe + info.numDmaPipe = 0 := by
    have := h.afterVig
    omega
  unfold HWResourceInfo.init
  rw [if_neg hsome, h.placed, h.numPipe]
  simp only [Option.bind_eq_bind, Option.bind_some, h.srcPipes]
  rfl

/-- No pipe of the layout is taken yet. -/
theorem map_bare_layout (info : HWResourceInfo) : info.layout.map SourcePipe.bare = info.layout := by
  refine List.ext_getElem? fun k => ?_
  rw [HWResourceInfo.layout, List.getElem?_map, List.getElem?_mapIdx, List.getElem?_map]
  cases info.priorityOrder[k]? with
  | none => rfl
  | some e => rfl

/-- The layout has a place for each pipe of the table. -/
theorem length_layout (h : info.Consistent) : info.layout.length = info.hwPipes.length := by
  rw [HWResourceInfo.layout, List.length_mapIdx, List.length_map, h.length_priorityOrder]

/-- For a consistent table `Init` succeeds. -/
theorem exists_init (h : info.Consistent) : ∃ s, info.init = some s ∧ s.LaidOut info := by
  refine ⟨_, init_eq h, rfl, rfl, ?_⟩
  calc ((info.layout.modify info.numVigPipe SourcePipe.keep).modify (info.numVigPipe + 1)
          SourcePipe.keep).map SourcePipe.bare
      = (info.layout.modify info.numVigPipe SourcePipe.keep).map SourcePipe.bare :=
        map_bare_modify _ _ SourcePipe.keep fun _ => rfl
    _ = info.layout.map SourcePipe.bare := map_bare_modify _ _ SourcePipe.keep fun _ => rfl
    _ = info.layout := map_bare_layout info

/-- Every run leaves the pipes where `Init` has put them. -/
theorem LaidOut.run (h : s.LaidOut info) (events : List (ResourceEvent F)) :
    (Library.run ResourceDefault.step s events).LaidOut info :=
  run_invariant_of_step (LaidOut info) (fun _ e hs => hs.step e) s events h

end ResourceDefault

namespace HWResourceInfo

/-- The entry of the hardware table at a place in order of priority. -/
def entryAt (info : HWResourceInfo) (k : Nat) : TableEntry := info.priorityOrder.getD k ({}, 0)

/-- The id of the pipe at a place in order of priority. -/
def idAt (info : HWResourceInfo) (k : Nat) : UInt32 := (info.entryAt k).1.id

/-- The place in the hardware table of the pipe at a place in order of priority. -/
def tableIndex (info : HWResourceInfo) (k : Nat) : Nat := (info.entryAt k).2

/-- A place in order of priority leads into the table. -/
theorem tableIndex_lt {info : HWResourceInfo} {k : Nat} (hk : k < info.priorityOrder.length) :
    info.tableIndex k < info.hwPipes.length := by
  have hentry : info.entryAt k = info.priorityOrder[k] := by
    rw [entryAt, List.getD_eq_getElem?_getD, List.getElem?_eq_getElem hk, Option.getD_some]
  have htable := mem_priorityOrder (List.getElem_mem hk)
  rw [tableIndex, hentry]
  exact (List.getElem?_eq_some_iff.mp htable).1

end HWResourceInfo

namespace ResourceDefault

variable {info : HWResourceInfo} {s : ResourceDefault}

/-- Apart from its owner a pipe is the one of the layout. -/
theorem LaidOut.bare_srcPipe (h : s.LaidOut info) (k : Nat) :
    (s.srcPipe k).bare = info.layout.getD k {} := by
  rw [← h.bare, srcPipe, List.getD_eq_getElem?_getD, List.getD_eq_getElem?_getD, List.getElem?_map]
  cases s.srcPipes[k]? <;> rfl

/-- The pipe of the layout at a place has the id and the index of the table. -/
theorem layout_getD (info : HWResourceInfo) (k : Nat) :
    (info.layout.getD k {}).mdssPipeId = info.idAt k ∧
      (info.layout.getD k {}).index = info.tableIndex k := by
  rw [HWResourceInfo.idAt, HWResourceInfo.tableIndex, HWResourceInfo.entryAt, HWResourceInfo.layout,
    List.getD_eq_getElem?_getD, List.getD_eq_getElem?_getD, List.getElem?_mapIdx, List.getElem?_map]
  cases info.priorityOrder[k]? <;> exact ⟨rfl, rfl⟩

/-- The pipe at a place has the id of its entry. -/
theorem LaidOut.mdssPipeId (h : s.LaidOut info) (k : Nat) : (s.srcPipe k).mdssPipeId = info.idAt k :=
  (congrArg SourcePipe.mdssPipeId (h.bare_srcPipe k)).trans (layout_getD info k).1

/-- The pipe at a place knows where its entry stands in the hardware table. -/
theorem LaidOut.index (h : s.LaidOut info) (k : Nat) : (s.srcPipe k).index = info.tableIndex k :=
  (congrArg SourcePipe.index (h.bare_srcPipe k)).trans (layout_getD info k).2

end ResourceDefault

end Yoshino.Display
