import Yoshino.Display.Layout

/-!
# The search for a pipe

`GetPipe` takes the first free pipe in an order of its own: DMA before RGB before VIG, without the pipes
that cannot scale where scaling is needed. The pipe it takes is the only one that changes. The number it
returns is the place of the pipe in the hardware table, not among the sorted pipes.
-/

namespace Yoshino.Display

namespace ResourceDefault

variable {s : ResourceDefault} {block : HWBlockType} {info : HWResourceInfo}

/-- The places of the pipes of one type. -/
def placesOf (s : ResourceDefault) (type : PipeType) : List Nat :=
  let info := s.hwResInfo
  match type with
  | .vig => List.range' 0 info.numVigPipe
  | .rgb => List.range' info.numVigPipe info.numRgbPipe
  | _ => List.range' (info.numVigPipe + info.numRgbPipe) info.numDmaPipe

/-- The places in which `GetPipe` looks, in its order. -/
def searchOrder (s : ResourceDefault) (needScale : Bool) : List Nat :=
  (if !needScale then s.placesOf .dma else []) ++
    (if !needScale || !s.hwResInfo.hasNonScalarRgb then s.placesOf .rgb else []) ++ s.placesOf .vig

/-- The place of the pipe that `GetPipe` takes. -/
def pick (s : ResourceDefault) (needScale : Bool) : Option Nat :=
  (s.searchOrder needScale).find? s.isFree

/-- What a search returns and leaves when it takes the pipe at a place, or finds none. -/
def taken (s : ResourceDefault) (block : HWBlockType) : Option Nat → Nat × ResourceDefault
  | some i => ((s.srcPipe i).index, s.reserve i block)
  | none => (s.numPipe, s)

/-- What a search in some places returns and leaves. -/
def search (s : ResourceDefault) (block : HWBlockType) (places : List Nat) : Nat × ResourceDefault :=
  s.taken block (places.find? s.isFree)

/-- The loop of `NextPipe` is a search in the places of the type. -/
theorem nextPipe_eq (s : ResourceDefault) (type : PipeType) (block : HWBlockType) :
    s.nextPipe type block = s.search block (s.placesOf type) := by
  have hsearch (start numPipe : Nat) :
      s.searchPipe block start numPipe = s.search block (List.range' start numPipe) := by
    unfold searchPipe search
    cases (List.range' start numPipe).find? s.isFree <;> rfl
  cases type <;> exact hsearch _ _

/-- The places a manager looks at are its own, and each pipe knows a place of the table. -/
structure Searchable (s : ResourceDefault) : Prop where
  numPipe : s.numPipe =
    s.hwResInfo.numVigPipe + s.hwResInfo.numRgbPipe + s.hwResInfo.numDmaPipe
  index : ∀ i, i < s.numPipe → (s.srcPipe i).index < s.numPipe

/-- The places of a type are places of the manager. -/
theorem Searchable.mem_placesOf (h : s.Searchable) {type : PipeType} {i : Nat}
    (hi : i ∈ s.placesOf type) : i < s.numPipe := by
  have hnum := h.numPipe
  unfold placesOf at hi
  split at hi
  all_goals
    have hrange := List.mem_range'_1.mp hi
    omega

/-- A search that has found nothing goes on with another type; one that has found a pipe ends, since
the index of the pipe is less than the number of pipes. -/
theorem search_append {places : List Nat}
    (hplaces : ∀ i ∈ places, (s.srcPipe i).index < s.numPipe) (type : PipeType) :
    (if (s.search block places).2.numPipe ≤ (s.search block places).1 then
        (s.search block places).2.nextPipe type block
      else s.search block places) = s.search block (places ++ s.placesOf type) := by
  unfold search
  rw [List.find?_append]
  cases hfind : places.find? s.isFree with
  | none =>
    rw [Option.none_or]
    exact (if_pos le_rfl).trans (nextPipe_eq s type block)
  | some i =>
    have hindex := hplaces i (List.mem_of_find?_eq_some hfind)
    exact if_neg (Nat.not_le.mpr hindex)

/-- A search leaves the hardware table alone. -/
theorem hwResInfo_search (s : ResourceDefault) (block : HWBlockType) (places : List Nat) :
    (s.search block places).2.hwResInfo = s.hwResInfo := by
  unfold search
  cases places.find? s.isFree <;> rfl

/-- `GetPipe` takes the pipe it picks. -/
theorem Searchable.getPipe_eq (h : s.Searchable) (block : HWBlockType) (needScale : Bool) :
    s.getPipe block needScale = s.taken block (s.pick needScale) := by
  have hindex {type : PipeType} {i : Nat} (hi : i ∈ s.placesOf type) : (s.srcPipe i).index < s.numPipe :=
    h.index i (h.mem_placesOf hi)
  let dma := if !needScale then s.placesOf .dma else []
  let rgb := if !needScale || !s.hwResInfo.hasNonScalarRgb then s.placesOf .rgb else []
  have hdma : (if !needScale then s.nextPipe .dma block else (s.numPipe, s)) = s.search block dma := by
    cases needScale with
    | false => exact nextPipe_eq s .dma block
    | true => rfl
  have hdmaIndex : ∀ i ∈ dma, (s.srcPipe i).index < s.numPipe := by
    intro i hi
    simp only [dma] at hi
    split at hi
    · exact hindex hi
    · cases hi
  have hrgbIndex : ∀ i ∈ dma ++ rgb, (s.srcPipe i).index < s.numPipe := by
    intro i hi
    rcases List.mem_append.mp hi with hi | hi
    · exact hdmaIndex i hi
    · simp only [rgb] at hi
      split at hi
      · exact hindex hi
      · cases hi
  have hrgb : (if (s.search block dma).2.numPipe ≤ (s.search block dma).1 &&
        (!needScale || !(s.search block dma).2.hwResInfo.hasNonScalarRgb) then
        (s.search block dma).2.nextPipe .rgb block
      else s.search block dma) = s.search block (dma ++ rgb) := by
    rw [hwResInfo_search]
    cases hgoesOn : (!needScale || !s.hwResInfo.hasNonScalarRgb) with
    | false => simp [rgb, hgoesOn]
    | true => simpa [rgb, hgoesOn] using search_append hdmaIndex .rgb
  unfold getPipe
  rw [hdma]
  dsimp only
  rw [hrgb]
  exact search_append hrgbIndex .vig

/-- The pipe that is picked is a free pipe of the manager. -/
theorem Searchable.pick_spec (h : s.Searchable) {needScale : Bool} {i : Nat}
    (hpick : s.pick needScale = some i) : i < s.numPipe ∧ s.isFree i = true := by
  refine ⟨?_, List.find?_some hpick⟩
  rcases List.mem_append.mp (List.mem_of_find?_eq_some hpick) with hi | hi
  · rcases List.mem_append.mp hi with hi | hi
    · split at hi
      · exact h.mem_placesOf hi
      · cases hi
    · split at hi
      · exact h.mem_placesOf hi
      · cases hi
  · exact h.mem_placesOf hi

/-- Pipes as `Init` has put them can be searched. -/
theorem LaidOut.searchable (h : s.LaidOut info) (hinfo : info.Consistent) : s.Searchable where
  numPipe := by
    rw [h.numPipe, h.hwResInfo, ← hinfo.numPipe, HWResourceInfo.limitScale]
    split <;> rfl
  index i hi := by
    rw [h.numPipe] at hi ⊢
    rw [h.index]
    exact HWResourceInfo.tableIndex_lt (hinfo.length_priorityOrder ▸ hi)

/-- The user-mode pipes of a block. -/
def reserved (s : ResourceDefault) (block : HWBlockType) : List SourcePipe :=
  s.srcPipes.filter (SourcePipe.reservedFor block)

/-- The ids of the user-mode pipes of a block. -/
def reservedIds (s : ResourceDefault) (block : HWBlockType) : List UInt32 :=
  (s.reserved block).map SourcePipe.mdssPipeId

/-- Nothing is left to a block that has given back its pipes. -/
theorem reserved_release (s : ResourceDefault) (block : HWBlockType) :
    (s.release block).reserved block = [] := by
  rw [reserved, List.filter_eq_nil_iff]
  intro p hp
  obtain ⟨q, -, rfl⟩ := List.mem_map.mp hp
  split
  · simp [SourcePipe.reservedFor, SourcePipe.resetState]
  next hother => exact hother

/-- A free pipe that is taken joins the pipes of the block, and no other pipe does. -/
theorem reserved_reserve {i : Nat} (hi : i < s.srcPipes.length) (hfree : s.isFree i = true)
    (block : HWBlockType) :
    ((s.reserve i block).reserved block).Perm
      ((s.srcPipe i).giveTo block :: s.reserved block) := by
  obtain ⟨before, p, after, hpipes, hlength, hgive⟩ :=
    List.exists_of_modify (SourcePipe.giveTo block) hi
  have hp : s.srcPipe i = p := by
    rw [srcPipe, hpipes, ← hlength]
    simp
  have howner : p.owner = .userMode ∧ p.hwBlockId = none := by
    simpa [isFree, hp] using hfree
  have hbefore : p.reservedFor block = false := by simp [SourcePipe.reservedFor, howner.2]
  have hafter : (p.giveTo block).reservedFor block = true := by
    simp [SourcePipe.reservedFor, SourcePipe.giveTo, howner.1]
  rw [reserved, reserve, hgive, hp, reserved, hpipes, List.filter_append, List.filter_append,
    List.filter_cons_of_pos hafter, List.filter_cons_of_neg (by simp [hbefore])]
  exact List.perm_middle

end ResourceDefault

end Yoshino.Display
