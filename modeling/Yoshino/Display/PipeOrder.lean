import Yoshino.Display.ResourceDefault
import Yoshino.Library.Blocks

/-!
# The order of priority

The sorted pipes of the resource manager are the entries of the hardware pipe table, those of each type
in the order of the table, with VIG before RGB and RGB before DMA. `Init` fills one block of places for
each type in a single loop over the table. Nothing a display does changes the layout afterwards.
-/

namespace Yoshino.Display

open Yoshino.Library

/-- A hardware pipe table and its counts: the pipes are VIG, RGB and DMA pipes in any order, the counts
are those of the table, and two pipes come after the VIG ones. -/
structure HWResourceInfo.Consistent (info : HWResourceInfo) : Prop where
  types : ∀ caps ∈ info.hwPipes, caps.type = .vig ∨ caps.type = .rgb ∨ caps.type = .dma
  vig : info.numVigPipe = info.hwPipes.countP (·.type = .vig)
  rgb : info.numRgbPipe = info.hwPipes.countP (·.type = .rgb)
  dma : info.numDmaPipe = info.hwPipes.countP (·.type = .dma)
  afterVig : 2 ≤ info.numRgbPipe + info.numDmaPipe

/-- An entry of the hardware pipe table with its place in the table. -/
abbrev TableEntry := HWPipeCaps × Nat

/-- The source pipe that `Init` makes of an entry, before it gets a priority. -/
def TableEntry.pipe (e : TableEntry) : SourcePipe := e.1.place e.2 {}

/-- The entries of one type. -/
def entriesOf (type : PipeType) (entries : List TableEntry) : List TableEntry :=
  entries.filter (·.1.type = type)

/-- The hardware pipe table in order of priority. -/
def HWResourceInfo.priorityOrder (info : HWResourceInfo) : List TableEntry :=
  entriesOf .vig info.hwPipes.zipIdx ++ entriesOf .rgb info.hwPipes.zipIdx ++
    entriesOf .dma info.hwPipes.zipIdx

/-- One more entry counts for its own type. -/
theorem entriesOf_concat (type : PipeType) (entries : List TableEntry) (e : TableEntry) :
    entriesOf type (entries ++ [e]) =
      if e.1.type = type then entriesOf type entries ++ [e] else entriesOf type entries := by
  unfold entriesOf
  rw [List.filter_append, List.filter_singleton]
  split <;> simp_all

/-- More entries are not fewer of a type. -/
theorem length_entriesOf_le (type : PipeType) (first second : List TableEntry) :
    (entriesOf type first).length ≤ (entriesOf type (first ++ second)).length := by
  simp [entriesOf]

/-- The entries of a type are counted in the table. -/
theorem length_entriesOf_zipIdx (type : PipeType) (table : List HWPipeCaps) :
    (entriesOf type table.zipIdx).length = table.countP (·.type = type) := by
  conv_rhs => rw [← List.zipIdx_map_fst 0 table]
  rw [entriesOf, ← List.countP_eq_length_filter, List.countP_map]
  rfl

/-- A place in order of priority holds an entry of the table. -/
theorem HWResourceInfo.mem_priorityOrder {info : HWResourceInfo} {e : TableEntry}
    (h : e ∈ info.priorityOrder) : info.hwPipes[e.2]? = some e.1 := by
  have hmem : e ∈ info.hwPipes.zipIdx := by
    rcases List.mem_append.mp h with h | h
    · rcases List.mem_append.mp h with h | h
      · exact List.mem_of_mem_filter h
      · exact List.mem_of_mem_filter h
    · exact List.mem_of_mem_filter h
  exact List.mem_zipIdx_iff_getElem?.mp hmem

/-- The three types share the table among them. -/
theorem countP_types {table : List HWPipeCaps}
    (htypes : ∀ caps ∈ table, caps.type = .vig ∨ caps.type = .rgb ∨ caps.type = .dma) :
    table.countP (·.type = .vig) + table.countP (·.type = .rgb) + table.countP (·.type = .dma) =
      table.length := by
  induction table with
  | nil => rfl
  | cons caps table ih =>
    obtain ⟨hcaps, htable⟩ := List.forall_mem_cons.mp htypes
    have hrest := ih htable
    rcases hcaps with h | h | h <;> simp [h] <;> omega

namespace HWResourceInfo

variable {info : HWResourceInfo}

/-- The three counts add up to the table. -/
theorem Consistent.numPipe (h : info.Consistent) :
    info.numVigPipe + info.numRgbPipe + info.numDmaPipe = info.hwPipes.length := by
  rw [h.vig, h.rgb, h.dma, countP_types h.types]

/-- The order of priority has every entry of the table. -/
theorem Consistent.length_priorityOrder (h : info.Consistent) :
    info.priorityOrder.length = info.hwPipes.length := by
  rw [priorityOrder, List.length_append, List.length_append, length_entriesOf_zipIdx,
    length_entriesOf_zipIdx, length_entriesOf_zipIdx, countP_types h.types]

/-- The block of a type when some entries of the table have been placed. -/
def block (n : Nat) (type : PipeType) (entries : List TableEntry) : List SourcePipe :=
  filled n {} ((entriesOf type entries).map TableEntry.pipe)

/-- The loop variables of `Init` when some entries of the table have been placed. -/
def placing (info : HWResourceInfo) (entries : List TableEntry) : Placing where
  srcPipes := block info.numVigPipe .vig entries ++ block info.numRgbPipe .rgb entries ++
    block info.numDmaPipe .dma entries
  vigIndex := (entriesOf .vig entries).length
  rgbIndex := info.numVigPipe + (entriesOf .rgb entries).length
  dmaIndex := info.numVigPipe + info.numRgbPipe + (entriesOf .dma entries).length

/-- The counts have room for the entries. -/
structure Room (info : HWResourceInfo) (entries : List TableEntry) : Prop where
  vig : (entriesOf .vig entries).length ≤ info.numVigPipe
  rgb : (entriesOf .rgb entries).length ≤ info.numRgbPipe
  dma : (entriesOf .dma entries).length ≤ info.numDmaPipe

/-- Where all entries have room, the first ones have. -/
theorem Room.of_append {first second : List TableEntry} (h : info.Room (first ++ second)) :
    info.Room first where
  vig := (length_entriesOf_le _ first second).trans h.vig
  rgb := (length_entriesOf_le _ first second).trans h.rgb
  dma := (length_entriesOf_le _ first second).trans h.dma

/-- A block has the length of its count. -/
theorem length_block {n : Nat} {type : PipeType} {entries : List TableEntry}
    (h : (entriesOf type entries).length ≤ n) : (block n type entries).length = n :=
  length_filled (by simpa using h)

/-- The next entry of a type goes to the next place of its block. -/
theorem modify_block {n : Nat} {type : PipeType} {entries : List TableEntry} {e : TableEntry}
    (hroom : (entriesOf type (entries ++ [e])).length ≤ n) (htype : e.1.type = type)
    (before after : List SourcePipe) :
    (before ++ block n type entries ++ after).modify
        (before.length + (entriesOf type entries).length) (e.1.place e.2) =
      before ++ block n type (entries ++ [e]) ++ after := by
  rw [entriesOf_concat, if_pos htype, List.length_append, List.length_singleton] at hroom
  have hfree : ((entriesOf type entries).map TableEntry.pipe).length < n := by
    rw [List.length_map]
    exact hroom
  have hwrite := modify_filled (d := {}) hfree before after (e.1.place e.2)
  rw [List.length_map] at hwrite
  rw [block, hwrite, block, entriesOf_concat, if_pos htype, List.map_append]
  rfl

/-- The entries of other types leave a block alone. -/
theorem block_concat_of_ne {n : Nat} {type : PipeType} {entries : List TableEntry} {e : TableEntry}
    (hne : e.1.type ≠ type) : block n type (entries ++ [e]) = block n type entries := by
  rw [block, entriesOf_concat, if_neg hne, block]

/-- One turn of the loop of `Init`. -/
theorem placing_next {entries : List TableEntry} {e : TableEntry} (hroom : info.Room (entries ++ [e])) :
    (info.placing entries).next e.1 e.2 = info.placing (entries ++ [e]) := by
  have hvig := length_block hroom.of_append.vig
  have hrgb := length_block hroom.of_append.rgb
  have hother (n : Nat) (type : PipeType) (hne : e.1.type ≠ type) :
      block n type (entries ++ [e]) = block n type entries := block_concat_of_ne hne
  -- an entry changes the block of its own type and the index that points into it
  cases htype : e.1.type with
  | vig =>
    have hwrite := modify_block hroom.vig htype []
      (block info.numRgbPipe .rgb entries ++ block info.numDmaPipe .dma entries)
    rw [List.nil_append, List.length_nil, Nat.zero_add, List.nil_append, ← List.append_assoc,
      ← List.append_assoc] at hwrite
    simp only [Placing.next, placing, htype, hwrite, entriesOf_concat]
    simp [hother, htype]
  | rgb =>
    have hwrite := modify_block hroom.rgb htype (block info.numVigPipe .vig entries)
      (block info.numDmaPipe .dma entries)
    rw [hvig] at hwrite
    simp only [Placing.next, placing, htype, hwrite, entriesOf_concat]
    simp [hother, htype, Nat.add_assoc]
  | dma =>
    have hwrite := modify_block hroom.dma htype
      (block info.numVigPipe .vig entries ++ block info.numRgbPipe .rgb entries) []
    rw [List.length_append, hvig, hrgb, List.append_nil, List.append_nil] at hwrite
    simp only [Placing.next, placing, htype, hwrite, entriesOf_concat]
    simp [hother, htype, Nat.add_assoc]
  | unused => simp [Placing.next, placing, hother, entriesOf_concat, htype]
  | cursor => simp [Placing.next, placing, hother, entriesOf_concat, htype]

/-- The loop of `Init` over the entries that are left. -/
theorem foldl_next (entries rest : List TableEntry) (hroom : info.Room (entries ++ rest)) :
    rest.foldl (fun t e => t.next e.1 e.2) (info.placing entries) = info.placing (entries ++ rest) := by
  induction rest generalizing entries with
  | nil => rw [List.append_nil, List.foldl_nil]
  | cons e rest ih =>
    rw [List.append_cons] at hroom ⊢
    rw [List.foldl_cons, placing_next hroom.of_append]
    exact ih (entries ++ [e]) hroom

/-- The counts of a consistent table have room for all of it. -/
theorem Consistent.room (h : info.Consistent) : info.Room info.hwPipes.zipIdx where
  vig := by rw [length_entriesOf_zipIdx, h.vig]
  rgb := by rw [length_entriesOf_zipIdx, h.rgb]
  dma := by rw [length_entriesOf_zipIdx, h.dma]

/-- `Init` starts with every place free. -/
theorem placing_nil (info : HWResourceInfo) :
    info.placing [] =
      { srcPipes := List.replicate (info.numVigPipe + info.numRgbPipe + info.numDmaPipe) {}
        vigIndex := 0
        rgbIndex := info.numVigPipe
        dmaIndex := info.numVigPipe + info.numRgbPipe } := by
  simp [placing, block, entriesOf, filled_nil]

/-- `Init` ends with the table in order of priority. -/
theorem Consistent.placed (h : info.Consistent) :
    info.placed (info.numVigPipe + info.numRgbPipe + info.numDmaPipe) =
      some (info.placing info.hwPipes.zipIdx) := by
  rw [HWResourceInfo.placed, ← placing_nil, h.numPipe, foldlM_range_getElem?,
    foldl_next [] info.hwPipes.zipIdx h.room, List.nil_append]

/-- When the loop of `Init` ends, the pipes stand in order of priority. -/
theorem Consistent.srcPipes (h : info.Consistent) :
    (info.placing info.hwPipes.zipIdx).srcPipes = info.priorityOrder.map TableEntry.pipe := by
  have hfull (n : Nat) (type : PipeType) (hn : n = info.hwPipes.countP (·.type = type)) :
      block n type info.hwPipes.zipIdx =
        (entriesOf type info.hwPipes.zipIdx).map TableEntry.pipe :=
    filled_full (by rw [List.length_map, length_entriesOf_zipIdx, hn])
  rw [placing, hfull _ _ h.vig, hfull _ _ h.rgb, hfull _ _ h.dma, priorityOrder, List.map_append,
    List.map_append]

end HWResourceInfo

end Yoshino.Display
