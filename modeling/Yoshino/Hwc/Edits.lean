import Yoshino.Hwc.Sound

/-!
# Layers come, move and go

The other calls of the client. A layer is added to the set and to the map, moved in the set or removed
from both, and the books agree again. Accepting changes only enters null pointers into the map, under
numbers that no layer gets again.
-/

namespace Yoshino.Hwc

open Yoshino.Display (DisplayType FloatArith)

variable {F : Type} [FloatArith F]

/-- A set that is sorted stays so. -/
theorem pairwise_emplace {z : LayerId → UInt32} {id : LayerId} {ids : List LayerId}
    (h : ids.Pairwise fun a b => z a ≤ z b) : (emplace z id ids).Pairwise fun a b => z a ≤ z b := by
  induction ids with
  | nil => simp [emplace]
  | cons x ids ih =>
    obtain ⟨hhead, htail⟩ := List.pairwise_cons.mp h
    rw [emplace, List.orderedInsert_cons]
    split
    · rename_i hlt
      refine List.pairwise_cons.mpr ⟨fun y hy => ?_, h⟩
      obtain rfl | hy := List.mem_cons.mp hy
      · exact UInt32.le_of_lt hlt
      · exact UInt32.le_trans (UInt32.le_of_lt hlt) (hhead y hy)
    · rename_i hlt
      refine List.pairwise_cons.mpr ⟨fun y hy => ?_, ih htail⟩
      obtain rfl | hy := List.mem_orderedInsert _ |>.mp hy
      · exact UInt32.not_lt.mp hlt
      · exact hhead y hy

/-- A layer is added to the set once. -/
theorem emplace_perm (z : LayerId → UInt32) (id : LayerId) (ids : List LayerId) :
    (emplace z id ids).Perm (id :: ids) := List.perm_orderedInsert _ id ids

namespace Outline

/-- A layer less. -/
def remove (o : Outline) (id : LayerId) : Outline :=
  { o with
    layerSet := o.layerSet.erase id
    marks := Function.update o.marks id none
    layerMap := Function.update o.layerMap id none }

/-- A layer more, at its depth. -/
def insert (o : Outline) (id : LayerId) (depth : UInt32) : Outline :=
  let marks := Function.update o.marks id (some (id, depth))
  { o with
    layerSet := emplace { o with marks := marks }.z id o.layerSet
    marks := marks
    layerMap := Function.update o.layerMap id (some (some id)) }

variable {o : Outline} {id : LayerId}

/-- A number that the map does not know is not in the set. -/
theorem Books.not_mem_of_none (h : o.Books) (hnone : o.layerMap id = none) : id ∉ o.layerSet := by
  intro hid
  simp [h.mapped id hid] at hnone

/-- Without a layer the books agree. -/
theorem Books.remove (h : o.Books) : (o.remove id).Books where
  nodup := h.nodup.erase id
  sorted := by
    refine (h.sorted.sublist List.erase_sublist).imp_of_mem fun {a b} ha hb hle => ?_
    have hne {x : LayerId} (hx : x ∈ o.layerSet.erase id) : x ≠ id :=
      fun heq => h.nodup.not_mem_erase (heq ▸ hx)
    simpa [z, Outline.remove, hne ha, hne hb] using hle
  alive x := by
    by_cases hx : x = id
    · simp [Outline.remove, hx, h.nodup.not_mem_erase]
    · simp [Outline.remove, hx, List.mem_erase_of_ne hx, h.alive]
  number x mark hmark := by
    by_cases hx : x = id
    · simp [Outline.remove, hx] at hmark
    · exact h.number x mark (by simpa [Outline.remove, hx] using hmark)
  mapped x hx := by
    have hne : x ≠ id := fun heq => h.nodup.not_mem_erase (heq ▸ hx)
    simpa [Outline.remove, hne] using h.mapped x (List.mem_of_mem_erase hx)
  entry x pointer hpointer := by
    by_cases hx : x = id
    · simp [Outline.remove, hx] at hpointer
    · obtain ⟨heq, hmem⟩ := h.entry x pointer (by simpa [Outline.remove, hx] using hpointer)
      exact ⟨heq, (List.mem_erase_of_ne hx).mpr hmem⟩
  used x hsome := by
    by_cases hx : x = id
    · simp [Outline.remove, hx] at hsome
    · exact h.used x (by simpa [Outline.remove, hx] using hsome)
  changed := h.changed

/-- With a new layer the books agree. -/
theorem Books.insert (h : o.Books) (hfresh : id ∉ o.layerSet) (hused : id < o.nextId) (depth : UInt32) :
    (o.insert id depth).Books where
  nodup := (emplace_perm _ id o.layerSet).nodup_iff.mpr (List.nodup_cons.mpr ⟨hfresh, h.nodup⟩)
  sorted := by
    refine pairwise_emplace (h.sorted.imp_of_mem fun {a b} ha hb hle => ?_)
    have hne {x : LayerId} (hx : x ∈ o.layerSet) : x ≠ id := fun heq => hfresh (heq ▸ hx)
    simpa [z, Outline.insert, hne ha, hne hb] using hle
  alive x := by
    by_cases hx : x = id
    · simp [Outline.insert, hx, (emplace_perm _ id o.layerSet).mem_iff]
    · simp [Outline.insert, hx, (emplace_perm _ id o.layerSet).mem_iff, h.alive]
  number x mark hmark := by
    by_cases hx : x = id
    · simp only [Outline.insert, hx, Function.update_self, Option.some.injEq] at hmark
      rw [← hmark, hx]
    · exact h.number x mark (by simpa [Outline.insert, hx] using hmark)
  mapped x hx := by
    by_cases heq : x = id
    · simp [Outline.insert, heq]
    · have hmem : x ∈ o.layerSet :=
        (List.mem_cons.mp ((emplace_perm _ id o.layerSet).mem_iff.mp hx)).resolve_left heq
      simpa [Outline.insert, heq] using h.mapped x hmem
  entry x pointer hpointer := by
    have hmem : x = id ∨ x ∈ o.layerSet → x ∈ (o.insert id depth).layerSet := fun hx =>
      (emplace_perm _ id o.layerSet).mem_iff.mpr (List.mem_cons.mpr hx)
    by_cases hx : x = id
    · simp only [Outline.insert, hx, Function.update_self, Option.some.injEq] at hpointer
      exact ⟨by rw [← hpointer, hx], hmem (.inl hx)⟩
    · obtain ⟨heq, hold⟩ := h.entry x pointer (by simpa [Outline.insert, hx] using hpointer)
      exact ⟨heq, hmem (.inr hold)⟩
  used x hsome := by
    by_cases hx : x = id
    · exact hx ▸ hused
    · exact h.used x (by simpa [Outline.insert, hx] using hsome)
  changed := h.changed

/-- Numbers are taken, by this display or by another. -/
theorem Books.of_le (h : o.Books) {next : LayerId} (hle : o.nextId ≤ next) :
    { o with nextId := next }.Books where
  nodup := h.nodup
  sorted := h.sorted
  alive := h.alive
  number := h.number
  mapped := h.mapped
  entry := h.entry
  used x hx := (h.used x hx).trans_le hle
  changed x hx := (h.changed x hx).trans_le hle

/-- A null pointer is entered into the map. -/
theorem Books.enter (h : o.Books) (hnone : o.layerMap id = none) (hused : id < o.nextId) :
    { o with layerMap := Function.update o.layerMap id (some none) }.Books where
  nodup := h.nodup
  sorted := h.sorted
  alive := h.alive
  number := h.number
  mapped x hx := by
    have hne : x ≠ id := fun heq => h.not_mem_of_none hnone (heq ▸ hx)
    simpa [hne] using h.mapped x hx
  entry x pointer hpointer := by
    by_cases hx : x = id
    · simp [hx] at hpointer
    · exact h.entry x pointer (by simpa [hx] using hpointer)
  used x hsome := by
    by_cases hx : x = id
    · exact hx ▸ hused
    · exact h.used x (by simpa [hx] using hsome)
  changed := h.changed

end Outline

namespace Composer

variable {h h' : Composer F} {id : LayerId}

/-- The number of a new layer is not in use. -/
theorem layerMap_nextId (hbooks : h.outline.Books) : h.display.layerMap h.nextId = none := by
  by_contra hsome
  exact lt_irrefl _ (hbooks.used h.nextId (Option.isSome_iff_ne_none.mpr hsome))

/-- `CreateLayer` inserts the next number at depth zero. -/
theorem createLayer_outline (hbooks : h.outline.Books) :
    h.createLayer.1.outline = { h.outline with nextId := h.nextId + 1 }.insert h.nextId 0 := by
  have hnone := layerMap_nextId hbooks
  have hz : Layers.z (Function.update h.display.layers h.nextId (some { id := h.nextId })) =
      { h.outline with
        marks := Function.update h.outline.marks h.nextId (some (h.nextId, 0))
        nextId := h.nextId + 1 }.z := by
    funext x
    by_cases hx : x = h.nextId <;> simp [Layers.z, Outline.z, outline, Layers.marks, hx, Function.comp_def]
  simp [outline, createLayer, Outline.insert, hnone, hz, marks_update]

/-- `CreateLayer` keeps the display good. -/
theorem createLayer_good (hbooks : h.outline.Books) : h.createLayer.1.Good ∧ h.Follows h.createLayer.1 := by
  have hfresh := hbooks.not_mem_of_none (layerMap_nextId hbooks)
  refine ⟨⟨?_, fun hmem => absurd hmem (Finset.notMem_empty _)⟩, rfl, Nat.le_succ _, fun t _ hmem => ?_⟩
  · rw [createLayer_outline hbooks]
    exact (hbooks.of_le (Nat.le_succ _)).insert hfresh (Nat.lt_succ_self _) 0
  · exact absurd hmem (Finset.notMem_empty t)

/-- The map has a null pointer for a number, and the set has layers to compare it with. -/
def Dangling (h : Composer F) (id : LayerId) : Prop :=
  h.display.layerMap id = some none ∧ h.display.layerSet ≠ []

/-- A layer of the display is found in the set. -/
theorem findInSet_eq (hbooks : h.outline.Books) (hid : id ∈ h.display.layerSet) :
    ∃ l, h.display.layers id = some l ∧ findInSet h.display (some id) = some (some (id, l)) := by
  obtain ⟨l, hl⟩ := Option.isSome_iff_exists.mp (isSome_marks.symm.trans (live_of_books hbooks id hid))
  have hall : (h.display.layerSet.all fun id => (h.display.layers id).isSome) = true :=
    List.all_eq_true.mpr fun x hx => isSome_marks.symm.trans (live_of_books hbooks x hx)
  have hempty : h.display.layerSet.isEmpty = false := by
    cases hset : h.display.layerSet with
    | nil => simp [hset] at hid
    | cons => rfl
  refine ⟨l, hl, ?_⟩
  have hz : Layers.z h.display.layers id = l.z := by simp [Layers.z, hl]
  simp [findInSet, hempty, hl, hall, hid, hz]

/-- What is found in the set is there. -/
theorem findInSet_layer {pointer : Option LayerId} {found : LayerId × HwcLayer F}
    (hfind : findInSet h.display pointer = some (some found)) :
    found.1 ∈ h.display.layerSet ∧ h.display.layers found.1 = some found.2 := by
  rw [findInSet] at hfind
  split at hfind
  · simp at hfind
  · obtain ⟨target, -, hfind⟩ := Option.bind_eq_some_iff.mp hfind
    obtain ⟨l, hl, hfind⟩ := Option.bind_eq_some_iff.mp hfind
    simp only [Option.ite_none_right_eq_some, Option.some.injEq] at hfind
    obtain ⟨-, hrange, rfl⟩ := hfind
    exact ⟨(List.mem_filter.mp hrange).1, hl⟩

/-- All that the destruction of a layer can do. -/
theorem destroyLayer_cases {error : Error} (hres : h.destroyLayer id = some (h', error)) :
    h' = h ∨ h' = h.unmapLayer id ∨ ∃ target ∈ h.display.layerSet, ∃ l, h.display.layers target = some l ∧
      h' = (h.deleteLayer target l).unmapLayer id := by
  rw [destroyLayer] at hres
  split at hres
  · exact .inl (Prod.mk.inj (Option.some.inj hres)).1.symm
  · obtain ⟨found, hfind, heq⟩ := Option.map_eq_some_iff.mp hres
    cases found with
    | none => exact .inr (.inl (Prod.mk.inj heq).1.symm)
    | some found =>
      obtain ⟨hmem, hl⟩ := findInSet_layer hfind
      exact .inr (.inr ⟨found.1, hmem, found.2, hl, (Prod.mk.inj heq).1.symm⟩)

/-- All that a new depth can do. -/
theorem setLayerZOrder_cases {z : UInt32} {error : Error} (hres : h.setLayerZOrder id z = some (h', error)) :
    h' = h ∨ ∃ target ∈ h.display.layerSet, ∃ l, h.display.layers target = some l ∧ l.z ≠ z ∧
      h' = h.moveLayer target l z := by
  rw [setLayerZOrder] at hres
  split at hres
  · exact .inl (Prod.mk.inj (Option.some.inj hres)).1.symm
  · obtain ⟨found, hfind, heq⟩ := Option.map_eq_some_iff.mp hres
    cases found with
    | none => exact .inl (Prod.mk.inj heq).1.symm
    | some found =>
      obtain ⟨hmem, hl⟩ := findInSet_layer hfind
      dsimp only at heq
      split at heq
      · exact .inl (Prod.mk.inj heq).1.symm
      · rename_i hz
        exact .inr ⟨found.1, hmem, found.2, hl, hz, (Prod.mk.inj heq).1.symm⟩

/-- All that a layer function can do. -/
theorem callLayerFunction_cases {current : Int → Int} {call : LayerCall F} {error : Error}
    (hres : h.callLayerFunction current id call = some (h', error)) :
    h' = h ∨ ∃ target l, h.display.layerMap id = some (some target) ∧ h.display.layers target = some l ∧
      h' = h.writeLayer target (call.run current l).1 (call.run current l).2.1 := by
  rw [callLayerFunction] at hres
  split at hres
  · exact .inl (Prod.mk.inj (Option.some.inj hres)).1.symm
  · exact .inl (Prod.mk.inj (Option.some.inj hres)).1.symm
  · rename_i target hpointer
    obtain ⟨l, hl, heq⟩ := Option.map_eq_some_iff.mp hres
    exact .inr ⟨target, l, hpointer, hl, (Prod.mk.inj heq).1.symm⟩

/-- A change is accepted by its layer; if the layer is gone, there is a null pointer in the map then. -/
theorem acceptChange_cases {d d' : HwcDisplay F} {change : LayerId × Composition}
    (hres : acceptChange d change = some d') :
    (∃ target l, d.layers target = some l ∧ d' = { d with
      layers := Function.update d.layers target (some { l with clientRequested := change.2 }) }) ∨
    d' = d ∨ d' = { d with layerMap := Function.update d.layerMap change.1 (some none) } := by
  rw [acceptChange] at hres
  split at hres
  · rename_i target _
    obtain ⟨l, hl, heq⟩ := Option.bind_eq_some_iff.mp hres
    exact .inl ⟨target, l, hl, (Option.some.inj heq).symm⟩
  · exact .inr (.inl (Option.some.inj hres).symm)
  · exact .inr (.inr (Option.some.inj hres).symm)

/-- All that accepting changes can do. -/
theorem acceptDisplayChanges_cases {error : Error} (hres : h.acceptDisplayChanges = some (h', error)) :
    h' = h ∨ ∃ d, Library.Reaches acceptChange h.display d ∧ h' = { h with display := d } := by
  rw [acceptDisplayChanges] at hres
  split at hres
  · exact .inl (Prod.mk.inj (Option.some.inj hres)).1.symm
  · split at hres
    · exact .inl (Prod.mk.inj (Option.some.inj hres)).1.symm
    · obtain ⟨d, hfold, heq⟩ := Option.bind_eq_some_iff.mp hres
      exact .inr ⟨d, ⟨_, hfold⟩, (Prod.mk.inj (Option.some.inj heq)).1.symm⟩

/-- A call that takes the validation of all displays back. -/
theorem Good.of_empty (hbooks : h'.outline.Books) (hvalidated : h'.validated = ∅) : h'.Good :=
  ⟨hbooks, fun hmem => by simp [hvalidated] at hmem⟩

/-- What takes every validation back follows. -/
theorem Follows.of_empty (htype : h'.outline.type = h.outline.type) (hnext : h.nextId ≤ h'.nextId)
    (hvalidated : h'.validated = ∅) : h.Follows h' :=
  ⟨htype, hnext, fun t _ hmem => by simp [hvalidated] at hmem⟩

/-- Deleting a layer and its entry removes it from the books. -/
theorem deleteLayer_outline (l : HwcLayer F) :
    ((h.deleteLayer id l).unmapLayer id).outline = h.outline.remove id := by
  have hmarks : Layers.marks (Function.update h.display.layers id none) =
      Function.update h.display.layers.marks id none := by
    funext x
    by_cases hx : x = id <;> simp [Layers.marks, hx]
  simp [outline, unmapLayer, deleteLayer, Outline.remove, hmarks]

/-- Without a layer of the number, only the entry of the map goes. -/
theorem unmapLayer_outline (hbooks : h.outline.Books) (hid : id ∉ h.display.layerSet) :
    (h.unmapLayer id).outline = h.outline.remove id := by
  have hnone : h.display.layers.marks id = none :=
    Option.not_isSome_iff_eq_none.mp fun hsome => hid ((hbooks.alive id).mp hsome)
  simp [outline, unmapLayer, Outline.remove, List.erase_of_not_mem hid, hnone]

/-- A null pointer of the map is not the number of a layer. -/
theorem not_mem_of_null (hbooks : h.outline.Books) (hnull : h.display.layerMap id = some none) :
    id ∉ h.display.layerSet := by
  intro hid
  have hmapped : h.display.layerMap id = some (some id) := hbooks.mapped id hid
  simp [hnull] at hmapped

/-- The null pointer is read as soon as the set has a layer to compare it with. -/
theorem findInSet_null : findInSet h.display none =
    if h.display.layerSet = [] then some none else none := by
  cases hset : h.display.layerSet <;> simp [findInSet, hset]

/-- `DestroyLayer` of a number without a null pointer keeps the display good. -/
theorem destroyLayer_good (hgood : h.Good) (hthere : ¬ h.Dangling id) :
    ∃ h' error, h.destroyLayer id = some (h', error) ∧ h'.Good ∧ h.Follows h' := by
  rw [destroyLayer]
  split
  · exact ⟨h, _, rfl, hgood, .of_subset rfl subset_rfl⟩
  · rename_i pointer hpointer
    cases pointer with
    | none =>
      have hset : h.display.layerSet = [] := by_contra fun hne => hthere ⟨hpointer, hne⟩
      refine ⟨h.unmapLayer id, .none, by simp [findInSet_null, hset], .of_empty ?_ rfl,
        .of_empty rfl le_rfl rfl⟩
      rw [unmapLayer_outline hgood.books (not_mem_of_null hgood.books hpointer)]
      exact hgood.books.remove
    | some target =>
      obtain ⟨rfl, hid⟩ := hgood.books.entry id target hpointer
      obtain ⟨l, -, hfind⟩ := findInSet_eq hgood.books hid
      refine ⟨(h.deleteLayer target l).unmapLayer target, .none, by rw [hfind]; rfl, .of_empty ?_ rfl,
        .of_empty rfl le_rfl rfl⟩
      rw [deleteLayer_outline]
      exact hgood.books.remove

/-- A layer that moves is removed and inserted at its new depth. -/
theorem moveLayer_outline {l : HwcLayer F} {z : UInt32} (hmap : h.display.layerMap id = some (some id))
    (hl : l.id = id) (hz : l.z ≠ z) : (h.moveLayer id l z).outline = (h.outline.remove id).insert id z := by
  have hlayer : (l.setLayerZOrder z).id = id ∧ (l.setLayerZOrder z).z = z := by
    simp [HwcLayer.setLayerZOrder, HwcLayer.change, hz, hl]
  have hdepth : Layers.z (Function.update h.display.layers id (some (l.setLayerZOrder z))) =
      { h.outline.remove id with
        marks := Function.update (h.outline.remove id).marks id (some (id, z)) }.z := by
    funext x
    by_cases hx : x = id <;>
      simp [Layers.z, Outline.z, Outline.remove, outline, Layers.marks, hx, hlayer, Function.comp_def]
  have hentry : Function.update h.display.layerMap id (some (some id)) = h.display.layerMap :=
    Function.update_eq_self_iff.mpr hmap.symm
  simp [outline, moveLayer, Outline.insert, hdepth, marks_update, hlayer, hentry, Outline.remove]

/-- A layer that moves leaves a stack that may be committed as it is. -/
theorem current_move (hid : id ∈ h.display.layerSet) (depth : UInt32)
    (hcurrent : h.outline.Current) : ((h.outline.remove id).insert id depth).Current := by
  obtain hplain | hfilled := hcurrent
  · have hperm : ((h.outline.remove id).insert id depth).layerSet.Perm h.outline.layerSet :=
      (emplace_perm _ id _).trans (List.perm_cons_erase hid).symm
    exact .inl (hplain.trans ((hperm.map _).append_right _).symm)
  · exact .inr hfilled

/-- `SetLayerZOrder` of a number without a null pointer keeps the display good. -/
theorem setLayerZOrder_good (hgood : h.Good) (hthere : ¬ h.Dangling id) (z : UInt32) :
    ∃ h' error, h.setLayerZOrder id z = some (h', error) ∧ h'.Good ∧ h.Follows h' := by
  rw [setLayerZOrder]
  split
  · exact ⟨h, _, rfl, hgood, .of_subset rfl subset_rfl⟩
  · rename_i pointer hpointer
    cases pointer with
    | none =>
      have hset : h.display.layerSet = [] := by_contra fun hne => hthere ⟨hpointer, hne⟩
      exact ⟨h, .badLayer, by simp [findInSet_null, hset], hgood, .of_subset rfl subset_rfl⟩
    | some target =>
      obtain ⟨rfl, hid⟩ := hgood.books.entry id target hpointer
      obtain ⟨l, hl, hfind⟩ := findInSet_eq hgood.books hid
      have hnumber : l.id = target :=
        hgood.books.number target (l.id, l.z) (by simp [outline, Layers.marks, hl])
      rw [hfind, Option.map_some]
      dsimp only
      split
      · exact ⟨h, _, rfl, hgood, .of_subset rfl subset_rfl⟩
      · rename_i hz
        have houtline := moveLayer_outline hpointer hnumber hz
        refine ⟨h.moveLayer target l z, _, rfl, ⟨?_, fun hmem => ?_⟩, rfl, le_rfl, fun _ _ hmem => hmem⟩
        · rw [houtline]
          have hused := hgood.books.used target (by simp [outline, hpointer])
          exact hgood.books.remove.insert hgood.books.nodup.not_mem_erase hused z
        · rw [houtline]
          exact (hgood.current hmem).imp_right (current_move hid z)

/-- A write to a layer that leaves number and depth keeps the display good. -/
theorem writeLayer_good (hgood : h.Good) {l l' : HwcLayer F} (hl : h.display.layers id = some l)
    (hkept : l'.id = l.id ∧ l'.z = l.z) (descriptors : Ledger) :
    (h.writeLayer id l' descriptors).Good ∧ h.Follows (h.writeLayer id l' descriptors) := by
  have hmarks : Layers.marks (Function.update h.display.layers id (some l')) = h.display.layers.marks := by
    rw [marks_update, hkept.1, hkept.2]
    exact Function.update_eq_self_iff.mpr (by simp [Layers.marks, hl])
  have hsubset : (h.writeLayer id l' descriptors).validated ⊆ h.validated := by
    simp only [writeLayer]
    split
    · exact Finset.empty_subset _
    · exact subset_rfl
  have houtline : (h.writeLayer id l' descriptors).outline = h.outline := by
    simp [outline, writeLayer, hmarks]
  exact ⟨hgood.of_subset houtline hsubset, .of_subset houtline hsubset⟩

/-- Every function of a layer keeps the display good. -/
theorem callLayerFunction_good (hgood : h.Good) (current : Int → Int) (id : LayerId) (call : LayerCall F) :
    ∃ h' error, h.callLayerFunction current id call = some (h', error) ∧ h'.Good ∧ h.Follows h' := by
  rw [callLayerFunction]
  split
  · exact ⟨h, _, rfl, hgood, .of_subset rfl subset_rfl⟩
  · exact ⟨h, _, rfl, hgood, .of_subset rfl subset_rfl⟩
  · rename_i target hpointer
    obtain ⟨rfl, hid⟩ := hgood.books.entry id target hpointer
    obtain ⟨l, hl⟩ := Option.isSome_iff_exists.mp
      (isSome_marks.symm.trans (live_of_books hgood.books target hid))
    exact ⟨_, _, by rw [hl]; rfl, writeLayer_good hgood hl (LayerCall.run_kept l current call) _⟩

/-- A change is accepted: at most a null pointer is entered into the map. -/
theorem acceptChange_books (hbooks : h.outline.Books) {change : LayerId × Composition}
    (hused : change.1 < h.nextId) :
    ∃ d map, acceptChange h.display change = some d ∧
      { h with display := d }.outline = { h.outline with layerMap := map } ∧
      { h.outline with layerMap := map }.Books := by
  rw [acceptChange]
  split
  · rename_i target hpointer
    obtain ⟨rfl, hid⟩ := hbooks.entry change.1 target hpointer
    obtain ⟨l, hl⟩ := Option.isSome_iff_exists.mp (isSome_marks.symm.trans (live_of_books hbooks _ hid))
    have hmarks : Layers.marks (Function.update h.display.layers change.1
        (some { l with clientRequested := change.2 })) = h.display.layers.marks := by
      rw [marks_update]
      exact Function.update_eq_self_iff.mpr (by simp [Layers.marks, hl])
    refine ⟨_, h.outline.layerMap, by rw [hl]; rfl, ?_, hbooks⟩
    simp [outline, hmarks]
  · exact ⟨h.display, h.outline.layerMap, rfl, rfl, hbooks⟩
  · rename_i hnone
    exact ⟨_, _, rfl, rfl, hbooks.enter hnone hused⟩

/-- Accepting changes writes to the map only, and the books agree. -/
theorem acceptChanges_books (changes : List (LayerId × Composition)) (hbooks : h.outline.Books)
    (hused : ∀ change ∈ changes, change.1 < h.nextId) :
    ∃ d map, changes.foldlM acceptChange h.display = some d ∧
      { h with display := d }.outline = { h.outline with layerMap := map } ∧
      { h.outline with layerMap := map }.Books := by
  induction changes generalizing h with
  | nil => exact ⟨h.display, h.outline.layerMap, rfl, rfl, hbooks⟩
  | cons change changes ih =>
    obtain ⟨d, map, haccept, houtline, hbooks'⟩ := acceptChange_books hbooks (hused change List.mem_cons_self)
    obtain ⟨d', map', hrest, houtline', hbooks''⟩ := ih (h := { h with display := d }) (houtline ▸ hbooks')
      fun change hmem => hused change (List.mem_cons_of_mem _ hmem)
    rw [houtline] at houtline' hbooks''
    exact ⟨d', map', by simp [List.foldlM_cons, haccept, hrest], houtline', hbooks''⟩

/-- `AcceptDisplayChanges` keeps the display good. -/
theorem acceptDisplayChanges_good (hgood : h.Good) :
    ∃ h' error, h.acceptDisplayChanges = some (h', error) ∧ h'.Good ∧ h.Follows h' := by
  rw [acceptDisplayChanges]
  split
  · exact ⟨h, _, rfl, hgood, .of_subset rfl subset_rfl⟩
  · split
    · exact ⟨h, _, rfl, hgood, .of_subset rfl subset_rfl⟩
    · obtain ⟨d, map, hfold, houtline, hbooks⟩ := acceptChanges_books h.display.layerChanges hgood.books
        fun change hmem => hgood.books.changed change.1 (List.mem_map_of_mem hmem)
      refine ⟨{ h with display := d }, .none, by rw [hfold]; rfl, ⟨houtline ▸ hbooks, ?_⟩, ?_, le_rfl,
        fun _ _ hmem => hmem⟩
      · rw [houtline]
        exact hgood.current
      · rw [houtline]

/-- `GetReleaseFences` leaves the books alone. -/
theorem getReleaseFences_outline (hbooks : h.outline.Books) :
    ∃ h' out, h.getReleaseFences = some (h', out) ∧ h'.outline = h.outline ∧ h'.validated = h.validated := by
  obtain ⟨layers, out, hloop, hmarks⟩ := forLayers_marks (a := []) (fun out l => takeFence_kept l out)
    (live_of_books hbooks)
  refine ⟨_, _, by rw [getReleaseFences, hloop]; rfl, ?_, ?_⟩
  · simp [outline, handFences, hmarks]
  · rfl

/-- `SetClientTarget` leaves the books alone. -/
theorem setClientTarget_outline (current : Int → Int) (dup : Int) (target : Option (Handle F))
    (acquireFence dataspace : Int) (damage : List Frame) :
    (h.setClientTarget current dup target acquireFence dataspace damage).1.outline = h.outline ∧
      (h.setClientTarget current dup target acquireFence dataspace damage).1.validated = h.validated := by
  rw [setClientTarget]
  split
  · exact ⟨rfl, rfl⟩
  · split <;> exact ⟨rfl, rfl⟩

/-- `SetPowerMode` leaves the books alone. -/
theorem setPowerMode_outline (mode : PowerMode) (error : DisplayError) :
    (h.setPowerMode mode error).1.outline = h.outline ∧
      (h.setPowerMode mode error).1.validated ⊆ h.validated := by
  rw [setPowerMode]
  split
  · exact ⟨rfl, subset_rfl⟩
  · split
    · exact ⟨rfl, subset_rfl⟩
    · cases error <;> exact ⟨rfl, Finset.empty_subset _⟩

end Composer

end Yoshino.Hwc
