import Mathlib.Data.List.Basic

/-!
# Filling an array block by block

An array of places is divided into blocks, and a loop over a table writes each entry to the next free
place of the block it belongs to. A block that has been filled from the left stays so with each write,
and once the table has as many entries for a block as the block has places, nothing else is in it.
-/

namespace Yoshino.Library

variable {α σ : Type}

/-- A block of `n` places that is filled from the left; the free places hold `d`. -/
def filled (n : Nat) (d : α) (entries : List α) : List α :=
  entries ++ List.replicate (n - entries.length) d

/-- A block keeps its size. -/
theorem length_filled {n : Nat} {d : α} {entries : List α} (h : entries.length ≤ n) :
    (filled n d entries).length = n := by
  simp [filled, h]

/-- A block without entries. -/
theorem filled_nil (n : Nat) (d : α) : filled n d [] = List.replicate n d := by simp [filled]

/-- A block without a free place. -/
theorem filled_full {n : Nat} {d : α} {entries : List α} (h : entries.length = n) :
    filled n d entries = entries := by
  simp [filled, h]

/-- A change to the element after a given beginning. -/
theorem modify_append_cons (before after : List α) (a : α) (f : α → α) :
    (before ++ a :: after).modify before.length f = before ++ f a :: after :=
  List.modifyTailIdx_add (List.modifyHead f) 0 before (a :: after)

/-- A write to the next free place of a block. -/
theorem modify_filled {n : Nat} {d : α} {entries : List α} (h : entries.length < n)
    (before after : List α) (f : α → α) :
    (before ++ filled n d entries ++ after).modify (before.length + entries.length) f =
      before ++ filled n d (entries ++ [f d]) ++ after := by
  obtain ⟨free, hfree⟩ : ∃ free, n - entries.length = free + 1 := ⟨n - entries.length - 1, by omega⟩
  have hrest : n - (entries ++ [f d]).length = free := by simp; omega
  have hplaces : before ++ filled n d entries ++ after =
      (before ++ entries) ++ d :: (List.replicate free d ++ after) := by
    simp [filled, hfree, List.replicate_succ]
  rw [hplaces, ← List.length_append, modify_append_cons, filled, hrest]
  simp

/-- A loop over the indices of a table is a loop over its entries with their indices. -/
theorem foldlM_range'_getElem? (table : List α) (f : σ → α → Nat → σ) (rest : List α) (i : Nat)
    (hrest : table.drop i = rest) (s : σ) :
    (List.range' i rest.length).foldlM
        (fun s j => do
          let a ← table[j]?
          pure (f s a j)) s =
      some ((rest.zipIdx i).foldl (fun s e => f s e.1 e.2) s) := by
  induction rest generalizing i s with
  | nil => rfl
  | cons a rest ih =>
    have hhead : table[i]? = some a := by
      rw [← List.head?_drop, hrest, List.head?_cons]
    have htail : table.drop (i + 1) = rest := by
      rw [← List.tail_drop, hrest, List.tail_cons]
    rw [List.length_cons, List.range'_succ, List.foldlM_cons, hhead, List.zipIdx_cons]
    exact ih (i + 1) htail (f s a i)

/-- A loop that reads a table by its indices is a fold over its entries. -/
theorem foldlM_range_getElem? (table : List α) (f : σ → α → Nat → σ) (s : σ) :
    (List.range table.length).foldlM
        (fun s j => do
          let a ← table[j]?
          pure (f s a j)) s =
      some (table.zipIdx.foldl (fun s e => f s e.1 e.2) s) := by
  rw [List.range_eq_range']
  exact foldlM_range'_getElem? table f table 0 List.drop_zero s

end Yoshino.Library
