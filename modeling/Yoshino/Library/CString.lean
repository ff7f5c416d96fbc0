import Mathlib.Data.List.DropRight

/-!
# Pointer loops over a buffer

A buffer is a list of bytes and a pointer an offset into it. The loops C code runs over
NUL-terminated text are given with their bounds check: each is `none` as soon as it would read or
write outside the buffer. Every lemma is about a buffer `front ++ (text ++ 0 :: back)` and a pointer
to the text, so that a proof about a sequence of loops follows the pieces of the buffer.
-/

namespace Yoshino.Library

/-- Write a byte. -/
def store (buf : List UInt8) (p : Nat) (c : UInt8) : Option (List UInt8) :=
  if p < buf.length then some (buf.set p c) else none

/-- `while (q(*p)) p++`, on what is left of the buffer. -/
def advance (q : UInt8 → Bool) : List UInt8 → Nat → Option Nat
  | [], _ => none
  | c :: rest, p => if q c then advance q rest (p + 1) else some p

/-- `while (q(*p)) p++`. -/
def skipWhile (q : UInt8 → Bool) (buf : List UInt8) (p : Nat) : Option Nat :=
  advance q (buf.drop p) p

/-- `strchr`, on what is left of the buffer. -/
def search (c : UInt8) : List UInt8 → Nat → Option (Option Nat)
  | [], _ => none
  | d :: rest, p => if d = c then some (some p) else if d = 0 then some none else search c rest (p + 1)

/-- `strchr`: the inner `none` is the null pointer. -/
def strchr (buf : List UInt8) (p : Nat) (c : UInt8) : Option (Option Nat) :=
  search c (buf.drop p) p

/-- The bytes up to the terminator. -/
def untilNul : List UInt8 → Option (List UInt8)
  | [] => none
  | c :: rest => if c = 0 then some [] else (untilNul rest).map (c :: ·)

/-- The C string a pointer refers to. -/
def cString (buf : List UInt8) (p : Nat) : Option (List UInt8) :=
  untilNul (buf.drop p)

/-- Whether the first `n` bytes of two C strings agree, on what is left of the first; the second is
given without its terminator. -/
def agree : Nat → List UInt8 → List UInt8 → Option Bool
  | 0, _, _ => some true
  | _ + 1, [], _ => none
  | _ + 1, c :: _, [] => some (c == 0)
  | n + 1, c :: rest, d :: s => if c = d then agree n rest s else some false

/-- `!strncmp`. -/
def strncmpEq (buf : List UInt8) (p : Nat) (s : List UInt8) (n : Nat) : Option Bool :=
  agree n (buf.drop p) s

/-- `!strcmp`. -/
def strcmpEq (buf : List UInt8) (p : Nat) (s : List UInt8) : Option Bool :=
  strncmpEq buf p s (s.length + 1)

/-- `while (tmp > key && q(*tmp)) *tmp-- = 0`, with `tmp` so many bytes above `key`. -/
def eraseBack (q : UInt8 → Bool) (key : Nat) : Nat → List UInt8 → Option (List UInt8)
  | 0, buf => some buf
  | n + 1, buf =>
    match buf[key + (n + 1)]? with
    | none => none
    | some c => if q c then eraseBack q key n (buf.set (key + (n + 1)) 0) else some buf

/-- What stands before the first place of a byte. -/
theorem takeWhile_cut {c : UInt8} {first : List UInt8} (h : c ∉ first) (second : List UInt8) :
    (first ++ c :: second).takeWhile (· ≠ c) = first := by
  induction first with
  | nil => simp
  | cons d rest ih =>
    rw [List.mem_cons, not_or] at h
    rw [List.cons_append, List.takeWhile_cons_of_pos (by simpa using Ne.symm h.1), ih h.2]

/-- What stands after the first place of a byte. -/
theorem dropWhile_cut {c : UInt8} {first : List UInt8} (h : c ∉ first) (second : List UInt8) :
    (first ++ c :: second).dropWhile (· ≠ c) = c :: second := by
  induction first with
  | nil => simp
  | cons d rest ih =>
    rw [List.mem_cons, not_or] at h
    rw [List.cons_append, List.dropWhile_cons_of_pos (by simpa using Ne.symm h.1), ih h.2]

/-- A text is before the first place of a byte it does not hold. -/
theorem takeWhile_of_not_mem {c : UInt8} {text : List UInt8} (h : c ∉ text) :
    text.takeWhile (· ≠ c) = text := by
  rw [List.takeWhile_eq_self_iff]
  intro d hd
  simpa using fun heq : d = c => h (heq ▸ hd)

/-- The pieces of a text hold only its bytes. -/
theorem mem_of_mem_splitOn {sep c : UInt8} {text piece : List UInt8} (hpiece : piece ∈ text.splitOn sep)
    (hc : c ∈ piece) : c ∈ text := by
  induction text generalizing piece with
  | nil =>
    rw [List.splitOn_nil, List.mem_singleton] at hpiece
    exact hpiece ▸ hc
  | cons d rest ih =>
    rw [List.splitOn_cons_eq_if_modifyHead] at hpiece
    split at hpiece
    · rcases List.mem_cons.mp hpiece with rfl | hlater
      · exact absurd hc List.not_mem_nil
      · exact List.mem_cons_of_mem d (ih hlater hc)
    · obtain ⟨first, others, hsplit⟩ := List.exists_cons_of_ne_nil (List.splitOn_ne_nil sep rest)
      rw [hsplit, List.modifyHead_cons] at hpiece
      rcases List.mem_cons.mp hpiece with rfl | hlater
      · rcases List.mem_cons.mp hc with rfl | hfirst
        · exact List.mem_cons_self
        · exact List.mem_cons_of_mem d (ih (hsplit ▸ List.mem_cons_self) hfirst)
      · exact List.mem_cons_of_mem d (ih (hsplit ▸ List.mem_cons_of_mem _ hlater) hc)

/-- A store behind a piece of the text. -/
theorem store_append (front text : List UInt8) (d : UInt8) (back : List UInt8) (c : UInt8) :
    store (front ++ (text ++ d :: back)) (front.length + text.length) c =
      some (front ++ (text ++ c :: back)) := by
  simp [store]

/-- Skipping stops at the terminator. -/
theorem skipWhile_append {q : UInt8 → Bool} (hq : q 0 = false) (front text back : List UInt8) :
    skipWhile q (front ++ (text ++ 0 :: back)) front.length =
      some (front.length + (text.takeWhile q).length) := by
  have hadvance (p : Nat) :
      advance q (text ++ 0 :: back) p = some (p + (text.takeWhile q).length) := by
    induction text generalizing p with
    | nil => simp [advance, hq]
    | cons c rest ih =>
      rw [List.cons_append, advance]
      by_cases hc : q c = true
      · rw [if_pos hc, ih, List.takeWhile_cons_of_pos hc, List.length_cons]
        congr 1
        omega
      · rw [if_neg hc, List.takeWhile_cons_of_neg hc]
        rfl
  rw [skipWhile, List.drop_left, hadvance]

/-- The pointer then refers to what is left of the text. -/
theorem skipWhile_append_eq {q : UInt8 → Bool} (hq : q 0 = false) (front text back : List UInt8) :
    ∃ gap, gap ++ text.dropWhile q = text ∧
      front ++ (text ++ 0 :: back) = (front ++ gap) ++ (text.dropWhile q ++ 0 :: back) ∧
      skipWhile q (front ++ (text ++ 0 :: back)) front.length = some (front ++ gap).length := by
  have hgap : text.takeWhile q ++ text.dropWhile q = text := List.takeWhile_append_dropWhile
  refine ⟨text.takeWhile q, hgap, ?_, ?_⟩
  · rw [List.append_assoc, ← List.append_assoc (text.takeWhile q), hgap]
  · rw [skipWhile_append hq, List.length_append]

/-- A byte is found at its first place. -/
theorem strchr_append_cons {c : UInt8} {first : List UInt8} (hnul : 0 ∉ first) (h : c ∉ first)
    (front rest : List UInt8) :
    strchr (front ++ (first ++ c :: rest)) front.length c =
      some (some (front.length + first.length)) := by
  have hsearch (p : Nat) : search c (first ++ c :: rest) p = some (some (p + first.length)) := by
    induction first generalizing p with
    | nil => simp [search]
    | cons d first ih =>
      rw [List.mem_cons, not_or] at hnul h
      rw [List.cons_append, search, if_neg (Ne.symm h.1), if_neg (Ne.symm hnul.1), ih hnul.2 h.2,
        List.length_cons]
      congr 2
      omega
  rw [strchr, List.drop_left, hsearch]

/-- A byte that is not in the text is not found. -/
theorem strchr_append_of_not_mem {c : UInt8} (hc : c ≠ 0) {text : List UInt8} (hnul : 0 ∉ text)
    (h : c ∉ text) (front back : List UInt8) :
    strchr (front ++ (text ++ 0 :: back)) front.length c = some none := by
  have hsearch (p : Nat) : search c (text ++ 0 :: back) p = some none := by
    induction text generalizing p with
    | nil => simp [search, hc.symm]
    | cons d rest ih =>
      have hd : d ≠ c := fun heq => h (heq ▸ List.mem_cons_self)
      have hd0 : d ≠ 0 := fun hzero => hnul (hzero ▸ List.mem_cons_self)
      rw [List.cons_append, search, if_neg hd, if_neg hd0]
      exact ih (fun hmem => hnul (List.mem_cons_of_mem d hmem))
        (fun hmem => h (List.mem_cons_of_mem d hmem)) _
  rw [strchr, List.drop_left, hsearch]

/-- The C string at a text is the text. -/
theorem cString_append {text : List UInt8} (hnul : 0 ∉ text) (front back : List UInt8) :
    cString (front ++ (text ++ 0 :: back)) front.length = some text := by
  rw [cString, List.drop_left]
  induction text with
  | nil => simp [untilNul]
  | cons c rest ih =>
    have hc : c ≠ 0 := fun hzero => hnul (hzero ▸ List.mem_cons_self)
    rw [List.cons_append, untilNul, if_neg hc, ih fun hmem => hnul (List.mem_cons_of_mem c hmem)]
    rfl

/-- Comparing bounded C strings compares their beginnings. -/
theorem strncmpEq_append {text s : List UInt8} (htext : 0 ∉ text) (hs : 0 ∉ s) (n : Nat)
    (front back : List UInt8) :
    strncmpEq (front ++ (text ++ 0 :: back)) front.length s n =
      some (decide (text.take n = s.take n)) := by
  rw [strncmpEq, List.drop_left]
  induction n generalizing text s with
  | zero => simp [agree]
  | succ n ih =>
    cases text with
    | nil =>
      cases s with
      | nil => simp [agree]
      | cons d s =>
        have hd : ¬ 0 = d := fun hzero => hs (hzero ▸ List.mem_cons_self)
        simp [agree, hd]
    | cons c rest =>
      have hc : ¬ c = 0 := fun hzero => htext (hzero ▸ List.mem_cons_self)
      cases s with
      | nil => simp [agree, hc]
      | cons d s =>
        rw [List.cons_append, agree]
        by_cases hcd : c = d
        · rw [if_pos hcd, ih (fun hmem => htext (List.mem_cons_of_mem c hmem))
            (fun hmem => hs (List.mem_cons_of_mem d hmem))]
          simp [hcd]
        · simp [hcd]

/-- Comparing C strings compares the texts. -/
theorem strcmpEq_append {text s : List UInt8} (htext : 0 ∉ text) (hs : 0 ∉ s)
    (front back : List UInt8) :
    strcmpEq (front ++ (text ++ 0 :: back)) front.length s = some (decide (text = s)) := by
  rw [strcmpEq, strncmpEq_append htext hs]
  congr 2
  rw [List.take_of_length_le (Nat.le_succ s.length), eq_iff_iff]
  constructor
  · intro h
    have hlength := congrArg List.length h
    rw [List.length_take] at hlength
    rwa [List.take_of_length_le (by omega)] at h
  · intro h
    rw [h, List.take_of_length_le (Nat.le_succ s.length)]

/-- Erasing backwards from the end of a text that does not begin with an erased byte shortens it,
and leaves terminators behind. -/
theorem eraseBack_append {q : UInt8 → Bool} {text : List UInt8}
    (hhead : ∀ c ∈ text.head?, q c = false) (front back : List UInt8) :
    eraseBack q front.length (text.length - 1) (front ++ (text ++ 0 :: back)) =
      some (front ++ (text.rdropWhile q ++ 0 ::
        (List.replicate (text.length - (text.rdropWhile q).length) 0 ++ back))) := by
  induction text using List.reverseRecOn generalizing back with
  | nil => rfl
  | append_singleton init c ih =>
    rcases List.eq_nil_or_concat init with rfl | ⟨first, d, hinit⟩
    · have hc : ¬ q c = true := by simpa using hhead
      simp [eraseBack, List.rdropWhile, hc]
    · have hlength : init.length = first.length + 1 := by simp [hinit]
      have hinitHead : ∀ b ∈ init.head?, q b = false := by
        intro b hb
        apply hhead
        cases init with
        | nil => exact absurd hlength (by simp)
        | cons e rest => simpa using hb
      have hindex : (front ++ ((init ++ [c]) ++ 0 :: back))[front.length + (first.length + 1)]? =
          some c := by
        rw [← hlength]
        simp
      have hcount : (init ++ [c]).length - 1 = first.length + 1 := by simp [hlength]
      rw [hcount, eraseBack, hindex]
      by_cases hc : q c = true
      · have hset : (front ++ ((init ++ [c]) ++ 0 :: back)).set (front.length + (first.length + 1)) 0 =
            front ++ (init ++ 0 :: (0 :: back)) := by
          rw [← hlength]
          simp
        have hfirst : first.length = init.length - 1 := by omega
        have hle : (init.rdropWhile q).length ≤ init.length :=
          (List.rdropWhile_prefix q init).length_le
        have hzeros : (init ++ [c]).length - (init.rdropWhile q).length =
            init.length - (init.rdropWhile q).length + 1 := by
          rw [List.length_append, List.length_singleton]
          omega
        dsimp only
        rw [if_pos hc, hset, hfirst, ih hinitHead, List.rdropWhile_concat_pos _ _ _ hc, hzeros,
          List.replicate_succ', List.append_assoc, List.singleton_append]
      · dsimp only
        rw [if_neg hc, List.rdropWhile_concat_neg _ _ _ hc, Nat.sub_self]
        rfl

end Yoshino.Library
