import Mathlib.Algebra.Order.Group.Int
import Mathlib.Data.List.Flatten
import Mathlib.Tactic.Common
import Mathlib.Tactic.Ring

/-!
# Support — Rows

Rows of bytes in a linear memory: packed one after another, at a pitch, or at addresses of their
own.

* `slice_parts`, `slice_pack`: a part, or a packed row, is read back at its place.
* `inside_iff`: rows at a pitch are inside what the last one is inside.
* `storeAll_apply`: rows that are apart are all there after they have been stored.
-/

namespace Rows

variable {β : Type*}

/-! ### Packed rows -/

/-- `n` rows of `w` bytes, one after another. -/
def pack (n w : Nat) (row : Nat → Nat → β) : List β :=
  (List.range n).flatMap fun y => (List.range w).map (row y)

/-- What a copy of `len` bytes from `off` reads; `none` if some are not there. -/
def slice (bytes : List β) (off len : Nat) : Option (List β) :=
  if off + len ≤ bytes.length then some ((bytes.drop off).take len) else none

theorem length_parts {part : Nat → List β} {k : Nat} (hlen : ∀ z, (part z).length = k) (n : Nat) :
    ((List.range n).flatMap part).length = n * k := by
  rw [List.length_flatMap, List.map_congr_left fun z _ => hlen z, List.map_const',
    List.length_range, List.sum_replicate_nat]

theorem length_row (w : Nat) (row : Nat → Nat → β) (y : Nat) :
    ((List.range w).map (row y)).length = w := by
  rw [List.length_map, List.length_range]

@[simp] theorem length_pack (n w : Nat) (row : Nat → Nat → β) : (pack n w row).length = n * w :=
  length_parts (length_row w row) n

/-- **A part is read back**, or some of it. -/
theorem slice_parts {part : Nat → List β} {n k z off w : Nat} (hlen : ∀ z, (part z).length = k)
    (hz : z < n) (hoff : off + w ≤ k) :
    slice ((List.range n).flatMap part) (z * k + off) w = slice (part z) off w := by
  obtain ⟨rest, hrest⟩ : ∃ rest, (List.range n).flatMap part =
      (List.range z).flatMap part ++ (part z ++ rest) := by
    obtain ⟨j, rfl⟩ := Nat.exists_eq_add_of_lt hz
    refine ⟨((List.range j).map fun i => z + 1 + i).flatMap part, ?_⟩
    rw [show z + j + 1 = z + 1 + j by omega, List.range_add, List.range_succ]
    simp
  have hpart : off + w ≤ (part z).length := hlen z ▸ hoff
  have hfit : z * k + off + w ≤ ((List.range n).flatMap part).length := by
    rw [hrest, List.length_append, List.length_append, length_parts hlen]
    omega
  rw [slice, if_pos hfit, slice, if_pos hpart, hrest, ← List.drop_drop,
    List.drop_left' (length_parts hlen z), List.drop_append_of_le_length (by omega),
    List.take_append_of_le_length (by rw [List.length_drop]; omega)]

/-- **A packed row is read back.** -/
theorem slice_pack {n w y : Nat} (row : Nat → Nat → β) (hy : y < n) :
    slice (pack n w row) (y * w) w = some ((List.range w).map (row y)) := by
  have hlen := length_row w row y
  have hslice := slice_parts (length_row w row) hy (Nat.le_of_eq (Nat.zero_add w))
  rw [Nat.add_zero] at hslice
  rw [pack, hslice, slice, if_pos (by omega), List.drop_zero, List.take_of_length_le (by omega)]

/-! ### Rows at a pitch -/

/-- Each of `n` rows of `w` bytes, at a pitch from `off` on, ends within `total`. -/
def Inside (off pitch w n total : Nat) : Prop := ∀ y < n, off + y * pitch + w ≤ total

theorem inside_iff {off pitch w n total : Nat} :
    Inside off pitch w n total ↔ n = 0 ∨ off + (n - 1) * pitch + w ≤ total := by
  constructor
  · intro h
    rcases Nat.eq_zero_or_pos n with hn | hn
    · exact .inl hn
    · exact .inr (h (n - 1) (by omega))
  · rintro (rfl | h) y hy
    · cases hy
    · have hle : y * pitch ≤ (n - 1) * pitch := Nat.mul_le_mul_right pitch (by omega)
      omega

/-- Rows from the row `t` on, that start at `x`, among `m` rows of a pitch. -/
theorem last_row_iff {t x pitch w n m : Nat} (hn : 0 < n) (hw : 0 < w) (hx : x ≤ pitch)
    (hpitch : w ≤ pitch) :
    t * pitch + x + (n - 1) * pitch + w ≤ m * pitch ↔
      t + n < m ∨ t + n = m ∧ x + w ≤ pitch := by
  obtain ⟨k, rfl⟩ : ∃ k, n = k + 1 := ⟨n - 1, by omega⟩
  have hsum : t * pitch + x + (k + 1 - 1) * pitch + w = (t + k) * pitch + (x + w) := by
    rw [Nat.add_sub_cancel]
    ring
  rw [hsum]
  rcases Nat.lt_trichotomy (t + k + 1) m with hlt | rfl | hgt
  · have hle : (t + k + 2) * pitch ≤ m * pitch := Nat.mul_le_mul_right pitch hlt
    have hadd : (t + k + 2) * pitch = (t + k) * pitch + 2 * pitch := by ring
    constructor
    · exact fun _ => .inl hlt
    · intro _
      omega
  · have hadd : (t + k + 1) * pitch = (t + k) * pitch + pitch := by ring
    rw [hadd]
    omega
  · have hle : m * pitch ≤ (t + k) * pitch := Nat.mul_le_mul_right pitch (by omega)
    omega

/-! ### Rows at addresses of their own -/

section Stores

variable {ι : Type*} {addr : ι → Int} {len : Nat} {content : ι → Nat → β} {is : List ι}

/-- A store of `len` bytes at `a`. -/
def store (bytes : Nat → β) (a : Int) (len : Nat) (mem : Int → β) : Int → β :=
  fun p => if a ≤ p ∧ p < a + len then bytes (p - a).toNat else mem p

/-- The rows of a list, stored one after another. -/
def storeAll (addr : ι → Int) (len : Nat) (content : ι → Nat → β) (is : List ι) (mem : Int → β) :
    Int → β :=
  is.foldl (fun m i => store (content i) (addr i) len m) mem

/-- Two rows have no byte in common. -/
def Apart (addr : ι → Int) (len : Nat) (i j : ι) : Prop :=
  addr i + len ≤ addr j ∨ addr j + len ≤ addr i

theorem store_apply (bytes : Nat → β) (a : Int) (mem : Int → β) {x : Nat} (hx : x < len) :
    store bytes a len mem (a + x) = bytes x := by
  rw [store, if_pos (by omega)]
  congr 1
  omega

theorem storeAll_unwritten {p : Int} (h : ∀ i ∈ is, ¬ (addr i ≤ p ∧ p < addr i + len))
    (mem : Int → β) : storeAll addr len content is mem p = mem p := by
  induction is generalizing mem with
  | nil => rfl
  | cons i is ih =>
      rw [storeAll, List.foldl_cons, ← storeAll, ih fun j hj => h j (List.mem_cons_of_mem i hj),
        store, if_neg (h i List.mem_cons_self)]

/-- **Stores of rows that are apart.**  Each holds its bytes at the end, whatever the order. -/
theorem storeAll_apply (hapart : ∀ i ∈ is, ∀ j ∈ is, i ≠ j → Apart addr len i j) {i : ι}
    (hi : i ∈ is) {x : Nat} (hx : x < len) (mem : Int → β) :
    storeAll addr len content is mem (addr i + x) = content i x := by
  induction is generalizing mem with
  | nil => cases hi
  | cons j is ih =>
      rw [storeAll, List.foldl_cons, ← storeAll]
      by_cases hmem : i ∈ is
      · exact ih (fun k hk l hl => hapart k (List.mem_cons_of_mem j hk) l
          (List.mem_cons_of_mem j hl)) hmem _
      · obtain rfl := (List.mem_cons.mp hi).resolve_right hmem
        rw [storeAll_unwritten, store_apply _ _ _ hx]
        intro k hk
        have hne : i ≠ k := fun he => hmem (he ▸ hk)
        have := hapart i List.mem_cons_self k (List.mem_cons_of_mem i hk) hne
        rcases this with h | h <;> omega

end Stores

end Rows
