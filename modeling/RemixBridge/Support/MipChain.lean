import Mathlib.Algebra.GroupWithZero.Nat
import Mathlib.Data.Nat.Log
import Mathlib.Tactic.Common

/-!
# Support — MipChain

The chain of levels of an image of any number of dimensions: each level has half the size of the
one above it, at least 1 each way, and the first level of size 1 each way is the last.

* `chain_iff`: the chain, level by level.
* `log_eq_clog_iff`: where the logarithm that gives its length may be rounded up.
-/

namespace MipChain

variable {dims : List Nat} {ls : List (List Nat)}

def halve (n : Nat) : Nat := max 1 (n / 2)

/-- The levels from `dims` down to the first that is 1 each way. -/
inductive Chain : List Nat → List (List Nat) → Prop where
  | last {dims : List Nat} (h : ∀ d ∈ dims, d = 1) : Chain dims [dims]
  | next {dims : List Nat} {ls : List (List Nat)} (h : ¬ ∀ d ∈ dims, d = 1)
      (t : Chain (dims.map halve) ls) : Chain dims (dims :: ls)

/-- The largest of the dimensions, each of them at least 1. -/
def largest (dims : List Nat) : Nat := dims.foldr max 1

/-- The `k`-th level. -/
def level (dims : List Nat) (k : Nat) : List Nat := dims.map fun d => max 1 (d / 2 ^ k)

theorem largest_pos (dims : List Nat) : 1 ≤ largest dims := by
  induction dims with
  | nil => exact le_refl 1
  | cons d dims ih => exact ih.trans (le_max_right d _)

theorem largest_eq_one (hpos : ∀ d ∈ dims, 1 ≤ d) : largest dims = 1 ↔ ∀ d ∈ dims, d = 1 := by
  induction dims with
  | nil => simp [largest]
  | cons d dims ih =>
      obtain ⟨hd, hdims⟩ := List.forall_mem_cons.mp hpos
      have hle := largest_pos dims
      have hmax : max d (largest dims) = 1 ↔ d = 1 ∧ largest dims = 1 := by omega
      rw [List.forall_mem_cons, ← ih hdims]
      exact hmax

theorem halve_max (a b : Nat) : halve (max a b) = max (halve a) (halve b) := by
  unfold halve
  omega

theorem largest_halve (dims : List Nat) : largest (dims.map halve) = halve (largest dims) := by
  induction dims with
  | nil => rfl
  | cons d dims ih =>
      show max (halve d) (largest (dims.map halve)) = halve (max d (largest dims))
      rw [ih, halve_max]

theorem halve_pos (n : Nat) : 1 ≤ halve n := le_max_left 1 _

theorem log_halve {n : Nat} (hn : 2 ≤ n) : Nat.log 2 n = Nat.log 2 (halve n) + 1 := by
  have hhalve : halve n = n / 2 := max_eq_right (by omega)
  rw [hhalve, Nat.log_of_one_lt_of_le Nat.one_lt_two hn]

theorem level_zero (hpos : ∀ d ∈ dims, 1 ≤ d) : level dims 0 = dims := by
  refine (List.map_congr_left fun d hd => ?_).trans (List.map_id dims)
  rw [Nat.pow_zero, Nat.div_one]
  exact max_eq_right (hpos d hd)

theorem level_halve (dims : List Nat) (k : Nat) : level (dims.map halve) k = level dims (k + 1) := by
  unfold level
  rw [List.map_map]
  refine List.map_congr_left fun d _ => ?_
  show max 1 (max 1 (d / 2) / 2 ^ k) = max 1 (d / 2 ^ (k + 1))
  rw [Nat.pow_succ', ← Nat.div_div_eq_div_mul]
  rcases Nat.eq_zero_or_pos (d / 2) with hd | hd
  · have hone : 1 / 2 ^ k ≤ 1 := Nat.div_le_self 1 _
    rw [hd, Nat.zero_div, max_eq_left (Nat.zero_le 1)]
    exact max_eq_left hone
  · rw [show max 1 (d / 2) = d / 2 from max_eq_right hd]

/-- **The chain, level by level**: it has one level more than the logarithm of the largest
dimension. -/
theorem chain_iff (hpos : ∀ d ∈ dims, 1 ≤ d) :
    Chain dims ls ↔ ls = (List.range (Nat.log 2 (largest dims) + 1)).map (level dims) := by
  obtain ⟨n, hn⟩ : ∃ n, n = Nat.log 2 (largest dims) := ⟨_, rfl⟩
  rw [← hn]
  have hle := largest_pos dims
  induction n generalizing dims ls with
  | zero =>
      have hone : largest dims = 1 := by
        by_contra hne
        rw [log_halve (by omega)] at hn
        cases hn
      have hall := (largest_eq_one hpos).mp hone
      rw [show (List.range (0 + 1)).map (level dims) = [level dims 0] from rfl, level_zero hpos]
      constructor
      · rintro (_ | hnot)
        · rfl
        · exact absurd hall hnot
      · rintro rfl
        exact .last hall
  | succ n ih =>
      have htwo : 2 ≤ largest dims := by
        by_contra hlt
        rw [show largest dims = 1 by omega, Nat.log_one_right] at hn
        cases hn
      have hhalve : n = Nat.log 2 (largest (dims.map halve)) := by
        rw [largest_halve]
        rw [log_halve htwo] at hn
        exact Nat.succ.inj hn
      have hnot : ¬ ∀ d ∈ dims, d = 1 := fun hall => by
        have hone := (largest_eq_one hpos).mpr hall
        omega
      have hposHalve : ∀ d ∈ dims.map halve, 1 ≤ d := by
        intro d hd
        obtain ⟨d', -, rfl⟩ := List.mem_map.mp hd
        exact halve_pos d'
      have htail (ls : List (List Nat)) := @ih (dims.map halve) ls hposHalve hhalve (largest_pos _)
      have hlevels : (List.range (n + 1 + 1)).map (level dims) =
          dims :: (List.range (n + 1)).map (level (dims.map halve)) := by
        rw [List.range_succ_eq_map, List.map_cons, level_zero hpos, List.map_map]
        exact congrArg (dims :: ·) (List.map_congr_left fun k _ => (level_halve dims k).symm)
      rw [hlevels]
      constructor
      · rintro (hall | ⟨-, ht⟩)
        · exact absurd hall hnot
        · rw [(htail _).mp ht]
      · rintro rfl
        exact .next hnot ((htail _).mpr rfl)

/-- Rounding a logarithm up or down is the same for the powers of 2 and for no other number. -/
theorem log_eq_clog_iff {n : Nat} (hn : n ≠ 0) : Nat.log 2 n = Nat.clog 2 n ↔ ∃ k, n = 2 ^ k := by
  constructor
  · intro h
    have hlow : 2 ^ Nat.log 2 n ≤ n := Nat.pow_log_le_self 2 hn
    have hhigh : n ≤ 2 ^ Nat.clog 2 n := Nat.le_pow_clog Nat.one_lt_two n
    rw [← h] at hhigh
    exact ⟨_, hhigh.antisymm hlow⟩
  · rintro ⟨k, rfl⟩
    rw [Nat.log_pow Nat.one_lt_two, Nat.clog_pow 2 k Nat.one_lt_two]

end MipChain
