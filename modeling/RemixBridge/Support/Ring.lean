import Mathlib.Data.Nat.ModEq
import Mathlib.Tactic.Common

/-!
# Support — Ring

Positions on a ring of `n` slots.  A position is the remainder of a count that only grows, and
two counts less than `n` apart are told apart by their remainders.
-/

namespace Ring

/-- The slot after `i`, with a comparison in place of a division. -/
def next (n i : Nat) : Nat := if i + 1 < n then i + 1 else 0

theorem next_lt {n i : Nat} (hn : 0 < n) : next n i < n := by
  unfold next
  split
  · assumption
  · exact hn

/-- `next` steps a remainder to the remainder of the next count. -/
theorem next_mod {n : Nat} (hn : 0 < n) (k : Nat) : next n (k % n) = (k + 1) % n := by
  have hk : k % n < n := Nat.mod_lt k hn
  have hadd : (k + 1) % n = (k % n + 1) % n := (Nat.mod_add_mod k n 1).symm
  unfold next
  by_cases h : k % n + 1 < n
  · rw [if_pos h, hadd, Nat.mod_eq_of_lt h]
  · have : k % n + 1 = n := by omega
    rw [if_neg h, hadd, this, Nat.mod_self]

/-- Counts of one window of `n` are equal when their slots are. -/
theorem mod_eq_iff {n a b : Nat} (hab : a ≤ b) (hb : b < a + n) : a % n = b % n ↔ a = b := by
  constructor
  · intro h
    have h₁ : n ∣ b - a := (Nat.modEq_iff_dvd' hab).mp h
    have h₂ : b - a = 0 := Nat.eq_zero_of_dvd_of_lt h₁ (by omega)
    omega
  · rintro rfl
    rfl

/-- Short of the end, the slot moves on with the count. -/
theorem add_mod_of_lt {n k i : Nat} (h : k % n + i < n) : (k + i) % n = k % n + i := by
  rw [← Nat.mod_add_mod, Nat.mod_eq_of_lt h]

/-- At the end or past it, the slot starts again. -/
theorem add_mod_of_le {n k i : Nat} (h : n ≤ k % n + i) (h₂ : k % n + i < 2 * n) :
    (k + i) % n = k % n + i - n := by
  rw [← Nat.mod_add_mod, Nat.mod_eq_sub_mod h, Nat.mod_eq_of_lt (by omega)]

/-- A count on a later lap, at most a lap away, is on the next one. -/
theorem div_eq_succ {n a b : Nat} (hn : 0 < n) (hlt : a / n < b / n) (hle : b ≤ a + n) :
    b / n = a / n + 1 := by
  have h : b / n ≤ (a + n) / n := Nat.div_le_div_right hle
  rw [Nat.add_div_right a hn] at h
  omega

/-- Stepping back `d` slots from the slot of `k` gives the slot of `k - d`. -/
theorem mod_add_sub_mod {n k d : Nat} (hk : d ≤ k) (hd : d ≤ n) :
    (k % n + n - d) % n = (k - d) % n := by
  have h : k % n + n - d + d ≡ k - d + d [MOD n] := by
    rw [Nat.sub_add_cancel (Nat.le_add_left_of_le hd), Nat.sub_add_cancel hk]
    simp [Nat.ModEq]
  exact h.add_right_cancel'

end Ring
