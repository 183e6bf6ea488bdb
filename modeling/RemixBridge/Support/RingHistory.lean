import RemixBridge.Support.Ring
import Mathlib.Logic.Function.Basic

/-!
# Support — RingHistory

What the slots of a ring still hold of everything that was ever stored in it.  The element of
count `i` goes to slot `i % n`, so that each slot has the last element stored in it, and a slot the
ring has not come to has what it had at the start (`Holds`).

Backwards from the slot of a count lie the elements before it (`Holds.behind`), as far as the ring
has not come around to them, and, behind the first element, an unused slot (`Holds.behind_first`).
-/

namespace Ring

variable {T : Type*} {n : Nat} {data : Nat → T} {d : T} {l : List T}

/-- The slot before `i`, with a comparison in place of a division. -/
def back (n i : Nat) : Nat := if i = 0 then n - 1 else i - 1

/-- `back` steps the remainder of a count to the remainder of the count before. -/
theorem back_mod (hn : 0 < n) (k : Nat) : back n ((k + 1) % n) = k % n := by
  rw [← next_mod hn]
  have hk : k % n < n := Nat.mod_lt k hn
  unfold back next
  split <;> split <;> omega

/-- The slots have the last `n` elements of `l`, and `d` where the ring has not come to. -/
structure Holds (n : Nat) (data : Nat → T) (d : T) (l : List T) : Prop where
  recent : ∀ i, i < l.length → l.length ≤ i + n → l[i]? = some (data (i % n))
  unused : ∀ i, l.length ≤ i → i < n → data i = d

namespace Holds

theorem empty (n : Nat) (d : T) : Holds n (fun _ => d) d [] where
  recent := fun i h _ => absurd h (Nat.not_lt_zero i)
  unused := fun _ _ _ => rfl

/-- A store into the slot of the next count overwrites what is `n` elements behind. -/
theorem store (h : Holds n data d l) (x : T) :
    Holds n (Function.update data (l.length % n) x) d (l ++ [x]) where
  recent := by
    intro i hi hle
    rw [List.length_append, List.length_singleton] at hi hle
    rcases Nat.lt_succ_iff_lt_or_eq.mp hi with hlt | rfl
    · have hne : i % n ≠ l.length % n := fun e =>
        Nat.ne_of_lt hlt ((mod_eq_iff (Nat.le_of_lt hlt) hle).mp e)
      rw [Function.update_of_ne hne, List.getElem?_append_left hlt, h.recent i hlt (by omega)]
    · rw [Function.update_self, List.getElem?_concat_length]
  unused := by
    intro i hle hi
    rw [List.length_append, List.length_singleton] at hle
    have hmod : l.length % n = l.length := Nat.mod_eq_of_lt (by omega)
    rw [hmod, Function.update_of_ne (by omega), h.unused i (by omega) hi]

/-- `j + 1` slots behind the slot of `c` is the element of count `c - (j + 1)`. -/
theorem behind (h : Holds n data d l) {c j : Nat} (hj : j < c) (hc : c ≤ l.length)
    (hle : l.length + j + 1 ≤ c + n) :
    l[c - (j + 1)]? = some (data ((c + n - (j + 1)) % n)) := by
  have hslot : c + n - (j + 1) = c - (j + 1) + n := by omega
  rw [hslot, Nat.add_mod_right, h.recent _ (by omega) (by omega)]

/-- Behind the first element the ring ends in a slot it has not come to. -/
theorem behind_first (h : Holds n data d l) {c : Nat} (hlt : l.length < n) :
    data ((c + n - (c + 1)) % n) = d := by
  have hslot : c + n - (c + 1) = n - 1 := by omega
  rw [hslot, Nat.mod_eq_of_lt (by omega), h.unused _ (by omega) (by omega)]

end Holds

end Ring
