import Mathlib.Logic.Function.Basic
import Mathlib.Tactic.Common

/-!
# Support — RecursiveLock

A lock that its owner may take again: it is free when it was released as often as it was taken.
`Held l held` says that `held` counts, for each thread, the holds it has not given back.

* `Held.acquire`, `Held.release`: what the two operations do to the counts.
* `Held.unique`: two threads that hold the lock are one.
-/

namespace RecursiveLock

variable {ι : Type*}

/-- The owner and how often it has taken the lock. -/
structure Lock (ι : Type*) where
  owner : Option ι
  depth : Nat
  deriving DecidableEq, Repr

namespace Lock

def free : Lock ι := ⟨none, 0⟩

/-- The lock after `t` took it; `none` while another thread has it. -/
def acquire [DecidableEq ι] (l : Lock ι) (t : ι) : Option (Lock ι) :=
  match l.owner with
  | none   => some ⟨some t, 1⟩
  | some o => if o = t then some ⟨some t, l.depth + 1⟩ else none

def release (l : Lock ι) : Lock ι :=
  if l.depth - 1 = 0 then free else ⟨l.owner, l.depth - 1⟩

end Lock

/-- `held t` is the number of holds of `t`: all of them are the owner's. -/
structure Held (l : Lock ι) (held : ι → Nat) : Prop where
  owner : ∀ t, 0 < held t ↔ l.owner = some t
  depth : ∀ t, l.owner = some t → held t = l.depth

theorem held_free : Held (Lock.free : Lock ι) fun _ => 0 where
  owner t := by simp [Lock.free]
  depth t h := by simp [Lock.free] at h

namespace Held

variable {l l' : Lock ι} {held : ι → Nat} {t u : ι}

/-- **Mutual exclusion.** -/
theorem unique (h : Held l held) (ht : 0 < held t) (hu : 0 < held u) : t = u := by
  have h₁ := (h.owner t).mp ht
  have h₂ := (h.owner u).mp hu
  rw [h₁] at h₂
  exact Option.some.inj h₂

theorem eq_zero_of_ne (h : Held l held) (ht : 0 < held t) (hne : u ≠ t) : held u = 0 := by
  by_contra hu
  exact hne (h.unique (Nat.pos_of_ne_zero hu) ht)

theorem acquire [DecidableEq ι] (h : Held l held) (hl : l.acquire t = some l') :
    Held l' (Function.update held t (held t + 1)) := by
  have howner : l'.owner = some t ∧ l'.depth = held t + 1 ∧ ∀ u, u ≠ t → held u = 0 := by
    unfold Lock.acquire at hl
    split at hl
    · rename_i hnone
      cases hl
      have hzero : ∀ u, held u = 0 := by
        intro u
        by_contra hu
        have := (h.owner u).mp (Nat.pos_of_ne_zero hu)
        simp [hnone] at this
      exact ⟨rfl, by simp [hzero t], fun u _ => hzero u⟩
    · rename_i o hsome
      split at hl
      · rename_i ho
        subst ho
        cases hl
        refine ⟨rfl, ?_, fun u hu => h.eq_zero_of_ne ((h.owner o).mpr hsome) hu⟩
        simp [h.depth o hsome]
      · cases hl
  obtain ⟨ho, hd, hz⟩ := howner
  constructor
  · intro u
    by_cases hu : u = t
    · subst hu
      simp [ho]
    · simp [ho, hu, hz u hu, Ne.symm hu]
  · intro u hu
    rw [ho] at hu
    cases hu
    simp [hd]

theorem release [DecidableEq ι] (h : Held l held) (ht : 0 < held t) :
    Held l.release (Function.update held t (held t - 1)) := by
  have howner := (h.owner t).mp ht
  have hdepth := h.depth t howner
  have hz : ∀ u, u ≠ t → held u = 0 := fun u hu => h.eq_zero_of_ne ht hu
  unfold Lock.release
  rw [← hdepth]
  split
  · rename_i hone
    constructor
    · intro u
      by_cases hu : u = t
      · subst hu
        simp [hone, Lock.free]
      · simp [hu, hz u hu, Lock.free]
    · intro u hu
      simp [Lock.free] at hu
  · rename_i hmore
    constructor
    · intro u
      by_cases hu : u = t
      · subst hu
        simp [howner]
        omega
      · simp [howner, hu, hz u hu, Ne.symm hu]
    · intro u hu
      rw [howner] at hu
      cases hu
      simp

end Held

end RecursiveLock
