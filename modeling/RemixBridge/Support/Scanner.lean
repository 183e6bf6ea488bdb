import Mathlib.Algebra.GroupWithZero.Nat
import Mathlib.Data.List.Basic
import Mathlib.Tactic.Common

/-!
# Support — Scanner

A scan of a memory by lengths: from a token, on to the one that its length leads to, up to one that
stops it.  The memory has been written in segments, whose lengths the scan may get wrong.

* `scan_iff`: what a scan returns, as a relation.
* `counts_iff_inStep`: a scan arrives at the end of the segments if and only if, each time it falls
  between their starts, it falls on one of them again.
-/

namespace Scanner

variable {τ : Type*} {size : τ → Nat} {stop : τ → Bool} {mem : Nat → τ} {p q r : Nat}
  {l k : Nat} {ls : List Nat}

/-- The scan from `p`: where it stops, or `none` if it has not after `fuel` tokens. -/
def scan (size : τ → Nat) (stop : τ → Bool) (mem : Nat → τ) : Nat → Nat → Option Nat
  | 0, _ => none
  | fuel + 1, p => if stop (mem p) then some p else scan size stop mem fuel (p + size (mem p))

/-- A scan from the first position passes the second one. -/
inductive Counts (size : τ → Nat) (stop : τ → Bool) (mem : Nat → τ) : Nat → Nat → Prop where
  | refl (p : Nat) : Counts size stop mem p p
  | step {p q : Nat} (h : stop (mem p) = false) (t : Counts size stop mem (p + size (mem p)) q) :
      Counts size stop mem p q

/-! ### What a scan passes -/

theorem Counts.trans (h : Counts size stop mem p q) (h' : Counts size stop mem q r) :
    Counts size stop mem p r := by
  induction h with
  | refl => exact h'
  | step hstop _ ih => exact .step hstop (ih h')

theorem scan_iff : (∃ fuel, scan size stop mem fuel p = some q) ↔
    Counts size stop mem p q ∧ stop (mem q) = true := by
  constructor
  · rintro ⟨fuel, h⟩
    induction fuel generalizing p with
    | zero => cases h
    | succ fuel ih =>
        rw [scan] at h
        split at h
        · rename_i hstop
          cases h
          exact ⟨.refl _, hstop⟩
        · rename_i hstop
          obtain ⟨hcounts, hq⟩ := ih h
          exact ⟨.step (Bool.eq_false_iff.mpr hstop) hcounts, hq⟩
  · rintro ⟨h, hq⟩
    induction h with
    | refl p => exact ⟨1, by rw [scan, if_pos hq]⟩
    | step hstop _ ih =>
        obtain ⟨fuel, hfuel⟩ := ih hq
        exact ⟨fuel + 1, by rw [scan, hstop, if_neg Bool.false_ne_true, hfuel]⟩

/-! ### Segments -/

/-- A segment starts at `q`, or they end there, if the first one starts at `p`. -/
def Boundary (p : Nat) (ls : List Nat) (q : Nat) : Prop :=
  ∃ k ≤ ls.length, q = p + (ls.take k).sum

/-- A scan that has fallen between boundaries falls on one again. -/
inductive Returns (size : τ → Nat) (stop : τ → Bool) (mem : Nat → τ) (boundary : Nat → Prop) :
    Nat → Nat → Prop where
  | here {p : Nat} (h : boundary p) : Returns size stop mem boundary p p
  | between {p q : Nat} (h : ¬ boundary p) (hstop : stop (mem p) = false)
      (t : Returns size stop mem boundary (p + size (mem p)) q) :
      Returns size stop mem boundary p q

/-- A scan from the start of segments keeps in step with them, or comes back in step each time it
has lost it. -/
inductive InStep (size : τ → Nat) (stop : τ → Bool) (mem : Nat → τ) : Nat → List Nat → Prop where
  | done (p : Nat) : InStep size stop mem p []
  | counted {p l : Nat} {ls : List Nat} (h : size (mem p) = l)
      (t : InStep size stop mem (p + l) ls) : InStep size stop mem p (l :: ls)
  | miscounted {p l k : Nat} {ls : List Nat} (h : size (mem p) ≠ l) (hk : k ≤ ls.length)
      (hret : Returns size stop mem (Boundary (p + l) ls) (p + size (mem p))
        (p + l + (ls.take k).sum))
      (t : InStep size stop mem (p + l + (ls.take k).sum) (ls.drop k)) :
      InStep size stop mem p (l :: ls)

/-- No segment starts with a token that stops a scan. -/
def Live (stop : τ → Bool) (mem : Nat → τ) (p : Nat) (ls : List Nat) : Prop :=
  ∀ k < ls.length, stop (mem (p + (ls.take k).sum)) = false

theorem Live.head (h : Live stop mem p (l :: ls)) : stop (mem p) = false :=
  h 0 (Nat.succ_pos _)

theorem Live.drop (h : Live stop mem p ls) (k : Nat) :
    Live stop mem (p + (ls.take k).sum) (ls.drop k) := by
  intro j hj
  rw [List.length_drop] at hj
  have := h (k + j) (by omega)
  rwa [List.take_add, List.sum_append, ← Nat.add_assoc] at this

theorem Live.tail (h : Live stop mem p (l :: ls)) : Live stop mem (p + l) ls := by
  have := h.drop 1
  simpa using this

theorem Returns.counts {boundary : Nat → Prop} (h : Returns size stop mem boundary p q) :
    Counts size stop mem p q := by
  induction h with
  | here => exact .refl _
  | between _ hstop _ ih => exact .step hstop ih

/-- A scan that passes a boundary comes to a first one. -/
theorem Counts.returns {boundary : Nat → Prop} (h : Counts size stop mem p q) (hq : boundary q) :
    ∃ r, boundary r ∧ Returns size stop mem boundary p r ∧ Counts size stop mem r q := by
  induction h with
  | refl p => exact ⟨p, hq, .here hq, .refl p⟩
  | @step p q hstop t ih =>
      by_cases hp : boundary p
      · exact ⟨p, hp, .here hp, .step hstop t⟩
      · obtain ⟨r, hr, hret, hcounts⟩ := ih hq
        exact ⟨r, hr, .between hp hstop hret, hcounts⟩

theorem sum_take_add_sum_drop (ls : List Nat) (k : Nat) :
    (ls.take k).sum + (ls.drop k).sum = ls.sum := by
  rw [← List.sum_append, List.take_append_drop]

theorem InStep.counts (h : InStep size stop mem p ls) (hlive : Live stop mem p ls) :
    Counts size stop mem p (p + ls.sum) := by
  induction h with
  | done p => exact .refl p
  | counted hsize _ ih =>
      rw [List.sum_cons, ← Nat.add_assoc]
      exact .step hlive.head (by rw [hsize]; exact ih hlive.tail)
  | @miscounted p l k ls _ _ hret _ ih =>
      rw [List.sum_cons, ← sum_take_add_sum_drop ls k, ← Nat.add_assoc, ← Nat.add_assoc]
      exact .step hlive.head (hret.counts.trans (ih (hlive.tail.drop k)))

theorem Counts.inStep (hpos : ∀ l ∈ ls, 0 < l) (h : Counts size stop mem p (p + ls.sum)) :
    InStep size stop mem p ls := by
  induction hn : ls.length using Nat.strongRecOn generalizing p ls with
  | ind n ih =>
      cases ls with
      | nil => exact .done p
      | cons l ls =>
          have hl := hpos l List.mem_cons_self
          have htail : ∀ l' ∈ ls, 0 < l' := fun l' hl' => hpos l' (List.mem_cons_of_mem l hl')
          rw [List.sum_cons, ← Nat.add_assoc] at h
          generalize hend : p + l + ls.sum = e at h
          cases h with
          | refl => omega
          | step hstop t =>
              by_cases hsize : size (mem p) = l
              · rw [hsize] at t
                exact .counted hsize (ih ls.length (by simp at hn; omega) htail (hend ▸ t) rfl)
              · have hb : Boundary (p + l) ls e := ⟨ls.length, Nat.le_refl _, by simp [hend]⟩
                obtain ⟨r, ⟨k, hk, rfl⟩, hret, hcounts⟩ := t.returns hb
                refine .miscounted hsize hk hret (ih (ls.drop k).length ?_ ?_ ?_ rfl)
                · rw [List.length_drop]
                  simp at hn
                  omega
                · exact fun l' hl' => htail l' (List.mem_of_mem_drop hl')
                · have hsum := sum_take_add_sum_drop ls k
                  have he : p + l + (ls.take k).sum + (ls.drop k).sum = e := by omega
                  rwa [he]

/-- **A scan of segments.**  It passes their end if and only if it comes back in step with them each
time it has lost it. -/
theorem counts_iff_inStep (hpos : ∀ l ∈ ls, 0 < l) (hlive : Live stop mem p ls) :
    Counts size stop mem p (p + ls.sum) ↔ InStep size stop mem p ls :=
  ⟨Counts.inStep hpos, fun h => h.counts hlive⟩

/-- A segment of which one token is not counted, where that counts as one. -/
theorem InStep.stray (h : size (mem p) + 1 = l) (hstop : stop (mem (p + size (mem p))) = false)
    (hone : size (mem (p + size (mem p))) = 1) (t : InStep size stop mem (p + l) ls) :
    InStep size stop mem p (l :: ls) := by
  have hne : ¬ Boundary (p + l) ls (p + size (mem p)) := by
    rintro ⟨k, -, hk⟩
    omega
  have hnext : p + size (mem p) + size (mem (p + size (mem p))) = p + l := by omega
  refine .miscounted (k := 0) (by omega) (Nat.zero_le _) (.between hne hstop ?_) (by simpa using t)
  rw [hnext]
  exact .here ⟨0, Nat.zero_le _, rfl⟩

/-- A segment is counted, or all of it but a last token that counts as one. -/
def CountedOrStray (size : τ → Nat) (stop : τ → Bool) (mem : Nat → τ) (p l : Nat) : Prop :=
  size (mem p) = l ∨ size (mem p) + 1 = l ∧ stop (mem (p + size (mem p))) = false ∧
    size (mem (p + size (mem p))) = 1

theorem inStep_of_segments (h : ∀ k (hk : k < ls.length),
    CountedOrStray size stop mem (p + (ls.take k).sum) ls[k]) : InStep size stop mem p ls := by
  induction ls generalizing p with
  | nil => exact .done p
  | cons l ls ih =>
      have htail : InStep size stop mem (p + l) ls := by
        refine ih fun k hk => ?_
        have := h (k + 1) (Nat.succ_lt_succ hk)
        rwa [List.take_succ_cons, List.sum_cons, ← Nat.add_assoc, List.getElem_cons_succ] at this
      rcases h 0 (Nat.succ_pos _) with hsize | ⟨hsize, hstop, hone⟩
      · exact .counted hsize htail
      · exact .stray hsize hstop hone htail

/-- What the memory of segments holds in one of them. -/
theorem getElem?_flatMap {α : Type*} (f : α → List τ) (is : List α) {k j : Nat}
    (hk : k < is.length) (hj : j < (f is[k]).length) :
    (is.flatMap f)[((is.map fun i => (f i).length).take k).sum + j]? = (f is[k])[j]? := by
  induction is generalizing k with
  | nil => cases hk
  | cons i is ih =>
      cases k with
      | zero =>
          rw [List.flatMap_cons, List.take_zero, List.sum_nil, Nat.zero_add]
          exact List.getElem?_append_left hj
      | succ k =>
          rw [List.flatMap_cons, List.map_cons, List.take_succ_cons, List.sum_cons, Nat.add_assoc,
            List.getElem?_append_right (Nat.le_add_right _ _), Nat.add_sub_cancel_left]
          exact ih (Nat.lt_of_succ_lt_succ hk) hj

end Scanner
