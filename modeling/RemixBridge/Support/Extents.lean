import Mathlib.Algebra.GroupWithZero.Nat
import Mathlib.Data.List.Basic
import Mathlib.Data.List.Pairwise
import Mathlib.Tactic.Common

/-!
# Support — Extents

Disjoint extents of numbers in their order, kept as a map from the first number of each to its
last (`std::map`): an entry is found, put and removed by its first number.

* `ordered_insert`: a free extent can be put.
* `total_insert`, `total_erase`, `total_le`: what the extents cover.
-/

/-- An extent, with both its ends. -/
@[ext]
structure Extent where
  first : Nat
  final : Nat
deriving DecidableEq

namespace Extent

def count (i : Extent) : Nat := i.final - i.first + 1

/-- The extents have no number in common. -/
def Disjoint (i j : Extent) : Prop := i.final < j.first ∨ j.final < i.first

theorem Disjoint.symm {i j : Extent} (h : Disjoint i j) : Disjoint j i := Or.symm h

/-- None of the extents is empty, and each lies before the next ones. -/
structure Ordered (is : List Extent) : Prop where
  nonempty : ∀ i ∈ is, i.first ≤ i.final
  before : is.Pairwise fun i j => i.final < j.first

/-- The extent has no number in common with any of the list. -/
def Free (is : List Extent) (i : Extent) : Prop := ∀ j ∈ is, Disjoint j i

/-- `map[i.first] = i.final`. -/
def insert (i : Extent) : List Extent → List Extent
  | []      => [i]
  | j :: js =>
      if i.first < j.first then i :: j :: js
      else if j.first < i.first then j :: insert i js
      else i :: js

def erase (first : Nat) (is : List Extent) : List Extent := is.filter (·.first ≠ first)

/-- `map[first]`, if there is such an entry. -/
def find (first : Nat) (is : List Extent) : Option Extent := is.find? (·.first = first)

def total (is : List Extent) : Nat := (is.map count).sum

variable {is : List Extent} {i j : Extent}

theorem ordered_nil : Ordered [] where
  nonempty := nofun
  before := .nil

/-! ### One entry a first number -/

theorem Ordered.disjoint (h : Ordered is) (hi : i ∈ is) (hj : j ∈ is) (hne : i ≠ j) :
    Disjoint i j := by
  induction is with
  | nil => cases hi
  | cons k is ih =>
      obtain ⟨hk, hrest⟩ := List.pairwise_cons.mp h.before
      rcases List.mem_cons.mp hi with hik | hi'
      · subst hik
        exact .inl (hk j ((List.mem_cons.mp hj).resolve_left (Ne.symm hne)))
      · rcases List.mem_cons.mp hj with hjk | hj'
        · subst hjk
          exact .inr (hk i hi')
        · exact ih ⟨fun m hm => h.nonempty m (List.mem_cons_of_mem _ hm), hrest⟩ hi' hj'

theorem Ordered.eq_of_first (h : Ordered is) (hi : i ∈ is) (hj : j ∈ is)
    (heq : i.first = j.first) : i = j := by
  by_contra hne
  have hni := h.nonempty i hi
  have hnj := h.nonempty j hj
  rcases h.disjoint hi hj hne with hd | hd <;> omega

theorem Ordered.find_mem (h : Ordered is) (hi : i ∈ is) : find i.first is = some i := by
  cases hf : find i.first is with
  | none =>
      have hnone := List.find?_eq_none.mp hf i hi
      simp at hnone
  | some j =>
      have hj := List.mem_of_find?_eq_some hf
      have heq : j.first = i.first := by simpa using List.find?_some hf
      rw [h.eq_of_first hj hi heq]

theorem Free.first_ne (hfree : Free is i) (hi : i.first ≤ i.final)
    (hne : ∀ j ∈ is, j.first ≤ j.final) (hj : j ∈ is) : j.first ≠ i.first := by
  have hnj := hne j hj
  rcases hfree j hj with hd | hd <;> omega

/-- The last extent ends last. -/
theorem Ordered.final_le_getLast (h : Ordered is) (hj : is.getLast? = some j) (hi : i ∈ is) :
    i.final ≤ j.final := by
  induction is generalizing i with
  | nil => cases hi
  | cons k is ih =>
      obtain ⟨hk, hbefore⟩ := List.pairwise_cons.mp h.before
      have hrest : Ordered is := ⟨fun m hm => h.nonempty m (List.mem_cons_of_mem _ hm), hbefore⟩
      cases is with
      | nil =>
          cases List.mem_singleton.mp hi
          cases hj
          exact Nat.le_refl _
      | cons m is =>
          rw [List.getLast?_cons_cons] at hj
          rcases List.mem_cons.mp hi with hik | hi'
          · have hm := hk m List.mem_cons_self
            have hnm := hrest.nonempty m List.mem_cons_self
            have hmj := ih hrest hj List.mem_cons_self
            rw [hik]
            omega
          · exact ih hrest hj hi'

/-! ### Putting -/

theorem mem_insert (h : Ordered is) (hi : i.first ≤ i.final) (hfree : Free is i) :
    j ∈ insert i is ↔ j = i ∨ j ∈ is := by
  induction is with
  | nil => simp [insert]
  | cons k is ih =>
      have hk : k ∈ k :: is := List.mem_cons_self
      have hne := hfree.first_ne hi h.nonempty hk
      have hrest : Ordered is :=
        ⟨fun m hm => h.nonempty m (List.mem_cons_of_mem _ hm), (List.pairwise_cons.mp h.before).2⟩
      have ih := ih hrest fun m hm => hfree m (List.mem_cons_of_mem _ hm)
      unfold insert
      split
      · rw [List.mem_cons]
      · rw [if_pos (by omega), List.mem_cons, ih, List.mem_cons]
        exact or_left_comm

theorem ordered_insert (h : Ordered is) (hi : i.first ≤ i.final) (hfree : Free is i) :
    Ordered (insert i is) := by
  refine ⟨fun j hj => ?_, ?_⟩
  · rcases (mem_insert h hi hfree).mp hj with rfl | hj
    · exact hi
    · exact h.nonempty j hj
  · induction is with
    | nil => exact List.pairwise_singleton _ _
    | cons k is ih =>
        obtain ⟨hk, hbefore⟩ := List.pairwise_cons.mp h.before
        have hrest : Ordered is :=
          ⟨fun m hm => h.nonempty m (List.mem_cons_of_mem _ hm), hbefore⟩
        have hfree' : Free is i := fun m hm => hfree m (List.mem_cons_of_mem _ hm)
        have hki := hfree k List.mem_cons_self
        have hnk := h.nonempty k List.mem_cons_self
        unfold insert
        split
        · next hlt =>
            have hik : i.final < k.first := by rcases hki with hd | hd <;> omega
            refine List.pairwise_cons.mpr ⟨fun m hm => ?_, h.before⟩
            rcases List.mem_cons.mp hm with rfl | hm
            · exact hik
            · have hkm := hk m hm
              omega
        · next hlt =>
            have hki' : k.final < i.first := by rcases hki with hd | hd <;> omega
            rw [if_pos (by omega)]
            refine List.pairwise_cons.mpr ⟨fun m hm => ?_, ih hrest hfree'⟩
            rcases (mem_insert hrest hi hfree').mp hm with rfl | hm
            · exact hki'
            · exact hk m hm

theorem total_insert (h : Ordered is) (hi : i.first ≤ i.final) (hfree : Free is i) :
    total (insert i is) = total is + i.count := by
  induction is with
  | nil => simp [insert, total]
  | cons k is ih =>
      have hne := hfree.first_ne hi h.nonempty (List.mem_cons_self (a := k))
      have hrest : Ordered is :=
        ⟨fun m hm => h.nonempty m (List.mem_cons_of_mem _ hm), (List.pairwise_cons.mp h.before).2⟩
      have ih := ih hrest fun m hm => hfree m (List.mem_cons_of_mem _ hm)
      simp only [total] at ih ⊢
      unfold insert
      split
      · simp only [List.map_cons, List.sum_cons]
        omega
      · rw [if_pos (by omega)]
        simp only [List.map_cons, List.sum_cons, ih]
        omega

/-! ### What is covered -/

theorem total_le {a b : Nat} (h : Ordered is) (hlo : ∀ i ∈ is, a ≤ i.first)
    (hhi : ∀ i ∈ is, i.final < b) : total is ≤ b - a := by
  induction is generalizing a with
  | nil => exact Nat.zero_le _
  | cons k is ih =>
      obtain ⟨hk, hbefore⟩ := List.pairwise_cons.mp h.before
      have hrest : Ordered is := ⟨fun m hm => h.nonempty m (List.mem_cons_of_mem _ hm), hbefore⟩
      have ih := ih (a := k.final + 1) hrest hk fun m hm => hhi m (List.mem_cons_of_mem _ hm)
      have hlok := hlo k List.mem_cons_self
      have hhik := hhi k List.mem_cons_self
      have hnk := h.nonempty k List.mem_cons_self
      simp only [total, List.map_cons, List.sum_cons, count] at ih ⊢
      omega

/-! ### Removing -/

theorem mem_erase {first : Nat} : j ∈ erase first is ↔ j ∈ is ∧ j.first ≠ first := by
  simp [erase]

theorem ordered_erase (h : Ordered is) (first : Nat) : Ordered (erase first is) where
  nonempty j hj := h.nonempty j (mem_erase.mp hj).1
  before := h.before.filter _

theorem total_erase (h : Ordered is) (hi : i ∈ is) :
    total (erase i.first is) + i.count = total is := by
  induction is with
  | nil => cases hi
  | cons k is ih =>
      obtain ⟨hk, hbefore⟩ := List.pairwise_cons.mp h.before
      have hrest : Ordered is := ⟨fun m hm => h.nonempty m (List.mem_cons_of_mem _ hm), hbefore⟩
      have hnk := h.nonempty k List.mem_cons_self
      by_cases hik : i = k
      · have hnone : erase k.first is = is := by
          refine List.filter_eq_self.mpr fun m hm => ?_
          have hkm := hk m hm
          simp only [decide_not, Bool.not_eq_true', decide_eq_false_iff_not]
          omega
        have hhead : erase k.first (k :: is) = erase k.first is := by simp [erase]
        rw [hik, hhead, hnone]
        simp only [total, List.map_cons, List.sum_cons]
        omega
      · have hmem : i ∈ is := (List.mem_cons.mp hi).resolve_left hik
        have hki := hk i hmem
        have hhead : erase i.first (k :: is) = k :: erase i.first is := by
          have hne : k.first ≠ i.first := by omega
          simp [erase, hne]
        have ih := ih hrest hmem
        simp only [total] at ih ⊢
        rw [hhead, List.map_cons, List.sum_cons, List.map_cons, List.sum_cons]
        omega

end Extent
