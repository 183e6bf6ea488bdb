import RemixBridge.Support.Runs
import Mathlib.Data.Finset.Basic
import Mathlib.Data.List.Count

/-!
# Support — Custody

Handles that are allocated, accessed and deallocated.  `call` is what keeps account of them: a
handle is allocated while it is not held, and accessed and deallocated while it is.  A sequence of
calls is `Settled` when all of them are in order and each handle is deallocated as often as it is
allocated.

* `settled_iff`: settled calls leave nothing held.
* `accessed_again`: what is accessed after it is deallocated has been allocated in between.
-/

namespace Custody
open Runs

inductive Call (ι : Type*)
  | allocate (i : ι)
  | access (i : ι)
  | deallocate (i : ι)
deriving DecidableEq

section account

variable {ι : Type*} [DecidableEq ι]

/-- What is held after a call, if it is in order. -/
def call (held : Finset ι) : Call ι → Option (Finset ι)
  | .allocate i => if i ∈ held then none else some (insert i held)
  | .access i => if i ∈ held then some held else none
  | .deallocate i => if i ∈ held then some (held.erase i) else none

/-- No handle is accessed or deallocated while it is not held, and each is deallocated as often as
it is allocated. -/
def Settled (cs : List (Call ι)) : Prop :=
  (∃ held, run call ∅ cs = some held) ∧ ∀ i, cs.count (.allocate i) = cs.count (.deallocate i)

/-- A handle that a next call may allocate. -/
def Fresh (cs : List (Call ι)) (i : ι) : Prop := ∀ held ∈ run call ∅ cs, i ∉ held

instance (cs : List (Call ι)) (i : ι) : Decidable (Fresh cs i) :=
  inferInstanceAs (Decidable (∀ held ∈ run call ∅ cs, i ∉ held))

/-! ### One call -/

variable {held held' : Finset ι} {i : ι}

@[simp] theorem call_allocate : call held (.allocate i) = some held' ↔
    i ∉ held ∧ held' = insert i held := by
  rw [call]
  split <;> simp_all [eq_comm]

@[simp] theorem call_access : call held (.access i) = some held' ↔ i ∈ held ∧ held' = held := by
  rw [call]
  split <;> simp_all [eq_comm]

@[simp] theorem call_deallocate : call held (.deallocate i) = some held' ↔
    i ∈ held ∧ held' = held.erase i := by
  rw [call]
  split <;> simp_all [eq_comm]

end account

/-! ### Calls that do not allocate -/

section spends

variable {ι : Type*} {cs ds : List (Call ι)} {i : ι}

/-- No call of these allocates. -/
def Spends (cs : List (Call ι)) : Prop := ∀ i, Call.allocate i ∉ cs

@[simp] theorem spends_nil : Spends ([] : List (Call ι)) := fun _ => List.not_mem_nil

@[simp] theorem spends_append : Spends (cs ++ ds) ↔ Spends cs ∧ Spends ds := by
  simp only [Spends, List.mem_append, not_or, forall_and]

@[simp] theorem spends_access : Spends (.access i :: cs) ↔ Spends cs := by
  simp [Spends]

@[simp] theorem spends_deallocate : Spends (.deallocate i :: cs) ↔ Spends cs := by
  simp [Spends]

theorem Spends.tail {c : Call ι} (h : Spends (c :: cs)) : Spends cs :=
  fun i hi => h i (List.mem_cons_of_mem c hi)

end spends

variable {ι : Type*} [DecidableEq ι] {held held' : Finset ι} {cs : List (Call ι)} {i j : ι}

theorem Spends.subset (hs : Spends cs) (hr : run call held cs = some held') : held' ⊆ held := by
  induction cs generalizing held with
  | nil =>
      cases hr
      exact fun _ h => h
  | cons c cs ih =>
      obtain ⟨mid, hc, hrest⟩ := run_cons.mp hr
      refine (ih hs.tail hrest).trans ?_
      cases c with
      | allocate i => exact absurd List.mem_cons_self (hs i)
      | access i =>
          obtain ⟨-, rfl⟩ := call_access.mp hc
          exact Finset.Subset.refl mid
      | deallocate i =>
          obtain ⟨-, rfl⟩ := call_deallocate.mp hc
          exact Finset.erase_subset i held

/-- **The frame rule.**  What calls that do not allocate do not know of stays held. -/
theorem Spends.insert (hs : Spends cs) (hj : j ∉ held) (hr : run call held cs = some held') :
    run call (insert j held) cs = some (insert j held') := by
  induction cs generalizing held with
  | nil =>
      cases hr
      rfl
  | cons c cs ih =>
      obtain ⟨mid, hc, hrest⟩ := run_cons.mp hr
      refine run_cons.mpr ⟨Insert.insert j mid, ?_, ?_⟩
      · cases c with
        | allocate i => exact absurd List.mem_cons_self (hs i)
        | access i =>
            obtain ⟨hi, rfl⟩ := call_access.mp hc
            exact call_access.mpr ⟨Finset.mem_insert_of_mem hi, rfl⟩
        | deallocate i =>
            obtain ⟨hi, rfl⟩ := call_deallocate.mp hc
            have hji : j ≠ i := fun h => hj (h ▸ hi)
            exact call_deallocate.mpr
              ⟨Finset.mem_insert_of_mem hi, (Finset.erase_insert_of_ne hji).symm⟩
      · have hmid : run call held [c] = some mid := run_cons.mpr ⟨mid, hc, rfl⟩
        have hsc : Spends [c] := fun i hi => hs i (List.mem_cons.mpr (.inl (List.mem_singleton.mp hi)))
        exact ih hs.tail (fun h => hj (hsc.subset hmid h)) hrest

theorem Spends.eq_of_no_deallocate (hs : Spends cs) (hd : ∀ i, Call.deallocate i ∉ cs)
    (hr : run call held cs = some held') : held' = held := by
  induction cs generalizing held with
  | nil =>
      cases hr
      rfl
  | cons c cs ih =>
      obtain ⟨mid, hc, hrest⟩ := run_cons.mp hr
      cases c with
      | allocate i => exact absurd List.mem_cons_self (hs i)
      | access i =>
          obtain ⟨-, rfl⟩ := call_access.mp hc
          exact ih hs.tail (fun i hi => hd i (List.mem_cons_of_mem _ hi)) hrest
      | deallocate i => exact absurd List.mem_cons_self (hd i)

/-- What calls that do not allocate deallocate was held before them and is not after. -/
theorem Spends.deallocated (hs : Spends cs) (hi : Call.deallocate i ∈ cs)
    (hr : run call held cs = some held') : i ∈ held ∧ i ∉ held' := by
  obtain ⟨before, after, rfl⟩ := List.append_of_mem hi
  obtain ⟨mid, hbefore, hrest⟩ := run_append.mp hr
  obtain ⟨mid', hc, hafter⟩ := run_cons.mp hrest
  obtain ⟨hmid, rfl⟩ := call_deallocate.mp hc
  obtain ⟨hsb, hsa⟩ := spends_append.mp hs
  exact ⟨hsb.subset hbefore hmid,
    fun h => Finset.notMem_erase i mid (hsa.tail.subset hafter h)⟩

/-! ### What it is for calls to be in order -/

theorem allocate_count (hr : run call held cs = some held') (i : ι) :
    cs.count (.allocate i) + (if i ∈ held then 1 else 0) =
      cs.count (.deallocate i) + (if i ∈ held' then 1 else 0) := by
  induction cs generalizing held with
  | nil =>
      cases hr
      rfl
  | cons c cs ih =>
      obtain ⟨mid, hc, hrest⟩ := run_cons.mp hr
      have hih := ih hrest
      cases c with
      | allocate j =>
          obtain ⟨hj, rfl⟩ := call_allocate.mp hc
          rcases eq_or_ne i j with rfl | hij
          · simp_all
          · simp_all [hij.symm]
      | access j =>
          obtain ⟨-, rfl⟩ := call_access.mp hc
          simpa [List.count_cons] using hih
      | deallocate j =>
          obtain ⟨hj, rfl⟩ := call_deallocate.mp hc
          rcases eq_or_ne i j with rfl | hij
          · simp_all [Nat.add_right_comm]
          · simp_all [hij.symm]

/-- **Settled calls.**  They are in order and leave nothing held. -/
theorem settled_iff : Settled cs ↔ run call ∅ cs = some ∅ := by
  constructor
  · rintro ⟨⟨held, hr⟩, hcount⟩
    have hempty : held = ∅ := by
      refine Finset.eq_empty_of_forall_notMem fun i hi => ?_
      have hi' := allocate_count hr i
      rw [hcount i, if_neg (Finset.notMem_empty i), if_pos hi] at hi'
      omega
    rw [hr, hempty]
  · intro hr
    exact ⟨⟨∅, hr⟩, fun i => by simpa using allocate_count hr i⟩

instance (cs : List (Call ι)) : Decidable (Settled cs) := decidable_of_iff _ settled_iff.symm

/-- **After deallocation.**  What is accessed after it is deallocated has been allocated in
between. -/
theorem accessed_again (hr : run call held (.deallocate i :: cs ++ [.access i]) = some held') :
    Call.allocate i ∈ cs := by
  obtain ⟨mid, hdc, hacc⟩ := run_append.mp hr
  obtain ⟨mid', hd, hcs⟩ := run_cons.mp hdc
  obtain ⟨-, rfl⟩ := call_deallocate.mp hd
  have hi : i ∈ mid := by
    obtain ⟨last, hlast, -⟩ := run_cons.mp hacc
    exact (call_access.mp hlast).1
  have hcount := allocate_count hcs i
  rw [if_neg (Finset.notMem_erase i held), if_pos hi] at hcount
  exact List.count_pos_iff.mp (by omega)

end Custody
