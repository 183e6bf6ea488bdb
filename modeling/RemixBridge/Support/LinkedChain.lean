import Mathlib.Data.List.Basic
import Mathlib.Data.List.Nodup
import Mathlib.Tactic.Common

/-!
# Support — LinkedChain

A linked list in cells of which there is one for each key.  A value goes into the cell of its key,
whatever that cell holds and wherever it is linked, and the cell behind the last one.

* `walk_unique`: what follows a cell is one list, if it ends at all.
* `walk_appendAll_iff`: the cells hold the values in order if and only if no key comes twice.
-/

namespace LinkedChain

variable {K : Type*} {V : K → Type*}

/-- The cells, and what is linked to each and to the head, which is `none`. -/
structure Cells (V : K → Type*) where
  cell : ∀ k, V k
  next : Option K → Option K
  last : Option K

namespace Cells

/-- Nothing is linked. -/
def empty (cell : ∀ k, V k) : Cells V := ⟨cell, fun _ => none, none⟩

variable [DecidableEq K]

/-- A value is put into its cell, with nothing behind it, and the cell behind the last. -/
def append (c : Cells V) (x : Σ k, V k) : Cells V where
  cell := Function.update c.cell x.1 x.2
  next := Function.update (Function.update c.next (some x.1) none) c.last (some x.1)
  last := some x.1

def appendAll (c : Cells V) (xs : List (Σ k, V k)) : Cells V := xs.foldl append c

end Cells

/-- The list that follows a cell. -/
inductive Walk (c : Cells V) : Option K → List (Σ k, V k) → Prop where
  | nil {n : Option K} (h : c.next n = none) : Walk c n []
  | cons {n : Option K} {k : K} {xs : List (Σ k, V k)} (h : c.next n = some k)
      (t : Walk c (some k) xs) : Walk c n (⟨k, c.cell k⟩ :: xs)

theorem walk_unique {c : Cells V} {n : Option K} {xs ys : List (Σ k, V k)} (h : Walk c n xs)
    (h' : Walk c n ys) : xs = ys := by
  induction h generalizing ys with
  | nil hn =>
      cases h' with
      | nil => rfl
      | cons hk => rw [hn] at hk; cases hk
  | cons hk _ ih =>
      cases h' with
      | nil hn => rw [hn] at hk; cases hk
      | cons hk' t' =>
          obtain rfl := Option.some.inj (hk.symm.trans hk')
          rw [ih t']

/-- Behind a cell of the list comes the rest of it. -/
theorem Walk.drop {c : Cells V} {n : Option K} {x : Σ k, V k} {xs ys : List (Σ k, V k)}
    (h : Walk c n (xs ++ x :: ys)) : Walk c (some x.1) ys := by
  induction xs generalizing n with
  | nil =>
      cases h with
      | cons _ t => exact t
  | cons _ xs ih =>
      cases h with
      | cons _ t => exact ih t

/-- **No cycle.**  A list that ends passes no cell twice. -/
theorem Walk.nodup {c : Cells V} {n : Option K} {xs : List (Σ k, V k)} (h : Walk c n xs) :
    (xs.map Sigma.fst).Nodup := by
  induction h with
  | nil => exact List.nodup_nil
  | @cons n k xs _ t ih =>
      refine List.nodup_cons.mpr ⟨fun hmem => ?_, ih⟩
      obtain ⟨x, hx, rfl⟩ := List.mem_map.mp hmem
      obtain ⟨as, bs, rfl⟩ := List.append_of_mem hx
      have hsame : as ++ x :: bs = bs := walk_unique t t.drop
      have hlen := congrArg List.length hsame
      simp only [List.length_append, List.length_cons] at hlen
      omega

/-! ### Appending -/

/-- The list from the head to a cell. -/
inductive Path (c : Cells V) : List (Σ k, V k) → Option K → Prop where
  | nil : Path c [] none
  | snoc {xs : List (Σ k, V k)} {n : Option K} {k : K} (t : Path c xs n) (h : c.next n = some k) :
      Path c (xs ++ [⟨k, c.cell k⟩]) (some k)

theorem Path.walk {c : Cells V} {n : Option K} {xs ys : List (Σ k, V k)} (h : Path c xs n)
    (t : Walk c n ys) : Walk c none (xs ++ ys) := by
  induction h generalizing ys with
  | nil => exact t
  | snoc _ hk ih =>
      rw [List.append_assoc]
      exact ih (.cons hk t)

/-- A path ends at the head or at a cell of its list. -/
theorem Path.end_mem {c : Cells V} {k : K} {xs : List (Σ k, V k)} (h : Path c xs (some k)) :
    k ∈ xs.map Sigma.fst := by
  cases h with
  | snoc => simp

/-- The list is all that is linked, up to the last cell. -/
structure Linked (c : Cells V) (xs : List (Σ k, V k)) : Prop where
  path : Path c xs c.last
  ends : c.next c.last = none

theorem linked_empty (cell : ∀ k, V k) : Linked (Cells.empty cell) [] := ⟨.nil, rfl⟩

variable [DecidableEq K]

/-- Appending leaves the path as it is, if the key is new. -/
theorem Path.append {c : Cells V} {n : Option K} {xs : List (Σ k, V k)} (x : Σ k, V k)
    (h : Path c xs n) (hnodup : (xs.map Sigma.fst).Nodup) (hx : x.1 ∉ xs.map Sigma.fst)
    (hlast : n = c.last ∨ ∃ k, c.last = some k ∧ k ∉ xs.map Sigma.fst) :
    Path (c.append x) xs n := by
  induction h with
  | nil => exact .nil
  | @snoc xs n k t hk ih =>
      rw [List.map_append, List.nodup_append] at hnodup
      obtain ⟨hnodup, -, hdisj⟩ := hnodup
      have hknew : k ∉ xs.map Sigma.fst := fun hmem =>
        hdisj k hmem k (List.mem_singleton_self k) rfl
      have hkx : k ≠ x.1 := by
        rintro rfl
        exact hx (by simp)
      have hxs : x.1 ∉ xs.map Sigma.fst := fun hmem => hx (by simp [hmem])
      have hn : n ≠ some x.1 := by
        rintro rfl
        exact hxs t.end_mem
      -- The last cell is not before this one.
      have hbefore : ∃ k', c.last = some k' ∧ k' ∉ xs.map Sigma.fst := by
        rcases hlast with hlast | ⟨k', hlast, hk'⟩
        · exact ⟨k, hlast.symm, hknew⟩
        · exact ⟨k', hlast, fun hmem => hk' (by simp [hmem])⟩
      have hnlast : n ≠ c.last := by
        obtain ⟨k', hlast, hk'⟩ := hbefore
        rintro rfl
        rw [hlast] at t
        exact hk' t.end_mem
      have hcell : (c.append x).cell k = c.cell k := Function.update_of_ne hkx _ _
      have hnext : (c.append x).next n = some k := by
        show Function.update (Function.update c.next (some x.1) none) c.last (some x.1) n = some k
        rw [Function.update_of_ne hnlast, Function.update_of_ne hn, hk]
      have h := Path.snoc (ih hnodup hxs (.inr hbefore)) hnext
      rwa [hcell] at h

theorem Linked.append {c : Cells V} {xs : List (Σ k, V k)} (h : Linked c xs) (x : Σ k, V k)
    (hnodup : ((xs ++ [x]).map Sigma.fst).Nodup) : Linked (c.append x) (xs ++ [x]) := by
  rw [List.map_append, List.nodup_append] at hnodup
  obtain ⟨hnodup, -, hdisj⟩ := hnodup
  have hx : x.1 ∉ xs.map Sigma.fst := fun hmem => hdisj x.1 hmem x.1 (by simp) rfl
  have hlast : c.last ≠ some x.1 := fun heq => by
    have hpath := h.path
    rw [heq] at hpath
    exact hx hpath.end_mem
  have hcell : (c.append x).cell x.1 = x.2 := Function.update_self _ _ _
  have hnext : (c.append x).next c.last = some x.1 := Function.update_self _ _ _
  refine ⟨?_, ?_⟩
  · have hpath := Path.snoc (h.path.append x hnodup hx (.inl rfl)) hnext
    rwa [hcell] at hpath
  · show Function.update (Function.update c.next (some x.1) none) c.last (some x.1) (some x.1) =
      none
    rw [Function.update_of_ne hlast.symm, Function.update_self]

theorem Linked.appendAll {c : Cells V} {xs ys : List (Σ k, V k)} (h : Linked c xs)
    (hnodup : ((xs ++ ys).map Sigma.fst).Nodup) : Linked (c.appendAll ys) (xs ++ ys) := by
  induction ys generalizing c xs with
  | nil => rwa [List.append_nil]
  | cons y ys ih =>
      rw [← List.singleton_append, ← List.append_assoc] at hnodup ⊢
      refine ih (h.append y ?_) hnodup
      rw [List.map_append] at hnodup
      exact (List.nodup_append.mp hnodup).1

/-- **The cells as a list.** -/
theorem walk_appendAll_iff (cell : ∀ k, V k) (xs : List (Σ k, V k)) :
    Walk ((Cells.empty cell).appendAll xs) none xs ↔ (xs.map Sigma.fst).Nodup := by
  refine ⟨Walk.nodup, fun hnodup => ?_⟩
  have h : Linked ((Cells.empty cell).appendAll xs) ([] ++ xs) :=
    (linked_empty cell).appendAll hnodup
  have hwalk := h.path.walk (.nil h.ends)
  rwa [List.append_nil] at hwalk

end LinkedChain
