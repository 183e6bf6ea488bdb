import Mathlib.Data.List.Basic
import Mathlib.Data.List.Nodup
import Mathlib.Tactic.Common

/-!
# Support — Cursor

A loop that walks a chain of pointers: while there is a next one, it is visited and the cursor is
moved.

* `walk_advancing`: a cursor that is moved to what it has visited visits the chain and ends.
* `walk_standing`: a cursor that stays does not end.
-/

namespace Cursor

variable {α : Type*} {next : α → Option α} {advance : α → α → α} {a : α} {xs ys : List α}

/-- The finite chain that follows a pointer. -/
inductive Chain (next : α → Option α) : α → List α → Prop where
  | nil {a : α} (h : next a = none) : Chain next a []
  | cons {a b : α} {xs : List α} (h : next a = some b) (t : Chain next b xs) :
      Chain next a (b :: xs)

/-- `while (p = next(a)) { ...; a = advance(a, p); }`: what has been visited, or `none` if the loop
has not ended after `fuel` turns. -/
def walk (next : α → Option α) (advance : α → α → α) : Nat → α → Option (List α)
  | 0, _ => none
  | fuel + 1, a =>
      match next a with
      | none   => some []
      | some p => (walk next advance fuel (advance a p)).map (p :: ·)

/-! ### Chains -/

theorem Chain.unique (h : Chain next a xs) (h' : Chain next a ys) : xs = ys := by
  induction h generalizing ys with
  | nil hn =>
      cases h' with
      | nil => rfl
      | cons hb => rw [hn] at hb; cases hb
  | cons hb _ ih =>
      cases h' with
      | nil hn => rw [hn] at hb; cases hb
      | cons hb' t' =>
          obtain rfl := Option.some.inj (hb.symm.trans hb')
          rw [ih t']

theorem Chain.drop {b : α} (h : Chain next a (xs ++ b :: ys)) : Chain next b ys := by
  induction xs generalizing a with
  | nil =>
      cases h with
      | cons _ t => exact t
  | cons _ xs ih =>
      cases h with
      | cons _ t => exact ih t

/-- A chain that ends passes nothing twice. -/
theorem Chain.nodup (h : Chain next a xs) : xs.Nodup := by
  induction h with
  | nil => exact List.nodup_nil
  | @cons a b xs _ t ih =>
      refine List.nodup_cons.mpr ⟨fun hmem => ?_, ih⟩
      obtain ⟨as, bs, rfl⟩ := List.append_of_mem hmem
      have hlen := congrArg List.length (t.unique t.drop)
      simp only [List.length_append, List.length_cons] at hlen
      omega

/-! ### The loop -/

/-- **A cursor that advances.** -/
theorem walk_advancing (hadvance : ∀ a p, advance a p = p) (h : Chain next a xs) {fuel : Nat}
    (hfuel : xs.length < fuel) : walk next advance fuel a = some xs := by
  induction h generalizing fuel with
  | nil hn =>
      obtain ⟨fuel, rfl⟩ := Nat.exists_eq_succ_of_ne_zero (Nat.ne_zero_of_lt hfuel)
      simp only [walk, hn]
  | cons hb _ ih =>
      obtain ⟨fuel, rfl⟩ := Nat.exists_eq_succ_of_ne_zero (Nat.ne_zero_of_lt hfuel)
      simp only [walk, hb, hadvance, ih (Nat.lt_of_succ_lt_succ hfuel), Option.map_some]

/-- **A cursor that stays.** -/
theorem walk_standing (hadvance : ∀ a p, advance a p = a) (hnext : next a ≠ none) (fuel : Nat) :
    walk next advance fuel a = none := by
  induction fuel with
  | zero => rfl
  | succ fuel ih =>
      obtain ⟨p, hp⟩ := Option.ne_none_iff_exists'.mp hnext
      simp only [walk, hp, hadvance, ih, Option.map_none]

end Cursor
