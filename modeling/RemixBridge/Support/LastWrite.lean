import Mathlib.Data.List.Induction

/-!
# Support — LastWrite

What a cell holds after a sequence of writes, some of which do not touch it: the last write that
does (`after_mem`, `after_eq_iff`), or what it held before (`after_cases`).
-/

namespace LastWrite

variable {α : Type*}

/-- The cell after the writes, where `none` leaves it. -/
def after (v : α) (ws : List (Option α)) : α := ws.foldl (fun v w => w.getD v) v

@[simp] theorem after_nil (v : α) : after v [] = v := rfl

@[simp] theorem after_cons (v : α) (w : Option α) (ws : List (Option α)) :
    after v (w :: ws) = after (w.getD v) ws := rfl

theorem after_append (v : α) (ws ws' : List (Option α)) :
    after v (ws ++ ws') = after (after v ws) ws' := List.foldl_append

/-- **What was there.**  The writes either leave every value, or they hide what it was. -/
theorem after_cases (ws : List (Option α)) :
    (∀ v, after v ws = v) ∨ ∀ v v', after v ws = after v' ws := by
  induction ws with
  | nil => exact .inl fun _ => rfl
  | cons w ws ih =>
      cases w with
      | none => exact ih
      | some u => exact .inr fun _ _ => rfl

theorem after_untouched {ws : List (Option α)} (h : ∀ u, some u ∉ ws) (v : α) :
    after v ws = v := by
  induction ws with
  | nil => rfl
  | cons w ws ih =>
      cases w with
      | none => exact ih fun u hu => h u (List.mem_cons_of_mem none hu)
      | some u => exact absurd List.mem_cons_self (h u)

/-- **The last write.**  A cell that is touched holds one of the values written. -/
theorem after_mem {P : α → Prop} {ws : List (Option α)} (hP : ∀ u, some u ∈ ws → P u)
    (htouched : ∃ u, some u ∈ ws) (v : α) : P (after v ws) := by
  induction ws using List.reverseRecOn with
  | nil =>
      obtain ⟨u, hu⟩ := htouched
      exact absurd hu List.not_mem_nil
  | append_singleton ws w ih =>
      rw [after_append]
      cases w with
      | none =>
          refine ih (fun u hu => hP u (List.mem_append_left _ hu)) ?_
          obtain ⟨u, hu⟩ := htouched
          refine ⟨u, (List.mem_append.mp hu).resolve_right fun hu => ?_⟩
          cases List.mem_singleton.mp hu
      | some u => exact hP u (List.mem_append_right _ List.mem_cons_self)

/-- **Which write.**  A value is that of the last write that touches the cell, or what was there and
no write touches it. -/
theorem after_eq_iff {v u : α} {ws : List (Option α)} :
    after v ws = u ↔ (∃ l r, ws = l ++ some u :: r ∧ ∀ x, some x ∉ r) ∨
      (∀ x, some x ∉ ws) ∧ v = u := by
  constructor
  · intro h
    induction ws using List.reverseRecOn with
    | nil => exact .inr ⟨fun _ => List.not_mem_nil, h⟩
    | append_singleton ws w ih =>
        rw [after_append] at h
        cases w with
        | none =>
            have hlast : ∀ r : List (Option α), (∀ x, some x ∉ r) →
                ∀ x, some x ∉ r ++ [none] := by
              intro r hr x hx
              rcases List.mem_append.mp hx with hx | hx
              · exact hr x hx
              · cases List.mem_singleton.mp hx
            rcases ih h with ⟨l, r, rfl, hr⟩ | ⟨hws, hv⟩
            · refine .inl ⟨l, r ++ [none], ?_, hlast r hr⟩
              rw [List.append_assoc, List.cons_append]
            · exact .inr ⟨hlast ws hws, hv⟩
        | some x =>
            cases h
            exact .inl ⟨ws, [], rfl, fun _ => List.not_mem_nil⟩
  · rintro (⟨l, r, rfl, hr⟩ | ⟨hws, rfl⟩)
    · rw [after_append, after_cons]
      exact after_untouched hr u
    · exact after_untouched hws v

end LastWrite
