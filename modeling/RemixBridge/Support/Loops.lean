import Mathlib.Data.List.FinRange
import Mathlib.Logic.Function.Basic
import Mathlib.Tactic.Common

/-!
# Support — Loops

Loops over the entries of a dependent family.  One that copies, `dst[k] = src[k]`, leaves an entry
of the source wherever it went, whatever the order; one that writes values leaves in each entry the
last value written to it.

* `foldl_copy`: a copying loop over a list.
* `write_last`, `write_unwritten`: what a list of writes leaves in an entry.
* `write_comm`: lists of writes that share no entry can change places.
* `foldl_view`: what a loop that writes through views leaves in each of them.
* `mapM_exists`, `mapM_eq_map`: a loop no turn of which fails.
-/

namespace Loops

variable {ι κ : Type*} {β : κ → Type*} [DecidableEq κ]

/-- `dst[k] = src[k]`. -/
def copy (src : (k : κ) → β k) (k : κ) (dst : (k : κ) → β k) : (k : κ) → β k :=
  Function.update dst k (src k)

@[simp] theorem copy_self (src dst : (k : κ) → β k) (k : κ) : copy src k dst k = src k := by
  simp [copy]

theorem copy_of_ne (src dst : (k : κ) → β k) {k k' : κ} (h : k' ≠ k) :
    copy src k dst k' = dst k' := Function.update_of_ne h _ _

/-- **A copying loop.**  An entry the loop goes over is the source's at the end. -/
theorem foldl_copy (slot : ι → κ) (src : (k : κ) → β k) (l : List ι) (dst : (k : κ) → β k)
    (k : κ) :
    l.foldl (fun d i => copy src (slot i) d) dst k =
      if k ∈ l.map slot then src k else dst k := by
  induction l generalizing dst with
  | nil => simp
  | cons i l ih =>
      rw [List.foldl_cons, ih]
      by_cases hl : k ∈ l.map slot
      · simp [hl]
      · by_cases hi : k = slot i
        · subst hi
          simp
        · simp [hl, hi, copy_of_ne src dst hi]

/-! ### Writes -/

/-- What is in the entries after the values of a list are written to theirs. -/
def write (m : (k : κ) → β k) (ws : List ((k : κ) × β k)) : (k : κ) → β k :=
  ws.foldl (fun m w => Function.update m w.1 w.2) m

@[simp] theorem write_nil (m : (k : κ) → β k) : write m [] = m := rfl

theorem write_cons (m : (k : κ) → β k) (w : (k : κ) × β k) (ws : List ((k : κ) × β k)) :
    write m (w :: ws) = write (Function.update m w.1 w.2) ws := rfl

theorem write_append (m : (k : κ) → β k) (ws ws' : List ((k : κ) × β k)) :
    write m (ws ++ ws') = write (write m ws) ws' := List.foldl_append ..

/-- No entry is written in both lists. -/
def Apart (ws ws' : List ((k : κ) × β k)) : Prop := ∀ w ∈ ws, ∀ w' ∈ ws', w.1 ≠ w'.1

instance (ws ws' : List ((k : κ) × β k)) : Decidable (Apart ws ws') := by
  unfold Apart
  infer_instance

theorem write_unwritten (m : (k : κ) → β k) {ws : List ((k : κ) × β k)} {k : κ}
    (h : ∀ w ∈ ws, w.1 ≠ k) : write m ws k = m k := by
  induction ws generalizing m with
  | nil => rfl
  | cons w ws ih =>
      have hw : k ≠ w.1 := (h w List.mem_cons_self).symm
      rw [write_cons, ih _ fun w' hw' => h w' (List.mem_cons_of_mem w hw'),
        Function.update_of_ne hw]

/-- **The last write.**  It is what the entry holds at the end. -/
theorem write_last (m : (k : κ) → β k) (ws : List ((k : κ) × β k)) (k : κ) (v : β k)
    {ws' : List ((k : κ) × β k)} (h : ∀ w ∈ ws', w.1 ≠ k) :
    write m (ws ++ ⟨k, v⟩ :: ws') k = v := by
  rw [write_append, write_cons, write_unwritten _ h, Function.update_self]

/-- What is written to an entry does not depend on what was there. -/
theorem write_written (m m' : (k : κ) → β k) {ws : List ((k : κ) × β k)} {k : κ}
    (h : k ∈ ws.map (·.1)) : write m ws k = write m' ws k := by
  induction ws generalizing m m' with
  | nil => cases h
  | cons w ws ih =>
      rw [write_cons, write_cons]
      by_cases hk : k ∈ ws.map (·.1)
      · exact ih _ _ hk
      · have hw : k = w.1 := (List.mem_cons.mp h).resolve_right hk
        have hne : ∀ w' ∈ ws, w'.1 ≠ k := fun w' hw' he => hk (List.mem_map.mpr ⟨w', hw', he⟩)
        rw [write_unwritten _ hne, write_unwritten _ hne, hw, Function.update_self,
          Function.update_self]

/-- Values that are there already. -/
theorem write_present (m : (k : κ) → β k) {ws : List ((k : κ) × β k)}
    (h : ∀ w ∈ ws, m w.1 = w.2) : write m ws = m := by
  induction ws with
  | nil => rfl
  | cons w ws ih =>
      rw [write_cons, ← h w List.mem_cons_self, Function.update_eq_self]
      exact ih fun w' hw' => h w' (List.mem_cons_of_mem w hw')

/-- An entry does not see the writes to entries of another kind. -/
theorem write_filter {p : κ → Bool} {m m' : (k : κ) → β k} (ws : List ((k : κ) × β k)) {k : κ}
    (hk : p k = true) (h : m k = m' k) :
    write m (ws.filter fun w => p w.1) k = write m' ws k := by
  induction ws generalizing m m' with
  | nil => exact h
  | cons w ws ih =>
      rw [write_cons]
      by_cases hw : p w.1 = true
      · rw [List.filter_cons, if_pos hw, write_cons]
        refine ih ?_
        by_cases he : k = w.1
        · subst he
          rw [Function.update_self, Function.update_self]
        · rw [Function.update_of_ne he, Function.update_of_ne he, h]
      · rw [List.filter_cons, if_neg hw]
        refine ih ?_
        have he : k ≠ w.1 := by
          rintro rfl
          exact hw hk
        rw [Function.update_of_ne he, h]

theorem write_update (m : (k : κ) → β k) {ws : List ((k : κ) × β k)} {k : κ} (v : β k)
    (h : ∀ w ∈ ws, w.1 ≠ k) :
    write (Function.update m k v) ws = Function.update (write m ws) k v := by
  induction ws generalizing m with
  | nil => rfl
  | cons w ws ih =>
      have hw : k ≠ w.1 := (h w List.mem_cons_self).symm
      rw [write_cons, Function.update_comm hw, write_cons,
        ih _ fun w' hw' => h w' (List.mem_cons_of_mem w hw')]

/-- **Lists of writes that are apart commute.** -/
theorem write_comm (m : (k : κ) → β k) {ws ws' : List ((k : κ) × β k)} (h : Apart ws ws') :
    write (write m ws) ws' = write (write m ws') ws := by
  induction ws generalizing m with
  | nil => rfl
  | cons w ws ih =>
      have hw : ∀ w' ∈ ws', w'.1 ≠ w.1 := fun w' hw' => (h w List.mem_cons_self w' hw').symm
      rw [write_cons, ih _ fun w' hw' => h w' (List.mem_cons_of_mem w hw'), write_cons,
        write_update m w.2 hw]

/-! ### Views -/

section Views

variable {σ α : Type*} {get : ι → σ → α} {set : ι → Nat → σ → σ} {val : Nat → α}

theorem foldl_view_ne (hother : ∀ r r' i s, r' ≠ r → get r' (set r i s) = get r' s)
    {rs : List (ι × Nat)} {r : ι} (hr : ∀ p ∈ rs, r ≠ p.1) (s : σ) :
    get r (rs.foldl (fun s p => set p.1 p.2 s) s) = get r s := by
  induction rs generalizing s with
  | nil => rfl
  | cons p rs ih =>
      rw [List.foldl_cons, ih fun p' hp' => hr p' (List.mem_cons_of_mem p hp'),
        hother _ _ _ _ (hr p List.mem_cons_self)]

/-- **A loop over views.**  If it passes each once, it leaves its value in each. -/
theorem foldl_view (hself : ∀ r i s, get r (set r i s) = val i)
    (hother : ∀ r r' i s, r' ≠ r → get r' (set r i s) = get r' s) {rs : List (ι × Nat)}
    (hrs : (rs.map (·.1)).Nodup) (s : σ) :
    (rs.map fun p => get p.1 (rs.foldl (fun s p => set p.1 p.2 s) s)) =
      rs.map fun p => val p.2 := by
  induction rs generalizing s with
  | nil => rfl
  | cons p rs ih =>
      obtain ⟨hp, hrs⟩ := List.nodup_cons.mp hrs
      have hne : ∀ p' ∈ rs, p.1 ≠ p'.1 := fun p' hp' he =>
        hp (List.mem_map.mpr ⟨p', hp', he.symm⟩)
      rw [List.map_cons, List.map_cons, List.foldl_cons, foldl_view_ne hother hne, hself]
      exact congrArg _ (ih hrs _)

end Views

/-! ### Loops that may fail -/

section Fallible

variable {α δ : Type*} {f : α → Option δ} {l : List α}

theorem mapM_exists {R : α → δ → Prop} (h : ∀ a ∈ l, ∃ b, f a = some b ∧ R a b) :
    ∃ bs, l.mapM f = some bs ∧ List.Forall₂ R l bs := by
  induction l with
  | nil => exact ⟨[], rfl, .nil⟩
  | cons a l ih =>
      obtain ⟨b, hb, hR⟩ := h a List.mem_cons_self
      obtain ⟨bs, hbs, hRs⟩ := ih fun a' ha' => h a' (List.mem_cons_of_mem a ha')
      refine ⟨b :: bs, ?_, .cons hR hRs⟩
      rw [List.mapM_cons, hb, hbs]
      rfl

theorem mapM_eq_map {g : α → δ} (h : ∀ a ∈ l, f a = some (g a)) : l.mapM f = some (l.map g) := by
  induction l with
  | nil => rfl
  | cons a l ih =>
      rw [List.mapM_cons, h a List.mem_cons_self,
        ih fun a' ha' => h a' (List.mem_cons_of_mem a ha')]
      rfl

end Fallible

end Loops
