import RemixBridge.Channel.SyncDataQueue

/-!
# Channel — WrapPrediction

`syncDataQueue` decides with a size of its own whether the push to come passes the end of the ring,
and where it ends.  Both are compared here with what the ring does (`DataRing`): a write passes the
end when one of its words does, and `m_pos` goes back to 0 when the position after it does.

* `last_le_expectedPos`: the predicted end is never below the last word written.
* `wrap_prediction`: the end-of-ring branch is taken when the ring rolls over, exactly when the push
  does not end on the last word.
-/

namespace RemixBridge.SyncDataQueue
open DataRing

/-- The push takes `m_pos` back to the start of the ring. -/
def RollsOver (N : RingSize) (m_pos : Nat) (it : Item) : Prop := N.size ≤ it.pushAbs N.size m_pos

/-- The push writes a word behind the end, that is at the start of the ring. -/
def WritesBehindEnd (N : RingSize) (m_pos : Nat) (it : Item) : Prop :=
  ∃ a ∈ it.absWords N.size m_pos, N.size ≤ a

/-- The predicted end is not below the last word the push writes. -/
def EndCovered (N : RingSize) (m_pos : Nat) (it : Item) : Prop :=
  ∀ w ∈ (it.words N.size m_pos).getLast?, w ≤ expectedPos N m_pos it

variable {N : RingSize} {m_pos : Nat}

theorem passesEnd_iff {it : Item} :
    passesEnd N m_pos it = true ↔ N.size ≤ m_pos + memAhead it := by
  unfold passesEnd
  exact decide_eq_true_iff

/-! ### The position -/

theorem pushAbs_null : Item.null.pushAbs N.size m_pos = m_pos + 1 := by
  have hstart : objStart N.size (m_pos + 1) 0 = m_pos + 1 :=
    if_neg (Nat.not_le_of_lt (Nat.mod_lt (m_pos + 1) N.pos))
  exact hstart

/-- An object starts behind its size word, or on the next lap if it does not end before the last
word. -/
theorem objStart_lt_iff (hp : m_pos < N.size) (size : Nat) :
    objStart N.size (m_pos + 1) size + chunkSize size < N.size ↔
      m_pos + 1 + chunkSize size < N.size := by
  unfold objStart
  rcases Nat.lt_or_ge (m_pos + 1) N.size with hin | hlast
  · rw [Nat.mod_eq_of_lt hin, Nat.div_eq_of_lt hin]
    split <;> omega
  · have hm : m_pos + 1 = N.size := by omega
    rw [hm, Nat.mod_self, Nat.div_self N.pos]
    split <;> omega

/-- The position goes back to 0 unless the push ends before the last word. -/
theorem rollsOver_iff (hp : m_pos < N.size) (it : Item) :
    RollsOver N m_pos it ↔ N.size ≤ m_pos + memUsed it := by
  unfold RollsOver
  cases it with
  | scalar => exact Iff.rfl
  | null =>
      rw [pushAbs_null]
      exact Iff.rfl
  | many count =>
      rw [Item.pushAbs, Item.pulls, pullsAbs_replicate_word]
      exact Iff.rfl
  | blob size =>
      have h := objStart_lt_iff hp size
      have hpush : (Item.blob size).pushAbs N.size m_pos =
        objStart N.size (m_pos + 1) size + chunkSize size := rfl
      rw [hpush, memUsed]
      omega

/-- The branch is taken as `m_pos` goes back, unless the push ends on the last word. -/
theorem passesEnd_iff_rollsOver (hp : m_pos < N.size) (it : Item) :
    (passesEnd N m_pos it = true ↔ RollsOver N m_pos it) ↔ m_pos + memUsed it ≠ N.size := by
  rw [passesEnd_iff, rollsOver_iff hp, memAhead]
  split <;> omega

/-! ### The words -/

/-- A word is written behind the end when the push reaches past the last word, or is an object that
would end on it. -/
theorem writesBehindEnd_iff (hp : m_pos < N.size) (it : Item) :
    WritesBehindEnd N m_pos it ↔ N.size < m_pos + memUsed it ∨ FillsEnd N m_pos it := by
  unfold WritesBehindEnd
  cases it with
  | scalar =>
      simp only [Item.absWords, List.mem_singleton, exists_eq_left, FillsEnd, memUsed, or_false]
      omega
  | null =>
      simp only [Item.absWords, List.mem_singleton, exists_eq_left, FillsEnd, memUsed, or_false]
      omega
  | many count =>
      simp only [Item.absWords, List.mem_map, List.mem_range, exists_exists_and_eq_and, FillsEnd,
        memUsed, or_false]
      constructor
      · rintro ⟨i, hi, hle⟩
        omega
      · intro hlt
        exact ⟨count - 1, by omega, by omega⟩
  | blob size =>
      have h := objStart_lt_iff hp size
      have hstart : m_pos + 1 ≤ objStart N.size (m_pos + 1) size := le_objStart N.pos _ _
      simp only [Item.absWords, List.mem_cons, List.mem_map, List.mem_range, exists_eq_or_imp,
        exists_exists_and_eq_and, FillsEnd, memUsed]
      constructor
      · rintro (hle | ⟨i, hi, hle⟩)
        · omega
        · omega
      · intro hlt
        -- an object that rolls over starts behind the end
        have hroll : N.size ≤ objStart N.size (m_pos + 1) size := by
          unfold objStart
          rcases Nat.lt_or_ge (m_pos + 1) N.size with hin | hlast
          · rw [Nat.mod_eq_of_lt hin, Nat.div_eq_of_lt hin, if_pos (by omega)]
            omega
          · have hm : m_pos + 1 = N.size := by omega
            rw [hm, Nat.mod_self, Nat.div_self N.pos]
            split <;> omega
        exact Or.inr ⟨0, by omega, hroll⟩

theorem passesEnd_iff_writesBehindEnd (hp : m_pos < N.size) (it : Item) :
    (passesEnd N m_pos it = true ↔ WritesBehindEnd N m_pos it) ↔ ¬ FillsEnd N m_pos it := by
  rw [passesEnd_iff, writesBehindEnd_iff hp]
  have hahead : N.size ≤ m_pos + memAhead it ↔ N.size < m_pos + memUsed it := by
    unfold memAhead
    split <;> omega
  have hfills : FillsEnd N m_pos it → ¬ N.size < m_pos + memUsed it := by
    intro h
    cases it with
    | blob size =>
        obtain ⟨-, h⟩ := h
        rw [memUsed]
        omega
    | scalar => cases h
    | many count => cases h
    | null => cases h
  tauto

/-! ### The last word -/

theorem getLast?_map_range (f : Nat → Nat) (count w : Nat) :
    w ∈ ((List.range count).map f).getLast? ↔ count ≠ 0 ∧ f (count - 1) = w := by
  rw [List.getLast?_map, List.getLast?_range]
  split
  · simp_all
  · simp_all

/-- The predicted end, where the push passes the end and where it does not. -/
theorem expectedPos_of_passesEnd {it : Item} (h : N.size ≤ m_pos + memAhead it) :
    expectedPos N m_pos it =
      if posReset it then memUsed it - 1 else m_pos + memAhead it - N.size :=
  if_pos (passesEnd_iff.mpr h)

theorem expectedPos_of_not_passesEnd {it : Item} (h : ¬ N.size ≤ m_pos + memAhead it) :
    expectedPos N m_pos it = m_pos + memAhead it :=
  if_neg fun hp => h (passesEnd_iff.mp hp)

/-- **The predicted end.**  It is never below the last word the push writes. -/
theorem last_le_expectedPos (hp : m_pos < N.size) (it : Item) : EndCovered N m_pos it := by
  intro w hw
  cases it with
  | scalar =>
      cases hw
      rw [expectedPos_of_not_passesEnd (Nat.not_le_of_lt hp)]
      exact Nat.le_add_right m_pos _
  | null =>
      cases hw
      rw [expectedPos_of_not_passesEnd (Nat.not_le_of_lt hp)]
      exact Nat.le_add_right m_pos _
  | many count =>
      have hwords := (Item.many count).words_mod N.pos m_pos nofun
      rw [Nat.mod_eq_of_lt hp] at hwords
      rw [hwords, Item.absWords, List.map_map, getLast?_map_range] at hw
      obtain ⟨hcount, rfl⟩ := hw
      have hahead : memAhead (.many count) = count - 1 := by
        show (if count ≠ 0 then count else 1) - 1 = count - 1
        rw [if_pos hcount]
      have hlast : (m_pos + (count - 1)) % N.size ≤ m_pos + (count - 1) := Nat.mod_le _ _
      by_cases hpass : N.size ≤ m_pos + (count - 1)
      · rw [expectedPos_of_passesEnd (by rwa [hahead]), hahead]
        calc (m_pos + (count - 1)) % N.size
            = (m_pos + (count - 1) - N.size) % N.size := Nat.mod_eq_sub_mod hpass
          _ ≤ m_pos + (count - 1) - N.size := Nat.mod_le _ _
      · rw [expectedPos_of_not_passesEnd (by rwa [hahead]), hahead]
        exact hlast
  | blob size =>
      have hahead : memAhead (.blob size) = chunkSize size := rfl
      have hexpected : expectedPos N m_pos (.blob size) =
          if N.size ≤ m_pos + chunkSize size then chunkSize size else m_pos + chunkSize size := by
        split
        · exact expectedPos_of_passesEnd ‹_›
        · exact expectedPos_of_not_passesEnd ‹_›
      rw [Item.words, List.getLast?_cons] at hw
      cases hw
      rw [hexpected]
      rcases Nat.eq_zero_or_pos (chunkSize size) with h0 | hpos
      · rw [h0, Nat.add_zero, if_neg (Nat.not_le_of_lt hp)]
        exact Nat.le_refl m_pos
      · -- the object ends at its own length after rolling over, and where predicted otherwise
        rw [List.getLast?_map, List.getLast?_range, if_neg hpos.ne']
        show ensureSpace N.size (pop N.size m_pos) size + (chunkSize size - 1) ≤ _
        unfold ensureSpace pop Ring.next
        split <;> split <;> split <;> omega

/-! ### The two together -/

/-- **Wrap prediction.**  The end of the push is always covered.  The end-of-ring branch is taken
exactly when `m_pos` rolls over, unless the push ends on the last word; and exactly when words are
written at the start of the ring, unless the push is an object that would end on the last word. -/
theorem wrap_prediction (N : RingSize) (m_pos : Nat) (it : Item) (hp : m_pos < N.size) :
    (((passesEnd N m_pos it = true ↔ RollsOver N m_pos it) ∧ EndCovered N m_pos it) ↔
      m_pos + memUsed it ≠ N.size) ∧
    (((passesEnd N m_pos it = true ↔ WritesBehindEnd N m_pos it) ∧ EndCovered N m_pos it) ↔
      ¬ FillsEnd N m_pos it) := by
  rw [and_iff_left (last_le_expectedPos hp it), and_iff_left (last_le_expectedPos hp it)]
  exact ⟨passesEnd_iff_rollsOver hp it, passesEnd_iff_writesBehindEnd hp it⟩

def eightWords : RingSize := ⟨8, by decide, by decide⟩

theorem wrap_prediction_middle :
    (((passesEnd eightWords 5 (.blob 12) = true ↔ RollsOver eightWords 5 (.blob 12)) ∧
      EndCovered eightWords 5 (.blob 12)) ↔ 5 + memUsed (.blob 12) ≠ 8) ∧
    (((passesEnd eightWords 5 (.blob 12) = true ↔ WritesBehindEnd eightWords 5 (.blob 12)) ∧
      EndCovered eightWords 5 (.blob 12)) ↔ ¬ FillsEnd eightWords 5 (.blob 12)) :=
  wrap_prediction eightWords 5 (.blob 12) (by decide)

/-- An object of twelve bytes behind word 4 of eight would end on the last word: the ring lays it at
the start, and no wrap is predicted. -/
theorem object_rolls_over_unpredicted :
    (Item.blob 12).words eightWords.size 4 = [4, 0, 1, 2] ∧
      ¬ (passesEnd eightWords 4 (.blob 12) = true ↔ RollsOver eightWords 4 (.blob 12)) ∧
      ¬ (passesEnd eightWords 4 (.blob 12) = true ↔ WritesBehindEnd eightWords 4 (.blob 12)) := by
  have hpass : ¬ passesEnd eightWords 4 (.blob 12) = true := by decide
  refine ⟨rfl, fun h => hpass (h.mpr ?_), fun h => hpass (h.mpr ?_)⟩
  · show 8 ≤ (Item.blob 12).pushAbs 8 4
    decide
  · exact ⟨8, by decide, Nat.le_refl 8⟩

end RemixBridge.SyncDataQueue
