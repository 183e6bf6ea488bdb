import RemixBridge.Channel.NoOverwrite

/-!
# Channel — CachedPosition

When the client's own copy of the server's position is as good as the position
(`Bridge::syncDataQueue`, `util_bridgecommand.cpp`): the test with the copy is to ask for a look at
the live position wherever the test with the live position asks for a stall.

* `not_wouldOverwrite_of_lt`: the test asks for nothing while the item ends within a lap.
* `cached_conservative`: the copy is conservative while it says enough (`CopyReaches`).
* `cached_skips`: the copy of the start says nothing.
-/

namespace RemixBridge.SyncDataQueue
open Runs DataRing

/-- `wouldOverwrite(*serverDataPos)`. -/
def State.liveOverwrites (N : RingSize) (s : State) (it : Item) : Bool :=
  wouldOverwrite s.ring.s_curBatchStartPos (expectedPos N s.ring.m_pos it) s.ring.serverDataPos
    s.serverResetPosRequired

/-- At the test with the copy, a stall that the live position asks for is not passed over. -/
def State.Conservative (N : RingSize) (s : State) : Prop :=
  ∀ it stalled, s.client = .cachedTest it stalled →
    s.liveOverwrites N it = true → s.overwrites N it = true

/-- The copy says enough about the item: none was made and the item ends on the first lap, or the
command started at most a lap after it and, where it started on the next lap, the item stays on
that lap and `serverResetPosRequired` is set when the indices are equal. -/
def State.CopyReaches (N : RingSize) (s : State) (it : Item) : Prop :=
  match s.cachedAbs with
  | none   => predictedAbs N s.ring.cAbs it < N.size
  | some Q => s.ring.sAbs ≤ Q + N.size ∧
      (Q / N.size < s.ring.sAbs / N.size →
        predictedAbs N s.ring.cAbs it / N.size = s.ring.sAbs / N.size ∧
        (s.ring.sAbs % N.size = Q % N.size → s.serverResetPosRequired = true))

/-- The copy is the live position; or the item fits, its end is within a lap of the live position
or the copy reaches, and `serverResetPosRequired` is not left set when the server has come to the
command's start. -/
def State.CopyGood (N : RingSize) (s : State) (it : Item) : Prop :=
  s.s_cachedServerPos = s.ring.serverDataPos ∨
    (predictedAbs N s.ring.cAbs it < s.ring.sAbs + N.size ∧
      (predictedAbs N s.ring.cAbs it < s.ring.fAbs + N.size ∨ s.CopyReaches N it) ∧
      (s.ring.sAbs = s.ring.fAbs → s.serverResetPosRequired = true →
        s.ring.sAbs / N.size < predictedAbs N s.ring.cAbs it / N.size))

instance (N : RingSize) (s : State) (it : Item) : Decidable (s.CopyReaches N it) :=
  decidable_of_iff
    ((s.cachedAbs = none → predictedAbs N s.ring.cAbs it < N.size) ∧
      ∀ Q ∈ s.cachedAbs, s.ring.sAbs ≤ Q + N.size ∧
        (Q / N.size < s.ring.sAbs / N.size →
          predictedAbs N s.ring.cAbs it / N.size = s.ring.sAbs / N.size ∧
          (s.ring.sAbs % N.size = Q % N.size → s.serverResetPosRequired = true)))
    (by unfold State.CopyReaches; cases s.cachedAbs <;> simp)

instance (N : RingSize) (s : State) (it : Item) : Decidable (s.CopyGood N it) :=
  inferInstanceAs (Decidable (_ ∨ _))

/-! ### The test within a lap -/

/-- The test asks for nothing of an item that ends within a lap of the position, unless the
position is the command's start, the item stays on its lap and `serverResetPosRequired` is set. -/
theorem not_wouldOverwrite_of_lt (N : RingSize) {F S P : Nat} {resetRequired : Bool} (hFS : F ≤ S)
    (hSP : S ≤ P) (hPF : P < F + N.size)
    (hflag : S = F → resetRequired = true → S / N.size < P / N.size) :
    wouldOverwrite ((S % N.size : Nat) : Int) (P % N.size) ((F % N.size : Nat) : Int)
      resetRequired = false := by
  have hf : N.size * (F / N.size) + F % N.size = F := Nat.div_add_mod F N.size
  have hs : N.size * (S / N.size) + S % N.size = S := Nat.div_add_mod S N.size
  have hp : N.size * (P / N.size) + P % N.size = P := Nat.div_add_mod P N.size
  by_contra ht
  rw [Bool.not_eq_false, wouldOverwrite_iff (mod_lt_word N S) (mod_lt_word N F)] at ht
  obtain ⟨hle, hcases⟩ := ht
  -- The item ends on the position's lap, and the command starts on it.
  have hlapP : P / N.size = F / N.size := by
    rcases Nat.lt_or_ge (F / N.size) (P / N.size) with hlt | hge
    · have hnext : P / N.size = F / N.size + 1 := Ring.div_eq_succ N.pos hlt hPF.le
      rw [hnext, Nat.mul_succ] at hp
      omega
    · exact Nat.le_antisymm hge (Nat.div_le_div_right (hFS.trans hSP))
  have hlapS : S / N.size = F / N.size :=
    Nat.le_antisymm ((Nat.div_le_div_right hSP).trans hlapP.le) (Nat.div_le_div_right hFS)
  rw [hlapP] at hp
  rw [hlapS] at hs
  rcases hcases with hbelow | ⟨-, hroll⟩ | ⟨hat, hset⟩
  · omega
  · omega
  · have hlt := hflag (by omega) hset
    omega

/-! ### The copy -/

/-- A copy that reaches, and whose test passes, leaves the item within a lap of the live
position. -/
theorem lt_of_copyReaches {N : RingSize} {s : State} {it : Item} (h : Tracked N s)
    (ho : s.ring.s_curBatchStartPos ≠ -1)
    (hfit : predictedAbs N s.ring.cAbs it < s.ring.sAbs + N.size) (hc : s.CopyReaches N it)
    (ht : s.overwrites N it = false) :
    predictedAbs N s.ring.cAbs it < s.ring.fAbs + N.size := by
  unfold State.CopyReaches at hc
  obtain ⟨-, hnone⟩ | ⟨Q, hsome, hpos, hQ⟩ := h.cached
  · rw [hnone] at hc
    exact hc.trans_le (Nat.le_add_left _ _)
  · rw [hsome] at hc
    obtain ⟨hlapQ, hlap⟩ := hc
    rw [State.overwrites, hpos] at ht
    exact (predictedAbs_lt h.ring ho hQ hfit hlapQ hlap ht).trans_le
      (Nat.add_le_add_right hQ _)

theorem not_liveOverwrites {N : RingSize} {s : State} {it : Item} (h : Tracked N s)
    (ho : s.ring.s_curBatchStartPos ≠ -1)
    (hlt : predictedAbs N s.ring.cAbs it < s.ring.fAbs + N.size)
    (hflag : s.ring.sAbs = s.ring.fAbs → s.serverResetPosRequired = true →
      s.ring.sAbs / N.size < predictedAbs N s.ring.cAbs it / N.size) :
    s.liveOverwrites N it = false := by
  have hFS : s.ring.fAbs ≤ s.ring.sAbs := h.ring.fAbs_le ho
  have hSC : s.ring.sAbs ≤ s.ring.cAbs := h.ring.sAbs_le ho
  have hfitC : predictedAbs N s.ring.cAbs it < s.ring.cAbs + N.size :=
    hlt.trans_le (Nat.add_le_add_right (hFS.trans hSC) _)
  rw [State.liveOverwrites, h.ring.start.resolve_left ho, h.ring.m_pos, expectedPos_eq N _ it hfitC]
  rcases h.ring.server with hnone | hpos
  · rw [hnone]
    have hword : ¬ toSizeT (-1) ≤ predictedAbs N s.ring.cAbs it % N.size := by
      have := Nat.mod_lt (predictedAbs N s.ring.cAbs it) N.pos
      have := N.lt_word
      show ¬ 4294967295 ≤ _
      omega
    simp [wouldOverwrite, hword]
  · rw [hpos]
    exact not_wouldOverwrite_of_lt N hFS (hSC.trans (le_predictedAbs N _ it)) hlt hflag

/-- **The copy is conservative.**  In a run that sends no object as long as the ring, at every
state reached whose copy is good for the item, the test with the copy asks for a look at the live
position wherever the test with the live position asks for a stall. -/
theorem cached_conservative (N : RingSize) {acts : List Act} {s : State}
    (hfit : ∀ a ∈ acts, SendsFit N a) (hr : run (step N) start acts = some s)
    (hgood : ∀ it stalled, s.client = .cachedTest it stalled → s.CopyGood N it) :
    s.Conservative N := by
  have h : Tracked N s :=
    run_inv_along (C := fun _ a => SendsFit N a) (fun _ _ _ => tracked_step) (tracked_start N)
      (along_of_forall start hfit) hr
  intro it stalled hc hlive
  have ho : s.ring.s_curBatchStartPos ≠ -1 := h.isOpen hc nofun
  rcases hgood it stalled hc with heq | ⟨hfitS, hcopy, hflag⟩
  · rw [State.overwrites, heq]
    exact hlive
  · by_contra ht
    have hlt : predictedAbs N s.ring.cAbs it < s.ring.fAbs + N.size := by
      rcases hcopy with hlt | hreach
      · exact hlt
      · exact lt_of_copyReaches h ho hfitS hreach (Bool.eq_false_iff.mpr ht)
    rw [not_liveOverwrites h ho hlt hflag] at hlive
    cases hlive

/-- The client has come round with the copy of a position that the server has left since; the live
position asks for a stall. -/
theorem cached_conservative_round : ∃ s, run (step ring64) start comesRound = some s ∧
    s.client = .cachedTest (.many 41) false ∧ s.s_cachedServerPos = 20 ∧
    s.ring.serverDataPos = 40 ∧ s.liveOverwrites ring64 (.many 41) = true ∧
    s.Conservative ring64 := by
  have hrun : (run (step ring64) start comesRound).map (fun s => (s.client, s.s_cachedServerPos,
        s.ring.serverDataPos, s.liveOverwrites ring64 (.many 41),
        decide (s.CopyGood ring64 (.many 41)))) =
      some (.cachedTest (.many 41) false, 20, 40, true, true) := by decide +kernel
  obtain ⟨s, h, hs⟩ := Option.map_eq_some_iff.mp hrun
  simp only [Prod.mk.injEq, decide_eq_true_eq] at hs
  obtain ⟨hclient, hcopy, hpos, hlive, hgood⟩ := hs
  refine ⟨s, h, hclient, hcopy, hpos, hlive, cached_conservative ring64 (by decide +kernel) h ?_⟩
  intro it stalled hc
  rw [hclient] at hc
  cases hc
  exact hgood

/-- **The first copy says nothing.**  No refresh was made yet; the third command comes round to the
second, which the server has not read: the live position asks for a stall, the copy for nothing. -/
theorem cached_skips : ¬ ∀ (N : RingSize) (acts : List Act) (s : State),
    run (step N) start acts = some s → s.Conservative N := by
  intro hclaim
  have h : run (step small) start
      ([Act.begin] ++ push .scalar ++ [Act.done, Act.server, Act.server, Act.server] ++
        [Act.begin] ++ push (.many 2) ++ [Act.done] ++
        [Act.begin] ++ push .scalar ++ push .scalar ++ [Act.send .scalar, Act.client, Act.client]) =
    some _ := rfl
  have hcopy := hclaim small _ _ h .scalar false rfl (by decide)
  exact absurd hcopy (by decide)

end RemixBridge.SyncDataQueue
