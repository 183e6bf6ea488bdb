import RemixBridge.Device.Covers
import RemixBridge.Device.Recording

/-!
# Device — HeldBlocks

A state block that the application holds, over a run of calls: it stays until it is released, and
what a transfer from it brings stays until it is captured again.

* `held_step`: what one call does to it.
* `stores_run`: what calls other than its `Capture` and its `Release` leave of it.
* `stores_apply`: its `Apply`, cell by cell.
-/

namespace RemixBridge.Device
open Loops Runs

variable {elim : Bool} {mul : D3DMATRIX → D3DMATRIX → D3DMATRIX}

/-- **A held block.**  A call that does not release it keeps it, as it was but for its own `Capture`
and `Apply`. -/
theorem held_step {sb : Nat} {s s' : App} {a : Act} (hI : Inv s) (hheld : sb ∈ s.held)
    (ha : a ≠ .ReleaseStateBlock sb) (h : step elim mul s a = some s') :
    sb ∈ s'.held ∧ (s'.device.blocks sb = s.device.blocks sb ∨
      (a = .Capture sb ∧ s'.device = s.device.localCapture sb) ∨
      (a = .Apply sb ∧ s'.device = s.device.apply sb)) := by
  have hne : s.device.mStateRecording ≠ some sb := fun hr => (hI.recorded sb hr).1 hheld
  cases a with
  | set c =>
      obtain ⟨x, hx, rfl⟩ := Option.map_eq_some_iff.mp h
      exact ⟨hheld, .inl ((sameBlocks_call hx).other sb hne)⟩
  | BeginStateBlock sb' m_captureState =>
      simp only [step] at h
      split at h
      · cases h
        exact ⟨hheld, .inl rfl⟩
      · split at h
        · rename_i hf
          cases h
          have he : sb ≠ sb' := fun he => hf.1 (he ▸ hheld)
          exact ⟨hheld, .inl (by simp [LssDevice.putBlock, he])⟩
        · cases h
  | EndStateBlock ppSB =>
      simp only [step] at h
      split at h
      · cases h
        exact ⟨hheld, .inl rfl⟩
      · rename_i sb' hr
        split at h
        · cases h
          have he : sb ≠ sb' := fun he => hne (he ▸ hr)
          exact ⟨List.mem_cons_of_mem _ hheld, .inl (by simp [LssDevice.putBlock, he])⟩
        · cases h
          exact ⟨hheld, .inl rfl⟩
  | CreateStateBlock type ppSB sb' m_captureState =>
      simp only [step] at h
      split at h
      · split at h
        · rename_i hf
          cases h
          have he : sb ≠ sb' := fun he => hf.1 (he ▸ hheld)
          refine ⟨List.mem_cons_of_mem _ hheld, .inl ?_⟩
          rw [localCapture_other _ he, created_other _ _ _ he]
        · cases h
      · cases h
        exact ⟨hheld, .inl rfl⟩
  | Capture sb' =>
      simp only [step] at h
      split at h
      · split at h
        · cases h
          exact ⟨hheld, .inl rfl⟩
        · cases h
          by_cases he : sb = sb'
          · subst he
            exact ⟨hheld, .inr (.inl ⟨rfl, rfl⟩)⟩
          · exact ⟨hheld, .inl (localCapture_other _ he)⟩
      · cases h
  | Apply sb' =>
      simp only [step] at h
      split at h
      · cases h
        by_cases he : sb = sb'
        · subst he
          exact ⟨hheld, .inr (.inr ⟨rfl, rfl⟩)⟩
        · exact ⟨hheld, .inl (apply_other _ he)⟩
      · cases h
  | ReleaseStateBlock sb' =>
      have he : sb ≠ sb' := fun he => ha (he ▸ rfl)
      simp only [step] at h
      split at h
      · cases h
        exact ⟨List.mem_filter.mpr ⟨hheld, decide_eq_true he⟩, .inl rfl⟩
      · cases h
  | Reset m_state =>
      cases h
      exact ⟨hheld, .inl rfl⟩

/-! ### What is kept of it -/

/-- The application holds the block at `sb`, whose flags are `flags`. -/
structure Flagged (sb : Nat) (flags : StateCaptureDirtyFlags) (s : App) : Prop where
  inv : Inv s
  held : sb ∈ s.held
  flags : (s.device.blocks sb).mDirtyFlags = flags

/-- And the cells it captured are `cells`. -/
structure Stores (sb : Nat) (flags : StateCaptureDirtyFlags) (cells : (c : Cell) → c.Val)
    (s : App) : Prop extends Flagged sb flags s where
  captured : (s.device.blocks sb).mCaptureState.cells = cells

theorem localCapture_flags (d : LssDevice) (sb : Nat) :
    ((d.localCapture sb).blocks sb).mDirtyFlags = (d.blocks sb).mDirtyFlags := by
  simp [LssDevice.localCapture, LssDevice.putBlock]

theorem apply_flags (d : LssDevice) (sb : Nat) :
    ((d.apply sb).blocks sb).mDirtyFlags = (d.blocks sb).mDirtyFlags := by
  simp [LssDevice.apply, LssDevice.putBlock]

theorem cells_foldl_kept {α : Type} {f : State → α → State} (hf : ∀ s a, (f s a).cells = s.cells)
    (l : List α) (s : State) : (l.foldl f s).cells = s.cells := by
  induction l generalizing s with
  | nil => rfl
  | cons a l ih => rw [List.foldl_cons, ih, hf]

/-- What a transfer inserts into its source reads as before. -/
theorem cells_insertLights (flags : StateCaptureDirtyFlags) (s : State) :
    (insertLights flags s).cells = s.cells := by
  unfold insertLights
  refine (cells_foldl_kept (fun s (e : Word × Bool) => cells_insertLightEnable s e.1) _ _).trans ?_
  exact cells_foldl_kept (fun s (e : Word × Bool) => cells_insertLight s e.1) _ _

/-- So an applied block holds what it held. -/
theorem apply_captured (d : LssDevice) (sb : Nat) :
    ((d.apply sb).blocks sb).mCaptureState.cells = (d.blocks sb).mCaptureState.cells := by
  have hkeep := cells_insertLights (d.blocks sb).mDirtyFlags (d.blocks sb).mCaptureState
  simpa [LssDevice.apply, LssDevice.putBlock, StateBlock.transfer, StateTransfer] using hkeep

theorem flagged_step {sb : Nat} {flags : StateCaptureDirtyFlags} {s s' : App} {a : Act}
    (hF : Flagged sb flags s) (ha : a ≠ .ReleaseStateBlock sb)
    (h : step elim mul s a = some s') : Flagged sb flags s' := by
  obtain ⟨hheld, hsame | ⟨-, hcap⟩ | ⟨-, happ⟩⟩ := held_step hF.inv hF.held ha h
  · exact ⟨inv_step hF.inv h, hheld, hsame ▸ hF.flags⟩
  · refine ⟨inv_step hF.inv h, hheld, ?_⟩
    rw [hcap, localCapture_flags]
    exact hF.flags
  · refine ⟨inv_step hF.inv h, hheld, ?_⟩
    rw [happ, apply_flags]
    exact hF.flags

theorem flagged_run {sb : Nat} {flags : StateCaptureDirtyFlags} {s s' : App} {as : List Act}
    (hF : Flagged sb flags s) (has : ∀ a ∈ as, a ≠ .ReleaseStateBlock sb)
    (hr : run (step elim mul) s as = some s') : Flagged sb flags s' :=
  run_inv_along (C := fun _ a => a ≠ .ReleaseStateBlock sb)
    (fun _ _ _ hF ha h => flagged_step hF ha h) hF (along_of_forall s has) hr

/-- Calls that may change what the block at `sb` holds. -/
def Act.recaptures (sb : Nat) : Act → Prop
  | .Capture sb' | .ReleaseStateBlock sb' => sb' = sb
  | _ => False

theorem stores_step {sb : Nat} {flags : StateCaptureDirtyFlags} {cells : (c : Cell) → c.Val}
    {s s' : App} {a : Act} (hS : Stores sb flags cells s) (ha : ¬ a.recaptures sb)
    (h : step elim mul s a = some s') : Stores sb flags cells s' := by
  have hrelease : a ≠ .ReleaseStateBlock sb := by
    rintro rfl
    exact ha rfl
  refine ⟨flagged_step hS.toFlagged hrelease h, ?_⟩
  obtain ⟨-, hsame | ⟨rfl, -⟩ | ⟨-, happ⟩⟩ := held_step hS.inv hS.held hrelease h
  · exact hsame ▸ hS.captured
  · exact absurd rfl ha
  · rw [happ, apply_captured]
    exact hS.captured

theorem stores_run {sb : Nat} {flags : StateCaptureDirtyFlags} {cells : (c : Cell) → c.Val}
    {s s' : App} {as : List Act} (hS : Stores sb flags cells s)
    (has : ∀ a ∈ as, ¬ a.recaptures sb) (hr : run (step elim mul) s as = some s') :
    Stores sb flags cells s' :=
  run_inv_along (C := fun _ a => ¬ a.recaptures sb)
    (fun _ _ _ hS ha h => stores_step hS ha h) hS (along_of_forall s has) hr

/-! ### What its transfers bring -/

theorem localCapture_captured {d : LssDevice} {sb : Nat} (h : (d.blocks sb).Current) :
    ((d.localCapture sb).blocks sb).mCaptureState =
      copyFlagged (d.blocks sb).mDirtyFlags d.mState (d.blocks sb).mCaptureState := by
  have hwalk := (h.transfer d.mState (d.blocks sb).mCaptureState).2
  simpa [LssDevice.localCapture, LssDevice.putBlock] using hwalk

theorem apply_mState {d : LssDevice} {sb : Nat} (h : (d.blocks sb).Current) :
    (d.apply sb).mState = copyFlagged (d.blocks sb).mDirtyFlags (d.blocks sb).mCaptureState
      d.mState :=
  (h.transfer (d.blocks sb).mCaptureState d.mState).2

/-- **`Apply`.**  The device takes the covered cells from what the block captured. -/
theorem stores_apply {sb : Nat} {flags : StateCaptureDirtyFlags} {cells : (c : Cell) → c.Val}
    {s s' : App} (hS : Stores sb flags cells s) (h : step elim mul s (.Apply sb) = some s')
    (c : Cell) :
    s'.device.mState.cells c = if flags.covers c then cells c else s.device.mState.cells c := by
  simp only [step, if_pos hS.held] at h
  cases h
  dsimp only
  rw [apply_mState (hS.inv.held sb hS.held), cells_copyFlagged, hS.flags, hS.captured]

end RemixBridge.Device
