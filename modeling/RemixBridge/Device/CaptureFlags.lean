import RemixBridge.Device.HeldBlocks

/-!
# Device — CaptureFlags

What a block of `CreateStateBlock` brings back.  The flags of its type index the shadow state by
hand; a setter indexes it by its own mapping, and an entry that no flag of the type covers stays
what the setters after the capture made of it.

* `covers_captureFlags`: the cells of the flags of a type.
* `restores_iff`: the entries that `Apply` brings back in every run.
-/

namespace RemixBridge.Device
open Loops Runs

/-! ### The cells of a type -/

/-- The cells that a block of a type covers.  The sampler states are those at the values of
`D3DSAMP_ADDRESSU` to `D3DSAMP_ELEMENTINDEX`, of the samplers of the pixel shader and of the
displacement map; `SetSamplerState` keeps a state at the place before its value. -/
def Cell.captured (type : Word) : Cell → Bool
  | .entry k =>
      let pixel := decide (type = D3DSBT_PIXELSTATE ∨ type = D3DSBT_ALL)
      let vertex := decide (type = D3DSBT_VERTEXSTATE ∨ type = D3DSBT_ALL)
      match k with
      | .renderStates i => (pixel && decide ((i : Nat) ∈ pixelCaptureRenderStates)) ||
          (vertex && decide ((i : Nat) ∈ vertexCaptureRenderStates))
      | .samplerStates i j => pixel &&
          decide ((i : Nat) < caps.MaxTexturesPS + 1 ∧ 1 ≤ (j : Nat) ∧ (j : Nat) ≤ 12)
      | .textureStageStates _ _ | .psF _ | .psI _ => pixel
      | .vertexDecl | .streamFreqs _ | .vsF _ | .vsI _ => vertex
      | .textures _ | .textureTypes _ | .streams _ | .streamOffsets _ | .streamStrides _
      | .indices | .viewport | .scissorRect | .clipPlanes _ _ | .transforms _ | .material =>
          decide (type = D3DSBT_ALL)
      | .vertexShader | .pixelShader | .lights _ | .bLightEnables _ | .renderTargets _
      | .depthStencil | .vsB _ | .psB _ => false
  | .vsB _ => decide (type = D3DSBT_VERTEXSTATE ∨ type = D3DSBT_ALL)
  | .psB _ => decide (type = D3DSBT_PIXELSTATE ∨ type = D3DSBT_ALL)

/-- The types of `CreateStateBlock`. -/
def IsBlockType (type : Word) : Prop :=
  type = D3DSBT_ALL ∨ type = D3DSBT_PIXELSTATE ∨ type = D3DSBT_VERTEXSTATE

/-- The loop over the vertex samplers does not run. -/
theorem no_vertexSampler (i j : Nat) : decide (caps.MaxTexturesPS + 1 ≤ i ∧
    i < kMaxStageSamplerStateTypes ∧ j = D3DSAMP_DMAPOFFSET) = false := by
  rw [decide_eq_false_iff_not]
  rintro ⟨hge, hlt, -⟩
  exact absurd (hge.trans_lt hlt) (by decide)

/-- **The cells of the flags.** -/
theorem covers_captureFlags {type : Word} (ht : IsBlockType type) (c : Cell) :
    (StateBlockSetCaptureFlags type .none).covers c = c.captured type := by
  rcases c with k | i | i
  · rcases ht with rfl | rfl | rfl
    · cases k with
      | renderStates i =>
          change (_ || (_ || false)) = _
          rw [Bool.or_false, Bool.or_comm]
          rfl
      | samplerStates i j =>
          change (_ || (_ || false)) = _
          rw [no_vertexSampler, Bool.false_or, Bool.or_false]
          rfl
      | _ => rfl
    · cases k with
      | samplerStates i j => exact Bool.or_false _
      | _ => rfl
    · cases k with
      | renderStates i => exact Bool.or_false _
      | samplerStates i j =>
          change (_ || false) = false
          rw [no_vertexSampler, Bool.false_or]
      | _ => rfl
  · rcases ht with rfl | rfl | rfl <;> rfl
  · rcases ht with rfl | rfl | rfl <;> rfl

/-! ### Captures -/

variable {elim : Bool} {mul : D3DMATRIX → D3DMATRIX → D3DMATRIX}

/-- A state of some run of some device. -/
def Reached (elim : Bool) (mul : D3DMATRIX → D3DMATRIX → D3DMATRIX) (s : App) : Prop :=
  ∃ d as, run (step elim mul) (.init d) as = some s

theorem Reached.inv {s : App} (h : Reached elim mul s) : Inv s := by
  obtain ⟨d, as, hr⟩ := h
  exact run_inv (fun _ _ _ => inv_step) (inv_init d) hr

theorem Reached.run {s s' : App} {as : List Act} (h : Reached elim mul s)
    (hr : run (step elim mul) s as = some s') : Reached elim mul s' := by
  obtain ⟨d, as', hr'⟩ := h
  exact ⟨d, as' ++ as, run_append.mpr ⟨s, hr', hr⟩⟩

/-- From `s` to `s'` a block of the type at `sb` captures the device: at its creation, or by a
`Capture` before it is released. -/
inductive Captured (elim : Bool) (mul : D3DMATRIX → D3DMATRIX → D3DMATRIX) (type : Word)
    (sb : Nat) : App → App → Prop
  | created {s s' : App} (m_captureState : State) (hs : Reached elim mul s)
      (h : step elim mul s (.CreateStateBlock type true sb m_captureState) = some s') :
      Captured elim mul type sb s s'
  | again {s₀ s₁ s s' : App} (m_captureState : State) (as : List Act) (hs : Reached elim mul s₀)
      (h₀ : step elim mul s₀ (.CreateStateBlock type true sb m_captureState) = some s₁)
      (has : ∀ a ∈ as, a ≠ .ReleaseStateBlock sb) (h₁ : run (step elim mul) s₁ as = some s)
      (hrecording : s.device.mStateRecording = none)
      (h : step elim mul s (.Capture sb) = some s') : Captured elim mul type sb s s'

/-- A capture stores the covered cells of the device. -/
def StoresOf (type : Word) (sb : Nat) (s s' : App) : Prop :=
  ∃ cells, Stores sb (StateBlockSetCaptureFlags type .none) cells s' ∧
    ∀ c, (StateBlockSetCaptureFlags type .none).covers c = true →
      cells c = s.device.mState.cells c

theorem storesOf_localCapture {type : Word} {sb : Nat} {d : LssDevice} {s s' : App}
    (hI : Inv s') (hheld : sb ∈ s'.held) (hd : s'.device = d.localCapture sb)
    (hcur : (d.blocks sb).Current)
    (hflags : (d.blocks sb).mDirtyFlags = StateBlockSetCaptureFlags type .none)
    (hm : d.mState = s.device.mState) : StoresOf type sb s s' := by
  refine ⟨_, ⟨⟨hI, hheld, ?_⟩, rfl⟩, fun c hc => ?_⟩
  · rw [hd, localCapture_flags, hflags]
  · rw [hd, localCapture_captured hcur, cells_copyFlagged, hflags, if_pos hc, hm]

theorem storesOf_created {type : Word} {sb : Nat} {m_captureState : State} {s s' : App} (hI : Inv s)
    (h : step elim mul s (.CreateStateBlock type true sb m_captureState) = some s') :
    StoresOf type sb s s' := by
  have hI' : Inv s' := inv_step hI h
  simp only [step, if_true] at h
  split at h
  · cases h
    refine storesOf_localCapture hI' List.mem_cons_self rfl (created_self _ _ _ _) ?_ rfl
    simp [LssDevice.created, LssDevice.putBlock, StateBlock.invalidatePlan]
  · cases h

theorem captured_stores {type : Word} {sb : Nat} {s s' : App}
    (h : Captured elim mul type sb s s') : StoresOf type sb s s' := by
  cases h with
  | created m_captureState hs h => exact storesOf_created hs.inv h
  | again m_captureState as hs h₀ has h₁ hrecording h =>
      obtain ⟨_, hS, -⟩ := storesOf_created hs.inv h₀
      have hF := flagged_run hS.toFlagged has h₁
      have hI' : Inv s' := inv_step hF.inv h
      simp only [step, if_pos hF.held, hrecording, Option.isSome_none, Bool.false_eq_true,
        if_false] at h
      cases h
      exact storesOf_localCapture hI' hF.held rfl (hF.inv.held sb hF.held) hF.flags rfl

/-! ### What `Apply` brings back -/

/-- In every run in which a block of the type captures the device, setters are called, and the block
is applied, the cell is as it was. -/
def Restores (elim : Bool) (mul : D3DMATRIX → D3DMATRIX → D3DMATRIX) (type : Word) (c : Cell) :
    Prop :=
  ∀ (sb : Nat) (s s' : App) (cs : List Setter) (s₁ s₂ : App), Captured elim mul type sb s s' →
    run (step elim mul) s' (cs.map Act.set) = some s₁ → step elim mul s₁ (.Apply sb) = some s₂ →
    s₂.device.mState.cells c = s.device.mState.cells c

theorem set_not_recaptures (sb : Nat) (cs : List Setter) :
    ∀ a ∈ cs.map Act.set, ¬ a.recaptures sb := by
  intro a ha
  obtain ⟨c, -, rfl⟩ := List.mem_map.mp ha
  exact id

theorem restores_of_captured {type : Word} (ht : IsBlockType type) {c : Cell}
    (hc : c.captured type = true) : Restores elim mul type c := by
  intro sb s s' cs s₁ s₂ hcap h₁ h₂
  obtain ⟨cells, hS, hcells⟩ := captured_stores hcap
  have hcovers := (covers_captureFlags ht c).trans hc
  rw [stores_apply (stores_run hS (set_not_recaptures sb cs) h₁) h₂, if_pos hcovers]
  exact hcells c hcovers

/-! ### What it does not -/

/-- Where no block is recorded the call leaves the value in the cell, whatever was there. -/
def Setter.sets (elim : Bool) (mul : D3DMATRIX → D3DMATRIX → D3DMATRIX) (call : Setter) (c : Cell)
    (v : c.Val) : Prop :=
  ∀ d : LssDevice, d.mStateRecording = none →
    ∃ x, call.call elim mul d = some x ∧ x.2.mState.cells c = v

/-- Setters give the cell more than one value. -/
def Settable (elim : Bool) (mul : D3DMATRIX → D3DMATRIX → D3DMATRIX) (c : Cell) : Prop :=
  ∃ (call call' : Setter) (v v' : c.Val), call.sets elim mul c v ∧ call'.sets elim mul c v' ∧ v ≠ v'

theorem step_sets {call : Setter} {c : Cell} {v : c.Val} (h : call.sets elim mul c v) {s : App}
    (hs : s.device.mStateRecording = none) :
    ∃ s', step elim mul s (.set call) = some s' ∧ s'.device.mState.cells c = v ∧
      s'.device.mStateRecording = none ∧ s'.held = s.held := by
  obtain ⟨x, hx, hv⟩ := h s.device hs
  refine ⟨{ s with device := x.2 }, ?_, hv, (sameBlocks_call hx).recording.trans hs, rfl⟩
  simp only [step, hx, Option.map_some]

theorem step_create (elim : Bool) (mul : D3DMATRIX → D3DMATRIX → D3DMATRIX) (type : Word) (sb : Nat)
    (m_captureState : State) {s : App} (hs : s.Fresh sb) :
    ∃ s', step elim mul s (.CreateStateBlock type true sb m_captureState) = some s' ∧
      s'.device.mStateRecording = s.device.mStateRecording ∧ sb ∈ s'.held := by
  refine ⟨⟨(s.device.created type sb m_captureState).localCapture sb, sb :: s.held⟩, ?_, rfl,
    List.mem_cons_self⟩
  simp only [step, if_true, if_pos hs]

/-- **An entry that no flag covers.**  Set before the capture and after, it stays what it was set
to after. -/
theorem not_restores {type : Word} (ht : IsBlockType type) {c : Cell} (hc : Settable elim mul c)
    (hno : c.captured type = false) : ¬ Restores elim mul type c := by
  intro hR
  obtain ⟨call, call', v, v', hcall, hcall', hne⟩ := hc
  let d : LssDevice := ⟨.cleared, none, fun _ => .new .cleared⟩
  obtain ⟨s, hs, hv, hrec, hheld⟩ := step_sets hcall (s := .init d) rfl
  have hreach : Reached elim mul s := ⟨d, [.set call], run_cons.mpr ⟨s, hs, rfl⟩⟩
  have hfresh : s.Fresh 1 := by
    refine ⟨?_, ?_⟩
    · rw [hheld]
      exact List.not_mem_nil
    · rw [hrec]
      exact nofun
  obtain ⟨s₁, h₁, hrec₁, -⟩ := step_create elim mul type 1 .cleared hfresh
  obtain ⟨s₂, h₂, hv₂, -, -⟩ := step_sets hcall' (hrec₁.trans hrec)
  have hcap : Captured elim mul type 1 s s₁ := .created .cleared hreach h₁
  obtain ⟨cells, hS, -⟩ := captured_stores hcap
  have hr₂ : run (step elim mul) s₁ ([call'].map Act.set) = some s₂ := run_cons.mpr ⟨s₂, h₂, rfl⟩
  have hS₂ := stores_run hS (set_not_recaptures 1 [call']) hr₂
  have h₃ : step elim mul s₂ (.Apply 1) = some _ := if_pos hS₂.held
  have hkeep := stores_apply hS₂ h₃ c
  rw [if_neg (by rw [covers_captureFlags ht, hno]; exact Bool.false_ne_true)] at hkeep
  have hback := hR 1 s s₁ [call'] s₂ _ hcap hr₂ h₃
  exact hne (hv.symm.trans (hback.symm.trans (hkeep.trans hv₂)))

/-! ### Entries that setters set -/

theorem sets_setEntry {call : Setter} {elimRecorded elimDevice : Bool} {f : Flag} {k : Slot}
    {v : k.Val} (hk : k.plain = true)
    (hcall : ∀ d, call.call elim mul d = some (d.setEntry elimRecorded elimDevice f k v)) :
    call.sets elim mul (.entry k) v := by
  intro d hd
  refine ⟨_, hcall d, ?_⟩
  unfold LssDevice.setEntry LssDevice.set
  rw [hd]
  dsimp only
  split
  · rename_i he
    have hv := of_decide_eq_true (Bool.and_eq_true_iff.mp he).2
    exact (entries_plain d.mState hk).trans hv
  · dsimp only
    rw [cells_plain _ _ hk, Function.update_self]

theorem settable_vertexShader : Settable elim mul (.entry .vertexShader) :=
  ⟨.SetVertexShader none, .SetVertexShader (some 1), none, some 1,
    sets_setEntry rfl fun _ => rfl, sets_setEntry rfl fun _ => rfl, nofun⟩

theorem settable_pixelShader : Settable elim mul (.entry .pixelShader) :=
  ⟨.SetPixelShader none, .SetPixelShader (some 1), none, some 1,
    sets_setEntry rfl fun _ => rfl, sets_setEntry rfl fun _ => rfl, nofun⟩

/-- The sampler that the shadow keeps at an index. -/
def samplerStage (i : Fin kNumStageSamplers) : Word :=
  if (i : Nat) < caps.MaxTexturesPS then BitVec.ofNat 32 i
  else D3DDMAPSAMPLER + BitVec.ofNat 32 (i - caps.MaxTexturesPS)

theorem samplerStage_valid (i : Fin kNumStageSamplers) :
    isInvalidSamplerStage (samplerStage i) = false ∧
      index kNumStageSamplers (mapSamplerStageToIdx (samplerStage i)) = some i := by
  revert i
  decide

theorem samplerType_index (j : Fin kMaxStageSamplerStateTypes) :
    index kMaxStageSamplerStateTypes (BitVec.ofNat 32 (j + 1) - 1) = some j := by
  revert j
  decide

theorem settable_samplerStates (i : Fin kNumStageSamplers) (j : Fin kMaxStageSamplerStateTypes) :
    Settable elim mul (.entry (.samplerStates i j)) := by
  obtain ⟨hvalid, hindex⟩ := samplerStage_valid i
  have hcall (v : Word) (d : LssDevice) :
      (Setter.SetSamplerState (samplerStage i) (BitVec.ofNat 32 (j + 1)) v).call elim mul d =
        some (d.setEntry elim elim (.samplerStates i j) (.samplerStates i j) v) := by
    simp only [Setter.call, Device.SetSamplerState, hvalid, samplerType_index, hindex,
      Bool.false_eq_true, if_false, Option.map_some]
  have hne : (0 : Word) ≠ 1 := by decide
  exact ⟨_, _, 0, 1, sets_setEntry rfl (hcall 0), sets_setEntry rfl (hcall 1), hne⟩

theorem settable_lights (key : Word) : Settable elim mul (.entry (.lights key)) := by
  have hsets (l : D3DLIGHT9) :
      (Setter.SetLight key (some l)).sets elim mul (.entry (.lights key)) (some l) := by
    intro d hd
    have hcell : State.cells (Function.update d.mState (.lights key) (some l))
        (.entry (.lights key)) = some l := by
      rw [cells_light, Function.update_self]
    simp only [Setter.call, Device.SetLight, hd]
    split
    · exact ⟨_, rfl, hcell⟩
    · exact ⟨_, rfl, hcell⟩
  have hne : (some fun _ => 0 : Option D3DLIGHT9) ≠ some fun _ => 1 := by
    intro h
    exact absurd (congrFun (Option.some.inj h) 0) (by decide)
  exact ⟨_, _, _, _, hsets _, hsets _, hne⟩

theorem settable_lightEnables (key : Word) : Settable elim mul (.entry (.bLightEnables key)) := by
  have hsets (b : Word) : (Setter.LightEnable key b).sets elim mul (.entry (.bLightEnables key))
      (some (decide (b ≠ 0))) := by
    intro d hd
    have hcell : State.cells (Function.update d.mState (.bLightEnables key)
        (some (decide (b ≠ 0)))) (.entry (.bLightEnables key)) = some (decide (b ≠ 0)) := by
      rw [cells_lightEnable, Function.update_self]
    simp only [Setter.call, Device.LightEnable, hd]
    split
    · exact ⟨_, rfl, hcell⟩
    · exact ⟨_, rfl, hcell⟩
  have hne : some (decide ((0 : Word) ≠ 0)) ≠ some (decide ((1 : Word) ≠ 0)) := by decide
  exact ⟨_, _, _, _, hsets 0, hsets 1, hne⟩

/-- **What `Apply` brings back.**  Of the entries that setters set, those that the type covers. -/
theorem restores_iff (elim : Bool) (mul : D3DMATRIX → D3DMATRIX → D3DMATRIX) {type : Word}
    (ht : IsBlockType type) {c : Cell} (hc : Settable elim mul c) :
    Restores elim mul type c ↔ c.captured type = true := by
  constructor
  · intro hR
    by_contra hno
    exact not_restores ht hc (Bool.eq_false_iff.mpr hno) hR
  · exact restores_of_captured ht

/-- A block of the pixel state brings the address mode of a sampler's second coordinate back. -/
theorem restores_iff_addressV :
    Restores true (fun _ m => m) D3DSBT_PIXELSTATE (.entry (.samplerStates 0 1)) ↔
      Cell.captured D3DSBT_PIXELSTATE (.entry (.samplerStates 0 1)) = true :=
  restores_iff true (fun _ m => m) (.inr (.inl rfl)) (settable_samplerStates 0 1)

/-- **Not brought back.**  By a block of the whole state: the shaders, a light, whether it is
enabled, and the address mode of a sampler's first coordinate. -/
theorem allState_not_restored :
    ¬ Restores true (fun _ m => m) D3DSBT_ALL (.entry .vertexShader) ∧
      ¬ Restores true (fun _ m => m) D3DSBT_ALL (.entry .pixelShader) ∧
      ¬ Restores true (fun _ m => m) D3DSBT_ALL (.entry (.lights 0)) ∧
      ¬ Restores true (fun _ m => m) D3DSBT_ALL (.entry (.bLightEnables 0)) ∧
      ¬ Restores true (fun _ m => m) D3DSBT_ALL (.entry (.samplerStates 0 0)) :=
  ⟨not_restores (.inl rfl) settable_vertexShader rfl,
    not_restores (.inl rfl) settable_pixelShader rfl,
    not_restores (.inl rfl) (settable_lights 0) rfl,
    not_restores (.inl rfl) (settable_lightEnables 0) rfl,
    not_restores (.inl rfl) (settable_samplerStates 0 0) rfl⟩

end RemixBridge.Device
