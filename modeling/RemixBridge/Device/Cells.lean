import RemixBridge.Device.Setters

/-!
# Device — Cells

What a state holds, entry by entry, as the runtime's setters name it, and the values that the
command of a setter carries to the server.  A bool constant is an entry of its own here, not a bit
of its word, and a light that no one set reads as zeros.

* `Setter.values`: the values of a command.
* `writes_call`: the section of a setter writes to the device what its command carries.
-/

namespace RemixBridge.Device
open Loops

/-! ### Cells -/

inductive Cell where
  | entry (k : Slot)
  | vsB (i : Fin caps.MaxOtherConstantsSoftware)
  | psB (i : Fin caps.MaxOtherConstants)
  deriving DecidableEq, Repr

abbrev Cell.Val : Cell → Type
  | .entry k       => k.Val
  | .vsB _ | .psB _ => Bool

/-- A state with nothing missing in its maps, and without its words of bool constants. -/
def State.entries (s : State) : State
  | .lights key        => some (s.light key)
  | .bLightEnables key => some (s.lightEnable key)
  | .vsB _             => 0
  | .psB _             => 0
  | k                  => s k

def State.vsBool (s : State) (i : Fin caps.MaxOtherConstantsSoftware) : Bool :=
  (s (.vsB (vsBWord i))).getLsbD (i % 32)

def State.psBool (s : State) (i : Fin caps.MaxOtherConstants) : Bool :=
  (s (.psB (psBWord i))).getLsbD (i % 32)

def State.cells (s : State) : (c : Cell) → c.Val
  | .entry k => s.entries k
  | .vsB i   => s.vsBool i
  | .psB i   => s.psBool i

/-- A value for a cell. -/
abbrev Value := (c : Cell) × c.Val

/-! ### The values of a command -/

/-- The values of consecutive registers. -/
def registerValues {n : Nat} (startRegister count : Word) (value : Fin n → Nat → Value) :
    List Value :=
  (List.range count.toNat).filterMap fun i =>
    (index n (BitVec.ofNat 32 (startRegister.toNat + i))).map fun r => value r i

/-- What the command of a setter carries. `MultiplyTransform` sends none, and the format of
`SetFVF` is not in the state. -/
def Setter.values : Setter → List Value
  | SetTransform type (some m) =>
      ((index caps.MaxTransforms (mapXformStateTypeToIdx type)).map fun i =>
        [⟨.entry (.transforms i), m⟩]).getD []
  | SetViewport (some v) => [⟨.entry .viewport, v⟩]
  | SetMaterial (some m) => [⟨.entry .material, m⟩]
  | SetScissorRect (some r) => [⟨.entry .scissorRect, r⟩]
  | SetLight key (some l) => [⟨.entry (.lights key), some l⟩]
  | LightEnable key bEnable => [⟨.entry (.bLightEnables key), some (decide (bEnable ≠ 0))⟩]
  | SetClipPlane idx (some p) =>
      ((index caps.MaxClipPlanes idx).map fun i =>
        (List.finRange 4).map fun j => (⟨.entry (.clipPlanes i j), p j⟩ : Value)).getD []
  | SetRenderState state value =>
      ((index kNumRenderStates state).map fun i => [⟨.entry (.renderStates i), value⟩]).getD []
  | SetTexture stage pTexture =>
      ((index kNumStageSamplers (mapSamplerStageToIdx stage)).map fun i =>
        [⟨.entry (.textures i), pTexture.map (·.1)⟩,
          ⟨.entry (.textureTypes i), (pTexture.map (·.2)).getD D3DRTYPE_FORCE_DWORD⟩]).getD []
  | SetTextureStageState stage type value =>
      ((TexStageStateTypeToIdx type).bind fun j =>
        (index kNumStageSamplers (mapSamplerStageToIdx stage)).map fun i =>
          [⟨.entry (.textureStageStates i j), value⟩]).getD []
  | SetSamplerState sampler type value =>
      ((index kMaxStageSamplerStateTypes (type - 1)).bind fun j =>
        (index kNumStageSamplers (mapSamplerStageToIdx sampler)).map fun i =>
          [⟨.entry (.samplerStates i j), value⟩]).getD []
  | SetRenderTarget idx pRenderTarget =>
      ((index caps.MaxSimultaneousRenderTargets idx).map fun i =>
        [⟨.entry (.renderTargets i), pRenderTarget⟩]).getD []
  | SetDepthStencilSurface pNewZStencil => [⟨.entry .depthStencil, pNewZStencil⟩]
  | SetVertexDeclaration pDecl => [⟨.entry .vertexDecl, pDecl⟩]
  | SetVertexShader pShader => [⟨.entry .vertexShader, pShader⟩]
  | SetPixelShader pShader => [⟨.entry .pixelShader, pShader⟩]
  | SetIndices pIndexData => [⟨.entry .indices, pIndexData⟩]
  | SetStreamSource streamNumber pStreamData offsetInBytes stride =>
      ((index caps.MaxStreams streamNumber).map fun i =>
        ⟨.entry (.streams i), pStreamData⟩ ::
          -- the runtime ignores them where there is no buffer
          if pStreamData.isSome then
            [⟨.entry (.streamOffsets i), offsetInBytes⟩, ⟨.entry (.streamStrides i), stride⟩]
          else []).getD []
  | SetStreamSourceFreq streamNumber divider =>
      ((index caps.MaxStreams streamNumber).map fun i =>
        [⟨.entry (.streamFreqs i), divider⟩]).getD []
  | SetVertexShaderConstantF startRegister (some data) count =>
      registerValues startRegister count fun r i => ⟨.entry (.vsF r), data.getD i fun _ => 0⟩
  | SetVertexShaderConstantI startRegister (some data) count =>
      registerValues startRegister count fun r i => ⟨.entry (.vsI r), data.getD i fun _ => 0⟩
  | SetVertexShaderConstantB startRegister (some data) count =>
      registerValues startRegister count fun r i => ⟨.vsB r, decide (data.getD i 0 ≠ 0)⟩
  | SetPixelShaderConstantF startRegister (some data) count =>
      registerValues startRegister count fun r i => ⟨.entry (.psF r), data.getD i fun _ => 0⟩
  | SetPixelShaderConstantI startRegister (some data) count =>
      registerValues startRegister count fun r i => ⟨.entry (.psI r), data.getD i fun _ => 0⟩
  | SetPixelShaderConstantB startRegister (some data) count =>
      registerValues startRegister count fun r i => ⟨.psB r, decide (data.getD i 0 ≠ 0)⟩
  | _ => []

/-- A set of constants, if it is not refused, stays within the registers that the shadow holds. -/
def InRegisters (n regCountHardware : Nat) (startRegister count : Word) : Prop :=
  count ≠ 0 → startRegister + count ≤ BitVec.ofNat 32 n →
    startRegister.toNat + count.toNat ≤ regCountHardware

instance (n regCountHardware : Nat) (startRegister count : Word) :
    Decidable (InRegisters n regCountHardware startRegister count) := by
  unfold InRegisters
  infer_instance

def Setter.InRegisters : Setter → Prop
  | SetVertexShaderConstantF startRegister (some _) count =>
      Device.InRegisters caps.MaxFloatConstantsSoftware caps.MaxFloatConstantsVS startRegister count
  | SetVertexShaderConstantI startRegister (some _) count
  | SetVertexShaderConstantB startRegister (some _) count =>
      Device.InRegisters caps.MaxOtherConstantsSoftware caps.MaxOtherConstants startRegister count
  | SetPixelShaderConstantF startRegister (some _) count =>
      Device.InRegisters caps.MaxFloatConstantsPS caps.MaxFloatConstantsPS startRegister count
  | SetPixelShaderConstantI startRegister (some _) count
  | SetPixelShaderConstantB startRegister (some _) count =>
      Device.InRegisters caps.MaxOtherConstants caps.MaxOtherConstants startRegister count
  | _ => True

/-- A call of `MultiplyTransform` that is not refused. -/
def Setter.multiplies : Setter → Bool
  | MultiplyTransform _ (some _) => true
  | _ => false

/-! ### Writing an entry -/

/-- An entry that is a cell as it is. -/
def Slot.plain : Slot → Bool
  | lights _ | bLightEnables _ | vsB _ | psB _ => false
  | _ => true

theorem entries_of_eq {s t : State} {k : Slot} (h : s k = t k) : s.entries k = t.entries k := by
  cases k <;> simp only [State.entries, State.light, State.lightEnable, h]

theorem entries_plain (s : State) {k : Slot} (h : k.plain = true) : s.entries k = s k := by
  cases k <;> first | rfl | cases h

/-- Writing an entry that holds `v` as a cell. -/
theorem cells_update (s : State) (k : Slot) (v w : k.Val)
    (hv : State.entries (Function.update s k w) k = v) (hd : ∀ d, k ≠ .vsB d)
    (hd' : ∀ d, k ≠ .psB d) :
    State.cells (Function.update s k w) = Function.update s.cells (.entry k) v := by
  funext c
  cases c with
  | entry k' =>
      by_cases hk : k' = k
      · subst hk
        rw [Function.update_self]
        exact hv
      · have hne : Cell.entry k' ≠ .entry k := fun he => hk (Cell.entry.inj he)
        rw [Function.update_of_ne hne]
        exact entries_of_eq (Function.update_of_ne hk _ _)
  | vsB i =>
      rw [Function.update_of_ne (by nofun)]
      simp only [State.cells, State.vsBool, Function.update_of_ne (hd _).symm]
  | psB i =>
      rw [Function.update_of_ne (by nofun)]
      simp only [State.cells, State.psBool, Function.update_of_ne (hd' _).symm]

theorem cells_plain (s : State) {k : Slot} (v : k.Val) (h : k.plain = true) :
    State.cells (Function.update s k v) = Function.update s.cells (.entry k) v := by
  refine cells_update s k v v ?_ ?_ ?_
  · rw [entries_plain _ h, Function.update_self]
  · rintro d rfl
    cases h
  · rintro d rfl
    cases h

theorem cells_light (s : State) (key : Word) (l : D3DLIGHT9) :
    State.cells (Function.update s (.lights key) (some l)) =
      Function.update s.cells (.entry (.lights key)) (some l) := by
  refine cells_update s (.lights key) (some l) (some l) ?_ (fun d h => ?_) (fun d h => ?_)
  · simp [State.entries, State.light]
  · cases h
  · cases h

theorem cells_lightEnable (s : State) (key : Word) (b : Bool) :
    State.cells (Function.update s (.bLightEnables key) (some b)) =
      Function.update s.cells (.entry (.bLightEnables key)) (some b) := by
  refine cells_update s (.bLightEnables key) (some b) (some b) ?_ (fun d h => ?_) (fun d h => ?_)
  · simp [State.entries, State.lightEnable]
  · cases h
  · cases h

/-- A light that is read is inserted, and reads as before. -/
theorem cells_insertLight (s : State) (key : Word) :
    State.cells (Function.update s (.lights key) (some (s.light key))) = s.cells := by
  rw [cells_light]
  exact Function.update_eq_self (.entry (.lights key)) s.cells

theorem cells_insertLightEnable (s : State) (key : Word) :
    State.cells (Function.update s (.bLightEnables key) (some (s.lightEnable key))) = s.cells := by
  rw [cells_lightEnable]
  exact Function.update_eq_self (.entry (.bLightEnables key)) s.cells

/-! ### Writing a bool constant -/

theorem getLsbD_setBit (w : Word) (i : Nat) (v : Word) {b : Nat} (hb : b < 32) :
    (setBit w i v).getLsbD b = if b = i % 32 then decide (v ≠ 0) else w.getLsbD b := by
  unfold setBit
  dsimp only
  split
  · rename_i hv
    simp only [BitVec.getLsbD_or, BitVec.getLsbD_and, BitVec.getLsbD_not, hb,
      getLsbD_bitMask i hb, decide_true, Bool.true_and]
    by_cases h : b = i % 32
    · simpa [h] using hv
    · simp [h]
  · rename_i hv
    simp only [BitVec.getLsbD_and, BitVec.getLsbD_not, hb, getLsbD_bitMask i hb, decide_true,
      Bool.true_and]
    by_cases h : b = i % 32
    · simpa [h] using hv
    · simp [h]

theorem cells_vsBool (s : State) (r : Fin caps.MaxOtherConstantsSoftware) (v : Word) :
    State.cells (Function.update s (.vsB (vsBWord r))
        (setBit (s (.vsB (vsBWord r))) r v)) =
      Function.update s.cells (.vsB r) (decide (v ≠ 0)) := by
  funext c
  cases c with
  | entry k =>
      rw [Function.update_of_ne (by intro h; cases h)]
      by_cases hk : k = .vsB (vsBWord r)
      · subst hk
        rfl
      · exact entries_of_eq (Function.update_of_ne hk _ _)
  | psB i =>
      rw [Function.update_of_ne (by intro h; cases h)]
      simp only [State.cells, State.psBool]
      rw [Function.update_of_ne (by intro h; cases h)]
  | vsB i =>
      have hb : (i : Nat) % 32 < 32 := Nat.mod_lt _ (by decide)
      by_cases hi : i = r
      · subst hi
        rw [Function.update_self]
        simp only [State.cells, State.vsBool, Function.update_self, getLsbD_setBit _ _ _ hb,
          if_true]
      · have hne : Cell.vsB i ≠ .vsB r := fun h => hi (Cell.vsB.inj h)
        rw [Function.update_of_ne hne]
        simp only [State.cells, State.vsBool]
        by_cases hd : (i : Nat) / 32 = r / 32
        · have hmod : (i : Nat) % 32 ≠ r % 32 := fun h => hi (Fin.ext (by omega))
          have hfin : vsBWord i = vsBWord r := Fin.ext hd
          rw [hfin, Function.update_self, getLsbD_setBit _ _ _ hb, if_neg hmod]
        · rw [Function.update_of_ne]
          intro h
          exact hd (congrArg Fin.val (Slot.vsB.inj h))

theorem cells_psBool (s : State) (r : Fin caps.MaxOtherConstants) (v : Word) :
    State.cells (Function.update s
        (.psB (psBWord r))
        (setBit (s (.psB (psBWord r))) r v)) =
      Function.update s.cells (.psB r) (decide (v ≠ 0)) := by
  funext c
  cases c with
  | entry k =>
      rw [Function.update_of_ne (by intro h; cases h)]
      by_cases hk : k = .psB (psBWord r)
      · subst hk
        rfl
      · exact entries_of_eq (Function.update_of_ne hk _ _)
  | vsB i =>
      rw [Function.update_of_ne (by intro h; cases h)]
      simp only [State.cells, State.vsBool]
      rw [Function.update_of_ne (by intro h; cases h)]
  | psB i =>
      have hb : (i : Nat) % 32 < 32 := Nat.mod_lt _ (by decide)
      by_cases hi : i = r
      · subst hi
        rw [Function.update_self]
        simp only [State.cells, State.psBool, Function.update_self, getLsbD_setBit _ _ _ hb,
          if_true]
      · have hne : Cell.psB i ≠ .psB r := fun h => hi (Cell.psB.inj h)
        rw [Function.update_of_ne hne]
        simp only [State.cells, State.psBool]
        by_cases hd : (i : Nat) / 32 = r / 32
        · have hmod : (i : Nat) % 32 ≠ r % 32 := fun h => hi (Fin.ext (by omega))
          have hfin : psBWord i = psBWord r := Fin.ext hd
          rw [hfin, Function.update_self, getLsbD_setBit _ _ _ hb, if_neg hmod]
        · rw [Function.update_of_ne]
          intro h
          exact hd (congrArg Fin.val (Slot.psB.inj h))

/-! ### The section of a setter -/

/-- What a section leaves in the cells of the device: the values `vs` where it writes, and what was
there elsewhere. -/
structure Writes (d : LssDevice) (vs : List Value) (x : Section × LssDevice) : Prop where
  written : x.1 = .written → x.2.mState.cells = write d.mState.cells vs
  other : x.1 ≠ .written → x.2.mState.cells = d.mState.cells

variable {d : LssDevice} {vs : List Value} {x : Section × LssDevice}

theorem writes_rejected (h : some (Section.rejected, d) = some x) : Writes d vs x := by
  cases h
  exact ⟨nofun, fun _ => rfl⟩

theorem writes_map {α : Type} {o : Option α} {g : α → Section × LssDevice} {vs : α → List Value}
    (hg : ∀ a, Writes d (vs a) (g a)) (h : o.map g = some x) :
    Writes d ((o.map vs).getD []) x := by
  obtain ⟨a, rfl, rfl⟩ := Option.map_eq_some_iff.mp h
  exact hg a

theorem writes_written {d' : LssDevice} (h : d'.mState.cells = write d.mState.cells vs) :
    Writes d vs (.written, d') :=
  ⟨fun _ => h, fun hne => absurd rfl hne⟩

theorem writes_set (hd : d.mStateRecording = none) {recordedHas : StateBlock → Bool}
    {deviceHas : State → Bool} {update : State → State} {fs : List Flag}
    (hu : (update d.mState).cells = write d.mState.cells vs) :
    Writes d vs (d.set recordedHas deviceHas update fs) := by
  unfold LssDevice.set
  rw [hd]
  dsimp only
  split
  · exact ⟨nofun, fun _ => rfl⟩
  · exact writes_written hu

theorem writes_setEntry (hd : d.mStateRecording = none) {elimRecorded elimDevice : Bool}
    {f : Flag} (k : Slot) (v : k.Val) (hk : k.plain = true) :
    Writes d [⟨.entry k, v⟩] (d.setEntry elimRecorded elimDevice f k v) :=
  writes_set hd (cells_plain d.mState v hk)

theorem writes_SetLight {elim : Bool} {key : Word} {l : D3DLIGHT9}
    (hd : d.mStateRecording = none) (h : SetLight elim d key (some l) = some x) :
    Writes d [⟨.entry (.lights key), some l⟩] x := by
  unfold SetLight at h
  rw [hd] at h
  dsimp only at h
  split at h
  · rename_i he
    cases h
    have hl : d.mState.light key = l := by simpa using (Bool.and_eq_true_iff.mp he).2
    refine ⟨nofun, fun _ => ?_⟩
    rw [← hl]
    exact cells_insertLight d.mState key
  · cases h
    exact writes_written (cells_light d.mState key l)

theorem writes_LightEnable {elim : Bool} {key bEnable : Word} (hd : d.mStateRecording = none)
    (h : LightEnable elim d key bEnable = some x) :
    Writes d [⟨.entry (.bLightEnables key), some (decide (bEnable ≠ 0))⟩] x := by
  unfold LightEnable at h
  dsimp only at h
  rw [hd] at h
  dsimp only at h
  split at h
  · rename_i he
    cases h
    have hb : d.mState.lightEnable key = decide (bEnable ≠ 0) :=
      of_decide_eq_true (Bool.and_eq_true_iff.mp he).2
    refine ⟨nofun, fun _ => ?_⟩
    rw [← hb]
    exact cells_insertLightEnable d.mState key
  · cases h
    exact writes_written (cells_lightEnable d.mState key _)

theorem cells_texture (i : Fin kNumStageSamplers) (o : D3DAutoPtr) (type : Word) (s : State) :
    State.cells (Function.update (Function.update s (.textures i) o) (.textureTypes i) type) =
      write s.cells [⟨.entry (.textures i), o⟩, ⟨.entry (.textureTypes i), type⟩] := by
  rw [cells_plain _ _ rfl, cells_plain _ _ rfl]
  rfl

theorem writes_SetTexture {elim : Bool} {stage : Word} {pTexture : Option (Nat × Word)}
    (hd : d.mStateRecording = none) (h : SetTexture elim d stage pTexture = some x) :
    Writes d (Setter.SetTexture stage pTexture).values x := by
  unfold SetTexture at h
  dsimp only at h
  split at h
  · exact writes_rejected h
  · split at h
    · exact writes_map (fun i => writes_set hd (cells_texture i _ _ _)) h
    · split at h
      · exact writes_map (fun i => writes_set hd (cells_texture i _ _ _)) h
      · exact writes_rejected h

theorem cells_streamSource (i : Fin caps.MaxStreams) (pStreamData : D3DAutoPtr)
    (offsetInBytes stride : Word) (s : State) :
    State.cells (let s := Function.update s (.streams i) pStreamData
      if pStreamData.isSome then
        Function.update (Function.update s (.streamOffsets i) offsetInBytes)
          (.streamStrides i) stride
      else s) =
    write s.cells (⟨.entry (.streams i), pStreamData⟩ ::
      if pStreamData.isSome then
        [⟨.entry (.streamOffsets i), offsetInBytes⟩, ⟨.entry (.streamStrides i), stride⟩]
      else []) := by
  dsimp only
  split
  · rw [cells_plain _ _ rfl, cells_plain _ _ rfl, cells_plain _ _ rfl]
    rfl
  · exact cells_plain _ _ rfl

theorem writes_SetStreamSource {elim : Bool} {streamNumber : Word} {pStreamData : D3DAutoPtr}
    {offsetInBytes stride : Word} (hd : d.mStateRecording = none)
    (h : SetStreamSource elim d streamNumber pStreamData offsetInBytes stride = some x) :
    Writes d (Setter.SetStreamSource streamNumber pStreamData offsetInBytes stride).values x :=
  writes_map (fun i => writes_set hd (cells_streamSource i _ _ _ _)) h

theorem cells_clipPlane (i : Fin caps.MaxClipPlanes) (p : Fin 4 → Word) (s : State) :
    State.cells ((List.finRange 4).foldl
      (fun s j => Function.update s (.clipPlanes i j) (p j)) s) =
    write s.cells ((List.finRange 4).map fun j => (⟨.entry (.clipPlanes i j), p j⟩ : Value)) := by
  induction List.finRange 4 generalizing s with
  | nil => rfl
  | cons j js ih =>
      rw [List.foldl_cons, ih, cells_plain _ _ rfl]
      rfl

theorem writes_SetClipPlane {idx : Word} {p : Fin 4 → Word} (hd : d.mStateRecording = none)
    (h : SetClipPlane d idx (some p) = some x) :
    Writes d (Setter.SetClipPlane idx (some p)).values x :=
  writes_map (fun i => writes_set hd (cells_clipPlane i p d.mState)) h

/-! ### The sections of the constants -/

theorem mapM_filterMap {α β : Type} {f : α → Option β} {l : List α} {rs : List β}
    (h : l.mapM f = some rs) : l.filterMap f = rs := by
  induction l generalizing rs with
  | nil =>
      cases h
      rfl
  | cons a l ih =>
      simp only [List.mapM_cons, Option.bind_eq_bind, Option.bind_eq_some_iff, Option.pure_def,
        Option.some.injEq] at h
      obtain ⟨b, hb, rs', hrs', rfl⟩ := h
      rw [List.filterMap_cons_some hb, ih hrs']

theorem toInt_ofNat_small {n : Nat} (h : n < 2 ^ 31) : (BitVec.ofNat 32 n).toInt = n := by
  rw [BitVec.toInt_eq_toNat_of_lt] <;> rw [BitVec.toNat_ofNat, Nat.mod_eq_of_lt (by omega)]
  omega

/-- The check, where the first register is in the array. -/
theorem commonGetSetConstants_eq {regCountHardware n : Nat} {startRegister count : Word}
    (hstart : startRegister.toNat ≤ n) (hle : ¬ startRegister + count > BitVec.ofNat 32 n)
    (hn : regCountHardware ≤ n) (hn' : n < 2 ^ 31) :
    commonGetSetConstants (BitVec.ofNat 32 regCountHardware) (BitVec.ofNat 32 n) startRegister
      count = some (min (startRegister + count).toNat regCountHardware - startRegister.toNat) := by
  have hsum : (startRegister + count).toNat ≤ n := by
    rw [gt_iff_lt, BitVec.lt_def, BitVec.toNat_ofNat, Nat.mod_eq_of_lt (by omega)] at hle
    omega
  have hclamp : max 0 (min (count + startRegister).toInt (BitVec.ofNat 32 regCountHardware).toInt) -
      startRegister.toInt =
        (min (startRegister + count).toNat regCountHardware : Nat) - (startRegister.toNat : Int) := by
    rw [BitVec.add_comm count, BitVec.toInt_eq_toNat_of_lt (by omega : 2 * _ < 2 ^ 32),
      toInt_ofNat_small (by omega), BitVec.toInt_eq_toNat_of_lt (by omega : 2 * _ < 2 ^ 32)]
    omega
  unfold commonGetSetConstants
  dsimp only
  rw [if_neg hle, hclamp, BitVec.toInt_ofInt, Int.bmod_eq_of_le (by omega) (by omega)]
  congr 1
  omega

/-- Within the registers that the shadow holds the count is not adjusted. -/
theorem commonGetSetConstants_inRegisters {regCountHardware n : Nat} {startRegister count : Word}
    (hin : startRegister.toNat + count.toNat ≤ regCountHardware) (hn : regCountHardware ≤ n)
    (hn' : n < 2 ^ 31) :
    commonGetSetConstants (BitVec.ofNat 32 regCountHardware) (BitVec.ofNat 32 n) startRegister
      count = some count.toNat := by
  have hsum : (startRegister + count).toNat = startRegister.toNat + count.toNat := by
    rw [BitVec.toNat_add]
    omega
  have hle : ¬ startRegister + count > BitVec.ofNat 32 n := by
    rw [gt_iff_lt, BitVec.lt_def, hsum, BitVec.toNat_ofNat, Nat.mod_eq_of_lt (by omega)]
    omega
  rw [commonGetSetConstants_eq (by omega) hle hn hn', hsum]
  congr 1
  omega

/-- And none are set of none. -/
theorem commonGetSetConstants_zero {regCountHardware n : Nat} {startRegister : Word}
    (hle : ¬ startRegister + 0 > BitVec.ofNat 32 n) (hn : regCountHardware ≤ n)
    (hn' : n < 2 ^ 31) :
    commonGetSetConstants (BitVec.ofNat 32 regCountHardware) (BitVec.ofNat 32 n) startRegister 0 =
      some 0 := by
  have hadd : startRegister + 0 = startRegister := by simp
  have hstart : startRegister.toNat ≤ n := by
    rw [hadd, gt_iff_lt, BitVec.lt_def, BitVec.toNat_ofNat, Nat.mod_eq_of_lt (by omega)] at hle
    omega
  rw [commonGetSetConstants_eq hstart hle hn hn', hadd]
  congr 1
  omega

/-- The loop over the registers. -/
theorem cells_foldl {n : Nat} {set : Fin n → Nat → State → State} {value : Fin n → Nat → Value}
    (hset : ∀ r i s, (set r i s).cells = Function.update s.cells (value r i).1 (value r i).2)
    (rs : List (Fin n × Nat)) (s : State) :
    (rs.foldl (fun s p => set p.1 p.2 s) s).cells =
      write s.cells (rs.map fun p => value p.1 p.2) := by
  induction rs generalizing s with
  | nil => rfl
  | cons p rs ih =>
      rw [List.foldl_cons, ih, hset]
      rfl

/-- What `setShaderConstants` does within the registers that the shadow holds: it refuses, has
nothing to set, or sets every register of the command. -/
theorem setShaderConstants_cases {n regCountHardware : Nat} {startRegister count : Word}
    {same : Fin n → Nat → State → Bool} {eliminates : Bool} {set : Fin n → Nat → State → State}
    {f : Fin n → Flag} (value : Fin n → Nat → Value)
    (hin : InRegisters n regCountHardware startRegister count) (hn : regCountHardware ≤ n)
    (hn' : n < 2 ^ 31)
    (h : setShaderConstants n regCountHardware d startRegister count same eliminates set f =
      some x) :
    (startRegister + count > BitVec.ofNat 32 n ∧ x = (.rejected, d)) ∨
    (¬ startRegister + count > BitVec.ofNat 32 n ∧ registerValues startRegister count value = [] ∧
      x = (.written, d)) ∨
    (¬ startRegister + count > BitVec.ofNat 32 n ∧ ∃ rs : List (Fin n × Nat),
      registerValues startRegister count value = rs.map (fun p => value p.1 p.2) ∧
      x = d.set (fun _ => false) (fun s => eliminates && rs.all fun p => same p.1 p.2 s)
        (fun s => rs.foldl (fun s p => set p.1 p.2 s) s) (rs.map fun p => f p.1)) := by
  unfold setShaderConstants at h
  by_cases hgt : startRegister + count > BitVec.ofNat 32 n
  · have hnone : commonGetSetConstants (BitVec.ofNat 32 regCountHardware) (BitVec.ofNat 32 n)
        startRegister count = none := if_pos hgt
    rw [hnone] at h
    cases h
    exact .inl ⟨hgt, rfl⟩
  · refine .inr ?_
    by_cases h0 : count = 0
    · subst h0
      rw [commonGetSetConstants_zero hgt hn hn'] at h
      dsimp only at h
      rw [if_pos rfl] at h
      cases h
      exact .inl ⟨hgt, rfl, rfl⟩
    · have hle := hin h0 (BitVec.not_lt.mp hgt)
      rw [commonGetSetConstants_inRegisters hle hn hn'] at h
      dsimp only at h
      split at h
      · rename_i hz
        cases h
        exact .inl ⟨hgt, by simp [registerValues, hz], rfl⟩
      · obtain ⟨rs, hrs, rfl⟩ := Option.map_eq_some_iff.mp h
        refine .inr ⟨hgt, rs, ?_, rfl⟩
        rw [← mapM_filterMap hrs, List.map_filterMap]
        simp only [registerValues, Option.map_map, Function.comp_def]

theorem writes_setShaderConstants {n regCountHardware : Nat} {startRegister count : Word}
    {same : Fin n → Nat → State → Bool} {eliminates : Bool} {set : Fin n → Nat → State → State}
    {f : Fin n → Flag} {value : Fin n → Nat → Value} (hd : d.mStateRecording = none)
    (hin : InRegisters n regCountHardware startRegister count) (hn : regCountHardware ≤ n)
    (hn' : n < 2 ^ 31)
    (hset : ∀ r i s, (set r i s).cells = Function.update s.cells (value r i).1 (value r i).2)
    (h : setShaderConstants n regCountHardware d startRegister count same eliminates set f =
      some x) : Writes d (registerValues startRegister count value) x := by
  rcases setShaderConstants_cases value hin hn hn' h with ⟨-, rfl⟩ | ⟨-, hnone, rfl⟩ |
    ⟨-, rs, hrs, rfl⟩
  · exact writes_rejected rfl
  · rw [hnone]
    exact writes_written rfl
  · rw [hrs]
    exact writes_set hd (cells_foldl hset rs d.mState)

theorem writes_setVec4s {n regCountHardware : Nat} {slot : Fin n → Slot}
    {val : ∀ i, Vec4 → (slot i).Val} {f : Fin n → Flag} {eliminates : Bool}
    {startRegister count : Word} {data : List Vec4} (hd : d.mStateRecording = none)
    (hin : InRegisters n regCountHardware startRegister count) (hn : regCountHardware ≤ n)
    (hn' : n < 2 ^ 31) (hslot : ∀ i, (slot i).plain = true)
    (h : setVec4s n regCountHardware slot val f eliminates d startRegister (some data) count =
      some x) :
    Writes d (registerValues startRegister count fun r i =>
      ⟨.entry (slot r), val r (data.getD i fun _ => 0)⟩) x := by
  unfold setVec4s at h
  dsimp only at h
  exact writes_setShaderConstants hd hin hn hn'
    (fun r i s => cells_plain s (val r (data.getD i fun _ => 0)) (hslot r)) h

/-- **The section of a setter.**  Where no state block is recorded, it writes to the cells of the
device the values its command carries, if it writes at all. -/
theorem writes_call {elim : Bool} {mul : D3DMATRIX → D3DMATRIX → D3DMATRIX} {c : Setter}
    (hd : d.mStateRecording = none) (hm : c.multiplies = false) (hin : c.InRegisters)
    (h : c.call elim mul d = some x) : Writes d c.values x := by
  cases c with
  | SetTransform type m =>
      cases m with
      | none => exact writes_rejected h
      | some m =>
          simp only [Setter.call, Device.SetTransform] at h
          split at h
          · exact writes_map (fun i => writes_setEntry hd (.transforms i) m rfl) h
          · exact writes_rejected h
  | MultiplyTransform type m =>
      cases m with
      | none => exact writes_rejected h
      | some m => cases hm
  | SetViewport v =>
      cases v with
      | none => exact writes_rejected h
      | some v =>
          cases h
          exact writes_setEntry hd .viewport v rfl
  | SetMaterial m =>
      cases m with
      | none => exact writes_rejected h
      | some m =>
          cases h
          exact writes_setEntry hd .material m rfl
  | SetScissorRect r =>
      cases r with
      | none => exact writes_rejected h
      | some r =>
          cases h
          exact writes_setEntry hd .scissorRect r rfl
  | SetLight key l =>
      cases l with
      | none => exact writes_rejected h
      | some l => exact writes_SetLight hd h
  | LightEnable key b => exact writes_LightEnable hd h
  | SetClipPlane idx p =>
      cases p with
      | none => exact writes_rejected h
      | some p => exact writes_SetClipPlane hd h
  | SetRenderState state value =>
      exact writes_map (fun i => writes_setEntry hd (.renderStates i) value rfl) h
  | SetTexture stage t => exact writes_SetTexture hd h
  | SetTextureStageState stage type value =>
      simp only [Setter.call, Device.SetTextureStageState] at h
      split at h
      · exact writes_rejected h
      · split at h
        · exact writes_rejected h
        · rename_i j hj
          simp only [Setter.values, hj, Option.bind_some]
          exact writes_map (fun i => writes_setEntry hd (.textureStageStates i j) value rfl) h
  | SetSamplerState sampler type value =>
      simp only [Setter.call, Device.SetSamplerState] at h
      split at h
      · exact writes_rejected h
      · split at h
        · exact writes_rejected h
        · rename_i j hj
          simp only [Setter.values, hj, Option.bind_some]
          exact writes_map (fun i => writes_setEntry hd (.samplerStates i j) value rfl) h
  | SetRenderTarget idx t =>
      refine writes_map (fun i => writes_written ?_) h
      exact cells_plain d.mState (k := .renderTargets i) t rfl
  | SetDepthStencilSurface z =>
      cases h
      exact writes_written (cells_plain _ _ rfl)
  | SetVertexDeclaration decl =>
      simp only [Setter.call, Device.SetVertexDeclaration] at h
      split at h
      · cases h
        exact ⟨(fun hw => by cases hw), fun _ => rfl⟩
      · cases h
        exact writes_written (cells_plain _ _ rfl)
  | SetFVF fvf =>
      cases h
      exact writes_written rfl
  | SetVertexShader sh =>
      cases h
      exact writes_setEntry hd .vertexShader sh rfl
  | SetPixelShader sh =>
      cases h
      exact writes_setEntry hd .pixelShader sh rfl
  | SetIndices ib =>
      cases h
      exact writes_setEntry hd .indices ib rfl
  | SetStreamSource i vb offset stride => exact writes_SetStreamSource hd h
  | SetStreamSourceFreq i divider =>
      exact writes_map (fun i => writes_setEntry hd (.streamFreqs i) divider rfl) h
  | SetVertexShaderConstantF start data n =>
      cases data with
      | none => exact writes_rejected h
      | some data =>
          rw [Setter.call, Device.SetVertexShaderConstantF] at h
          exact writes_setVec4s hd hin (by decide) (by decide) (fun _ => rfl) h
  | SetVertexShaderConstantI start data n =>
      cases data with
      | none => exact writes_rejected h
      | some data =>
          rw [Setter.call, Device.SetVertexShaderConstantI] at h
          exact writes_setVec4s hd hin (by decide) (by decide) (fun _ => rfl) h
  | SetVertexShaderConstantB start data n =>
      cases data with
      | none => exact writes_rejected h
      | some data =>
          rw [Setter.call, Device.SetVertexShaderConstantB] at h
          exact writes_setShaderConstants hd hin (by decide) (by decide)
            (fun r i s => cells_vsBool s r (data.getD i 0)) h
  | SetPixelShaderConstantF start data n =>
      cases data with
      | none => exact writes_rejected h
      | some data =>
          rw [Setter.call, Device.SetPixelShaderConstantF] at h
          exact writes_setVec4s hd hin (by decide) (by decide) (fun _ => rfl) h
  | SetPixelShaderConstantI start data n =>
      cases data with
      | none => exact writes_rejected h
      | some data =>
          rw [Setter.call, Device.SetPixelShaderConstantI] at h
          exact writes_setVec4s hd hin (by decide) (by decide) (fun _ => rfl) h
  | SetPixelShaderConstantB start data n =>
      cases data with
      | none => exact writes_rejected h
      | some data =>
          rw [Setter.call, Device.SetPixelShaderConstantB] at h
          exact writes_setShaderConstants hd hin (by decide) (by decide)
            (fun r i s => cells_psBool s r (data.getD i 0)) h

end RemixBridge.Device
