import RemixBridge.Device.Cells
import RemixBridge.Support.Runs
import Mathlib.Data.Fin.VecNotation

/-!
# Device — Defaults

The state of a device when it has been created and when it has been reset, beside the default state
that Direct3D gives the server's device.

* `ResetState`, `createDevice`, `LssDevice.Reset`: what the client's state is then.
* `section_congr`: the entries that the elimination of redundant setters compares with.
* `reset_iff`: what a `Reset` needs for these entries to have their defaults.
* `defaults_iff`: the same of every run; a new device never has all of them.
-/

namespace RemixBridge.Device

open Runs

/-! ### Presentation parameters -/

/-- The presentation parameters that the state depends on. -/
structure D3DPRESENT_PARAMETERS where
  BackBufferWidth : Word
  BackBufferHeight : Word
  Windowed : Word
  EnableAutoDepthStencil : Word
  deriving DecidableEq, Repr

/-- `clientArea` is the width and height of the window's. -/
def sanitizePresentationParameters (forceWindowed : Bool) (clientArea : Word × Word)
    (presParam : D3DPRESENT_PARAMETERS) : D3DPRESENT_PARAMETERS :=
  let localPresParam := if forceWindowed then { presParam with Windowed := 1 } else presParam
  if localPresParam.Windowed ≠ 0 ∧
      (presParam.BackBufferWidth = 0 ∨ presParam.BackBufferHeight = 0) then
    { localPresParam with BackBufferWidth := clientArea.1, BackBufferHeight := clientArea.2 }
  else localPresParam

/-! ### Values -/

/-- `bit_cast<DWORD>(1.f)` and `bit_cast<DWORD>(8192.f)`. -/
def float1 : Word := 0x3f800000
def float8192 : Word := 0x46000000

def identityMatrix : D3DMATRIX := fun i => if (i : Nat) % 5 = 0 then float1 else 0

def zeroMatrix : D3DMATRIX := fun _ => 0

/-- `X`, `Y`, `Width`, `Height`, `MinZ`, `MaxZ`. -/
def fullViewport (presParam : D3DPRESENT_PARAMETERS) : D3DVIEWPORT9 :=
  ![0, 0, presParam.BackBufferWidth, presParam.BackBufferHeight, 0, float1]

/-! ### The client -/

/-- The render states that `ResetState` gives a value, `D3DRS_ZENABLE` apart. -/
def resetRenderStates : List (Nat × Word) :=
  [(8, 3), (9, 2), (14, 1), (15, 0), (16, 1), -- FILLMODE SHADEMODE ZWRITE ALPHATEST LASTPIXEL
   (19, 2), (20, 1), (22, 3), (23, 4),        -- SRCBLEND DESTBLEND CULLMODE ZFUNC
   (24, 0), (25, 8), (26, 0), (27, 0),        -- ALPHAREF ALPHAFUNC DITHER ALPHABLEND
   (28, 0), (29, 0), (34, 0), (35, 0),        -- FOGENABLE SPECULAR FOGCOLOR FOGTABLEMODE
   (36, 0), (37, float1), (38, float1), (48, 0), -- FOGSTART FOGEND FOGDENSITY RANGEFOG
   (52, 0), (53, 1), (54, 1), (55, 1), (56, 8),  -- STENCIL: ENABLE FAIL ZFAIL PASS FUNC
   (57, 0), (58, 0xffffffff), (59, 0xffffffff),  -- STENCIL: REF MASK WRITEMASK
   (60, 0xffffffff)] ++                          -- TEXTUREFACTOR
  ((List.range 8).map fun i => (128 + i, 0)) ++  -- WRAP0 to WRAP7
  [(136, 1), (137, 1), (139, 0), (140, 0), -- CLIPPING LIGHTING AMBIENT FOGVERTEXMODE
   (141, 1), (142, 1), (143, 0),           -- COLORVERTEX LOCALVIEWER NORMALIZENORMALS
   (145, 1), (146, 2), (147, 0), (148, 0), -- MATERIALSOURCE: DIFFUSE SPECULAR AMBIENT EMISSIVE
   (151, 0), (152, 0), (154, float1), (155, float1), -- VERTEXBLEND CLIPPLANE POINTSIZE MIN
   (156, 0), (157, 0), (158, float1), (159, 0), (160, 0), -- POINTSPRITE, POINTSCALE: ENABLE A B C
   (161, 1), (162, 0xffffffff), (163, 0), (165, 0), -- MULTISAMPLE: ANTIALIAS MASK, PATCHEDGE DEBUG
   (166, float8192), (167, 0), (168, 0xf), (170, 0), -- POINTSIZE_MAX INDEXEDVERTEX COLORWRITE TWEEN
   (171, 1), (172, 3), (173, 1), (174, 0),      -- BLENDOP POSITIONDEGREE NORMALDEGREE SCISSORTEST
   (175, 0), (176, 0), (178, float1), (179, float1), -- SLOPESCALE ANTIALIASEDLINE TESSELLATION
   (180, 0), (181, 0), (182, float1), (183, 0), (184, 0), -- ADAPTIVETESS: X Y Z W ENABLE
   (185, 0), (186, 1), (187, 1), (188, 1), (189, 8), -- TWOSIDED, CCW_STENCIL: FAIL ZFAIL PASS FUNC
   (190, 0xf), (191, 0xf), (192, 0xf),          -- COLORWRITEENABLE1 to COLORWRITEENABLE3
   (193, 0xffffffff), (194, 0), (195, 0)] ++    -- BLENDFACTOR SRGBWRITE DEPTHBIAS
  ((List.range 8).map fun i => (198 + i, 0)) ++ -- WRAP8 to WRAP15
  [(206, 0), (207, 2), (208, 1), (209, 1)]      -- SEPARATEALPHABLEND SRCBLEND DESTBLEND BLENDOP

/-- `textureStageStates[stageIdx]`, by `TextureStageStateType`. -/
def resetTextureStageState (stageIdx : Nat) : Fin kMaxTexStageStateTypes → Word :=
  ![if stageIdx = 0 then 4 else 1, 2, 1, if stageIdx = 0 then 2 else 1, 2, 1, 0, 0, 0, 0,
    BitVec.ofNat 32 stageIdx, 0, 0, 0, 1, 1, 1, 0]

/-- `samplerStates[stageIdx]`, from `D3DSAMP_ADDRESSU` to `D3DSAMP_DMAPOFFSET`. -/
def resetSamplerState : List Word := [1, 1, 1, 0, 1, 1, 0, 0, 0, 1, 0, 0, 0]

def MaxEnabledLights : Nat := 8

/-- `autoDepthStencil` is the parameter of `m_pSwapchain`, if there is one. -/
def ResetState (autoDepthStencil : Option Word) (s : State) : State
  | .textureStageStates stageIdx j => resetTextureStageState stageIdx j
  | .samplerStates stageIdx j      =>
      resetSamplerState[(j : Nat)]?.getD (s (.samplerStates stageIdx j))
  | .renderStates i                =>
      if (i : Nat) = 7 then if autoDepthStencil.getD 0 ≠ 0 then 1 else 0
      else (resetRenderStates.lookup (i : Nat)).getD (s (.renderStates i))
  | .bLightEnables key             =>
      if key.toNat < MaxEnabledLights then some false else s (.bLightEnables key)
  | .streamFreqs _                 => 1
  | k                              => s k

/-- The members of a new `State`: pointers and maps have constructors, the memory of the others is
as it was. -/
def State.constructed (memory : State) : State
  | .renderTargets _ | .depthStencil | .textures _ | .vertexDecl | .vertexShader | .streams _
  | .indices | .pixelShader | .lights _ | .bLightEnables _ => none
  | k => memory k

/-- The constructor of `BaseDirect3DDevice9Ex_LSS`.  `memset` takes the low byte of `0xBAADCAFE`,
and the loop over the transforms ends at 256. -/
def baseConstructor (presParams : D3DPRESENT_PARAMETERS) (s : State) : State
  | .renderStates _ => 0xfefefefe
  | .transforms i   => if (i : Nat) < 256 then identityMatrix else zeroMatrix
  | .viewport       => fullViewport presParams
  | .scissorRect    => ![0, 0, presParams.BackBufferWidth, presParams.BackBufferHeight]
  | k               => s k

/-- The new objects, of which the swapchain is not part of the state. -/
def initImplicitObjects (presParam : D3DPRESENT_PARAMETERS) (renderTarget depthStencil : Nat)
    (s : State) : State
  | .renderTargets i => if i = 0 then some renderTarget else s (.renderTargets i)
  | .depthStencil    =>
      if presParam.EnableAutoDepthStencil ≠ 0 then some depthStencil else s .depthStencil
  | k                => s k

/-- It releases the swapchain too. -/
def releaseInternalObjects (s : State) : State
  | .textures _ | .renderTargets _ | .streams _ | .indices | .depthStencil | .vertexShader
  | .pixelShader | .vertexDecl => none
  | k => s k

/-- A new device; `localPresParam` is sanitized. -/
def createDevice (memory : State) (blocks : Nat → StateBlock)
    (localPresParam : D3DPRESENT_PARAMETERS) (renderTarget depthStencil : Nat) : LssDevice where
  mState := ResetState (some localPresParam.EnableAutoDepthStencil)
    (initImplicitObjects localPresParam renderTarget depthStencil
      (baseConstructor localPresParam memory.constructed))
  mStateRecording := none
  blocks := blocks

/-- There is no swapchain when `Reset` calls `ResetState`. -/
def LssDevice.Reset (d : LssDevice) (presParam : D3DPRESENT_PARAMETERS)
    (renderTarget depthStencil : Nat) : LssDevice :=
  let s := ResetState none (releaseInternalObjects d.mState)
  { d with mState := initImplicitObjects presParam renderTarget depthStencil s }

/-! ### The defaults of Direct3D 9 -/

namespace D3D9

/-- The render states with a fixed default. -/
def renderStates : List (Nat × Word) :=
  [(8, 3), (9, 2), (14, 1), (15, 0), (16, 1), (19, 2), (20, 1), (22, 3), (23, 4), (24, 0), (25, 8),
   (26, 0), (27, 0), (28, 0), (29, 0), (34, 0), (35, 0), (36, 0), (37, float1), (38, float1),
   (48, 0), (52, 0), (53, 1), (54, 1), (55, 1), (56, 8), (57, 0), (58, 0xffffffff),
   (59, 0xffffffff), (60, 0xffffffff), (128, 0), (129, 0), (130, 0), (131, 0), (132, 0), (133, 0),
   (134, 0), (135, 0), (136, 1), (137, 1), (139, 0), (140, 0), (141, 1), (142, 1), (143, 0),
   (145, 1), (146, 2), (147, 0), (148, 0), (151, 0), (152, 0), (154, float1), (155, float1),
   (156, 0), (157, 0), (158, float1), (159, 0), (160, 0), (161, 1), (162, 0xffffffff), (163, 0),
   (165, 0), (167, 0), (168, 0xf), (170, 0), (171, 1), (172, 3), (173, 1), (174, 0), (175, 0),
   (176, 0), (178, float1), (179, float1), (180, 0), (181, 0), (182, float1), (183, 0), (184, 0),
   (185, 0), (186, 1), (187, 1), (188, 1), (189, 8), (190, 0xf), (191, 0xf), (192, 0xf),
   (193, 0xffffffff), (194, 0), (195, 0), (198, 0), (199, 0), (200, 0), (201, 0), (202, 0),
   (203, 0), (204, 0), (205, 0), (206, 0), (207, 2), (208, 1), (209, 1)]

/-- The default of a render state.  That of `D3DRS_ZENABLE` is `D3DZB_TRUE` where a depth stencil is
created with the device, that of `D3DRS_POINTSIZE_MAX` the device's. -/
def renderState (maxPointSize : Word) (presParam : D3DPRESENT_PARAMETERS) (i : Nat) : Option Word :=
  if i = 7 then some (if presParam.EnableAutoDepthStencil ≠ 0 then 1 else 0)
  else if i = 166 then some maxPointSize
  else renderStates.lookup i

/-- The default of a texture stage state; the operations of stage 0 and the coordinates differ. -/
def textureStageState (stage : Nat) (j : Fin kMaxTexStageStateTypes) : Word :=
  if (j : Nat) = 0 then if stage = 0 then 4 else 1      -- COLOROP: MODULATE, DISABLE
  else if (j : Nat) = 3 then if stage = 0 then 2 else 1 -- ALPHAOP: SELECTARG1, DISABLE
  else if (j : Nat) = 10 then BitVec.ofNat 32 stage     -- TEXCOORDINDEX
  else if (j : Nat) ∈ [1, 4] then 2                     -- COLORARG1 ALPHAARG1: TEXTURE
  else if (j : Nat) ∈ [2, 5, 14, 15, 16] then 1         -- the other arguments: CURRENT
  else 0

/-- The default of a sampler state: wrapped, point filtered, one sample. -/
def samplerState (j : Nat) : Word := if j ∈ [0, 1, 2, 4, 5, 9] then 1 else 0

/-- Whether a value is the default of an entry, for the entries that Direct3D has. -/
def IsDefault (maxPointSize : Word) (presParam : D3DPRESENT_PARAMETERS) :
    (k : Slot) → k.Val → Prop
  | .renderTargets _, _           => True
  | .depthStencil, _              => True
  | .transforms _, m              => m = identityMatrix
  | .viewport, v                  => v = fullViewport presParam
  | .material, _                  => True
  | .lights _, l                  => l = none
  | .bLightEnables _, b           => b.getD false = false
  | .clipPlanes _ _, _            => True
  | .renderStates i, v            => ∀ w ∈ renderState maxPointSize presParam i, v = w
  | .textures _, t                => t = none
  | .textureTypes _, _            => True
  | .textureStageStates i j, v    => v = textureStageState i j
  | .samplerStates _ j, v         => (j : Nat) < D3DSAMP_DMAPOFFSET → v = samplerState j
  | .scissorRect, _               => True
  | .vertexDecl, o                => o = none
  | .vertexShader, o              => o = none
  | .vsF _, v                     => v = fun _ => 0
  | .vsI _, _                     => True
  | .vsB _, _                     => True
  | .streams _, o                 => o = none
  | .streamFreqs _, v             => v = 1
  | .streamOffsets _, v           => v = 0
  | .streamStrides _, v           => v = 0
  | .indices, o                   => o = none
  | .pixelShader, o               => o = none
  | .psF _, v                     => v = fun _ => 0
  | .psI _, _                     => True
  | .psB _, _                     => True

end D3D9

/-! ### What the setters compare with -/

/-- The entries with which a setter compares what it is given. -/
def Slot.compared : Slot → Bool
  | .renderTargets _ | .depthStencil | .material | .clipPlanes _ _ | .textureTypes _
  | .scissorRect | .vsI _ | .vsB _ | .psI _ | .psB _ => false
  | .textureStageStates i _ => decide ((i : Nat) < caps.MaxSimultaneousTextures)
  | .vsF i => decide ((i : Nat) < caps.MaxFloatConstantsVS)
  | _ => true

/-- The entries have the defaults. -/
def HasDefaults (maxPointSize : Word) (presParam : D3DPRESENT_PARAMETERS) (s : State) : Prop :=
  ∀ k : Slot, k.compared = true → D3D9.IsDefault maxPointSize presParam k (s k)

section
variable {elim : Bool} {mul : D3DMATRIX → D3DMATRIX → D3DMATRIX} {d d' : LssDevice}

theorem fst_set (hd : d.mStateRecording = none) (recordedHas : StateBlock → Bool)
    (deviceHas : State → Bool) (update : State → State) (fs : List Flag) :
    (d.set recordedHas deviceHas update fs).1 =
      if deviceHas d.mState then Section.redundant else Section.written := by
  unfold LssDevice.set
  rw [hd]
  dsimp only
  split
  · rfl
  · rfl

theorem fst_set_congr (hd : d.mStateRecording = none) (hd' : d'.mStateRecording = none)
    {recordedHas : StateBlock → Bool} {deviceHas : State → Bool} {update : State → State}
    {fs : List Flag} (h : deviceHas d.mState = deviceHas d'.mState) :
    (d.set recordedHas deviceHas update fs).1 = (d'.set recordedHas deviceHas update fs).1 := by
  rw [fst_set hd, fst_set hd', h]

theorem fst_setEntry_congr (hd : d.mStateRecording = none) (hd' : d'.mStateRecording = none)
    {elimRecorded elimDevice : Bool} {f : Flag} {k : Slot} {v : k.Val}
    (h : elimDevice = false ∨ d.mState k = d'.mState k) :
    (d.setEntry elimRecorded elimDevice f k v).1 =
      (d'.setEntry elimRecorded elimDevice f k v).1 := by
  refine fst_set_congr hd hd' ?_
  rcases h with h | h
  · rw [h]
    rfl
  · rw [h]

theorem map_fst_congr {α β γ : Type} {o : Option α} {g g' : α → β × γ}
    (h : ∀ a, o = some a → (g a).1 = (g' a).1) : (o.map g).map (·.1) = (o.map g').map (·.1) := by
  cases o with
  | none => rfl
  | some a => exact congrArg some (h a rfl)

theorem mapM_mem {α β : Type} {f : α → Option β} {l : List α} {rs : List β}
    (h : l.mapM f = some rs) {a : α} (ha : a ∈ l) : ∃ b, f a = some b := by
  induction l generalizing rs with
  | nil => cases ha
  | cons a' l ih =>
      simp only [List.mapM_cons, Option.bind_eq_bind, Option.bind_eq_some_iff, Option.pure_def,
        Option.some.injEq] at h
      obtain ⟨b, hb, rs', hrs', -⟩ := h
      rcases List.mem_cons.mp ha with rfl | ha
      · exact ⟨b, hb⟩
      · exact ih hrs' ha

/-- The registers that are compared with are those of the hardware. -/
theorem registers_lt {n regCountHardware : Nat} {startRegister count : Word} {adjCount : Nat}
    (hn : regCountHardware ≤ n) (hn' : n < 2 ^ 31)
    (hadj : commonGetSetConstants (BitVec.ofNat 32 regCountHardware) (BitVec.ofNat 32 n)
      startRegister count = some adjCount) {rs : List (Fin n × Nat)}
    (hrs : ((List.range adjCount).mapM fun i =>
      (index n (BitVec.ofNat 32 (startRegister.toNat + i))).map fun r => (r, i)) = some rs) :
    ∀ p ∈ rs, p.1.val < regCountHardware := by
  intro p hp
  have hfilter := mapM_filterMap hrs
  rw [← hfilter] at hp
  obtain ⟨i, hi, hpi⟩ := List.mem_filterMap.mp hp
  obtain ⟨r, hr, rfl⟩ := Option.map_eq_some_iff.mp hpi
  have hlt : i < adjCount := List.mem_range.mp hi
  -- the first register of the loop is in the array, so the range does not wrap
  obtain ⟨b, hb⟩ := mapM_mem hrs (List.mem_range.mpr (by omega : 0 < adjCount))
  obtain ⟨r₀, hr₀, -⟩ := Option.map_eq_some_iff.mp hb
  have hstart : startRegister.toNat < n := by
    by_contra hnot
    rw [Nat.add_zero, BitVec.ofNat_toNat, BitVec.setWidth_eq, index, dif_neg hnot] at hr₀
    cases hr₀
  have hle : ¬ startRegister + count > BitVec.ofNat 32 n := by
    intro hgt
    rw [commonGetSetConstants, if_pos hgt] at hadj
    cases hadj
  rw [commonGetSetConstants_eq hstart.le hle hn hn'] at hadj
  have hsum := Option.some.inj hadj
  have hreg : (BitVec.ofNat 32 (startRegister.toNat + i)).toNat = startRegister.toNat + i := by
    rw [BitVec.toNat_ofNat]
    exact Nat.mod_eq_of_lt (by omega)
  unfold index at hr
  split at hr
  · cases hr
    show (BitVec.ofNat 32 (startRegister.toNat + i)).toNat < regCountHardware
    omega
  · cases hr

theorem fst_setShaderConstants_congr (hd : d.mStateRecording = none)
    (hd' : d'.mStateRecording = none) {n regCountHardware : Nat} {startRegister count : Word}
    {same : Fin n → Nat → State → Bool} {eliminates : Bool} {set : Fin n → Nat → State → State}
    {f : Fin n → Flag} (hn : regCountHardware ≤ n) (hn' : n < 2 ^ 31)
    (h : eliminates = false ∨
      ∀ r i, r.val < regCountHardware → same r i d.mState = same r i d'.mState) :
    (setShaderConstants n regCountHardware d startRegister count same eliminates set f).map (·.1) =
      (setShaderConstants n regCountHardware d' startRegister count same eliminates set f).map
        (·.1) := by
  unfold setShaderConstants
  split
  · rfl
  · rename_i adjCount hadj
    split
    · rfl
    · refine map_fst_congr fun rs hrs => fst_set_congr hd hd' ?_
      rcases h with rfl | h
      · rfl
      · have hlt := registers_lt hn hn' hadj hrs
        have hall : (rs.all fun p => same p.1 p.2 d.mState) =
            rs.all fun p => same p.1 p.2 d'.mState := by
          rw [Bool.eq_iff_iff, List.all_eq_true, List.all_eq_true]
          exact forall₂_congr fun p hp => by rw [h p.1 p.2 (hlt p hp)]
        rw [hall]

theorem fst_setVec4s_congr (hd : d.mStateRecording = none) (hd' : d'.mStateRecording = none)
    {n regCountHardware : Nat} {slot : Fin n → Slot} {val : ∀ i, Vec4 → (slot i).Val}
    {f : Fin n → Flag} {eliminates : Bool} {startRegister count : Word}
    {pConstantData : Option (List Vec4)} (hn : regCountHardware ≤ n) (hn' : n < 2 ^ 31)
    (h : eliminates = false ∨
      ∀ r, r.val < regCountHardware → d.mState (slot r) = d'.mState (slot r)) :
    (setVec4s n regCountHardware slot val f eliminates d startRegister pConstantData count).map
        (·.1) =
      (setVec4s n regCountHardware slot val f eliminates d' startRegister pConstantData count).map
        (·.1) := by
  cases pConstantData with
  | none => rfl
  | some data =>
      unfold setVec4s
      dsimp only
      refine fst_setShaderConstants_congr hd hd' hn hn' (h.imp id fun h r i hr => ?_)
      rw [h r hr]

theorem index_val {n : Nat} {i : Word} {k : Fin n} (h : index n i = some k) : k.val = i.toNat := by
  unfold index at h
  split at h
  · cases h
    rfl
  · cases h

/-- **The entries that are compared with.**  Where no block is recorded, two states with the same
values of these make every setter redundant or not alike. -/
theorem section_congr (hd : d.mStateRecording = none) (hd' : d'.mStateRecording = none)
    (h : ∀ k : Slot, k.compared = true → d.mState k = d'.mState k) (c : Setter) :
    (c.call elim mul d).map (·.1) = (c.call elim mul d').map (·.1) := by
  have hentry {elimRecorded : Bool} {elimDevice : Bool} {f : Flag} {k : Slot} {v : k.Val}
      (hk : elimDevice = false ∨ k.compared = true) :
      (d.setEntry elimRecorded elimDevice f k v).1 =
        (d'.setEntry elimRecorded elimDevice f k v).1 :=
    fst_setEntry_congr hd hd' (hk.imp id (h k))
  cases c with
  | SetTransform type m =>
      cases m with
      | none => rfl
      | some m =>
          simp only [Setter.call, Device.SetTransform]
          split
          · exact map_fst_congr fun _ _ => hentry (.inr rfl)
          · rfl
  | MultiplyTransform type m =>
      cases m with
      | none => rfl
      | some m => 
          simp only [Setter.call, Device.MultiplyTransform]
          refine map_fst_congr fun _ _ => ?_
          unfold LssDevice.setEntry
          rw [fst_set hd, fst_set hd']
          rfl
  | SetViewport v =>
      cases v with
      | none => rfl
      | some v => exact congrArg some (hentry (.inr rfl))
  | SetMaterial m =>
      cases m with
      | none => rfl
      | some m => exact congrArg some (hentry (.inl rfl))
  | SetScissorRect r =>
      cases r with
      | none => rfl
      | some r => exact congrArg some (hentry (.inl rfl))
  | SetLight key l =>
      cases l with
      | none => rfl
      | some l =>
          have hlight : d.mState.light key = d'.mState.light key := by
            rw [State.light, State.light, h (.lights key) rfl]
          simp only [Setter.call, Device.SetLight, hd, hd', hlight]
          split
          · rfl
          · rfl
  | LightEnable key b =>
      have hlight : d.mState.lightEnable key = d'.mState.lightEnable key := by
        rw [State.lightEnable, State.lightEnable, h (.bLightEnables key) rfl]
      simp only [Setter.call, Device.LightEnable, hd, hd', hlight]
      split
      · rfl
      · rfl
  | SetClipPlane idx p =>
      cases p with
      | none => rfl
      | some p => exact map_fst_congr fun _ _ => fst_set_congr hd hd' rfl
  | SetRenderState state value => exact map_fst_congr fun _ _ => hentry (.inr rfl)
  | SetTexture stage t =>
      have hwrite (objectRef : D3DAutoPtr) (type : Word) :
          ((index kNumStageSamplers (mapSamplerStageToIdx stage)).map fun i =>
            d.set (fun _ => false) (fun s => elim && decide (s (.textures i) = objectRef))
              (fun s => Function.update (Function.update s (.textures i) objectRef)
                (.textureTypes i) type) [.textures i]).map (·.1) =
            ((index kNumStageSamplers (mapSamplerStageToIdx stage)).map fun i =>
              d'.set (fun _ => false) (fun s => elim && decide (s (.textures i) = objectRef))
                (fun s => Function.update (Function.update s (.textures i) objectRef)
                  (.textureTypes i) type) [.textures i]).map (·.1) := by
        refine map_fst_congr fun i _ => fst_set_congr hd hd' ?_
        rw [h (.textures i) rfl]
      simp only [Setter.call, Device.SetTexture]
      split
      · rfl
      · split
        · exact hwrite _ _
        · split
          · exact hwrite _ _
          · rfl
  | SetTextureStageState stage type v =>
      simp only [Setter.call, Device.SetTextureStageState]
      split
      · rfl
      · rename_i hstage
        split
        · rfl
        · refine map_fst_congr fun i hi => hentry (.inr ?_)
          have hlow : ¬ D3DDMAPSAMPLER ≤ stage := by
            rw [BitVec.le_def]
            show ¬ 256 ≤ stage.toNat
            have hlt : stage.toNat < 8 := Nat.lt_of_not_le hstage
            omega
          rw [mapSamplerStageToIdx, if_neg hlow] at hi
          refine decide_eq_true ?_
          rw [index_val hi]
          exact Nat.lt_of_not_le hstage
  | SetSamplerState sampler type v =>
      simp only [Setter.call, Device.SetSamplerState]
      split
      · rfl
      · split
        · rfl
        · exact map_fst_congr fun _ _ => hentry (.inr rfl)
  | SetRenderTarget idx t => exact map_fst_congr fun _ _ => rfl
  | SetDepthStencilSurface z => rfl
  | SetVertexDeclaration decl =>
      simp only [Setter.call, Device.SetVertexDeclaration, hd, hd', h .vertexDecl rfl]
      split
      · rfl
      · rfl
  | SetFVF fvf => rfl
  | SetVertexShader sh => exact congrArg some (hentry (.inr rfl))
  | SetPixelShader sh => exact congrArg some (hentry (.inr rfl))
  | SetIndices ib => exact congrArg some (hentry (.inr rfl))
  | SetStreamSource i vb offset stride =>
      refine map_fst_congr fun i _ => fst_set_congr hd hd' ?_
      rw [h (.streams i) rfl, h (.streamOffsets i) rfl, h (.streamStrides i) rfl]
  | SetStreamSourceFreq i divider => exact map_fst_congr fun _ _ => hentry (.inr rfl)
  | SetVertexShaderConstantF r data n =>
      simp only [Setter.call, Device.SetVertexShaderConstantF]
      exact fst_setVec4s_congr hd hd' (by decide) (by decide)
        (.inr fun r hr => h (.vsF r) (decide_eq_true hr))
  | SetPixelShaderConstantF r data n =>
      simp only [Setter.call, Device.SetPixelShaderConstantF]
      exact fst_setVec4s_congr hd hd' (by decide) (by decide) (.inr fun r _ => h (.psF r) rfl)
  | SetVertexShaderConstantI r data n =>
      simp only [Setter.call, Device.SetVertexShaderConstantI]
      exact fst_setVec4s_congr hd hd' (by decide) (by decide) (.inl rfl)
  | SetPixelShaderConstantI r data n =>
      simp only [Setter.call, Device.SetPixelShaderConstantI]
      exact fst_setVec4s_congr hd hd' (by decide) (by decide) (.inl rfl)
  | SetVertexShaderConstantB r data n =>
      simp only [Setter.call, Device.SetVertexShaderConstantB]
      split
      · rfl
      · exact fst_setShaderConstants_congr hd hd' (by decide) (by decide) (.inl rfl)
  | SetPixelShaderConstantB r data n =>
      simp only [Setter.call, Device.SetPixelShaderConstantB]
      split
      · rfl
      · exact fst_setShaderConstants_congr hd hd' (by decide) (by decide) (.inl rfl)

end

/-! ### What `ResetState` gives its default -/

theorem resetRenderStates_eq (i : Fin kNumRenderStates) (hi : (i : Nat) ≠ 166) :
    resetRenderStates.lookup (i : Nat) = D3D9.renderStates.lookup (i : Nat) := by
  revert i
  decide +kernel

theorem resetRenderStates_pointSizeMax : resetRenderStates.lookup 166 = some float8192 := by
  decide +kernel

theorem resetTextureStageState_eq (i : Fin kNumStageSamplers) (j : Fin kMaxTexStageStateTypes) :
    resetTextureStageState i j = D3D9.textureStageState i j := by
  revert i j
  decide +kernel

theorem resetSamplerState_eq (j : Fin kMaxStageSamplerStateTypes)
    (hj : (j : Nat) < D3DSAMP_DMAPOFFSET) :
    resetSamplerState[(j : Nat)]? = some (D3D9.samplerState j) := by
  revert j
  decide +kernel

/-! ### A reset -/

/-- What a `Reset` leaves as it was has its default. -/
structure Kept (presParam : D3DPRESENT_PARAMETERS) (s : State) : Prop where
  transforms (i : Fin caps.MaxTransforms) : s (.transforms i) = identityMatrix
  viewport : s .viewport = fullViewport presParam
  lights (key : Word) : s (.lights key) = none
  lightEnables (key : Word) : MaxEnabledLights ≤ key.toNat → s.lightEnable key = false
  vsF (i : Fin caps.MaxFloatConstantsSoftware) : (i : Nat) < caps.MaxFloatConstantsVS →
    s (.vsF i) = fun _ => 0
  psF (i : Fin caps.MaxFloatConstantsPS) : s (.psF i) = fun _ => 0
  streamOffsets (i : Fin caps.MaxStreams) : s (.streamOffsets i) = 0
  streamStrides (i : Fin caps.MaxStreams) : s (.streamStrides i) = 0

/-- The device has no depth stencil of its own, its points are as large as `ResetState` has them,
and the rest has its default. -/
def ResetsToDefaults (maxPointSize : Word) (presParam : D3DPRESENT_PARAMETERS) (s : State) :
    Prop :=
  presParam.EnableAutoDepthStencil = 0 ∧ maxPointSize = float8192 ∧ Kept presParam s

section
variable {maxPointSize : Word} {presParam : D3DPRESENT_PARAMETERS} {renderTarget depthStencil : Nat}
  {d : LssDevice}

theorem reset_iff :
    HasDefaults maxPointSize presParam (d.Reset presParam renderTarget depthStencil).mState ↔
      ResetsToDefaults maxPointSize presParam d.mState := by
  constructor
  · intro h
    refine ⟨?_, ?_, ?_⟩
    · have hz := h (.renderStates 7) rfl
      have hz' : (0 : Word) = if presParam.EnableAutoDepthStencil ≠ 0 then 1 else 0 := hz _ rfl
      by_contra hne
      rw [if_pos hne] at hz'
      cases hz'
    · have hp := h (.renderStates 166) rfl
      have hread : (resetRenderStates.lookup 166).getD (d.mState (.renderStates 166)) =
          maxPointSize := hp maxPointSize rfl
      rw [resetRenderStates_pointSizeMax] at hread
      exact hread.symm
    · refine ⟨fun i => h (.transforms i) rfl, h .viewport rfl, fun key => h (.lights key) rfl,
        fun key hkey => ?_, fun i hi => h (.vsF i) (decide_eq_true hi), fun i => h (.psF i) rfl,
        fun i => h (.streamOffsets i) rfl, fun i => h (.streamStrides i) rfl⟩
      have hl : (if key.toNat < MaxEnabledLights then some false
        else d.mState (.bLightEnables key)).getD false = false := h (.bLightEnables key) rfl
      rw [if_neg (Nat.not_lt_of_le hkey)] at hl
      exact hl
  · rintro ⟨hdepth, hpoint, hkept⟩ k hk
    cases k with
    | renderStates i =>
        intro w hw
        show (if (i : Nat) = 7 then (if (none : Option Word).getD 0 ≠ 0 then 1 else 0)
          else (resetRenderStates.lookup (i : Nat)).getD (d.mState (.renderStates i))) = w
        rw [D3D9.renderState, hdepth, hpoint] at hw
        by_cases h7 : (i : Nat) = 7
        · rw [if_pos h7] at hw ⊢
          exact Option.some.inj hw
        · rw [if_neg h7] at hw ⊢
          by_cases h166 : (i : Nat) = 166
          · rw [if_pos h166] at hw
            rw [h166, resetRenderStates_pointSizeMax]
            exact Option.some.inj hw
          · rw [if_neg h166] at hw
            rw [resetRenderStates_eq i h166, hw]
            rfl
    | textureStageStates i j => exact resetTextureStageState_eq i j
    | samplerStates i j =>
        intro hj
        exact congrArg (Option.getD · _) (resetSamplerState_eq j hj)
    | bLightEnables key =>
        show (if key.toNat < MaxEnabledLights then some false
          else d.mState (.bLightEnables key)).getD false = false
        split
        · rfl
        · rename_i hkey
          exact hkept.lightEnables key (Nat.le_of_not_lt hkey)
    | transforms i => exact hkept.transforms i
    | viewport => exact hkept.viewport
    | lights key => exact hkept.lights key
    | vsF i => exact hkept.vsF i (of_decide_eq_true hk)
    | psF i => exact hkept.psF i
    | streamOffsets i => exact hkept.streamOffsets i
    | streamStrides i => exact hkept.streamStrides i
    | textures _ | vertexDecl | vertexShader | streams _ | streamFreqs _ | indices | pixelShader =>
        rfl
    | renderTargets _ | depthStencil | material | clipPlanes _ _ | textureTypes _ | scissorRect
    | vsI _ | vsB _ | psI _ | psB _ => cases hk

/-! ### A new device -/

/-- The last ten transforms of a new device are zero. -/
theorem createDevice_transforms (memory : State) (blocks : Nat → StateBlock)
    {i : Fin caps.MaxTransforms} (hi : 256 ≤ (i : Nat)) :
    (createDevice memory blocks presParam renderTarget depthStencil).mState (.transforms i) =
      zeroMatrix :=
  if_neg (Nat.not_lt_of_le hi)

theorem identityMatrix_ne_zero : zeroMatrix ≠ identityMatrix := by
  intro h
  have hfirst : (0 : Word) = float1 := congrFun h 0
  cases hfirst

theorem createDevice_not_default (memory : State) (blocks : Nat → StateBlock) :
    ¬ HasDefaults maxPointSize presParam
      (createDevice memory blocks presParam renderTarget depthStencil).mState := by
  intro h
  have hlast : (256 : Nat) < caps.MaxTransforms := by decide
  have hdefault := h (.transforms ⟨256, hlast⟩) rfl
  exact identityMatrix_ne_zero ((createDevice_transforms memory blocks le_rfl).symm.trans hdefault)

end

/-! ### Runs -/

inductive SetOrReset where
  | set (c : Setter)
  | Reset (pPresentationParameters : D3DPRESENT_PARAMETERS) (clientArea : Word × Word)
      (renderTarget depthStencil : Nat)

namespace SetOrReset

variable (forceWindowed : Bool) (maxPointSize : Word) (d : LssDevice)

def step (elim : Bool) (mul : D3DMATRIX → D3DMATRIX → D3DMATRIX) :
    SetOrReset → Option LssDevice
  | set c => (c.call elim mul d).map (·.2)
  | Reset params area rt ds =>
      some (d.Reset (sanitizePresentationParameters forceWindowed area params) rt ds)

/-- Behind a `Reset` the entries have their defaults. -/
def GivesDefaults : SetOrReset → Prop
  | set _ => True
  | Reset params area rt ds =>
      let presParam := sanitizePresentationParameters forceWindowed area params
      HasDefaults maxPointSize presParam (d.Reset presParam rt ds).mState

/-- What a `Reset` needs for that, before it. -/
def MeetsDefaults : SetOrReset → Prop
  | set _ => True
  | Reset params area _ _ =>
      ResetsToDefaults maxPointSize (sanitizePresentationParameters forceWindowed area params)
        d.mState

end SetOrReset

/-- `CreateDevice`. -/
def newDevice (forceWindowed : Bool) (memory : State) (blocks : Nat → StateBlock)
    (params : D3DPRESENT_PARAMETERS) (clientArea : Word × Word) (renderTarget depthStencil : Nat) :
    LssDevice :=
  createDevice memory blocks (sanitizePresentationParameters forceWindowed clientArea params)
    renderTarget depthStencil

/-- **A new device never has the defaults in all the entries that setters are compared with.**  In a
run of setters and `Reset`s every `Reset` gives them if and only if each is made without a depth
stencil, on a device with the largest point size of 8192, and where the transforms, the viewport,
the lights, the constants and the stream offsets have the defaults already. -/
theorem defaults_iff (forceWindowed elim : Bool) (mul : D3DMATRIX → D3DMATRIX → D3DMATRIX)
    (maxPointSize : Word) (memory : State) (blocks : Nat → StateBlock)
    (params : D3DPRESENT_PARAMETERS) (clientArea : Word × Word) (renderTarget depthStencil : Nat)
    (cs : List SetOrReset) :
    ¬ HasDefaults maxPointSize (sanitizePresentationParameters forceWindowed clientArea params)
        (newDevice forceWindowed memory blocks params clientArea renderTarget
          depthStencil).mState ∧
    (Along (fun d c => c.step forceWindowed d elim mul)
        (fun d c => c.GivesDefaults forceWindowed maxPointSize d)
        (newDevice forceWindowed memory blocks params clientArea renderTarget depthStencil) cs ↔
      Along (fun d c => c.step forceWindowed d elim mul)
        (fun d c => c.MeetsDefaults forceWindowed maxPointSize d)
        (newDevice forceWindowed memory blocks params clientArea renderTarget
          depthStencil) cs) := by
  refine ⟨createDevice_not_default memory blocks, ?_⟩
  refine along_iff (I := fun _ => True) (fun d c _ => ?_) (fun _ _ _ _ _ _ => trivial) trivial cs
  cases c with
  | set c => exact Iff.rfl
  | Reset params area rt ds => exact reset_iff

/-- 640 by 480, in a window. -/
def windowed640 : D3DPRESENT_PARAMETERS := ⟨640, 480, 1, 0⟩

def noFlags : StateCaptureDirtyFlags := ⟨fun _ => false, [], []⟩

def new640 : LssDevice :=
  newDevice false .cleared (fun _ => ⟨noFlags, .cleared, buildPlan noFlags⟩) windowed640 (640, 480)
    1 2

/-- A view matrix that is set before a `Reset` is still in the shadow behind it, and is not sent
again. -/
theorem view_not_reset :
    ∃ d, run (fun d c => SetOrReset.step false d true (fun m _ => m) c) new640
        [.set (.SetTransform D3DTS_VIEW (some zeroMatrix)), .Reset windowed640 (640, 480) 3 4] =
          some d ∧
      d.mState (.transforms 0) = zeroMatrix ∧ zeroMatrix ≠ identityMatrix ∧
      (Setter.SetTransform D3DTS_VIEW (some zeroMatrix)).call true (fun m _ => m) d =
        some (.redundant, d) :=
  ⟨_, rfl, rfl, identityMatrix_ne_zero, rfl⟩

end RemixBridge.Device
