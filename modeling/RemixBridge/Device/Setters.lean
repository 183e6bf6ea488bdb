import RemixBridge.Device.StateBlock

/-!
# Device — Setters

What the state setters of a device (`d3d9_device.cpp`) do to its shadow state, in the section they
hold the device lock for: a setter refuses its arguments, finds itself redundant, or writes.  While
a state block is recorded it writes to the block and flags the entry there.

An index past the end of its array, which the code does not always test, has no defined effect: the
setter is `none` there.
-/

namespace RemixBridge.Device
open Loops

/-- A `Direct3DStateBlock9_LSS`. -/
structure StateBlock where
  mDirtyFlags : StateCaptureDirtyFlags
  mCaptureState : State
  mPlan : TransferPlan

/-- A `BaseDirect3DDevice9Ex_LSS` and its state blocks, by address; `mStateRecording` is the block
being recorded. -/
structure LssDevice where
  mState : State
  mStateRecording : Option Nat
  blocks : Nat → StateBlock

/-- What the locked section of a setter tells the rest of the call. -/
inductive Section where
  | rejected
  | redundant
  | written
  deriving DecidableEq, Repr

/-! ### Writing -/

def StateCaptureDirtyFlags.set (flags : StateCaptureDirtyFlags) (fs : List Flag) :
    StateCaptureDirtyFlags :=
  { flags with flag := fun f => decide (f ∈ fs) || flags.flag f }

/-- `map[key] = value`. -/
def setKey (m : List (Word × Bool)) (key : Word) (value : Bool) : List (Word × Bool) :=
  if m.any (·.1 == key) then m.map fun e => if e.1 == key then (key, value) else e
  else m ++ [(key, value)]

/-- `map[key]`, which inserts `false`. -/
def getKey (m : List (Word × Bool)) (key : Word) : Bool :=
  ((m.find? (·.1 == key)).map (·.2)).getD false

def touchKey (m : List (Word × Bool)) (key : Word) : List (Word × Bool) :=
  setKey m key (getKey m key)

/-- A device with another block at address `sb`. -/
def LssDevice.putBlock (d : LssDevice) (sb : Nat) (b : StateBlock) : LssDevice :=
  { d with blocks := Function.update d.blocks sb b }

/-- The section of a setter that writes `update` and flags `fs`, unless the recorded block or the
device has the values already. -/
def LssDevice.set (d : LssDevice) (recordedHas : StateBlock → Bool) (deviceHas : State → Bool)
    (update : State → State) (fs : List Flag) : Section × LssDevice :=
  match d.mStateRecording with
  | some sb =>
      let b := d.blocks sb
      if recordedHas b then (.redundant, d)
      else (.written, d.putBlock sb { b with
        mCaptureState := update b.mCaptureState
        mDirtyFlags := b.mDirtyFlags.set fs })
  | none =>
      if deviceHas d.mState then (.redundant, d)
      else (.written, { d with mState := update d.mState })

/-- The section of a setter of one entry; `elimRecorded` and `elimDevice` say whether it tests what
it writes to. -/
def LssDevice.setEntry (d : LssDevice) (elimRecorded elimDevice : Bool) (f : Flag) (k : Slot)
    (v : k.Val) : Section × LssDevice :=
  d.set (fun b => elimRecorded && b.mDirtyFlags.flag f && decide (b.mCaptureState k = v))
    (fun s => elimDevice && decide (s k = v)) (fun s => Function.update s k v) [f]

/-- An array index. -/
def index (n : Nat) (i : Word) : Option (Fin n) :=
  if h : i.toNat < n then some ⟨i.toNat, h⟩ else none

/-! ### Transforms, lights and the fixed pipeline -/

def D3DTS_VIEW : Word := 2
def D3DTS_PROJECTION : Word := 3
def D3DTS_TEXTURE0 : Word := 16
def D3DTS_TEXTURE7 : Word := 23
def D3DTS_WORLD : Word := 256

def mapXformStateTypeToIdx (type : Word) : Word :=
  if type = D3DTS_VIEW then 0
  else if type = D3DTS_PROJECTION then 1
  else if D3DTS_TEXTURE0 ≤ type ∧ type ≤ D3DTS_TEXTURE7 then 2 + (type - D3DTS_TEXTURE0)
  else 10 + (type - D3DTS_WORLD)

def isValidD3drtansformstatetype (type : Word) : Bool :=
  decide (type = D3DTS_VIEW) || decide (type = D3DTS_PROJECTION) ||
    decide (D3DTS_TEXTURE0 ≤ type ∧ type ≤ D3DTS_TEXTURE7) ||
    decide (D3DTS_WORLD ≤ type ∧ type < D3DTS_WORLD + 256)

def SetTransform (elim : Bool) (d : LssDevice) (type : Word) (pMatrix : Option D3DMATRIX) :
    Option (Section × LssDevice) :=
  match pMatrix with
  | none => some (.rejected, d)
  | some m =>
      if isValidD3drtansformstatetype type then
        (index caps.MaxTransforms (mapXformStateTypeToIdx type)).map fun i =>
          d.setEntry elim elim (.transforms i) (.transforms i) m
      else some (.rejected, d)

/-- `mul` is the product of two matrices of floats. -/
def MultiplyTransform (mul : D3DMATRIX → D3DMATRIX → D3DMATRIX) (d : LssDevice) (type : Word)
    (pMatrix : Option D3DMATRIX) : Option (Section × LssDevice) :=
  match pMatrix with
  | none => some (.rejected, d)
  | some m =>
      (index caps.MaxTransforms (mapXformStateTypeToIdx type)).map fun i =>
        let current := match d.mStateRecording with
          | some sb =>
              if (d.blocks sb).mDirtyFlags.flag (.transforms i) then
                (d.blocks sb).mCaptureState (.transforms i)
              else d.mState (.transforms i)
          | none => d.mState (.transforms i)
        d.setEntry false false (.transforms i) (.transforms i) (mul current m)

def SetViewport (elim : Bool) (d : LssDevice) (pViewport : Option D3DVIEWPORT9) :
    Option (Section × LssDevice) :=
  match pViewport with
  | none   => some (.rejected, d)
  | some v => some (d.setEntry false elim .viewport .viewport v)

def SetMaterial (d : LssDevice) (pMaterial : Option D3DMATERIAL9) : Option (Section × LssDevice) :=
  match pMaterial with
  | none   => some (.rejected, d)
  | some m => some (d.setEntry false false .material .material m)

def SetScissorRect (d : LssDevice) (pRect : Option RECT) : Option (Section × LssDevice) :=
  match pRect with
  | none   => some (.rejected, d)
  | some r => some (d.setEntry false false .scissorRect .scissorRect r)

/-- The tests of `SetLight` insert what they do not find. -/
def SetLight (elim : Bool) (d : LssDevice) (key : Word) (pLight : Option D3DLIGHT9) :
    Option (Section × LssDevice) :=
  match pLight with
  | none => some (.rejected, d)
  | some l =>
      match d.mStateRecording with
      | some sb =>
          let b := d.blocks sb
          if elim && getKey b.mDirtyFlags.lights key && decide (b.mCaptureState.light key = l) then
            some (.redundant, d.putBlock sb { b with
              mCaptureState := Function.update b.mCaptureState (.lights key) (some l) })
          else some (.written, d.putBlock sb { b with
            mCaptureState := Function.update b.mCaptureState (.lights key) (some l)
            mDirtyFlags := { b.mDirtyFlags with lights := setKey b.mDirtyFlags.lights key true } })
      | none =>
          if elim && decide (d.mState.light key = l) then
            some (.redundant, { d with mState := Function.update d.mState (.lights key) (some l) })
          else some (.written, { d with mState := Function.update d.mState (.lights key) (some l) })

def LightEnable (elim : Bool) (d : LssDevice) (key bEnable : Word) : Option (Section × LssDevice) :=
  let v := decide (bEnable ≠ 0)
  match d.mStateRecording with
  | some sb =>
      let b := d.blocks sb
      if elim && getKey b.mDirtyFlags.bLightEnables key &&
          decide (b.mCaptureState.lightEnable key = v) then
        some (.redundant, d.putBlock sb { b with
          mCaptureState := Function.update b.mCaptureState (.bLightEnables key) (some v) })
      else some (.written, d.putBlock sb { b with
        mCaptureState := Function.update b.mCaptureState (.bLightEnables key) (some v)
        mDirtyFlags := { b.mDirtyFlags with
          bLightEnables := setKey b.mDirtyFlags.bLightEnables key true } })
  | none =>
      if elim && decide (d.mState.lightEnable key = v) then
        some (.redundant, { d with
          mState := Function.update d.mState (.bLightEnables key) (some v) })
      else some (.written, { d with
        mState := Function.update d.mState (.bLightEnables key) (some v) })

def SetClipPlane (d : LssDevice) (idx : Word) (pPlane : Option (Fin 4 → Word)) :
    Option (Section × LssDevice) :=
  match pPlane with
  | none => some (.rejected, d)
  | some p => (index caps.MaxClipPlanes idx).map fun i =>
      d.set (fun _ => false) (fun _ => false)
        (fun s => (List.finRange 4).foldl
          (fun s j => Function.update s (.clipPlanes i j) (p j)) s) [.clipPlanes i]

def SetRenderState (elim : Bool) (d : LssDevice) (state value : Word) :
    Option (Section × LssDevice) :=
  (index kNumRenderStates state).map fun i =>
    d.setEntry elim elim (.renderStates i) (.renderStates i) value

/-! ### Textures and samplers -/

def D3DDMAPSAMPLER : Word := 256
def D3DVERTEXTEXTURESAMPLER3 : Word := 260
def D3DRTYPE_TEXTURE : Word := 3
def D3DRTYPE_VOLUMETEXTURE : Word := 4
def D3DRTYPE_CUBETEXTURE : Word := 5
def D3DRTYPE_FORCE_DWORD : Word := 0x7fffffff

def isInvalidSamplerStage (samplerStage : Word) : Bool :=
  decide (15 < samplerStage ∧ samplerStage < D3DDMAPSAMPLER) ||
    decide (D3DVERTEXTEXTURESAMPLER3 < samplerStage)

def mapSamplerStageToIdx (samplerStage : Word) : Word :=
  if D3DDMAPSAMPLER ≤ samplerStage then
    BitVec.ofNat 32 caps.MaxTexturesPS + (samplerStage - D3DDMAPSAMPLER)
  else samplerStage

/-- A texture is its object and its `GetType`. -/
def SetTexture (elim : Bool) (d : LssDevice) (stage : Word) (pTexture : Option (Nat × Word)) :
    Option (Section × LssDevice) :=
  if isInvalidSamplerStage stage then some (.rejected, d)
  else
    let write (objectRef : D3DAutoPtr) (type : Word) :=
      (index kNumStageSamplers (mapSamplerStageToIdx stage)).map fun i =>
        d.set (fun _ => false) (fun s => elim && decide (s (.textures i) = objectRef))
          (fun s => Function.update (Function.update s (.textures i) objectRef)
            (.textureTypes i) type) [.textures i]
    match pTexture with
    | none => write none D3DRTYPE_FORCE_DWORD
    | some (object, type) =>
        if type = D3DRTYPE_TEXTURE ∨ type = D3DRTYPE_CUBETEXTURE ∨
            type = D3DRTYPE_VOLUMETEXTURE then write (some object) type
        else some (.rejected, d)

/-- `TexStageStateTypeToIdx`, `none` where it returns `-1`. -/
def TexStageStateTypeToIdx (type : Word) : Option (Fin kMaxTexStageStateTypes) :=
  match type.toNat with
  | 1 => some 0    -- COLOROP
  | 2 => some 1    -- COLORARG1
  | 3 => some 2    -- COLORARG2
  | 4 => some 3    -- ALPHAOP
  | 5 => some 4    -- ALPHAARG1
  | 6 => some 5    -- ALPHAARG2
  | 7 => some 6    -- BUMPENVMAT00
  | 8 => some 7    -- BUMPENVMAT01
  | 9 => some 8    -- BUMPENVMAT10
  | 10 => some 9   -- BUMPENVMAT11
  | 11 => some 10  -- TEXCOORDINDEX
  | 22 => some 11  -- BUMPENVLSCALE
  | 23 => some 12  -- BUMPENVLOFFSET
  | 24 => some 13  -- TEXTURETRANSFORMFLAGS
  | 26 => some 14  -- COLORARG0
  | 27 => some 15  -- ALPHAARG0
  | 28 => some 16  -- RESULTARG
  | 32 => some 17  -- CONSTANT
  | _ => none

def SetTextureStageState (elim : Bool) (d : LssDevice) (stage type value : Word) :
    Option (Section × LssDevice) :=
  if caps.MaxSimultaneousTextures ≤ stage.toNat then some (.rejected, d)
  else match TexStageStateTypeToIdx type with
    | none => some (.rejected, d)
    | some j => (index kNumStageSamplers (mapSamplerStageToIdx stage)).map fun i =>
        d.setEntry elim elim (.textureStageStates i j) (.textureStageStates i j) value

def SetSamplerState (elim : Bool) (d : LssDevice) (sampler type value : Word) :
    Option (Section × LssDevice) :=
  if isInvalidSamplerStage sampler then some (.rejected, d)
  else match index kMaxStageSamplerStateTypes (type - 1) with
    | none => some (.rejected, d)
    | some j => (index kNumStageSamplers (mapSamplerStageToIdx sampler)).map fun i =>
        d.setEntry elim elim (.samplerStates i j) (.samplerStates i j) value

/-! ### Bound objects -/

/-- The render target and the depth stencil are written to the device, recording or not. -/
def SetRenderTarget (d : LssDevice) (idx : Word) (pRenderTarget : D3DAutoPtr) :
    Option (Section × LssDevice) :=
  (index caps.MaxSimultaneousRenderTargets idx).map fun i =>
    (.written, { d with mState := Function.update d.mState (.renderTargets i) pRenderTarget })

def SetDepthStencilSurface (d : LssDevice) (pNewZStencil : D3DAutoPtr) :
    Option (Section × LssDevice) :=
  some (.written, { d with mState := Function.update d.mState .depthStencil pNewZStencil })

/-- So is the vertex declaration; what is recorded does not matter. -/
def SetVertexDeclaration (elim : Bool) (d : LssDevice) (pDecl : D3DAutoPtr) :
    Option (Section × LssDevice) :=
  if elim && d.mStateRecording.isNone && decide (d.mState .vertexDecl = pDecl) then
    some (.redundant, d)
  else some (.written, { d with mState := Function.update d.mState .vertexDecl pDecl })

/-- `m_FVF` is not part of the state. -/
def SetFVF (d : LssDevice) (_FVF : Word) : Option (Section × LssDevice) := some (.written, d)

def SetVertexShader (elim : Bool) (d : LssDevice) (pShader : D3DAutoPtr) :
    Option (Section × LssDevice) :=
  some (d.setEntry false elim .vertexShader .vertexShader pShader)

def SetPixelShader (elim : Bool) (d : LssDevice) (pShader : D3DAutoPtr) :
    Option (Section × LssDevice) :=
  some (d.setEntry false elim .pixelShader .pixelShader pShader)

def SetIndices (elim : Bool) (d : LssDevice) (pIndexData : D3DAutoPtr) :
    Option (Section × LssDevice) :=
  some (d.setEntry false elim .indices .indices pIndexData)

def SetStreamSource (elim : Bool) (d : LssDevice) (streamNumber : Word) (pStreamData : D3DAutoPtr)
    (offsetInBytes stride : Word) : Option (Section × LssDevice) :=
  (index caps.MaxStreams streamNumber).map fun i =>
    d.set (fun _ => false)
      (fun s => elim && decide (s (.streams i) = pStreamData) && (pStreamData.isNone ||
        decide (s (.streamOffsets i) = offsetInBytes ∧ s (.streamStrides i) = stride)))
      (fun s =>
        let s := Function.update s (.streams i) pStreamData
        if pStreamData.isSome then
          Function.update (Function.update s (.streamOffsets i) offsetInBytes)
            (.streamStrides i) stride
        else s)
      (if pStreamData.isSome then [.streamOffsetsAndStrides i, .streams i] else [.streams i])

def SetStreamSourceFreq (elim : Bool) (d : LssDevice) (streamNumber divider : Word) :
    Option (Section × LssDevice) :=
  (index caps.MaxStreams streamNumber).map fun i =>
    d.setEntry false elim (.streamFreqs i) (.streamFreqs i) divider

/-! ### Shader constants -/

/-- `commonGetSetConstants`, on register counts of the hardware and of software processing: the
adjusted count, in `INT` arithmetic, or `none` for `D3DERR_INVALIDCALL`. -/
def commonGetSetConstants (regCountHardware regCountSoftware startRegister count : Word) :
    Option Nat :=
  if startRegister + count > regCountSoftware then none
  else
    let clamped := max 0 (min (count + startRegister).toInt regCountHardware.toInt)
    some (max (BitVec.ofInt 32 (clamped - startRegister.toInt)).toInt 0).toNat

/-- The section of `setShaderConstants` on an array of `n` registers; `set` copies a register from
the data, and `same` is the test of the float constants. -/
def setShaderConstants (n : Nat) (regCountHardware : Nat) (d : LssDevice)
    (startRegister count : Word) (same : Fin n → Nat → State → Bool) (eliminates : Bool)
    (set : Fin n → Nat → State → State) (f : Fin n → Flag) : Option (Section × LssDevice) :=
  match commonGetSetConstants (BitVec.ofNat 32 regCountHardware) (BitVec.ofNat 32 n)
      startRegister count with
  | none => some (.rejected, d)
  | some adjCount =>
      if adjCount = 0 then some (.written, d)
      else ((List.range adjCount).mapM fun i =>
          (index n (BitVec.ofNat 32 (startRegister.toNat + i))).map fun r => (r, i)).map fun rs =>
        d.set (fun _ => false) (fun s => eliminates && rs.all fun p => same p.1 p.2 s)
          (fun s => rs.foldl (fun s p => set p.1 p.2 s) s) (rs.map fun p => f p.1)

/-- The registers of the float and int constants. -/
def setVec4s (n regCountHardware : Nat) (slot : Fin n → Slot) (val : ∀ i, Vec4 → (slot i).Val)
    (f : Fin n → Flag) (eliminates : Bool) (d : LssDevice) (startRegister : Word)
    (pConstantData : Option (List Vec4)) (count : Word) : Option (Section × LssDevice) :=
  match pConstantData with
  | none => some (.rejected, d)
  | some data =>
      setShaderConstants n regCountHardware d startRegister count
        (fun r i s => decide (s (slot r) = val r (data.getD i fun _ => 0))) eliminates
        (fun r i s => Function.update s (slot r) (val r (data.getD i fun _ => 0))) f

def SetVertexShaderConstantF (elim : Bool) (d : LssDevice) (startRegister : Word)
    (pConstantData : Option (List Vec4)) (count : Word) : Option (Section × LssDevice) :=
  setVec4s caps.MaxFloatConstantsSoftware caps.MaxFloatConstantsVS .vsF (fun _ v => v) .vsF elim d
    startRegister pConstantData count

def SetVertexShaderConstantI (d : LssDevice) (startRegister : Word)
    (pConstantData : Option (List Vec4)) (count : Word) : Option (Section × LssDevice) :=
  setVec4s caps.MaxOtherConstantsSoftware caps.MaxOtherConstants .vsI (fun _ v => v) .vsI false d
    startRegister pConstantData count

def SetPixelShaderConstantF (elim : Bool) (d : LssDevice) (startRegister : Word)
    (pConstantData : Option (List Vec4)) (count : Word) : Option (Section × LssDevice) :=
  setVec4s caps.MaxFloatConstantsPS caps.MaxFloatConstantsPS .psF (fun _ v => v) .psF elim d
    startRegister pConstantData count

def SetPixelShaderConstantI (d : LssDevice) (startRegister : Word)
    (pConstantData : Option (List Vec4)) (count : Word) : Option (Section × LssDevice) :=
  setVec4s caps.MaxOtherConstants caps.MaxOtherConstants .psI (fun _ v => v) .psI false d
    startRegister pConstantData count

/-- One bool constant in its word. -/
def setBit (w : Word) (i : Nat) (v : Word) : Word :=
  let bit := 1#32 <<< (i % 32)
  if v ≠ 0 then w &&& ~~~bit ||| bit else w &&& ~~~bit

def SetVertexShaderConstantB (d : LssDevice) (startRegister : Word)
    (pConstantData : Option (List Word)) (count : Word) : Option (Section × LssDevice) :=
  match pConstantData with
  | none => some (.rejected, d)
  | some data =>
      setShaderConstants caps.MaxOtherConstantsSoftware caps.MaxOtherConstants d startRegister count
        (fun _ _ _ => false) false
        (fun r i s =>
          let arrayIdx := vsBWord r
          Function.update s (.vsB arrayIdx) (setBit (s (.vsB arrayIdx)) r (data.getD i 0))) .vsB

def SetPixelShaderConstantB (d : LssDevice) (startRegister : Word)
    (pConstantData : Option (List Word)) (count : Word) : Option (Section × LssDevice) :=
  match pConstantData with
  | none => some (.rejected, d)
  | some data =>
      setShaderConstants caps.MaxOtherConstants caps.MaxOtherConstants d startRegister count
        (fun _ _ _ => false) false
        (fun r i s =>
          let arrayIdx := psBWord r
          Function.update s (.psB arrayIdx) (setBit (s (.psB arrayIdx)) r (data.getD i 0))) .psB

/-! ### The calls -/

/-- A call of a state setter, with its arguments. -/
inductive Setter where
  | SetTransform (type : Word) (pMatrix : Option D3DMATRIX)
  | MultiplyTransform (type : Word) (pMatrix : Option D3DMATRIX)
  | SetViewport (pViewport : Option D3DVIEWPORT9)
  | SetMaterial (pMaterial : Option D3DMATERIAL9)
  | SetScissorRect (pRect : Option RECT)
  | SetLight (key : Word) (pLight : Option D3DLIGHT9)
  | LightEnable (key bEnable : Word)
  | SetClipPlane (idx : Word) (pPlane : Option (Fin 4 → Word))
  | SetRenderState (state value : Word)
  | SetTexture (stage : Word) (pTexture : Option (Nat × Word))
  | SetTextureStageState (stage type value : Word)
  | SetSamplerState (sampler type value : Word)
  | SetRenderTarget (idx : Word) (pRenderTarget : D3DAutoPtr)
  | SetDepthStencilSurface (pNewZStencil : D3DAutoPtr)
  | SetVertexDeclaration (pDecl : D3DAutoPtr)
  | SetFVF (FVF : Word)
  | SetVertexShader (pShader : D3DAutoPtr)
  | SetPixelShader (pShader : D3DAutoPtr)
  | SetIndices (pIndexData : D3DAutoPtr)
  | SetStreamSource (streamNumber : Word) (pStreamData : D3DAutoPtr) (offsetInBytes stride : Word)
  | SetStreamSourceFreq (streamNumber divider : Word)
  | SetVertexShaderConstantF (startRegister : Word) (pConstantData : Option (List Vec4))
      (count : Word)
  | SetVertexShaderConstantI (startRegister : Word) (pConstantData : Option (List Vec4))
      (count : Word)
  | SetVertexShaderConstantB (startRegister : Word) (pConstantData : Option (List Word))
      (count : Word)
  | SetPixelShaderConstantF (startRegister : Word) (pConstantData : Option (List Vec4))
      (count : Word)
  | SetPixelShaderConstantI (startRegister : Word) (pConstantData : Option (List Vec4))
      (count : Word)
  | SetPixelShaderConstantB (startRegister : Word) (pConstantData : Option (List Word))
      (count : Word)

/-- The section in which a setter writes. -/
def Setter.call (elim : Bool) (mul : D3DMATRIX → D3DMATRIX → D3DMATRIX) (d : LssDevice) :
    Setter → Option (Section × LssDevice)
  | SetTransform type m                => Device.SetTransform elim d type m
  | MultiplyTransform type m           => Device.MultiplyTransform mul d type m
  | SetViewport v                      => Device.SetViewport elim d v
  | SetMaterial m                      => Device.SetMaterial d m
  | SetScissorRect r                   => Device.SetScissorRect d r
  | SetLight key l                     => Device.SetLight elim d key l
  | LightEnable key b                  => Device.LightEnable elim d key b
  | SetClipPlane idx p                 => Device.SetClipPlane d idx p
  | SetRenderState state value         => Device.SetRenderState elim d state value
  | SetTexture stage t                 => Device.SetTexture elim d stage t
  | SetTextureStageState stage type v  => Device.SetTextureStageState elim d stage type v
  | SetSamplerState sampler type v     => Device.SetSamplerState elim d sampler type v
  | SetRenderTarget idx t              => Device.SetRenderTarget d idx t
  | SetDepthStencilSurface z           => Device.SetDepthStencilSurface d z
  | SetVertexDeclaration decl          => Device.SetVertexDeclaration elim d decl
  | SetFVF fvf                         => Device.SetFVF d fvf
  | SetVertexShader sh                 => Device.SetVertexShader elim d sh
  | SetPixelShader sh                  => Device.SetPixelShader elim d sh
  | SetIndices ib                      => Device.SetIndices elim d ib
  | SetStreamSource i vb offset stride => Device.SetStreamSource elim d i vb offset stride
  | SetStreamSourceFreq i divider      => Device.SetStreamSourceFreq elim d i divider
  | SetVertexShaderConstantF r data n  => Device.SetVertexShaderConstantF elim d r data n
  | SetVertexShaderConstantI r data n  => Device.SetVertexShaderConstantI d r data n
  | SetVertexShaderConstantB r data n  => Device.SetVertexShaderConstantB d r data n
  | SetPixelShaderConstantF r data n   => Device.SetPixelShaderConstantF elim d r data n
  | SetPixelShaderConstantI r data n   => Device.SetPixelShaderConstantI d r data n
  | SetPixelShaderConstantB r data n   => Device.SetPixelShaderConstantB d r data n

/-! ### What a setter leaves as it was -/

/-- What no setter changes: the block being recorded, the plan of a block, and anything of another
block. -/
structure SameBlocks (d d' : LssDevice) : Prop where
  recording : d'.mStateRecording = d.mStateRecording
  plan (sb : Nat) : (d'.blocks sb).mPlan = (d.blocks sb).mPlan
  other (sb : Nat) : d.mStateRecording ≠ some sb → d'.blocks sb = d.blocks sb

theorem SameBlocks.refl (d : LssDevice) : SameBlocks d d := ⟨rfl, fun _ => rfl, fun _ _ => rfl⟩

theorem sameBlocks_mState (d : LssDevice) (s : State) : SameBlocks d { d with mState := s } :=
  ⟨rfl, fun _ => rfl, fun _ _ => rfl⟩

theorem sameBlocks_putBlock {d : LssDevice} {sb : Nat} {b : StateBlock}
    (h : d.mStateRecording = some sb) (hp : b.mPlan = (d.blocks sb).mPlan) :
    SameBlocks d (d.putBlock sb b) := by
  refine ⟨rfl, fun sb' => ?_, fun sb' hne => ?_⟩
  · by_cases he : sb' = sb
    · subst he
      simpa [LssDevice.putBlock] using hp
    · simp [LssDevice.putBlock, he]
  · have he : sb' ≠ sb := fun he => hne (he ▸ h)
    simp [LssDevice.putBlock, he]

theorem sameBlocks_set (d : LssDevice) (recordedHas : StateBlock → Bool) (deviceHas : State → Bool)
    (update : State → State) (fs : List Flag) :
    SameBlocks d (d.set recordedHas deviceHas update fs).2 := by
  unfold LssDevice.set
  split
  · rename_i sb hsb
    dsimp only
    split
    · exact .refl d
    · exact sameBlocks_putBlock hsb rfl
  · split
    · exact .refl d
    · exact sameBlocks_mState d _

theorem sameBlocks_setEntry (d : LssDevice) (elimRecorded elimDevice : Bool) (f : Flag) (k : Slot)
    (v : k.Val) : SameBlocks d (d.setEntry elimRecorded elimDevice f k v).2 :=
  sameBlocks_set d _ _ _ _

theorem sameBlocks_map {α : Type} {d d' : LssDevice} {o : Option α} {g : α → Section × LssDevice}
    {r : Section} (hg : ∀ a, SameBlocks d (g a).2) (h : o.map g = some (r, d')) :
    SameBlocks d d' := by
  obtain ⟨a, -, ha⟩ := Option.map_eq_some_iff.mp h
  have := hg a
  rwa [ha] at this

theorem sameBlocks_some {d d' : LssDevice} {x : Section × LssDevice} {r : Section}
    (hx : SameBlocks d x.2) (h : some x = some (r, d')) : SameBlocks d d' := by
  cases h
  exact hx

theorem sameBlocks_setShaderConstants {n regCountHardware : Nat} {d d' : LssDevice}
    {startRegister count : Word} {same : Fin n → Nat → State → Bool} {eliminates : Bool}
    {set : Fin n → Nat → State → State} {f : Fin n → Flag} {r : Section}
    (h : setShaderConstants n regCountHardware d startRegister count same eliminates set f =
      some (r, d')) : SameBlocks d d' := by
  unfold setShaderConstants at h
  split at h
  · exact sameBlocks_some (.refl d) h
  · split at h
    · exact sameBlocks_some (.refl d) h
    · exact sameBlocks_map (fun _ => sameBlocks_set d _ _ _ _) h

theorem sameBlocks_setVec4s {n regCountHardware : Nat} {slot : Fin n → Slot}
    {val : ∀ i, Vec4 → (slot i).Val} {f : Fin n → Flag} {eliminates : Bool} {d d' : LssDevice}
    {startRegister count : Word} {pConstantData : Option (List Vec4)} {r : Section}
    (h : setVec4s n regCountHardware slot val f eliminates d startRegister pConstantData count =
      some (r, d')) : SameBlocks d d' := by
  unfold setVec4s at h
  split at h
  · exact sameBlocks_some (.refl d) h
  · exact sameBlocks_setShaderConstants h

theorem sameBlocks_SetLight {elim : Bool} {d d' : LssDevice} {key : Word}
    {pLight : Option D3DLIGHT9} {r : Section} (h : SetLight elim d key pLight = some (r, d')) : SameBlocks d d' := by
  unfold SetLight at h
  split at h
  · exact sameBlocks_some (.refl d) h
  · split at h
    · rename_i sb hsb
      dsimp only at h
      split at h <;>
      · refine sameBlocks_some ?_ h
        exact sameBlocks_putBlock hsb rfl
    · split at h <;> exact sameBlocks_some (sameBlocks_mState d _) h

theorem sameBlocks_LightEnable {elim : Bool} {d d' : LssDevice} {key bEnable : Word} {r : Section}
    (h : LightEnable elim d key bEnable = some (r, d')) : SameBlocks d d' := by
  unfold LightEnable at h
  dsimp only at h
  split at h
  · rename_i sb hsb
    split at h <;>
    · refine sameBlocks_some ?_ h
      exact sameBlocks_putBlock hsb rfl
  · split at h <;> exact sameBlocks_some (sameBlocks_mState d _) h

theorem sameBlocks_SetTexture {elim : Bool} {d d' : LssDevice} {stage : Word}
    {pTexture : Option (Nat × Word)} {r : Section}
    (h : SetTexture elim d stage pTexture = some (r, d')) : SameBlocks d d' := by
  unfold SetTexture at h
  dsimp only at h
  split at h
  · exact sameBlocks_some (.refl d) h
  · split at h
    · exact sameBlocks_map (fun _ => sameBlocks_set d _ _ _ _) h
    · split at h
      · exact sameBlocks_map (fun _ => sameBlocks_set d _ _ _ _) h
      · exact sameBlocks_some (.refl d) h

/-- **A setter and the blocks.**  Whatever its arguments, a setter writes to the device or to the
block being recorded, and touches no plan. -/
theorem sameBlocks_call {elim : Bool} {mul : D3DMATRIX → D3DMATRIX → D3DMATRIX} {d d' : LssDevice}
    {c : Setter} {r : Section} (h : c.call elim mul d = some (r, d')) : SameBlocks d d' := by
  cases c with
  | SetTransform type m =>
      simp only [Setter.call, Device.SetTransform] at h
      split at h
      · exact sameBlocks_some (.refl d) h
      · split at h
        · exact sameBlocks_map (fun _ => sameBlocks_setEntry d _ _ _ _ _) h
        · exact sameBlocks_some (.refl d) h
  | MultiplyTransform type m =>
      simp only [Setter.call, Device.MultiplyTransform] at h
      split at h
      · exact sameBlocks_some (.refl d) h
      · exact sameBlocks_map (fun _ => sameBlocks_setEntry d _ _ _ _ _) h
  | SetViewport v =>
      simp only [Setter.call, Device.SetViewport] at h
      split at h
      · exact sameBlocks_some (.refl d) h
      · exact sameBlocks_some (sameBlocks_setEntry d _ _ _ _ _) h
  | SetMaterial m =>
      simp only [Setter.call, Device.SetMaterial] at h
      split at h
      · exact sameBlocks_some (.refl d) h
      · exact sameBlocks_some (sameBlocks_setEntry d _ _ _ _ _) h
  | SetScissorRect rect =>
      simp only [Setter.call, Device.SetScissorRect] at h
      split at h
      · exact sameBlocks_some (.refl d) h
      · exact sameBlocks_some (sameBlocks_setEntry d _ _ _ _ _) h
  | SetLight key l => exact sameBlocks_SetLight h
  | LightEnable key b => exact sameBlocks_LightEnable h
  | SetClipPlane idx p =>
      simp only [Setter.call, Device.SetClipPlane] at h
      split at h
      · exact sameBlocks_some (.refl d) h
      · exact sameBlocks_map (fun _ => sameBlocks_set d _ _ _ _) h
  | SetRenderState state value =>
      exact sameBlocks_map (fun _ => sameBlocks_setEntry d _ _ _ _ _) h
  | SetTexture stage t => exact sameBlocks_SetTexture h
  | SetTextureStageState stage type v =>
      simp only [Setter.call, Device.SetTextureStageState] at h
      split at h
      · exact sameBlocks_some (.refl d) h
      · split at h
        · exact sameBlocks_some (.refl d) h
        · exact sameBlocks_map (fun _ => sameBlocks_setEntry d _ _ _ _ _) h
  | SetSamplerState sampler type v =>
      simp only [Setter.call, Device.SetSamplerState] at h
      split at h
      · exact sameBlocks_some (.refl d) h
      · split at h
        · exact sameBlocks_some (.refl d) h
        · exact sameBlocks_map (fun _ => sameBlocks_setEntry d _ _ _ _ _) h
  | SetRenderTarget idx t => exact sameBlocks_map (fun _ => sameBlocks_mState d _) h
  | SetDepthStencilSurface z => exact sameBlocks_some (sameBlocks_mState d _) h
  | SetVertexDeclaration decl =>
      simp only [Setter.call, Device.SetVertexDeclaration] at h
      split at h
      · exact sameBlocks_some (.refl d) h
      · exact sameBlocks_some (sameBlocks_mState d _) h
  | SetFVF fvf => exact sameBlocks_some (.refl d) h
  | SetVertexShader sh | SetPixelShader sh | SetIndices sh =>
      exact sameBlocks_some (sameBlocks_setEntry d _ _ _ _ _) h
  | SetStreamSource i vb offset stride =>
      exact sameBlocks_map (fun _ => sameBlocks_set d _ _ _ _) h
  | SetStreamSourceFreq i divider =>
      exact sameBlocks_map (fun _ => sameBlocks_setEntry d _ _ _ _ _) h
  | SetVertexShaderConstantF start data n =>
      rw [Setter.call, Device.SetVertexShaderConstantF] at h
      exact sameBlocks_setVec4s h
  | SetVertexShaderConstantI start data n =>
      rw [Setter.call, Device.SetVertexShaderConstantI] at h
      exact sameBlocks_setVec4s h
  | SetPixelShaderConstantF start data n =>
      rw [Setter.call, Device.SetPixelShaderConstantF] at h
      exact sameBlocks_setVec4s h
  | SetPixelShaderConstantI start data n =>
      rw [Setter.call, Device.SetPixelShaderConstantI] at h
      exact sameBlocks_setVec4s h
  | SetVertexShaderConstantB start data n =>
      simp only [Setter.call, Device.SetVertexShaderConstantB] at h
      split at h
      · exact sameBlocks_some (.refl d) h
      · exact sameBlocks_setShaderConstants h
  | SetPixelShaderConstantB start data n =>
      simp only [Setter.call, Device.SetPixelShaderConstantB] at h
      split at h
      · exact sameBlocks_some (.refl d) h
      · exact sameBlocks_setShaderConstants h

end RemixBridge.Device
