import RemixBridge.Wire.Commands
import Mathlib.Data.Fintype.Basic

/-!
# Device — Shadow

The state a device keeps for the getters, for the elimination of redundant setters and for state
blocks (`BaseDirect3DDevice9Ex_LSS::State`, `d3d9_device_base.h`), and the flags of a state block
(`StateCaptureDirtyFlags`).

A `State` is a value for each of its entries: `m_state.renderStates[i]` is `s (.renderStates i)`,
and an array element is a `Slot` of its own.  A structure of Direct3D is the words it consists of,
and an object pointer the object's id.
-/

namespace RemixBridge.Device

/-! ### Sizes -/

namespace caps

abbrev MaxClipPlanes := 6
abbrev MaxStreams := 16
abbrev MaxSimultaneousTextures := 8
abbrev MaxSimultaneousRenderTargets := 4
abbrev MaxFloatConstantsVS := 256
abbrev MaxFloatConstantsPS := 224
abbrev MaxOtherConstants := 16
abbrev MaxFloatConstantsSoftware := 8192
abbrev MaxOtherConstantsSoftware := 2048
abbrev MaxTransforms := 10 + 256
abbrev MaxTexturesVS := 4
abbrev MaxTexturesPS := 16

end caps

abbrev kNumRenderStates := 256
abbrev kNumStageSamplers := caps.MaxTexturesPS + caps.MaxTexturesVS + 1
abbrev kMaxTexStageStateTypes := 18
abbrev D3DSAMP_DMAPOFFSET := 13
abbrev kMaxStageSamplerStateTypes := D3DSAMP_DMAPOFFSET + 1

/-- The words of `bConsts` in `VertexConstants` and in `PixelConstants`. -/
abbrev vsBWords := caps.MaxOtherConstantsSoftware / 32
abbrev psBWords := max (caps.MaxOtherConstants / 32) 1

/-- The word that a bool constant is in. -/
def vsBWord (i : Fin caps.MaxOtherConstantsSoftware) : Fin vsBWords :=
  ⟨i / 32, Nat.div_lt_of_lt_mul i.isLt⟩

def psBWord (i : Fin caps.MaxOtherConstants) : Fin psBWords :=
  ⟨i / 32, Nat.div_lt_of_lt_mul (i.isLt.trans_le (by decide))⟩

@[simp]
theorem vsBWord_val (i : Fin caps.MaxOtherConstantsSoftware) : (vsBWord i : Nat) = i / 32 := rfl

@[simp]
theorem psBWord_val (i : Fin caps.MaxOtherConstants) : (psBWord i : Nat) = i / 32 := rfl

/-! ### Values -/

/-- A structure of `n` words. -/
abbrev Struct (n : Nat) := Fin n → Word

abbrev D3DMATRIX := Struct 16
abbrev D3DVIEWPORT9 := Struct 6
abbrev D3DMATERIAL9 := Struct 17
abbrev D3DLIGHT9 := Struct 26
abbrev RECT := Struct 4
abbrev Vec4 := Struct 4

/-- The object a pointer refers to. -/
abbrev D3DAutoPtr := Option Nat

/-! ### Entries -/

/-- The entries of `State`.  `vs` and `ps` are the members of `vertexConstants` and
`pixelConstants`; an entry of `lights` or `bLightEnables` is the map at a key. -/
inductive Slot where
  | renderTargets (i : Fin caps.MaxSimultaneousRenderTargets)
  | depthStencil
  | transforms (i : Fin caps.MaxTransforms)
  | viewport
  | material
  | lights (key : Word)
  | bLightEnables (key : Word)
  | clipPlanes (i : Fin caps.MaxClipPlanes) (j : Fin 4)
  | renderStates (i : Fin kNumRenderStates)
  | textures (i : Fin kNumStageSamplers)
  | textureTypes (i : Fin kNumStageSamplers)
  | textureStageStates (i : Fin kNumStageSamplers) (j : Fin kMaxTexStageStateTypes)
  | samplerStates (i : Fin kNumStageSamplers) (j : Fin kMaxStageSamplerStateTypes)
  | scissorRect
  | vertexDecl
  | vertexShader
  | vsF (i : Fin caps.MaxFloatConstantsSoftware)
  | vsI (i : Fin caps.MaxOtherConstantsSoftware)
  | vsB (d : Fin vsBWords)
  | streams (i : Fin caps.MaxStreams)
  | streamFreqs (i : Fin caps.MaxStreams)
  | streamOffsets (i : Fin caps.MaxStreams)
  | streamStrides (i : Fin caps.MaxStreams)
  | indices
  | pixelShader
  | psF (i : Fin caps.MaxFloatConstantsPS)
  | psI (i : Fin caps.MaxOtherConstants)
  | psB (d : Fin psBWords)
  deriving DecidableEq, Repr

/-- The type of an entry. -/
abbrev Slot.Val : Slot → Type
  | .renderTargets _ | .depthStencil | .textures _ | .vertexDecl | .vertexShader | .streams _
  | .indices | .pixelShader => D3DAutoPtr
  | .transforms _ => D3DMATRIX
  | .viewport => D3DVIEWPORT9
  | .material => D3DMATERIAL9
  | .lights _ => Option D3DLIGHT9
  | .bLightEnables _ => Option Bool
  | .scissorRect => RECT
  | .vsF _ | .vsI _ | .psF _ | .psI _ => Vec4
  | .clipPlanes _ _ | .renderStates _ | .textureTypes _ | .textureStageStates _ _
  | .samplerStates _ _ | .vsB _ | .streamFreqs _ | .streamOffsets _ | .streamStrides _ | .psB _ =>
      Word

instance : (k : Slot) → DecidableEq k.Val
  | .renderTargets _ | .depthStencil | .textures _ | .vertexDecl | .vertexShader | .streams _
  | .indices | .pixelShader => inferInstanceAs (DecidableEq D3DAutoPtr)
  | .transforms _ => inferInstanceAs (DecidableEq (Fin 16 → Word))
  | .viewport => inferInstanceAs (DecidableEq (Fin 6 → Word))
  | .material => inferInstanceAs (DecidableEq (Fin 17 → Word))
  | .lights _ => inferInstanceAs (DecidableEq (Option (Fin 26 → Word)))
  | .bLightEnables _ => inferInstanceAs (DecidableEq (Option Bool))
  | .scissorRect => inferInstanceAs (DecidableEq (Fin 4 → Word))
  | .vsF _ | .vsI _ | .psF _ | .psI _ => inferInstanceAs (DecidableEq (Fin 4 → Word))
  | .clipPlanes _ _ | .renderStates _ | .textureTypes _ | .textureStageStates _ _
  | .samplerStates _ _ | .vsB _ | .streamFreqs _ | .streamOffsets _ | .streamStrides _ | .psB _ =>
      inferInstanceAs (DecidableEq Word)

/-- `BaseDirect3DDevice9Ex_LSS::State`. -/
abbrev State := (k : Slot) → k.Val

/-- Nothing bound, and every word zero. -/
def State.cleared : State
  | .renderTargets _ | .depthStencil | .textures _ | .vertexDecl | .vertexShader | .streams _
  | .indices | .pixelShader | .lights _ | .bLightEnables _ => none
  | .transforms _ | .viewport | .material | .scissorRect | .vsF _ | .vsI _ | .psF _ | .psI _ =>
      fun _ => 0
  | .clipPlanes _ _ | .renderStates _ | .textureTypes _ | .textureStageStates _ _
  | .samplerStates _ _ | .vsB _ | .streamFreqs _ | .streamOffsets _ | .streamStrides _ | .psB _ => 0

/-- The flags of `StateCaptureDirtyFlags` other than those of its two maps. -/
inductive Flag where
  | vertexDecl
  | indices
  | renderStates (i : Fin kNumRenderStates)
  | samplerStates (i : Fin kNumStageSamplers) (j : Fin kMaxStageSamplerStateTypes)
  | streams (i : Fin caps.MaxStreams)
  | streamOffsetsAndStrides (i : Fin caps.MaxStreams)
  | streamFreqs (i : Fin caps.MaxStreams)
  | textures (i : Fin kNumStageSamplers)
  | vertexShader
  | pixelShader
  | material
  | transforms (i : Fin caps.MaxTransforms)
  | textureStageStates (i : Fin kNumStageSamplers) (j : Fin kMaxTexStageStateTypes)
  | viewport
  | scissorRect
  | clipPlanes (i : Fin caps.MaxClipPlanes)
  | vsF (i : Fin caps.MaxFloatConstantsSoftware)
  | vsI (i : Fin caps.MaxOtherConstantsSoftware)
  | vsB (i : Fin caps.MaxOtherConstantsSoftware)
  | psF (i : Fin caps.MaxFloatConstantsPS)
  | psI (i : Fin caps.MaxOtherConstants)
  | psB (i : Fin caps.MaxOtherConstants)
  deriving DecidableEq, Repr

/-- `StateCaptureDirtyFlags`; `lights` and `bLightEnables` are the entries of the two
`unordered_map`s, in the order their loops visit them. -/
structure StateCaptureDirtyFlags where
  flag : Flag → Bool
  lights : List (Word × Bool)
  bLightEnables : List (Word × Bool)

end RemixBridge.Device
