import RemixBridge.Wire.Commands
import RemixBridge.Support.Serial

/-!
# Remix — RemixApi

The structures of the Remix API that the bridge serializes (`remix_c.h`), and the formats of their
members (`util_serializable.h`, `util_remixapi.cpp`).

A float is its bits, an enumeration and a handle the word they are in, and a pointer to an array
and the array's count are one member, the array.  What the client holds is in a 32-bit address
space.
-/

namespace RemixBridge.Remix
open Serial

/-! ### Types of members -/

abbrev Float3D := Fin 3 → Word
abbrev Transform := Fin 3 → Fin 4 → Word

/-- `void*`; `none` is `nullptr`. -/
abbrev Pointer := Option Nat

/-- A wide string, without its final 0. -/
@[ext]
structure WString where
  units : List (BitVec 16)
  zero_notMem : 0 ∉ units
  fits : 2 * (units.length + 1) < 2 ^ 32

/-- `remixapi_Path`. -/
abbrev Path := Option WString

/-- An array of elements of `size` bytes. -/
abbrev CArray (α : Type) (size : Nat) := { as : List α // as.length * size < 2 ^ 32 }

/-! ### Formats -/

def u8 : Codec (BitVec 8) := Codec.bits 1
def u32 : Codec Word := Codec.bits 4
def u64 : Codec (BitVec 64) := Codec.bits 8
def float3D : Codec Float3D := u32.array 3
def transform : Codec Transform := (u32.array 4).array 3

/-- `Bool::True` and `Bool::False`. -/
def boolByte (b : Bool) : Byte := if b then 0xff else 0

/-- The format of `bool`. -/
def bool : Codec Bool where
  sizeOf _ := 1
  serialize b := [boolByte b]
  deserialize bs := (take 1 bs).map fun r => (r.1 == [0xff], r.2)
  size_eq _ := rfl
  round b rest := by cases b <;> simp [take, boolByte]

/-- A flag, and the value behind it if there is one: the optional pointers of
`LightInfoUSD`. -/
def optionalPointer {α : Type} (c : Codec α) : Codec (Option α) where
  sizeOf p := bool.sizeOf p.isSome + (p.map c.sizeOf).getD 0
  serialize p := bool.serialize p.isSome ++ (p.map c.serialize).getD []
  deserialize bs := do
    let (bHasValue, bs) ← bool.deserialize bs
    if bHasValue then
      let (a, bs) ← c.deserialize bs
      return (some a, bs)
    else return (none, bs)
  size_eq p := by
    cases p with
    | none => rfl
    | some a =>
        simp only [Option.map_some, Option.getD_some, List.length_append, BitVec.ofNat_add,
          ← c.size_eq, ← bool.size_eq]
  round p rest := by
    cases p with
    | none =>
        have h := bool.round false rest
        simp only [Option.map_none, Option.getD_none, Option.isSome_none, List.append_nil, h]
        rfl
    | some a =>
        simp only [Option.map_some, Option.getD_some, Option.isSome_some, List.append_assoc,
          bool.round]
        simp [c.round]

/-- A `wchar_t`. -/
def unitBytes (u : BitVec 16) : List Byte := bytesOf 2 u.toNat

/-- `wcslen` and the copy of as many characters and the final 0. -/
def readUnits : List Byte → Option (List (BitVec 16) × List Byte)
  | lo :: hi :: bs =>
      let unit := BitVec.ofNat 16 (ofBytes [lo, hi])
      if unit = 0 then some ([], bs)
      else (readUnits bs).map fun r => (unit :: r.1, r.2)
  | _ => none

theorem readUnits_flatMap (units : List (BitVec 16)) (h : 0 ∉ units) (rest : List Byte) :
    readUnits ((units ++ [0]).flatMap unitBytes ++ rest) =
      some (units, rest) := by
  have hunit (u : BitVec 16) (bs : List Byte) :
      readUnits (unitBytes u ++ bs) =
        if u = 0 then some ([], bs) else (readUnits bs).map fun r => (u :: r.1, r.2) := by
    have hu : BitVec.ofNat 16 (ofBytes (bytesOf 2 u.toNat)) = u := by
      rw [ofBytes_bytesOf 2 u.toNat u.isLt, BitVec.ofNat_toNat, BitVec.setWidth_eq]
    have hb : unitBytes u ++ bs =
        BitVec.ofNat 8 u.toNat :: BitVec.ofNat 8 (u.toNat / 2 ^ 8) :: bs := rfl
    have hu' : BitVec.ofNat 16
        (ofBytes [BitVec.ofNat 8 u.toNat, BitVec.ofNat 8 (u.toNat / 2 ^ 8)]) = u := hu
    rw [hb, readUnits]
    simp only [hu']
  induction units with
  | nil => simpa using hunit 0 rest
  | cons u units ih =>
      obtain ⟨hu, hmem⟩ := not_or.mp (mt List.mem_cons.mpr h)
      rw [List.cons_append, List.flatMap_cons, List.append_assoc, hunit, if_neg (Ne.symm hu),
        ih hmem, Option.map_some]

/-- `pathSize` of a string. -/
def pathSize (s : WString) : Word := (BitVec.ofNat 32 s.units.length + 1) * 2

def wstring : Codec WString where
  sizeOf := pathSize
  serialize s := (s.units ++ [0]).flatMap unitBytes
  deserialize bs := (readUnits bs).bind fun r =>
    if h : 0 ∉ r.1 ∧ 2 * (r.1.length + 1) < 2 ^ 32 then some (⟨r.1, h.1, h.2⟩, r.2) else none
  size_eq s := by
    have hlen (us : List (BitVec 16)) :
        (us.flatMap unitBytes).length = 2 * us.length := by
      induction us with
      | nil => rfl
      | cons u us ih =>
          rw [List.flatMap_cons, List.length_append, ih, unitBytes, length_bytesOf, List.length_cons]
          omega
    have hfits := s.fits
    rw [hlen, List.length_append, List.length_singleton]
    apply BitVec.eq_of_toNat_eq
    simp [pathSize]
    omega
  round s rest := by
    rw [readUnits_flatMap s.units s.zero_notMem rest, Option.bind_some,
      dif_pos ⟨s.zero_notMem, s.fits⟩]

/-- The format of `remixapi_Path`. -/
def path : Codec Path := optionalPointer wstring

/-! ### Materials -/

@[ext]
structure MaterialInfo where
  sType : Word
  pNext : Pointer
  hash : BitVec 64
  albedoTexture : Path
  normalTexture : Path
  tangentTexture : Path
  emissiveTexture : Path
  emissiveIntensity : Word
  emissiveColorConstant : Float3D
  spriteSheetRow : BitVec 8
  spriteSheetCol : BitVec 8
  spriteSheetFps : BitVec 8
  filterMode : BitVec 8
  wrapModeU : BitVec 8
  wrapModeV : BitVec 8

structure MaterialInfoOpaque where
  sType : Word
  pNext : Pointer
  roughnessTexture : Path
  metallicTexture : Path
  anisotropy : Word
  albedoConstant : Float3D
  opacityConstant : Word
  roughnessConstant : Word
  metallicConstant : Word
  thinFilmThickness_hasvalue : Word
  thinFilmThickness_value : Word
  alphaIsThinFilmThickness : Word
  heightTexture : Path
  displaceIn : Word
  useDrawCallAlphaState : Word
  blendType_hasvalue : Word
  blendType_value : Word
  invertedBlend : Word
  alphaTestType : Word
  alphaReferenceValue : BitVec 8
  displaceOut : Word

structure MaterialInfoOpaqueSubsurface where
  sType : Word
  pNext : Pointer
  subsurfaceTransmittanceTexture : Path
  subsurfaceThicknessTexture : Path
  subsurfaceSingleScatteringAlbedoTexture : Path
  subsurfaceTransmittanceColor : Float3D
  subsurfaceMeasurementDistance : Word
  subsurfaceSingleScatteringAlbedo : Float3D
  subsurfaceVolumetricAnisotropy : Word
  subsurfaceDiffusionProfile : Word
  subsurfaceRadius : Float3D
  subsurfaceRadiusScale : Word
  subsurfaceMaxSampleRadius : Word
  subsurfaceRadiusTexture : Path

structure MaterialInfoTranslucent where
  sType : Word
  pNext : Pointer
  transmittanceTexture : Path
  refractiveIndex : Word
  transmittanceColor : Float3D
  transmittanceMeasurementDistance : Word
  thinWallThickness_hasvalue : Word
  thinWallThickness_value : Word
  useDiffuseLayer : Word

structure MaterialInfoPortal where
  sType : Word
  pNext : Pointer
  rayPortalIndex : BitVec 8
  rotationSpeed : Word

/-! ### Meshes -/

/-- `remixapi_HardcodedVertex`, without its padding. -/
structure HardcodedVertex where
  position : Fin 3 → Word
  normal : Fin 3 → Word
  texcoord : Fin 2 → Word
  color : Word

structure MeshInfoSkinning where
  bonesPerVertex : Word
  blendWeights : CArray Word 4
  blendIndices : CArray Word 4

structure MeshInfoSurfaceTriangles where
  vertices : CArray HardcodedVertex 64
  indices : CArray Word 4
  skinning_hasvalue : Word
  skinning_value : MeshInfoSkinning
  material : Word

structure MeshInfo where
  sType : Word
  pNext : Pointer
  hash : BitVec 64
  surfaces : CArray MeshInfoSurfaceTriangles 64

/-! ### Instances -/

structure InstanceInfo where
  sType : Word
  pNext : Pointer
  categoryFlags : Word
  mesh : Word
  transform : Transform
  doubleSided : Word

structure InstanceInfoObjectPicking where
  sType : Word
  pNext : Pointer
  objectPickingValue : Word

structure InstanceInfoBlend where
  sType : Word
  pNext : Pointer
  alphaTestEnabled : Word
  alphaTestReferenceValue : BitVec 8
  alphaTestCompareOp : Word
  alphaBlendEnabled : Word
  srcColorBlendFactor : Word
  dstColorBlendFactor : Word
  colorBlendOp : Word
  textureColorArg1Source : Word
  textureColorArg2Source : Word
  textureColorOperation : Word
  textureAlphaArg1Source : Word
  textureAlphaArg2Source : Word
  textureAlphaOperation : Word
  tFactor : Word
  isTextureFactorBlend : Word

structure InstanceInfoTransforms where
  sType : Word
  pNext : Pointer
  boneTransforms : CArray Transform 48

/-! ### Lights -/

structure LightInfo where
  sType : Word
  pNext : Pointer
  hash : BitVec 64
  radiance : Float3D

structure LightInfoLightShaping where
  direction : Float3D
  coneAngleDegrees : Word
  coneSoftness : Word
  focusExponent : Word

structure LightInfoSphere where
  sType : Word
  pNext : Pointer
  position : Float3D
  radius : Word
  shaping_hasvalue : Word
  shaping_value : LightInfoLightShaping
  volumetricRadianceScale : Word

structure LightInfoRect where
  sType : Word
  pNext : Pointer
  position : Float3D
  xAxis : Float3D
  xSize : Word
  yAxis : Float3D
  ySize : Word
  direction : Float3D
  shaping_hasvalue : Word
  shaping_value : LightInfoLightShaping
  volumetricRadianceScale : Word

structure LightInfoDisk where
  sType : Word
  pNext : Pointer
  position : Float3D
  xAxis : Float3D
  xRadius : Word
  yAxis : Float3D
  yRadius : Word
  direction : Float3D
  shaping_hasvalue : Word
  shaping_value : LightInfoLightShaping
  volumetricRadianceScale : Word

structure LightInfoCylinder where
  sType : Word
  pNext : Pointer
  position : Float3D
  radius : Word
  axis : Float3D
  axisLength : Word
  volumetricRadianceScale : Word

structure LightInfoDistant where
  sType : Word
  pNext : Pointer
  direction : Float3D
  angularDiameterDegrees : Word
  volumetricRadianceScale : Word

structure LightInfoDome where
  sType : Word
  pNext : Pointer
  transform : Transform
  colorTexture : Path

structure LightInfoUSD where
  sType : Word
  pNext : Pointer
  lightType : Word
  transform : Transform
  pRadius : Option Word
  pWidth : Option Word
  pHeight : Option Word
  pLength : Option Word
  pAngleRadians : Option Word
  pEnableColorTemp : Option Word
  pColor : Option Float3D
  pColorTemp : Option Word
  pExposure : Option Word
  pIntensity : Option Word
  pConeAngleRadians : Option Word
  pConeSoftness : Option Word
  pFocus : Option Word
  pVolumetricRadianceScale : Option Word

end RemixBridge.Remix
