import RemixBridge.Remix.RemixApi

/-!
# Remix — Serialization

The serializable types of the Remix API, with the members that each lists for its size, for writing
and for reading (`util_remixapi.cpp`).
-/

namespace RemixBridge.Remix
open Serial

/-- What a type implements of `Serializable`.  Where a copy runs past the end of an array there are
no bytes, and where the array that is read is shorter than its count no value. -/
structure Serializable (σ : Type) where
  bHasStaticSize : Bool
  /-- `_calcSize` -/
  calcMembers : σ → Word
  /-- `_serialize` -/
  serializeMembers : σ → Option (List Byte)
  /-- `_deserialize`, into an object -/
  deserializeMembers : List Byte → σ → Option (σ × List Byte)
  /-- The value with nothing chained to it. -/
  unchained : σ → σ

namespace Serializable

variable {σ : Type} (S : Serializable σ)

def calcSize (v : σ) : Word := S.calcMembers v + 4

/-- The size of a static type is calculated once, from an object `dummyA`. -/
def size (dummyA v : σ) : Word :=
  if S.bHasStaticSize then S.calcSize dummyA else S.calcSize v

def serialize (dummyA v : σ) : Option (List Byte) :=
  (S.serializeMembers v).map (u32.serialize (S.size dummyA v) ++ ·)

/-- Into an object that holds `uninit`. -/
def deserialize (bs : List Byte) (uninit : σ) : Option (σ × List Byte) := do
  let (_, bs) ← u32.deserialize bs
  S.deserializeMembers bs uninit

/-- As many bytes as `size` tells, and the value in them. -/
def RoundTrips (v : σ) : Prop :=
  ∀ dummyA uninit, ∃ bytes, S.serialize dummyA v = some bytes ∧
    bytes.length = (S.size dummyA v).toNat ∧
    S.deserialize bytes uninit = some (S.unchained v, [])

end Serializable

/-- A type whose members are listed: `fold_helper`. -/
def folded {σ : Type} (bHasStaticSize : Bool) (vars : List (Member σ)) (unchained : σ → σ) :
    Serializable σ where
  bHasStaticSize := bHasStaticSize
  calcMembers := Serial.calcSize vars
  serializeMembers v := some (Serial.serialize vars v)
  deserializeMembers bs s := Serial.deserialize vars bs (unchained s)
  unchained := unchained

/-! ### Materials -/

def MaterialInfoVars : List (Member MaterialInfo) :=
  [⟨u32, (·.sType), fun s x => { s with sType := x }⟩,
    ⟨u64, (·.hash), fun s x => { s with hash := x }⟩,
    ⟨path, (·.albedoTexture), fun s x => { s with albedoTexture := x }⟩,
    ⟨path, (·.normalTexture), fun s x => { s with normalTexture := x }⟩,
    ⟨path, (·.tangentTexture), fun s x => { s with tangentTexture := x }⟩,
    ⟨path, (·.emissiveTexture), fun s x => { s with emissiveTexture := x }⟩,
    ⟨u32, (·.emissiveIntensity), fun s x => { s with emissiveIntensity := x }⟩,
    ⟨float3D, (·.emissiveColorConstant), fun s x => { s with emissiveColorConstant := x }⟩,
    ⟨u8, (·.spriteSheetRow), fun s x => { s with spriteSheetRow := x }⟩,
    ⟨u8, (·.spriteSheetCol), fun s x => { s with spriteSheetCol := x }⟩,
    ⟨u8, (·.spriteSheetFps), fun s x => { s with spriteSheetFps := x }⟩,
    ⟨u8, (·.filterMode), fun s x => { s with filterMode := x }⟩,
    ⟨u8, (·.wrapModeU), fun s x => { s with wrapModeU := x }⟩,
    ⟨u8, (·.wrapModeV), fun s x => { s with wrapModeV := x }⟩]

def MaterialInfo.serializable : Serializable MaterialInfo :=
  folded false MaterialInfoVars fun s => { s with pNext := none }

def MaterialInfoOpaqueVars : List (Member MaterialInfoOpaque) :=
  [⟨u32, (·.sType), fun s x => { s with sType := x }⟩,
    ⟨path, (·.roughnessTexture), fun s x => { s with roughnessTexture := x }⟩,
    ⟨path, (·.metallicTexture), fun s x => { s with metallicTexture := x }⟩,
    ⟨u32, (·.anisotropy), fun s x => { s with anisotropy := x }⟩,
    ⟨float3D, (·.albedoConstant), fun s x => { s with albedoConstant := x }⟩,
    ⟨u32, (·.opacityConstant), fun s x => { s with opacityConstant := x }⟩,
    ⟨u32, (·.roughnessConstant), fun s x => { s with roughnessConstant := x }⟩,
    ⟨u32, (·.metallicConstant), fun s x => { s with metallicConstant := x }⟩,
    ⟨u32, (·.thinFilmThickness_hasvalue), fun s x => { s with thinFilmThickness_hasvalue := x }⟩,
    ⟨u32, (·.thinFilmThickness_value), fun s x => { s with thinFilmThickness_value := x }⟩,
    ⟨u32, (·.alphaIsThinFilmThickness), fun s x => { s with alphaIsThinFilmThickness := x }⟩,
    ⟨path, (·.heightTexture), fun s x => { s with heightTexture := x }⟩,
    ⟨u32, (·.displaceIn), fun s x => { s with displaceIn := x }⟩,
    ⟨u32, (·.useDrawCallAlphaState), fun s x => { s with useDrawCallAlphaState := x }⟩,
    ⟨u32, (·.blendType_hasvalue), fun s x => { s with blendType_hasvalue := x }⟩,
    ⟨u32, (·.blendType_value), fun s x => { s with blendType_value := x }⟩,
    ⟨u32, (·.invertedBlend), fun s x => { s with invertedBlend := x }⟩,
    ⟨u32, (·.alphaTestType), fun s x => { s with alphaTestType := x }⟩,
    ⟨u8, (·.alphaReferenceValue), fun s x => { s with alphaReferenceValue := x }⟩,
    ⟨u32, (·.displaceOut), fun s x => { s with displaceOut := x }⟩]

def MaterialInfoOpaque.serializable : Serializable MaterialInfoOpaque :=
  folded false MaterialInfoOpaqueVars fun s => { s with pNext := none }

def MaterialInfoOpaqueSubsurfaceVars : List (Member MaterialInfoOpaqueSubsurface) :=
  [⟨u32, (·.sType), fun s x => { s with sType := x }⟩,
    ⟨path, (·.subsurfaceTransmittanceTexture),
      fun s x => { s with subsurfaceTransmittanceTexture := x }⟩,
    ⟨path, (·.subsurfaceThicknessTexture), fun s x => { s with subsurfaceThicknessTexture := x }⟩,
    ⟨path, (·.subsurfaceSingleScatteringAlbedoTexture),
      fun s x => { s with subsurfaceSingleScatteringAlbedoTexture := x }⟩,
    ⟨float3D, (·.subsurfaceTransmittanceColor),
      fun s x => { s with subsurfaceTransmittanceColor := x }⟩,
    ⟨u32, (·.subsurfaceMeasurementDistance),
      fun s x => { s with subsurfaceMeasurementDistance := x }⟩,
    ⟨float3D, (·.subsurfaceSingleScatteringAlbedo),
      fun s x => { s with subsurfaceSingleScatteringAlbedo := x }⟩,
    ⟨u32, (·.subsurfaceVolumetricAnisotropy),
      fun s x => { s with subsurfaceVolumetricAnisotropy := x }⟩]

def MaterialInfoOpaqueSubsurface.serializable : Serializable MaterialInfoOpaqueSubsurface :=
  folded false MaterialInfoOpaqueSubsurfaceVars fun s => { s with pNext := none }

def MaterialInfoTranslucentVars : List (Member MaterialInfoTranslucent) :=
  [⟨u32, (·.sType), fun s x => { s with sType := x }⟩,
    ⟨path, (·.transmittanceTexture), fun s x => { s with transmittanceTexture := x }⟩,
    ⟨u32, (·.refractiveIndex), fun s x => { s with refractiveIndex := x }⟩,
    ⟨float3D, (·.transmittanceColor), fun s x => { s with transmittanceColor := x }⟩,
    ⟨u32, (·.transmittanceMeasurementDistance),
      fun s x => { s with transmittanceMeasurementDistance := x }⟩,
    ⟨u32, (·.thinWallThickness_hasvalue), fun s x => { s with thinWallThickness_hasvalue := x }⟩,
    ⟨u32, (·.thinWallThickness_value), fun s x => { s with thinWallThickness_value := x }⟩,
    ⟨u32, (·.useDiffuseLayer), fun s x => { s with useDiffuseLayer := x }⟩]

def MaterialInfoTranslucent.serializable : Serializable MaterialInfoTranslucent :=
  folded false MaterialInfoTranslucentVars fun s => { s with pNext := none }

def MaterialInfoPortalVars : List (Member MaterialInfoPortal) :=
  [⟨u32, (·.sType), fun s x => { s with sType := x }⟩,
    ⟨u8, (·.rayPortalIndex), fun s x => { s with rayPortalIndex := x }⟩,
    ⟨u32, (·.rotationSpeed), fun s x => { s with rotationSpeed := x }⟩]

def MaterialInfoPortal.serializable : Serializable MaterialInfoPortal :=
  folded true MaterialInfoPortalVars fun s => { s with pNext := none }

/-! ### Meshes -/

def hardcodedVertex : Codec HardcodedVertex :=
  Codec.record
    [⟨u32.array 3, (·.position), fun s x => { s with position := x }⟩,
      ⟨u32.array 3, (·.normal), fun s x => { s with normal := x }⟩,
      ⟨u32.array 2, (·.texcoord), fun s x => { s with texcoord := x }⟩,
      ⟨u32, (·.color), fun s x => { s with color := x }⟩]
    ⟨fun _ => 0, fun _ => 0, fun _ => 0, 0⟩ fun _ => rfl

/-- The number of elements of an array, in 32 bits. -/
def CArray.count {α : Type} {size : Nat} (as : CArray α size) : Word := BitVec.ofNat 32 as.1.length

def blendWeightSizePerVtx (skinning : MeshInfoSkinning) : Word :=
  skinning.blendWeights.count * skinning.bonesPerVertex * 4

def blendIndicesSizePerVtx (skinning : MeshInfoSkinning) : Word :=
  skinning.blendIndices.count * skinning.bonesPerVertex * 4

/-- `size` bytes of an array. -/
def copyWords (words : CArray Word 4) (size : Word) : Option (List Byte) :=
  if size.toNat ≤ words.1.length * 4 then
    some ((words.1.flatMap u32.serialize).take size.toNat)
  else none

/-- `deserialize_const_p`: an array of `size` bytes, for `count` elements. -/
def deserialize_const_p (count size : Word) (bs : List Byte) :
    Option (CArray Word 4 × List Byte) := do
  let (bytes, bs) ← take size.toNat bs
  let (words, _) ← u32.deserializeMany count.toNat bytes
  if h : words.length * 4 < 2 ^ 32 then return (⟨words, h⟩, bs) else none

/-- `deserialize_const_p_for_each`, of elements that are read whole. -/
def deserialize_const_p_for_each {α : Type} {size : Nat} (c : Codec α) (num : Nat)
    (bs : List Byte) : Option (CArray α size × List Byte) := do
  let (as, bs) ← c.deserializeMany num bs
  if h : as.length * size < 2 ^ 32 then return (⟨as, h⟩, bs) else none

namespace MeshInfoSurfaceTriangles

def sizeOf (surface : MeshInfoSurfaceTriangles) : Word :=
  8 + surface.vertices.count * 36 + 8 + surface.indices.count * 4 + 4 +
    (if surface.skinning_hasvalue ≠ 0 then
      4 + 4 + surface.vertices.count * blendWeightSizePerVtx surface.skinning_value +
        4 + surface.vertices.count * blendIndicesSizePerVtx surface.skinning_value
    else 0) + 4

def serializeSkinning (vertices_count : Word) (skinning : MeshInfoSkinning) :
    Option (List Byte) := do
  let weights ← copyWords skinning.blendWeights (vertices_count * blendWeightSizePerVtx skinning)
  let indices ← copyWords skinning.blendIndices (vertices_count * blendIndicesSizePerVtx skinning)
  return u32.serialize skinning.bonesPerVertex ++ (u32.serialize skinning.blendWeights.count ++
    (weights ++ (u32.serialize skinning.blendIndices.count ++ indices)))

def serialize (surface : MeshInfoSurfaceTriangles) : Option (List Byte) := do
  let indices ← copyWords surface.indices (surface.indices.count * 4)
  let skinning ← if surface.skinning_hasvalue ≠ 0 then
      serializeSkinning surface.vertices.count surface.skinning_value
    else some []
  return u64.serialize (BitVec.ofNat 64 surface.vertices.1.length) ++
    (surface.vertices.1.flatMap hardcodedVertex.serialize ++
      (u64.serialize (BitVec.ofNat 64 surface.indices.1.length) ++
        (indices ++ (u32.serialize surface.skinning_hasvalue ++
          (skinning ++ u32.serialize surface.material)))))

def deserializeSkinning (vertices_count : Word) (bs : List Byte) :
    Option (MeshInfoSkinning × List Byte) := do
  let (bonesPerVertex, bs) ← u32.deserialize bs
  let (weights_count, bs) ← u32.deserialize bs
  let (blendWeights, bs) ←
    deserialize_const_p weights_count (vertices_count * (weights_count * bonesPerVertex * 4)) bs
  let (indices_count, bs) ← u32.deserialize bs
  let (blendIndices, bs) ←
    deserialize_const_p indices_count (vertices_count * (indices_count * bonesPerVertex * 4)) bs
  return ({ bonesPerVertex, blendWeights, blendIndices }, bs)

/-- Into memory that holds `uninit`. -/
def deserialize (bs : List Byte) (uninit : MeshInfoSkinning) :
    Option (MeshInfoSurfaceTriangles × List Byte) := do
  let (vertices_count, bs) ← u64.deserialize bs
  let (vertices, bs) ← deserialize_const_p_for_each hardcodedVertex vertices_count.toNat bs
  let (indices_count, bs) ← u64.deserialize bs
  let (indices, bs) ←
    deserialize_const_p (indices_count.setWidth 32) (indices_count.setWidth 32 * 4) bs
  let (skinning_hasvalue, bs) ← u32.deserialize bs
  let (skinning_value, bs) ← if skinning_hasvalue ≠ 0 then
      deserializeSkinning (vertices_count.setWidth 32) bs
    else some (uninit, bs)
  let (material, bs) ← u32.deserialize bs
  return ({ vertices, indices, skinning_hasvalue, skinning_value, material }, bs)

end MeshInfoSurfaceTriangles

namespace MeshInfo

def calcMembers (v : MeshInfo) : Word :=
  4 + 8 + 4 + (v.surfaces.1.map MeshInfoSurfaceTriangles.sizeOf).sum

def serializeSurfaces : List MeshInfoSurfaceTriangles → Option (List Byte)
  | []             => some []
  | surface :: surfaces => do
      let bytes ← surface.serialize
      let rest ← serializeSurfaces surfaces
      return bytes ++ rest

def serializeMembers (v : MeshInfo) : Option (List Byte) := do
  let surfaces ← serializeSurfaces v.surfaces.1
  return u32.serialize v.sType ++ (u64.serialize v.hash ++
    (u32.serialize v.surfaces.count ++ surfaces))

/-- `num` surfaces; the memory of the next one holds `heap 0`. -/
def deserializeSurfaces : Nat → List Byte → (Nat → MeshInfoSkinning) →
    Option (List MeshInfoSurfaceTriangles × List Byte)
  | 0, bs, _         => some ([], bs)
  | num + 1, bs, heap => do
      let (surface, bs) ← MeshInfoSurfaceTriangles.deserialize bs (heap 0)
      let (surfaces, bs) ← deserializeSurfaces num bs fun i => heap (i + 1)
      return (surface :: surfaces, bs)

/-- `pNext` is not among what is set. -/
def deserializeMembers (heap : Nat → MeshInfoSkinning) (bs : List Byte) (s : MeshInfo) :
    Option (MeshInfo × List Byte) := do
  let (sType, bs) ← u32.deserialize bs
  let (hash, bs) ← u64.deserialize bs
  let (surfaces_count, bs) ← u32.deserialize bs
  let (surfaces, bs) ← deserializeSurfaces surfaces_count.toNat bs heap
  if h : surfaces.length * 64 < 2 ^ 32 then
    return ({ s with sType, hash, surfaces := ⟨surfaces, h⟩ }, bs)
  else none

/-- The surfaces are read into memory that holds `heap`. -/
def serializable (heap : Nat → MeshInfoSkinning) : Serializable MeshInfo where
  bHasStaticSize := false
  calcMembers := calcMembers
  serializeMembers := serializeMembers
  deserializeMembers := deserializeMembers heap
  unchained s := { s with pNext := none }

end MeshInfo

/-! ### Instances -/

def InstanceInfoVars : List (Member InstanceInfo) :=
  [⟨u32, (·.sType), fun s x => { s with sType := x }⟩,
    ⟨u32, (·.categoryFlags), fun s x => { s with categoryFlags := x }⟩,
    ⟨u32, (·.mesh), fun s x => { s with mesh := x }⟩,
    ⟨transform, (·.transform), fun s x => { s with transform := x }⟩,
    ⟨u32, (·.doubleSided), fun s x => { s with doubleSided := x }⟩]

def InstanceInfo.serializable : Serializable InstanceInfo :=
  folded true InstanceInfoVars fun s => { s with pNext := none }

def InstanceInfoObjectPickingVars : List (Member InstanceInfoObjectPicking) :=
  [⟨u32, (·.objectPickingValue), fun s x => { s with objectPickingValue := x }⟩]

def InstanceInfoObjectPicking.serializable : Serializable InstanceInfoObjectPicking :=
  folded true InstanceInfoObjectPickingVars fun s => { s with pNext := none }

def InstanceInfoBlendVars : List (Member InstanceInfoBlend) :=
  [⟨u32, (·.sType), fun s x => { s with sType := x }⟩,
    ⟨u32, (·.alphaTestEnabled), fun s x => { s with alphaTestEnabled := x }⟩,
    ⟨u8, (·.alphaTestReferenceValue), fun s x => { s with alphaTestReferenceValue := x }⟩,
    ⟨u32, (·.alphaTestCompareOp), fun s x => { s with alphaTestCompareOp := x }⟩,
    ⟨u32, (·.alphaBlendEnabled), fun s x => { s with alphaBlendEnabled := x }⟩,
    ⟨u32, (·.srcColorBlendFactor), fun s x => { s with srcColorBlendFactor := x }⟩,
    ⟨u32, (·.dstColorBlendFactor), fun s x => { s with dstColorBlendFactor := x }⟩,
    ⟨u32, (·.colorBlendOp), fun s x => { s with colorBlendOp := x }⟩,
    ⟨u32, (·.textureColorArg1Source), fun s x => { s with textureColorArg1Source := x }⟩,
    ⟨u32, (·.textureColorArg2Source), fun s x => { s with textureColorArg2Source := x }⟩,
    ⟨u32, (·.textureColorOperation), fun s x => { s with textureColorOperation := x }⟩,
    ⟨u32, (·.textureAlphaArg1Source), fun s x => { s with textureAlphaArg1Source := x }⟩,
    ⟨u32, (·.textureAlphaArg2Source), fun s x => { s with textureAlphaArg2Source := x }⟩,
    ⟨u32, (·.textureAlphaOperation), fun s x => { s with textureAlphaOperation := x }⟩,
    ⟨u32, (·.tFactor), fun s x => { s with tFactor := x }⟩,
    ⟨u32, (·.isTextureFactorBlend), fun s x => { s with isTextureFactorBlend := x }⟩]

def InstanceInfoBlend.serializable : Serializable InstanceInfoBlend :=
  folded true InstanceInfoBlendVars fun s => { s with pNext := none }

namespace InstanceInfoTransforms

def calcMembers (v : InstanceInfoTransforms) : Word :=
  4 + 4 + 48 * v.boneTransforms.count

def serializeMembers (v : InstanceInfoTransforms) : List Byte :=
  u32.serialize v.sType ++ (u32.serialize v.boneTransforms.count ++
    v.boneTransforms.1.flatMap transform.serialize)

def deserializeMembers (bs : List Byte) (s : InstanceInfoTransforms) :
    Option (InstanceInfoTransforms × List Byte) := do
  let (sType, bs) ← u32.deserialize bs
  let (count, bs) ← u32.deserialize bs
  let (boneTransforms, bs) ← deserialize_const_p_for_each transform count.toNat bs
  return ({ s with sType, pNext := none, boneTransforms }, bs)

def serializable : Serializable InstanceInfoTransforms where
  bHasStaticSize := false
  calcMembers := calcMembers
  serializeMembers v := some (serializeMembers v)
  deserializeMembers := deserializeMembers
  unchained s := { s with pNext := none }

end InstanceInfoTransforms

/-! ### Lights -/

def LightInfoVars : List (Member LightInfo) :=
  [⟨u32, (·.sType), fun s x => { s with sType := x }⟩,
    ⟨u64, (·.hash), fun s x => { s with hash := x }⟩,
    ⟨float3D, (·.radiance), fun s x => { s with radiance := x }⟩]

def LightInfo.serializable : Serializable LightInfo :=
  folded true LightInfoVars fun s => { s with pNext := none }

def LightShapingVars : List (Member LightInfoLightShaping) :=
  [⟨float3D, (·.direction), fun s x => { s with direction := x }⟩,
    ⟨u32, (·.coneAngleDegrees), fun s x => { s with coneAngleDegrees := x }⟩,
    ⟨u32, (·.coneSoftness), fun s x => { s with coneSoftness := x }⟩,
    ⟨u32, (·.focusExponent), fun s x => { s with focusExponent := x }⟩]

def lightShaping : Codec LightInfoLightShaping :=
  Codec.record LightShapingVars ⟨fun _ => 0, 0, 0, 0⟩ fun _ => rfl

def LightInfoSphereVars : List (Member LightInfoSphere) :=
  [⟨u32, (·.sType), fun s x => { s with sType := x }⟩,
    ⟨float3D, (·.position), fun s x => { s with position := x }⟩,
    ⟨u32, (·.radius), fun s x => { s with radius := x }⟩,
    ⟨u32, (·.shaping_hasvalue), fun s x => { s with shaping_hasvalue := x }⟩,
    ⟨lightShaping, (·.shaping_value), fun s x => { s with shaping_value := x }⟩]

def LightInfoSphere.serializable : Serializable LightInfoSphere :=
  folded true LightInfoSphereVars fun s => { s with pNext := none }

def LightInfoRectVars : List (Member LightInfoRect) :=
  [⟨u32, (·.sType), fun s x => { s with sType := x }⟩,
    ⟨float3D, (·.position), fun s x => { s with position := x }⟩,
    ⟨float3D, (·.xAxis), fun s x => { s with xAxis := x }⟩,
    ⟨u32, (·.xSize), fun s x => { s with xSize := x }⟩,
    ⟨float3D, (·.yAxis), fun s x => { s with yAxis := x }⟩,
    ⟨u32, (·.ySize), fun s x => { s with ySize := x }⟩,
    ⟨float3D, (·.direction), fun s x => { s with direction := x }⟩,
    ⟨u32, (·.shaping_hasvalue), fun s x => { s with shaping_hasvalue := x }⟩,
    ⟨lightShaping, (·.shaping_value), fun s x => { s with shaping_value := x }⟩]

def LightInfoRect.serializable : Serializable LightInfoRect :=
  folded true LightInfoRectVars fun s => { s with pNext := none }

def LightInfoDiskVars : List (Member LightInfoDisk) :=
  [⟨u32, (·.sType), fun s x => { s with sType := x }⟩,
    ⟨float3D, (·.position), fun s x => { s with position := x }⟩,
    ⟨float3D, (·.xAxis), fun s x => { s with xAxis := x }⟩,
    ⟨u32, (·.xRadius), fun s x => { s with xRadius := x }⟩,
    ⟨float3D, (·.yAxis), fun s x => { s with yAxis := x }⟩,
    ⟨u32, (·.yRadius), fun s x => { s with yRadius := x }⟩,
    ⟨float3D, (·.direction), fun s x => { s with direction := x }⟩,
    ⟨u32, (·.shaping_hasvalue), fun s x => { s with shaping_hasvalue := x }⟩,
    ⟨lightShaping, (·.shaping_value), fun s x => { s with shaping_value := x }⟩]

def LightInfoDisk.serializable : Serializable LightInfoDisk :=
  folded true LightInfoDiskVars fun s => { s with pNext := none }

def LightInfoCylinderVars : List (Member LightInfoCylinder) :=
  [⟨u32, (·.sType), fun s x => { s with sType := x }⟩,
    ⟨float3D, (·.position), fun s x => { s with position := x }⟩,
    ⟨u32, (·.radius), fun s x => { s with radius := x }⟩,
    ⟨float3D, (·.axis), fun s x => { s with axis := x }⟩,
    ⟨u32, (·.axisLength), fun s x => { s with axisLength := x }⟩]

def LightInfoCylinder.serializable : Serializable LightInfoCylinder :=
  folded true LightInfoCylinderVars fun s => { s with pNext := none }

def LightInfoDistantVars : List (Member LightInfoDistant) :=
  [⟨u32, (·.sType), fun s x => { s with sType := x }⟩,
    ⟨float3D, (·.direction), fun s x => { s with direction := x }⟩,
    ⟨u32, (·.angularDiameterDegrees), fun s x => { s with angularDiameterDegrees := x }⟩]

def LightInfoDistant.serializable : Serializable LightInfoDistant :=
  folded true LightInfoDistantVars fun s => { s with pNext := none }

def LightInfoDomeVars : List (Member LightInfoDome) :=
  [⟨u32, (·.sType), fun s x => { s with sType := x }⟩,
    ⟨transform, (·.transform), fun s x => { s with transform := x }⟩,
    ⟨path, (·.colorTexture), fun s x => { s with colorTexture := x }⟩]

def LightInfoDome.serializable : Serializable LightInfoDome :=
  folded false LightInfoDomeVars fun s => { s with pNext := none }

def LightInfoUSDVars : List (Member LightInfoUSD) :=
  [⟨u32, (·.sType), fun s x => { s with sType := x }⟩,
    ⟨u32, (·.lightType), fun s x => { s with lightType := x }⟩,
    ⟨transform, (·.transform), fun s x => { s with transform := x }⟩]

def LightInfoUSDOptionalVars : List (Member LightInfoUSD) :=
  [⟨optionalPointer u32, (·.pRadius), fun s x => { s with pRadius := x }⟩,
    ⟨optionalPointer u32, (·.pWidth), fun s x => { s with pWidth := x }⟩,
    ⟨optionalPointer u32, (·.pHeight), fun s x => { s with pHeight := x }⟩,
    ⟨optionalPointer u32, (·.pLength), fun s x => { s with pLength := x }⟩,
    ⟨optionalPointer u32, (·.pAngleRadians), fun s x => { s with pAngleRadians := x }⟩,
    ⟨optionalPointer u32, (·.pEnableColorTemp), fun s x => { s with pEnableColorTemp := x }⟩,
    ⟨optionalPointer float3D, (·.pColor), fun s x => { s with pColor := x }⟩,
    ⟨optionalPointer u32, (·.pColorTemp), fun s x => { s with pColorTemp := x }⟩,
    ⟨optionalPointer u32, (·.pExposure), fun s x => { s with pExposure := x }⟩,
    ⟨optionalPointer u32, (·.pIntensity), fun s x => { s with pIntensity := x }⟩,
    ⟨optionalPointer u32, (·.pConeAngleRadians), fun s x => { s with pConeAngleRadians := x }⟩,
    ⟨optionalPointer u32, (·.pConeSoftness), fun s x => { s with pConeSoftness := x }⟩,
    ⟨optionalPointer u32, (·.pFocus), fun s x => { s with pFocus := x }⟩]

def LightInfoUSD.serializable : Serializable LightInfoUSD :=
  folded false (LightInfoUSDVars ++ LightInfoUSDOptionalVars) fun s => { s with pNext := none }

end RemixBridge.Remix
