import RemixBridge.Remix.Serialization

/-!
# Remix — RoundTrips

What reading a value of the Remix API back from its bytes gives.  A list of members that is shorter
than the structure leaves the other members as they were in the object that is read into.

* `folded_roundTrips`: when a type with listed members comes back.
* `MeshInfo.unskinned_comes_back`: what of a mesh without bones comes back.
* `MeshInfoSurfaceTriangles.serialize_skinned`: no mesh with bones can be written.
* `round_trips`: which values come back whole, in exactly as many bytes as was said.
-/

namespace RemixBridge.Remix
open Serial

/-! ### Sizes -/

theorem length_bits (k : Nat) (w : BitVec (8 * k)) : ((Codec.bits k).serialize w).length = k :=
  length_bytesOf k w.toNat

@[simp] theorem length_u8 (w : BitVec 8) : (u8.serialize w).length = 1 := length_bits 1 w
@[simp] theorem length_u32 (w : Word) : (u32.serialize w).length = 4 := length_bits 4 w
@[simp] theorem length_u64 (w : BitVec 64) : (u64.serialize w).length = 8 := length_bits 8 w

theorem length_flatMap_const {α : Type} {f : α → List Byte} {k : Nat}
    (h : ∀ a, (f a).length = k) (as : List α) : (as.flatMap f).length = as.length * k := by
  induction as with
  | nil => exact (Nat.zero_mul k).symm
  | cons a as ih =>
      rw [List.flatMap_cons, List.length_append, h, ih, List.length_cons, Nat.succ_mul,
        Nat.add_comm]

theorem length_array {α : Type} {c : Codec α} {k : Nat} (h : ∀ a, (c.serialize a).length = k)
    (n : Nat) (v : Fin n → α) : ((c.array n).serialize v).length = n * k := by
  have hlen := length_flatMap_const h (List.ofFn v)
  rwa [List.length_ofFn] at hlen

@[simp] theorem length_float3D (v : Float3D) : (float3D.serialize v).length = 12 :=
  length_array length_u32 3 v

@[simp] theorem length_transform (v : Transform) : (transform.serialize v).length = 48 :=
  length_array (length_array length_u32 4) 3 v

/-- The bytes that a path takes. -/
def pathBytes : Path → Nat
  | none   => 1
  | some s => 1 + 2 * (s.units.length + 1)

@[simp] theorem length_path (p : Path) : (path.serialize p).length = pathBytes p := by
  cases p with
  | none => rfl
  | some s =>
      have hunits : ((s.units ++ [0]).flatMap unitBytes).length = (s.units ++ [0]).length * 2 :=
        length_flatMap_const (fun u : BitVec 16 => length_bytesOf 2 u.toNat) _
      have hsome : path.serialize (some s) =
          [boolByte true] ++ (s.units ++ [0]).flatMap unitBytes := rfl
      rw [hsome, List.length_append, hunits, pathBytes, List.length_append, List.length_singleton,
        List.length_singleton]
      omega

theorem serialize_nil {σ : Type} (v : σ) : Serial.serialize [] v = [] := rfl

theorem serialize_cons {σ : Type} (f : Member σ) (fields : List (Member σ)) (v : σ) :
    Serial.serialize (f :: fields) v = f.codec.serialize (f.get v) ++ Serial.serialize fields v :=
  rfl

/-! ### Listed members -/

/-- **Listed members.**  The value comes back if the list leaves nothing of the object that is read
into, and the size is told if it is one of 32 bits. -/
theorem folded_roundTrips {σ : Type} {b : Bool} {vars : List (Member σ)} {unchained : σ → σ}
    (hstatic : b = true → ∀ d v, Serial.calcSize vars d = Serial.calcSize vars v) (v : σ) :
    (folded b vars unchained).RoundTrips v ↔
      (∀ u, assign vars v (unchained u) = unchained v) ∧
        4 + (Serial.serialize vars v).length < 2 ^ 32 := by
  let S := folded b vars unchained
  have hsize (d : σ) :
      (S.size d v).toNat = (4 + (Serial.serialize vars v).length) % 2 ^ 32 := by
    have hcalc : S.size d v = Serial.calcSize vars v + 4 := by
      cases b with
      | false => rfl
      | true => exact congrArg (· + 4) (hstatic rfl d v)
    rw [hcalc, calcSize_eq, BitVec.toNat_add, BitVec.toNat_ofNat]
    simp [Nat.add_comm]
  have hwrite (d : σ) : S.serialize d v =
      some (u32.serialize (S.size d v) ++ Serial.serialize vars v) := rfl
  have hread (d u : σ) :
      S.deserialize (u32.serialize (S.size d v) ++ Serial.serialize vars v) u =
        some (assign vars v (unchained u), []) := by
    have h := deserialize_serialize vars v (unchained u) []
    rw [List.append_nil] at h
    unfold Serializable.deserialize
    rw [u32.round]
    exact h
  have hlen (d : σ) : (u32.serialize (S.size d v) ++ Serial.serialize vars v).length =
      4 + (Serial.serialize vars v).length := by
    rw [List.length_append, length_u32]
  constructor
  · intro h
    refine ⟨fun u => ?_, ?_⟩
    · obtain ⟨bytes, hb, -, hr⟩ := h v u
      cases (hwrite v).symm.trans hb
      exact (Prod.mk.inj (Option.some.inj ((hread v u).symm.trans hr))).1
    · obtain ⟨bytes, hb, hl, -⟩ := h v v
      cases (hwrite v).symm.trans hb
      have heq := (hlen v).symm.trans (hl.trans (hsize v))
      rw [heq]
      exact Nat.mod_lt _ (by decide)
  · rintro ⟨hassign, hfit⟩ d u
    refine ⟨_, hwrite d, ?_, ?_⟩
    · rw [hlen, hsize, Nat.mod_eq_of_lt hfit]
    · rw [hread, hassign]
      rfl

/-- A member that the list leaves out. -/
theorem not_roundTrips {σ α : Type} {b : Bool} {vars : List (Member σ)} {unchained : σ → σ}
    (hstatic : b = true → ∀ d v, Serial.calcSize vars d = Serial.calcSize vars v) {v u : σ}
    (get : σ → α) (hkept : get (assign vars v (unchained u)) = get u)
    (hget : get (unchained v) = get v) (hne : get u ≠ get v) :
    ¬ (folded b vars unchained).RoundTrips v := by
  intro h
  have hassign := ((folded_roundTrips hstatic v).mp h).1 u
  exact hne (hkept.symm.trans ((congrArg get hassign).trans hget))

/-! ### Types that come back -/

/-- The bytes of a value, its size word included. -/
def MaterialInfo.bytes (v : MaterialInfo) : Nat :=
  38 + pathBytes v.albedoTexture + pathBytes v.normalTexture + pathBytes v.tangentTexture +
    pathBytes v.emissiveTexture

def MaterialInfoOpaque.bytes (v : MaterialInfoOpaque) : Nat :=
  77 + pathBytes v.roughnessTexture + pathBytes v.metallicTexture + pathBytes v.heightTexture

def MaterialInfoTranslucent.bytes (v : MaterialInfoTranslucent) : Nat :=
  40 + pathBytes v.transmittanceTexture

def LightInfoDome.bytes (v : LightInfoDome) : Nat :=
  56 + pathBytes v.colorTexture

theorem MaterialInfo.roundTrips_iff (v : MaterialInfo) :
    MaterialInfo.serializable.RoundTrips v ↔ v.bytes < 2 ^ 32 := by
  have hlen : 4 + (Serial.serialize MaterialInfoVars v).length = v.bytes := by
    simp [MaterialInfoVars, serialize_cons, serialize_nil, MaterialInfo.bytes]
    omega
  exact (folded_roundTrips (b := false) (fun h => nomatch h) v).trans
    ⟨fun h => hlen ▸ h.2, fun h => ⟨fun _ => rfl, hlen ▸ h⟩⟩

theorem MaterialInfoOpaque.roundTrips_iff (v : MaterialInfoOpaque) :
    MaterialInfoOpaque.serializable.RoundTrips v ↔ v.bytes < 2 ^ 32 := by
  have hlen : 4 + (Serial.serialize MaterialInfoOpaqueVars v).length = v.bytes := by
    simp [MaterialInfoOpaqueVars, serialize_cons, serialize_nil, MaterialInfoOpaque.bytes]
    omega
  exact (folded_roundTrips (b := false) (fun h => nomatch h) v).trans
    ⟨fun h => hlen ▸ h.2, fun h => ⟨fun _ => rfl, hlen ▸ h⟩⟩

theorem MaterialInfoTranslucent.roundTrips_iff (v : MaterialInfoTranslucent) :
    MaterialInfoTranslucent.serializable.RoundTrips v ↔ v.bytes < 2 ^ 32 := by
  have hlen : 4 + (Serial.serialize MaterialInfoTranslucentVars v).length = v.bytes := by
    simp [MaterialInfoTranslucentVars, serialize_cons, serialize_nil, MaterialInfoTranslucent.bytes]
    omega
  exact (folded_roundTrips (b := false) (fun h => nomatch h) v).trans
    ⟨fun h => hlen ▸ h.2, fun h => ⟨fun _ => rfl, hlen ▸ h⟩⟩

theorem LightInfoDome.roundTrips_iff (v : LightInfoDome) :
    LightInfoDome.serializable.RoundTrips v ↔ v.bytes < 2 ^ 32 := by
  have hlen : 4 + (Serial.serialize LightInfoDomeVars v).length = v.bytes := by
    simp [LightInfoDomeVars, serialize_cons, serialize_nil, LightInfoDome.bytes]
    omega
  exact (folded_roundTrips (b := false) (fun h => nomatch h) v).trans
    ⟨fun h => hlen ▸ h.2, fun h => ⟨fun _ => rfl, hlen ▸ h⟩⟩

theorem MaterialInfoPortal.roundTrips (v : MaterialInfoPortal) :
    MaterialInfoPortal.serializable.RoundTrips v := by
  refine (folded_roundTrips (fun _ _ _ => rfl) v).mpr ⟨fun _ => rfl, ?_⟩
  simp [MaterialInfoPortalVars, serialize_cons, serialize_nil]

theorem InstanceInfo.roundTrips (v : InstanceInfo) : InstanceInfo.serializable.RoundTrips v := by
  refine (folded_roundTrips (fun _ _ _ => rfl) v).mpr ⟨fun _ => rfl, ?_⟩
  simp [InstanceInfoVars, serialize_cons, serialize_nil]

theorem InstanceInfoBlend.roundTrips (v : InstanceInfoBlend) :
    InstanceInfoBlend.serializable.RoundTrips v := by
  refine (folded_roundTrips (fun _ _ _ => rfl) v).mpr ⟨fun _ => rfl, ?_⟩
  simp [InstanceInfoBlendVars, serialize_cons, serialize_nil]

theorem LightInfo.roundTrips (v : LightInfo) : LightInfo.serializable.RoundTrips v := by
  refine (folded_roundTrips (fun _ _ _ => rfl) v).mpr ⟨fun _ => rfl, ?_⟩
  simp [LightInfoVars, serialize_cons, serialize_nil]

/-! ### Types that do not -/

theorem add_one_ne (w : Word) : w + 1 ≠ w := by
  intro h
  simp at h

theorem MaterialInfoOpaqueSubsurface.not_roundTrips (v : MaterialInfoOpaqueSubsurface) :
    ¬ MaterialInfoOpaqueSubsurface.serializable.RoundTrips v :=
  Remix.not_roundTrips (b := false) (fun h => nomatch h)
    (u := { v with subsurfaceRadiusScale := v.subsurfaceRadiusScale + 1 })
    (·.subsurfaceRadiusScale) rfl rfl (add_one_ne _)

theorem InstanceInfoObjectPicking.not_roundTrips (v : InstanceInfoObjectPicking) :
    ¬ InstanceInfoObjectPicking.serializable.RoundTrips v :=
  Remix.not_roundTrips (fun _ _ _ => rfl)
    (u := { v with sType := v.sType + 1 }) (·.sType) rfl rfl (add_one_ne _)

theorem LightInfoSphere.not_roundTrips (v : LightInfoSphere) :
    ¬ LightInfoSphere.serializable.RoundTrips v :=
  Remix.not_roundTrips (fun _ _ _ => rfl)
    (u := { v with volumetricRadianceScale := v.volumetricRadianceScale + 1 })
    (·.volumetricRadianceScale) rfl rfl (add_one_ne _)

theorem LightInfoRect.not_roundTrips (v : LightInfoRect) :
    ¬ LightInfoRect.serializable.RoundTrips v :=
  Remix.not_roundTrips (fun _ _ _ => rfl)
    (u := { v with volumetricRadianceScale := v.volumetricRadianceScale + 1 })
    (·.volumetricRadianceScale) rfl rfl (add_one_ne _)

theorem LightInfoDisk.not_roundTrips (v : LightInfoDisk) :
    ¬ LightInfoDisk.serializable.RoundTrips v :=
  Remix.not_roundTrips (fun _ _ _ => rfl)
    (u := { v with volumetricRadianceScale := v.volumetricRadianceScale + 1 })
    (·.volumetricRadianceScale) rfl rfl (add_one_ne _)

theorem LightInfoCylinder.not_roundTrips (v : LightInfoCylinder) :
    ¬ LightInfoCylinder.serializable.RoundTrips v :=
  Remix.not_roundTrips (fun _ _ _ => rfl)
    (u := { v with volumetricRadianceScale := v.volumetricRadianceScale + 1 })
    (·.volumetricRadianceScale) rfl rfl (add_one_ne _)

theorem LightInfoDistant.not_roundTrips (v : LightInfoDistant) :
    ¬ LightInfoDistant.serializable.RoundTrips v :=
  Remix.not_roundTrips (fun _ _ _ => rfl)
    (u := { v with volumetricRadianceScale := v.volumetricRadianceScale + 1 })
    (·.volumetricRadianceScale) rfl rfl (add_one_ne _)

theorem LightInfoUSD.not_roundTrips (v : LightInfoUSD) : ¬ LightInfoUSD.serializable.RoundTrips v :=
  Remix.not_roundTrips (b := false) (fun h => nomatch h)
    (u := { v with
      pVolumetricRadianceScale := v.pVolumetricRadianceScale.elim (some 0) fun _ => none })
    (·.pVolumetricRadianceScale) rfl rfl (by cases v.pVolumetricRadianceScale <;> simp)

/-! ### Arrays -/

theorem toNat_count {α : Type} {size : Nat} (hsize : 0 < size) (as : CArray α size) :
    as.count.toNat = as.1.length := by
  have hle : as.1.length ≤ as.1.length * size := Nat.le_mul_of_pos_right _ hsize
  rw [CArray.count, BitVec.toNat_ofNat, Nat.mod_eq_of_lt (Nat.lt_of_le_of_lt hle as.2)]

theorem toNat_count_mul_four (words : CArray Word 4) :
    (words.count * 4).toNat = words.1.length * 4 := by
  have h4 : (4 : Word).toNat = 4 := rfl
  rw [BitVec.toNat_mul, toNat_count (by decide), h4, Nat.mod_eq_of_lt words.2]

theorem copyWords_all {words : CArray Word 4} {size : Word}
    (h : size.toNat = words.1.length * 4) :
    copyWords words size = some (words.1.flatMap u32.serialize) := by
  have hlen := length_flatMap_const length_u32 words.1
  unfold copyWords
  rw [h, if_pos (Nat.le_refl _), List.take_of_length_le (Nat.le_of_eq hlen)]

theorem copyWords_whole (words : CArray Word 4) :
    copyWords words (words.count * 4) = some (words.1.flatMap u32.serialize) :=
  copyWords_all (toNat_count_mul_four words)

theorem deserialize_const_p_whole (words : CArray Word 4) (rest : List Byte) :
    deserialize_const_p words.count (words.count * 4) (words.1.flatMap u32.serialize ++ rest) =
      some (words, rest) := by
  have hlen := length_flatMap_const length_u32 words.1
  have hmany := u32.deserializeMany_flatMap words.1 []
  rw [List.append_nil] at hmany
  unfold deserialize_const_p
  rw [toNat_count_mul_four, take_append hlen, toNat_count (by decide)]
  simpa [hmany] using words.2

theorem for_each_whole {α : Type} {size : Nat} (c : Codec α) (as : CArray α size)
    (rest : List Byte) :
    deserialize_const_p_for_each c as.1.length (as.1.flatMap c.serialize ++ rest) =
      some (as, rest) := by
  unfold deserialize_const_p_for_each
  rw [c.deserializeMany_flatMap]
  simpa using as.2

theorem InstanceInfoTransforms.roundTrips (v : InstanceInfoTransforms) :
    InstanceInfoTransforms.serializable.RoundTrips v := by
  intro d u
  have hfits := v.boneTransforms.2
  have hcount := toNat_count (by decide) v.boneTransforms
  have hxforms := length_flatMap_const length_transform v.boneTransforms.1
  refine ⟨_, rfl, ?_, ?_⟩
  · have hsize : (serializable.size d v).toNat = 12 + 48 * v.boneTransforms.1.length := by
      have h48 : (48 : Word).toNat = 48 := rfl
      have hcalc : serializable.size d v = 4 + 4 + 48 * v.boneTransforms.count + 4 := rfl
      have h4 : (4 : Word).toNat = 4 := rfl
      rw [hcalc]
      simp only [BitVec.toNat_add, BitVec.toNat_mul, hcount, h48, h4]
      omega
    rw [hsize]
    simp only [serializeMembers, List.length_append, length_u32, hxforms]
    omega
  · have hread := for_each_whole transform v.boneTransforms []
    rw [List.append_nil] at hread
    simp only [Serializable.deserialize, serializable, deserializeMembers, serializeMembers]
    rw [u32.round]
    simp only [Option.bind_eq_bind, Option.bind_some, u32.round, hcount, hread]
    rfl

/-! ### Meshes -/

/-- The chain is left as it was. -/
theorem MeshInfo.deserializeMembers_pNext {heap : Nat → MeshInfoSkinning} {bs rest : List Byte}
    {s m : MeshInfo} (h : deserializeMembers heap bs s = some (m, rest)) : m.pNext = s.pNext := by
  simp only [deserializeMembers, Option.bind_eq_bind, Option.bind_eq_some_iff] at h
  obtain ⟨_, -, _, -, _, -, _, -, h⟩ := h
  split at h
  · cases h
    rfl
  · cases h

namespace MeshInfoSurfaceTriangles

@[simp] theorem length_hardcodedVertex (v : HardcodedVertex) :
    (hardcodedVertex.serialize v).length = 36 := by
  have h3 (p : Fin 3 → Word) : ((u32.array 3).serialize p).length = 12 :=
    length_array length_u32 3 p
  have h2 (p : Fin 2 → Word) : ((u32.array 2).serialize p).length = 8 :=
    length_array length_u32 2 p
  simp [hardcodedVertex, Codec.record, serialize_cons, serialize_nil, h3, h2]

/-- The bytes of a surface without bones. -/
def unskinnedBytes (surface : MeshInfoSurfaceTriangles) : List Byte :=
  u64.serialize (BitVec.ofNat 64 surface.vertices.1.length) ++
    (surface.vertices.1.flatMap hardcodedVertex.serialize ++
      (u64.serialize (BitVec.ofNat 64 surface.indices.1.length) ++
        (surface.indices.1.flatMap u32.serialize ++
          (u32.serialize surface.skinning_hasvalue ++ u32.serialize surface.material))))

theorem serialize_unskinned {surface : MeshInfoSurfaceTriangles}
    (h : surface.skinning_hasvalue = 0) :
    surface.serialize = some surface.unskinnedBytes := by
  have hcopy := copyWords_whole surface.indices
  unfold serialize
  rw [hcopy, h]
  simp [unskinnedBytes, h]

theorem sizeOf_unskinned {surface : MeshInfoSurfaceTriangles}
    (h : surface.skinning_hasvalue = 0) :
    surface.sizeOf = BitVec.ofNat 32 surface.unskinnedBytes.length := by
  have hvlen := length_flatMap_const length_hardcodedVertex surface.vertices.1
  have hilen := length_flatMap_const length_u32 surface.indices.1
  simp only [sizeOf, CArray.count, h, ne_eq, not_true_eq_false, if_false, unskinnedBytes,
    List.length_append, length_u64, length_u32, hvlen, hilen, BitVec.ofNat_add, BitVec.ofNat_mul]
  simp only [BitVec.add_assoc]
  rfl

/-- What stands for the bones is what was in memory. -/
theorem deserialize_unskinned {surface : MeshInfoSurfaceTriangles}
    (h : surface.skinning_hasvalue = 0) (uninit : MeshInfoSkinning) (rest : List Byte) :
    deserialize (surface.unskinnedBytes ++ rest) uninit =
      some ({ surface with skinning_value := uninit }, rest) := by
  have hvertices := surface.vertices.2
  have hv := for_each_whole hardcodedVertex surface.vertices
  have hi := deserialize_const_p_whole surface.indices
  have hcount : (BitVec.ofNat 64 surface.indices.1.length).setWidth 32 = surface.indices.count :=
    BitVec.setWidth_ofNat_of_le (by decide) _
  have hnum : (BitVec.ofNat 64 surface.vertices.1.length).toNat = surface.vertices.1.length := by
    rw [BitVec.toNat_ofNat, Nat.mod_eq_of_lt (by omega)]
  simp only [deserialize, unskinnedBytes, List.append_assoc, u64.round, u32.round,
    Option.bind_eq_bind, Option.bind_some, hnum, hv, hcount, hi, h, ne_eq, not_true_eq_false,
    if_false]
  rw [← h]
  rfl

end MeshInfoSurfaceTriangles

/-- No bones. -/
def MeshInfoSkinning.empty : MeshInfoSkinning where
  bonesPerVertex := 0
  blendWeights := ⟨[], by decide⟩
  blendIndices := ⟨[], by decide⟩

namespace MeshInfo

/-- Surfaces read into memory that holds `heap`. -/
def readInto : List MeshInfoSurfaceTriangles → (Nat → MeshInfoSkinning) →
    List MeshInfoSurfaceTriangles
  | [], _                   => []
  | surface :: surfaces, heap =>
      { surface with skinning_value := heap 0 } :: readInto surfaces fun i => heap (i + 1)

theorem length_readInto (surfaces : List MeshInfoSurfaceTriangles)
    (heap : Nat → MeshInfoSkinning) : (readInto surfaces heap).length = surfaces.length := by
  induction surfaces generalizing heap with
  | nil => rfl
  | cons surface surfaces ih => exact congrArg (· + 1) (ih _)

variable {surfaces : List MeshInfoSurfaceTriangles}

theorem serializeSurfaces_unskinned (h : ∀ s ∈ surfaces, s.skinning_hasvalue = 0) :
    serializeSurfaces surfaces =
      some (surfaces.flatMap MeshInfoSurfaceTriangles.unskinnedBytes) := by
  induction surfaces with
  | nil => rfl
  | cons surface surfaces ih =>
      have hrest := ih fun s hs => h s (List.mem_cons_of_mem _ hs)
      have hfirst := MeshInfoSurfaceTriangles.serialize_unskinned (h surface List.mem_cons_self)
      rw [serializeSurfaces, hfirst, hrest]
      rfl

theorem sum_sizeOf_unskinned (h : ∀ s ∈ surfaces, s.skinning_hasvalue = 0) :
    (surfaces.map MeshInfoSurfaceTriangles.sizeOf).sum =
      BitVec.ofNat 32 (surfaces.flatMap MeshInfoSurfaceTriangles.unskinnedBytes).length := by
  induction surfaces with
  | nil => rfl
  | cons surface surfaces ih =>
      have hrest := ih fun s hs => h s (List.mem_cons_of_mem _ hs)
      have hfirst := MeshInfoSurfaceTriangles.sizeOf_unskinned (h surface List.mem_cons_self)
      rw [List.map_cons, List.sum_cons, hfirst, hrest, List.flatMap_cons, List.length_append,
        BitVec.ofNat_add]

theorem deserializeSurfaces_unskinned (h : ∀ s ∈ surfaces, s.skinning_hasvalue = 0)
    (heap : Nat → MeshInfoSkinning) (rest : List Byte) :
    deserializeSurfaces surfaces.length
        (surfaces.flatMap MeshInfoSurfaceTriangles.unskinnedBytes ++ rest) heap =
      some (readInto surfaces heap, rest) := by
  induction surfaces generalizing heap with
  | nil => rfl
  | cons surface surfaces ih =>
      have hrest := ih (fun s hs => h s (List.mem_cons_of_mem _ hs)) fun i => heap (i + 1)
      have hfirst := MeshInfoSurfaceTriangles.deserialize_unskinned (h surface List.mem_cons_self)
      rw [List.length_cons, deserializeSurfaces, List.flatMap_cons, List.append_assoc, hfirst]
      simp only [Option.bind_eq_bind, Option.bind_some, hrest]
      rfl

/-- **Meshes without bones.**  The size is told and everything comes back but the chain, which is
not set. -/
theorem unskinned_comes_back {v : MeshInfo} (h : ∀ s ∈ v.surfaces.1, s.skinning_hasvalue = 0) :
    ∃ bytes, v.serializeMembers = some bytes ∧
      v.calcMembers = BitVec.ofNat 32 bytes.length ∧
      ∀ heap s, deserializeMembers heap bytes s =
        some ({ v with
          pNext := s.pNext
          surfaces := ⟨readInto v.surfaces.1 heap,
            (length_readInto v.surfaces.1 heap).symm ▸ v.surfaces.2⟩ }, []) := by
  have hfits := v.surfaces.2
  have hcount := toNat_count (by decide) v.surfaces
  refine ⟨u32.serialize v.sType ++ (u64.serialize v.hash ++ (u32.serialize v.surfaces.count ++
    v.surfaces.1.flatMap MeshInfoSurfaceTriangles.unskinnedBytes)), ?_, ?_, fun heap s => ?_⟩
  · rw [serializeMembers, serializeSurfaces_unskinned h]
    rfl
  · rw [calcMembers, sum_sizeOf_unskinned h]
    simp only [List.length_append, length_u32, length_u64, BitVec.ofNat_add]
    simp only [BitVec.add_assoc]
    rfl
  · have hread := deserializeSurfaces_unskinned h heap []
    rw [List.append_nil] at hread
    simp only [deserializeMembers, u32.round, u64.round, Option.bind_eq_bind, Option.bind_some,
      hcount, hread]
    rw [dif_pos ((length_readInto v.surfaces.1 heap).symm ▸ hfits)]
    rfl

end MeshInfo

/-- **Meshes with bones.**  The size of the weights counts the vertices twice, once in the count of
the weights, and the copy runs past their end as soon as there are two weights. -/
theorem MeshInfoSurfaceTriangles.serialize_skinned {surface : MeshInfoSurfaceTriangles}
    {n : Nat} (hn : 2 ≤ n) (hfits : n * n * 4 < 2 ^ 32) (hskinned : surface.skinning_hasvalue ≠ 0)
    (hbones : surface.vertices.1.length * surface.skinning_value.bonesPerVertex.toNat = n)
    (hweights : surface.skinning_value.blendWeights.1.length = n) :
    surface.serialize = none := by
  have hcopy : copyWords surface.skinning_value.blendWeights
      (surface.vertices.count * blendWeightSizePerVtx surface.skinning_value) = none := by
    have hv := toNat_count (by decide) surface.vertices
    have hw := toNat_count (by decide) surface.skinning_value.blendWeights
    have h4 : (4 : Word).toNat = 4 := rfl
    have hsize : (surface.vertices.count * blendWeightSizePerVtx surface.skinning_value).toNat =
        n * n * 4 := by
      rw [blendWeightSizePerVtx, BitVec.toNat_mul, BitVec.toNat_mul, BitVec.toNat_mul, hv, hw, h4,
        hweights, Nat.mod_mul_mod, Nat.mul_mod_mod, ← Nat.mul_assoc, ← Nat.mul_assoc,
        Nat.mul_right_comm _ n, hbones, Nat.mod_eq_of_lt hfits]
    have hlong : n * 4 < n * n * 4 := by
      have hsq : n * 2 ≤ n * n := Nat.mul_le_mul_left n hn
      omega
    unfold copyWords
    rw [hsize, hweights, if_neg (Nat.not_le.mpr hlong)]
  unfold serialize
  cases copyWords surface.indices (surface.indices.count * 4) with
  | none => rfl
  | some indices =>
      simp only [Option.bind_eq_bind, Option.bind_some, if_pos hskinned, serializeSkinning, hcopy]
      rfl

theorem MeshInfo.not_roundTrips (heap : Nat → MeshInfoSkinning) (v : MeshInfo) :
    ¬ (MeshInfo.serializable heap).RoundTrips v := by
  intro h
  obtain ⟨bytes, -, -, hread⟩ := h v { v with pNext := some 0 }
  unfold Serializable.deserialize at hread
  simp only [Option.bind_eq_bind, Option.bind_eq_some_iff] at hread
  obtain ⟨_, -, hread⟩ := hread
  have hkept := deserializeMembers_pNext hread
  cases hkept

/-! ### All the types -/

/-- A value of a serializable type. -/
inductive Info where
  | materialInfo (v : MaterialInfo)
  | materialInfoOpaque (v : MaterialInfoOpaque)
  | materialInfoOpaqueSubsurface (v : MaterialInfoOpaqueSubsurface)
  | materialInfoTranslucent (v : MaterialInfoTranslucent)
  | materialInfoPortal (v : MaterialInfoPortal)
  | meshInfo (v : MeshInfo)
  | instanceInfo (v : InstanceInfo)
  | instanceInfoObjectPicking (v : InstanceInfoObjectPicking)
  | instanceInfoBlend (v : InstanceInfoBlend)
  | instanceInfoTransforms (v : InstanceInfoTransforms)
  | lightInfo (v : LightInfo)
  | lightInfoSphere (v : LightInfoSphere)
  | lightInfoRect (v : LightInfoRect)
  | lightInfoDisk (v : LightInfoDisk)
  | lightInfoCylinder (v : LightInfoCylinder)
  | lightInfoDistant (v : LightInfoDistant)
  | lightInfoDome (v : LightInfoDome)
  | lightInfoUSD (v : LightInfoUSD)

namespace Info

/-- The value comes back in the bytes that it is said to take. -/
def RoundTrips : Info → Prop
  | .materialInfo v => MaterialInfo.serializable.RoundTrips v
  | .materialInfoOpaque v => MaterialInfoOpaque.serializable.RoundTrips v
  | .materialInfoOpaqueSubsurface v => MaterialInfoOpaqueSubsurface.serializable.RoundTrips v
  | .materialInfoTranslucent v => MaterialInfoTranslucent.serializable.RoundTrips v
  | .materialInfoPortal v => MaterialInfoPortal.serializable.RoundTrips v
  | .meshInfo v => ∀ heap, (MeshInfo.serializable heap).RoundTrips v
  | .instanceInfo v => InstanceInfo.serializable.RoundTrips v
  | .instanceInfoObjectPicking v => InstanceInfoObjectPicking.serializable.RoundTrips v
  | .instanceInfoBlend v => InstanceInfoBlend.serializable.RoundTrips v
  | .instanceInfoTransforms v => InstanceInfoTransforms.serializable.RoundTrips v
  | .lightInfo v => LightInfo.serializable.RoundTrips v
  | .lightInfoSphere v => LightInfoSphere.serializable.RoundTrips v
  | .lightInfoRect v => LightInfoRect.serializable.RoundTrips v
  | .lightInfoDisk v => LightInfoDisk.serializable.RoundTrips v
  | .lightInfoCylinder v => LightInfoCylinder.serializable.RoundTrips v
  | .lightInfoDistant v => LightInfoDistant.serializable.RoundTrips v
  | .lightInfoDome v => LightInfoDome.serializable.RoundTrips v
  | .lightInfoUSD v => LightInfoUSD.serializable.RoundTrips v

/-- The type lists every member, and the bytes are fewer than `2 ^ 32`. -/
def Listed : Info → Prop
  | .materialInfo v => v.bytes < 2 ^ 32
  | .materialInfoOpaque v => v.bytes < 2 ^ 32
  | .materialInfoOpaqueSubsurface _ => False
  | .materialInfoTranslucent v => v.bytes < 2 ^ 32
  | .materialInfoPortal _ => True
  | .meshInfo _ => False
  | .instanceInfo _ => True
  | .instanceInfoObjectPicking _ => False
  | .instanceInfoBlend _ => True
  | .instanceInfoTransforms _ => True
  | .lightInfo _ => True
  | .lightInfoSphere _ => False
  | .lightInfoRect _ => False
  | .lightInfoDisk _ => False
  | .lightInfoCylinder _ => False
  | .lightInfoDistant _ => False
  | .lightInfoDome v => v.bytes < 2 ^ 32
  | .lightInfoUSD _ => False

end Info

/-- **Round trip.**  A value comes back whole, in the bytes that it is said to take, if its type
lists every member of the structure and the bytes are fewer than `2 ^ 32`, and otherwise not. -/
theorem round_trips (i : Info) : i.RoundTrips ↔ i.Listed := by
  cases i with
  | materialInfo v => exact MaterialInfo.roundTrips_iff v
  | materialInfoOpaque v => exact MaterialInfoOpaque.roundTrips_iff v
  | materialInfoOpaqueSubsurface v =>
      exact iff_of_false (MaterialInfoOpaqueSubsurface.not_roundTrips v) id
  | materialInfoTranslucent v => exact MaterialInfoTranslucent.roundTrips_iff v
  | materialInfoPortal v => exact iff_of_true (MaterialInfoPortal.roundTrips v) trivial
  | meshInfo v => exact iff_of_false (fun h => MeshInfo.not_roundTrips _ v (h fun _ => .empty)) id
  | instanceInfo v => exact iff_of_true (InstanceInfo.roundTrips v) trivial
  | instanceInfoObjectPicking v =>
      exact iff_of_false (InstanceInfoObjectPicking.not_roundTrips v) id
  | instanceInfoBlend v => exact iff_of_true (InstanceInfoBlend.roundTrips v) trivial
  | instanceInfoTransforms v => exact iff_of_true (InstanceInfoTransforms.roundTrips v) trivial
  | lightInfo v => exact iff_of_true (LightInfo.roundTrips v) trivial
  | lightInfoSphere v => exact iff_of_false (LightInfoSphere.not_roundTrips v) id
  | lightInfoRect v => exact iff_of_false (LightInfoRect.not_roundTrips v) id
  | lightInfoDisk v => exact iff_of_false (LightInfoDisk.not_roundTrips v) id
  | lightInfoCylinder v => exact iff_of_false (LightInfoCylinder.not_roundTrips v) id
  | lightInfoDistant v => exact iff_of_false (LightInfoDistant.not_roundTrips v) id
  | lightInfoDome v => exact LightInfoDome.roundTrips_iff v
  | lightInfoUSD v => exact iff_of_false (LightInfoUSD.not_roundTrips v) id

/-- The volumetric radiance scale of a sphere light is lost. -/
theorem sphere_loses_scale :
    ¬ Info.RoundTrips (.lightInfoSphere
      { sType := 11, pNext := none, position := fun _ => 0, radius := 0x3f800000
        shaping_hasvalue := 0, shaping_value := ⟨fun _ => 0, 0, 0, 0⟩
        volumetricRadianceScale := 0x3f800000 }) :=
  LightInfoSphere.not_roundTrips _

end RemixBridge.Remix
