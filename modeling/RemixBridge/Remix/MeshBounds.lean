import RemixBridge.Remix.RoundTrips
import Mathlib.Tactic.Ring

/-!
# Remix — MeshBounds

What is read of the arrays of a mesh when it is serialized.  The size of the weights of a surface is
its number of vertices times the weights that each vertex is said to have, which is the number of
all the weights times the bones.

* `staysInBounds_iff`: the meshes that are read within their arrays, and whose sizes do not
  overflow.
-/

namespace RemixBridge.Remix
open Serial

namespace MeshInfoSurfaceTriangles

variable (surface : MeshInfoSurfaceTriangles)

/-- The number of weights, and of indices of bones, that a surface has by its documentation. -/
def tuples : Nat := surface.vertices.1.length * surface.skinning_value.bonesPerVertex.toNat

/-- A surface whose arrays have the lengths that are documented. -/
def Documented : Prop :=
  surface.skinning_hasvalue ≠ 0 →
    surface.skinning_value.blendWeights.1.length = surface.tuples ∧
      surface.skinning_value.blendIndices.1.length = surface.tuples

/-- The bytes of a surface, with its arrays whole. -/
def byteCount : Nat :=
  24 + surface.vertices.1.length * 36 + surface.indices.1.length * 4 +
    if surface.skinning_hasvalue ≠ 0 then 12 + 8 * surface.tuples else 0

/-- The sizes of the weights and of the indices are computed without overflow. -/
def SkinningFits : Prop :=
  surface.skinning_hasvalue ≠ 0 →
    (surface.vertices.count * blendWeightSizePerVtx surface.skinning_value).toNat =
        surface.vertices.1.length * (surface.skinning_value.blendWeights.1.length *
          surface.skinning_value.bonesPerVertex.toNat * 4) ∧
      (surface.vertices.count * blendIndicesSizePerVtx surface.skinning_value).toNat =
        surface.vertices.1.length * (surface.skinning_value.blendIndices.1.length *
          surface.skinning_value.bonesPerVertex.toNat * 4)

/-- A surface with bones has no more than one weight. -/
def OneWeight : Prop := surface.skinning_hasvalue ≠ 0 → surface.tuples ≤ 1

end MeshInfoSurfaceTriangles

namespace MeshInfo

def Documented (v : MeshInfo) : Prop := ∀ surface ∈ v.surfaces.1, surface.Documented

/-- Nothing is read past the end of an array, the bytes that are written are as many as `size`
tells, and no size overflows. -/
def StaysInBounds (v : MeshInfo) : Prop :=
  (∀ heap dummyA, ∃ bytes, (serializable heap).serialize dummyA v = some bytes ∧
    bytes.length = ((serializable heap).size dummyA v).toNat) ∧
  ∀ surface ∈ v.surfaces.1, surface.SkinningFits

/-- The bytes of a mesh, with its size. -/
def byteCount (v : MeshInfo) : Nat :=
  20 + (v.surfaces.1.map MeshInfoSurfaceTriangles.byteCount).sum

end MeshInfo

/-! ### Surfaces -/

namespace MeshInfoSurfaceTriangles

variable {surface : MeshInfoSurfaceTriangles}

/-- A copy of some of an array. -/
theorem length_copyWords {words : CArray Word 4} {size : Word} {bytes : List Byte}
    (h : copyWords words size = some bytes) :
    size.toNat ≤ words.1.length * 4 ∧ bytes.length = size.toNat := by
  have hlen := length_flatMap_const length_u32 words.1
  unfold copyWords at h
  split at h
  · rename_i hle
    cases h
    exact ⟨hle, by rw [List.length_take, hlen]; exact min_eq_left hle⟩
  · cases h

/-- The vertices times the weights of each. -/
theorem vertices_mul (surface : MeshInfoSurfaceTriangles) (k : Nat) :
    surface.vertices.1.length * (k * surface.skinning_value.bonesPerVertex.toNat * 4) =
      surface.tuples * k * 4 := by
  rw [tuples]
  ring

/-- Of one weight, or of none, the size is right. -/
theorem toNat_size_of_le_one {words : CArray Word 4} (hwords : words.1.length = surface.tuples)
    (hone : surface.tuples ≤ 1) :
    (surface.vertices.count * (words.count * surface.skinning_value.bonesPerVertex * 4)).toNat =
      words.1.length * 4 := by
  have hv := toNat_count (by decide) surface.vertices
  have hw := toNat_count (by decide) words
  have h4 : (4 : Word).toNat = 4 := rfl
  have hsq : surface.tuples * surface.tuples = surface.tuples := by
    rcases Nat.le_one_iff_eq_zero_or_eq_one.mp hone with h | h <;> rw [h]
  rw [BitVec.toNat_mul, BitVec.toNat_mul, BitVec.toNat_mul, hv, hw, h4, Nat.mod_mul_mod,
    Nat.mul_mod_mod, vertices_mul, hwords, hsq, Nat.mod_eq_of_lt (by omega)]

theorem SkinningFits.of_oneWeight (hdoc : surface.Documented) (hone : surface.OneWeight) :
    surface.SkinningFits := by
  intro hskinned
  obtain ⟨hweights, hindices⟩ := hdoc hskinned
  have hsq : surface.tuples * surface.tuples = surface.tuples := by
    rcases Nat.le_one_iff_eq_zero_or_eq_one.mp (hone hskinned) with h | h <;> rw [h]
  refine ⟨?_, ?_⟩
  · rw [vertices_mul, hweights, hsq, ← hweights]
    exact toNat_size_of_le_one hweights (hone hskinned)
  · rw [vertices_mul, hindices, hsq, ← hindices]
    exact toNat_size_of_le_one hindices (hone hskinned)

/-- More than one weight is read past their end, if the size does not overflow. -/
theorem SkinningFits.oneWeight (h : surface.SkinningFits) (hdoc : surface.Documented)
    {bytes : List Byte} (hbytes : surface.serialize = some bytes) : surface.OneWeight := by
  intro hskinned
  obtain ⟨hsize, -⟩ := h hskinned
  obtain ⟨hweights, -⟩ := hdoc hskinned
  rw [vertices_mul, hweights] at hsize
  simp only [serialize, serializeSkinning, if_pos hskinned, Option.bind_eq_bind,
    Option.bind_eq_some_iff] at hbytes
  obtain ⟨_, -, _, ⟨weights, hcopy, -⟩, -⟩ := hbytes
  have hle := (length_copyWords hcopy).1
  rw [hsize, hweights] at hle
  by_contra hmore
  have hsq : surface.tuples * 2 ≤ surface.tuples * surface.tuples :=
    Nat.mul_le_mul_left _ (Nat.lt_of_not_le hmore)
  omega

/-- The bytes of the bones of a surface, with their arrays whole. -/
def skinningBytes (surface : MeshInfoSurfaceTriangles) : List Byte :=
  u32.serialize surface.skinning_value.bonesPerVertex ++
    (u32.serialize surface.skinning_value.blendWeights.count ++
      (surface.skinning_value.blendWeights.1.flatMap u32.serialize ++
        (u32.serialize surface.skinning_value.blendIndices.count ++
          surface.skinning_value.blendIndices.1.flatMap u32.serialize)))

/-- And of the surface. -/
def skinnedBytes (surface : MeshInfoSurfaceTriangles) : List Byte :=
  u64.serialize (BitVec.ofNat 64 surface.vertices.1.length) ++
    (surface.vertices.1.flatMap hardcodedVertex.serialize ++
      (u64.serialize (BitVec.ofNat 64 surface.indices.1.length) ++
        (surface.indices.1.flatMap u32.serialize ++ (u32.serialize surface.skinning_hasvalue ++
          (surface.skinningBytes ++ u32.serialize surface.material)))))

section OneWeight

variable (hskinned : surface.skinning_hasvalue ≠ 0) (hdoc : surface.Documented)
  (hone : surface.OneWeight)

include hskinned hdoc

theorem length_skinnedBytes : surface.skinnedBytes.length = surface.byteCount := by
  obtain ⟨hweights, hindices⟩ := hdoc hskinned
  have hverts := length_flatMap_const length_hardcodedVertex surface.vertices.1
  have hidxs := length_flatMap_const length_u32 surface.indices.1
  have hw := length_flatMap_const length_u32 surface.skinning_value.blendWeights.1
  have hi := length_flatMap_const length_u32 surface.skinning_value.blendIndices.1
  rw [byteCount, if_pos hskinned]
  simp only [skinnedBytes, skinningBytes, List.length_append, length_u64, length_u32, hverts,
    hidxs, hw, hi, hweights, hindices]
  omega

include hone

theorem serialize_skinnedBytes : surface.serialize = some surface.skinnedBytes := by
  obtain ⟨hweights, hindices⟩ := hdoc hskinned
  have hw := copyWords_all (toNat_size_of_le_one hweights (hone hskinned))
  have hi := copyWords_all (toNat_size_of_le_one hindices (hone hskinned))
  have hskinning : serializeSkinning surface.vertices.count surface.skinning_value =
      some surface.skinningBytes := by
    rw [serializeSkinning, blendWeightSizePerVtx, blendIndicesSizePerVtx, hw, hi]
    rfl
  simp only [serialize, copyWords_whole, if_pos hskinned, hskinning, Option.bind_eq_bind,
    Option.bind_some]
  rfl

theorem sizeOf_skinned : surface.sizeOf = BitVec.ofNat 32 surface.byteCount := by
  obtain ⟨hweights, hindices⟩ := hdoc hskinned
  have hw := toNat_size_of_le_one hweights (hone hskinned)
  have hi := toNat_size_of_le_one hindices (hone hskinned)
  have hv := toNat_count (by decide) surface.vertices
  have hidxs := toNat_count_mul_four surface.indices
  have h4 : (4 : Word).toNat = 4 := rfl
  have h8 : (8 : Word).toNat = 8 := rfl
  have h36 : (36 : Word).toNat = 36 := rfl
  rw [hweights] at hw
  rw [hindices] at hi
  refine BitVec.eq_of_toNat_eq ?_
  rw [sizeOf, if_pos hskinned, byteCount, if_pos hskinned, blendWeightSizePerVtx,
    blendIndicesSizePerVtx]
  simp only [BitVec.toNat_add, BitVec.toNat_ofNat, hw, hi, hidxs, h4, h8]
  rw [BitVec.toNat_mul, hv, h36]
  omega

end OneWeight

/-- **A surface of one weight.**  It is written whole, and its size is right. -/
theorem serialize_of_oneWeight (hdoc : surface.Documented) (hone : surface.OneWeight) :
    ∃ bytes, surface.serialize = some bytes ∧ bytes.length = surface.byteCount ∧
      surface.sizeOf = BitVec.ofNat 32 surface.byteCount := by
  by_cases hskinned : surface.skinning_hasvalue = 0
  · have hverts := length_flatMap_const length_hardcodedVertex surface.vertices.1
    have hidxs := length_flatMap_const length_u32 surface.indices.1
    have hlen : surface.unskinnedBytes.length = surface.byteCount := by
      rw [byteCount, if_neg (not_not.mpr hskinned)]
      simp only [unskinnedBytes, List.length_append, length_u64, length_u32, hverts, hidxs]
      omega
    exact ⟨_, serialize_unskinned hskinned, hlen, hlen ▸ sizeOf_unskinned hskinned⟩
  · exact ⟨_, serialize_skinnedBytes hskinned hdoc hone, length_skinnedBytes hskinned hdoc,
      sizeOf_skinned hskinned hdoc hone⟩

end MeshInfoSurfaceTriangles

/-! ### Meshes -/

namespace MeshInfo

variable {v : MeshInfo} {surfaces : List MeshInfoSurfaceTriangles}

/-- The surfaces, one after another. -/
theorem serializeSurfaces_of_oneWeight
    (h : ∀ surface ∈ surfaces, surface.Documented ∧ surface.OneWeight) :
    ∃ bytes, serializeSurfaces surfaces = some bytes ∧
      bytes.length = (surfaces.map MeshInfoSurfaceTriangles.byteCount).sum ∧
      (surfaces.map MeshInfoSurfaceTriangles.sizeOf).sum =
        BitVec.ofNat 32 (surfaces.map MeshInfoSurfaceTriangles.byteCount).sum := by
  induction surfaces with
  | nil => exact ⟨[], rfl, rfl, rfl⟩
  | cons surface surfaces ih =>
      obtain ⟨hdoc, hone⟩ := h surface List.mem_cons_self
      obtain ⟨first, hfirst, hlen, hsize⟩ :=
        MeshInfoSurfaceTriangles.serialize_of_oneWeight hdoc hone
      obtain ⟨rest, hrest, hlen', hsize'⟩ := ih fun s hs => h s (List.mem_cons_of_mem surface hs)
      refine ⟨first ++ rest, by rw [serializeSurfaces, hfirst, hrest]; rfl, ?_, ?_⟩
      · rw [List.length_append, hlen, hlen', List.map_cons, List.sum_cons]
      · rw [List.map_cons, List.sum_cons, List.map_cons, List.sum_cons, hsize, hsize',
          BitVec.ofNat_add]

/-- A surface of a mesh that is written is written. -/
theorem serialize_of_mem {bytes : List Byte} (h : serializeSurfaces surfaces = some bytes)
    {surface : MeshInfoSurfaceTriangles} (hmem : surface ∈ surfaces) :
    ∃ bytes, surface.serialize = some bytes := by
  induction surfaces generalizing bytes with
  | nil => cases hmem
  | cons s surfaces ih =>
      simp only [serializeSurfaces, Option.bind_eq_bind, Option.bind_eq_some_iff] at h
      obtain ⟨first, hfirst, rest, hrest, -⟩ := h
      rcases List.mem_cons.mp hmem with rfl | hmem
      · exact ⟨first, hfirst⟩
      · exact ih hrest hmem

/-- A mesh of surfaces of one weight is written whole. -/
theorem serialize_of_surfaces (hdoc : v.Documented)
    (hone : ∀ surface ∈ v.surfaces.1, surface.OneWeight) (heap : Nat → MeshInfoSkinning)
    (dummyA : MeshInfo) :
    ∃ bytes, (serializable heap).serialize dummyA v = some bytes ∧ bytes.length = v.byteCount ∧
      (serializable heap).size dummyA v = BitVec.ofNat 32 v.byteCount := by
  obtain ⟨surfaces, hsurfaces, hlen, hsize⟩ := serializeSurfaces_of_oneWeight
    fun surface hmem => ⟨hdoc surface hmem, hone surface hmem⟩
  have hmembers : serializeMembers v = some (u32.serialize v.sType ++ (u64.serialize v.hash ++
      (u32.serialize v.surfaces.count ++ surfaces))) := by
    rw [serializeMembers, hsurfaces]
    rfl
  refine ⟨_, congrArg (Option.map _) hmembers, ?_, ?_⟩
  · simp only [List.length_append, length_u32, length_u64, hlen, byteCount]
    omega
  · have hcalc : (serializable heap).size dummyA v =
        4 + 8 + 4 + (v.surfaces.1.map MeshInfoSurfaceTriangles.sizeOf).sum + 4 := rfl
    rw [hcalc, hsize, byteCount, BitVec.ofNat_add, BitVec.add_comm, ← BitVec.add_assoc]
    rfl

/-- **Meshes in bounds.**  A mesh whose arrays have their documented lengths is read within them,
and its sizes do not overflow, if and only if none of its surfaces has more than one weight and all
of it takes less than `2 ^ 32` bytes. -/
theorem staysInBounds_iff (hdoc : v.Documented) :
    v.StaysInBounds ↔ (∀ surface ∈ v.surfaces.1, surface.OneWeight) ∧ v.byteCount < 2 ^ 32 := by
  constructor
  · rintro ⟨hwritten, hfits⟩
    obtain ⟨bytes, hbytes, hlen⟩ := hwritten (fun _ => .empty) v
    have hone : ∀ surface ∈ v.surfaces.1, surface.OneWeight := by
      intro surface hmem
      obtain ⟨members, hmembers, -⟩ := Option.map_eq_some_iff.mp hbytes
      obtain ⟨first, hfirst, -⟩ := Option.bind_eq_some_iff.mp hmembers
      obtain ⟨written, hsurface⟩ := serialize_of_mem hfirst hmem
      exact (hfits surface hmem).oneWeight (hdoc surface hmem) hsurface
    have hwhole := serialize_of_surfaces hdoc hone (fun _ => .empty) v
    obtain ⟨bytes', hbytes', hlen', -⟩ := hwhole
    obtain rfl := Option.some.inj (hbytes.symm.trans hbytes')
    refine ⟨hone, ?_⟩
    rw [← hlen', hlen]
    exact ((serializable _).size v v).isLt
  · rintro ⟨hone, htotal⟩
    refine ⟨fun heap dummyA => ?_, fun surface hmem => ?_⟩
    · obtain ⟨bytes, hbytes, hlen, hsize⟩ := serialize_of_surfaces hdoc hone heap dummyA
      refine ⟨bytes, hbytes, ?_⟩
      rw [hlen, hsize, BitVec.toNat_ofNat, Nat.mod_eq_of_lt htotal]
    · exact .of_oneWeight (hdoc surface hmem) (hone surface hmem)

/-- A mesh of one vertex with a number of bones. -/
def boned (bones : Nat) (hbones : bones * 4 < 2 ^ 32) : MeshInfo where
  sType := 0
  pNext := none
  hash := 0
  surfaces := ⟨[{
    vertices := ⟨[⟨fun _ => 0, fun _ => 0, fun _ => 0, 0⟩], by simp⟩
    indices := ⟨[], by simp⟩
    skinning_hasvalue := 1
    skinning_value := ⟨BitVec.ofNat 32 bones, ⟨List.replicate bones 0, by simpa using hbones⟩,
      ⟨List.replicate bones 0, by simpa using hbones⟩⟩
    material := 0 }], by simp⟩

theorem documented_boned (bones : Nat) (hbones : bones * 4 < 2 ^ 32) :
    (boned bones hbones).Documented := by
  intro surface hmem _
  rw [boned, List.mem_singleton] at hmem
  subst hmem
  have hlen : (List.replicate bones (0 : Word)).length = bones := List.length_replicate
  have htuples : 1 * (BitVec.ofNat 32 bones).toNat = bones := by
    rw [BitVec.toNat_ofNat, Nat.one_mul, Nat.mod_eq_of_lt (by omega)]
  exact ⟨hlen.trans htuples.symm, hlen.trans htuples.symm⟩

theorem staysInBounds_iff_one_bone : (boned 1 (by decide)).StaysInBounds ↔
    (∀ surface ∈ (boned 1 (by decide)).surfaces.1, surface.OneWeight) ∧
      (boned 1 (by decide)).byteCount < 2 ^ 32 :=
  staysInBounds_iff (documented_boned 1 (by decide))

/-- **Weights are read past their end.**  Of one vertex with two bones. -/
theorem two_bones_out_of_bounds : ¬ ∀ v : MeshInfo, v.Documented → v.StaysInBounds := by
  intro hclaim
  have hdoc := documented_boned 2 (by decide)
  have hone := ((staysInBounds_iff hdoc).mp (hclaim _ hdoc)).1 _ List.mem_cons_self
  exact absurd (hone (by decide)) (by decide)

end MeshInfo

end RemixBridge.Remix
