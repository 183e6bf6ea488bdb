import RemixBridge.Calls.RemixCall
import RemixBridge.Remix.RoundTrips
import RemixBridge.Support.LinkedChain

/-!
# Remix — ExtensionChain

The `pNext` chains of `CreateMaterial`, `DrawInstance` and `CreateLight`: what the client sends of a
chain (`remix_api.cpp`), and the chain that the server links from what it reads (`main.cpp`).  The
server has one object for each type, `exts`, and reads into a local object that it then assigns to
it, `pNext` included.

* `reads_linkExts`: the server's loop links what was read, in order.
* `rebuilds_sent_iff`: which chains the server rebuilds, with what was sent of each extension.
* `rebuilds_iff`: which chains it rebuilds with all their members.
* `repeated_blend`: a type that comes twice is not rebuilt.
-/

namespace RemixBridge.Remix
open Serial LinkedChain DataRing

/-! ### The extensions of a function -/

/-- The extensions that a function knows: those its `switch`es name, on both sides the same. -/
structure ExtTypes where
  Slot : Type
  decEq : DecidableEq Slot
  Struct : Slot → Type
  /-- `memset` -/
  zero : ∀ t, Struct t
  serializable : ∀ t, Serializable (Struct t)
  getSType : ∀ t, Struct t → Word
  /-- `ToRemixApiStructEnum` -/
  sType : Slot → SType
  known : List SType
  mem_known : ∀ t, sType t ∈ known
  /-- The cases of the `switch`. -/
  ofSType : SType → Option Slot
  ofSType_sType : ∀ t, ofSType (sType t) = some t
  sType_lt : ∀ t, sType t < 2 ^ 32

instance (T : ExtTypes) : DecidableEq T.Slot := T.decEq

instance {α : Type} {size : Nat} : Inhabited (CArray α size) := ⟨⟨[], by simp⟩⟩

deriving instance Inhabited for
  MaterialInfoOpaque, MaterialInfoOpaqueSubsurface, MaterialInfoTranslucent, MaterialInfoPortal,
  InstanceInfoObjectPicking, InstanceInfoBlend, InstanceInfoTransforms, LightInfoLightShaping,
  LightInfoSphere, LightInfoRect, LightInfoDisk, LightInfoCylinder, LightInfoDistant,
  LightInfoDome, LightInfoUSD

/-- The listed members of two values are the same. -/
def SameMembers {σ : Type} : List (Member σ) → σ → σ → Prop
  | [], _, _             => True
  | f :: fields, v, w => f.get w = f.get v ∧ SameMembers fields v w

/-- `MaterialExtensions` -/
inductive MaterialExt where
  | infoOpaque
  | infoOpaqueSubsurface
  | infoTranslucent
  | infoPortal
  deriving DecidableEq, Repr

namespace MaterialExt

def Struct : MaterialExt → Type
  | .infoOpaque           => MaterialInfoOpaque
  | .infoOpaqueSubsurface => MaterialInfoOpaqueSubsurface
  | .infoTranslucent      => MaterialInfoTranslucent
  | .infoPortal           => MaterialInfoPortal

def zero : ∀ t, Struct t
  | .infoOpaque           => (default : MaterialInfoOpaque)
  | .infoOpaqueSubsurface => (default : MaterialInfoOpaqueSubsurface)
  | .infoTranslucent      => (default : MaterialInfoTranslucent)
  | .infoPortal           => (default : MaterialInfoPortal)

def serializable : ∀ t, Serializable (Struct t)
  | .infoOpaque           => MaterialInfoOpaque.serializable
  | .infoOpaqueSubsurface => MaterialInfoOpaqueSubsurface.serializable
  | .infoTranslucent      => MaterialInfoTranslucent.serializable
  | .infoPortal           => MaterialInfoPortal.serializable

def getSType : ∀ t, Struct t → Word
  | .infoOpaque           => MaterialInfoOpaque.sType
  | .infoOpaqueSubsurface => MaterialInfoOpaqueSubsurface.sType
  | .infoTranslucent      => MaterialInfoTranslucent.sType
  | .infoPortal           => MaterialInfoPortal.sType

def sType : MaterialExt → SType
  | .infoPortal           => 3
  | .infoTranslucent      => 4
  | .infoOpaque           => 5
  | .infoOpaqueSubsurface => 18

def ofSType : SType → Option MaterialExt
  | 3  => some .infoPortal
  | 4  => some .infoTranslucent
  | 5  => some .infoOpaque
  | 18 => some .infoOpaqueSubsurface
  | _  => none

def info : ∀ t, Struct t → Info
  | .infoOpaque           => Info.materialInfoOpaque
  | .infoOpaqueSubsurface => Info.materialInfoOpaqueSubsurface
  | .infoTranslucent      => Info.materialInfoTranslucent
  | .infoPortal           => Info.materialInfoPortal

/-- Every member that is sent is the same. -/
def same : ∀ t, Struct t → Struct t → Prop
  | .infoOpaque           => SameMembers MaterialInfoOpaqueVars
  | .infoOpaqueSubsurface => SameMembers MaterialInfoOpaqueSubsurfaceVars
  | .infoTranslucent      => SameMembers MaterialInfoTranslucentVars
  | .infoPortal           => SameMembers MaterialInfoPortalVars

def types : ExtTypes where
  Slot := MaterialExt
  decEq := inferInstance
  Struct := Struct
  zero := zero
  serializable := serializable
  getSType := getSType
  sType := sType
  known := materialExts
  mem_known t := by cases t <;> decide
  ofSType := ofSType
  ofSType_sType t := by cases t <;> rfl
  sType_lt t := by cases t <;> decide

end MaterialExt

/-- `InstanceExtensions` -/
inductive InstanceExt where
  | objectPicking
  | blend
  | boneXforms
  deriving DecidableEq, Repr

namespace InstanceExt

def Struct : InstanceExt → Type
  | .objectPicking => InstanceInfoObjectPicking
  | .blend         => InstanceInfoBlend
  | .boneXforms    => InstanceInfoTransforms

def zero : ∀ t, Struct t
  | .objectPicking => (default : InstanceInfoObjectPicking)
  | .blend         => (default : InstanceInfoBlend)
  | .boneXforms    => (default : InstanceInfoTransforms)

def serializable : ∀ t, Serializable (Struct t)
  | .objectPicking => InstanceInfoObjectPicking.serializable
  | .blend         => InstanceInfoBlend.serializable
  | .boneXforms    => InstanceInfoTransforms.serializable

def getSType : ∀ t, Struct t → Word
  | .objectPicking => InstanceInfoObjectPicking.sType
  | .blend         => InstanceInfoBlend.sType
  | .boneXforms    => InstanceInfoTransforms.sType

def sType : InstanceExt → SType
  | .boneXforms    => 14
  | .blend         => 15
  | .objectPicking => 19

def ofSType : SType → Option InstanceExt
  | 14 => some .boneXforms
  | 15 => some .blend
  | 19 => some .objectPicking
  | _  => none

def info : ∀ t, Struct t → Info
  | .objectPicking => Info.instanceInfoObjectPicking
  | .blend         => Info.instanceInfoBlend
  | .boneXforms    => Info.instanceInfoTransforms

def same : ∀ t, Struct t → Struct t → Prop
  | .objectPicking => SameMembers InstanceInfoObjectPickingVars
  | .blend         => SameMembers InstanceInfoBlendVars
  | .boneXforms    => fun v w : InstanceInfoTransforms =>
      w.sType = v.sType ∧ w.boneTransforms = v.boneTransforms

def types : ExtTypes where
  Slot := InstanceExt
  decEq := inferInstance
  Struct := Struct
  zero := zero
  serializable := serializable
  getSType := getSType
  sType := sType
  known := instanceExts
  mem_known t := by cases t <;> decide
  ofSType := ofSType
  ofSType_sType t := by cases t <;> rfl
  sType_lt t := by cases t <;> decide

end InstanceExt

/-- `LightExtensions` -/
inductive LightExt where
  | sphere
  | rect
  | disk
  | cylinder
  | distant
  | dome
  | usd
  deriving DecidableEq, Repr

namespace LightExt

def Struct : LightExt → Type
  | .sphere   => LightInfoSphere
  | .rect     => LightInfoRect
  | .disk     => LightInfoDisk
  | .cylinder => LightInfoCylinder
  | .distant  => LightInfoDistant
  | .dome     => LightInfoDome
  | .usd      => LightInfoUSD

def zero : ∀ t, Struct t
  | .sphere   => (default : LightInfoSphere)
  | .rect     => (default : LightInfoRect)
  | .disk     => (default : LightInfoDisk)
  | .cylinder => (default : LightInfoCylinder)
  | .distant  => (default : LightInfoDistant)
  | .dome     => (default : LightInfoDome)
  | .usd      => (default : LightInfoUSD)

def serializable : ∀ t, Serializable (Struct t)
  | .sphere   => LightInfoSphere.serializable
  | .rect     => LightInfoRect.serializable
  | .disk     => LightInfoDisk.serializable
  | .cylinder => LightInfoCylinder.serializable
  | .distant  => LightInfoDistant.serializable
  | .dome     => LightInfoDome.serializable
  | .usd      => LightInfoUSD.serializable

def getSType : ∀ t, Struct t → Word
  | .sphere   => LightInfoSphere.sType
  | .rect     => LightInfoRect.sType
  | .disk     => LightInfoDisk.sType
  | .cylinder => LightInfoCylinder.sType
  | .distant  => LightInfoDistant.sType
  | .dome     => LightInfoDome.sType
  | .usd      => LightInfoUSD.sType

def sType : LightExt → SType
  | .distant  => 7
  | .cylinder => 8
  | .disk     => 9
  | .rect     => 10
  | .sphere   => 11
  | .dome     => 20
  | .usd      => 21

def ofSType : SType → Option LightExt
  | 7  => some .distant
  | 8  => some .cylinder
  | 9  => some .disk
  | 10 => some .rect
  | 11 => some .sphere
  | 20 => some .dome
  | 21 => some .usd
  | _  => none

def info : ∀ t, Struct t → Info
  | .sphere   => Info.lightInfoSphere
  | .rect     => Info.lightInfoRect
  | .disk     => Info.lightInfoDisk
  | .cylinder => Info.lightInfoCylinder
  | .distant  => Info.lightInfoDistant
  | .dome     => Info.lightInfoDome
  | .usd      => Info.lightInfoUSD

def same : ∀ t, Struct t → Struct t → Prop
  | .sphere   => SameMembers LightInfoSphereVars
  | .rect     => SameMembers LightInfoRectVars
  | .disk     => SameMembers LightInfoDiskVars
  | .cylinder => SameMembers LightInfoCylinderVars
  | .distant  => SameMembers LightInfoDistantVars
  | .dome     => SameMembers LightInfoDomeVars
  | .usd      => SameMembers (LightInfoUSDVars ++ LightInfoUSDOptionalVars)

def types : ExtTypes where
  Slot := LightExt
  decEq := inferInstance
  Struct := Struct
  zero := zero
  serializable := serializable
  getSType := getSType
  sType := sType
  known := lightExts
  mem_known t := by cases t <;> decide
  ofSType := ofSType
  ofSType_sType t := by cases t <;> rfl
  sType_lt t := by cases t <;> decide

end LightExt

/-- The functions that send extensions. -/
inductive ExtFunction where
  | CreateMaterial
  | DrawInstance
  | CreateLight
  deriving DecidableEq, Repr

def ExtFunction.types : ExtFunction → ExtTypes
  | .CreateMaterial => MaterialExt.types
  | .DrawInstance   => InstanceExt.types
  | .CreateLight    => LightExt.types

/-- An extension, as a value of all the serializable types. -/
def ExtFunction.info : ∀ (fn : ExtFunction) (t : fn.types.Slot), fn.types.Struct t → Info
  | .CreateMaterial => MaterialExt.info
  | .DrawInstance   => InstanceExt.info
  | .CreateLight    => LightExt.info

/-- Every member that is sent is the same. -/
def ExtFunction.same : ∀ (fn : ExtFunction) (t : fn.types.Slot),
    fn.types.Struct t → fn.types.Struct t → Prop
  | .CreateMaterial => MaterialExt.same
  | .DrawInstance   => InstanceExt.same
  | .CreateLight    => LightExt.same

/-! ### The client -/

/-- An extension of a type that the function knows. -/
abbrev ExtTypes.Value (T : ExtTypes) : Type := Σ t, T.Struct t

/-- What is chained: an extension of a known type, or one whose `sType` is no case of the
`switch`. -/
inductive ExtTypes.Chained (T : ExtTypes) where
  | ext (x : T.Value) (h : T.getSType x.1 x.2 = BitVec.ofNat 32 (T.sType x.1))
  | other (sType : Word) (h : T.ofSType sType.toNat = none)

namespace ExtTypes

variable (T : ExtTypes)

/-- The extensions of known types, in order. -/
def values : List T.Chained → List T.Value
  | []                  => []
  | .ext x _ :: chain   => x :: values chain
  | .other _ _ :: chain => values chain

/-- The bytes of an extension, if there is room for them in as many as `size()` tells. -/
def serializeExt (dummyA : ∀ t, T.Struct t) (x : T.Value) : Option (Ext T.known) :=
  (((T.serializable x.1).serialize (dummyA x.1) x.2).filter fun bytes =>
      bytes.length = ((T.serializable x.1).size (dummyA x.1) x.2).toNat).map
    (⟨T.sType x.1, T.mem_known x.1, ·⟩)

/-- The loop over the chain. -/
def sendChain (dummyA : ∀ t, T.Struct t) : List T.Chained → Option (List (Ext T.known))
  | []                  => some []
  | .ext x _ :: chain   => do
      let ext ← T.serializeExt dummyA x
      let exts ← sendChain dummyA chain
      return ext :: exts
  | .other _ _ :: chain => sendChain dummyA chain

/-! ### The server -/

/-- `deserializeFromQueue` of an extension, into its object, and the links.  The local object it is
read into holds `uninit`. -/
def link (uninit : ∀ t, T.Struct t) (t : T.Slot) (data : List (BitVec 8))
    (exts : Option (Cells T.Struct)) : Option (Cells T.Struct) := do
  let cells ← exts
  let (v, _) ← (T.serializable t).deserialize data (uninit t)
  return cells.append ⟨t, v⟩

variable {m_size : Nat}

/-- The loop over the extensions, which links the objects; `none` if it has not ended after `fuel`
turns or the bytes of one were too few.  The local object of a turn holds what `memory` holds. -/
def linkExts (memory : Nat → ∀ t, T.Struct t) :
    Nat → Option (Cells T.Struct) → PullM m_size (Option (Cells T.Struct))
  | 0, _           => return none
  | fuel + 1, exts => do
      let bExtExists ← pullBool
      if bExtExists then
        let extSType ← getData
        match T.ofSType extSType.toNat with
        | some t =>
            let data ← getBytes
            linkExts memory fuel (T.link (memory fuel) t data exts)
        | none => linkExts memory fuel exts
      else return exts

end ExtTypes

namespace ExtFunction

def call : ∀ fn : ExtFunction, List (BitVec 8) → List (Ext fn.types.known) → Word → RemixCall
  | .CreateMaterial, info, exts, handle => .CreateMaterial info exts handle
  | .DrawInstance, info, exts, _        => .DrawInstance info exts
  | .CreateLight, info, exts, handle    => .CreateLight info exts handle

def command : ExtFunction → D3D9Command
  | .CreateMaterial => .RemixApi_CreateMaterial
  | .DrawInstance   => .RemixApi_DrawInstance
  | .CreateLight    => .RemixApi_CreateLight

/-- A handle comes behind the extensions. -/
def hasHandle : ExtFunction → Bool
  | .CreateMaterial => true
  | .DrawInstance   => false
  | .CreateLight    => true

variable {m_size : Nat} (fn : ExtFunction)

/-- What the server pulls for the command, and the extensions it chains to the structure that it
passes to the runtime. -/
def process (memory : Nat → ∀ t, fn.types.Struct t) (fuel : Nat) :
    PullM m_size (Option (Cells fn.types.Struct)) := do
  let _info ← pullInfo
  let exts ← fn.types.linkExts memory fuel (some (.empty fn.types.zero))
  if fn.hasHandle then
    let _bridgeHandle ← getData
    return exts
  else return exts

def switch (memory : Nat → ∀ t, fn.types.Struct t) (fuel : Nat) :
    Switch (Option (Cells fn.types.Struct)) := fun _ command _ =>
  if command = fn.command then some (fn.process memory fuel) else none

/-- The chain that the runtime is passed ends, and is the known extensions of the client's, in their
order, each as `R` says. -/
def RebuildsAs (R : ∀ t, fn.types.Struct t → fn.types.Struct t → Prop)
    (chain : List fn.types.Chained) : Prop :=
  ∀ (info : { bytes : List (BitVec 8) // bytes.length < 2 ^ 32 }) (handle : Word)
    (dummyA : ∀ t, fn.types.Struct t) (memory : Nat → ∀ t, fn.types.Struct t),
    ∃ exts cells ys, fn.types.sendChain dummyA chain = some exts ∧
      Delivers (fn.switch memory (exts.length + 1)) (fn.call info.1 exts handle).message
        (some cells) ∧
      Walk cells none ys ∧
      List.Forall₂ (fun x y => ∃ v, y = ⟨x.1, v⟩ ∧ R x.1 x.2 v) (fn.types.values chain) ys

/-- Each extension has all its members. -/
def Rebuilds : List fn.types.Chained → Prop :=
  fn.RebuildsAs fun t v w => w = (fn.types.serializable t).unchained v

end ExtFunction

/-! ### Extensions that come back -/

namespace Serializable

variable {σ : Type} (S : Serializable σ)

/-- The value is read back, as `R` says, from its bytes, as many as `size()` tells. -/
def ComesBack (R : σ → σ → Prop) (v : σ) : Prop :=
  ∀ dummyA uninit, ∃ bytes w rest, S.serialize dummyA v = some bytes ∧
    bytes.length = (S.size dummyA v).toNat ∧ S.deserialize bytes uninit = some (w, rest) ∧ R v w

/-- The bytes of a value, its size word included. -/
def bytes (v : σ) : Nat := 4 + ((S.serializeMembers v).getD []).length

end Serializable

section folded

variable {σ : Type} {b : Bool} {vars : List (Member σ)} {unchained : σ → σ} {v : σ}

theorem folded_serialize (d : σ) : (folded b vars unchained).serialize d v =
    some (u32.serialize ((folded b vars unchained).size d v) ++ Serial.serialize vars v) := rfl

theorem folded_deserialize (size : Word) (u : σ) :
    (folded b vars unchained).deserialize (u32.serialize size ++ Serial.serialize vars v) u =
      some (assign vars v (unchained u), []) := by
  have h := deserialize_serialize vars v (unchained u) []
  rw [List.append_nil] at h
  unfold Serializable.deserialize
  rw [u32.round]
  exact h

/-- Listed members leave no bytes behind. -/
theorem folded_comesBack_iff_roundTrips :
    (folded b vars unchained).ComesBack (fun v w => w = unchained v) v ↔
      (folded b vars unchained).RoundTrips v := by
  constructor
  · intro h d u
    obtain ⟨bytes, w, rest, hb, hlen, hread, rfl⟩ := h d u
    cases (folded_serialize d).symm.trans hb
    obtain ⟨hv, rfl⟩ := Prod.mk.inj (Option.some.inj ((folded_deserialize _ u).symm.trans hread))
    exact ⟨_, hb, hlen, hread⟩
  · intro h d u
    obtain ⟨bytes, hb, hlen, hread⟩ := h d u
    exact ⟨bytes, _, [], hb, hlen, hread, rfl⟩

/-- The listed members come back if the size is one of 32 bits. -/
theorem folded_comesBack_iff_fits
    (hstatic : b = true → ∀ d v, Serial.calcSize vars d = Serial.calcSize vars v)
    (hsame : ∀ u, SameMembers vars v (assign vars v (unchained u))) :
    (folded b vars unchained).ComesBack (SameMembers vars) v ↔
      (folded b vars unchained).bytes v < 2 ^ 32 := by
  have hsize (d : σ) : ((folded b vars unchained).size d v).toNat =
      (folded b vars unchained).bytes v % 2 ^ 32 := by
    have hcalc : (folded b vars unchained).size d v = Serial.calcSize vars v + 4 := by
      cases b with
      | false => rfl
      | true => exact congrArg (· + 4) (hstatic rfl d v)
    rw [hcalc, calcSize_eq, BitVec.toNat_add, BitVec.toNat_ofNat]
    simp [Serializable.bytes, folded, Nat.add_comm]
  have hlen (size : Word) : (u32.serialize size ++ Serial.serialize vars v).length =
      (folded b vars unchained).bytes v := by
    rw [List.length_append, length_u32]
    rfl
  constructor
  · intro h
    obtain ⟨bytes, w, rest, hb, hl, -, -⟩ := h v v
    cases (folded_serialize v).symm.trans hb
    rw [hlen, hsize] at hl
    rw [hl]
    exact Nat.mod_lt _ (by decide)
  · intro hfit d u
    refine ⟨_, _, _, folded_serialize d, ?_, folded_deserialize _ u, hsame u⟩
    rw [hlen, hsize, Nat.mod_eq_of_lt hfit]

end folded

/-- The types that list every member. -/
theorem comesBack_iff_listed (fn : ExtFunction) (t : fn.types.Slot) (v : fn.types.Struct t) :
    (fn.types.serializable t).ComesBack
        (fun v w => w = (fn.types.serializable t).unchained v) v ↔ (fn.info t v).Listed := by
  rw [← round_trips]
  cases fn with
  | CreateMaterial => cases t <;> exact folded_comesBack_iff_roundTrips
  | CreateLight => cases t <;> exact folded_comesBack_iff_roundTrips
  | DrawInstance =>
      cases t with
      | objectPicking => exact folded_comesBack_iff_roundTrips
      | blend => exact folded_comesBack_iff_roundTrips
      | boneXforms =>
          have h := InstanceInfoTransforms.roundTrips v
          refine iff_of_true (fun d u => ?_) h
          obtain ⟨bytes, hb, hlen, hread⟩ := h d u
          exact ⟨bytes, _, [], hb, hlen, hread, rfl⟩

theorem InstanceInfoTransforms.bytes_lt (v : InstanceInfoTransforms) :
    InstanceInfoTransforms.serializable.bytes v < 2 ^ 32 := by
  have hfits := v.boneTransforms.2
  have hxforms := length_flatMap_const length_transform v.boneTransforms.1
  show 4 + (serializeMembers v).length < 2 ^ 32
  simp only [serializeMembers, List.length_append, length_u32, hxforms]
  omega

/-- What is sent comes back, if the size is one of 32 bits. -/
theorem comesBack_iff_fits (fn : ExtFunction) (t : fn.types.Slot) (v : fn.types.Struct t) :
    (fn.types.serializable t).ComesBack (fn.same t) v ↔
      (fn.types.serializable t).bytes v < 2 ^ 32 := by
  cases fn with
  | CreateMaterial =>
      cases t with
      | infoPortal =>
          refine folded_comesBack_iff_fits (fun _ _ _ => rfl) fun u => ?_
          repeat refine ⟨rfl, ?_⟩
          trivial
      | infoOpaque | infoOpaqueSubsurface | infoTranslucent =>
          refine folded_comesBack_iff_fits (b := false) (fun h => nomatch h) fun u => ?_
          repeat refine ⟨rfl, ?_⟩
          trivial
  | DrawInstance =>
      cases t with
      | objectPicking | blend =>
          refine folded_comesBack_iff_fits (fun _ _ _ => rfl) fun u => ?_
          repeat refine ⟨rfl, ?_⟩
          trivial
      | boneXforms =>
          refine iff_of_true (fun d u => ?_) (InstanceInfoTransforms.bytes_lt v)
          obtain ⟨bytes, hb, hlen, hread⟩ := InstanceInfoTransforms.roundTrips v d u
          exact ⟨bytes, _, [], hb, hlen, hread, rfl, rfl⟩
  | CreateLight =>
      cases t with
      | sphere | rect | disk | cylinder | distant =>
          refine folded_comesBack_iff_fits (fun _ _ _ => rfl) fun u => ?_
          repeat refine ⟨rfl, ?_⟩
          trivial
      | dome | usd =>
          refine folded_comesBack_iff_fits (b := false) (fun h => nomatch h) fun u => ?_
          repeat refine ⟨rfl, ?_⟩
          trivial

namespace ExtTypes

variable {T : ExtTypes}

/-! ### The loops -/

theorem exists_of_mem_forall₂ {α β : Type} {R : α → β → Prop} {as : List α} {bs : List β}
    (h : List.Forall₂ R as bs) {a : α} (ha : a ∈ as) : ∃ b ∈ bs, R a b := by
  induction h with
  | nil => cases ha
  | @cons a' b as bs hab _ ih =>
      rcases List.mem_cons.mp ha with rfl | hmem
      · exact ⟨b, List.mem_cons_self, hab⟩
      · obtain ⟨b', hb', hR⟩ := ih hmem
        exact ⟨b', List.mem_cons_of_mem b hb', hR⟩

theorem forall₂_and {α β : Type} {R S : α → β → Prop} {as : List α} {bs : List β}
    (hR : List.Forall₂ R as bs) (hS : List.Forall₂ S as bs) :
    List.Forall₂ (fun a b => R a b ∧ S a b) as bs := by
  induction hR with
  | nil => exact .nil
  | cons hab _ ih =>
      cases hS with
      | cons hab' hS => exact .cons ⟨hab, hab'⟩ (ih hS)

theorem sendChain_eq (dummyA : ∀ t, T.Struct t) (chain : List T.Chained) :
    T.sendChain dummyA chain = (T.values chain).mapM (T.serializeExt dummyA) := by
  induction chain with
  | nil => rfl
  | cons c chain ih =>
      cases c with
      | other sType h => exact ih
      | ext x h => rw [sendChain, values, List.mapM_cons, ih]

theorem serializeExt_eq_some {dummyA : ∀ t, T.Struct t} {x : T.Value} {ext : Ext T.known}
    (h : T.serializeExt dummyA x = some ext) :
    ext.sType = T.sType x.1 ∧ (T.serializable x.1).serialize (dummyA x.1) x.2 = some ext.data ∧
      ext.data.length = ((T.serializable x.1).size (dummyA x.1) x.2).toNat := by
  obtain ⟨bytes, hbytes, rfl⟩ := Option.map_eq_some_iff.mp h
  obtain ⟨hwrite, hlen⟩ := Option.filter_eq_some_iff.mp hbytes
  exact ⟨rfl, hwrite, of_decide_eq_true hlen⟩

/-- What the loop makes of the extensions it reads. -/
def linkAll (memory : Nat → ∀ t, T.Struct t) :
    Nat → List (Ext T.known) → Option (Cells T.Struct) → Option (Cells T.Struct)
  | fuel + 1, ext :: exts, cells =>
      linkAll memory fuel exts
        ((T.ofSType ext.sType).elim cells fun t => T.link (memory fuel) t ext.data cells)
  | _, _, cells => cells

/-- The extensions were sent. -/
def Sent (dummyA : ∀ t, T.Struct t) : List T.Value → List (Ext T.known) → Prop :=
  List.Forall₂ fun x ext => T.serializeExt dummyA x = some ext

variable {m_size : Nat} {mem : Memory} {e : Nat}

theorem reads_linkExts {dummyA : ∀ t, T.Struct t} (memory : Nat → ∀ t, T.Struct t)
    {xs : List T.Value} {exts : List (Ext T.known)} (hsent : Sent dummyA xs exts) {fuel : Nat}
    (hfuel : exts.length < fuel) (cells : Option (Cells T.Struct)) :
    Reads mem e (T.linkExts memory fuel cells : PullM m_size _) (dataOf (sendExts exts))
      (linkAll memory fuel exts cells) := by
  induction hsent generalizing fuel cells e with
  | nil =>
      obtain ⟨fuel, rfl⟩ := Nat.exists_eq_succ_of_ne_zero (Nat.ne_zero_of_lt hfuel)
      exact .bind (fun _ => reads_pullBool false 0 rfl) <| .ite_neg Bool.false_ne_true <| .pure _
  | @cons x ext xs exts hx _ ih =>
      obtain ⟨fuel, rfl⟩ := Nat.exists_eq_succ_of_ne_zero (Nat.ne_zero_of_lt hfuel)
      obtain ⟨htag, -, -⟩ := serializeExt_eq_some hx
      have hword : (BitVec.ofNat 32 ext.sType).toNat = T.sType x.1 := by
        rw [BitVec.toNat_ofNat, htag, Nat.mod_eq_of_lt (T.sType_lt x.1)]
      have hlink : linkAll memory (fuel + 1) (ext :: exts) cells =
          linkAll memory fuel exts (T.link (memory fuel) x.1 ext.data cells) := by
        rw [linkAll, htag, T.ofSType_sType]
        rfl
      rw [hlink]
      refine .bind (fun _ => reads_pullBool true 0xff rfl) <| .ite_pos rfl <| .word ?_
      rw [hword, T.ofSType_sType]
      exact .bytes <| ih (Nat.lt_of_succ_lt_succ hfuel) _

theorem linkAll_none (memory : Nat → ∀ t, T.Struct t) (fuel : Nat) (exts : List (Ext T.known)) :
    linkAll memory fuel exts none = none := by
  induction exts generalizing fuel with
  | nil => cases fuel <;> rfl
  | cons ext exts ih =>
      cases fuel with
      | zero => rfl
      | succ fuel =>
          rw [linkAll]
          cases T.ofSType ext.sType with
          | none => exact ih fuel
          | some t => exact ih fuel

/-- The value `x` is read as `y` into an object that holds `uninit`. -/
def ReadAs (dummyA uninit : ∀ t, T.Struct t) (x y : T.Value) : Prop :=
  ∃ bytes v rest, (T.serializable x.1).serialize (dummyA x.1) x.2 = some bytes ∧
    bytes.length = ((T.serializable x.1).size (dummyA x.1) x.2).toNat ∧
    (T.serializable x.1).deserialize bytes (uninit x.1) = some (v, rest) ∧ y = ⟨x.1, v⟩

theorem map_fst_eq {R : T.Value → T.Value → Prop} (hR : ∀ x y, R x y → y.1 = x.1)
    {xs ys : List T.Value} (h : List.Forall₂ R xs ys) :
    ys.map Sigma.fst = xs.map Sigma.fst := by
  induction h with
  | nil => rfl
  | cons hxy _ ih => rw [List.map_cons, List.map_cons, ih, hR _ _ hxy]

/-- The objects hold what the extensions were read as, in order. -/
theorem linkAll_eq_some {dummyA uninit : ∀ t, T.Struct t} {xs : List T.Value}
    {exts : List (Ext T.known)} (hsent : Sent dummyA xs exts) {fuel : Nat}
    (hfuel : exts.length < fuel) {cells cells' : Cells T.Struct}
    (h : linkAll (fun _ => uninit) fuel exts (some cells) = some cells') :
    ∃ ys, List.Forall₂ (ReadAs dummyA uninit) xs ys ∧ cells' = cells.appendAll ys := by
  induction hsent generalizing fuel cells with
  | nil =>
      cases fuel <;> (cases h; exact ⟨[], .nil, rfl⟩)
  | @cons x ext xs exts hx _ ih =>
      obtain ⟨fuel, rfl⟩ := Nat.exists_eq_succ_of_ne_zero (Nat.ne_zero_of_lt hfuel)
      obtain ⟨htag, hwrite, hlen⟩ := serializeExt_eq_some hx
      rw [linkAll, htag, T.ofSType_sType, Option.elim_some] at h
      cases hread : (T.serializable x.1).deserialize ext.data (uninit x.1) with
      | none =>
          have hlink : T.link uninit x.1 ext.data (some cells) = none := by
            simp [link, hread]
          rw [hlink, linkAll_none] at h
          cases h
      | some r =>
          have hlink : T.link uninit x.1 ext.data (some cells) =
              some (cells.append ⟨x.1, r.1⟩) := by
            simp [link, hread]
          rw [hlink] at h
          obtain ⟨ys, hys, rfl⟩ := ih (Nat.lt_of_succ_lt_succ hfuel) h
          exact ⟨_, .cons ⟨ext.data, r.1, r.2, hwrite, hlen, hread, rfl⟩ hys, rfl⟩

/-- Where every extension comes back, all are sent, and the objects hold what came back. -/
theorem linkAll_comesBack {R : ∀ t, T.Struct t → T.Struct t → Prop} {xs : List T.Value}
    (h : ∀ x ∈ xs, (T.serializable x.1).ComesBack (R x.1) x.2) (dummyA : ∀ t, T.Struct t) :
    ∃ exts, Sent dummyA xs exts ∧ ∀ memory fuel cells, exts.length < fuel → ∃ ys,
      linkAll memory fuel exts (some cells) = some (cells.appendAll ys) ∧
        List.Forall₂ (fun x y => ∃ v, y = ⟨x.1, v⟩ ∧ R x.1 x.2 v) xs ys := by
  induction xs with
  | nil =>
      refine ⟨[], .nil, fun memory fuel cells _ => ⟨[], ?_, .nil⟩⟩
      cases fuel <;> rfl
  | cons x xs ih =>
      obtain ⟨exts, hsent, hall⟩ := ih fun y hy => h y (List.mem_cons_of_mem x hy)
      have hx := h x List.mem_cons_self
      obtain ⟨data, _, _, hwrite, hlen, -, -⟩ := hx (dummyA x.1) x.2
      have hext : T.serializeExt dummyA x = some ⟨T.sType x.1, T.mem_known x.1, data⟩ := by
        simp [serializeExt, hwrite, hlen]
      refine ⟨_, .cons hext hsent, fun memory fuel cells hfuel => ?_⟩
      obtain ⟨fuel, rfl⟩ := Nat.exists_eq_succ_of_ne_zero (Nat.ne_zero_of_lt hfuel)
      obtain ⟨data', v, _, hwrite', -, hread, hR⟩ := hx (dummyA x.1) (memory fuel x.1)
      cases hwrite.symm.trans hwrite'
      have hlink : T.link (memory fuel) x.1 data (some cells) = some (cells.append ⟨x.1, v⟩) := by
        simp [link, hread]
      obtain ⟨ys, hys, hsame⟩ := hall memory fuel (cells.append ⟨x.1, v⟩)
        (Nat.lt_of_succ_lt_succ hfuel)
      refine ⟨⟨x.1, v⟩ :: ys, ?_, .cons ⟨v, rfl, hR⟩ hsame⟩
      rw [linkAll, T.ofSType_sType, Option.elim_some, hlink]
      exact hys

end ExtTypes

/-! ### The messages -/

namespace ExtFunction

variable {fn : ExtFunction} {dummyA : ∀ t, fn.types.Struct t} {xs : List fn.types.Value}
  {exts : List (Ext fn.types.known)}

theorem delivers_linkAll (hsent : ExtTypes.Sent dummyA xs exts)
    (memory : Nat → ∀ t, fn.types.Struct t) (info : List (BitVec 8)) (handle : Word) {fuel : Nat}
    (hfuel : exts.length < fuel) :
    Delivers (fn.switch memory fuel) (fn.call info exts handle).message
      (ExtTypes.linkAll memory fuel exts (some (.empty fn.types.zero))) := by
  refine Delivers.of_reads fun m_size mem e => ?_
  cases fn with
  | CreateMaterial =>
      refine ⟨_, rfl, ?_⟩
      show Reads mem e _ (dataOf (serializeAndSend _ info ++ sendExts exts ++ [Push.word handle])) _
      rw [dataOf_append, dataOf_append, List.append_assoc]
      exact .bind (fun _ => reads_pullInfo _ info) <|
        .bind (fun _ => ExtTypes.reads_linkExts memory hsent hfuel _) <| .ite_pos rfl <|
          .word <| .pure _
  | DrawInstance =>
      refine ⟨_, rfl, ?_⟩
      show Reads mem e _ (dataOf (serializeAndSend _ info ++ sendExts exts)) _
      rw [dataOf_append, ← List.append_nil (dataOf (sendExts exts))]
      exact .bind (fun _ => reads_pullInfo _ info) <|
        .bind (fun _ => ExtTypes.reads_linkExts memory hsent hfuel _) <|
          .ite_neg Bool.false_ne_true <| .pure _
  | CreateLight =>
      refine ⟨_, rfl, ?_⟩
      show Reads mem e _ (dataOf (serializeAndSend _ info ++ sendExts exts ++ [Push.word handle])) _
      rw [dataOf_append, dataOf_append, List.append_assoc]
      exact .bind (fun _ => reads_pullInfo _ info) <|
        .bind (fun _ => ExtTypes.reads_linkExts memory hsent hfuel _) <| .ite_pos rfl <|
          .word <| .pure _

theorem obj_of_mem_sendExts {known : List SType} {exts : List (Ext known)} {bytes : List (BitVec 8)}
    (h : Push.obj bytes ∈ sendExts exts) : ∃ ext ∈ exts, ext.data = bytes := by
  induction exts with
  | nil => simp [sendExts] at h
  | cons ext exts ih =>
      simp only [sendExts, serializeAndSend, List.cons_append, List.nil_append, List.mem_cons,
        reduceCtorEq, Push.obj.injEq, false_or] at h
      rcases h with rfl | h
      · exact ⟨ext, List.mem_cons_self, rfl⟩
      · obtain ⟨ext', hmem, hdata⟩ := ih h
        exact ⟨ext', List.mem_cons_of_mem _ hmem, hdata⟩

/-- No object of the message is longer than its size word can tell. -/
theorem obj_lt (hsent : ExtTypes.Sent dummyA xs exts) {info : List (BitVec 8)}
    (hinfo : info.length < 2 ^ 32) {handle : Word} {bytes : List (BitVec 8)}
    (h : Push.obj bytes ∈ (fn.call info exts handle).message.data) : bytes.length < 2 ^ 32 := by
  have hcases : bytes = info ∨ Push.obj bytes ∈ sendExts exts := by
    cases fn <;> (simp [call, RemixCall.message, serializeAndSend] at h; exact h)
  rcases hcases with rfl | h
  · exact hinfo
  · obtain ⟨ext, hmem, rfl⟩ := obj_of_mem_sendExts h
    obtain ⟨x, -, hx⟩ := ExtTypes.exists_of_mem_forall₂ hsent.flip hmem
    rw [(ExtTypes.serializeExt_eq_some hx).2.2]
    exact BitVec.isLt _

end ExtFunction

/-! ### The chain -/

theorem ExtTypes.sent_iff {T : ExtTypes} {dummyA : ∀ t, T.Struct t} {chain : List T.Chained}
    {exts : List (Ext T.known)} :
    T.sendChain dummyA chain = some exts ↔ Sent dummyA (T.values chain) exts := by
  rw [sendChain_eq]
  generalize T.values chain = xs
  induction xs generalizing exts with
  | nil =>
      rw [List.mapM_nil]
      constructor
      · rintro ⟨⟩
        exact .nil
      · rintro ⟨⟩
        rfl
  | cons x xs ih =>
      rw [List.mapM_cons]
      constructor
      · intro h
        obtain ⟨ext, hx, h⟩ := Option.bind_eq_some_iff.mp h
        obtain ⟨exts', hxs, h⟩ := Option.bind_eq_some_iff.mp h
        cases h
        exact .cons hx (ih.mp hxs)
      · rintro ⟨⟩
        rename_i ext exts' hx hxs
        rw [hx, ih.mpr hxs]
        rfl

namespace ExtFunction

variable {fn : ExtFunction} {chain : List fn.types.Chained}

theorem rebuildsAs_of_comesBack {R : ∀ t, fn.types.Struct t → fn.types.Struct t → Prop}
    (hnodup : ((fn.types.values chain).map Sigma.fst).Nodup)
    (hback : ∀ x ∈ fn.types.values chain, (fn.types.serializable x.1).ComesBack (R x.1) x.2) :
    fn.RebuildsAs R chain := by
  intro info handle dummyA memory
  obtain ⟨exts, hsent, hall⟩ := ExtTypes.linkAll_comesBack hback dummyA
  have hfuel := Nat.lt_succ_self exts.length
  obtain ⟨ys, hys, hsame⟩ := hall memory _ (.empty fn.types.zero) hfuel
  have hdel := delivers_linkAll hsent memory info.1 handle hfuel
  rw [hys] at hdel
  refine ⟨exts, _, ys, ExtTypes.sent_iff.mpr hsent, hdel, ?_, hsame⟩
  refine (walk_appendAll_iff _ _).mpr ?_
  rw [ExtTypes.map_fst_eq (by rintro x _ ⟨v, rfl, -⟩; rfl) hsame]
  exact hnodup

/-- A chain that is rebuilt repeats no type. -/
theorem nodup_of_rebuildsAs {R : ∀ t, fn.types.Struct t → fn.types.Struct t → Prop}
    (h : fn.RebuildsAs R chain) : ((fn.types.values chain).map Sigma.fst).Nodup := by
  obtain ⟨exts, cells, ys, -, -, hwalk, hsame⟩ :=
    h ⟨[], by decide⟩ 0 fn.types.zero fun _ => fn.types.zero
  have hnodup := hwalk.nodup
  rwa [ExtTypes.map_fst_eq (by rintro x _ ⟨v, rfl, -⟩; rfl) hsame] at hnodup

/-- What is rebuilt was read back, over whatever the memory held. -/
theorem readAs_of_rebuildsAs {R : ∀ t, fn.types.Struct t → fn.types.Struct t → Prop}
    (h : fn.RebuildsAs R chain) (dummyA uninit : ∀ t, fn.types.Struct t)
    {x : fn.types.Value} (hx : x ∈ fn.types.values chain) :
    ∃ v, ExtTypes.ReadAs dummyA uninit x ⟨x.1, v⟩ ∧ R x.1 x.2 v := by
  obtain ⟨exts, cells, zs, hsend, hdel, hwalk, hsame⟩ :=
    h ⟨[], by decide⟩ 0 dummyA fun _ => uninit
  have hsent := ExtTypes.sent_iff.mp hsend
  have hfuel := Nat.lt_succ_self exts.length
  have hlink := Delivers.unique (fun _ => obj_lt hsent (by decide))
    (delivers_linkAll hsent (fun _ => uninit) [] 0 hfuel) hdel
  obtain ⟨ys, hys, rfl⟩ := ExtTypes.linkAll_eq_some hsent hfuel hlink
  have hnodup : (ys.map Sigma.fst).Nodup := by
    rw [ExtTypes.map_fst_eq (by rintro x _ ⟨_, v, _, -, -, -, rfl⟩; rfl) hys]
    exact nodup_of_rebuildsAs h
  have heq : ys = zs := walk_unique ((walk_appendAll_iff fn.types.zero ys).mpr hnodup) hwalk
  rw [heq] at hys
  obtain ⟨y, -, hread, v, rfl, hR⟩ :=
    ExtTypes.exists_of_mem_forall₂ (ExtTypes.forall₂_and hys hsame) hx
  exact ⟨v, hread, hR⟩

theorem comesBack_of_rebuildsAs {R : ∀ t, fn.types.Struct t → fn.types.Struct t → Prop}
    (h : fn.RebuildsAs R chain) {x : fn.types.Value} (hx : x ∈ fn.types.values chain) :
    (fn.types.serializable x.1).ComesBack (R x.1) x.2 := by
  intro d u
  obtain ⟨w, ⟨bytes, v, rest, hwrite, hlen, hread, heq⟩, hR⟩ := readAs_of_rebuildsAs h
    (Function.update fn.types.zero x.1 d) (Function.update fn.types.zero x.1 u) hx
  rw [Function.update_self] at hwrite hlen hread
  obtain rfl : w = v := eq_of_heq (Sigma.mk.inj heq).2
  exact ⟨bytes, w, rest, hwrite, hlen, hread, hR⟩

/-- What a rebuilt chain needs. -/
theorem rebuildsAs_iff (R : ∀ t, fn.types.Struct t → fn.types.Struct t → Prop) :
    fn.RebuildsAs R chain ↔ ((fn.types.values chain).map Sigma.fst).Nodup ∧
      ∀ x ∈ fn.types.values chain, (fn.types.serializable x.1).ComesBack (R x.1) x.2 :=
  ⟨fun h => ⟨nodup_of_rebuildsAs h, fun _ => comesBack_of_rebuildsAs h⟩,
    fun h => rebuildsAs_of_comesBack h.1 h.2⟩

end ExtFunction

/-- **Extension chains.**  The chain that the runtime is passed ends and is the known extensions of
the client's, in their order and with every member that is sent, if and only if no known type comes
twice, and the bytes of each are fewer than `2 ^ 32`. -/
theorem rebuilds_sent_iff (fn : ExtFunction) (chain : List fn.types.Chained) :
    fn.RebuildsAs fn.same chain ↔ ((fn.types.values chain).map Sigma.fst).Nodup ∧
      ∀ x ∈ fn.types.values chain, (fn.types.serializable x.1).bytes x.2 < 2 ^ 32 := by
  rw [ExtFunction.rebuildsAs_iff]
  exact and_congr_right fun _ => forall₂_congr fun x _ => comesBack_iff_fits fn x.1 x.2

/-- **Whole extensions.**  All the members come over if and only if, besides, each extension is of
a type that lists them all. -/
theorem rebuilds_iff (fn : ExtFunction) (chain : List fn.types.Chained) :
    fn.Rebuilds chain ↔ ((fn.types.values chain).map Sigma.fst).Nodup ∧
      ∀ x ∈ fn.types.values chain, (fn.info x.1 x.2).Listed := by
  rw [ExtFunction.Rebuilds, ExtFunction.rebuildsAs_iff]
  exact and_congr_right fun _ => forall₂_congr fun x _ => comesBack_iff_listed fn x.1 x.2

/-- **A type that comes twice.**  Two blend extensions share one object, which is then linked to
itself. -/
theorem repeated_blend : ¬ ∀ (fn : ExtFunction) (chain : List fn.types.Chained),
    fn.Rebuilds chain := by
  intro hclaim
  have h := hclaim .DrawInstance
    [.ext ⟨.blend, { (default : InstanceInfoBlend) with sType := 15 }⟩ rfl,
      .ext ⟨.blend, { (default : InstanceInfoBlend) with sType := 15, tFactor := 1 }⟩ rfl]
  have hnodup : [InstanceExt.blend, .blend].Nodup := ExtFunction.nodup_of_rebuildsAs h
  exact absurd hnodup (by decide)

end RemixBridge.Remix
