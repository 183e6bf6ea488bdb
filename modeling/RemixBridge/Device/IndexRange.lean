import RemixBridge.Device.Setters

/-!
# Device — IndexRange

The calls that take an index from the application: what they test of it, and whether what they
address is in its array.  A call is `none` where it is not (see `Setters`).

* `sound_iff`: the arguments with which a call stays in its array or is refused.
* `mapXform_inj`, `mapSampler_inj`: no two arguments that a call tests have the same entry.
* `indices_in_range`: when two calls stay in their arrays, and apart.
-/

namespace RemixBridge.Device

variable {elim : Bool} {mul : D3DMATRIX → D3DMATRIX → D3DMATRIX} {d : LssDevice}

/-! ### The getters -/

/-- What a getter returns: `D3DERR_INVALIDCALL`, `E_FAIL`, or `D3D_OK` and what it wrote. -/
inductive Got (α : Type) where
  | invalidCall
  | fail
  | value (v : α)
  deriving DecidableEq, Repr

/-- The pointer of a getter is null or not. -/
def GetTransform (d : LssDevice) (type : Word) (pMatrix : Bool) : Option (Got D3DMATRIX) :=
  if pMatrix then
    (index caps.MaxTransforms (mapXformStateTypeToIdx type)).map fun i =>
      .value (d.mState (.transforms i))
  else some .invalidCall

def GetRenderTarget (d : LssDevice) (idx : Word) (ppRenderTarget : Bool) :
    Option (Got D3DAutoPtr) :=
  if ppRenderTarget then
    (index caps.MaxSimultaneousRenderTargets idx).map fun i => .value (d.mState (.renderTargets i))
  else some .invalidCall

/-- The locked section of `GetTexture`. -/
def readTexture (d : LssDevice) (i : Fin kNumStageSamplers) : Got D3DAutoPtr :=
  match d.mState (.textures i) with
  | none => .value none
  | some object =>
      let type := d.mState (.textureTypes i)
      if type = D3DRTYPE_TEXTURE ∨ type = D3DRTYPE_CUBETEXTURE ∨ type = D3DRTYPE_VOLUMETEXTURE then
        .value (some object)
      else .fail

def GetTexture (d : LssDevice) (stage : Word) (ppTexture : Bool) : Option (Got D3DAutoPtr) :=
  if isInvalidSamplerStage stage || !ppTexture then some .invalidCall
  else (index kNumStageSamplers (mapSamplerStageToIdx stage)).map (readTexture d)

def GetTextureStageState (d : LssDevice) (stage type : Word) (pValue : Bool) : Option (Got Word) :=
  if isInvalidSamplerStage stage || !pValue then some .invalidCall
  else match TexStageStateTypeToIdx type with
    | none => some .invalidCall
    | some j => (index kNumStageSamplers (mapSamplerStageToIdx stage)).map fun i =>
        .value (d.mState (.textureStageStates i j))

def GetSamplerState (d : LssDevice) (sampler type : Word) (pValue : Bool) : Option (Got Word) :=
  if isInvalidSamplerStage sampler || !pValue then some .invalidCall
  else match index kMaxStageSamplerStateTypes (type - 1) with
    | none => some .invalidCall
    | some j => (index kNumStageSamplers (mapSamplerStageToIdx sampler)).map fun i =>
        .value (d.mState (.samplerStates i j))

/-! ### The calls -/

/-- A call with an index. -/
inductive IndexedCall where
  | SetRenderState (state value : Word)
  | SetStreamSource (streamNumber : Word) (pStreamData : D3DAutoPtr) (offsetInBytes stride : Word)
  | SetStreamSourceFreq (streamNumber divider : Word)
  | SetClipPlane (idx : Word) (pPlane : Option (Fin 4 → Word))
  | SetRenderTarget (idx : Word) (pRenderTarget : D3DAutoPtr)
  | GetRenderTarget (idx : Word) (ppRenderTarget : Bool)
  | SetTransform (type : Word) (pMatrix : Option D3DMATRIX)
  | GetTransform (type : Word) (pMatrix : Bool)
  | MultiplyTransform (type : Word) (pMatrix : Option D3DMATRIX)
  | SetTextureStageState (stage type value : Word)
  | GetTextureStageState (stage type : Word) (pValue : Bool)
  | SetSamplerState (sampler type value : Word)
  | GetSamplerState (sampler type : Word) (pValue : Bool)
  | SetTexture (stage : Word) (pTexture : Option (Nat × Word))
  | GetTexture (stage : Word) (ppTexture : Bool)

/-- Whether a call was refused, and the device behind it. -/
structure Answer where
  rejected : Bool
  device : LssDevice

def Answer.ofSet (r : Section × LssDevice) : Answer := ⟨decide (r.1 = .rejected), r.2⟩

def Answer.ofGet {α : Type} (d : LssDevice) : Got α → Answer
  | .invalidCall => ⟨true, d⟩
  | .fail        => ⟨false, d⟩
  | .value _     => ⟨false, d⟩

def IndexedCall.call (elim : Bool) (mul : D3DMATRIX → D3DMATRIX → D3DMATRIX) (d : LssDevice) :
    IndexedCall → Option Answer
  | SetRenderState state value    => (Device.SetRenderState elim d state value).map .ofSet
  | SetStreamSource i vb offset stride =>
      (Device.SetStreamSource elim d i vb offset stride).map .ofSet
  | SetStreamSourceFreq i divider => (Device.SetStreamSourceFreq elim d i divider).map .ofSet
  | SetClipPlane idx p            => (Device.SetClipPlane d idx p).map .ofSet
  | SetRenderTarget idx t         => (Device.SetRenderTarget d idx t).map .ofSet
  | GetRenderTarget idx p         => (Device.GetRenderTarget d idx p).map (.ofGet d)
  | SetTransform type m           => (Device.SetTransform elim d type m).map .ofSet
  | GetTransform type p           => (Device.GetTransform d type p).map (.ofGet d)
  | MultiplyTransform type m      => (Device.MultiplyTransform mul d type m).map .ofSet
  | SetTextureStageState stage type v =>
      (Device.SetTextureStageState elim d stage type v).map .ofSet
  | GetTextureStageState stage type p =>
      (Device.GetTextureStageState d stage type p).map (.ofGet d)
  | SetSamplerState sampler type v => (Device.SetSamplerState elim d sampler type v).map .ofSet
  | GetSamplerState sampler type p => (Device.GetSamplerState d sampler type p).map (.ofGet d)
  | SetTexture stage t            => (Device.SetTexture elim d stage t).map .ofSet
  | GetTexture stage p            => (Device.GetTexture d stage p).map (.ofGet d)

/-- The call is refused and touches nothing, or what it addresses is in its array. -/
def IndexedCall.Sound (elim : Bool) (mul : D3DMATRIX → D3DMATRIX → D3DMATRIX) (d : LssDevice)
    (c : IndexedCall) : Prop :=
  ∃ a, c.call elim mul d = some a ∧ (a.rejected = true → a.device = d)

def IndexedCall.Accepted (elim : Bool) (mul : D3DMATRIX → D3DMATRIX → D3DMATRIX) (d : LssDevice)
    (c : IndexedCall) : Prop :=
  ∀ a, c.call elim mul d = some a → a.rejected = false

/-- The type of a call for a transform. -/
def IndexedCall.stateType : IndexedCall → Option Word
  | SetTransform type _ | GetTransform type _ | MultiplyTransform type _ => some type
  | _ => none

/-- The sampler or texture stage of a call for one. -/
def IndexedCall.stage : IndexedCall → Option Word
  | SetTextureStageState stage _ _ | GetTextureStageState stage _ _ | SetSamplerState stage _ _
  | GetSamplerState stage _ _ | SetTexture stage _ | GetTexture stage _ => some stage
  | _ => none

/-- Two calls that are accepted address the same entry for the same argument only. -/
def IndexedCall.Apart (elim : Bool) (mul : D3DMATRIX → D3DMATRIX → D3DMATRIX) (d : LssDevice)
    (c c' : IndexedCall) : Prop :=
  c.Accepted elim mul d → c'.Accepted elim mul d →
    (∀ t ∈ c.stateType, ∀ t' ∈ c'.stateType,
      mapXformStateTypeToIdx t = mapXformStateTypeToIdx t' → t = t') ∧
    ∀ s ∈ c.stage, ∀ s' ∈ c'.stage, mapSamplerStageToIdx s = mapSamplerStageToIdx s' → s = s'

/-! ### The arguments that do -/

/-- The types below `D3DTS_WORLD` that `mapXformStateTypeToIdx` gives the entries of the view, the
projection and the textures. -/
def Below (type : Word) : Prop := D3DTS_WORLD - 10 ≤ type ∧ type < D3DTS_WORLD

/-- What the application must see to itself. -/
def IndexedCall.InRange : IndexedCall → Prop
  | SetRenderState state _                    => state.toNat < kNumRenderStates
  | SetStreamSource i _ _ _                   => i.toNat < caps.MaxStreams
  | SetStreamSourceFreq i _                   => i.toNat < caps.MaxStreams
  | SetClipPlane idx (some _)                 => idx.toNat < caps.MaxClipPlanes
  | SetRenderTarget idx _                     => idx.toNat < caps.MaxSimultaneousRenderTargets
  | GetRenderTarget idx true                  => idx.toNat < caps.MaxSimultaneousRenderTargets
  | GetTransform type true | MultiplyTransform type (some _) =>
      isValidD3drtansformstatetype type ∨ Below type
  | _ => True

/-- The type of a transform that is not tested. -/
def IndexedCall.unchecked : IndexedCall → Option Word
  | GetTransform type true | MultiplyTransform type (some _) => some type
  | _ => none

/-- The type of a transform that is addressed. -/
def IndexedCall.addressed : IndexedCall → Option Word
  | SetTransform type (some _) => some type
  | c => c.unchecked

/-- A type that is none, and the one that has its entry. -/
def AliasOf (t t' : Word) : Prop :=
  (t = D3DTS_WORLD - 10 ∧ t' = D3DTS_VIEW) ∨ (t = D3DTS_WORLD - 9 ∧ t' = D3DTS_PROJECTION) ∨
    (D3DTS_TEXTURE0 ≤ t' ∧ t' ≤ D3DTS_TEXTURE7 ∧ t = D3DTS_WORLD - 8 + (t' - D3DTS_TEXTURE0))

def IndexedCall.Alias (c c' : IndexedCall) : Prop :=
  ∃ t ∈ c.unchecked, ∃ t' ∈ c'.addressed, AliasOf t t'

/-! ### The index maps -/

theorem toNat_view : D3DTS_VIEW.toNat = 2 := rfl
theorem toNat_projection : D3DTS_PROJECTION.toNat = 3 := rfl
theorem toNat_texture0 : D3DTS_TEXTURE0.toNat = 16 := rfl
theorem toNat_texture7 : D3DTS_TEXTURE7.toNat = 23 := rfl
theorem toNat_world : D3DTS_WORLD.toNat = 256 := rfl
theorem toNat_dmapSampler : D3DDMAPSAMPLER.toNat = 256 := rfl
theorem toNat_vertexSampler3 : D3DVERTEXTEXTURESAMPLER3.toNat = 260 := rfl

theorem mapXform_toNat (t : Word) :
    (mapXformStateTypeToIdx t).toNat =
      if t.toNat = 2 then 0 else if t.toNat = 3 then 1
      else if 16 ≤ t.toNat ∧ t.toNat ≤ 23 then t.toNat - 14
      else (t.toNat + (2 ^ 32 - 246)) % 2 ^ 32 := by
  simp only [mapXformStateTypeToIdx, apply_ite BitVec.toNat, ← BitVec.toNat_inj, BitVec.le_def,
    BitVec.toNat_add, BitVec.toNat_sub, toNat_view, toNat_projection, toNat_texture0,
    toNat_texture7, toNat_world]
  split_ifs
  · rfl
  · rfl
  · show (2 + (2 ^ 32 - 16 + t.toNat) % 2 ^ 32) % 2 ^ 32 = _
    omega
  · show (10 + (2 ^ 32 - 256 + t.toNat) % 2 ^ 32) % 2 ^ 32 = _
    omega

theorem isValid_iff (t : Word) :
    isValidD3drtansformstatetype t = true ↔
      t.toNat = 2 ∨ t.toNat = 3 ∨ (16 ≤ t.toNat ∧ t.toNat ≤ 23) ∨
        (256 ≤ t.toNat ∧ t.toNat < 512) := by
  have hworld : (D3DTS_WORLD + 256).toNat = 512 := rfl
  simp only [isValidD3drtansformstatetype, Bool.or_eq_true, decide_eq_true_iff,
    ← BitVec.toNat_inj, BitVec.le_def, BitVec.lt_def, toNat_view, toNat_projection,
    toNat_texture0, toNat_texture7, toNat_world, hworld, or_assoc]

theorem below_iff (t : Word) : Below t ↔ 246 ≤ t.toNat ∧ t.toNat < 256 := Iff.rfl

theorem aliasOf_iff (t t' : Word) :
    AliasOf t t' ↔ (t.toNat = 246 ∧ t'.toNat = 2) ∨ (t.toNat = 247 ∧ t'.toNat = 3) ∨
      (16 ≤ t'.toNat ∧ t'.toNat ≤ 23 ∧ t.toNat = t'.toNat + 232) := by
  have hview : (D3DTS_WORLD - 10).toNat = 246 := rfl
  have hprojection : (D3DTS_WORLD - 9).toNat = 247 := rfl
  have htexture : (D3DTS_WORLD - 8).toNat = 248 := rfl
  simp only [AliasOf, ← BitVec.toNat_inj, BitVec.le_def, BitVec.toNat_add, BitVec.toNat_sub,
    toNat_view, toNat_projection, toNat_texture0, toNat_texture7, hview, hprojection, htexture]
  omega

/-- The types with an entry in the array. -/
theorem mapXform_lt (t : Word) :
    (mapXformStateTypeToIdx t).toNat < caps.MaxTransforms ↔
      isValidD3drtansformstatetype t = true ∨ Below t := by
  rw [mapXform_toNat, isValid_iff, below_iff]
  show _ < 266 ↔ _
  split_ifs <;> omega

/-- The types that have an entry lie in three stretches. -/
theorem mapXform_cases {t : Word} (ht : isValidD3drtansformstatetype t = true ∨ Below t) :
    ((t.toNat = 2 ∨ t.toNat = 3) ∧ (mapXformStateTypeToIdx t).toNat + 2 = t.toNat) ∨
    ((16 ≤ t.toNat ∧ t.toNat ≤ 23) ∧ (mapXformStateTypeToIdx t).toNat + 14 = t.toNat) ∨
    (246 ≤ t.toNat ∧ (mapXformStateTypeToIdx t).toNat + 246 = t.toNat) := by
  rw [isValid_iff, below_iff] at ht
  rw [mapXform_toNat]
  rcases ht with (h | h | h | h) | h
  · exact .inl ⟨.inl h, by simp [h]⟩
  · exact .inl ⟨.inr h, by simp [h]⟩
  · refine .inr (.inl ⟨h, ?_⟩)
    rw [if_neg (by omega), if_neg (by omega), if_pos h]
    omega
  all_goals
    refine .inr (.inr ⟨by omega, ?_⟩)
    rw [if_neg (by omega), if_neg (by omega), if_neg (by omega)]
    omega

/-- Two types with the same entry: types of one stretch are equal, and the last stretch goes over
the entries of the other two. -/
theorem mapXform_eq {t t' : Word} (ht : isValidD3drtansformstatetype t = true ∨ Below t)
    (ht' : isValidD3drtansformstatetype t' = true ∨ Below t')
    (heq : mapXformStateTypeToIdx t = mapXformStateTypeToIdx t') :
    t = t' ∨ AliasOf t t' ∨ AliasOf t' t := by
  have hnat := congrArg BitVec.toNat heq
  rw [aliasOf_iff, aliasOf_iff, ← BitVec.toNat_inj]
  rcases mapXform_cases ht with ⟨h, hv⟩ | ⟨h, hv⟩ | ⟨h, hv⟩ <;>
    rcases mapXform_cases ht' with ⟨h', hv'⟩ | ⟨h', hv'⟩ | ⟨h', hv'⟩
  · left; omega
  · omega
  · right; right; omega
  · omega
  · left; omega
  · right; right; right; right; omega
  · right; left; omega
  · right; left; right; right; omega
  · left; omega

/-- `mapXformStateTypeToIdx` is injective on the types that `SetTransform` accepts. -/
theorem mapXform_inj {t t' : Word} (ht : isValidD3drtansformstatetype t = true)
    (ht' : isValidD3drtansformstatetype t' = true)
    (heq : mapXformStateTypeToIdx t = mapXformStateTypeToIdx t') : t = t' := by
  rcases mapXform_eq (.inl ht) (.inl ht') heq with h | h | h
  · exact h
  · rw [aliasOf_iff] at h
    rw [isValid_iff] at ht
    omega
  · rw [aliasOf_iff] at h
    rw [isValid_iff] at ht'
    omega

theorem AliasOf.mapXform {t t' : Word} (h : AliasOf t t') :
    mapXformStateTypeToIdx t = mapXformStateTypeToIdx t' := by
  rw [aliasOf_iff] at h
  rw [← BitVec.toNat_inj, mapXform_toNat, mapXform_toNat]
  split_ifs <;> omega

theorem isInvalid_iff (s : Word) :
    isInvalidSamplerStage s = false ↔ s.toNat ≤ 15 ∨ (256 ≤ s.toNat ∧ s.toNat ≤ 260) := by
  have hlast : (15 : Word).toNat = 15 := rfl
  simp only [isInvalidSamplerStage, Bool.or_eq_false_iff, decide_eq_false_iff_not, BitVec.lt_def,
    toNat_dmapSampler, toNat_vertexSampler3, hlast]
  omega

theorem mapSampler_toNat {s : Word} (h : isInvalidSamplerStage s = false) :
    (mapSamplerStageToIdx s).toNat = if 256 ≤ s.toNat then s.toNat - 240 else s.toNat := by
  have hstage := (isInvalid_iff s).mp h
  simp only [mapSamplerStageToIdx, apply_ite BitVec.toNat, BitVec.le_def, BitVec.toNat_add,
    BitVec.toNat_sub, toNat_dmapSampler]
  split_ifs
  · show (16 + (2 ^ 32 - 256 + s.toNat) % 2 ^ 32) % 2 ^ 32 = _
    omega
  · rfl

theorem mapSampler_lt {s : Word} (h : isInvalidSamplerStage s = false) :
    (mapSamplerStageToIdx s).toNat < kNumStageSamplers := by
  rw [mapSampler_toNat h]
  rw [isInvalid_iff] at h
  show _ < 21
  split_ifs <;> omega

theorem mapSampler_inj {s s' : Word} (h : isInvalidSamplerStage s = false)
    (h' : isInvalidSamplerStage s' = false)
    (heq : mapSamplerStageToIdx s = mapSamplerStageToIdx s') : s = s' := by
  have hnat := congrArg BitVec.toNat heq
  rw [mapSampler_toNat h, mapSampler_toNat h'] at hnat
  rw [isInvalid_iff] at h h'
  rw [← BitVec.toNat_inj]
  split_ifs at hnat <;> omega

/-! ### What a call does with its index -/

section
variable {c c' : IndexedCall} {n : Nat} {i : Word}

theorem index_of_lt (h : i.toNat < n) : index n i = some ⟨i.toNat, h⟩ := dif_pos h

theorem index_of_not_lt (h : ¬ i.toNat < n) : index n i = none := dif_neg h

theorem set_ne_rejected (d : LssDevice) (recordedHas : StateBlock → Bool)
    (deviceHas : State → Bool) (update : State → State) (fs : List Flag) :
    (d.set recordedHas deviceHas update fs).1 ≠ .rejected := by
  unfold LssDevice.set
  split
  · dsimp only
    split
    · exact Section.noConfusion
    · exact Section.noConfusion
  · split
    · exact Section.noConfusion
    · exact Section.noConfusion

theorem setEntry_ne_rejected (d : LssDevice) (elimRecorded elimDevice : Bool) (f : Flag) (k : Slot)
    (v : k.Val) : (d.setEntry elimRecorded elimDevice f k v).1 ≠ .rejected :=
  set_ne_rejected d _ _ _ _

theorem written_ne_rejected : Section.written ≠ .rejected := fun h => Section.noConfusion h

theorem value_ne_invalid {α : Type} (v : α) : Got.value v ≠ .invalidCall := by
  intro h
  cases h

theorem sound_rejected (h : c.call elim mul d = some ⟨true, d⟩) : c.Sound elim mul d :=
  ⟨_, h, fun _ => rfl⟩

theorem not_accepted (h : c.call elim mul d = some ⟨true, d⟩) : ¬ c.Accepted elim mul d :=
  fun hacc => Bool.noConfusion (hacc _ h)

/-- A call that goes on to address an entry, with whatever it then does. -/
structure Addresses (elim : Bool) (mul : D3DMATRIX → D3DMATRIX → D3DMATRIX) (d : LssDevice)
    (c : IndexedCall) (n : Nat) (i : Word) : Prop where
  call : ∃ g : Fin n → Answer, c.call elim mul d = (index n i).map g ∧
    ∀ k, (g k).rejected = false

theorem addresses_set {g : Fin n → Section × LssDevice}
    (h : c.call elim mul d = ((index n i).map g).map .ofSet) (hg : ∀ k, (g k).1 ≠ .rejected) :
    Addresses elim mul d c n i :=
  ⟨⟨fun k => .ofSet (g k), h.trans (Option.map_map ..), fun k => decide_eq_false (hg k)⟩⟩

theorem addresses_get {α : Type} {g : Fin n → Got α}
    (h : c.call elim mul d = ((index n i).map g).map (.ofGet d))
    (hg : ∀ k, g k ≠ .invalidCall) : Addresses elim mul d c n i := by
  refine ⟨⟨fun k => .ofGet d (g k), h.trans (Option.map_map ..), fun k => ?_⟩⟩
  show (Answer.ofGet d (g k)).rejected = false
  cases hk : g k with
  | invalidCall => exact absurd hk (hg k)
  | fail => rfl
  | value v => rfl

theorem Addresses.sound_iff (h : Addresses elim mul d c n i) :
    c.Sound elim mul d ↔ i.toNat < n := by
  obtain ⟨g, hcall, hg⟩ := h.call
  constructor
  · rintro ⟨a, ha, -⟩
    by_contra hnot
    rw [hcall, index_of_not_lt hnot] at ha
    cases ha
  · intro hlt
    refine ⟨g ⟨i.toNat, hlt⟩, ?_, fun hrej => ?_⟩
    · rw [hcall, index_of_lt hlt]
      rfl
    · rw [hg] at hrej
      cases hrej

theorem Addresses.accepted (h : Addresses elim mul d c n i) : c.Accepted elim mul d := by
  obtain ⟨g, hcall, hg⟩ := h.call
  intro a ha
  obtain ⟨k, -, rfl⟩ := Option.map_eq_some_iff.mp (hcall.symm.trans ha)
  exact hg k

end

/-- The array a call addresses, by its size, and the index; nothing where it is refused. -/
def IndexedCall.target : IndexedCall → Option (Nat × Word)
  | SetRenderState state _            => some (kNumRenderStates, state)
  | SetStreamSource i _ _ _           => some (caps.MaxStreams, i)
  | SetStreamSourceFreq i _           => some (caps.MaxStreams, i)
  | SetClipPlane idx p                => if p.isSome then some (caps.MaxClipPlanes, idx) else none
  | SetRenderTarget idx _             => some (caps.MaxSimultaneousRenderTargets, idx)
  | GetRenderTarget idx p             =>
      if p then some (caps.MaxSimultaneousRenderTargets, idx) else none
  | SetTransform type m               =>
      if m.isSome && isValidD3drtansformstatetype type then
        some (caps.MaxTransforms, mapXformStateTypeToIdx type)
      else none
  | GetTransform type p               =>
      if p then some (caps.MaxTransforms, mapXformStateTypeToIdx type) else none
  | MultiplyTransform type m          =>
      if m.isSome then some (caps.MaxTransforms, mapXformStateTypeToIdx type) else none
  | SetTextureStageState stage type _ =>
      if decide (stage.toNat < caps.MaxSimultaneousTextures) &&
          (TexStageStateTypeToIdx type).isSome then
        some (kNumStageSamplers, mapSamplerStageToIdx stage)
      else none
  | GetTextureStageState stage type p =>
      if !isInvalidSamplerStage stage && p && (TexStageStateTypeToIdx type).isSome then
        some (kNumStageSamplers, mapSamplerStageToIdx stage)
      else none
  | SetSamplerState sampler type _    =>
      if !isInvalidSamplerStage sampler && (index kMaxStageSamplerStateTypes (type - 1)).isSome then
        some (kNumStageSamplers, mapSamplerStageToIdx sampler)
      else none
  | GetSamplerState sampler type p    =>
      if !isInvalidSamplerStage sampler && p &&
          (index kMaxStageSamplerStateTypes (type - 1)).isSome then
        some (kNumStageSamplers, mapSamplerStageToIdx sampler)
      else none
  | SetTexture stage t                =>
      if !isInvalidSamplerStage stage && (t.all fun t => decide (t.2 = D3DRTYPE_TEXTURE ∨
          t.2 = D3DRTYPE_CUBETEXTURE ∨ t.2 = D3DRTYPE_VOLUMETEXTURE)) then
        some (kNumStageSamplers, mapSamplerStageToIdx stage)
      else none
  | GetTexture stage p                =>
      if !isInvalidSamplerStage stage && p then
        some (kNumStageSamplers, mapSamplerStageToIdx stage)
      else none

/-- What a call does, from its target. -/
def Follows (elim : Bool) (mul : D3DMATRIX → D3DMATRIX → D3DMATRIX) (d : LssDevice)
    (c : IndexedCall) : Option (Nat × Word) → Prop
  | none        => c.call elim mul d = some ⟨true, d⟩
  | some (n, i) => Addresses elim mul d c n i

theorem follows_rejected {c : IndexedCall} (ht : c.target = none)
    (hc : c.call elim mul d = some ⟨true, d⟩) : Follows elim mul d c c.target := by
  rw [ht]
  exact hc

theorem follows_set {c : IndexedCall} {n : Nat} (i : Word) {g : Fin n → Section × LssDevice}
    (hg : ∀ k, (g k).1 ≠ .rejected) (ht : c.target = some (n, i))
    (hc : c.call elim mul d = ((index n i).map g).map .ofSet) : Follows elim mul d c c.target := by
  rw [ht]
  exact addresses_set hc hg

theorem follows_get {c : IndexedCall} {n : Nat} (i : Word) {α : Type} {g : Fin n → Got α}
    (hg : ∀ k, g k ≠ .invalidCall) (ht : c.target = some (n, i))
    (hc : c.call elim mul d = ((index n i).map g).map (.ofGet d)) :
    Follows elim mul d c c.target := by
  rw [ht]
  exact addresses_get hc hg

/-- What `SetTexture` writes to an entry. -/
def writeTexture (elim : Bool) (d : LssDevice) (objectRef : D3DAutoPtr) (type : Word)
    (i : Fin kNumStageSamplers) : Section × LssDevice :=
  d.set (fun _ => false) (fun s => elim && decide (s (.textures i) = objectRef))
    (fun s => Function.update (Function.update s (.textures i) objectRef) (.textureTypes i) type)
    [.textures i]

theorem readTexture_ne_invalid (i : Fin kNumStageSamplers) : readTexture d i ≠ .invalidCall := by
  unfold readTexture
  split
  · exact value_ne_invalid _
  · dsimp only
    split
    · exact value_ne_invalid _
    · intro h
      cases h

theorem call_target (c : IndexedCall) : Follows elim mul d c c.target := by
  cases c with
  | SetRenderState state value =>
      exact follows_set _ (fun _ => setEntry_ne_rejected _ _ _ _ _ _) rfl rfl
  | SetStreamSource i vb offset stride =>
      exact follows_set _ (fun _ => set_ne_rejected _ _ _ _ _) rfl rfl
  | SetStreamSourceFreq i divider =>
      exact follows_set _ (fun _ => setEntry_ne_rejected _ _ _ _ _ _) rfl rfl
  | SetClipPlane idx p =>
      cases p with
      | none => exact follows_rejected rfl rfl
      | some p => exact follows_set _ (fun _ => set_ne_rejected _ _ _ _ _) rfl rfl
  | SetRenderTarget idx t => exact follows_set _ (fun _ => written_ne_rejected) rfl rfl
  | GetRenderTarget idx p =>
      cases p with
      | false => exact follows_rejected rfl rfl
      | true => exact follows_get _ (fun _ => value_ne_invalid _) rfl rfl
  | SetTransform type m =>
      cases m with
      | none => exact follows_rejected rfl rfl
      | some m =>
          cases hvalid : isValidD3drtansformstatetype type with
          | false =>
              refine follows_rejected ?_ ?_
              · simp [IndexedCall.target, hvalid]
              · simp [IndexedCall.call, Device.SetTransform, hvalid, Answer.ofSet]
          | true =>
              refine follows_set (mapXformStateTypeToIdx type)
                (fun i => setEntry_ne_rejected d elim elim (.transforms i) (.transforms i) m) ?_ ?_
              · simp [IndexedCall.target, hvalid]
              · simp only [IndexedCall.call, Device.SetTransform, hvalid, if_true]
  | GetTransform type p =>
      cases p with
      | false => exact follows_rejected rfl rfl
      | true => exact follows_get _ (fun _ => value_ne_invalid _) rfl rfl
  | MultiplyTransform type m =>
      cases m with
      | none => exact follows_rejected rfl rfl
      | some m => exact follows_set _ (fun _ => setEntry_ne_rejected _ _ _ _ _ _) rfl rfl
  | SetTextureStageState stage type v =>
      by_cases hstage : stage.toNat < caps.MaxSimultaneousTextures
      · cases hj : TexStageStateTypeToIdx type with
        | none =>
            refine follows_rejected ?_ ?_
            · simp [IndexedCall.target, hj]
            · simp [IndexedCall.call, Device.SetTextureStageState, hj, Answer.ofSet]
        | some j =>
            refine follows_set (mapSamplerStageToIdx stage)
              (fun i => setEntry_ne_rejected d elim elim (.textureStageStates i j)
                (.textureStageStates i j) v) ?_ ?_
            · simp [IndexedCall.target, hj, hstage]
            · simp only [IndexedCall.call, Device.SetTextureStageState, hj,
                if_neg (Nat.not_le_of_lt hstage)]
      · refine follows_rejected ?_ ?_
        · simp [IndexedCall.target, hstage]
        · rw [IndexedCall.call, Device.SetTextureStageState, if_pos (Nat.le_of_not_lt hstage)]
          rfl
  | GetTextureStageState stage type p =>
      cases hstage : isInvalidSamplerStage stage <;> cases p
      case false.true =>
        cases hj : TexStageStateTypeToIdx type with
        | none =>
            refine follows_rejected ?_ ?_
            · simp [IndexedCall.target, hj]
            · simp [IndexedCall.call, Device.GetTextureStageState, hstage, hj, Answer.ofGet]
        | some j =>
            refine follows_get (mapSamplerStageToIdx stage)
              (fun i => value_ne_invalid (d.mState (.textureStageStates i j))) ?_ ?_
            · simp [IndexedCall.target, hj, hstage]
            · simp only [IndexedCall.call, Device.GetTextureStageState, hj, hstage, Bool.not_true,
                Bool.or_false, Bool.false_eq_true, if_false]
      all_goals
        refine follows_rejected ?_ ?_
        · simp [IndexedCall.target, hstage]
        · simp [IndexedCall.call, Device.GetTextureStageState, hstage, Answer.ofGet]
  | SetSamplerState sampler type v =>
      cases hstage : isInvalidSamplerStage sampler with
      | true =>
          refine follows_rejected ?_ ?_
          · simp [IndexedCall.target, hstage]
          · simp [IndexedCall.call, Device.SetSamplerState, hstage, Answer.ofSet]
      | false =>
          cases hj : index kMaxStageSamplerStateTypes (type - 1) with
          | none =>
              refine follows_rejected ?_ ?_
              · rw [IndexedCall.target, hj, hstage]
                rfl
              · rw [IndexedCall.call, Device.SetSamplerState, hstage, hj]
                rfl
          | some j =>
              refine follows_set (mapSamplerStageToIdx sampler)
                (fun i => setEntry_ne_rejected d elim elim (.samplerStates i j)
                  (.samplerStates i j) v) ?_ ?_
              · rw [IndexedCall.target, hj, hstage]
                rfl
              · simp only [IndexedCall.call, Device.SetSamplerState, hj, hstage,
                  Bool.false_eq_true, if_false]
  | GetSamplerState sampler type p =>
      cases hstage : isInvalidSamplerStage sampler <;> cases p
      case false.true =>
        cases hj : index kMaxStageSamplerStateTypes (type - 1) with
        | none =>
            refine follows_rejected ?_ ?_
            · rw [IndexedCall.target, hj, hstage]
              rfl
            · rw [IndexedCall.call, Device.GetSamplerState, hstage, hj]
              rfl
        | some j =>
            refine follows_get (mapSamplerStageToIdx sampler)
              (fun i => value_ne_invalid (d.mState (.samplerStates i j))) ?_ ?_
            · rw [IndexedCall.target, hj, hstage]
              rfl
            · simp only [IndexedCall.call, Device.GetSamplerState, hj, hstage, Bool.not_true,
                Bool.or_false, Bool.false_eq_true, if_false]
      all_goals
        refine follows_rejected ?_ ?_
        · simp [IndexedCall.target, hstage]
        · simp [IndexedCall.call, Device.GetSamplerState, hstage, Answer.ofGet]
  | SetTexture stage t =>
      cases hstage : isInvalidSamplerStage stage with
      | true =>
          refine follows_rejected ?_ ?_
          · rw [IndexedCall.target, hstage]
            rfl
          · rw [IndexedCall.call, Device.SetTexture, hstage]
            rfl
      | false =>
          cases t with
          | none =>
              refine follows_set (mapSamplerStageToIdx stage)
                (g := writeTexture elim d none D3DRTYPE_FORCE_DWORD)
                (fun _ => set_ne_rejected _ _ _ _ _) ?_ ?_
              · rw [IndexedCall.target, hstage]
                rfl
              · simp only [IndexedCall.call, Device.SetTexture, hstage, Bool.false_eq_true,
                  if_false]
                rfl
          | some t =>
              by_cases htype : t.2 = D3DRTYPE_TEXTURE ∨ t.2 = D3DRTYPE_CUBETEXTURE ∨
                  t.2 = D3DRTYPE_VOLUMETEXTURE
              · refine follows_set (mapSamplerStageToIdx stage)
                  (g := writeTexture elim d (some t.1) t.2)
                  (fun _ => set_ne_rejected _ _ _ _ _) ?_ ?_
                · rw [IndexedCall.target, hstage, Option.all_some, decide_eq_true htype]
                  rfl
                · simp only [IndexedCall.call, Device.SetTexture, hstage, Bool.false_eq_true,
                    if_false, if_pos htype]
                  rfl
              · refine follows_rejected ?_ ?_
                · rw [IndexedCall.target, hstage, Option.all_some, decide_eq_false htype]
                  rfl
                · simp only [IndexedCall.call, Device.SetTexture, hstage, Bool.false_eq_true,
                    if_false, if_neg htype]
                  rfl
  | GetTexture stage p =>
      cases hstage : isInvalidSamplerStage stage <;> cases p
      case false.true =>
        refine follows_get (mapSamplerStageToIdx stage) (readTexture_ne_invalid (d := d)) ?_ ?_
        · rw [IndexedCall.target, hstage]
          rfl
        · simp only [IndexedCall.call, Device.GetTexture, hstage, Bool.not_true,
            Bool.or_false, Bool.false_eq_true, if_false]
      all_goals
        refine follows_rejected ?_ ?_
        · simp [IndexedCall.target, hstage]
        · simp [IndexedCall.call, Device.GetTexture, hstage, Answer.ofGet]

section
variable {c c' : IndexedCall}

theorem sound_target : c.Sound elim mul d ↔ ∀ p ∈ c.target, p.2.toNat < p.1 := by
  have hfollows : Follows elim mul d c c.target := call_target c
  cases ht : c.target with
  | none =>
      rw [ht] at hfollows
      exact iff_of_true (sound_rejected hfollows) (by simp)
  | some p =>
      rw [ht] at hfollows
      rw [Addresses.sound_iff hfollows]
      simp

theorem accepted_target : c.Accepted elim mul d ↔ c.target.isSome = true := by
  have hfollows : Follows elim mul d c c.target := call_target c
  cases ht : c.target with
  | none =>
      rw [ht] at hfollows
      exact iff_of_false (not_accepted hfollows) Bool.false_ne_true
  | some p =>
      rw [ht] at hfollows
      exact iff_of_true (Addresses.accepted hfollows) rfl

theorem stage_valid {s : Word} (ht : c.target.isSome = true) (hs : s ∈ c.stage) :
    isInvalidSamplerStage s = false := by
  cases c with
  | SetTextureStageState stage type v =>
      obtain rfl := Option.some.inj hs
      simp only [IndexedCall.target, Option.isSome_ite, Bool.and_eq_true, decide_eq_true_iff] at ht
      have hlt : stage.toNat < 8 := ht.1
      rw [isInvalid_iff]
      omega
  | SetTexture stage t | SetSamplerState stage type v | GetTexture stage p
  | GetTextureStageState stage type p | GetSamplerState stage type p =>
      obtain rfl := Option.some.inj hs
      simp only [IndexedCall.target, Option.isSome_ite, Bool.and_eq_true, Bool.not_eq_true'] at ht
      simp only [ht]
  | _ => cases hs

/-- A call for a transform that is accepted addresses the entry of its type, and has tested it
unless it is one of the two that do not. -/
theorem stateType_target {t : Word} (ht : c.target.isSome = true) (hs : t ∈ c.stateType) :
    c.target = some (caps.MaxTransforms, mapXformStateTypeToIdx t) ∧ c.addressed = some t ∧
      (c.unchecked = none → isValidD3drtansformstatetype t = true) := by
  cases c with
  | SetTransform type m =>
      obtain rfl := Option.some.inj hs
      simp only [IndexedCall.target, Option.isSome_ite, Bool.and_eq_true] at ht
      obtain ⟨hm, hvalid⟩ := ht
      obtain ⟨m, rfl⟩ := Option.isSome_iff_exists.mp hm
      refine ⟨?_, rfl, fun _ => hvalid⟩
      rw [IndexedCall.target, hvalid]
      rfl
  | GetTransform type p =>
      obtain rfl := Option.some.inj hs
      simp only [IndexedCall.target, Option.isSome_ite] at ht
      subst ht
      exact ⟨rfl, rfl, fun h => by cases h⟩
  | MultiplyTransform type m =>
      obtain rfl := Option.some.inj hs
      simp only [IndexedCall.target, Option.isSome_ite] at ht
      obtain ⟨m, rfl⟩ := Option.isSome_iff_exists.mp ht
      exact ⟨rfl, rfl, fun h => by cases h⟩
  | _ => cases hs

theorem unchecked_addressed {t : Word} (h : t ∈ c.unchecked) : t ∈ c.addressed := by
  cases c with
  | SetTransform type m => cases h
  | _ => exact h

/-- The type that a call addresses the entry of. -/
theorem addressed_target {t : Word} (h : t ∈ c.addressed)
    (hvalid : isValidD3drtansformstatetype t = true ∨ t ∈ c.unchecked) :
    c.target.isSome = true ∧ t ∈ c.stateType := by
  cases c with
  | SetTransform type m =>
      cases m with
      | none => cases h
      | some m =>
          obtain rfl := Option.some.inj h
          have hv : isValidD3drtansformstatetype type = true := by
            rcases hvalid with hv | hu
            · exact hv
            · cases hu
          refine ⟨?_, rfl⟩
          rw [IndexedCall.target, hv]
          rfl
  | GetTransform type p =>
      cases p with
      | false => cases h
      | true => exact ⟨rfl, h⟩
  | MultiplyTransform type m =>
      cases m with
      | none => cases h
      | some m => exact ⟨rfl, h⟩
  | _ => cases h

theorem inRange_target : (∀ p ∈ c.target, p.2.toNat < p.1) ↔ c.InRange := by
  have hrejected (h : c.target = none) : ∀ p ∈ c.target, p.2.toNat < p.1 := by
    rw [h]
    simp
  have htarget {n : Nat} {i : Word} (h : c.target = some (n, i)) :
      (∀ p ∈ c.target, p.2.toNat < p.1) ↔ i.toNat < n := by
    rw [h]
    simp
  have hstage {s : Word} (hs : s ∈ c.stage) (h : c.target = none ∨
      c.target = some (kNumStageSamplers, mapSamplerStageToIdx s)) :
      ∀ p ∈ c.target, p.2.toNat < p.1 := by
    rcases h with h | h
    · exact hrejected h
    · exact (htarget h).mpr (mapSampler_lt (stage_valid (by rw [h]; rfl) hs))
  cases c with
  | SetRenderState state value | SetStreamSource state vb offset stride
  | SetStreamSourceFreq state divider | SetRenderTarget state t => exact htarget rfl
  | SetClipPlane idx p =>
      cases p with
      | none => exact iff_of_true (hrejected rfl) trivial
      | some p => exact htarget rfl
  | GetRenderTarget idx p =>
      cases p with
      | false => exact iff_of_true (hrejected rfl) trivial
      | true => exact htarget rfl
  | SetTransform type m =>
      refine iff_of_true ?_ trivial
      by_cases ht : (IndexedCall.SetTransform type m).target = none
      · exact hrejected ht
      · have hsome := Option.isSome_iff_ne_none.mpr ht
        obtain ⟨heq, -, hvalid⟩ := stateType_target hsome (Option.mem_some_self type)
        exact (htarget heq).mpr ((mapXform_lt type).mpr (.inl (hvalid rfl)))
  | GetTransform type p =>
      cases p with
      | false => exact iff_of_true (hrejected rfl) trivial
      | true => exact (htarget rfl).trans (mapXform_lt type)
  | MultiplyTransform type m =>
      cases m with
      | none => exact iff_of_true (hrejected rfl) trivial
      | some m => exact (htarget rfl).trans (mapXform_lt type)
  | SetTextureStageState stage type v | SetTexture stage t | SetSamplerState stage type v
  | GetTexture stage p | GetTextureStageState stage type p | GetSamplerState stage type p =>
      refine iff_of_true (hstage (Option.mem_some_self stage) ?_) trivial
      simp only [IndexedCall.target]
      split
      · exact .inr rfl
      · exact .inl rfl

theorem AliasOf.valid {t t' : Word} (h : AliasOf t t') : isValidD3drtansformstatetype t' = true := by
  rw [aliasOf_iff] at h
  rw [isValid_iff]
  omega

theorem AliasOf.not_valid {t t' : Word} (h : AliasOf t t') :
    ¬ isValidD3drtansformstatetype t = true := by
  rw [aliasOf_iff] at h
  rw [isValid_iff]
  omega

/-- The entry that two such calls share. -/
theorem IndexedCall.Alias.shared (h : c.Alias c') :
    ∃ t t', c.target.isSome = true ∧ c'.target.isSome = true ∧ t ∈ c.stateType ∧
      t' ∈ c'.stateType ∧ mapXformStateTypeToIdx t = mapXformStateTypeToIdx t' ∧ t ≠ t' := by
  obtain ⟨t, hu, t', ha, halias⟩ := h
  obtain ⟨ht, hs⟩ := addressed_target (unchecked_addressed hu) (.inr hu)
  obtain ⟨ht', hs'⟩ := addressed_target ha (.inl halias.valid)
  refine ⟨t, t', ht, ht', hs, hs', halias.mapXform, ?_⟩
  rintro rfl
  exact halias.not_valid halias.valid

theorem alias_of {t t' : Word} (ht : c.target.isSome = true) (hs : t ∈ c.stateType)
    (ht' : c'.target.isSome = true) (hs' : t' ∈ c'.stateType) (h : AliasOf t t') : c.Alias c' := by
  obtain ⟨-, haddressed, hvalid⟩ := stateType_target ht hs
  obtain ⟨-, haddressed', -⟩ := stateType_target ht' hs'
  refine ⟨t, ?_, t', haddressed', h⟩
  cases hu : c.unchecked with
  | none => exact absurd (hvalid hu) h.not_valid
  | some u =>
      have hu' := unchecked_addressed (Option.mem_def.mpr hu)
      rw [haddressed] at hu'
      exact hu'.symm

/-- A call stays in its array or is refused for the arguments that are in range. -/
theorem sound_iff : c.Sound elim mul d ↔ c.InRange := sound_target.trans inRange_target

end

/-- **Every index is in its array, and no two arguments have one entry**, of any two calls of the
setters and getters, if and only if the indices that are not tested are in range and no transform is
addressed by way of a type that is none. -/
theorem indices_in_range (elim : Bool) (mul : D3DMATRIX → D3DMATRIX → D3DMATRIX) (d : LssDevice)
    (c c' : IndexedCall) :
    (c.Sound elim mul d ∧ c'.Sound elim mul d ∧ c.Apart elim mul d c') ↔
      c.InRange ∧ c'.InRange ∧ ¬ c.Alias c' ∧ ¬ c'.Alias c := by
  rw [sound_iff, sound_iff]
  refine and_congr_right fun hrange => and_congr_right fun hrange' => ?_
  constructor
  · intro hapart
    constructor
    · intro halias
      obtain ⟨t, t', ht, ht', hs, hs', heq, hne⟩ := halias.shared
      exact hne ((hapart (accepted_target.mpr ht) (accepted_target.mpr ht')).1 t hs t' hs' heq)
    · intro halias
      obtain ⟨t', t, ht', ht, hs', hs, heq, hne⟩ := halias.shared
      exact hne ((hapart (accepted_target.mpr ht) (accepted_target.mpr ht')).1 t hs t' hs'
        heq.symm).symm
  · rintro ⟨hnot, hnot'⟩ hacc hacc'
    have ht := accepted_target.mp hacc
    have ht' := accepted_target.mp hacc'
    constructor
    · intro t hs t' hs' heq
      have hlt := inRange_target.mpr hrange _ (stateType_target ht hs).1
      have hlt' := inRange_target.mpr hrange' _ (stateType_target ht' hs').1
      rcases mapXform_eq ((mapXform_lt t).mp hlt) ((mapXform_lt t').mp hlt') heq with h | h | h
      · exact h
      · exact absurd (alias_of ht hs ht' hs' h) hnot
      · exact absurd (alias_of ht' hs' ht hs h) hnot'
    · intro s hs s' hs' heq
      exact mapSampler_inj (stage_valid ht hs) (stage_valid ht' hs') heq

/-- Render target 4, of 4, and the view matrix by way of the type 246. -/
theorem fifth_target_not_sound :
    (∀ elim mul d, ¬ (IndexedCall.SetRenderTarget 4 (some 1)).Sound elim mul d) ∧
    ∀ elim mul d, ¬ (IndexedCall.GetTransform 246 true).Apart elim mul d (.GetTransform 2 true) := by
  constructor
  · intro elim mul d hsound
    exact absurd (sound_iff.mp hsound) (by decide : ¬ (4 : Word).toNat < 4)
  · intro elim mul d hapart
    have halias : (IndexedCall.GetTransform 246 true).Alias (.GetTransform 2 true) :=
      ⟨246, rfl, 2, rfl, .inl ⟨rfl, rfl⟩⟩
    obtain ⟨t, t', ht, ht', hs, hs', heq, hne⟩ := halias.shared
    exact hne ((hapart (accepted_target.mpr ht) (accepted_target.mpr ht')).1 t hs t' hs' heq)

end RemixBridge.Device
