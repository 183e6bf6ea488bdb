import RemixBridge.Device.HeldBlocks
import Mathlib.Data.BitVec

/-!
# Device — RecordingIsolation

What the calls between `BeginStateBlock` and `EndStateBlock` leave: the device as it was, and in the
block the values they name.  The setters of the vertex declaration, of the render targets and of the
depth stencil do not ask whether a block is recorded.

* `records_call`: a setter that asks writes what it names to the block only.
* `recording_isolated`: after a recording of such setters the device's state is what it was, and a
  later `Apply` writes to it what they named, in their order, and nothing else.
-/

namespace RemixBridge.Device
open Loops Runs

/-! ### What the calls name -/

/-- The types of the objects that `SetTexture` takes. -/
def isTextureType (type : Word) : Bool :=
  decide (type = D3DRTYPE_TEXTURE ∨ type = D3DRTYPE_CUBETEXTURE ∨ type = D3DRTYPE_VOLUMETEXTURE)

/-- The setter answers `D3DERR_INVALIDCALL` without a look at the state. -/
def Setter.refused : Setter → Bool
  | SetTransform type pMatrix => pMatrix.isNone || !isValidD3drtansformstatetype type
  | MultiplyTransform _ pMatrix => pMatrix.isNone
  | SetViewport pViewport => pViewport.isNone
  | SetMaterial pMaterial => pMaterial.isNone
  | SetScissorRect pRect => pRect.isNone
  | SetLight _ pLight => pLight.isNone
  | SetClipPlane _ pPlane => pPlane.isNone
  | SetTexture stage pTexture =>
      isInvalidSamplerStage stage || pTexture.any fun t => !isTextureType t.2
  | SetTextureStageState stage type _ =>
      decide (caps.MaxSimultaneousTextures ≤ stage.toNat) || (TexStageStateTypeToIdx type).isNone
  | SetSamplerState sampler type _ =>
      isInvalidSamplerStage sampler || (index kMaxStageSamplerStateTypes (type - 1)).isNone
  | SetVertexShaderConstantF startRegister data count => data.isNone ||
      decide (startRegister + count > BitVec.ofNat 32 caps.MaxFloatConstantsSoftware)
  | SetVertexShaderConstantI startRegister data count => data.isNone ||
      decide (startRegister + count > BitVec.ofNat 32 caps.MaxOtherConstantsSoftware)
  | SetVertexShaderConstantB startRegister data count => data.isNone ||
      decide (startRegister + count > BitVec.ofNat 32 caps.MaxOtherConstantsSoftware)
  | SetPixelShaderConstantF startRegister data count => data.isNone ||
      decide (startRegister + count > BitVec.ofNat 32 caps.MaxFloatConstantsPS)
  | SetPixelShaderConstantI startRegister data count => data.isNone ||
      decide (startRegister + count > BitVec.ofNat 32 caps.MaxOtherConstants)
  | SetPixelShaderConstantB startRegister data count => data.isNone ||
      decide (startRegister + count > BitVec.ofNat 32 caps.MaxOtherConstants)
  | _ => false

/-- The values that a call names; `seen` is what the application sees, the values named before over
the device's state. -/
def Setter.named (mul : D3DMATRIX → D3DMATRIX → D3DMATRIX) (seen : (c : Cell) → c.Val)
    (c : Setter) : List Value :=
  if c.refused then [] else
    match c with
    | MultiplyTransform type (some m) =>
        ((index caps.MaxTransforms (mapXformStateTypeToIdx type)).map fun i =>
          [(⟨.entry (.transforms i), mul (seen (.entry (.transforms i))) m⟩ : Value)]).getD []
    | c => c.values

theorem named_of_refused {mul : D3DMATRIX → D3DMATRIX → D3DMATRIX} {seen : (c : Cell) → c.Val}
    {c : Setter} (h : c.refused = true) : c.named mul seen = [] := if_pos h

theorem named_of_accepted {mul : D3DMATRIX → D3DMATRIX → D3DMATRIX} {seen : (c : Cell) → c.Val}
    {c : Setter} (h : c.refused = false) (hm : c.multiplies = false) :
    c.named mul seen = c.values := by
  unfold Setter.named
  rw [if_neg (Bool.eq_false_iff.mp h)]
  split
  · cases hm
  · rfl

/-- The values that calls name, in their order. -/
def namedAll (mul : D3DMATRIX → D3DMATRIX → D3DMATRIX) :
    ((c : Cell) → c.Val) → List Setter → List Value
  | _, []         => []
  | seen, c :: cs => c.named mul seen ++ namedAll mul (write seen (c.named mul seen)) cs

/-- The setter asks whether a block is recorded. -/
def Setter.recordable : Setter → Bool
  | SetVertexDeclaration _ | SetRenderTarget _ _ | SetDepthStencilSurface _ => false
  | _ => true

/-! ### What a setter leaves in the block -/

/-- From `d` to `d'` the device's state is kept, and a transfer from the block at `sb` writes `ws`
after what it wrote. -/
structure Records (sb : Nat) (ws : List Value) (d d' : LssDevice) : Prop where
  mState : d'.mState = d.mState
  copies : ∀ vs, Copies (d.blocks sb).mDirtyFlags (d.blocks sb).mCaptureState vs →
    Copies (d'.blocks sb).mDirtyFlags (d'.blocks sb).mCaptureState (vs ++ ws)

section records

variable {d : LssDevice} {sb : Nat} {ws : List Value} {x : Section × LssDevice}

theorem records_nothing {r : Section} (h : some (r, d) = some x) : Records sb [] d x.2 := by
  cases h
  exact ⟨rfl, fun vs hvs => by rwa [List.append_nil]⟩

theorem records_map {α : Type} {o : Option α} {g : α → Section × LssDevice}
    {ws : α → List Value} (hg : ∀ a, Records sb (ws a) d (g a).2) (h : o.map g = some x) :
    Records sb ((o.map ws).getD []) d x.2 := by
  obtain ⟨a, rfl, rfl⟩ := Option.map_eq_some_iff.mp h
  exact hg a

theorem records_putBlock {b : StateBlock}
    (h : ∀ vs, Copies (d.blocks sb).mDirtyFlags (d.blocks sb).mCaptureState vs →
      Copies b.mDirtyFlags b.mCaptureState (vs ++ ws)) : Records sb ws d (d.putBlock sb b) := by
  refine ⟨rfl, fun vs hvs => ?_⟩
  simpa [LssDevice.putBlock] using h vs hvs

theorem records_set (hd : d.mStateRecording = some sb) {recordedHas : StateBlock → Bool}
    {deviceHas : State → Bool} {update : State → State} {fs : List Flag}
    (hhas : recordedHas (d.blocks sb) = true →
      ∀ vs, Copies (d.blocks sb).mDirtyFlags (d.blocks sb).mCaptureState vs →
        Copies (d.blocks sb).mDirtyFlags (d.blocks sb).mCaptureState (vs ++ ws))
    (hu : (update (d.blocks sb).mCaptureState).cells = write (d.blocks sb).mCaptureState.cells ws)
    (hc : ∀ c, c ∈ fs.flatMap Flag.cells ↔ c ∈ ws.map (·.1)) :
    Records sb ws d (d.set recordedHas deviceHas update fs).2 := by
  unfold LssDevice.set
  rw [hd]
  dsimp only
  split
  · exact ⟨rfl, hhas ‹_›⟩
  · exact records_putBlock fun vs hvs => copies_set hvs hu hc

/-- The same for a setter that does not look at what is recorded. -/
theorem records_setAlways (hd : d.mStateRecording = some sb) {deviceHas : State → Bool}
    {update : State → State} {fs : List Flag}
    (hu : (update (d.blocks sb).mCaptureState).cells = write (d.blocks sb).mCaptureState.cells ws)
    (hc : ∀ c, c ∈ fs.flatMap Flag.cells ↔ c ∈ ws.map (·.1)) :
    Records sb ws d (d.set (fun _ => false) deviceHas update fs).2 :=
  records_set hd (fun h => absurd h Bool.false_ne_true) hu hc

theorem covers_of_flag {flags : StateCaptureDirtyFlags} {c : Cell} {f : Flag}
    (h : c.flag = some f) : flags.covers c = flags.flag f := by
  have hplain : c.flag.any flags.flag = flags.flag f := by rw [h, Option.any_some]
  rcases c with k | i | i
  · cases k with
    | lights key => cases h
    | bLightEnables key => cases h
    | _ => exact hplain
  · exact hplain
  · exact hplain

theorem records_setEntry (hd : d.mStateRecording = some sb) {elimRecorded elimDevice : Bool}
    {f : Flag} {k : Slot} {v : k.Val} (hk : k.plain = true) (hf : f.cells = [.entry k]) :
    Records sb [⟨.entry k, v⟩] d (d.setEntry elimRecorded elimDevice f k v).2 := by
  refine records_set hd (fun hhas vs hvs => ?_) (cells_plain _ v hk) fun c => ?_
  · simp only [Bool.and_eq_true, decide_eq_true_eq] at hhas
    obtain ⟨⟨-, hflag⟩, rfl⟩ := hhas
    have hcf : Cell.flag (.entry k) = some f := (flag_eq_some_iff _ f).mpr (by simp [hf])
    have hagain := copies_again hvs ((covers_of_flag hcf).trans hflag)
    have hcell : (d.blocks sb).mCaptureState.cells (.entry k) = (d.blocks sb).mCaptureState k :=
      entries_plain _ hk
    rwa [hcell] at hagain
  · simp [hf]

theorem records_SetTexture {elim : Bool} {stage : Word} {pTexture : Option (Nat × Word)}
    {mul : D3DMATRIX → D3DMATRIX → D3DMATRIX} {seen : (c : Cell) → c.Val}
    (hd : d.mStateRecording = some sb) (h : SetTexture elim d stage pTexture = some x) :
    Records sb ((Setter.SetTexture stage pTexture).named mul seen) d x.2 := by
  have hwrite (i : Fin kNumStageSamplers) (o : D3DAutoPtr) (type : Word) :
      Records sb [⟨.entry (.textures i), o⟩, ⟨.entry (.textureTypes i), type⟩] d
        (d.set (fun _ => false) (fun s => elim && decide (s (.textures i) = o))
          (fun s => Function.update (Function.update s (.textures i) o) (.textureTypes i) type)
          [.textures i]).2 :=
    records_setAlways hd (cells_texture i o type _) fun c => by simp [Flag.cells]
  unfold SetTexture at h
  dsimp only at h
  split at h
  · rename_i hstage
    rw [named_of_refused (by simp [Setter.refused, hstage])]
    exact records_nothing h
  · rename_i hstage
    split at h
    · rw [named_of_accepted (by simp [Setter.refused, hstage]) rfl]
      exact records_map (fun i => hwrite i _ _) h
    · rename_i object type
      split at h
      · rename_i htype
        have ht : isTextureType type = true := decide_eq_true htype
        rw [named_of_accepted (by simp [Setter.refused, hstage, ht]) rfl]
        exact records_map (fun i => hwrite i _ _) h
      · rename_i htype
        have ht : isTextureType type = false := decide_eq_false htype
        rw [named_of_refused (by simp [Setter.refused, hstage, ht])]
        exact records_nothing h

theorem mem_keys_setKey {m : List (Word × Bool)} {key k : Word} {v : Bool} :
    k ∈ (setKey m key v).map (·.1) ↔ k ∈ m.map (·.1) ∨ k = key := by
  unfold setKey
  split
  · rename_i hany
    obtain ⟨e, he, hkey⟩ := List.any_eq_true.mp hany
    have hek : e.1 = key := eq_of_beq hkey
    have hsame : (m.map fun e => if e.1 == key then (key, v) else e).map (·.1) = m.map (·.1) := by
      rw [List.map_map]
      refine List.map_congr_left fun e _ => ?_
      by_cases h : e.1 = key <;> simp [h]
    rw [hsame]
    constructor
    · exact .inl
    · rintro (h | rfl)
      · exact h
      · exact List.mem_map.mpr ⟨e, he, hek⟩
  · simp [List.map_append, List.mem_append]

theorem mem_keys_of_getKey {m : List (Word × Bool)} {key : Word} (h : getKey m key = true) :
    key ∈ m.map (·.1) := by
  unfold getKey at h
  cases hf : m.find? (·.1 == key) with
  | none => simp [hf] at h
  | some e =>
      have hkey : e.1 = key := by simpa using List.find?_some hf
      exact List.mem_map.mpr ⟨e, List.mem_of_find?_eq_some hf, hkey⟩

theorem copies_congr {flags : StateCaptureDirtyFlags} {s s' : State} {vs : List Value}
    (hs : s'.cells = s.cells) (h : Copies flags s vs) : Copies flags s' vs := by
  intro dst
  rw [← h dst]
  funext c
  rw [cells_copyFlagged, cells_copyFlagged, hs]

theorem records_SetLight {elim : Bool} {key : Word} {l : D3DLIGHT9}
    (hd : d.mStateRecording = some sb) (h : SetLight elim d key (some l) = some x) :
    Records sb [⟨.entry (.lights key), some l⟩] d x.2 := by
  unfold SetLight at h
  rw [hd] at h
  dsimp only at h
  split at h
  · rename_i he
    cases h
    simp only [Bool.and_eq_true, decide_eq_true_eq] at he
    obtain ⟨⟨-, hkey⟩, hl⟩ := he
    refine records_putBlock fun vs hvs => ?_
    have hcovers : (d.blocks sb).mDirtyFlags.covers (.entry (.lights key)) = true :=
      decide_eq_true (mem_keys_of_getKey hkey)
    have hagain := copies_again hvs hcovers
    have hcell : (d.blocks sb).mCaptureState.cells (.entry (.lights key)) = some l :=
      congrArg some hl
    rw [hcell] at hagain
    exact copies_congr (hl ▸ cells_insertLight _ key) hagain
  · cases h
    refine records_putBlock fun vs hvs => copies_append hvs (cells_light _ key l) fun c => ?_
    rcases c with k | i | i
    · cases k with
      | lights key' =>
          simp [StateCaptureDirtyFlags.covers, mem_keys_setKey]
      | _ => simp [StateCaptureDirtyFlags.covers]
    · simp [StateCaptureDirtyFlags.covers]
    · simp [StateCaptureDirtyFlags.covers]

theorem records_LightEnable {elim : Bool} {key bEnable : Word}
    (hd : d.mStateRecording = some sb) (h : LightEnable elim d key bEnable = some x) :
    Records sb [⟨.entry (.bLightEnables key), some (decide (bEnable ≠ 0))⟩] d x.2 := by
  unfold LightEnable at h
  dsimp only at h
  rw [hd] at h
  dsimp only at h
  split at h
  · rename_i he
    cases h
    simp only [Bool.and_eq_true] at he
    obtain ⟨⟨-, hkey⟩, hb⟩ := he
    have hb := of_decide_eq_true hb
    refine records_putBlock fun vs hvs => ?_
    have hcovers : (d.blocks sb).mDirtyFlags.covers (.entry (.bLightEnables key)) = true :=
      decide_eq_true (mem_keys_of_getKey hkey)
    have hagain := copies_again hvs hcovers
    have hcell : (d.blocks sb).mCaptureState.cells (.entry (.bLightEnables key)) =
      some (decide (bEnable ≠ 0)) := congrArg some hb
    rw [hcell] at hagain
    exact copies_congr (hb ▸ cells_insertLightEnable _ key) hagain
  · cases h
    refine records_putBlock fun vs hvs =>
      copies_append hvs (cells_lightEnable _ key _) fun c => ?_
    rcases c with k | i | i
    · cases k with
      | bLightEnables key' => simp [StateCaptureDirtyFlags.covers, mem_keys_setKey]
      | _ => simp [StateCaptureDirtyFlags.covers]
    · simp [StateCaptureDirtyFlags.covers]
    · simp [StateCaptureDirtyFlags.covers]

theorem records_SetClipPlane {idx : Word} {p : Fin 4 → Word} (hd : d.mStateRecording = some sb)
    (h : SetClipPlane d idx (some p) = some x) :
    Records sb (Setter.SetClipPlane idx (some p)).values d x.2 := by
  refine records_map (fun i => records_setAlways hd ?_ fun c => ?_) h
  · exact cells_clipPlane i p _
  · simp [Flag.cells]

theorem records_SetStreamSource {elim : Bool} {streamNumber : Word} {pStreamData : D3DAutoPtr}
    {offsetInBytes stride : Word} (hd : d.mStateRecording = some sb)
    (h : SetStreamSource elim d streamNumber pStreamData offsetInBytes stride = some x) :
    Records sb (Setter.SetStreamSource streamNumber pStreamData offsetInBytes stride).values d
      x.2 := by
  refine records_map (fun i => records_setAlways hd ?_ fun c => ?_) h
  · exact cells_streamSource i pStreamData offsetInBytes stride _
  · cases pStreamData with
    | none => simp [Flag.cells]
    | some p =>
        simp only [Option.isSome_some, if_true, Flag.cells, List.flatMap_cons, List.flatMap_nil,
          List.map_cons, List.map_nil, List.append_nil, List.cons_append, List.nil_append,
          List.mem_cons, List.not_mem_nil, or_false]
        tauto

theorem records_setShaderConstants {n regCountHardware : Nat} {startRegister count : Word}
    {same : Fin n → Nat → State → Bool} {eliminates : Bool} {set : Fin n → Nat → State → State}
    {f : Fin n → Flag} {value : Fin n → Nat → Value} (hd : d.mStateRecording = some sb)
    (hin : InRegisters n regCountHardware startRegister count) (hn : regCountHardware ≤ n)
    (hn' : n < 2 ^ 31)
    (hset : ∀ r i s, (set r i s).cells = Function.update s.cells (value r i).1 (value r i).2)
    (hf : ∀ r i, (f r).cells = [(value r i).1])
    (h : setShaderConstants n regCountHardware d startRegister count same eliminates set f =
      some x) :
    Records sb (if startRegister + count > BitVec.ofNat 32 n then []
      else registerValues startRegister count value) d x.2 := by
  rcases setShaderConstants_cases value hin hn hn' h with ⟨hgt, rfl⟩ | ⟨hle, hnone, rfl⟩ |
    ⟨hle, rs, hrs, rfl⟩
  · rw [if_pos hgt]
    exact records_nothing rfl
  · rw [if_neg hle, hnone]
    exact records_nothing rfl
  · rw [if_neg hle, hrs]
    refine records_setAlways hd (cells_foldl hset rs _) fun c => ?_
    simp only [List.flatMap_map, List.map_map, List.mem_flatMap, List.mem_map, hf _ 0]
    constructor
    · rintro ⟨p, hp, hc⟩
      rw [← hf p.1 0, hf p.1 p.2] at hc
      exact ⟨p, hp, (List.mem_singleton.mp hc).symm⟩
    · rintro ⟨p, hp, rfl⟩
      refine ⟨p, hp, ?_⟩
      rw [← hf p.1 0, hf p.1 p.2]
      exact List.mem_singleton_self _

theorem records_setVec4s {n regCountHardware : Nat} {slot : Fin n → Slot}
    {val : ∀ i, Vec4 → (slot i).Val} {f : Fin n → Flag} {eliminates : Bool}
    {startRegister count : Word} {data : List Vec4} (hd : d.mStateRecording = some sb)
    (hin : InRegisters n regCountHardware startRegister count) (hn : regCountHardware ≤ n)
    (hn' : n < 2 ^ 31) (hslot : ∀ i, (slot i).plain = true)
    (hf : ∀ i, (f i).cells = [.entry (slot i)])
    (h : setVec4s n regCountHardware slot val f eliminates d startRegister (some data) count =
      some x) :
    Records sb (if startRegister + count > BitVec.ofNat 32 n then [] else
      registerValues startRegister count fun r i =>
        ⟨.entry (slot r), val r (data.getD i fun _ => 0)⟩) d x.2 := by
  unfold setVec4s at h
  dsimp only at h
  exact records_setShaderConstants hd hin hn hn'
    (fun r i s => cells_plain s (val r (data.getD i fun _ => 0)) (hslot r)) (fun r _ => hf r) h

/-- What is recorded of a transform, or else the device's. -/
def LssDevice.currentTransform (d : LssDevice) (sb : Nat) (i : Fin caps.MaxTransforms) :
    D3DMATRIX :=
  if (d.blocks sb).mDirtyFlags.flag (.transforms i) then (d.blocks sb).mCaptureState (.transforms i)
  else d.mState (.transforms i)

theorem records_MultiplyTransform {mul : D3DMATRIX → D3DMATRIX → D3DMATRIX} {type : Word}
    {m : D3DMATRIX} (hd : d.mStateRecording = some sb)
    (h : MultiplyTransform mul d type (some m) = some x) :
    Records sb (((index caps.MaxTransforms (mapXformStateTypeToIdx type)).map fun i =>
      [(⟨.entry (.transforms i), mul (d.currentTransform sb i) m⟩ : Value)]).getD []) d x.2 := by
  refine records_map (fun i => ?_) h
  rw [hd]
  exact records_setEntry hd rfl rfl

/-- The constants that a call names, refused or not. -/
theorem named_eq_if {mul : D3DMATRIX → D3DMATRIX → D3DMATRIX} {seen : (c : Cell) → c.Val}
    {c : Setter} {p : Prop} [Decidable p] (hr : c.refused = decide p)
    (hm : c.multiplies = false) : c.named mul seen = if p then [] else c.values := by
  by_cases h : p
  · rw [named_of_refused (hr.trans (decide_eq_true h)), if_pos h]
  · rw [named_of_accepted (hr.trans (decide_eq_false h)) hm, if_neg h]

/-- **A setter while recording.**  One that asks for the recording writes what it names to the
block, and nothing to the device. -/
theorem records_call {elim : Bool} {mul : D3DMATRIX → D3DMATRIX → D3DMATRIX}
    {seen : (c : Cell) → c.Val} {c : Setter} (hd : d.mStateRecording = some sb)
    (hseen : ∀ i, seen (.entry (.transforms i)) = d.currentTransform sb i)
    (hc : c.recordable = true) (hin : c.InRegisters) (h : c.call elim mul d = some x) :
    Records sb (c.named mul seen) d x.2 := by
  cases c with
  | SetTransform type m =>
      cases m with
      | none => exact records_nothing h
      | some m =>
          simp only [Setter.call, Device.SetTransform] at h
          split at h
          · rename_i hvalid
            rw [named_of_accepted (by simp [Setter.refused, hvalid]) rfl]
            exact records_map (fun i => records_setEntry hd rfl rfl) h
          · rename_i hvalid
            rw [named_of_refused (by simp [Setter.refused, hvalid])]
            exact records_nothing h
  | MultiplyTransform type m =>
      cases m with
      | none => exact records_nothing h
      | some m =>
          have hnamed : (Setter.MultiplyTransform type (some m)).named mul seen =
              ((index caps.MaxTransforms (mapXformStateTypeToIdx type)).map fun i =>
                [(⟨.entry (.transforms i), mul (d.currentTransform sb i) m⟩ : Value)]).getD [] := by
            simp only [Setter.named, Setter.refused, Option.isNone_some, hseen]
            rfl
          rw [hnamed]
          exact records_MultiplyTransform hd h
  | SetViewport v =>
      cases v with
      | none => exact records_nothing h
      | some v =>
          cases h
          exact records_setEntry hd rfl rfl
  | SetMaterial m =>
      cases m with
      | none => exact records_nothing h
      | some m =>
          cases h
          exact records_setEntry hd rfl rfl
  | SetScissorRect r =>
      cases r with
      | none => exact records_nothing h
      | some r =>
          cases h
          exact records_setEntry hd rfl rfl
  | SetLight key l =>
      cases l with
      | none => exact records_nothing h
      | some l => exact records_SetLight hd h
  | LightEnable key b => exact records_LightEnable hd h
  | SetClipPlane idx p =>
      cases p with
      | none => exact records_nothing h
      | some p => exact records_SetClipPlane hd h
  | SetRenderState state value => exact records_map (fun i => records_setEntry hd rfl rfl) h
  | SetTexture stage t => exact records_SetTexture hd h
  | SetTextureStageState stage type value =>
      simp only [Setter.call, Device.SetTextureStageState] at h
      split at h
      · rename_i hstage
        rw [named_of_refused (by simp [Setter.refused, hstage])]
        exact records_nothing h
      · rename_i hstage
        split at h
        · rename_i hj
          rw [named_of_refused (by simp [Setter.refused, hj])]
          exact records_nothing h
        · rename_i j hj
          rw [named_of_accepted (by simpa [Setter.refused, hj] using hstage) rfl]
          simp only [Setter.values, hj, Option.bind_some]
          exact records_map (fun i => records_setEntry hd rfl rfl) h
  | SetSamplerState sampler type value =>
      simp only [Setter.call, Device.SetSamplerState] at h
      split at h
      · rename_i hstage
        rw [named_of_refused (by simp [Setter.refused, hstage])]
        exact records_nothing h
      · rename_i hstage
        split at h
        · rename_i hj
          have hno : (Setter.SetSamplerState sampler type value).refused = true := by
            rw [Setter.refused, hj, Option.isNone_none, Bool.or_true]
          rw [named_of_refused hno]
          exact records_nothing h
        · rename_i j hj
          have hok : (Setter.SetSamplerState sampler type value).refused = false := by
            rw [Setter.refused, hj, Option.isNone_some, Bool.or_false]
            exact Bool.eq_false_iff.mpr hstage
          rw [named_of_accepted hok rfl]
          simp only [Setter.values, hj, Option.bind_some]
          exact records_map (fun i => records_setEntry hd rfl rfl) h
  | SetRenderTarget idx t => cases hc
  | SetDepthStencilSurface z => cases hc
  | SetVertexDeclaration decl => cases hc
  | SetFVF fvf => exact records_nothing h
  | SetVertexShader sh | SetPixelShader sh | SetIndices ib =>
      cases h
      exact records_setEntry hd rfl rfl
  | SetStreamSource i vb offset stride => exact records_SetStreamSource hd h
  | SetStreamSourceFreq i divider => exact records_map (fun i => records_setEntry hd rfl rfl) h
  | SetVertexShaderConstantF start data n =>
      cases data with
      | none => exact records_nothing h
      | some data =>
          rw [Setter.call, Device.SetVertexShaderConstantF] at h
          rw [named_eq_if rfl rfl]
          exact records_setVec4s hd hin (by decide) (by decide) (fun _ => rfl) (fun _ => rfl) h
  | SetVertexShaderConstantI start data n =>
      cases data with
      | none => exact records_nothing h
      | some data =>
          rw [Setter.call, Device.SetVertexShaderConstantI] at h
          rw [named_eq_if rfl rfl]
          exact records_setVec4s hd hin (by decide) (by decide) (fun _ => rfl) (fun _ => rfl) h
  | SetVertexShaderConstantB start data n =>
      cases data with
      | none => exact records_nothing h
      | some data =>
          rw [Setter.call, Device.SetVertexShaderConstantB] at h
          rw [named_eq_if rfl rfl]
          exact records_setShaderConstants hd hin (by decide) (by decide)
            (fun r i s => cells_vsBool s r (data.getD i 0)) (fun _ _ => rfl) h
  | SetPixelShaderConstantF start data n =>
      cases data with
      | none => exact records_nothing h
      | some data =>
          rw [Setter.call, Device.SetPixelShaderConstantF] at h
          rw [named_eq_if rfl rfl]
          exact records_setVec4s hd hin (by decide) (by decide) (fun _ => rfl) (fun _ => rfl) h
  | SetPixelShaderConstantI start data n =>
      cases data with
      | none => exact records_nothing h
      | some data =>
          rw [Setter.call, Device.SetPixelShaderConstantI] at h
          rw [named_eq_if rfl rfl]
          exact records_setVec4s hd hin (by decide) (by decide) (fun _ => rfl) (fun _ => rfl) h
  | SetPixelShaderConstantB start data n =>
      cases data with
      | none => exact records_nothing h
      | some data =>
          rw [Setter.call, Device.SetPixelShaderConstantB] at h
          rw [named_eq_if rfl rfl]
          exact records_setShaderConstants hd hin (by decide) (by decide)
            (fun r i s => cells_psBool s r (data.getD i 0)) (fun _ _ => rfl) h

end records

/-! ### The recording -/

variable {elim : Bool} {mul : D3DMATRIX → D3DMATRIX → D3DMATRIX}

/-- **The setters between `BeginStateBlock` and `EndStateBlock`.**  The device's state stays, and a
transfer from the block writes what they named, in their order. -/
theorem recording_run {s s' : App} {sb : Nat} {cs : List Setter} {vs : List Value}
    (hd : s.device.mStateRecording = some sb)
    (hcopies : Copies (s.device.blocks sb).mDirtyFlags (s.device.blocks sb).mCaptureState vs)
    (hcs : ∀ c ∈ cs, c.recordable = true ∧ c.InRegisters)
    (hr : run (step elim mul) s (cs.map Act.set) = some s') :
    s'.device.mStateRecording = some sb ∧ s'.device.mState = s.device.mState ∧
      Copies (s'.device.blocks sb).mDirtyFlags (s'.device.blocks sb).mCaptureState
        (vs ++ namedAll mul (write s.device.mState.cells vs) cs) := by
  induction cs generalizing s vs with
  | nil =>
      cases hr
      refine ⟨hd, rfl, ?_⟩
      rwa [namedAll, List.append_nil]
  | cons c cs ih =>
      obtain ⟨s₁, h₁, h₂⟩ := run_cons.mp hr
      obtain ⟨x, hx, rfl⟩ := Option.map_eq_some_iff.mp h₁
      obtain ⟨hc, hin⟩ := hcs c List.mem_cons_self
      have hseen : ∀ i, write s.device.mState.cells vs (.entry (.transforms i)) =
          s.device.currentTransform sb i := by
        intro i
        rw [← hcopies s.device.mState, cells_copyFlagged]
        rfl
      have hrec : Records sb (c.named mul (write s.device.mState.cells vs)) s.device x.2 :=
        records_call hd hseen hc hin hx
      have hd₁ : x.2.mStateRecording = some sb := (sameBlocks_call hx).recording.trans hd
      obtain ⟨hd', hm', hcopies'⟩ := ih hd₁ (hrec.copies vs hcopies)
        (fun c' hc' => hcs c' (List.mem_cons_of_mem c hc')) h₂
      refine ⟨hd', hm'.trans hrec.mState, ?_⟩
      dsimp only at hcopies'
      rw [hrec.mState, write_append, List.append_assoc] at hcopies'
      exact hcopies'

theorem begin_empty {s s' : App} {sb : Nat} {m_captureState : State}
    (hd : s.device.mStateRecording = none)
    (h : step elim mul s (.BeginStateBlock sb m_captureState) = some s') :
    s'.device.mStateRecording = some sb ∧ s'.device.mState = s.device.mState ∧
      Copies (s'.device.blocks sb).mDirtyFlags (s'.device.blocks sb).mCaptureState [] := by
  simp only [step, hd, Option.isSome_none, Bool.false_eq_true, if_false] at h
  split at h
  · cases h
    refine ⟨rfl, rfl, ?_⟩
    simpa [LssDevice.putBlock, StateBlock.new, StateCaptureDirtyFlags.none]
      using copies_none m_captureState
  · cases h

/-- From `BeginStateBlock` on. -/
theorem recording_begins {s s' : App} {sb : Nat} {m_captureState : State} {cs : List Setter}
    (hd : s.device.mStateRecording = none) (hcs : ∀ c ∈ cs, c.recordable = true ∧ c.InRegisters)
    (hr : run (step elim mul) s (.BeginStateBlock sb m_captureState :: cs.map Act.set) = some s') :
    s'.device.mStateRecording = some sb ∧ s'.device.mState = s.device.mState ∧
      Copies (s'.device.blocks sb).mDirtyFlags (s'.device.blocks sb).mCaptureState
        (namedAll mul s.device.mState.cells cs) := by
  obtain ⟨s₁, hbegin, hsets⟩ := run_cons.mp hr
  obtain ⟨hd₁, hm₁, hcopies⟩ := begin_empty hd hbegin
  have hrun := recording_run hd₁ hcopies hcs hsets
  rwa [hm₁] at hrun

/-- And to `EndStateBlock`: the application holds the block. -/
theorem recording_ends {s s' : App} {sb : Nat} {m_captureState : State} {cs : List Setter}
    (hd : s.device.mStateRecording = none) (hcs : ∀ c ∈ cs, c.recordable = true ∧ c.InRegisters)
    (hr : run (step elim mul) s
      (Act.BeginStateBlock sb m_captureState :: cs.map Act.set ++ [Act.EndStateBlock true]) =
        some s') :
    s'.device.mState = s.device.mState ∧ sb ∈ s'.held ∧
      Copies (s'.device.blocks sb).mDirtyFlags (s'.device.blocks sb).mCaptureState
        (namedAll mul s.device.mState.cells cs) := by
  obtain ⟨s₁, hr₁, hend⟩ := run_append.mp hr
  obtain ⟨s₂, hend, hs₂⟩ := run_cons.mp hend
  cases hs₂
  obtain ⟨hd₁, hm, hcopies⟩ := recording_begins hd hcs hr₁
  simp only [step, hd₁, if_true] at hend
  cases hend
  refine ⟨hm, List.mem_cons_self, ?_⟩
  simpa [LssDevice.putBlock, StateBlock.invalidatePlan] using hcopies

/-! ### The block afterwards -/

/-- **Recording isolation.**  Between `BeginStateBlock` and `EndStateBlock` setters that ask for
the recording leave the device's state as it was; and whatever is called afterwards but `Capture`
and `Release` of the block, its `Apply` writes to the device the values they named, in their order,
and nothing else. -/
theorem recording_isolated (elim : Bool) (mul : D3DMATRIX → D3DMATRIX → D3DMATRIX) (d : LssDevice)
    {before : List Act} {s₀ : App} {sb : Nat} {m_captureState : State} {cs : List Setter}
    (h₀ : run (step elim mul) (.init d) before = some s₀)
    (hnone : s₀.device.mStateRecording = none)
    (hcs : ∀ c ∈ cs, c.recordable = true ∧ c.InRegisters) :
    (∀ s, run (step elim mul) s₀ (.BeginStateBlock sb m_captureState :: cs.map Act.set) = some s →
      s.device.mState = s₀.device.mState) ∧
    ∀ s₁, run (step elim mul) s₀
        (Act.BeginStateBlock sb m_captureState :: cs.map Act.set ++ [Act.EndStateBlock true]) =
          some s₁ →
      s₁.device.mState = s₀.device.mState ∧
      ∀ later s₂ s₃, (∀ a ∈ later, ¬ a.recaptures sb) →
        run (step elim mul) s₁ later = some s₂ → step elim mul s₂ (.Apply sb) = some s₃ →
        s₃.device.mState.cells =
          write s₂.device.mState.cells (namedAll mul s₀.device.mState.cells cs) := by
  constructor
  · intro s hs
    exact (recording_begins hnone hcs hs).2.1
  · intro s₁ h₁
    obtain ⟨hm, hheld, hcopies⟩ := recording_ends hnone hcs h₁
    refine ⟨hm, fun later s₂ s₃ hlater h₂ h₃ => ?_⟩
    have hI : Inv s₁ := run_inv (fun _ _ _ => inv_step)
      (run_inv (fun _ _ _ => inv_step) (inv_init d) h₀) h₁
    have hS := stores_run ⟨⟨hI, hheld, rfl⟩, rfl⟩ hlater h₂
    funext c
    rw [stores_apply hS h₃, ← hcopies s₂.device.mState, cells_copyFlagged]

/-- A new device. -/
def recordingDevice : LssDevice := ⟨.cleared, none, fun _ => .new .cleared⟩

/-- A material and a render state, recorded twice with the other one between, and applied. -/
theorem recording_isolated_material :
    ∃ s₁ s₂, run (step true fun _ m => m) (.init recordingDevice)
        [.BeginStateBlock 1 .cleared, .set (.SetRenderState 7 1), .set (.SetMaterial (some 1)),
          .set (.SetRenderState 7 2), .EndStateBlock true] = some s₁ ∧
      s₁.device.mState = State.cleared ∧
      step true (fun _ m => m) s₁ (.Apply 1) = some s₂ ∧
      s₂.device.mState.cells = write s₁.device.mState.cells
        [⟨.entry (.renderStates 7), (1 : Word)⟩, ⟨.entry .material, (1 : D3DMATERIAL9)⟩,
          ⟨.entry (.renderStates 7), (2 : Word)⟩] := by
  have hcs : ∀ c ∈ [Setter.SetRenderState 7 1, .SetMaterial (some 1), .SetRenderState 7 2],
      c.recordable = true ∧ c.InRegisters := by
    simp [Setter.recordable, Setter.InRegisters]
  have h := (@recording_isolated true (fun _ m => m) recordingDevice [] _ 1 .cleared _ rfl rfl
    hcs).2
  obtain ⟨hm, happly⟩ := h _ rfl
  exact ⟨_, _, rfl, hm, rfl, happly [] _ _ nofun rfl rfl⟩

/-- **The vertex declaration is not isolated.**  Set while a block is recorded it is in the device,
and the block does not set it. -/
theorem recording_writes_vertexDecl :
    ∃ s₁ s₂ s₃, run (step true fun _ m => m) (.init recordingDevice)
        [.BeginStateBlock 1 .cleared, .set (.SetVertexDeclaration (some 5)), .EndStateBlock true] =
        some s₁ ∧
      s₁.device.mState ≠ recordingDevice.mState ∧
      run (step true fun _ m => m) s₁ [.set (.SetVertexDeclaration none)] = some s₂ ∧
      step true (fun _ m => m) s₂ (.Apply 1) = some s₃ ∧ s₃.device.mState .vertexDecl = none := by
  refine ⟨_, _, _, rfl, fun h => ?_, rfl, rfl, ?_⟩
  · have hdecl := congrFun h .vertexDecl
    cases hdecl
  · refine (congrFun (apply_mState (current_of_not_built rfl)) .vertexDecl).trans ?_
    simp only [copyFlagged]
    rfl

end RemixBridge.Device
