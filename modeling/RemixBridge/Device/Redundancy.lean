import RemixBridge.Device.RecordingIsolation

/-!
# Device — Redundancy

What the setters make of the tests that eliminate redundant calls.  The type of a texture is the
shadow's own: the runtime knows its textures, and the test of `SetTexture` does not look at it.

* `covers_of_copies`: what a transfer writes says which cells its flags cover.
* `judges_call`: a setter refuses exactly what it refuses without a look at the state, changes
  nothing where it does not write, and is redundant only where the shadow has what it names.
-/

namespace RemixBridge.Device
open Loops

/-- The runtime has the cell as well; a bool constant has a cell of its own. -/
def Cell.ofRuntime : Cell → Bool
  | .entry (.textureTypes _) | .entry (.vsB _) | .entry (.psB _) => false
  | _ => true

/-! ### What a block holds -/

/-- Values for some of the cells. -/
abbrev Block := (c : Cell) → Option c.Val

/-- The block with values recorded after it. -/
def Block.record (b : Block) (ws : List Value) : Block :=
  write b (ws.map fun w => (⟨w.1, some w.2⟩ : (c : Cell) × Option c.Val))

def Block.empty : Block := fun _ => none

/-- What a block gives the runtime's cells. -/
def StateBlock.content (b : StateBlock) : Block := fun c =>
  if c.ofRuntime && b.mDirtyFlags.covers c then some (b.mCaptureState.cells c) else none

theorem record_apply (b : Block) (m : (c : Cell) → c.Val) (ws : List Value) (c : Cell) :
    b.record ws c = if c ∈ ws.map (·.1) then some (write m ws c) else b c := by
  induction ws generalizing b m with
  | nil => simp [Block.record]
  | cons w ws ih =>
      have hcons : b.record (w :: ws) = Block.record (Function.update b w.1 (some w.2)) ws := rfl
      rw [hcons, ih _ (Function.update m w.1 w.2), write_cons]
      by_cases hws : c ∈ ws.map (·.1)
      · have hmem : c ∈ (w :: ws).map (·.1) := List.mem_cons_of_mem w.1 hws
        rw [if_pos hws, if_pos hmem]
      · rw [if_neg hws]
        have hne : ∀ w' ∈ ws, w'.1 ≠ c := fun w' hw' he => hws (List.mem_map.mpr ⟨w', hw', he⟩)
        by_cases hc : c = w.1
        · subst hc
          have hmem : w.1 ∈ (w :: ws).map (·.1) := List.mem_cons_self
          rw [if_pos hmem, write_unwritten _ hne, Function.update_self, Function.update_self]
        · have hmem : c ∉ (w :: ws).map (·.1) := fun hmem => (List.mem_cons.mp hmem).elim hc hws
          rw [if_neg hmem, Function.update_of_ne hc]

theorem record_append (b : Block) (ws ws' : List Value) :
    b.record (ws ++ ws') = (b.record ws).record ws' := by
  rw [Block.record, List.map_append, write_append]
  rfl

/-- Nothing zero. -/
def State.filled : State
  | .renderTargets _ | .depthStencil | .textures _ | .vertexDecl | .vertexShader | .streams _
  | .indices | .pixelShader => some 0
  | .lights _ => some fun _ => 1
  | .bLightEnables _ => some true
  | .transforms _ | .viewport | .material | .scissorRect | .vsF _ | .vsI _ | .psF _ | .psI _ =>
      fun _ => 1
  | .clipPlanes _ _ | .renderStates _ | .textureTypes _ | .textureStageStates _ _
  | .samplerStates _ _ | .vsB _ | .streamFreqs _ | .streamOffsets _ | .streamStrides _ | .psB _ =>
      BitVec.allOnes 32

theorem zeros_ne_ones {n : Nat} : (fun _ => 0 : Struct (n + 1)) ≠ fun _ => 1 := by
  intro h
  exact absurd (congrFun h 0) (by decide)

theorem zero_ne_allOnes : (0 : Word) ≠ BitVec.allOnes 32 := by decide

/-- Every cell of the runtime reads differently in two states. -/
theorem cells_cleared_ne_filled {c : Cell} (h : c.ofRuntime = true) :
    State.cleared.cells c ≠ State.filled.cells c := by
  rcases c with k | i | i
  · cases k with
    | vsB d | psB d | textureTypes i => cases h
    | renderTargets | depthStencil | textures | vertexDecl | vertexShader | streams | indices
    | pixelShader => exact nofun
    | transforms | viewport | material | scissorRect | vsF | vsI | psF | psI =>
        exact zeros_ne_ones
    | lights key => exact fun he => zeros_ne_ones (Option.some.inj he)
    | bLightEnables key => exact nofun
    | clipPlanes | renderStates | textureStageStates | samplerStates | streamFreqs
    | streamOffsets | streamStrides => exact zero_ne_allOnes
  · have hb : (i : Nat) % 32 < 32 := Nat.mod_lt _ (by decide)
    have hfilled : State.filled.cells (.vsB i) = true := by
      show (BitVec.allOnes 32).getLsbD (i % 32) = true
      rw [BitVec.getLsbD_allOnes, decide_eq_true hb]
    have hcleared : State.cleared.cells (.vsB i) = false := BitVec.getLsbD_zero
    rw [hfilled, hcleared]
    exact Bool.false_ne_true
  · have hb : (i : Nat) % 32 < 32 := Nat.mod_lt _ (by decide)
    have hfilled : State.filled.cells (.psB i) = true := by
      show (BitVec.allOnes 32).getLsbD (i % 32) = true
      rw [BitVec.getLsbD_allOnes, decide_eq_true hb]
    have hcleared : State.cleared.cells (.psB i) = false := BitVec.getLsbD_zero
    rw [hfilled, hcleared]
    exact Bool.false_ne_true

/-- **The cells of a transfer.**  Its flags cover the cells that it writes. -/
theorem covers_of_copies {flags : StateCaptureDirtyFlags} {src : State} {vs : List Value}
    (h : Copies flags src vs) {c : Cell} (hc : c.ofRuntime = true) :
    flags.covers c = true ↔ c ∈ vs.map (·.1) := by
  have hcell (dst : State) : (if flags.covers c then src.cells c else dst.cells c) =
      write dst.cells vs c := by
    rw [← cells_copyFlagged, h dst]
  constructor
  · intro hcovers
    by_contra hvs
    have hne : ∀ w ∈ vs, w.1 ≠ c := fun w hw he => hvs (List.mem_map.mpr ⟨w, hw, he⟩)
    have hsame (dst : State) : src.cells c = dst.cells c := by
      have := hcell dst
      rwa [if_pos hcovers, write_unwritten _ hne] at this
    exact cells_cleared_ne_filled hc ((hsame .cleared).symm.trans (hsame .filled))
  · intro hvs
    by_contra hcovers
    have hsame (dst : State) : dst.cells c = write State.cleared.cells vs c := by
      have := hcell dst
      rwa [if_neg hcovers, write_written _ State.cleared.cells hvs] at this
    exact cells_cleared_ne_filled hc ((hsame .cleared).trans (hsame .filled).symm)

/-- The values that the runtime has cells for. -/
def ofRuntime (vs : List Value) : List Value := vs.filter fun w => w.1.ofRuntime

theorem mem_keys_ofRuntime {vs : List Value} {c : Cell} :
    c ∈ (ofRuntime vs).map (·.1) ↔ c ∈ vs.map (·.1) ∧ c.ofRuntime = true := by
  simp only [ofRuntime, List.mem_map, List.mem_filter]
  constructor
  · rintro ⟨w, ⟨hw, hc⟩, rfl⟩
    exact ⟨⟨w, hw, rfl⟩, hc⟩
  · rintro ⟨⟨w, hw, rfl⟩, hc⟩
    exact ⟨w, ⟨hw, hc⟩, rfl⟩

/-- What a block holds, by what a transfer from it writes. -/
theorem content_of_copies {b : StateBlock} {vs : List Value}
    (h : Copies b.mDirtyFlags b.mCaptureState vs) :
    b.content = Block.empty.record (ofRuntime vs) := by
  funext c
  rw [record_apply _ b.mCaptureState.cells, StateBlock.content]
  by_cases hc : c.ofRuntime = true
  · by_cases hcovers : b.mDirtyFlags.covers c = true
    · have hvs := (covers_of_copies h hc).mp hcovers
      have hwrite : write b.mCaptureState.cells (ofRuntime vs) c = b.mCaptureState.cells c := by
        rw [ofRuntime, write_filter vs hc rfl, ← h b.mCaptureState, cells_copyFlagged,
          if_pos hcovers]
      rw [if_pos (mem_keys_ofRuntime.mpr ⟨hvs, hc⟩), hwrite, hc, hcovers]
      rfl
    · have hvs := mt (covers_of_copies h hc).mpr hcovers
      rw [if_neg fun hmem => hvs (mem_keys_ofRuntime.mp hmem).1, if_neg fun hand =>
        hcovers (Bool.and_eq_true_iff.mp hand).2]
      rfl
  · rw [if_neg fun hmem => hc (mem_keys_ofRuntime.mp hmem).2, if_neg fun hand =>
      hc (Bool.and_eq_true_iff.mp hand).1]
    rfl

/-! ### What a section leaves -/

/-- A device reads as another, and its blocks hold what the other's do. -/
structure Alike (d d' : LssDevice) : Prop where
  cells : d'.mState.cells = d.mState.cells
  content (sb : Nat) : (d'.blocks sb).content = (d.blocks sb).content

theorem Alike.refl (d : LssDevice) : Alike d d := ⟨rfl, fun _ => rfl⟩

/-- The section `x` of the setter `c` on `d`. -/
structure Judges (d : LssDevice) (c : Setter) (x : Section × LssDevice) : Prop where
  rejected : x.1 = .rejected ↔ c.refused = true
  unwritten : x.1 ≠ .written → Alike d x.2
  present : x.1 = .redundant → d.mStateRecording = none →
    ∀ w ∈ c.values, w.1.ofRuntime = true → d.mState.cells w.1 = w.2

theorem redundant_ne_rejected : Section.redundant ≠ .rejected := nofun

section judges

variable {d : LssDevice} {c : Setter} {x : Section × LssDevice}

theorem judges_rejected (hc : c.refused = true) (h : some (Section.rejected, d) = some x) :
    Judges d c x := by
  cases h
  exact ⟨iff_of_true rfl hc, fun _ => .refl d, nofun⟩

theorem judges_written {d' : LssDevice} (hc : c.refused = false)
    (h : some (Section.written, d') = some x) : Judges d c x := by
  cases h
  exact ⟨iff_of_false nofun (Bool.eq_false_iff.mp hc), fun hne => absurd rfl hne, nofun⟩

theorem judges_map {α : Type} {o : Option α} {g : α → Section × LssDevice}
    (hg : ∀ a, o = some a → Judges d c (g a)) (h : o.map g = some x) : Judges d c x := by
  obtain ⟨a, ha, rfl⟩ := Option.map_eq_some_iff.mp h
  exact hg a ha

theorem judges_set (hc : c.refused = false) {recordedHas : StateBlock → Bool}
    {deviceHas : State → Bool} {update : State → State} {fs : List Flag}
    (hp : deviceHas d.mState = true →
      ∀ w ∈ c.values, w.1.ofRuntime = true → d.mState.cells w.1 = w.2) :
    Judges d c (d.set recordedHas deviceHas update fs) := by
  have hnot := Bool.eq_false_iff.mp hc
  unfold LssDevice.set
  split
  · rename_i sb hsb
    dsimp only
    split
    · exact ⟨iff_of_false redundant_ne_rejected hnot, fun _ => .refl d, fun _ hd => by rw [hd] at hsb; cases hsb⟩
    · exact judges_written hc rfl
  · split
    · rename_i hhas
      exact ⟨iff_of_false redundant_ne_rejected hnot, fun _ => .refl d, fun _ _ => hp hhas⟩
    · exact judges_written hc rfl

/-- A setter that only looks at what it writes to. -/
theorem judges_setEntry (hc : c.refused = false) {elimRecorded elimDevice : Bool} {f : Flag}
    {k : Slot} {v : k.Val} (hk : k.plain = true) (hv : c.values = [⟨.entry k, v⟩]) :
    Judges d c (d.setEntry elimRecorded elimDevice f k v) := by
  refine judges_set hc fun hhas w hw _ => ?_
  rw [hv] at hw
  obtain rfl := List.mem_singleton.mp hw
  exact (entries_plain _ hk).trans (of_decide_eq_true (Bool.and_eq_true_iff.mp hhas).2)

theorem judges_SetTexture {elim : Bool} {stage : Word} {pTexture : Option (Nat × Word)}
    (h : SetTexture elim d stage pTexture = some x) :
    Judges d (.SetTexture stage pTexture) x := by
  have hwrite (i : Fin kNumStageSamplers) (o : D3DAutoPtr) (type : Word)
      (hc : (Setter.SetTexture stage pTexture).refused = false)
      (hv : (Setter.SetTexture stage pTexture).values =
        [⟨.entry (.textures i), o⟩, ⟨.entry (.textureTypes i), type⟩]) :
      Judges d (.SetTexture stage pTexture)
        (d.set (fun _ => false) (fun s => elim && decide (s (.textures i) = o))
          (fun s => Function.update (Function.update s (.textures i) o) (.textureTypes i) type)
          [.textures i]) := by
    refine judges_set hc fun hhas w hw hrt => ?_
    rw [hv] at hw
    rcases List.mem_cons.mp hw with rfl | hw
    · exact of_decide_eq_true (Bool.and_eq_true_iff.mp hhas).2
    · obtain rfl := List.mem_singleton.mp hw
      cases hrt
  unfold SetTexture at h
  dsimp only at h
  split at h
  · rename_i hstage
    exact judges_rejected (by simp [Setter.refused, hstage]) h
  · rename_i hstage
    split at h
    · refine judges_map (fun i hi => hwrite i _ _ (by simp [Setter.refused, hstage]) ?_) h
      simp only [Setter.values, hi]
      rfl
    · rename_i object type
      split at h
      · rename_i htype
        have ht : isTextureType type = true := decide_eq_true htype
        refine judges_map (fun i hi => hwrite i _ _ (by simp [Setter.refused, hstage, ht]) ?_) h
        simp only [Setter.values, hi]
        rfl
      · rename_i htype
        have ht : isTextureType type = false := decide_eq_false htype
        exact judges_rejected (by simp [Setter.refused, ht]) h

/-- A light that is tested is inserted, and a block or a device with it reads as before. -/
theorem alike_putBlock {sb : Nat} {s : State}
    (hs : s.cells = (d.blocks sb).mCaptureState.cells) :
    Alike d (d.putBlock sb { d.blocks sb with mCaptureState := s }) := by
  have hcontent : StateBlock.content { d.blocks sb with mCaptureState := s } =
      (d.blocks sb).content := by
    funext c
    rw [StateBlock.content, hs]
    rfl
  refine ⟨rfl, fun sb' => ?_⟩
  by_cases he : sb' = sb
  · subst he
    simpa [LssDevice.putBlock] using hcontent
  · simp [LssDevice.putBlock, he]

theorem alike_mState {s : State} (hs : s.cells = d.mState.cells) :
    Alike d { d with mState := s } := ⟨hs, fun _ => rfl⟩

theorem judges_SetLight {elim : Bool} {key : Word} {l : D3DLIGHT9}
    (h : SetLight elim d key (some l) = some x) : Judges d (.SetLight key (some l)) x := by
  have hnot : ¬ (Setter.SetLight key (some l)).refused = true := Bool.false_ne_true
  unfold SetLight at h
  dsimp only at h
  split at h
  · rename_i sb hsb
    split at h
    · rename_i he
      cases h
      have hl := of_decide_eq_true (Bool.and_eq_true_iff.mp he).2
      refine ⟨iff_of_false redundant_ne_rejected hnot, fun _ => alike_putBlock ?_, fun _ hd => ?_⟩
      · rw [← hl]
        exact cells_insertLight _ key
      · rw [hd] at hsb
        cases hsb
    · exact judges_written rfl h
  · split at h
    · rename_i he
      cases h
      have hl := of_decide_eq_true (Bool.and_eq_true_iff.mp he).2
      refine ⟨iff_of_false redundant_ne_rejected hnot, fun _ => alike_mState ?_, fun _ _ w hw _ => ?_⟩
      · rw [← hl]
        exact cells_insertLight _ key
      · obtain rfl := List.mem_singleton.mp hw
        exact congrArg some hl
    · exact judges_written rfl h

theorem judges_LightEnable {elim : Bool} {key bEnable : Word}
    (h : LightEnable elim d key bEnable = some x) : Judges d (.LightEnable key bEnable) x := by
  have hnot : ¬ (Setter.LightEnable key bEnable).refused = true := Bool.false_ne_true
  unfold LightEnable at h
  dsimp only at h
  split at h
  · rename_i sb hsb
    split at h
    · rename_i he
      cases h
      have hb := of_decide_eq_true (Bool.and_eq_true_iff.mp he).2
      refine ⟨iff_of_false redundant_ne_rejected hnot, fun _ => alike_putBlock ?_, fun _ hd => ?_⟩
      · rw [← hb]
        exact cells_insertLightEnable _ key
      · rw [hd] at hsb
        cases hsb
    · exact judges_written rfl h
  · split at h
    · rename_i he
      cases h
      have hb := of_decide_eq_true (Bool.and_eq_true_iff.mp he).2
      refine ⟨iff_of_false redundant_ne_rejected hnot, fun _ => alike_mState ?_, fun _ _ w hw _ => ?_⟩
      · rw [← hb]
        exact cells_insertLightEnable _ key
      · obtain rfl := List.mem_singleton.mp hw
        exact congrArg some hb
    · exact judges_written rfl h

theorem judges_SetStreamSource {elim : Bool} {streamNumber : Word} {pStreamData : D3DAutoPtr}
    {offsetInBytes stride : Word}
    (h : SetStreamSource elim d streamNumber pStreamData offsetInBytes stride = some x) :
    Judges d (.SetStreamSource streamNumber pStreamData offsetInBytes stride) x := by
  refine judges_map (fun i hi => judges_set rfl fun hhas w hw _ => ?_) h
  simp only [Bool.and_eq_true, Bool.or_eq_true, decide_eq_true_eq, Option.isNone_iff_eq_none]
    at hhas
  obtain ⟨⟨-, hstream⟩, hrest⟩ := hhas
  simp only [Setter.values, hi] at hw
  rcases List.mem_cons.mp hw with rfl | hw
  · exact hstream
  · cases pStreamData with
    | none => cases hw
    | some p =>
        obtain ⟨hoffset, hstride⟩ := hrest.resolve_left (Option.some_ne_none p)
        rcases List.mem_cons.mp hw with rfl | hw
        · exact hoffset
        · obtain rfl := List.mem_singleton.mp hw
          exact hstride

theorem judges_setShaderConstants {n regCountHardware : Nat} {startRegister count : Word}
    {same : Fin n → Nat → State → Bool} {eliminates : Bool} {set : Fin n → Nat → State → State}
    {f : Fin n → Flag} {value : Fin n → Nat → Value}
    (hc : c.refused = decide (startRegister + count > BitVec.ofNat 32 n))
    (hv : c.values = registerValues startRegister count value)
    (hin : InRegisters n regCountHardware startRegister count) (hn : regCountHardware ≤ n)
    (hn' : n < 2 ^ 31)
    (hsame : eliminates = true → ∀ r i s, same r i s = true → s.cells (value r i).1 = (value r i).2)
    (h : setShaderConstants n regCountHardware d startRegister count same eliminates set f =
      some x) : Judges d c x := by
  rcases setShaderConstants_cases value hin hn hn' h with ⟨hgt, rfl⟩ | ⟨hle, hnone, rfl⟩ |
    ⟨hle, rs, hrs, rfl⟩
  · exact judges_rejected (hc.trans (decide_eq_true hgt)) rfl
  · exact judges_written (hc.trans (decide_eq_false hle)) rfl
  · refine judges_set (hc.trans (decide_eq_false hle)) fun hhas w hw _ => ?_
    rw [hv, hrs] at hw
    obtain ⟨p, hp, rfl⟩ := List.mem_map.mp hw
    obtain ⟨he, hall⟩ := Bool.and_eq_true_iff.mp hhas
    exact hsame he _ _ _ (List.all_eq_true.mp hall p hp)

theorem judges_setVec4s {n regCountHardware : Nat} {slot : Fin n → Slot}
    {val : ∀ i, Vec4 → (slot i).Val} {f : Fin n → Flag} {eliminates : Bool}
    {startRegister count : Word} {data : List Vec4}
    (hc : c.refused = decide (startRegister + count > BitVec.ofNat 32 n))
    (hv : c.values = registerValues startRegister count fun r i =>
      ⟨.entry (slot r), val r (data.getD i fun _ => 0)⟩)
    (hin : InRegisters n regCountHardware startRegister count) (hn : regCountHardware ≤ n)
    (hn' : n < 2 ^ 31) (hslot : ∀ i, (slot i).plain = true)
    (h : setVec4s n regCountHardware slot val f eliminates d startRegister (some data) count =
      some x) : Judges d c x := by
  unfold setVec4s at h
  dsimp only at h
  refine judges_setShaderConstants hc hv hin hn hn' (fun _ r i s hs => ?_) h
  exact (entries_plain _ (hslot r)).trans (of_decide_eq_true hs)

/-- **The tests of a setter.**  It refuses its arguments whatever the state, changes nothing that
is read or transferred where it does not write, and eliminates only what the shadow has. -/
theorem judges_call {elim : Bool} {mul : D3DMATRIX → D3DMATRIX → D3DMATRIX}
    (hin : c.InRegisters) (h : c.call elim mul d = some x) : Judges d c x := by
  cases c with
  | SetTransform type m =>
      cases m with
      | none => exact judges_rejected rfl h
      | some m =>
          simp only [Setter.call, Device.SetTransform] at h
          split at h
          · rename_i hvalid
            refine judges_map (fun i hi => judges_setEntry (by simp [Setter.refused, hvalid]) rfl
              ?_) h
            simp only [Setter.values, hi]
            rfl
          · rename_i hvalid
            exact judges_rejected (by simp [Setter.refused, hvalid]) h
  | MultiplyTransform type m =>
      cases m with
      | none => exact judges_rejected rfl h
      | some m =>
          refine judges_map (fun i _ => judges_set rfl fun hhas => ?_) h
          exact absurd hhas Bool.false_ne_true
  | SetViewport v =>
      cases v with
      | none => exact judges_rejected rfl h
      | some v =>
          cases h
          exact judges_setEntry rfl rfl rfl
  | SetMaterial m =>
      cases m with
      | none => exact judges_rejected rfl h
      | some m =>
          cases h
          exact judges_setEntry rfl rfl rfl
  | SetScissorRect r =>
      cases r with
      | none => exact judges_rejected rfl h
      | some r =>
          cases h
          exact judges_setEntry rfl rfl rfl
  | SetLight key l =>
      cases l with
      | none => exact judges_rejected rfl h
      | some l => exact judges_SetLight h
  | LightEnable key b => exact judges_LightEnable h
  | SetClipPlane idx p =>
      cases p with
      | none => exact judges_rejected rfl h
      | some p =>
          refine judges_map (fun i _ => judges_set rfl fun hhas => ?_) h
          exact absurd hhas Bool.false_ne_true
  | SetRenderState state value =>
      refine judges_map (fun i hi => judges_setEntry rfl rfl ?_) h
      simp only [Setter.values, hi]
      rfl
  | SetTexture stage t => exact judges_SetTexture h
  | SetTextureStageState stage type value =>
      simp only [Setter.call, Device.SetTextureStageState] at h
      split at h
      · rename_i hstage
        exact judges_rejected (by simp [Setter.refused, hstage]) h
      · rename_i hstage
        split at h
        · rename_i hj
          exact judges_rejected (by simp [Setter.refused, hj]) h
        · rename_i j hj
          refine judges_map (fun i hi => judges_setEntry ?_ rfl ?_) h
          · simpa [Setter.refused, hj] using hstage
          · simp only [Setter.values, hj, hi, Option.bind_some]
            rfl
  | SetSamplerState sampler type value =>
      simp only [Setter.call, Device.SetSamplerState] at h
      split at h
      · rename_i hstage
        exact judges_rejected (by simp [Setter.refused, hstage]) h
      · rename_i hstage
        split at h
        · rename_i hj
          refine judges_rejected ?_ h
          rw [Setter.refused, hj, Option.isNone_none, Bool.or_true]
        · rename_i j hj
          refine judges_map (fun i hi => judges_setEntry ?_ rfl ?_) h
          · rw [Setter.refused, hj, Option.isNone_some, Bool.or_false]
            exact Bool.eq_false_iff.mpr hstage
          · simp only [Setter.values, hj, hi, Option.bind_some]
            rfl
  | SetRenderTarget idx t =>
      obtain ⟨i, -, rfl⟩ := Option.map_eq_some_iff.mp h
      exact judges_written rfl rfl
  | SetDepthStencilSurface z => exact judges_written rfl h
  | SetVertexDeclaration decl =>
      simp only [Setter.call, Device.SetVertexDeclaration] at h
      split at h
      · rename_i he
        cases h
        refine ⟨iff_of_false redundant_ne_rejected Bool.false_ne_true, fun _ => .refl d,
          fun _ _ w hw _ => ?_⟩
        obtain rfl := List.mem_singleton.mp hw
        exact of_decide_eq_true (Bool.and_eq_true_iff.mp he).2
      · exact judges_written rfl h
  | SetFVF fvf => exact judges_written rfl h
  | SetVertexShader sh | SetPixelShader sh | SetIndices ib =>
      cases h
      exact judges_setEntry rfl rfl rfl
  | SetStreamSource i vb offset stride => exact judges_SetStreamSource h
  | SetStreamSourceFreq i divider =>
      refine judges_map (fun i hi => judges_setEntry rfl rfl ?_) h
      simp only [Setter.values, hi]
      rfl
  | SetVertexShaderConstantF start data n =>
      cases data with
      | none => exact judges_rejected rfl h
      | some data =>
          rw [Setter.call, Device.SetVertexShaderConstantF] at h
          exact judges_setVec4s rfl rfl hin (by decide) (by decide) (fun _ => rfl) h
  | SetVertexShaderConstantI start data n =>
      cases data with
      | none => exact judges_rejected rfl h
      | some data =>
          rw [Setter.call, Device.SetVertexShaderConstantI] at h
          exact judges_setVec4s rfl rfl hin (by decide) (by decide) (fun _ => rfl) h
  | SetVertexShaderConstantB start data n =>
      cases data with
      | none => exact judges_rejected rfl h
      | some data =>
          rw [Setter.call, Device.SetVertexShaderConstantB] at h
          exact judges_setShaderConstants rfl rfl hin (by decide) (by decide)
            (fun he => absurd he Bool.false_ne_true) h
  | SetPixelShaderConstantF start data n =>
      cases data with
      | none => exact judges_rejected rfl h
      | some data =>
          rw [Setter.call, Device.SetPixelShaderConstantF] at h
          exact judges_setVec4s rfl rfl hin (by decide) (by decide) (fun _ => rfl) h
  | SetPixelShaderConstantI start data n =>
      cases data with
      | none => exact judges_rejected rfl h
      | some data =>
          rw [Setter.call, Device.SetPixelShaderConstantI] at h
          exact judges_setVec4s rfl rfl hin (by decide) (by decide) (fun _ => rfl) h
  | SetPixelShaderConstantB start data n =>
      cases data with
      | none => exact judges_rejected rfl h
      | some data =>
          rw [Setter.call, Device.SetPixelShaderConstantB] at h
          exact judges_setShaderConstants rfl rfl hin (by decide) (by decide)
            (fun he => absurd he Bool.false_ne_true) h

end judges

end RemixBridge.Device
