import RemixBridge.Device.Setters
import RemixBridge.Support.Runs

/-!
# Device — Recording

A device and its state blocks over a run of calls: recording (`BeginStateBlock`, `EndStateBlock`),
`CreateStateBlock`, `Capture` and `Apply`, between calls of setters and of `Reset`.  Every transfer
goes by the block's plan, which the first one after `invalidatePlan` builds.

* `inv_step`: no block the application holds, and not the one being recorded, has a stale plan.
* `transfers_exact`: in every run every transfer goes by the plan of the flags, and is the walk over
  them.
-/

namespace RemixBridge.Device
open Runs

/-! ### The flags of `CreateStateBlock` -/

def D3DSBT_ALL : Word := 1
def D3DSBT_PIXELSTATE : Word := 2
def D3DSBT_VERTEXSTATE : Word := 3

/-- The `D3DRS_*` of `StateBlockSetPixelCaptureFlags`. -/
def pixelCaptureRenderStates : List Nat :=
  [7, 8, 9, 14, 15, 16,    -- ZENABLE FILLMODE SHADEMODE ZWRITEENABLE ALPHATESTENABLE LASTPIXEL
   19, 20, 23, 24, 25, 26, -- SRCBLEND DESTBLEND ZFUNC ALPHAREF ALPHAFUNC DITHERENABLE
   36, 37, 38, 27, 195,    -- FOGSTART FOGEND FOGDENSITY ALPHABLENDENABLE DEPTHBIAS
   52, 53, 54, 55, 56, 57, -- STENCIL: ENABLE FAIL ZFAIL PASS FUNC REF
   58, 59, 60,             -- STENCILMASK STENCILWRITEMASK TEXTUREFACTOR
   128, 129, 130, 131, 132, 133, 134, 135, -- WRAP0 to WRAP7
   198, 199, 200, 201, 202, 203, 204, 205, -- WRAP8 to WRAP15
   168, 171, 174, 175,     -- COLORWRITEENABLE BLENDOP SCISSORTESTENABLE SLOPESCALEDEPTHBIAS
   176, 185,               -- ANTIALIASEDLINEENABLE TWOSIDEDSTENCILMODE
   186, 187, 188, 189,     -- CCW_STENCIL: FAIL ZFAIL PASS FUNC
   190, 191, 192,          -- COLORWRITEENABLE1 to COLORWRITEENABLE3
   193, 194, 206,          -- BLENDFACTOR SRGBWRITEENABLE SEPARATEALPHABLENDENABLE
   207, 208, 209]          -- SRCBLENDALPHA DESTBLENDALPHA BLENDOPALPHA

/-- The `D3DRS_*` of `StateBlockSetVertexCaptureFlags`. -/
def vertexCaptureRenderStates : List Nat :=
  [22, 28, 34, 35, 36, 37, 38, -- CULLMODE, FOG: ENABLE COLOR TABLEMODE START END DENSITY
   48, 139, 141, 140,      -- RANGEFOGENABLE AMBIENT COLORVERTEX FOGVERTEXMODE
   136, 137, 142,          -- CLIPPING LIGHTING LOCALVIEWER
   148, 147, 145, 146,     -- MATERIALSOURCE: EMISSIVE AMBIENT DIFFUSE SPECULAR
   151, 152, 154, 155,     -- VERTEXBLEND CLIPPLANEENABLE POINTSIZE POINTSIZE_MIN
   156, 157, 158, 159, 160, -- POINTSPRITEENABLE, POINTSCALE: ENABLE A B C
   161, 162, 163, 166,     -- MULTISAMPLE: ANTIALIAS MASK, PATCHEDGESTYLE POINTSIZE_MAX
   167, 170, 172, 173,     -- INDEXEDVERTEXBLENDENABLE TWEENFACTOR POSITIONDEGREE NORMALDEGREE
   178, 179,               -- MINTESSELLATIONLEVEL MAXTESSELLATIONLEVEL
   180, 181, 182, 183,     -- ADAPTIVETESS: X Y Z W
   184, 143, 29, 9]        -- ENABLEADAPTIVETESSELLATION NORMALIZENORMALS SPECULARENABLE SHADEMODE

def StateBlockSetPixelCaptureFlags (flags : StateCaptureDirtyFlags) : StateCaptureDirtyFlags :=
  { flags with flag := fun
      | .renderStates i => decide ((i : Nat) ∈ pixelCaptureRenderStates) ||
          flags.flag (.renderStates i)
      -- the `D3DSAMP_*` from `ADDRESSU` to `ELEMENTINDEX`
      | .samplerStates i j => decide ((i : Nat) < caps.MaxTexturesPS + 1 ∧ 1 ≤ (j : Nat) ∧
          (j : Nat) ≤ 12) || flags.flag (.samplerStates i j)
      | .psF _ | .psI _ | .psB _ | .textureStageStates _ _ => true
      | f => flags.flag f }

/-- Its loop over the samplers starts at `MaxTexturesPS + 1` and ends at
`kMaxStageSamplerStateTypes`. -/
def StateBlockSetVertexCaptureFlags (flags : StateCaptureDirtyFlags) : StateCaptureDirtyFlags :=
  { flags with flag := fun
      | .renderStates i => decide ((i : Nat) ∈ vertexCaptureRenderStates) ||
          flags.flag (.renderStates i)
      | .samplerStates i j => decide (caps.MaxTexturesPS + 1 ≤ (i : Nat) ∧
          (i : Nat) < kMaxStageSamplerStateTypes ∧ (j : Nat) = D3DSAMP_DMAPOFFSET) ||
          flags.flag (.samplerStates i j)
      | .vertexDecl | .streamFreqs _ | .vsF _ | .vsI _ | .vsB _ => true
      | f => flags.flag f }

def StateBlockSetCaptureFlags (type : Word) (flags : StateCaptureDirtyFlags) :
    StateCaptureDirtyFlags :=
  let flags := if type = D3DSBT_PIXELSTATE ∨ type = D3DSBT_ALL then
    StateBlockSetPixelCaptureFlags flags else flags
  let flags := if type = D3DSBT_VERTEXSTATE ∨ type = D3DSBT_ALL then
    StateBlockSetVertexCaptureFlags flags else flags
  if type = D3DSBT_ALL then
    { flags with flag := fun
        | .textures _ | .streams _ | .streamOffsetsAndStrides _ | .indices | .viewport
        | .scissorRect | .clipPlanes _ | .transforms _ | .material => true
        | f => flags.flag f }
  else flags

/-! ### State blocks -/

/-- `m_dirtyFlags = { 0 }`. -/
def StateCaptureDirtyFlags.none : StateCaptureDirtyFlags := ⟨fun _ => false, [], []⟩

def TransferPlan.none : TransferPlan :=
  ⟨false, false, false, false, false, false, false, false, false, [], [], [], [], [], [], [], [],
    [], [], [], [], [], [], []⟩

/-- A new `Direct3DStateBlock9_LSS`; `m_captureState` is what its initialisation leaves. -/
def StateBlock.new (m_captureState : State) : StateBlock :=
  ⟨.none, m_captureState, .none⟩

def StateBlock.invalidatePlan (b : StateBlock) : StateBlock :=
  { b with mPlan := { b.mPlan with built := false } }

/-- The plan `StateTransfer` goes by. -/
def StateBlock.plan (b : StateBlock) : TransferPlan :=
  if b.mPlan.built then b.mPlan else buildPlan b.mDirtyFlags

/-- A call of `StateTransfer` on a block: its plan and flags, and the two states before and
after. -/
structure Transfer where
  plan : TransferPlan
  flags : StateCaptureDirtyFlags
  src : State
  dst : State
  src' : State
  dst' : State

def StateBlock.transfer (b : StateBlock) (src dst : State) : Transfer :=
  let r := StateTransfer b.plan b.mDirtyFlags src dst
  ⟨b.plan, b.mDirtyFlags, src, dst, r.1, r.2⟩

@[simp] theorem StateBlock.transfer_plan (b : StateBlock) (src dst : State) :
    (b.transfer src dst).plan = b.plan := rfl

/-- From the device to the block. -/
def LssDevice.localCapture (d : LssDevice) (sb : Nat) : LssDevice :=
  let t := (d.blocks sb).transfer d.mState (d.blocks sb).mCaptureState
  { d.putBlock sb { d.blocks sb with mPlan := t.plan, mCaptureState := t.dst' } with
    mState := t.src' }

/-- And back. -/
def LssDevice.apply (d : LssDevice) (sb : Nat) : LssDevice :=
  let t := (d.blocks sb).transfer (d.blocks sb).mCaptureState d.mState
  { d.putBlock sb { d.blocks sb with mPlan := t.plan, mCaptureState := t.src' } with
    mState := t.dst' }

/-! ### Calls -/

/-- A device and the state blocks its application holds. -/
structure App where
  device : LssDevice
  held : List Nat

/-- A call; `ppSB` says whether the pointer to return the block in is one.  A new block comes with
its address and the memory it is made in. -/
inductive Act where
  | set (c : Setter)
  | BeginStateBlock (sb : Nat) (m_captureState : State)
  | EndStateBlock (ppSB : Bool)
  | CreateStateBlock (type : Word) (ppSB : Bool) (sb : Nat) (m_captureState : State)
  | Capture (sb : Nat)
  | Apply (sb : Nat)
  | ReleaseStateBlock (sb : Nat)
  | Reset (m_state : State)

/-- An address at which no block is. -/
def App.Fresh (s : App) (sb : Nat) : Prop := sb ∉ s.held ∧ s.device.mStateRecording ≠ some sb

instance (s : App) (sb : Nat) : Decidable (s.Fresh sb) := instDecidableAnd

/-- The device of `CreateStateBlock` when the transfer begins. -/
def LssDevice.created (d : LssDevice) (type : Word) (sb : Nat) (m_captureState : State) :
    LssDevice :=
  d.putBlock sb (StateBlock.invalidatePlan { StateBlock.new m_captureState with
    mDirtyFlags := StateBlockSetCaptureFlags type .none })

/-- One call; the last `Release` of a block destroys it. -/
def step (elim : Bool) (mul : D3DMATRIX → D3DMATRIX → D3DMATRIX) (s : App) : Act → Option App
  | .set c => (c.call elim mul s.device).map fun r => { s with device := r.2 }
  | .BeginStateBlock sb m_captureState =>
      if s.device.mStateRecording.isSome then some s
      else if s.Fresh sb then
        some { s with device := { s.device.putBlock sb (.new m_captureState) with
          mStateRecording := some sb } }
      else none
  | .EndStateBlock ppSB =>
      match s.device.mStateRecording with
      | none    => some s
      | some sb =>
          if ppSB then
            some { device := { s.device.putBlock sb (s.device.blocks sb).invalidatePlan with
                     mStateRecording := none }
                   held := sb :: s.held }
          else some s
  | .CreateStateBlock type ppSB sb m_captureState =>
      if ppSB then
        if s.Fresh sb then
          some { device := (s.device.created type sb m_captureState).localCapture sb
                 held := sb :: s.held }
        else none
      else some s
  | .Capture sb =>
      if sb ∈ s.held then
        if s.device.mStateRecording.isSome then some s
        else some { s with device := s.device.localCapture sb }
      else none
  | .Apply sb =>
      if sb ∈ s.held then some { s with device := s.device.apply sb } else none
  | .ReleaseStateBlock sb =>
      if sb ∈ s.held then some { s with held := s.held.filter (· ≠ sb) } else none
  | .Reset m_state => some { s with device := { s.device with mState := m_state } }

/-- The calls of `StateTransfer` a step makes. -/
def transfers (s : App) : Act → List Transfer
  | .CreateStateBlock type ppSB sb m_captureState =>
      if ppSB then
        let d := s.device.created type sb m_captureState
        [(d.blocks sb).transfer d.mState (d.blocks sb).mCaptureState]
      else []
  | .Capture sb =>
      if s.device.mStateRecording.isSome then []
      else [(s.device.blocks sb).transfer s.device.mState (s.device.blocks sb).mCaptureState]
  | .Apply sb =>
      [(s.device.blocks sb).transfer (s.device.blocks sb).mCaptureState s.device.mState]
  | _ => []

/-- A new device, of which nothing is recorded and no block is held. -/
def App.init (d : LssDevice) : App := ⟨{ d with mStateRecording := none }, []⟩

/-! ### No plan is stale -/

/-- A plan that says it is built is the plan of the flags. -/
def StateBlock.Current (b : StateBlock) : Prop :=
  b.mPlan.built = true → b.mPlan = buildPlan b.mDirtyFlags

structure Inv (s : App) : Prop where
  held : ∀ sb ∈ s.held, (s.device.blocks sb).Current
  recorded : ∀ sb, s.device.mStateRecording = some sb →
    sb ∉ s.held ∧ (s.device.blocks sb).mPlan.built = false

theorem inv_init (d : LssDevice) : Inv (App.init d) := ⟨nofun, nofun⟩

theorem StateBlock.Current.plan_eq {b : StateBlock} (h : b.Current) :
    b.plan = buildPlan b.mDirtyFlags := by
  unfold StateBlock.plan
  split
  · exact h ‹_›
  · rfl

theorem current_of_not_built {b : StateBlock} (h : b.mPlan.built = false) : b.Current := by
  intro hb
  rw [h] at hb
  cases hb

theorem current_plan {b : StateBlock} (h : b.Current) (s : State) :
    StateBlock.Current { b with mPlan := b.plan, mCaptureState := s } := fun _ => h.plan_eq

/-- A transfer by a current plan is the walk over the flags. -/
theorem StateBlock.Current.transfer {b : StateBlock} (h : b.Current) (src dst : State) :
    (b.transfer src dst).plan = buildPlan b.mDirtyFlags ∧
      (b.transfer src dst).dst' = copyFlagged b.mDirtyFlags src dst := by
  refine ⟨h.plan_eq, ?_⟩
  unfold StateBlock.transfer
  rw [h.plan_eq]
  exact stateTransfer_buildPlan b.mDirtyFlags src dst

/-- A transfer leaves every other block as it was, and its own current. -/
theorem current_localCapture {d : LssDevice} {sb : Nat} (h : (d.blocks sb).Current) (sb' : Nat)
    (h' : sb' ≠ sb → (d.blocks sb').Current) : ((d.localCapture sb).blocks sb').Current := by
  by_cases he : sb' = sb
  · subst he
    simpa [LssDevice.localCapture, LssDevice.putBlock] using current_plan h _
  · simpa [LssDevice.localCapture, LssDevice.putBlock, he] using h' he

theorem current_apply {d : LssDevice} {sb : Nat} (h : (d.blocks sb).Current) (sb' : Nat)
    (h' : sb' ≠ sb → (d.blocks sb').Current) : ((d.apply sb).blocks sb').Current := by
  by_cases he : sb' = sb
  · subst he
    simpa [LssDevice.apply, LssDevice.putBlock] using current_plan h _
  · simpa [LssDevice.apply, LssDevice.putBlock, he] using h' he

theorem localCapture_other (d : LssDevice) {sb sb' : Nat} (h : sb' ≠ sb) :
    (d.localCapture sb).blocks sb' = d.blocks sb' := by
  simp [LssDevice.localCapture, LssDevice.putBlock, h]

theorem apply_other (d : LssDevice) {sb sb' : Nat} (h : sb' ≠ sb) :
    (d.apply sb).blocks sb' = d.blocks sb' := by
  simp [LssDevice.apply, LssDevice.putBlock, h]

theorem created_self (d : LssDevice) (type : Word) (sb : Nat) (m_captureState : State) :
    ((d.created type sb m_captureState).blocks sb).Current := by
  refine current_of_not_built ?_
  simp [LssDevice.created, LssDevice.putBlock, StateBlock.invalidatePlan]

theorem created_other (d : LssDevice) (type : Word) {sb sb' : Nat} (m_captureState : State)
    (h : sb' ≠ sb) : (d.created type sb m_captureState).blocks sb' = d.blocks sb' := by
  simp [LssDevice.created, LssDevice.putBlock, h]

variable {elim : Bool} {mul : D3DMATRIX → D3DMATRIX → D3DMATRIX}

theorem inv_set {s : App} {c : Setter} {r : Section × LssDevice} (hI : Inv s)
    (h : c.call elim mul s.device = some r) : Inv { s with device := r.2 } := by
  have hs : SameBlocks s.device r.2 := sameBlocks_call h
  constructor
  · intro sb hsb
    have hne : s.device.mStateRecording ≠ some sb := fun hr => (hI.recorded sb hr).1 hsb
    rw [hs.other sb hne]
    exact hI.held sb hsb
  · intro sb hsb
    rw [hs.recording] at hsb
    rw [hs.plan sb]
    exact hI.recorded sb hsb

theorem inv_EndStateBlock {s : App} {sb : Nat} (hI : Inv s)
    (hr : s.device.mStateRecording = some sb) :
    Inv { device := { s.device.putBlock sb (s.device.blocks sb).invalidatePlan with
            mStateRecording := none }
          held := sb :: s.held } := by
  refine ⟨fun sb' hsb' => ?_, nofun⟩
  by_cases he : sb' = sb
  · subst he
    exact current_of_not_built (by simp [LssDevice.putBlock, StateBlock.invalidatePlan])
  · have hmem : sb' ∈ s.held := (List.mem_cons.mp hsb').resolve_left he
    simpa [LssDevice.putBlock, he] using hI.held sb' hmem

theorem inv_BeginStateBlock {s : App} {sb : Nat} (hI : Inv s) (m_captureState : State)
    (hf : s.Fresh sb) :
    Inv { s with device := { s.device.putBlock sb (.new m_captureState) with
            mStateRecording := some sb } } := by
  constructor
  · intro sb' hsb'
    have he : sb' ≠ sb := fun he => hf.1 (he ▸ hsb')
    simpa [LssDevice.putBlock, he] using hI.held sb' hsb'
  · intro sb' hsb'
    cases hsb'
    exact ⟨hf.1, by simp [LssDevice.putBlock, StateBlock.new, TransferPlan.none]⟩

theorem inv_CreateStateBlock {s : App} {sb : Nat} (hI : Inv s) (type : Word)
    (m_captureState : State) (hf : s.Fresh sb) :
    Inv { device := (s.device.created type sb m_captureState).localCapture sb
          held := sb :: s.held } := by
  constructor
  · intro sb' hsb'
    refine current_localCapture (created_self _ _ _ _) sb' fun he => ?_
    rw [created_other _ _ _ he]
    exact hI.held sb' ((List.mem_cons.mp hsb').resolve_left he)
  · intro sb' hsb'
    have he : sb' ≠ sb := fun he => hf.2 (he ▸ hsb')
    obtain ⟨hmem, hplan⟩ := hI.recorded sb' hsb'
    refine ⟨fun h => (List.mem_cons.mp h).elim he hmem, ?_⟩
    rw [localCapture_other _ he, created_other _ _ _ he]
    exact hplan

/-- **The step lemma.**  Every call keeps every plan current. -/
theorem inv_step {s s' : App} {a : Act} (hI : Inv s) (h : step elim mul s a = some s') :
    Inv s' := by
  cases a with
  | set c =>
      obtain ⟨r, hr, rfl⟩ := Option.map_eq_some_iff.mp h
      exact inv_set hI hr
  | BeginStateBlock sb m_captureState =>
      simp only [step] at h
      split at h
      · cases h
        exact hI
      · split at h
        · cases h
          exact inv_BeginStateBlock hI m_captureState ‹_›
        · cases h
  | EndStateBlock ppSB =>
      simp only [step] at h
      split at h
      · cases h
        exact hI
      · split at h
        · cases h
          exact inv_EndStateBlock hI ‹_›
        · cases h
          exact hI
  | CreateStateBlock type ppSB sb m_captureState =>
      simp only [step] at h
      split at h
      · split at h
        · cases h
          exact inv_CreateStateBlock hI type m_captureState ‹_›
        · cases h
      · cases h
        exact hI
  | Capture sb =>
      simp only [step] at h
      split at h
      · rename_i hsb
        split at h
        · cases h
          exact hI
        · rename_i hr
          cases h
          refine ⟨fun sb' hsb' => ?_, fun sb' hsb' => ?_⟩
          · exact current_localCapture (hI.held sb hsb) sb' fun _ => hI.held sb' hsb'
          · have hnone : s.device.mStateRecording = some sb' := hsb'
            simp [hnone] at hr
      · cases h
  | Apply sb =>
      simp only [step] at h
      split at h
      · rename_i hsb
        cases h
        refine ⟨fun sb' hsb' => ?_, fun sb' hsb' => ?_⟩
        · exact current_apply (hI.held sb hsb) sb' fun _ => hI.held sb' hsb'
        · obtain ⟨hmem, hplan⟩ := hI.recorded sb' hsb'
          have he : sb' ≠ sb := fun he => hmem (he ▸ hsb)
          refine ⟨hmem, ?_⟩
          rw [apply_other _ he]
          exact hplan
      · cases h
  | ReleaseStateBlock sb =>
      simp only [step] at h
      split at h
      · cases h
        refine ⟨fun sb' hsb' => hI.held sb' (List.mem_of_mem_filter hsb'), fun sb' hsb' => ?_⟩
        obtain ⟨hmem, hplan⟩ := hI.recorded sb' hsb'
        exact ⟨fun hm => hmem (List.mem_of_mem_filter hm), hplan⟩
      · cases h
  | Reset m_state =>
      cases h
      exact ⟨hI.held, hI.recorded⟩

/-- What a step transfers, it transfers by the plan of the flags. -/
theorem transfers_step {s s' : App} {a : Act} (hI : Inv s) (h : step elim mul s a = some s')
    {t : Transfer} (ht : t ∈ transfers s a) :
    t.plan = buildPlan t.flags ∧ t.dst' = copyFlagged t.flags t.src t.dst := by
  cases a with
  | CreateStateBlock type ppSB sb m_captureState =>
      simp only [transfers] at ht
      split at ht
      · obtain rfl := List.mem_singleton.mp ht
        exact (created_self s.device type sb m_captureState).transfer _ _
      · cases ht
  | Capture sb =>
      simp only [transfers] at ht
      simp only [step] at h
      split at ht
      · cases ht
      · obtain rfl := List.mem_singleton.mp ht
        split at h
        · exact (hI.held sb ‹_›).transfer _ _
        · cases h
  | Apply sb =>
      simp only [step] at h
      obtain rfl := List.mem_singleton.mp ht
      split at h
      · exact (hI.held sb ‹_›).transfer _ _
      · cases h
  | set | BeginStateBlock | EndStateBlock | ReleaseStateBlock | Reset => cases ht

/-- **Transfers are exact.**  The transfer by the plan of the flags is the walk over the flags, from
any state to any other; and in every run every transfer goes by the plan of the flags its block has
then. -/
theorem transfers_exact :
    (∀ (flags : StateCaptureDirtyFlags) (src dst : State),
      (StateTransfer (buildPlan flags) flags src dst).2 = copyFlagged flags src dst) ∧
    ∀ (elim : Bool) (mul : D3DMATRIX → D3DMATRIX → D3DMATRIX) (d : LssDevice) (as : List Act)
      (s : App), run (step elim mul) (.init d) as = some s →
      ∀ t ∈ trace (step elim mul) transfers (.init d) as,
        t.plan = buildPlan t.flags ∧ t.dst' = copyFlagged t.flags t.src t.dst := by
  refine ⟨stateTransfer_buildPlan, fun elim mul d as s hr => ?_⟩
  exact trace_inv (fun _ _ _ => inv_step) (fun _ _ _ hI h _ ht => transfers_step hI h ht)
    (inv_init d) hr

/-- A block of the pixel state, captured at its creation and applied, and another one recorded. -/
theorem transfers_exact_pixelState :
    let d : LssDevice := ⟨.cleared, none, fun _ => .new .cleared⟩
    let t := ((d.created D3DSBT_PIXELSTATE 1 .cleared).blocks 1).transfer .cleared .cleared
    t.plan = buildPlan t.flags ∧ t.dst' = copyFlagged t.flags t.src t.dst := by
  intro d t
  have hr : run (step true fun _ m => m) (.init d)
      [.CreateStateBlock D3DSBT_PIXELSTATE true 1 .cleared, .Apply 1,
        .BeginStateBlock 2 .cleared, .set (.SetMaterial (some 0)), .EndStateBlock true] =
      some _ := rfl
  refine transfers_exact.2 true (fun _ m => m) d _ _ hr t ?_
  rw [trace_cons _ rfl]
  exact List.mem_append_left _ List.mem_cons_self

end RemixBridge.Device
