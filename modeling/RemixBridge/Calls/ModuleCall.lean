import RemixBridge.Calls.PresentCall

/-!
# Calls — ModuleCall

The commands of `Direct3D9Ex_LSS`, which go over the module's own channel.  The server pulls the
filter of `GetAdapterModeCountEx` into a structure as if it were a pointer, and has the address of
the client's filter in place of its contents.

* `delivers_iff`: that call never comes over, and every other call does.
-/

namespace RemixBridge

open DataRing

/-- The module's calls, with what each is called with. -/
inductive ModuleCall where
  | Destroy
  | GetAdapterCount
  | GetAdapterIdentifier (Adapter Flags : Word)
  | GetAdapterModeCount (Adapter Format : Word)
  | EnumAdapterModes (Adapter Format Mode : Word)
  | GetAdapterDisplayMode (Adapter : Word)
  | CheckDeviceType (Adapter CheckType DisplayFormat BackBufferFormat Windowed : Word)
  | CheckDeviceFormat (Adapter DeviceType AdapterFormat Usage RType CheckFormat : Word)
  | CheckDeviceMultiSampleType (Adapter DeviceType SurfaceFormat Windowed MultiSampleType : Word)
  | CheckDepthStencilMatch
      (Adapter DeviceType AdapterFormat RenderTargetFormat DepthStencilFormat : Word)
  | CheckDeviceFormatConversion (Adapter DeviceType SourceFormat TargetFormat : Word)
  | GetDeviceCaps (Adapter DeviceType : Word)
  | GetAdapterMonitor (Adapter : Word)
  | GetAdapterModeCountEx (Adapter : Word) (pFilter : Obj (sizeof .D3DDISPLAYMODEFILTER))
  | EnumAdapterModesEx (Adapter : Word) (pFilter : Obj (sizeof .D3DDISPLAYMODEFILTER)) (Mode : Word)
  | GetAdapterDisplayModeEx (Adapter : Word) (pMode : Obj (sizeof .D3DDISPLAYMODEEX))
      (pRotation : Obj (sizeof .D3DDISPLAYROTATION))
  | GetAdapterLUID (Adapter : Word)

namespace ModuleCall

/-- What the client sends for a call. -/
def message : ModuleCall → Message
  | .Destroy => ⟨.IDirect3D9Ex_Destroy, [], 0⟩
  | .GetAdapterCount => ⟨.IDirect3D9Ex_GetAdapterCount, [], 0⟩
  | .GetAdapterIdentifier Adapter Flags =>
      ⟨.IDirect3D9Ex_GetAdapterIdentifier, [.many [Adapter, Flags]], 0⟩
  | .GetAdapterModeCount Adapter Format =>
      ⟨.IDirect3D9Ex_GetAdapterModeCount, [.many [Adapter, Format]], 0⟩
  | .EnumAdapterModes Adapter Format Mode =>
      ⟨.IDirect3D9Ex_EnumAdapterModes, [.many [Adapter, Format, Mode]], 0⟩
  | .GetAdapterDisplayMode Adapter => ⟨.IDirect3D9Ex_GetAdapterDisplayMode, [.word Adapter], 0⟩
  | .CheckDeviceType Adapter CheckType DisplayFormat BackBufferFormat Windowed =>
      ⟨.IDirect3D9Ex_CheckDeviceType,
        [.many [Adapter, CheckType, DisplayFormat, BackBufferFormat, Windowed]], 0⟩
  | .CheckDeviceFormat Adapter DeviceType AdapterFormat Usage RType CheckFormat =>
      ⟨.IDirect3D9Ex_CheckDeviceFormat,
        [.many [Adapter, DeviceType, AdapterFormat, Usage, RType, CheckFormat]], 0⟩
  | .CheckDeviceMultiSampleType Adapter DeviceType SurfaceFormat Windowed MultiSampleType =>
      ⟨.IDirect3D9Ex_CheckDeviceMultiSampleType,
        [.many [Adapter, DeviceType, SurfaceFormat, Windowed, MultiSampleType]], 0⟩
  | .CheckDepthStencilMatch Adapter DeviceType AdapterFormat RenderTargetFormat
      DepthStencilFormat =>
      ⟨.IDirect3D9Ex_CheckDepthStencilMatch,
        [.many [Adapter, DeviceType, AdapterFormat, RenderTargetFormat, DepthStencilFormat]], 0⟩
  | .CheckDeviceFormatConversion Adapter DeviceType SourceFormat TargetFormat =>
      ⟨.IDirect3D9Ex_CheckDeviceFormatConversion,
        [.many [Adapter, DeviceType, SourceFormat, TargetFormat]], 0⟩
  | .GetDeviceCaps Adapter DeviceType =>
      ⟨.IDirect3D9Ex_GetDeviceCaps, [.many [Adapter, DeviceType]], 0⟩
  | .GetAdapterMonitor Adapter => ⟨.IDirect3D9Ex_GetAdapterMonitor, [.word Adapter], 0⟩
  | .GetAdapterModeCountEx Adapter pFilter =>
      ⟨.IDirect3D9Ex_GetAdapterModeCountEx,
        [.word Adapter, sendObj (sizeof .D3DDISPLAYMODEFILTER) pFilter], 0⟩
  | .EnumAdapterModesEx Adapter pFilter Mode =>
      ⟨.IDirect3D9Ex_EnumAdapterModesEx,
        [.word Adapter, .word Mode, sendObj (sizeof .D3DDISPLAYMODEFILTER) pFilter], 0⟩
  | .GetAdapterDisplayModeEx Adapter pMode pRotation =>
      ⟨.IDirect3D9Ex_GetAdapterDisplayModeEx,
        [.word Adapter, sendObj (sizeof .D3DDISPLAYMODEEX) pMode,
          sendObj (sizeof .D3DDISPLAYROTATION) pRotation], 0⟩
  | .GetAdapterLUID Adapter => ⟨.IDirect3D9Ex_GetAdapterLUID, [.word Adapter], 0⟩

/-- The `modeFilter` of the server's `GetAdapterModeCountEx`, once `get_data` has written the
8 bytes of a pointer into it.  The ring is at `m_data`, and the last member is as it was on the
stack. -/
def modeFilter (m_data : Nat) (ScanLineOrdering : Word) (p : Option Nat) :
    Obj (sizeof .D3DDISPLAYMODEFILTER) :=
  let address := p.elim 0 fun pos => m_data + 4 * pos
  { bytes :=
      [.ofNat 32 address, .ofNat 32 (address / 2 ^ 32), ScanLineOrdering].flatMap wordBytes
    length := .inr rfl
    lt_word := (by decide : 12 < 2 ^ 32) }

variable {m_size : Nat}

/-- The `GetAdapterModeCountEx` case. -/
def pullModeCountEx (m_data : Nat) (ScanLineOrdering : Word) : PullM m_size ModuleCall := do
  let Adapter ← getData
  let p ← getRef
  return .GetAdapterModeCountEx Adapter (modeFilter m_data ScanLineOrdering p)

/-- What the server pulls for a command, and the call it makes. -/
def process (m_data : Nat) (ScanLineOrdering : Word) : D3D9Command → Option (PullM m_size ModuleCall)
  | .IDirect3D9Ex_Destroy => some (return .Destroy)
  | .IDirect3D9Ex_GetAdapterCount => some (return .GetAdapterCount)
  | .IDirect3D9Ex_GetAdapterIdentifier => some do
      let Adapter ← getData; let Flags ← getData
      return .GetAdapterIdentifier Adapter Flags
  | .IDirect3D9Ex_GetAdapterModeCount => some do
      let Adapter ← getData; let Format ← getData
      return .GetAdapterModeCount Adapter Format
  | .IDirect3D9Ex_EnumAdapterModes => some do
      let Adapter ← getData; let Format ← getData; let Mode ← getData
      return .EnumAdapterModes Adapter Format Mode
  | .IDirect3D9Ex_GetAdapterDisplayMode => some do
      let Adapter ← getData
      return .GetAdapterDisplayMode Adapter
  | .IDirect3D9Ex_CheckDeviceType => some do
      let Adapter ← getData; let DevType ← getData; let AdapterFormat ← getData
      let BackBufferFormat ← getData; let bWindowed ← getData
      return .CheckDeviceType Adapter DevType AdapterFormat BackBufferFormat bWindowed
  | .IDirect3D9Ex_CheckDeviceFormat => some do
      let Adapter ← getData; let DeviceType ← getData; let AdapterFormat ← getData
      let Usage ← getData; let RType ← getData; let CheckFormat ← getData
      return .CheckDeviceFormat Adapter DeviceType AdapterFormat Usage RType CheckFormat
  | .IDirect3D9Ex_CheckDeviceMultiSampleType => some do
      let Adapter ← getData; let DeviceType ← getData; let SurfaceFormat ← getData
      let Windowed ← getData; let MultiSampleType ← getData
      return .CheckDeviceMultiSampleType Adapter DeviceType SurfaceFormat Windowed MultiSampleType
  | .IDirect3D9Ex_CheckDepthStencilMatch => some do
      let Adapter ← getData; let DeviceType ← getData; let AdapterFormat ← getData
      let RenderTargetFormat ← getData; let DepthStencilFormat ← getData
      return .CheckDepthStencilMatch Adapter DeviceType AdapterFormat RenderTargetFormat
        DepthStencilFormat
  | .IDirect3D9Ex_CheckDeviceFormatConversion => some do
      let Adapter ← getData; let DeviceType ← getData; let SourceFormat ← getData
      let TargetFormat ← getData
      return .CheckDeviceFormatConversion Adapter DeviceType SourceFormat TargetFormat
  | .IDirect3D9Ex_GetDeviceCaps => some do
      let Adapter ← getData; let DeviceType ← getData
      return .GetDeviceCaps Adapter DeviceType
  | .IDirect3D9Ex_GetAdapterMonitor => some do
      let Adapter ← getData
      return .GetAdapterMonitor Adapter
  | .IDirect3D9Ex_GetAdapterModeCountEx => some (pullModeCountEx m_data ScanLineOrdering)
  | .IDirect3D9Ex_GetAdapterLUID => some do
      let Adapter ← getData
      return .GetAdapterLUID Adapter
  | .IDirect3D9Ex_EnumAdapterModesEx => some do
      let Adapter ← getData; let Mode ← getData
      let pFilter ← getObj (sizeof .D3DDISPLAYMODEFILTER)
      return .EnumAdapterModesEx Adapter pFilter Mode
  | .IDirect3D9Ex_GetAdapterDisplayModeEx => some do
      let Adapter ← getData; let pMode ← getObj (sizeof .D3DDISPLAYMODEEX)
      let pRotation ← getObj (sizeof .D3DDISPLAYROTATION)
      return .GetAdapterDisplayModeEx Adapter pMode pRotation
  | _ => none

def switch (m_data : Nat) (ScanLineOrdering : Word) : Switch ModuleCall := fun _ command _ =>
  process m_data ScanLineOrdering command

/-! ### Which calls come over -/

/-- A filter for the count of modes never comes over. -/
def Sound : ModuleCall → Prop
  | .GetAdapterModeCountEx _ _ => False
  | _ => True

variable {m_data : Nat} {ScanLineOrdering : Word}

theorem reads (mem : Memory) (e : Nat) (c : ModuleCall) (hc : c.Sound) :
    ∃ p : PullM m_size ModuleCall, process m_data ScanLineOrdering c.message.command = some p ∧
      Reads mem e p (dataOf c.message.data) c := by
  cases c
  case GetAdapterModeCountEx Adapter pFilter => exact hc.elim
  -- The other calls are words and structures.
  all_goals
    refine ⟨_, rfl, ?_⟩
    repeat' first
      | exact Reads.pure _
      | apply Reads.word
      | apply Reads.obj (Obj.take_bytes _ (sizeof_mod _))

/-- The first member of a server's filter is the low half of an address. -/
theorem modeFilter_first (p : Option Nat) :
    rawWord (modeFilter m_data ScanLineOrdering p).bytes 0 =
      .ofNat 32 (p.elim 0 fun pos => m_data + 4 * pos) :=
  rawWord_flatMap _ 0

/-- The filter that a call gives. -/
def filter : ModuleCall → List Byte
  | .GetAdapterModeCountEx _ pFilter => pFilter.bytes
  | _ => []

/-- One word further on in the ring, the filter has another address. -/
theorem not_delivers_modeCountEx (Adapter : Word) (pFilter : Obj (sizeof .D3DDISPLAYMODEFILTER)) :
    ¬ Delivers (switch m_data ScanLineOrdering) (message (.GetAdapterModeCountEx Adapter pFilter))
      (.GetAdapterModeCountEx Adapter pFilter) := by
  intro h
  have hdata : (message (.GetAdapterModeCountEx Adapter pFilter)).data =
      [.word Adapter, .obj pFilter.bytes] := by
    show [_, Push.obj (pFilter.bytes.take _)] = _
    rw [pFilter.take_bytes (sizeof_mod _)]
  -- What the server has for the filter, from a position of a ring of 16 words.
  have hrun : ∀ a, FitsLap 16 a [.word Adapter, .obj pFilter.bytes] →
      (modeFilter m_data ScanLineOrdering
        (if chunkSize pFilter.bytes.length = 0 then none
          else some (ensureSpace 16 (pop 16 (pop 16 (a % 16))) pFilter.bytes.length))).bytes =
        pFilter.bytes := by
    intro a hfit
    obtain ⟨p, hp, hrun⟩ := h 16 a (fun _ => 0) (by decide) (hdata ▸ hfit)
    obtain ⟨-, ⟨hsize, -⟩, -⟩ := holds_store (by decide : 0 < 16) (fun _ => 0) hfit
    cases hp
    rw [hdata] at hrun
    have hfilter := congrArg (fun r => r.1.filter) hrun
    rw [← hsize]
    exact hfilter
  have hfit : ∀ a, a = 16 ∨ a = 17 → pFilter.bytes.length = sizeof .D3DDISPLAYMODEFILTER →
      FitsLap 16 a [.word Adapter, .obj pFilter.bytes] := by
    intro a ha hlen
    refine ⟨fun bytes hb => ?_, ?_⟩
    · have hobj : bytes = pFilter.bytes := by simpa using hb
      rw [hobj, hlen]
      decide
    · show pullsAbs 16 a [.word, .obj pFilter.bytes.length] ≤ a + 16
      rw [hlen]
      rcases ha with rfl | rfl <;> decide
  rcases pFilter.length with hnil | hlen
  · have hroom : space [.word Adapter, .obj pFilter.bytes] < 16 := by
      rw [hnil]
      exact (by decide : 2 < 16)
    have hobj : ∀ bytes, Push.obj bytes ∈ [Push.word Adapter, .obj pFilter.bytes] →
        bytes.length < 2 ^ 32 := by
      simp [hnil]
    cases (hrun 16 (FitsLap.of_room hroom hobj)).trans hnil
  · have hfirst := hrun 16 (hfit 16 (.inl rfl) hlen)
    have hsecond := hrun 17 (hfit 17 (.inr rfl) hlen)
    have heq := congrArg (rawWord · 0) (hfirst.trans hsecond.symm)
    simp only [modeFilter_first, hlen] at heq
    have haddress : (m_data + 4 * 2) % 2 ^ 32 = (m_data + 4 * 3) % 2 ^ 32 :=
      congrArg BitVec.toNat heq
    omega

/-- **A call of the module comes over** unless it counts modes by a filter. -/
theorem delivers_iff (c : ModuleCall) :
    Delivers (switch m_data ScanLineOrdering) c.message c ↔ c.Sound := by
  constructor
  · intro h
    cases c
    case GetAdapterModeCountEx Adapter pFilter => exact not_delivers_modeCountEx Adapter pFilter h
    all_goals exact trivial
  · intro hc
    exact Delivers.of_reads fun _ mem e => c.reads mem e hc

end ModuleCall

end RemixBridge
