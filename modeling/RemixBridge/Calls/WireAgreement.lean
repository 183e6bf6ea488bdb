import RemixBridge.Calls.DeviceCall
import RemixBridge.Calls.ResourceCall
import RemixBridge.Calls.RemixCall
import RemixBridge.Calls.ModuleCall

/-!
# Calls — WireAgreement

The two command loops of the server, `ProcessDeviceCommandQueue` and `processModuleCommandQueue`,
over all the commands that the client has for them.  The device's loop is the one switch of which
the modules of calls have the cases; the commands that carry no data have theirs here.

* `Agrees`: behind a command the loop is where the client's header says (`CHECK_DATA_OFFSET`), with
  the client's call and its handle.
* `wire_agreement`: the calls for which it is.
-/

namespace RemixBridge

open DataRing

/-! ### Commands without data -/

/-- The calls that are nothing but a command: what they are about is in the header. -/
inductive BareCall where
  | Terminate
  | SharedHeap_AddSeg
  | SharedHeap_Dealloc
  | UnlinkResource
  | UnlinkVolumeResource
  | Device9Ex_Destroy
  | Device9Ex_GetAvailableTextureMem
  | Device9Ex_EvictManagedResources
  | Device9Ex_GetDirect3D
  | Device9Ex_GetDeviceCaps
  | Device9Ex_BeginScene
  | Device9Ex_EndScene
  | Device9Ex_BeginStateBlock
  | StateBlock9_Destroy
  | StateBlock9_Capture
  | StateBlock9_Apply
  | SwapChain9_Destroy
  | Resource9_PreLoad
  | VertexDeclaration9_Destroy
  | VertexShader9_Destroy
  | PixelShader9_Destroy
  | BaseTexture9_GenerateMipSubLevels
  | Texture9_Destroy
  | VolumeTexture9_Destroy
  | CubeTexture9_Destroy
  | VertexBuffer9_Destroy
  | IndexBuffer9_Destroy
  | Surface9_Destroy
  | Surface9_LockRect
  | Volume9_Destroy
  | Query9_Destroy
  deriving DecidableEq, Repr

namespace BareCall

def command : BareCall → D3D9Command
  | .Terminate                         => .Bridge_Terminate
  | .SharedHeap_AddSeg                 => .Bridge_SharedHeap_AddSeg
  | .SharedHeap_Dealloc                => .Bridge_SharedHeap_Dealloc
  | .UnlinkResource                    => .Bridge_UnlinkResource
  | .UnlinkVolumeResource              => .Bridge_UnlinkVolumeResource
  | .Device9Ex_Destroy                 => .IDirect3DDevice9Ex_Destroy
  | .Device9Ex_GetAvailableTextureMem  => .IDirect3DDevice9Ex_GetAvailableTextureMem
  | .Device9Ex_EvictManagedResources   => .IDirect3DDevice9Ex_EvictManagedResources
  | .Device9Ex_GetDirect3D             => .IDirect3DDevice9Ex_GetDirect3D
  | .Device9Ex_GetDeviceCaps           => .IDirect3DDevice9Ex_GetDeviceCaps
  | .Device9Ex_BeginScene              => .IDirect3DDevice9Ex_BeginScene
  | .Device9Ex_EndScene                => .IDirect3DDevice9Ex_EndScene
  | .Device9Ex_BeginStateBlock         => .IDirect3DDevice9Ex_BeginStateBlock
  | .StateBlock9_Destroy               => .IDirect3DStateBlock9_Destroy
  | .StateBlock9_Capture               => .IDirect3DStateBlock9_Capture
  | .StateBlock9_Apply                 => .IDirect3DStateBlock9_Apply
  | .SwapChain9_Destroy                => .IDirect3DSwapChain9_Destroy
  | .Resource9_PreLoad                 => .IDirect3DResource9_PreLoad
  | .VertexDeclaration9_Destroy        => .IDirect3DVertexDeclaration9_Destroy
  | .VertexShader9_Destroy             => .IDirect3DVertexShader9_Destroy
  | .PixelShader9_Destroy              => .IDirect3DPixelShader9_Destroy
  | .BaseTexture9_GenerateMipSubLevels => .IDirect3DBaseTexture9_GenerateMipSubLevels
  | .Texture9_Destroy                  => .IDirect3DTexture9_Destroy
  | .VolumeTexture9_Destroy            => .IDirect3DVolumeTexture9_Destroy
  | .CubeTexture9_Destroy              => .IDirect3DCubeTexture9_Destroy
  | .VertexBuffer9_Destroy             => .IDirect3DVertexBuffer9_Destroy
  | .IndexBuffer9_Destroy              => .IDirect3DIndexBuffer9_Destroy
  | .Surface9_Destroy                  => .IDirect3DSurface9_Destroy
  | .Surface9_LockRect                 => .IDirect3DSurface9_LockRect
  | .Volume9_Destroy                   => .IDirect3DVolume9_Destroy
  | .Query9_Destroy                    => .IDirect3DQuery9_Destroy

/-- What the client sends for a call. -/
def message (c : BareCall) : Message := ⟨c.command, [], 0⟩

/-- The server's cases, none of which pulls anything. -/
def process : D3D9Command → Option BareCall
  | .Bridge_Terminate                           => some .Terminate
  | .Bridge_SharedHeap_AddSeg                   => some .SharedHeap_AddSeg
  | .Bridge_SharedHeap_Dealloc                  => some .SharedHeap_Dealloc
  | .Bridge_UnlinkResource                      => some .UnlinkResource
  | .Bridge_UnlinkVolumeResource                => some .UnlinkVolumeResource
  | .IDirect3DDevice9Ex_Destroy                 => some .Device9Ex_Destroy
  | .IDirect3DDevice9Ex_GetAvailableTextureMem  => some .Device9Ex_GetAvailableTextureMem
  | .IDirect3DDevice9Ex_EvictManagedResources   => some .Device9Ex_EvictManagedResources
  | .IDirect3DDevice9Ex_GetDirect3D             => some .Device9Ex_GetDirect3D
  | .IDirect3DDevice9Ex_GetDeviceCaps           => some .Device9Ex_GetDeviceCaps
  | .IDirect3DDevice9Ex_BeginScene              => some .Device9Ex_BeginScene
  | .IDirect3DDevice9Ex_EndScene                => some .Device9Ex_EndScene
  | .IDirect3DDevice9Ex_BeginStateBlock         => some .Device9Ex_BeginStateBlock
  | .IDirect3DStateBlock9_Destroy               => some .StateBlock9_Destroy
  | .IDirect3DStateBlock9_Capture               => some .StateBlock9_Capture
  | .IDirect3DStateBlock9_Apply                 => some .StateBlock9_Apply
  | .IDirect3DSwapChain9_Destroy                => some .SwapChain9_Destroy
  | .IDirect3DResource9_PreLoad                 => some .Resource9_PreLoad
  | .IDirect3DVertexDeclaration9_Destroy        => some .VertexDeclaration9_Destroy
  | .IDirect3DVertexShader9_Destroy             => some .VertexShader9_Destroy
  | .IDirect3DPixelShader9_Destroy              => some .PixelShader9_Destroy
  | .IDirect3DBaseTexture9_GenerateMipSubLevels => some .BaseTexture9_GenerateMipSubLevels
  | .IDirect3DTexture9_Destroy                  => some .Texture9_Destroy
  | .IDirect3DVolumeTexture9_Destroy            => some .VolumeTexture9_Destroy
  | .IDirect3DCubeTexture9_Destroy              => some .CubeTexture9_Destroy
  | .IDirect3DVertexBuffer9_Destroy             => some .VertexBuffer9_Destroy
  | .IDirect3DIndexBuffer9_Destroy              => some .IndexBuffer9_Destroy
  | .IDirect3DSurface9_Destroy                  => some .Surface9_Destroy
  | .IDirect3DSurface9_LockRect                 => some .Surface9_LockRect
  | .IDirect3DVolume9_Destroy                   => some .Volume9_Destroy
  | .IDirect3DQuery9_Destroy                    => some .Query9_Destroy
  | _                                           => none

def switch : Switch BareCall := fun _ command _ => (process command).map fun c => return c

theorem delivers (c : BareCall) : Delivers switch c.message c :=
  Delivers.of_reads fun _ _ _ => ⟨return c, by cases c <;> rfl, Reads.pure c⟩

end BareCall

/-! ### The server's loops -/

/-- The calls that the client sends over the channel of the device. -/
inductive DeviceQueueCall where
  | device (c : DeviceCall)
  | present (c : PresentCall Word)
  | resource (c : ResourceCall)
  | remix (c : RemixCall)
  | bare (c : BareCall)

/-- A call as the server makes it.  A call of the Remix API that has not ended its loop over the
extensions is `none`. -/
inductive ServerCall where
  | device (c : DeviceCall)
  | present (c : PresentCall HWND64)
  | resource (c : ResourceCall)
  | remix (c : Option RemixCall)
  | bare (c : BareCall)

namespace DeviceQueueCall

def message : DeviceQueueCall → Message
  | .device c   => c.message
  | .present c  => c.message
  | .resource c => c.message
  | .remix c    => c.message
  | .bare c     => c.message

/-- The call that the server has to make. -/
def received : DeviceQueueCall → ServerCall
  | .device c   => .device c
  | .present c  => .present c.received
  | .resource c => .resource c
  | .remix c    => .remix (some c)
  | .bare c     => .bare c

/-- The turns of the loops over the extensions of a call. -/
def turns : DeviceQueueCall → Nat
  | .remix c => c.extCount
  | _        => 0

/-- The calls that come over. -/
def Sound : DeviceQueueCall → Prop
  | .device c   => c.Sound
  | .present c  => c.params.Windowed = 0
  | .resource c => c.Sound
  | .remix _    => True
  | .bare _     => True

end DeviceQueueCall

/-- The switch of `ProcessDeviceCommandQueue`; `fuel` bounds the turns of the loops over the
extensions of the Remix API. -/
def ProcessDeviceCommandQueue (fuel : Nat) : Switch ServerCall :=
  (DeviceCall.switch.map .device).or <|
  (PresentCall.switch.map .present).or <|
  (ResourceCall.switch.map .resource).or <|
  ((RemixCall.switch fuel).map .remix).or <|
  BareCall.switch.map .bare

/-- The switch of `processModuleCommandQueue`. -/
def processModuleCommandQueue (m_data : Nat) (ScanLineOrdering : Word) : Switch ModuleCall :=
  ModuleCall.switch m_data ScanLineOrdering

/-- The header that the client pushes behind the data of a message. -/
def Message.header (msg : Message) (m_pos pHandle : Nat) : Header :=
  ⟨msg.command, msg.flags, m_pos, pHandle⟩

/-- One turn of a loop, on a header that was pulled: the call made, the handle it is made with, and
`CHECK_DATA_OFFSET`. -/
def serverTurn {γ : Type} (process : Switch γ) (m_size : Nat) (mem : Memory) (m_pos : Nat)
    (rpcHeader : Header) : Option (γ × Nat × Bool) :=
  (process m_size rpcHeader.command rpcHeader.flags).map fun pulls =>
    ((pulls mem m_pos).1, rpcHeader.pHandle, decide ((pulls mem m_pos).2 = rpcHeader.dataOffset))

/-- On every ring that the message fits, from every position and over whatever the ring held, the
turn for a message ends in step with its header, and makes the call `v` with the handle sent. -/
def Agrees {γ : Type} (process : Switch γ) (msg : Message) (v : γ) : Prop :=
  ∀ m_size a mem pHandle, 0 < m_size → FitsLap m_size a msg.data →
    serverTurn process m_size (store m_size mem (a % m_size) msg.data).1 (a % m_size)
      (msg.header (store m_size mem (a % m_size) msg.data).2 pHandle) = some (v, pHandle, true)

theorem agrees_iff {γ : Type} {process : Switch γ} {msg : Message} {v : γ} :
    Agrees process msg v ↔ Delivers process msg v := by
  constructor
  · intro h m_size a mem hn hfit
    obtain ⟨p, hp, hturn⟩ := Option.map_eq_some_iff.mp (h m_size a mem 0 hn hfit)
    rw [Prod.mk.injEq, Prod.mk.injEq, decide_eq_true_eq] at hturn
    obtain ⟨hcall, -, hpos⟩ := hturn
    exact ⟨p, hp, Prod.ext hcall hpos⟩
  · intro h m_size a mem pHandle hn hfit
    obtain ⟨p, hp, hrun⟩ := h m_size a mem hn hfit
    have hcase : process m_size (msg.header (store m_size mem (a % m_size) msg.data).2
        pHandle).command (msg.header (store m_size mem (a % m_size) msg.data).2
        pHandle).flags = some p := hp
    rw [serverTurn, hcase, Option.map_some, hrun]
    simp [Message.header]

/-! ### One case for each command -/

section cases

variable (fuel m_size : Nat)

theorem case_device (c : DeviceCall) :
    ProcessDeviceCommandQueue fuel m_size c.message.command c.message.flags =
      DeviceCall.switch.map .device m_size c.message.command c.message.flags := by
  cases c
  case SetShaderConstant func _ _ _ => cases func <;> rfl
  all_goals rfl

theorem case_present (c : PresentCall Word) :
    ProcessDeviceCommandQueue fuel m_size c.message.command c.message.flags =
      PresentCall.switch.map .present m_size c.message.command c.message.flags := by
  cases c <;> rfl

theorem case_resource (c : ResourceCall) :
    ProcessDeviceCommandQueue fuel m_size c.message.command c.message.flags =
      ResourceCall.switch.map .resource m_size c.message.command c.message.flags := by
  cases c
  case Buffer9_Lock bIsVertexBuffer _ => cases bIsVertexBuffer <;> rfl
  case Buffer9_Unlock bIsVertexBuffer _ _ _ _ => cases bIsVertexBuffer <;> rfl
  case Surface9_UnlockRect data => cases data <;> rfl
  all_goals rfl

theorem case_remix (c : RemixCall) :
    ProcessDeviceCommandQueue fuel m_size c.message.command c.message.flags =
      (RemixCall.switch fuel).map .remix m_size c.message.command c.message.flags := by
  cases c <;> rfl

theorem case_bare (c : BareCall) :
    ProcessDeviceCommandQueue fuel m_size c.message.command c.message.flags =
      BareCall.switch.map .bare m_size c.message.command c.message.flags := by
  cases c <;> rfl

end cases

/-- A call that is `Sound` comes over, with fuel for its extensions. -/
theorem DeviceQueueCall.delivers {c : DeviceQueueCall} (hc : c.Sound) {fuel : Nat}
    (hfuel : c.turns < fuel) :
    Delivers (ProcessDeviceCommandQueue fuel) c.message c.received := by
  cases c with
  | device c =>
      exact (delivers_map (fun _ _ => ServerCall.device.inj) fun m_size =>
        case_device fuel m_size c).mpr (c.delivers_iff.mpr hc)
  | present c =>
      exact (delivers_map (fun _ _ => ServerCall.present.inj) fun m_size =>
        case_present fuel m_size c).mpr (c.delivers_iff.mpr hc)
  | resource c =>
      exact (delivers_map (fun _ _ => ServerCall.resource.inj) fun m_size =>
        case_resource fuel m_size c).mpr (c.delivers_iff.mpr hc)
  | remix c =>
      exact (delivers_map (fun _ _ => ServerCall.remix.inj) fun m_size =>
        case_remix fuel m_size c).mpr (c.delivers fuel hfuel)
  | bare c =>
      exact (delivers_map (fun _ _ => ServerCall.bare.inj) fun m_size =>
        case_bare fuel m_size c).mpr c.delivers

/-- A call comes over the loop of the device as it comes over the cases of its own module. -/
theorem DeviceQueueCall.delivers_iff (c : DeviceQueueCall) :
    (∃ fuel, Delivers (ProcessDeviceCommandQueue fuel) c.message c.received) ↔ c.Sound := by
  refine ⟨fun ⟨fuel, h⟩ => ?_, fun hc => ⟨c.turns + 1, delivers hc (Nat.lt_succ_self _)⟩⟩
  cases c with
  | device c =>
      exact c.delivers_iff.mp ((delivers_map (fun _ _ => ServerCall.device.inj) fun m_size =>
        case_device fuel m_size c).mp h)
  | present c =>
      exact c.delivers_iff.mp ((delivers_map (fun _ _ => ServerCall.present.inj) fun m_size =>
        case_present fuel m_size c).mp h)
  | resource c =>
      exact c.delivers_iff.mp ((delivers_map (fun _ _ => ServerCall.resource.inj) fun m_size =>
        case_resource fuel m_size c).mp h)
  | remix c => trivial
  | bare c => trivial

/-- **Wire agreement.**  The loop of the device ends in step with the client, with the client's
call, on every call but those that are not `Sound`; the loop of the module does on every call but
`GetAdapterModeCountEx`. -/
theorem wire_agreement (c : DeviceQueueCall) (m : ModuleCall) (m_data : Nat)
    (ScanLineOrdering : Word) :
    ((∃ fuel, Agrees (ProcessDeviceCommandQueue fuel) c.message c.received) ↔ c.Sound) ∧
      (Agrees (processModuleCommandQueue m_data ScanLineOrdering) m.message m ↔ m.Sound) := by
  constructor
  · rw [← c.delivers_iff]
    exact exists_congr fun fuel => agrees_iff
  · exact agrees_iff.trans m.delivers_iff

/-- `AddDirtyBox(nullptr)`: behind its size, which it takes for a level, the server takes one more
word for the size of the box. -/
theorem null_dirty_box_out_of_step :
    ¬ ∃ fuel, Agrees (ProcessDeviceCommandQueue fuel)
      (DeviceQueueCall.resource (.VolumeTexture9_AddDirtyBox .null)).message
      (DeviceQueueCall.resource (.VolumeTexture9_AddDirtyBox .null)).received := by
  rintro ⟨fuel, h⟩
  have hroom : space [.obj []] < 16 := by decide
  have hobj : ∀ bytes, Push.obj bytes ∈ [Push.obj []] → bytes.length < 2 ^ 32 := by
    intro bytes hb
    cases List.mem_singleton.mp hb
    decide
  have hfit : FitsLap 16 16 [.obj []] := FitsLap.of_room hroom hobj
  have hturn := h 16 16 (fun _ => 0) 7 (by decide) hfit
  have hstep : some false = some true :=
    congrArg (Option.map fun r : ServerCall × Nat × Bool => r.2.2) hturn
  cases hstep

end RemixBridge
