import RemixBridge.Support.Runs
import RemixBridge.Calls.ServerResponse

/-!
# Calls — ResponsePayload

What the server pushes to the client behind a call (`server/main.cpp`, `module_processing.cpp`), and
what the client's function pulls of it before it pops the header of the response.

* `AnsweredCall.reads`: a function pulls what was pushed, and returns what was sent, but for the
  data of a query that nobody wants (`DropsData`).
* `responses_agree`: so that over any run of calls a response is read from its own first word, and
  the client is behind its last one when the next is sent.
* `create_device_pops_first`: `CreateDevice` is there only after its pop, and one word.
-/

namespace RemixBridge

open DataRing Runs

/-! ### What the server's runtime returns -/

/-- `SUCCEEDED(hr)`. -/
def SUCCEEDED (hresult : Word) : Prop := hresult.msb = false

instance (hresult : Word) : Decidable (SUCCEEDED hresult) := inferInstanceAs (Decidable (_ = _))

def S_OK : Word := 0

def D3DERR_INVALIDCALL : Word := 0x8876086c

/-- The structures that a response carries. -/
inductive OutType where
  | D3DCAPS9 | D3DDISPLAYMODE | D3DDISPLAYMODEEX | D3DDISPLAYROTATION | D3DADAPTER_IDENTIFIER9 | LUID

namespace OutType

/-- `sizeof`, in the client. -/
def clientSize : OutType → Nat
  | .D3DCAPS9               => 304
  | .D3DDISPLAYMODE         => 16
  | .D3DDISPLAYMODEEX       => 24
  | .D3DDISPLAYROTATION     => 4
  | .D3DADAPTER_IDENTIFIER9 => 1100
  | .LUID                   => 8

/-- `sizeof`, in the server, which pads the identifier of an adapter. -/
def serverSize : OutType → Nat
  | .D3DADAPTER_IDENTIFIER9 => 1104
  | t => t.clientSize

theorem clientSize_le (t : OutType) : t.clientSize ≤ t.serverSize := by
  cases t <;> decide

theorem serverSize_pos (t : OutType) : 0 < t.serverSize := by
  cases t <;> decide

end OutType

/-- The bytes of a structure. -/
structure Struct (size : Nat) where
  bytes : List Byte
  length : bytes.length = size

/-- What a call of the server's runtime comes to: its `HRESULT`, the number that a function without
one returns (or writes besides), the structures and the data that it writes, and for a surface
what its description and its lock come to. -/
structure Runtime where
  hresult : Word
  number : Word
  out : (t : OutType) → Struct t.serverSize
  queryData : Nat → Byte
  descResult : Word
  lockResult : Word
  width : Word
  height : Word
  format : Word
  pixels : List Byte

/-! ### The calls that are answered -/

/-- The functions that have the contents of a surface from the server. -/
inductive SurfaceCall where
  | GetRenderTargetData | GetFrontBufferData | SwapChain9_GetFrontBufferData | Surface9_LockRect
  deriving DecidableEq, Repr

/-- The client's calls that wait for an answer, with the arguments that they still look at when it is
there: a pointer argument is whether it is null.  Pointers that a function refuses to be null
before it sends its command are not listed. -/
inductive AnsweredCall where
  | hresult (f : HResultCall)
  | CreateDevice (m_ex : Bool)
  | GetAvailableTextureMem
  | ShowCursor
  | GetDeviceCaps
  | GetDisplayMode
  | GetDisplayModeEx
  | surface (f : SurfaceCall) (lockRect : Word)
  | Query9_GetData (pDataNull : Bool) (dwSize : Word)
  | Module_GetAdapterCount
  | Module_GetAdapterIdentifier
  | Module_GetAdapterModeCount
  | Module_EnumAdapterModes (pModeNull : Bool)
  | Module_GetAdapterDisplayMode (pModeNull : Bool)
  | Module_CheckDeviceMultiSampleType (pQualityLevelsNull : Bool)
  | Module_GetDeviceCaps
  | Module_GetAdapterMonitor
  | Module_GetAdapterModeCountEx
  | Module_EnumAdapterModesEx
  | Module_GetAdapterDisplayModeEx (pRotationNull : Bool)
  | Module_GetAdapterLUID

def SurfaceCall.command : SurfaceCall → D3D9Command
  | .GetRenderTargetData           => .IDirect3DDevice9Ex_GetRenderTargetData
  | .GetFrontBufferData            => .IDirect3DDevice9Ex_GetFrontBufferData
  | .SwapChain9_GetFrontBufferData => .IDirect3DSwapChain9_GetFrontBufferData
  | .Surface9_LockRect             => .IDirect3DSurface9_LockRect

/-- The command that a call sends. -/
def AnsweredCall.command : AnsweredCall → D3D9Command
  | .hresult f                             => f.command
  | .CreateDevice m_ex                     =>
      if m_ex then .IDirect3D9Ex_CreateDeviceEx else .IDirect3D9Ex_CreateDevice
  | .GetAvailableTextureMem                => .IDirect3DDevice9Ex_GetAvailableTextureMem
  | .ShowCursor                            => .IDirect3DDevice9Ex_ShowCursor
  | .GetDeviceCaps                         => .IDirect3DDevice9Ex_GetDeviceCaps
  | .GetDisplayMode                        => .IDirect3DDevice9Ex_GetDisplayMode
  | .GetDisplayModeEx                      => .IDirect3DDevice9Ex_GetDisplayModeEx
  | .surface f _                           => f.command
  | .Query9_GetData _ _                    => .IDirect3DQuery9_GetData
  | .Module_GetAdapterCount                => .IDirect3D9Ex_GetAdapterCount
  | .Module_GetAdapterIdentifier           => .IDirect3D9Ex_GetAdapterIdentifier
  | .Module_GetAdapterModeCount            => .IDirect3D9Ex_GetAdapterModeCount
  | .Module_EnumAdapterModes _             => .IDirect3D9Ex_EnumAdapterModes
  | .Module_GetAdapterDisplayMode _        => .IDirect3D9Ex_GetAdapterDisplayMode
  | .Module_CheckDeviceMultiSampleType _   => .IDirect3D9Ex_CheckDeviceMultiSampleType
  | .Module_GetDeviceCaps                  => .IDirect3D9Ex_GetDeviceCaps
  | .Module_GetAdapterMonitor              => .IDirect3D9Ex_GetAdapterMonitor
  | .Module_GetAdapterModeCountEx          => .IDirect3D9Ex_GetAdapterModeCountEx
  | .Module_EnumAdapterModesEx             => .IDirect3D9Ex_EnumAdapterModesEx
  | .Module_GetAdapterDisplayModeEx _      => .IDirect3D9Ex_GetAdapterDisplayModeEx
  | .Module_GetAdapterLUID                 => .IDirect3D9Ex_GetAdapterLUID

/-- The bridge that a call goes over. -/
def AnsweredCall.bridge (c : AnsweredCall) : BridgeId := c.command.bridge

/-- The macro that a call waits with. -/
def AnsweredCall.wait : AnsweredCall → ResponseMacro
  | .hresult f => f.wait
  | _ => .SERVER_RESPONSE

theorem AnsweredCall.waits_as_answered (c : AnsweredCall) : respond c.command = some c.wait := by
  cases c
  case hresult f => exact f.waits_as_answered
  case CreateDevice m_ex => cases m_ex <;> rfl
  case surface f _ => cases f <;> rfl
  all_goals rfl

/-- What a function returns, and what it has written through its pointers. -/
structure Returned where
  value : Word
  written : List (List Byte) := []

/-! ### The server's side -/

/-- The `HRESULT`, and the structures behind it if there are any. -/
def sendStructs (rt : Runtime) (ts : List OutType) : List Push :=
  .word rt.hresult :: if SUCCEEDED rt.hresult then ts.map fun t => .obj (rt.out t).bytes else []

/-- `ReturnSurfaceDataToClient`. -/
def ReturnSurfaceDataToClient (rt : Runtime) (hresult : Word) : List Push :=
  if ¬SUCCEEDED hresult then [.word hresult]
  else if ¬SUCCEEDED rt.descResult then [.word rt.descResult]
  else if ¬SUCCEEDED rt.lockResult then [.word rt.lockResult]
  else [.word rt.lockResult, .word rt.width, .word rt.height, .word rt.format, .obj rt.pixels]

/-- The `HRESULT` that the surface is returned with. -/
def SurfaceCall.hresult (rt : Runtime) : SurfaceCall → Word
  | .Surface9_LockRect => S_OK
  | _ => rt.hresult

namespace AnsweredCall

/-- What the server's case of a call pushes behind its command. -/
def respond (rt : Runtime) : AnsweredCall → List Push
  | .hresult _ => [.word rt.hresult]
  | .CreateDevice _ => [.word rt.hresult]
  | .GetAvailableTextureMem => [.word rt.number]
  | .ShowCursor => [.word rt.number]
  | .GetDeviceCaps => sendStructs rt [.D3DCAPS9]
  | .GetDisplayMode => sendStructs rt [.D3DDISPLAYMODE]
  | .GetDisplayModeEx => sendStructs rt [.D3DDISPLAYMODEEX, .D3DDISPLAYROTATION]
  | .surface f _ => ReturnSurfaceDataToClient rt (f.hresult rt)
  | .Query9_GetData _ dwSize =>
      .word rt.hresult ::
        if SUCCEEDED rt.hresult ∧ 0 < dwSize.toNat then
          [.obj ((List.range dwSize.toNat).map rt.queryData)]
        else []
  | .Module_GetAdapterCount => [.word rt.number]
  | .Module_GetAdapterIdentifier => sendStructs rt [.D3DADAPTER_IDENTIFIER9]
  | .Module_GetAdapterModeCount => [.word rt.number]
  | .Module_EnumAdapterModes _ => sendStructs rt [.D3DDISPLAYMODE]
  | .Module_GetAdapterDisplayMode _ => sendStructs rt [.D3DDISPLAYMODE]
  | .Module_CheckDeviceMultiSampleType _ => [.word rt.hresult, .word rt.number]
  | .Module_GetDeviceCaps => sendStructs rt [.D3DCAPS9]
  | .Module_GetAdapterMonitor => [.word rt.number]
  | .Module_GetAdapterModeCountEx => [.word rt.number]
  | .Module_EnumAdapterModesEx => sendStructs rt [.D3DDISPLAYMODEEX]
  -- The server's runtime writes to where the client's structures lie in the ring.
  | .Module_GetAdapterDisplayModeEx false =>
      sendStructs rt [.D3DDISPLAYMODEEX, .D3DDISPLAYROTATION]
  | .Module_GetAdapterDisplayModeEx true =>
      sendStructs rt [.D3DDISPLAYMODEEX] ++ if SUCCEEDED rt.hresult then [.obj []] else []
  | .Module_GetAdapterLUID => sendStructs rt [.LUID]

end AnsweredCall

/-! ### The client's side -/

variable {m_size : Nat}

/-- `copy_data(obj)` into `size` bytes: the size that was pushed, and what is in `obj` after it. -/
def copyData (size : Nat) : PullM m_size (Nat × List Byte) := fun mem m_pos =>
  let len := (mem.word m_pos).toNat
  let start := ensureSpace m_size (pop m_size m_pos) len
  ((len, if chunkSize len = 0 then List.replicate size 0
    else (List.range size).map fun i => mem (4 * start + i)), start + chunkSize len)

/-- The `HRESULT` of a function that has copied a structure. -/
def checkLen (len expected : Nat) (hresult : Word) : Word :=
  if len ≠ expected ∧ len ≠ 0 then D3DERR_INVALIDCALL else hresult

/-- A function that has an `HRESULT` and a structure, of which it expects `expected` bytes, and writes
it through a pointer.  A pointer that is null after all ends the client. -/
def readStruct (t : OutType) (expected : Nat) (pointerNull : Bool) :
    PullM m_size (Option Returned) := do
  let hresult ← getData
  if SUCCEEDED hresult then
    let (len, obj) ← copyData t.clientSize
    return if pointerNull then none else some ⟨checkLen len expected hresult, [obj]⟩
  else
    return some ⟨hresult, []⟩

/-- A function that has a display mode and a rotation besides. -/
def readModeEx (pRotationNull : Bool) : PullM m_size (Option Returned) := do
  let hresult ← getData
  if SUCCEEDED hresult then
    let (len, pMode) ← copyData OutType.D3DDISPLAYMODEEX.clientSize
    let (len', pRotation) ← copyData OutType.D3DDISPLAYROTATION.clientSize
    return if pRotationNull then none
      else some ⟨checkLen len' OutType.D3DDISPLAYROTATION.clientSize
        (checkLen len OutType.D3DDISPLAYMODEEX.clientSize hresult), [pMode, pRotation]⟩
  else
    return some ⟨hresult, []⟩

/-- `copyServerSurfaceRawData`, with what the client's own lock of its surface comes to. -/
def copyServerSurfaceRawData (lockRect : Word) : PullM m_size (Option Returned) := do
  let res ← getData
  if SUCCEEDED res then
    let width ← getData
    let height ← getData
    let format ← getData
    let pData ← getBytes
    return some ⟨lockRect, if lockRect = S_OK then
      [wordBytes width, wordBytes height, wordBytes format, pData] else []⟩
  else
    return some ⟨res, []⟩

/-- `GetData` of a query. -/
def readQuery (pDataNull : Bool) (dwSize : Word) : PullM m_size (Option Returned) := do
  let hresult ← getData
  if SUCCEEDED hresult ∧ 0 < dwSize.toNat ∧ pDataNull = false then
    let pDataReturned ← getObj dwSize.toNat
    return some ⟨hresult, [pDataReturned.bytes]⟩
  else
    return some ⟨hresult, []⟩

/-- A function that has one word. -/
def readWord : PullM m_size (Option Returned) := do
  let value ← getData
  return some ⟨value, []⟩

namespace AnsweredCall

/-- What a function pulls of its response, and what it makes of it. -/
def receive : AnsweredCall → PullM m_size (Option Returned)
  | .hresult _ => readWord
  | .CreateDevice _ => readWord
  | .GetAvailableTextureMem => readWord
  | .ShowCursor => readWord
  | .GetDeviceCaps => readStruct .D3DCAPS9 OutType.D3DCAPS9.clientSize false
  | .GetDisplayMode => readStruct .D3DDISPLAYMODE OutType.D3DDISPLAYMODE.clientSize false
  | .GetDisplayModeEx => readModeEx false
  | .surface _ lockRect => copyServerSurfaceRawData lockRect
  | .Query9_GetData pDataNull dwSize => readQuery pDataNull dwSize
  | .Module_GetAdapterCount => readWord
  | .Module_GetAdapterIdentifier =>
      readStruct .D3DADAPTER_IDENTIFIER9 (OutType.D3DADAPTER_IDENTIFIER9.clientSize + 4) false
  | .Module_GetAdapterModeCount => readWord
  | .Module_EnumAdapterModes pModeNull =>
      readStruct .D3DDISPLAYMODE OutType.D3DDISPLAYMODE.clientSize pModeNull
  | .Module_GetAdapterDisplayMode pModeNull =>
      readStruct .D3DDISPLAYMODE OutType.D3DDISPLAYMODE.clientSize pModeNull
  | .Module_CheckDeviceMultiSampleType pQualityLevelsNull => do
      let res ← getData
      let QualityLevelsLocal ← getData
      return some ⟨res, if pQualityLevelsNull then [] else [wordBytes QualityLevelsLocal]⟩
  | .Module_GetDeviceCaps => readStruct .D3DCAPS9 OutType.D3DCAPS9.clientSize false
  | .Module_GetAdapterMonitor => readWord
  | .Module_GetAdapterModeCountEx => readWord
  | .Module_EnumAdapterModesEx =>
      readStruct .D3DDISPLAYMODEEX OutType.D3DDISPLAYMODEEX.clientSize false
  | .Module_GetAdapterDisplayModeEx pRotationNull => readModeEx pRotationNull
  -- The function compares with the size of its pointer.
  | .Module_GetAdapterLUID => readStruct .LUID 4 false

/-- The constructor of the device pops the header before it pulls. -/
def popsFirst : AnsweredCall → Bool
  | .CreateDevice _ => true
  | _ => false

end AnsweredCall

/-! ### What a function returns -/

/-- A function with an `HRESULT` and a structure. -/
def structReturned (rt : Runtime) (t : OutType) (value : Word) (pointerNull : Bool) :
    Option Returned :=
  if SUCCEEDED rt.hresult then
    if pointerNull then none else some ⟨value, [(rt.out t).bytes.take t.clientSize]⟩
  else some ⟨rt.hresult, []⟩

/-- A function with a display mode and a rotation. -/
def modeExReturned (rt : Runtime) (pRotationNull : Bool) : Option Returned :=
  if SUCCEEDED rt.hresult then
    if pRotationNull then none
    else some ⟨rt.hresult,
      [(rt.out .D3DDISPLAYMODEEX).bytes, (rt.out .D3DDISPLAYROTATION).bytes]⟩
  else some ⟨rt.hresult, []⟩

/-- A function with the contents of a surface. -/
def surfaceReturned (rt : Runtime) (hresult lockRect : Word) : Option Returned :=
  if ¬SUCCEEDED hresult then some ⟨hresult, []⟩
  else if ¬SUCCEEDED rt.descResult then some ⟨rt.descResult, []⟩
  else if ¬SUCCEEDED rt.lockResult then some ⟨rt.lockResult, []⟩
  else some ⟨lockRect, if lockRect = S_OK then
    [wordBytes rt.width, wordBytes rt.height, wordBytes rt.format, rt.pixels] else []⟩

namespace AnsweredCall

/-- What a function returns to what the server's runtime answered; `none` where it writes through a
null pointer. -/
def returned (rt : Runtime) : AnsweredCall → Option Returned
  | .hresult _ => some ⟨rt.hresult, []⟩
  | .CreateDevice _ => some ⟨rt.hresult, []⟩
  | .GetAvailableTextureMem => some ⟨rt.number, []⟩
  | .ShowCursor => some ⟨rt.number, []⟩
  | .GetDeviceCaps => structReturned rt .D3DCAPS9 rt.hresult false
  | .GetDisplayMode => structReturned rt .D3DDISPLAYMODE rt.hresult false
  | .GetDisplayModeEx => modeExReturned rt false
  | .surface f lockRect => surfaceReturned rt (f.hresult rt) lockRect
  | .Query9_GetData pDataNull dwSize => some ⟨rt.hresult,
      if SUCCEEDED rt.hresult ∧ 0 < dwSize.toNat ∧ pDataNull = false then
        [(List.range dwSize.toNat).map rt.queryData]
      else []⟩
  | .Module_GetAdapterCount => some ⟨rt.number, []⟩
  | .Module_GetAdapterIdentifier => structReturned rt .D3DADAPTER_IDENTIFIER9 rt.hresult false
  | .Module_GetAdapterModeCount => some ⟨rt.number, []⟩
  | .Module_EnumAdapterModes pModeNull => structReturned rt .D3DDISPLAYMODE rt.hresult pModeNull
  | .Module_GetAdapterDisplayMode pModeNull =>
      structReturned rt .D3DDISPLAYMODE rt.hresult pModeNull
  | .Module_CheckDeviceMultiSampleType pQualityLevelsNull =>
      some ⟨rt.hresult, if pQualityLevelsNull then [] else [wordBytes rt.number]⟩
  | .Module_GetDeviceCaps => structReturned rt .D3DCAPS9 rt.hresult false
  | .Module_GetAdapterMonitor => some ⟨rt.number, []⟩
  | .Module_GetAdapterModeCountEx => some ⟨rt.number, []⟩
  | .Module_EnumAdapterModesEx => structReturned rt .D3DDISPLAYMODEEX rt.hresult false
  | .Module_GetAdapterDisplayModeEx pRotationNull => modeExReturned rt pRotationNull
  | .Module_GetAdapterLUID => structReturned rt .LUID D3DERR_INVALIDCALL false

/-- The server sends data of a query, and the function does not pull them. -/
def DropsData (rt : Runtime) : AnsweredCall → Prop
  | .Query9_GetData pDataNull dwSize =>
      SUCCEEDED rt.hresult ∧ 0 < dwSize.toNat ∧ pDataNull = true
  | _ => False

end AnsweredCall

/-! ### A function pulls what was pushed -/

section Rules

variable {α : Type} {mem : Memory} {e : Nat} {ds : List Datum} {b : α}

theorem Reads.copy {size : Nat} {f : Nat × List Byte → PullM m_size α} {bytes : List Byte}
    (hpos : 0 < bytes.length) (hle : size ≤ bytes.length)
    (h : Reads mem e (f (bytes.length, bytes.take size)) ds b) :
    Reads mem e (copyData size >>= f) (.obj bytes :: ds) b := by
  rintro m_pos ⟨⟨hsize, hbytes⟩, hrest⟩
  have hchunk : chunkSize bytes.length ≠ 0 := by
    unfold chunkSize
    omega
  have hcopy : (copyData size : PullM m_size _) mem m_pos =
      ((bytes.length, bytes.take size), pullPos m_size m_pos (.obj bytes.length)) := by
    unfold copyData
    dsimp only
    rw [hsize, if_neg hchunk]
    refine Prod.ext (Prod.ext rfl (List.ext_getElem ?_ fun i hi hi' => ?_)) rfl
    · simp [hle]
    · have hlt : i < size := by simpa using hi
      rw [List.getElem_map, List.getElem_range, List.getElem_take]
      exact hbytes i (hlt.trans_le hle)
  change f ((copyData size : PullM m_size _) mem m_pos).1 mem _ = (b, e)
  rw [hcopy]
  exact h _ hrest

/-- The size of an object that is null is pulled like any other. -/
theorem Reads.copy_null {size : Nat} {f : Nat × List Byte → PullM m_size α}
    (h : Reads mem e (f (0, List.replicate size 0)) ds b) :
    Reads mem e (copyData size >>= f) (.obj [] :: ds) b := by
  rintro m_pos ⟨⟨hsize, -⟩, hrest⟩
  have hcopy : (copyData size : PullM m_size _) mem m_pos =
      ((0, List.replicate size 0), pullPos m_size m_pos (.obj 0)) := by
    unfold copyData
    rw [hsize]
    rfl
  change f ((copyData size : PullM m_size _) mem m_pos).1 mem _ = (b, e)
  rw [hcopy]
  exact h _ hrest

end Rules

theorem checkLen_self (expected : Nat) (hresult : Word) :
    checkLen expected expected hresult = hresult :=
  if_neg fun h => h.1 rfl

section Reads

variable (mem : Memory) (e : Nat) (rt : Runtime)

theorem reads_word (value : Word) :
    Reads mem e (readWord : PullM m_size _) [.word value] (some ⟨value, []⟩) :=
  Reads.word (Reads.pure _)

theorem reads_struct (t : OutType) (expected : Nat) (pointerNull : Bool) :
    Reads mem e (readStruct t expected pointerNull : PullM m_size _) (dataOf (sendStructs rt [t]))
      (structReturned rt t (checkLen t.serverSize expected rt.hresult) pointerNull) := by
  have hlen := (rt.out t).length
  unfold sendStructs structReturned
  refine Reads.word ?_
  by_cases hr : SUCCEEDED rt.hresult
  · simp only [if_pos hr]
    refine Reads.copy (hlen.symm ▸ t.serverSize_pos) (hlen.symm ▸ t.clientSize_le) ?_
    rw [hlen]
    exact Reads.pure _
  · simp only [if_neg hr]
    exact Reads.pure _

/-- The server's rotation is no object where the client's pointer was null. -/
theorem reads_modeEx (pRotationNull : Bool) :
    Reads mem e (readModeEx pRotationNull : PullM m_size _)
      (dataOf ((AnsweredCall.Module_GetAdapterDisplayModeEx pRotationNull).respond rt))
      (modeExReturned rt pRotationNull) := by
  have hmode : (rt.out .D3DDISPLAYMODEEX).bytes.length = OutType.D3DDISPLAYMODEEX.clientSize :=
    (rt.out .D3DDISPLAYMODEEX).length
  have hrotation : (rt.out .D3DDISPLAYROTATION).bytes.length =
      OutType.D3DDISPLAYROTATION.clientSize := (rt.out .D3DDISPLAYROTATION).length
  unfold modeExReturned
  cases pRotationNull with
  | false =>
      refine Reads.word ?_
      by_cases hr : SUCCEEDED rt.hresult
      · simp only [if_pos hr]
        refine Reads.copy (hmode.symm ▸ by decide) hmode.ge ?_
        refine Reads.copy (hrotation.symm ▸ by decide) hrotation.ge ?_
        rw [List.take_of_length_le hmode.le, List.take_of_length_le hrotation.le]
        simp only [hmode, hrotation, checkLen_self]
        exact Reads.pure _
      · simp only [if_neg hr]
        exact Reads.pure _
  | true =>
      refine Reads.word ?_
      by_cases hr : SUCCEEDED rt.hresult
      · simp only [if_pos hr]
        exact Reads.copy (hmode.symm ▸ by decide) hmode.ge (Reads.copy_null (Reads.pure _))
      · simp only [if_neg hr]
        exact Reads.pure _

theorem reads_surface (hresult lockRect : Word) :
    Reads mem e (copyServerSurfaceRawData lockRect : PullM m_size _)
      (dataOf (ReturnSurfaceDataToClient rt hresult)) (surfaceReturned rt hresult lockRect) := by
  unfold ReturnSurfaceDataToClient surfaceReturned
  by_cases hr : SUCCEEDED hresult
  · by_cases hdesc : SUCCEEDED rt.descResult
    · by_cases hlock : SUCCEEDED rt.lockResult
      · simp only [hr, hdesc, hlock, not_true_eq_false, if_false]
        refine Reads.word (Reads.ite_pos hlock ?_)
        exact Reads.word (Reads.word (Reads.word (Reads.bytes (Reads.pure _))))
      · simp only [hr, hdesc, hlock, not_true_eq_false, not_false_eq_true, if_false, if_true]
        exact Reads.word (Reads.ite_neg hlock (Reads.pure _))
    · simp only [hr, hdesc, not_true_eq_false, not_false_eq_true, if_false, if_true]
      exact Reads.word (Reads.ite_neg hdesc (Reads.pure _))
  · simp only [hr, not_false_eq_true, if_true]
    exact Reads.word (Reads.ite_neg hr (Reads.pure _))

theorem reads_query (pDataNull : Bool) (dwSize : Word)
    (h : ¬(AnsweredCall.Query9_GetData pDataNull dwSize).DropsData rt) :
    Reads mem e (readQuery pDataNull dwSize : PullM m_size _)
      (dataOf ((AnsweredCall.Query9_GetData pDataNull dwSize).respond rt))
      ((AnsweredCall.Query9_GetData pDataNull dwSize).returned rt) := by
  unfold AnsweredCall.returned
  refine Reads.word ?_
  by_cases hsent : SUCCEEDED rt.hresult ∧ 0 < dwSize.toNat
  · have hnull : pDataNull = false := by
      cases pDataNull with
      | false => rfl
      | true => exact absurd ⟨hsent.1, hsent.2, rfl⟩ h
    have hread : SUCCEEDED rt.hresult ∧ 0 < dwSize.toNat ∧ pDataNull = false :=
      ⟨hsent.1, hsent.2, hnull⟩
    -- All the bytes that the server has are pushed.
    let data : Obj dwSize.toNat :=
      { bytes := (List.range dwSize.toNat).map rt.queryData
        length := .inr (by simp)
        lt_word := by simpa using dwSize.isLt }
    have hdata : data.bytes.take data.bytes.length = data.bytes := List.take_length
    simp only [if_pos hsent, if_pos hread]
    have hreads : Reads mem e (getObj dwSize.toNat >>= fun p =>
          pure (some (⟨rt.hresult, [p.bytes]⟩ : Returned)) : PullM m_size _)
        [.obj (data.bytes.take data.bytes.length)] (some ⟨rt.hresult, [data.bytes]⟩) :=
      Reads.obj hdata (Reads.pure _)
    rw [hdata] at hreads
    exact hreads
  · have hread : ¬(SUCCEEDED rt.hresult ∧ 0 < dwSize.toNat ∧ pDataNull = false) :=
      fun hread => hsent ⟨hread.1, hread.2.1⟩
    simp only [if_neg hsent, if_neg hread]
    exact Reads.pure _

/-- **A function pulls its response**, all of it and no more, unless it drops the data of a query. -/
theorem AnsweredCall.reads (c : AnsweredCall) (h : ¬c.DropsData rt) :
    Reads mem e (c.receive : PullM m_size _) (dataOf (c.respond rt)) (c.returned rt) := by
  have hstruct : ∀ (t : OutType) (pointerNull : Bool),
      Reads mem e (readStruct t t.serverSize pointerNull : PullM m_size _)
        (dataOf (sendStructs rt [t])) (structReturned rt t rt.hresult pointerNull) := by
    intro t pointerNull
    have hreads : Reads mem e (readStruct t t.serverSize pointerNull : PullM m_size _) _ _ :=
      reads_struct mem e rt t t.serverSize pointerNull
    rwa [checkLen_self] at hreads
  cases c
  case GetDisplayModeEx => exact reads_modeEx mem e rt false
  case surface f lockRect => exact reads_surface mem e rt (f.hresult rt) lockRect
  case Query9_GetData pDataNull dwSize => exact reads_query mem e rt pDataNull dwSize h
  case Module_CheckDeviceMultiSampleType pQualityLevelsNull =>
    exact Reads.word (Reads.word (Reads.pure _))
  case Module_GetAdapterDisplayModeEx pRotationNull => exact reads_modeEx mem e rt pRotationNull
  case Module_GetAdapterLUID => exact reads_struct mem e rt .LUID 4 false
  -- The others have a word, or an `HRESULT` and one structure.
  all_goals first
    | exact reads_word mem e _
    | exact hstruct _ _

end Reads

/-! ### Runs of calls -/

/-- The data ring from the server to the client of one bridge. -/
structure ResponseRing where
  mem : Memory
  serverPos : Nat
  clientPos : Nat

/-- What the client sees of a response: the `dataOffset` of the header that it pops, its own position
in the ring at that moment and at the end, and what the function returns. -/
structure Answer where
  dataOffset : Nat
  posAtPop : Nat
  posAtEnd : Nat
  returned : Option Returned

/-- The server pushes the response and, behind it, its header; the client pulls and pops. -/
def ResponseRing.answer (m_size : Nat) (r : ResponseRing) (c : AnsweredCall) (rt : Runtime) :
    Answer :=
  let sent := store m_size r.mem r.serverPos (c.respond rt)
  let pulled := (c.receive : PullM m_size _) sent.1 r.clientPos
  { dataOffset := sent.2
    posAtPop := if c.popsFirst then r.clientPos else pulled.2
    posAtEnd := pulled.2
    returned := pulled.1 }

/-- The ring behind a response. -/
def ResponseRing.next (m_size : Nat) (r : ResponseRing) (c : AnsweredCall) (rt : Runtime) :
    ResponseRing where
  mem := (store m_size r.mem r.serverPos (c.respond rt)).1
  serverPos := (r.answer m_size c rt).dataOffset
  clientPos := (r.answer m_size c rt).posAtEnd

/-- The size of an object goes into the ring and into a word. -/
def fitsRing (m_size : Nat) : Push → Bool
  | .obj bytes => decide (chunkSize bytes.length < m_size ∧ bytes.length < 2 ^ 32)
  | _ => true

theorem fitsLap_iff {a : Nat} {ps : List Push} :
    FitsLap m_size a ps ↔ (∀ p ∈ ps, fitsRing m_size p = true) ∧
      pullsAbs m_size a ((dataOf ps).map Datum.pull) ≤ a + m_size := by
  constructor
  · rintro ⟨hobj, hlap⟩
    refine ⟨fun p hp => ?_, hlap⟩
    cases p with
    | word w => rfl
    | many ws => rfl
    | obj bytes => exact decide_eq_true (hobj bytes hp)
  · rintro ⟨hobj, hlap⟩
    exact ⟨fun bytes hb => of_decide_eq_true (hobj _ hb), hlap⟩

instance {a : Nat} {ps : List Push} : Decidable (FitsLap m_size a ps) :=
  decidable_of_iff _ fitsLap_iff.symm

/-- One call over its bridge.  The server ends where the response does not fit the ring, and the
client where it writes through a null pointer. -/
def callStep (m_size : BridgeId → Nat) (s : BridgeId → ResponseRing) (call : AnsweredCall × Runtime) :
    Option (BridgeId → ResponseRing) :=
  let bridge := call.1.bridge
  if FitsLap (m_size bridge) (s bridge).serverPos (call.1.respond call.2) then
    ((s bridge).answer (m_size bridge) call.1 call.2).returned.map fun _ =>
      Function.update s bridge ((s bridge).next (m_size bridge) call.1 call.2)
  else none

/-- Two bridges over which nothing has been answered. -/
def ResponseRing.start (mem : Memory) : BridgeId → ResponseRing := fun _ => ⟨mem, 0, 0⟩

/-- The client is behind the last response in the ring. -/
def ResponseRing.InStep (m_size : Nat) (r : ResponseRing) : Prop :=
  r.serverPos < m_size ∧ r.clientPos = r.serverPos

/-- The answer that a call has to have: it is read from its first word on, and the client is at the
end of it when it pops. -/
def ResponseRing.Agrees (m_size : Nat) (r : ResponseRing) (c : AnsweredCall) (rt : Runtime) : Prop :=
  (r.answer m_size c rt).returned = c.returned rt ∧
    (r.answer m_size c rt).posAtEnd = (r.answer m_size c rt).dataOffset ∧
    (c.popsFirst = false → (r.answer m_size c rt).posAtPop = (r.answer m_size c rt).dataOffset)

theorem fitsLap_pos_lt {a : Nat} {ps : List Push} (h : FitsLap m_size a ps) (hn : 0 < m_size)
    (mem : Memory) : (store m_size mem (a % m_size) ps).2 < m_size := by
  rw [store_data hn mem a ps fun bytes hb => (h.obj bytes hb).1, ← dataOf,
    store_data_pos hn (fun size hs => (h.data size hs).1) mem a]
  exact Nat.mod_lt _ hn

namespace ResponseRing

variable {r : ResponseRing} {c : AnsweredCall} {rt : Runtime}

/-- One call of a client that is in step. -/
theorem InStep.agrees (h : r.InStep m_size) (hfit : FitsLap m_size r.serverPos (c.respond rt))
    (hc : ¬c.DropsData rt) : r.Agrees m_size c rt ∧ (r.next m_size c rt).InStep m_size := by
  obtain ⟨mem, serverPos, clientPos⟩ := r
  obtain ⟨hlt, rfl⟩ : serverPos < m_size ∧ clientPos = serverPos := h
  have hn := Nat.zero_lt_of_lt hlt
  have hmod := Nat.mod_eq_of_lt hlt
  have hrun := Reads.run hn mem (c.reads _ _ rt hc) hfit
  have hsent := fitsLap_pos_lt hfit hn mem
  rw [hmod] at hrun hsent
  have hend := congrArg Prod.snd hrun
  refine ⟨⟨congrArg Prod.fst hrun, hend, fun hpop => ?_⟩, hsent, hend⟩
  show (if c.popsFirst then _ else _) = _
  rw [hpop]
  exact hend

/-- **A query whose data nobody wants leaves them in the ring**: the client ends at their size, short of
the header's `dataOffset`. -/
theorem InStep.drops_data (h : r.InStep m_size) (hfit : FitsLap m_size r.serverPos (c.respond rt))
    (hc : c.DropsData rt) :
    (r.answer m_size c rt).posAtEnd ≠ (r.answer m_size c rt).dataOffset := by
  obtain ⟨mem, serverPos, clientPos⟩ := r
  obtain ⟨hlt, rfl⟩ : serverPos < m_size ∧ clientPos = serverPos := h
  have hn := Nat.zero_lt_of_lt hlt
  have hmod := Nat.mod_eq_of_lt hlt
  cases c
  case Query9_GetData pDataNull dwSize =>
    obtain ⟨hr, hsize, rfl⟩ := hc
    have hdata : (AnsweredCall.Query9_GetData true dwSize).respond rt =
        [.word rt.hresult, .obj ((List.range dwSize.toNat).map rt.queryData)] :=
      congrArg (Push.word rt.hresult :: ·) (if_pos ⟨hr, hsize⟩)
    rw [hdata] at hfit
    -- The function is behind the `HRESULT`, the header behind the data.
    have hend : ∀ mem', ((readQuery true dwSize : PullM m_size _) mem' clientPos).2 =
        (clientPos + 1) % m_size := by
      intro mem'
      rw [← pop_mod hn clientPos, hmod]
      show ((if _ then _ else _ : PullM m_size (Option Returned)) mem' (pop m_size clientPos)).2 = _
      rw [if_neg (by simp)]
      rfl
    have hoffset := store_data_pos hn (fun size hs => (hfit.data size hs).1) mem clientPos
    rw [hmod] at hoffset
    have hbehind := lt_pullAbs hn (clientPos + 1)
      (.obj ((List.range dwSize.toNat).map rt.queryData).length)
    have hlap : pullAbs m_size (clientPos + 1)
        (.obj ((List.range dwSize.toNat).map rt.queryData).length) ≤ clientPos + m_size := hfit.lap
    have hwindow : pullAbs m_size (clientPos + 1)
        (.obj ((List.range dwSize.toNat).map rt.queryData).length) < clientPos + 1 + m_size := by
      omega
    intro heq
    have hoffset' := (congrArg (fun ps => (store m_size mem clientPos ps).2) hdata).trans hoffset
    exact hbehind.ne ((Ring.mod_eq_iff hbehind.le hwindow).mp
      (((hend _).symm.trans heq).trans hoffset'))
  all_goals exact hc.elim

/-- What a call does not go over stays. -/
theorem update_inStep {m_size : BridgeId → Nat} {s : BridgeId → ResponseRing}
    (hs : ∀ b, (s b).InStep (m_size b)) {bridge : BridgeId} (h : r.InStep (m_size bridge)) :
    ∀ b, (Function.update s bridge r b).InStep (m_size b) := by
  intro b
  by_cases hb : b = bridge
  · subst hb
    rw [Function.update_self]
    exact h
  · rw [Function.update_of_ne hb]
    exact hs b

end ResponseRing

theorem inStep_step {m_size : BridgeId → Nat} {s t : BridgeId → ResponseRing}
    {call : AnsweredCall × Runtime} (hs : ∀ b, (s b).InStep (m_size b))
    (hstep : callStep m_size s call = some t) (hcall : ¬call.1.DropsData call.2) :
    ∀ b, (t b).InStep (m_size b) := by
  unfold callStep at hstep
  dsimp only at hstep
  split at hstep
  case isTrue hfit =>
    obtain ⟨-, -, rfl⟩ := Option.map_eq_some_iff.mp hstep
    exact ResponseRing.update_inStep hs ((hs call.1.bridge).agrees hfit hcall).2
  case isFalse => cases hstep

theorem inStep_run {m_size : BridgeId → Nat} {s t : BridgeId → ResponseRing}
    {calls : List (AnsweredCall × Runtime)} (hs : ∀ b, (s b).InStep (m_size b))
    (hrun : run (callStep m_size) s calls = some t)
    (hcalls : ∀ call ∈ calls, ¬call.1.DropsData call.2) : ∀ b, (t b).InStep (m_size b) := by
  induction calls generalizing s with
  | nil =>
      cases hrun
      exact hs
  | cons call calls ih =>
      obtain ⟨s₁, hstep, hrest⟩ := run_cons.mp hrun
      have hs₁ := inStep_step hs hstep (hcalls call List.mem_cons_self)
      exact ih hs₁ hrest fun call' hcall' => hcalls call' (List.mem_cons_of_mem _ hcall')

/-- **Response payloads agree.**  After every run of calls over two rings, none of which has dropped
the data of a query, the next call is answered from the first word of its response, and ends
behind the last one; all calls but the one that creates the device are there when they pop. -/
theorem responses_agree {m_size : BridgeId → Nat} (hsize : ∀ b, 0 < m_size b) {mem : Memory}
    {s : BridgeId → ResponseRing} {calls : List (AnsweredCall × Runtime)}
    (hrun : run (callStep m_size) (.start mem) calls = some s)
    (hcalls : ∀ call ∈ calls, ¬call.1.DropsData call.2) {c : AnsweredCall} {rt : Runtime}
    (hfit : FitsLap (m_size c.bridge) (s c.bridge).serverPos (c.respond rt))
    (hc : ¬c.DropsData rt) : (s c.bridge).Agrees (m_size c.bridge) c rt :=
  ((inStep_run (fun b => ⟨hsize b, rfl⟩) hrun hcalls c.bridge).agrees hfit hc).1

/-- A runtime that succeeds with zeros. -/
def Runtime.zeros : Runtime where
  hresult := S_OK
  number := 0
  out t := ⟨List.replicate t.serverSize 0, List.length_replicate⟩
  queryData _ := 0
  descResult := S_OK
  lockResult := S_OK
  width := 1
  height := 1
  format := 22
  pixels := [0, 0, 0, 0, 0, 0, 0, 0]

/-- A device is created, its display mode asked for, and then the device reads a query. -/
theorem responses_agree_query : ∃ s,
    run (callStep fun _ => 32) (.start fun _ => 0)
      [(.CreateDevice false, .zeros), (.GetDisplayMode, .zeros)] = some s ∧
    (s .Device).Agrees 32 (.Query9_GetData false 4) .zeros := by
  have hrun : ∃ s, run (callStep fun _ => 32) (.start fun _ => 0)
      [(.CreateDevice false, .zeros), (.GetDisplayMode, .zeros)] = some s ∧
      FitsLap 32 (s .Device).serverPos
        (AnsweredCall.respond .zeros (.Query9_GetData false 4)) :=
    ⟨_, rfl, by decide⟩
  obtain ⟨s, hrun, hfit⟩ := hrun
  exact ⟨s, hrun, responses_agree (fun _ => by decide) hrun (by simp [AnsweredCall.DropsData])
    hfit (by simp [AnsweredCall.DropsData])⟩

/-- `CreateDevice` is one word short of its response when it pops the header. -/
theorem create_device_pops_first :
    ¬ ∀ (m_size : Nat) (mem : Memory) (c : AnsweredCall) (rt : Runtime),
      FitsLap m_size 0 (c.respond rt) →
        (ResponseRing.answer m_size ⟨mem, 0, 0⟩ c rt).posAtPop =
          (ResponseRing.answer m_size ⟨mem, 0, 0⟩ c rt).dataOffset := by
  intro h
  have hpop := h 32 (fun _ => 0) (.CreateDevice false) .zeros (by decide)
  exact absurd hpop (by decide)

end RemixBridge
