import RemixBridge.Calls.Message

/-!
# Calls — ResourceCall

The commands of textures, buffers, surfaces, volumes, swap chains, queries and the shared heap,
other than those without data: what the client pushes (`message`), what the server's switch pulls
(`process`), and which calls come over (`delivers_iff`).  The object itself goes in the header.
-/

namespace RemixBridge

open DataRing

/-- `FlagBits`. -/
def DataInSharedHeap : Nat := 0b00000001

def DataIsReserved : Nat := 0b00000010

def IsDataInSharedHeap (flags : Nat) : Bool := (flags &&& DataInSharedHeap) != 0

def IsDataReserved (flags : Nat) : Bool := (flags &&& DataIsReserved) != 0

/-- Where the server finds the `size` bytes of an unlocked buffer: in the shared heap, at a place
in the channel reserved before, or with the command. -/
inductive BufferData (size : Nat) where
  | sharedHeap (bufferId : Word)
  | reserved (dataOffset : Word)
  | bytes (data : Obj size)

/-- Where the server finds the rows of an unlocked surface. -/
inductive SurfaceData where
  | sharedHeap (bufId : Word)
  | blob (data : List Byte)

/-- `sizeof(RGNDATA)`: its header and the first word of its rectangles. -/
def sizeofRGNDATA : Nat := 36

/-- The calls, with what each is called with. -/
inductive ResourceCall where
  | Texture9_GetLevelDesc (pDesc : Obj (sizeof .D3DSURFACE_DESC)) (Level : Word)
  | Texture9_GetSurfaceLevel (Level id : Word)
  | Texture9_AddDirtyRect (pDirtyRect : Obj (sizeof .RECT))
  | VolumeTexture9_GetLevelDesc (pDesc : Obj (sizeof .D3DVOLUME_DESC)) (Level : Word)
  | VolumeTexture9_GetVolumeLevel (Level id : Word)
  | CubeTexture9_GetLevelDesc (pDesc : Obj (sizeof .D3DSURFACE_DESC)) (Level : Word)
  | CubeTexture9_GetCubeMapSurface (FaceType Level id : Word)
  | CubeTexture9_AddDirtyRect (FaceType : Word) (pDirtyRect : Obj (sizeof .RECT))
  | BaseTexture9_SetLOD (LODNew : Word)
  | BaseTexture9_SetAutoGenFilterType (FilterType : Word)
  | Resource9_SetPriority (PriorityNew : Word)
  | VertexBuffer9_GetDesc (pDesc : Obj (sizeof .D3DVERTEXBUFFER_DESC))
  | IndexBuffer9_GetDesc (pDesc : Obj (sizeof .D3DINDEXBUFFER_DESC))
  | Surface9_GetDesc (pDesc : Obj (sizeof .D3DSURFACE_DESC))
  | Volume9_UnlockBox (pBox : Obj (sizeof .D3DBOX)) (Flags bytesPerPixel width height depth : Word)
      (data : List Byte)
  | SwapChain9_GetFrontBufferData (pDestSurface : Word)
  | SwapChain9_GetBackBuffer (iBackBuffer Type' id : Word)
  | Query9_Issue (dwIssueFlags : Word)
  | Query9_GetData (dwSize dwGetDataFlags : Word)
  | VolumeTexture9_AddDirtyBox (pBox : Obj (sizeof .D3DBOX))
  | Buffer9_Lock (bIsVertexBuffer : Bool) (data : List Byte)
  | Buffer9_Unlock (bIsVertexBuffer : Bool) (OffsetToLock SizeToLock Flags : Word)
      (data : BufferData SizeToLock.toNat)
  | Surface9_UnlockRect (pRect : Obj (sizeof .RECT)) (Flags Format Pitch : Word)
      (data : SurfaceData)
  | SwapChain9_Present (pSourceRect pDestRect : Obj (sizeof .RECT)) (hDestWindowOverride : Word)
      (pDirtyRegion : List Byte) (dwFlags : Word)
  | SharedHeap_Alloc (chunkId : Word)

/-- `LockCmd` and `UnlockCmd`. -/
def LockCmd (bIsVertexBuffer : Bool) : D3D9Command :=
  if bIsVertexBuffer then .IDirect3DVertexBuffer9_Lock else .IDirect3DIndexBuffer9_Lock

def UnlockCmd (bIsVertexBuffer : Bool) : D3D9Command :=
  if bIsVertexBuffer then .IDirect3DVertexBuffer9_Unlock else .IDirect3DIndexBuffer9_Unlock

def BufferData.flags {size : Nat} : BufferData size → Nat
  | .sharedHeap _ => DataInSharedHeap
  | .reserved _   => DataIsReserved
  | .bytes _      => 0

def BufferData.push {size : Nat} : BufferData size → Push
  | .sharedHeap bufferId => .word bufferId
  | .reserved dataOffset => .many [dataOffset]
  | .bytes data          => sendObj size data

/-- What the client sends for a call. -/
def ResourceCall.message : ResourceCall → Message
  | .Texture9_GetLevelDesc pDesc Level =>
      ⟨.IDirect3DTexture9_GetLevelDesc, [sendObj (sizeof .D3DSURFACE_DESC) pDesc, .word Level], 0⟩
  | .Texture9_GetSurfaceLevel Level id =>
      ⟨.IDirect3DTexture9_GetSurfaceLevel, [.word Level, .word id], 0⟩
  | .Texture9_AddDirtyRect pDirtyRect =>
      ⟨.IDirect3DTexture9_AddDirtyRect, [sendObj (sizeof .RECT) pDirtyRect], 0⟩
  | .VolumeTexture9_GetLevelDesc pDesc Level =>
      ⟨.IDirect3DVolumeTexture9_GetLevelDesc,
        [sendObj (sizeof .D3DVOLUME_DESC) pDesc, .word Level], 0⟩
  | .VolumeTexture9_GetVolumeLevel Level id =>
      ⟨.IDirect3DVolumeTexture9_GetVolumeLevel, [.word Level, .word id], 0⟩
  | .CubeTexture9_GetLevelDesc pDesc Level =>
      ⟨.IDirect3DCubeTexture9_GetLevelDesc,
        [sendObj (sizeof .D3DSURFACE_DESC) pDesc, .word Level], 0⟩
  | .CubeTexture9_GetCubeMapSurface FaceType Level id =>
      ⟨.IDirect3DCubeTexture9_GetCubeMapSurface, [.many [FaceType, Level], .word id], 0⟩
  | .CubeTexture9_AddDirtyRect FaceType pDirtyRect =>
      ⟨.IDirect3DCubeTexture9_AddDirtyRect, [.word FaceType, sendObj (sizeof .RECT) pDirtyRect], 0⟩
  | .BaseTexture9_SetLOD LODNew => ⟨.IDirect3DBaseTexture9_SetLOD, [.word LODNew], 0⟩
  | .BaseTexture9_SetAutoGenFilterType FilterType =>
      ⟨.IDirect3DBaseTexture9_SetAutoGenFilterType, [.word FilterType], 0⟩
  | .Resource9_SetPriority PriorityNew => ⟨.IDirect3DResource9_SetPriority, [.word PriorityNew], 0⟩
  | .VertexBuffer9_GetDesc pDesc =>
      ⟨.IDirect3DVertexBuffer9_GetDesc, [sendObj (sizeof .D3DVERTEXBUFFER_DESC) pDesc], 0⟩
  | .IndexBuffer9_GetDesc pDesc =>
      ⟨.IDirect3DIndexBuffer9_GetDesc, [sendObj (sizeof .D3DINDEXBUFFER_DESC) pDesc], 0⟩
  | .Surface9_GetDesc pDesc =>
      ⟨.IDirect3DSurface9_GetDesc, [sendObj (sizeof .D3DSURFACE_DESC) pDesc], 0⟩
  | .Volume9_UnlockBox pBox Flags bytesPerPixel width height depth data =>
      ⟨.IDirect3DVolume9_UnlockBox,
        [sendObj (sizeof .D3DBOX) pBox, .word Flags, .many [bytesPerPixel, width, height, depth],
          .obj data], 0⟩
  | .SwapChain9_GetFrontBufferData pDestSurface =>
      ⟨.IDirect3DSwapChain9_GetFrontBufferData, [.word pDestSurface], 0⟩
  | .SwapChain9_GetBackBuffer iBackBuffer Type' id =>
      ⟨.IDirect3DSwapChain9_GetBackBuffer, [.word iBackBuffer, .word Type', .word id], 0⟩
  | .Query9_Issue dwIssueFlags => ⟨.IDirect3DQuery9_Issue, [.word dwIssueFlags], 0⟩
  | .Query9_GetData dwSize dwGetDataFlags =>
      ⟨.IDirect3DQuery9_GetData, [.word dwSize, .word dwGetDataFlags], 0⟩
  | .VolumeTexture9_AddDirtyBox pDirtyBox =>
      ⟨.IDirect3DVolumeTexture9_AddDirtyBox, [sendObj (sizeof .D3DBOX) pDirtyBox], 0⟩
  | .Buffer9_Lock bIsVertexBuffer data => ⟨LockCmd bIsVertexBuffer, [.obj data], 0⟩
  | .Buffer9_Unlock bIsVertexBuffer offset size flags data =>
      ⟨UnlockCmd bIsVertexBuffer, [.many [offset, size, flags], data.push], data.flags⟩
  | .Surface9_UnlockRect rect flags Format Pitch (.sharedHeap bufId) =>
      ⟨.IDirect3DSurface9_UnlockRect,
        [sendObj (sizeof .RECT) rect, .word flags, .word Format, .word Pitch, .word bufId],
        DataInSharedHeap⟩
  | .Surface9_UnlockRect rect flags Format rowSize (.blob data) =>
      ⟨.IDirect3DSurface9_UnlockRect,
        [sendObj (sizeof .RECT) rect, .word flags, .word Format, .word rowSize, .obj data], 0⟩
  | .SwapChain9_Present pSourceRect pDestRect hDestWindowOverride pDirtyRegion dwFlags =>
      ⟨.IDirect3DSwapChain9_Present,
        [sendObj (sizeof .RECT) pSourceRect, sendObj (sizeof .RECT) pDestRect,
          .word hDestWindowOverride, .obj (pDirtyRegion.take sizeofRGNDATA), .word dwFlags], 0⟩
  | .SharedHeap_Alloc chunkId => ⟨.Bridge_SharedHeap_Alloc, [.word chunkId], 0⟩

variable {m_size : Nat}

/-- The `Lock` cases of vertex and index buffers. -/
def pullLock (bIsVertexBuffer : Bool) : PullM m_size ResourceCall := do
  let data ← getBytes
  return .Buffer9_Lock bIsVertexBuffer data

/-- The `Unlock` cases of vertex and index buffers. -/
def pullUnlock (bIsVertexBuffer : Bool) (flags : Nat) : PullM m_size ResourceCall := do
  let OffsetToLock ← getData; let SizeToLock ← getData; let Flags ← getData
  if IsDataReserved flags then
    let DataOffset ← getData
    return .Buffer9_Unlock bIsVertexBuffer OffsetToLock SizeToLock Flags (.reserved DataOffset)
  else if IsDataInSharedHeap flags then
    let allocId ← getData
    return .Buffer9_Unlock bIsVertexBuffer OffsetToLock SizeToLock Flags (.sharedHeap allocId)
  else
    let data ← getObj SizeToLock.toNat
    return .Buffer9_Unlock bIsVertexBuffer OffsetToLock SizeToLock Flags (.bytes data)

/-- The `AddDirtyBox` case.  It pulls a level before the box. -/
def pullAddDirtyBox : PullM m_size ResourceCall := do
  let _Level ← getData
  let pBox ← getObj (sizeof .D3DBOX)
  return .VolumeTexture9_AddDirtyBox pBox

/-- What the server pulls for a command, and the call it makes. -/
def ResourceCall.process : D3D9Command → Nat → Option (PullM m_size ResourceCall)
  | .IDirect3DTexture9_GetLevelDesc, _ => some do
      let orig_desc ← getObj (sizeof .D3DSURFACE_DESC); let Level ← getData
      return .Texture9_GetLevelDesc orig_desc Level
  | .IDirect3DTexture9_GetSurfaceLevel, _ => some do
      let Level ← getData; let pSurfaceHandle ← getData
      return .Texture9_GetSurfaceLevel Level pSurfaceHandle
  | .IDirect3DTexture9_AddDirtyRect, _ => some do
      let pDirtyRect ← getObj (sizeof .RECT)
      return .Texture9_AddDirtyRect pDirtyRect
  | .IDirect3DVolumeTexture9_GetLevelDesc, _ => some do
      let orig_desc ← getObj (sizeof .D3DVOLUME_DESC); let Level ← getData
      return .VolumeTexture9_GetLevelDesc orig_desc Level
  | .IDirect3DVolumeTexture9_GetVolumeLevel, _ => some do
      let Level ← getData; let pVolumeLevelHandle ← getData
      return .VolumeTexture9_GetVolumeLevel Level pVolumeLevelHandle
  | .IDirect3DCubeTexture9_GetLevelDesc, _ => some do
      let orig_desc ← getObj (sizeof .D3DSURFACE_DESC); let Level ← getData
      return .CubeTexture9_GetLevelDesc orig_desc Level
  | .IDirect3DCubeTexture9_GetCubeMapSurface, _ => some do
      let FaceType ← getData; let Level ← getData; let pCubeMapSurfaceHandle ← getData
      return .CubeTexture9_GetCubeMapSurface FaceType Level pCubeMapSurfaceHandle
  | .IDirect3DCubeTexture9_AddDirtyRect, _ => some do
      let FaceType ← getData; let pDirtyRect ← getObj (sizeof .RECT)
      return .CubeTexture9_AddDirtyRect FaceType pDirtyRect
  | .IDirect3DBaseTexture9_SetLOD, _ => some do
      let LODNew ← getData
      return .BaseTexture9_SetLOD LODNew
  | .IDirect3DBaseTexture9_SetAutoGenFilterType, _ => some do
      let FilterType ← getData
      return .BaseTexture9_SetAutoGenFilterType FilterType
  | .IDirect3DResource9_SetPriority, _ => some do
      let PriorityNew ← getData
      return .Resource9_SetPriority PriorityNew
  | .IDirect3DVertexBuffer9_GetDesc, _ => some do
      let orig_desc ← getObj (sizeof .D3DVERTEXBUFFER_DESC)
      return .VertexBuffer9_GetDesc orig_desc
  | .IDirect3DIndexBuffer9_GetDesc, _ => some do
      let orig_desc ← getObj (sizeof .D3DINDEXBUFFER_DESC)
      return .IndexBuffer9_GetDesc orig_desc
  | .IDirect3DSurface9_GetDesc, _ => some do
      let orig_desc ← getObj (sizeof .D3DSURFACE_DESC)
      return .Surface9_GetDesc orig_desc
  | .IDirect3DVolume9_UnlockBox, _ => some do
      let pBox ← getObj (sizeof .D3DBOX); let Flags ← getData; let bytesPerPixel ← getData
      let width ← getData; let height ← getData; let depth ← getData; let data ← getBytes
      return .Volume9_UnlockBox pBox Flags bytesPerPixel width height depth data
  | .IDirect3DSwapChain9_GetFrontBufferData, _ => some do
      let pDestSurfaceHandle ← getData
      return .SwapChain9_GetFrontBufferData pDestSurfaceHandle
  | .IDirect3DSwapChain9_GetBackBuffer, _ => some do
      let iBackBuffer ← getData; let Type' ← getData; let pSurfaceHandle ← getData
      return .SwapChain9_GetBackBuffer iBackBuffer Type' pSurfaceHandle
  | .IDirect3DQuery9_Issue, _ => some do
      let dwIssueFlags ← getData
      return .Query9_Issue dwIssueFlags
  | .IDirect3DQuery9_GetData, _ => some do
      let dwSize ← getData; let dwGetDataFlags ← getData
      return .Query9_GetData dwSize dwGetDataFlags
  | .IDirect3DVolumeTexture9_AddDirtyBox, _ => some pullAddDirtyBox
  | .IDirect3DVertexBuffer9_Lock, _ => some (pullLock true)
  | .IDirect3DIndexBuffer9_Lock, _ => some (pullLock false)
  | .IDirect3DVertexBuffer9_Unlock, flags => some (pullUnlock true flags)
  | .IDirect3DIndexBuffer9_Unlock, flags => some (pullUnlock false flags)
  | .IDirect3DSurface9_UnlockRect, flags => some do
      let pRect ← getObj (sizeof .RECT); let Flags ← getData
      let dFormat ← getData; let IncomingPitch ← getData
      if IsDataInSharedHeap flags then
        let allocId ← getData
        return .Surface9_UnlockRect pRect Flags dFormat IncomingPitch (.sharedHeap allocId)
      else
        let pData ← getBytes
        return .Surface9_UnlockRect pRect Flags dFormat IncomingPitch (.blob pData)
  | .IDirect3DSwapChain9_Present, _ => some do
      let pSourceRect ← getObj (sizeof .RECT); let pDestRect ← getObj (sizeof .RECT)
      let hDestWindowOverride ← getData
      let pDirtyRegion ← getBytes
      let dwFlags ← getData
      return .SwapChain9_Present pSourceRect pDestRect hDestWindowOverride pDirtyRegion dwFlags
  | .Bridge_SharedHeap_Alloc, _ => some do
      let chunkId ← getData
      return .SharedHeap_Alloc chunkId
  | _, _ => none

def ResourceCall.switch : Switch ResourceCall := fun _ => process

/-! ### Which calls come over -/

/-- A dirty region is no longer than the structure; a dirty box never comes over. -/
def ResourceCall.Sound : ResourceCall → Prop
  | .VolumeTexture9_AddDirtyBox _ => False
  | .SwapChain9_Present _ _ _ pDirtyRegion _ => pDirtyRegion.length ≤ sizeofRGNDATA
  | _ => True

/-- The call that the server makes of a call other than `AddDirtyBox`. -/
def ResourceCall.pulled : ResourceCall → ResourceCall
  | .SwapChain9_Present pSourceRect pDestRect hDestWindowOverride pDirtyRegion dwFlags =>
      .SwapChain9_Present pSourceRect pDestRect hDestWindowOverride
        (pDirtyRegion.take sizeofRGNDATA) dwFlags
  | c => c

theorem ResourceCall.reads (mem : Memory) (e : Nat) (c : ResourceCall)
    (hc : ∀ pBox, c ≠ .VolumeTexture9_AddDirtyBox pBox) :
    ∃ p : PullM m_size ResourceCall, process c.message.command c.message.flags = some p ∧
      Reads mem e p (dataOf c.message.data) c.pulled := by
  have hheap : IsDataInSharedHeap DataInSharedHeap ∧ ¬ IsDataReserved DataInSharedHeap := by
    decide
  have hreserved : IsDataReserved DataIsReserved := by decide
  have hnone : ¬ IsDataInSharedHeap 0 ∧ ¬ IsDataReserved 0 := by decide
  cases c
  case VolumeTexture9_AddDirtyBox pBox => exact absurd rfl (hc pBox)
  case Volume9_UnlockBox pBox Flags bytesPerPixel width height depth data =>
    exact ⟨_, rfl, .obj (pBox.take_bytes (sizeof_mod _)) <| .word <| .word <| .word <| .word <|
      .word <| .bytes <| .pure _⟩
  case Buffer9_Lock bIsVertexBuffer data =>
    cases bIsVertexBuffer <;> exact ⟨_, rfl, .bytes <| .pure _⟩
  case Buffer9_Unlock bIsVertexBuffer OffsetToLock SizeToLock Flags data =>
    have hreads : Reads mem e (pullUnlock bIsVertexBuffer data.flags : PullM m_size _)
        (dataOf (message (.Buffer9_Unlock bIsVertexBuffer OffsetToLock SizeToLock Flags data)).data)
        (.Buffer9_Unlock bIsVertexBuffer OffsetToLock SizeToLock Flags data) := by
      refine .word <| .word <| .word <| ?_
      cases data with
      | sharedHeap bufferId =>
          exact .ite_neg hheap.2 <| .ite_pos hheap.1 <| .word <| .pure _
      | reserved dataOffset => exact .ite_pos hreserved <| .word <| .pure _
      | bytes data =>
          exact .ite_neg hnone.2 <| .ite_neg hnone.1 <|
            .obj (data.take_bytes (Nat.mod_eq_of_lt SizeToLock.isLt).symm) <| .pure _
    cases bIsVertexBuffer <;> exact ⟨_, rfl, hreads⟩
  case Surface9_UnlockRect pRect Flags Format Pitch data =>
    have hrect := pRect.take_bytes (sizeof_mod _)
    cases data with
    | sharedHeap bufId =>
        exact ⟨_, rfl, .obj hrect <| .word <| .word <| .word <| .ite_pos hheap.1 <| .word <|
          .pure _⟩
    | blob data =>
        exact ⟨_, rfl, .obj hrect <| .word <| .word <| .word <| .ite_neg hnone.1 <| .bytes <|
          .pure _⟩
  case SwapChain9_Present pSourceRect pDestRect hDestWindowOverride pDirtyRegion dwFlags =>
    exact ⟨_, rfl, .obj (pSourceRect.take_bytes (sizeof_mod _)) <|
      .obj (pDestRect.take_bytes (sizeof_mod _)) <| .word <| .bytes <| .word <| .pure _⟩
  -- The other calls are words and structures.
  all_goals
    refine ⟨_, rfl, ?_⟩
    repeat' first
      | exact Reads.pure _
      | apply Reads.word
      | apply Reads.obj (Obj.take_bytes _ (sizeof_mod _))

/-- The box that a call gives. -/
def ResourceCall.box : ResourceCall → List Byte
  | .VolumeTexture9_AddDirtyBox pBox => pBox.bytes
  | _ => []

/-- The server takes the box's size for the level, and the box's first word for its size: at the
end it is behind the client, or its box ends with what the ring held. -/
theorem ResourceCall.not_delivers_addDirtyBox (pBox : Obj (sizeof .D3DBOX)) :
    ¬ Delivers switch (message (.VolumeTexture9_AddDirtyBox pBox))
      (.VolumeTexture9_AddDirtyBox pBox) := by
  intro h
  have hdata : (message (.VolumeTexture9_AddDirtyBox pBox)).data = [.obj pBox.bytes] := by
    show [Push.obj (pBox.bytes.take _)] = _
    rw [pBox.take_bytes (sizeof_mod _)]
  have hspace : space [.obj pBox.bytes] = 1 + chunkSize pBox.bytes.length := rfl
  have hlt : ∀ bytes, Push.obj bytes ∈ [Push.obj pBox.bytes] → bytes.length < 2 ^ 32 := by
    intro bytes hb
    cases List.mem_singleton.mp hb
    exact pBox.lt_word
  have hpop : ∀ m_size m_pos, m_pos + 1 < m_size → pop m_size m_pos = m_pos + 1 :=
    fun m_size m_pos hm => if_pos hm
  -- What the server's program computes, from the first word of a ring.
  have hrun : ∀ m_size mem, 3 < m_size → space [.obj pBox.bytes] < m_size →
      ((getObj (sizeof .D3DBOX) : PullM m_size _) (store m_size mem 0 [.obj pBox.bytes]).1 1) =
        (pBox, space [.obj pBox.bytes]) := by
    intro m_size mem hm hroom
    obtain ⟨p, hp, hrun⟩ := h m_size m_size mem (Nat.zero_lt_of_lt hm) (by
      rw [hdata]
      exact FitsLap.of_room hroom hlt)
    cases hp
    rw [hdata, Nat.mod_self, store_pos_of_room hroom hlt] at hrun
    have hpos : pop m_size 0 = 1 := hpop _ _ (by omega)
    have hbox : ((getObj (sizeof .D3DBOX) : PullM m_size _)
        (store m_size mem 0 [.obj pBox.bytes]).1 (pop m_size 0)).1.bytes = pBox.bytes :=
      congrArg (fun r => r.1.box) hrun
    have hend : ((getObj (sizeof .D3DBOX) : PullM m_size _)
        (store m_size mem 0 [.obj pBox.bytes]).1 (pop m_size 0)).2 = space [.obj pBox.bytes] :=
      congrArg Prod.snd hrun
    rw [hpos] at hbox hend
    exact Prod.ext (Obj.ext hbox) hend
  rcases pBox.length with hnil | hlen
  · have hone : space [.obj pBox.bytes] = 1 := by
      rw [hspace, hnil]
      rfl
    have hroom : space [.obj pBox.bytes] < 8 := by omega
    have hword : (store 8 (fun _ => 0) 0 [.obj pBox.bytes]).1.word 1 =
        Memory.word (fun _ => 0) 1 :=
      Memory.word_congr fun i hi => store_of_room hroom hlt _ (by omega) (by omega)
    have hend := congrArg Prod.snd (hrun 8 (fun _ => 0) (by omega) hroom)
    rw [getObj_apply, hword, hone] at hend
    exact absurd (show pullPos 8 1 (.obj 0) = 1 from hend) (by decide)
  · have hlast : 23 < pBox.bytes.length := by
      rw [hlen]
      decide
    have hsize : space [.obj pBox.bytes] = 7 := by
      rw [hspace, hlen]
      rfl
    have hroom : space [.obj pBox.bytes] < 2 ^ 31 := by omega
    have hstart : ∀ w : Word, ensureSpace (2 ^ 31) 2 w.toNat = 2 := by
      intro w
      have := w.isLt
      exact if_neg (by unfold chunkSize; omega)
    have hbox := congrArg Prod.fst (hrun (2 ^ 31) (fun _ => ~~~ pBox.bytes[23]) (by omega) hroom)
    rw [getObj_apply, hpop _ _ (by omega), hstart] at hbox
    dsimp only at hbox
    split at hbox
    · rw [← hbox] at hlen
      cases hlen
    · have hbyte := congrArg (fun o => o.bytes[23]?) hbox
      have huntouched := store_of_room hroom hlt (fun _ => ~~~ pBox.bytes[23])
        (i := 4 * 2 + 23) (by omega) (by decide)
      rw [Memory.getElem?_obj _ _ (by decide) (by decide), huntouched,
        List.getElem?_eq_getElem hlast, Option.some_inj] at hbyte
      exact BitVec.ne_not_self (by decide) hbyte.symm

theorem ResourceCall.delivers_iff (c : ResourceCall) : Delivers switch c.message c ↔ c.Sound := by
  by_cases hbox : ∃ pBox, c = .VolumeTexture9_AddDirtyBox pBox
  · obtain ⟨pBox, rfl⟩ := hbox
    exact ⟨fun h => not_delivers_addDirtyBox pBox h, False.elim⟩
  · have hcall : Delivers switch c.message c.pulled := Delivers.of_reads fun m_size mem e =>
      c.reads mem e fun pBox hc => hbox ⟨pBox, hc⟩
    cases c
    case VolumeTexture9_AddDirtyBox pBox => exact absurd ⟨pBox, rfl⟩ hbox
    case SwapChain9_Present pSourceRect pDestRect hDestWindowOverride pDirtyRegion dwFlags =>
      constructor
      · intro h
        have heq := hcall.unique (fun bytes hb => ?_) h
        · injection heq with _ _ _ htake _
          exact (List.take_eq_self_iff _).mp htake
        · simp only [message, sendObj, List.mem_cons, List.not_mem_nil, reduceCtorEq,
            Push.obj.injEq, false_or, or_false] at hb
          rcases hb with rfl | rfl | rfl
          · exact pSourceRect.length_take_lt _
          · exact pDestRect.length_take_lt _
          · exact Nat.lt_of_le_of_lt (List.length_take_le _ _) (by decide)
      · intro hc
        rw [pulled, List.take_of_length_le hc] at hcall
        exact hcall
    all_goals exact iff_of_true hcall trivial

end RemixBridge
