import RemixBridge.Calls.Message

/-!
# Calls — PresentCall

The commands that carry presentation parameters.  A window handle is a word on the client and has
64 bits on the server, so the server builds its own structure from the client's words
(`getPresParamFromRaw`).

* `delivers_iff`: it gets the client's window only if `Windowed`, the word behind it, is 0.
-/

namespace RemixBridge

open DataRing

/-- `D3DPRESENT_PARAMETERS`, on a side with window handles `HWND`. -/
@[ext]
structure D3DPRESENT_PARAMETERS (HWND : Type) where
  BackBufferWidth : Word
  BackBufferHeight : Word
  BackBufferFormat : Word
  BackBufferCount : Word
  MultiSampleType : Word
  MultiSampleQuality : Word
  SwapEffect : Word
  hDeviceWindow : HWND
  Windowed : Word
  EnableAutoDepthStencil : Word
  AutoDepthStencilFormat : Word
  Flags : Word
  FullScreen_RefreshRateInHz : Word
  PresentationInterval : Word

/-- A window handle of the 64-bit server. -/
abbrev HWND64 := BitVec 64

/-- A word in memory, the low byte first. -/
def wordBytes (w : Word) : List Byte :=
  [.ofNat 8 w.toNat, .ofNat 8 (w.toNat / 2 ^ 8), .ofNat 8 (w.toNat / 2 ^ 16),
    .ofNat 8 (w.toNat / 2 ^ 24)]

/-- `*(raw + k)`, of words. -/
def rawWord (raw : List Byte) (k : Nat) : Word :=
  .ofNat 32 ((raw.getD (4 * k) 0).toNat + 2 ^ 8 * (raw.getD (4 * k + 1) 0).toNat +
    2 ^ 16 * (raw.getD (4 * k + 2) 0).toNat + 2 ^ 24 * (raw.getD (4 * k + 3) 0).toNat)

namespace D3DPRESENT_PARAMETERS

def words (p : D3DPRESENT_PARAMETERS Word) : List Word :=
  [p.BackBufferWidth, p.BackBufferHeight, p.BackBufferFormat, p.BackBufferCount,
    p.MultiSampleType, p.MultiSampleQuality, p.SwapEffect, p.hDeviceWindow, p.Windowed,
    p.EnableAutoDepthStencil, p.AutoDepthStencilFormat, p.Flags, p.FullScreen_RefreshRateInHz,
    p.PresentationInterval]

/-- The client's structure in its memory. -/
def bytes (p : D3DPRESENT_PARAMETERS Word) : List Byte := p.words.flatMap wordBytes

/-- The client's parameters, with the handle as the server has to see it. -/
def extend (p : D3DPRESENT_PARAMETERS Word) : D3DPRESENT_PARAMETERS HWND64 :=
  { p with hDeviceWindow := p.hDeviceWindow.setWidth 64 }

end D3DPRESENT_PARAMETERS

/-- `getPresParamFromRaw`.  The handle is read with the 8 bytes of an `HWND` of the server. -/
def getPresParamFromRaw (raw : List Byte) : D3DPRESENT_PARAMETERS HWND64 where
  BackBufferWidth := rawWord raw 0
  BackBufferHeight := rawWord raw 1
  BackBufferFormat := rawWord raw 2
  BackBufferCount := rawWord raw 3
  MultiSampleType := rawWord raw 4
  MultiSampleQuality := rawWord raw 5
  SwapEffect := rawWord raw 6
  hDeviceWindow := rawWord raw 8 ++ rawWord raw 7
  Windowed := rawWord raw 8
  EnableAutoDepthStencil := rawWord raw 9
  AutoDepthStencilFormat := rawWord raw 10
  Flags := rawWord raw 11
  FullScreen_RefreshRateInHz := rawWord raw 12
  PresentationInterval := rawWord raw 13

/-- The calls, with the parameters of a side. -/
inductive PresentCall (HWND : Type) where
  | CreateDevice (Adapter DeviceType hFocusWindow BehaviorFlags : Word)
      (PresentationParameters : D3DPRESENT_PARAMETERS HWND)
  | CreateDeviceEx (Adapter DeviceType hFocusWindow BehaviorFlags : Word)
      (PresentationParameters : D3DPRESENT_PARAMETERS HWND)
      (pFullscreenDisplayMode : Obj (sizeof .D3DDISPLAYMODEEX))
  | CreateAdditionalSwapChain (PresentationParameters : D3DPRESENT_PARAMETERS HWND) (id : Word)
  | Reset (PresentationParameters : D3DPRESENT_PARAMETERS HWND)
  | ResetEx (PresentationParameters : D3DPRESENT_PARAMETERS HWND)
      (pFullscreenDisplayMode : Obj (sizeof .D3DDISPLAYMODEEX))

namespace PresentCall

variable {HWND : Type}

def params : PresentCall HWND → D3DPRESENT_PARAMETERS HWND
  | .CreateDevice _ _ _ _ p | .CreateDeviceEx _ _ _ _ p _ | .CreateAdditionalSwapChain p _
  | .Reset p | .ResetEx p _ => p

/-- The same call with other parameters. -/
def withParams {HWND' : Type} (p : D3DPRESENT_PARAMETERS HWND') : PresentCall HWND → PresentCall HWND'
  | .CreateDevice Adapter DeviceType hFocusWindow BehaviorFlags _ =>
      .CreateDevice Adapter DeviceType hFocusWindow BehaviorFlags p
  | .CreateDeviceEx Adapter DeviceType hFocusWindow BehaviorFlags _ mode =>
      .CreateDeviceEx Adapter DeviceType hFocusWindow BehaviorFlags p mode
  | .CreateAdditionalSwapChain _ id => .CreateAdditionalSwapChain p id
  | .Reset _ => .Reset p
  | .ResetEx _ mode => .ResetEx p mode

/-- The call that the server has to make. -/
def received (c : PresentCall Word) : PresentCall HWND64 := c.withParams c.params.extend

/-- What the client sends for a call. -/
def message : PresentCall Word → Message
  | .CreateDevice AdapterOrdinal DeviceType hFocusWindow BehaviorFlags m_presParams =>
      ⟨.IDirect3D9Ex_CreateDevice,
        [.many [AdapterOrdinal, DeviceType, hFocusWindow, BehaviorFlags],
          .obj m_presParams.bytes], 0⟩
  | .CreateDeviceEx AdapterOrdinal DeviceType hFocusWindow BehaviorFlags m_presParams
      pFullscreenDisplayMode =>
      ⟨.IDirect3D9Ex_CreateDeviceEx,
        [.many [AdapterOrdinal, DeviceType, hFocusWindow, BehaviorFlags],
          sendObj (sizeof .D3DDISPLAYMODEEX) pFullscreenDisplayMode, .obj m_presParams.bytes], 0⟩
  | .CreateAdditionalSwapChain presentationParameters id =>
      ⟨.IDirect3DDevice9Ex_CreateAdditionalSwapChain,
        [.word id, .obj presentationParameters.bytes], 0⟩
  | .Reset presParam => ⟨.IDirect3DDevice9Ex_Reset, [.obj presParam.bytes], 0⟩
  | .ResetEx presParam pFullscreenDisplayMode =>
      ⟨.IDirect3DDevice9Ex_ResetEx,
        [.obj presParam.bytes, sendObj (sizeof .D3DDISPLAYMODEEX) pFullscreenDisplayMode], 0⟩

variable {m_size : Nat}

/-- What the server pulls for a command, and the call it makes. -/
def process : D3D9Command → Option (PullM m_size (PresentCall HWND64))
  | .IDirect3D9Ex_CreateDeviceEx => some do
      let Adapter ← getData; let DeviceType ← getData
      let hFocusWindow ← getData; let BehaviorFlags ← getData
      let pFullscreenDisplayMode ← getObj (sizeof .D3DDISPLAYMODEEX)
      let rawPresentationParameters ← getBytes
      return .CreateDeviceEx Adapter DeviceType hFocusWindow BehaviorFlags
        (getPresParamFromRaw rawPresentationParameters) pFullscreenDisplayMode
  | .IDirect3D9Ex_CreateDevice => some do
      let Adapter ← getData; let DeviceType ← getData
      let hFocusWindow ← getData; let BehaviorFlags ← getData
      let rawPresentationParameters ← getBytes
      return .CreateDevice Adapter DeviceType hFocusWindow BehaviorFlags
        (getPresParamFromRaw rawPresentationParameters)
  | .IDirect3DDevice9Ex_CreateAdditionalSwapChain => some do
      let pHandle ← getData
      let rawPresentationParameters ← getBytes
      return .CreateAdditionalSwapChain (getPresParamFromRaw rawPresentationParameters) pHandle
  | .IDirect3DDevice9Ex_Reset => some do
      let rawPresentationParameters ← getBytes
      return .Reset (getPresParamFromRaw rawPresentationParameters)
  | .IDirect3DDevice9Ex_ResetEx => some do
      let rawPresentationParameters ← getBytes
      let pFullscreenDisplayMode ← getObj (sizeof .D3DDISPLAYMODEEX)
      return .ResetEx (getPresParamFromRaw rawPresentationParameters) pFullscreenDisplayMode
  | _ => none

def switch : Switch (PresentCall HWND64) := fun _ command _ => process command

end PresentCall

/-! ### The parameters come over but for the window -/

theorem rawWord_flatMap (ws : List Word) (k : Nat) :
    rawWord (ws.flatMap wordBytes) k = ws.getD k 0 := by
  induction ws generalizing k with
  | nil => rfl
  | cons w ws ih =>
      cases k with
      | zero =>
          have hw := w.isLt
          apply BitVec.eq_of_toNat_eq
          simp [rawWord, wordBytes]
          omega
      | succ k =>
          have hsucc : ∀ i, (wordBytes w ++ ws.flatMap wordBytes).getD (4 * (k + 1) + i) 0 =
              (ws.flatMap wordBytes).getD (4 * k + i) 0 := by
            intro i
            rw [show 4 * (k + 1) + i = 4 * k + i + 4 by omega]
            rfl
          rw [List.flatMap_cons, rawWord, hsucc 1, hsucc 2, hsucc 3, ← Nat.add_zero (4 * (k + 1)), hsucc 0]
          exact ih k

theorem getPresParamFromRaw_bytes (p : D3DPRESENT_PARAMETERS Word) :
    getPresParamFromRaw p.bytes = { p with hDeviceWindow := p.Windowed ++ p.hDeviceWindow } := by
  have hword : ∀ k, rawWord p.bytes k = p.words.getD k 0 := rawWord_flatMap p.words
  unfold getPresParamFromRaw
  simp only [hword]
  rfl

/-- The server's window is the client's where the word behind it is 0. -/
theorem getPresParamFromRaw_eq_iff (p : D3DPRESENT_PARAMETERS Word) :
    getPresParamFromRaw p.bytes = p.extend ↔ p.Windowed = 0 := by
  have htoNat : (p.Windowed ++ p.hDeviceWindow).toNat =
      p.Windowed.toNat * 2 ^ 32 + p.hDeviceWindow.toNat := by
    rw [BitVec.toNat_append, ← Nat.shiftLeft_add_eq_or_of_lt p.hDeviceWindow.isLt,
      Nat.shiftLeft_eq]
  have hextend : (p.hDeviceWindow.setWidth 64).toNat = p.hDeviceWindow.toNat := by
    rw [BitVec.toNat_setWidth]
    have := p.hDeviceWindow.isLt
    omega
  rw [getPresParamFromRaw_bytes]
  constructor
  · intro h
    have hwnd := congrArg (fun q => q.hDeviceWindow.toNat) h
    have : p.Windowed.toNat * 2 ^ 32 + p.hDeviceWindow.toNat = p.hDeviceWindow.toNat :=
      htoNat.symm.trans (hwnd.trans hextend)
    exact BitVec.eq_of_toNat_eq (by simpa using (by omega : p.Windowed.toNat = 0))
  · intro h
    have hwnd : p.Windowed ++ p.hDeviceWindow = p.hDeviceWindow.setWidth 64 := by
      apply BitVec.eq_of_toNat_eq
      rw [htoNat, hextend, h]
      simp
    unfold D3DPRESENT_PARAMETERS.extend
    rw [← hwnd]

namespace PresentCall

theorem length_bytes (p : D3DPRESENT_PARAMETERS Word) : p.bytes.length = 56 := rfl

variable {m_size : Nat}

theorem reads (mem : Memory) (e : Nat) (c : PresentCall Word) :
    ∃ p : PullM m_size (PresentCall HWND64), process c.message.command = some p ∧
      Reads mem e p (dataOf c.message.data) (c.withParams (getPresParamFromRaw c.params.bytes)) := by
  have hmode := fun mode : Obj (sizeof .D3DDISPLAYMODEEX) => mode.take_bytes (sizeof_mod _)
  cases c with
  | CreateDevice Adapter DeviceType hFocusWindow BehaviorFlags p =>
      exact ⟨_, rfl, .word <| .word <| .word <| .word <| .bytes <| .pure _⟩
  | CreateDeviceEx Adapter DeviceType hFocusWindow BehaviorFlags p mode =>
      exact ⟨_, rfl, .word <| .word <| .word <| .word <| .obj (hmode mode) <| .bytes <| .pure _⟩
  | CreateAdditionalSwapChain p id => exact ⟨_, rfl, .word <| .bytes <| .pure _⟩
  | Reset p => exact ⟨_, rfl, .bytes <| .pure _⟩
  | ResetEx p mode => exact ⟨_, rfl, .bytes <| .obj (hmode mode) <| .pure _⟩

theorem obj_lt (c : PresentCall Word) (bytes : List Byte) (hb : Push.obj bytes ∈ c.message.data) :
    bytes.length < 2 ^ 32 := by
  have hparams : bytes = c.params.bytes → bytes.length < 2 ^ 32 := by
    rintro rfl
    rw [length_bytes]
    decide
  cases c <;> simp only [message, sendObj, List.mem_cons, List.not_mem_nil, reduceCtorEq,
    Push.obj.injEq, false_or, or_false] at hb
  case CreateDevice | CreateAdditionalSwapChain | Reset => exact hparams hb
  case CreateDeviceEx mode => exact hb.elim (fun h => h ▸ mode.length_take_lt _) hparams
  case ResetEx mode => exact hb.elim hparams fun h => h ▸ mode.length_take_lt _

/-- **Presentation parameters come over** where `Windowed` is 0, and nowhere else. -/
theorem delivers_iff (c : PresentCall Word) :
    Delivers switch c.message c.received ↔ c.params.Windowed = 0 := by
  have hcall : Delivers switch c.message (c.withParams (getPresParamFromRaw c.params.bytes)) :=
    Delivers.of_reads fun m_size mem e => c.reads mem e
  rw [← getPresParamFromRaw_eq_iff]
  constructor
  · intro h
    have heq := congrArg params (hcall.unique c.obj_lt h)
    cases c <;> exact heq
  · intro h
    rw [received, ← h]
    exact hcall

end PresentCall

end RemixBridge
