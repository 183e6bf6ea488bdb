import RemixBridge.Wire.Commands
import Mathlib.Tactic.Common
import Mathlib.Data.Nat.Bitwise

/-!
# Wire — StateRecord

The twelve setters that a `StateBatch` command can carry, the record the client appends for each
(`batchCmd` and `batchConst`, `d3d9_device.h`), and the two ways the server turns one into a call
on its device: the individual command's case, and the replay loop of the `StateBatch` case
(`main.cpp`).

* `replay_records`: the replay loop calls, for a sequence of records, what the individual commands
  call.
-/

namespace RemixBridge.StateRecord

/-- The registers a float-constant setter passes.  Its array lies in a 32-bit address space. -/
structure Constants where
  StartRegister : Word
  Vector4fCount : Nat
  pConstantData : List Word
  length_eq : pConstantData.length = 4 * Vector4fCount
  fits : 16 * Vector4fCount < 2 ^ 32
  deriving DecidableEq, Repr

/-- A setter call with the handles of the client's objects in place of pointers to them. -/
inductive Setter where
  | SetRenderState (State Value : Word)
  | SetSamplerState (Sampler StateType Value : Word)
  | SetTextureStageState (Stage StateType Value : Word)
  | SetTexture (Stage pHandle : Word)
  | SetVertexDeclaration (pHandle : Word)
  | SetVertexShader (pHandle : Word)
  | SetPixelShader (pHandle : Word)
  | SetIndices (pHandle : Word)
  | SetStreamSource (StreamNumber pHandle OffsetInBytes Stride : Word)
  | SetStreamSourceFreq (StreamNumber Divider : Word)
  | SetVertexShaderConstantF (c : Constants)
  | SetPixelShaderConstantF (c : Constants)
  deriving DecidableEq, Repr

def Setter.command : Setter → D3D9Command
  | .SetRenderState ..           => .IDirect3DDevice9Ex_SetRenderState
  | .SetSamplerState ..          => .IDirect3DDevice9Ex_SetSamplerState
  | .SetTextureStageState ..     => .IDirect3DDevice9Ex_SetTextureStageState
  | .SetTexture ..               => .IDirect3DDevice9Ex_SetTexture
  | .SetVertexDeclaration ..     => .IDirect3DDevice9Ex_SetVertexDeclaration
  | .SetVertexShader ..          => .IDirect3DDevice9Ex_SetVertexShader
  | .SetPixelShader ..           => .IDirect3DDevice9Ex_SetPixelShader
  | .SetIndices ..               => .IDirect3DDevice9Ex_SetIndices
  | .SetStreamSource ..          => .IDirect3DDevice9Ex_SetStreamSource
  | .SetStreamSourceFreq ..      => .IDirect3DDevice9Ex_SetStreamSourceFreq
  | .SetVertexShaderConstantF .. => .IDirect3DDevice9Ex_SetVertexShaderConstantF
  | .SetPixelShaderConstantF ..  => .IDirect3DDevice9Ex_SetPixelShaderConstantF

def Constants.args (c : Constants) : List Word :=
  c.StartRegister :: BitVec.ofNat 32 c.Vector4fCount :: c.pConstantData

/-- The argument words of a setter's record. -/
def Setter.args : Setter → List Word
  | .SetRenderState State Value            => [State, Value]
  | .SetSamplerState Sampler StateType Value    => [Sampler, StateType, Value]
  | .SetTextureStageState Stage StateType Value => [Stage, StateType, Value]
  | .SetTexture Stage pHandle              => [Stage, pHandle]
  | .SetVertexDeclaration pHandle          => [pHandle]
  | .SetVertexShader pHandle               => [pHandle]
  | .SetPixelShader pHandle                => [pHandle]
  | .SetIndices pHandle                    => [pHandle]
  | .SetStreamSource StreamNumber pHandle OffsetInBytes Stride =>
      [StreamNumber, pHandle, OffsetInBytes, Stride]
  | .SetStreamSourceFreq StreamNumber Divider => [StreamNumber, Divider]
  | .SetVertexShaderConstantF c            => c.args
  | .SetPixelShaderConstantF c             => c.args

/-- `command | (argWords << 16)`. -/
def word0 (cmd : Nat) (n : Nat) : Word := BitVec.ofNat 32 cmd ||| BitVec.ofNat 32 n <<< 16

/-- The record of a setter. -/
def Setter.record (s : Setter) : List Word :=
  word0 s.command.toNat s.args.length :: s.args

/-! ### The server's calls -/

/-- A call on the server's device; `R` is the server's objects. -/
inductive Call (R : Type*) where
  | SetRenderState (State Value : Word)
  | SetSamplerState (Sampler StateType Value : Word)
  | SetTextureStageState (Stage StateType Value : Word)
  | SetTexture (Stage : Word) (pTexture : Option R)
  | SetVertexDeclaration (pDecl : Option R)
  | SetVertexShader (pShader : Option R)
  | SetPixelShader (pShader : Option R)
  | SetIndices (pIndexData : Option R)
  | SetStreamSource (StreamNumber : Word) (pStreamData : Option R) (OffsetInBytes Stride : Word)
  | SetStreamSourceFreq (StreamNumber Divider : Word)
  | SetVertexShaderConstantF (StartRegister : Word) (pConstantData : List Word)
      (Vector4fCount : Word)
  | SetPixelShaderConstantF (StartRegister : Word) (pConstantData : List Word)
      (Vector4fCount : Word)
  deriving DecidableEq, Repr

/-- The server's maps from handles to objects, those that a setter reads. -/
structure Maps (R : Type*) where
  gpD3DResources : Word → Option R
  gpD3DVertexDeclarations : Word → Option R
  gpD3DVertexShaders : Word → Option R
  gpD3DPixelShaders : Word → Option R

variable {R : Type*}

/-- `pHandle ? map[pHandle] : nullptr`. -/
def lookup (map : Word → Option R) (pHandle : Word) : Option R :=
  if pHandle ≠ 0 then map pHandle else none

/-- The call that the case of the individual command makes. -/
def Setter.call (S : Maps R) : Setter → Call R
  | .SetRenderState State Value            => .SetRenderState State Value
  | .SetSamplerState Sampler StateType Value    => .SetSamplerState Sampler StateType Value
  | .SetTextureStageState Stage StateType Value => .SetTextureStageState Stage StateType Value
  | .SetTexture Stage pHandle              => .SetTexture Stage (lookup S.gpD3DResources pHandle)
  | .SetVertexDeclaration pHandle          =>
      .SetVertexDeclaration (lookup S.gpD3DVertexDeclarations pHandle)
  | .SetVertexShader pHandle => .SetVertexShader (lookup S.gpD3DVertexShaders pHandle)
  | .SetPixelShader pHandle  => .SetPixelShader (lookup S.gpD3DPixelShaders pHandle)
  | .SetIndices pHandle      => .SetIndices (lookup S.gpD3DResources pHandle)
  | .SetStreamSource StreamNumber pHandle OffsetInBytes Stride =>
      .SetStreamSource StreamNumber (lookup S.gpD3DResources pHandle) OffsetInBytes Stride
  | .SetStreamSourceFreq StreamNumber Divider => .SetStreamSourceFreq StreamNumber Divider
  | .SetVertexShaderConstantF c =>
      .SetVertexShaderConstantF c.StartRegister c.pConstantData (BitVec.ofNat 32 c.Vector4fCount)
  | .SetPixelShaderConstantF c  =>
      .SetPixelShaderConstantF c.StartRegister c.pConstantData (BitVec.ofNat 32 c.Vector4fCount)

/-- The `4 * count` words at `p`, as the runtime reads them through a pointer. -/
def readVectors (p : List Word) (count : Word) : List Word := p.take (4 * count.toNat)

/-- The switch of the `StateBatch` case; `p` is what follows the record's first word. -/
def replayRecord (S : Maps R) (cmd : Nat) (p : List Word) : Option (Call R) :=
  if cmd = D3D9Command.IDirect3DDevice9Ex_SetRenderState.toNat then
    some (.SetRenderState (p.getD 0 0) (p.getD 1 0))
  else if cmd = D3D9Command.IDirect3DDevice9Ex_SetSamplerState.toNat then
    some (.SetSamplerState (p.getD 0 0) (p.getD 1 0) (p.getD 2 0))
  else if cmd = D3D9Command.IDirect3DDevice9Ex_SetTextureStageState.toNat then
    some (.SetTextureStageState (p.getD 0 0) (p.getD 1 0) (p.getD 2 0))
  else if cmd = D3D9Command.IDirect3DDevice9Ex_SetTexture.toNat then
    some (.SetTexture (p.getD 0 0) (lookup S.gpD3DResources (p.getD 1 0)))
  else if cmd = D3D9Command.IDirect3DDevice9Ex_SetVertexDeclaration.toNat then
    some (.SetVertexDeclaration (lookup S.gpD3DVertexDeclarations (p.getD 0 0)))
  else if cmd = D3D9Command.IDirect3DDevice9Ex_SetVertexShader.toNat then
    some (.SetVertexShader (lookup S.gpD3DVertexShaders (p.getD 0 0)))
  else if cmd = D3D9Command.IDirect3DDevice9Ex_SetPixelShader.toNat then
    some (.SetPixelShader (lookup S.gpD3DPixelShaders (p.getD 0 0)))
  else if cmd = D3D9Command.IDirect3DDevice9Ex_SetIndices.toNat then
    some (.SetIndices (lookup S.gpD3DResources (p.getD 0 0)))
  else if cmd = D3D9Command.IDirect3DDevice9Ex_SetStreamSource.toNat then
    some (.SetStreamSource (p.getD 0 0) (lookup S.gpD3DResources (p.getD 1 0)) (p.getD 2 0)
      (p.getD 3 0))
  else if cmd = D3D9Command.IDirect3DDevice9Ex_SetStreamSourceFreq.toNat then
    some (.SetStreamSourceFreq (p.getD 0 0) (p.getD 1 0))
  else if cmd = D3D9Command.IDirect3DDevice9Ex_SetVertexShaderConstantF.toNat then
    some (.SetVertexShaderConstantF (p.getD 0 0) (readVectors (p.drop 2) (p.getD 1 0))
      (p.getD 1 0))
  else if cmd = D3D9Command.IDirect3DDevice9Ex_SetPixelShaderConstantF.toNat then
    some (.SetPixelShaderConstantF (p.getD 0 0) (readVectors (p.drop 2) (p.getD 1 0))
      (p.getD 1 0))
  else none

/-- The replay loop of the `StateBatch` case.  A truncated record and an unknown one end it. -/
def replay (S : Maps R) : List Word → List (Call R)
  | []     => []
  | w :: p =>
      if (w >>> 16).toNat > p.length then []
      else match replayRecord S (w &&& 0xFFFF).toNat p with
        | some c => c :: replay S (p.drop (w >>> 16).toNat)
        | none   => []
  termination_by ws => ws.length
  decreasing_by
    simp only [List.length_drop, List.length_cons]
    omega

/-! ### Round trip -/

/-- The first word as a number: the two halves do not overlap. -/
theorem word0_toNat {cmd n : Nat} (hcmd : cmd < 2 ^ 16) (hn : n < 2 ^ 16) :
    (word0 cmd n).toNat = 2 ^ 16 * n + cmd := by
  have hshift : n <<< 16 < 2 ^ 32 := by
    rw [Nat.shiftLeft_eq]
    omega
  rw [word0, BitVec.toNat_or, BitVec.toNat_shiftLeft, BitVec.toNat_ofNat, BitVec.toNat_ofNat,
    Nat.mod_eq_of_lt (show cmd < 2 ^ 32 by omega), Nat.mod_eq_of_lt (show n < 2 ^ 32 by omega),
    Nat.mod_eq_of_lt hshift, Nat.lor_comm, ← Nat.shiftLeft_add_eq_or_of_lt hcmd, Nat.shiftLeft_eq, Nat.mul_comm]

theorem word0_and {cmd n : Nat} (hcmd : cmd < 2 ^ 16) (hn : n < 2 ^ 16) :
    (word0 cmd n &&& 0xFFFF).toNat = cmd := by
  have hmask : (0xFFFF : Word).toNat = 2 ^ 16 - 1 := rfl
  rw [BitVec.toNat_and, word0_toNat hcmd hn, hmask, Nat.and_two_pow_sub_one_eq_mod]
  omega

theorem word0_shift {cmd n : Nat} (hcmd : cmd < 2 ^ 16) (hn : n < 2 ^ 16) :
    (word0 cmd n >>> 16).toNat = n := by
  rw [BitVec.toNat_ushiftRight, word0_toNat hcmd hn, Nat.shiftRight_eq_div_pow]
  omega

/-- The runtime reads the registers the setter passed, whatever follows them in the batch. -/
theorem Constants.readVectors_eq (c : Constants) (rest : List Word) :
    readVectors (c.pConstantData ++ rest) (BitVec.ofNat 32 c.Vector4fCount) =
      c.pConstantData := by
  have hcount : (BitVec.ofNat 32 c.Vector4fCount).toNat = c.Vector4fCount := by
    rw [BitVec.toNat_ofNat, Nat.mod_eq_of_lt]
    have := c.fits
    omega
  rw [readVectors, hcount, ← c.length_eq, List.take_left]

/-- The switch calls what the individual command's case calls. -/
theorem replayRecord_args (S : Maps R) (s : Setter) (rest : List Word) :
    replayRecord S s.command.toNat (s.args ++ rest) = some (s.call S) := by
  cases s with
  | SetRenderState State Value => rfl
  | SetSamplerState Sampler StateType Value => rfl
  | SetTextureStageState Stage StateType Value => rfl
  | SetTexture Stage pHandle => rfl
  | SetVertexDeclaration pHandle => rfl
  | SetVertexShader pHandle => rfl
  | SetPixelShader pHandle => rfl
  | SetIndices pHandle => rfl
  | SetStreamSource StreamNumber pHandle OffsetInBytes Stride => rfl
  | SetStreamSourceFreq StreamNumber Divider => rfl
  | SetVertexShaderConstantF c =>
      exact congrArg (fun v => some (Call.SetVertexShaderConstantF _ v _)) (c.readVectors_eq rest)
  | SetPixelShaderConstantF c =>
      exact congrArg (fun v => some (Call.SetPixelShaderConstantF _ v _)) (c.readVectors_eq rest)

theorem replay_record (S : Maps R) (s : Setter) (rest : List Word)
    (hn : s.args.length < 2 ^ 16) : replay S (s.record ++ rest) = s.call S :: replay S rest := by
  have hlen : ¬ s.args.length > (s.args ++ rest).length := by
    rw [List.length_append]
    omega
  rw [Setter.record, List.cons_append, replay, word0_shift s.command.toNat_lt hn,
    word0_and s.command.toNat_lt hn, if_neg hlen, replayRecord_args, List.drop_left]

/-- **The batch replays its setters.** -/
theorem replay_records (S : Maps R) (ss : List Setter) (h : ∀ s ∈ ss, s.args.length < 2 ^ 16) :
    replay S (ss.flatMap Setter.record) = ss.map (Setter.call S) := by
  induction ss with
  | nil => simp [replay]
  | cons s ss ih =>
      rw [List.flatMap_cons, replay_record S s _ (h s List.mem_cons_self), List.map_cons,
        ih fun s' hs' => h s' (List.mem_cons_of_mem _ hs')]

end RemixBridge.StateRecord
