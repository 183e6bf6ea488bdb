import RemixBridge.Wire.Commands
import RemixBridge.Support.Scanner

/-!
# Shader — CommonShader

The length of a shader (`d3d9_commonshader.h`): the client is given a pointer to its tokens, and
counts them up to the END token.
-/

namespace RemixBridge.Shader

def D3DSI_OPCODE_MASK : Word := 0x0000FFFF
def D3DSI_INSTLENGTH_MASK : Word := 0x0F000000
def D3DSI_INSTLENGTH_SHIFT : Nat := 24
def D3DSI_COMMENTSIZE_MASK : Word := 0x7FFF0000
def D3DSI_COMMENTSIZE_SHIFT : Nat := 16
def D3DSIO_COMMENT : Word := 0xFFFE
def D3DSIO_END : Word := 0xFFFF

def D3DSHADER_VERSION_MAJOR (version : Word) : Word := (version >>> 8) &&& 0xFF
def D3DSHADER_VERSION_MINOR (version : Word) : Word := version &&& 0xFF

/-- The table of the instructions of shader model 1. -/
def instructionSize : Nat → Nat
  | 0x0 => 1
  | 0x1 => 3
  | 0x2 => 4
  | 0x3 => 4
  | 0x4 => 5
  | 0x5 => 4
  | 0x6 => 3
  | 0x7 => 3
  | 0x8 => 4
  | 0x9 => 4
  | 0xa => 4
  | 0xb => 4
  | 0xc => 4
  | 0xd => 4
  | 0xe => 3
  | 0xf => 3
  | 0x10 => 3
  | 0x11 => 4
  | 0x12 => 5
  | 0x13 => 3
  | 0x14 => 4
  | 0x15 => 4
  | 0x16 => 4
  | 0x17 => 4
  | 0x18 => 4
  | 0x19 => 2
  | 0x1a => 3
  | 0x1b => 3
  | 0x1c => 1
  | 0x1d => 1
  | 0x1e => 2
  | 0x1f => 3
  | 0x20 => 4
  | 0x21 => 4
  | 0x22 => 5
  | 0x23 => 3
  | 0x24 => 3
  | 0x25 => 5
  | 0x26 => 2
  | 0x27 => 1
  | 0x28 => 2
  | 0x29 => 3
  | 0x2a => 1
  | 0x2b => 1
  | 0x2c => 1
  | 0x2d => 3
  | 0x2e => 3
  | 0x2f => 3
  | 0x30 => 5
  | 0x40 => 2
  | 0x41 => 2
  | 0x42 => 2
  | 0x43 => 3
  | 0x44 => 3
  | 0x45 => 3
  | 0x46 => 3
  | 0x47 => 3
  | 0x48 => 3
  | 0x49 => 3
  | 0x4a => 3
  | 0x4c => 4
  | 0x4d => 3
  | 0x4e => 3
  | 0x4f => 3
  | 0x50 => 5
  | 0x51 => 5
  | 0x52 => 3
  | 0x53 => 3
  | 0x54 => 3
  | 0x55 => 3
  | 0x56 => 3
  | 0x57 => 2
  | 0x58 => 5
  | 0x59 => 4
  | 0x5a => 5
  | 0x5b => 3
  | 0x5c => 3
  | 0x5d => 5
  | 0x5e => 4
  | 0x5f => 4
  | 0x60 => 3
  | _ => 1

/-- The tokens of an instruction or a comment, by its first one. -/
def getShaderInstructionSize (m_majorVersion : Word) (token : Word) : Nat :=
  let opcode := token &&& D3DSI_OPCODE_MASK
  if opcode = D3DSIO_COMMENT then
    ((token &&& D3DSI_COMMENTSIZE_MASK) >>> D3DSI_COMMENTSIZE_SHIFT).toNat + 1
  else if 2 ≤ m_majorVersion then
    ((token &&& D3DSI_INSTLENGTH_MASK) >>> D3DSI_INSTLENGTH_SHIFT).toNat + 1
  else instructionSize opcode.toNat

/-- The test of the loop. -/
def isEnd (token : Word) : Bool := decide (token &&& D3DSI_OPCODE_MASK = D3DSIO_END)

/-- `getShaderByteSize`, of the tokens in memory from `pStart` on; `none` if it has not returned
after `fuel` instructions. -/
def getShaderByteSize (m_majorVersion : Word) (fuel : Nat) (pStart : Nat → Word) : Option Nat :=
  (Scanner.scan (getShaderInstructionSize m_majorVersion) isEnd pStart fuel 1).map fun pTokens =>
    (pTokens + 1) * 4

/-- What the constructor computes: the bytes that are copied and sent. -/
def analyze (fuel : Nat) (pFunction : Nat → Word) : Option Nat :=
  getShaderByteSize (D3DSHADER_VERSION_MAJOR (pFunction 0)) fuel pFunction

end RemixBridge.Shader
