import RemixBridge.Wire.Commands
import Mathlib.Tactic.Ring

/-!
# Image — Layout

The layout of the pixels of a surface (`util_texture_and_volume.h`), as each of the two processes
computes it from the size and the format.

* `calcStride_toNat`: the number of blocks, where it does not overflow.
* `calcRowSize_eq`: the size of a row, whether it does or not.
-/

namespace RemixBridge.Image

/-- A byte. -/
abbrev Byte := BitVec 8

/-- The formats that the code names, and any other. -/
inductive D3DFORMAT where
  | DXT1 | DXT2 | DXT3 | DXT4 | DXT5
  | ATI1 | ATI2 | INST | DF24 | DF16 | NULL_FORMAT | GET4 | GET1 | NVDB | A2M1 | A2M0 | ATOC
  | INTZ | RAWZ | RESZ | NV11 | NV12 | P010 | P016 | Y210 | Y216 | Y410 | AYUV | YV12 | OPAQUE_420
  | AI44 | IA44 | R2VB | COPM | SSAA | AL16 | R16 | EXT1 | FXT1 | GXT1 | HXT1
  | A32B32G32R32F | A16B16G16R16 | Q16W16V16U16 | A16B16G16R16F | G32R32F | MULTI2_ARGB8
  | A8R8G8B8 | X8R8G8B8 | D32 | D24S8 | X8L8V8U8 | D24X4S4 | Q8W8V8U8 | V16U16 | A2W10V10U10
  | A2B10G10R10 | A8B8G8R8 | X8B8G8R8 | G16R16 | D24X8 | A2R10G10B10 | G16R16F | R32F
  | D32F_LOCKABLE | D24FS8 | D32_LOCKABLE
  | R8G8B8
  | R5G6B5 | X1R5G5B5 | A1R5G5B5 | A4R4G4B4 | A8L8 | V8U8 | L6V5U5 | D16 | D16_LOCKABLE | D15S1
  | A8P8 | A8R3G3B2 | UYVY | YUY2 | X4R4G4B4 | CxV8U8 | L16 | R16F | R8G8_B8G8 | G8R8_G8B8
  | P8 | L8 | R3G3B2 | A4L4 | A8 | A1 | S8_LOCKABLE
  | unknown (format : Word)

/-- The size of a block, in pixels each way. -/
def getBlockSize : D3DFORMAT → Word
  | .DXT1 | .DXT2 | .DXT3 | .DXT4 | .DXT5 => 4
  | .ATI1 | .ATI2 => 1
  | _ => 1

/-- The bytes of a pixel, or of a block; `none` where it throws. -/
def getBytesFromFormat : D3DFORMAT → Option Word
  | .DXT1 => some 8
  | .DXT2 | .DXT3 | .DXT4 | .DXT5 => some 16
  | .ATI1 | .ATI2 => some 1
  -- explicitly unsupported
  | .RESZ | .INST | .NVDB | .GET4 | .GET1 | .NULL_FORMAT | .A2M1 | .A2M0 | .ATOC | .RAWZ | .NV11
  | .P010 | .Y210 | .Y216 | .Y410 | .AYUV | .OPAQUE_420 | .AI44 | .IA44 | .R2VB | .COPM | .SSAA
  | .AL16 | .R16 | .EXT1 | .FXT1 | .GXT1 | .HXT1 => some 0
  | .A32B32G32R32F => some 16
  | .A16B16G16R16 | .Q16W16V16U16 | .A16B16G16R16F | .G32R32F | .MULTI2_ARGB8 => some 8
  | .A8R8G8B8 | .X8R8G8B8 | .D32 | .D24S8 | .X8L8V8U8 | .D24X4S4 | .Q8W8V8U8 | .V16U16
  | .A2W10V10U10 | .A2B10G10R10 | .A8B8G8R8 | .X8B8G8R8 | .G16R16 | .D24X8 | .A2R10G10B10
  | .G16R16F | .R32F | .D32F_LOCKABLE | .D24FS8 | .D32_LOCKABLE | .DF24 | .INTZ => some 4
  | .R8G8B8 | .YV12 => some 3
  | .R5G6B5 | .X1R5G5B5 | .A1R5G5B5 | .A4R4G4B4 | .A8L8 | .V8U8 | .L6V5U5 | .D16 | .D16_LOCKABLE
  | .D15S1 | .A8P8 | .A8R3G3B2 | .UYVY | .YUY2 | .X4R4G4B4 | .CxV8U8 | .L16 | .R16F | .R8G8_B8G8
  | .G8R8_G8B8 | .DF16 | .P016 => some 2
  | .P8 | .L8 | .R3G3B2 | .A4L4 | .A8 | .A1 | .S8_LOCKABLE | .NV12 => some 1
  | .unknown _ => none

/-- The two processes. -/
inductive Build where
  | client32
  | server64
  deriving DecidableEq, Repr

/-- `caps::MinSurfacePitch`, which is `sizeof(size_t)`. -/
def MinSurfacePitch : Build → Word
  | .client32 => 4
  | .server64 => 8

/-- The number of pixels, or of blocks. -/
def calcStride (numPixels : Word) (format : D3DFORMAT) : Word :=
  (numPixels + getBlockSize format - 1) / getBlockSize format

def calcRowSize (build : Build) (width : Word) (format : D3DFORMAT) : Option Word :=
  (getBytesFromFormat format).map fun bytesPerPixel =>
    let rowBytes := calcStride width format * bytesPerPixel
    if MinSurfacePitch build < rowBytes then rowBytes else MinSurfacePitch build

def calcTotalSizeOfRect (build : Build) (width height : Word) (format : D3DFORMAT) : Option Word :=
  (calcRowSize build width format).map fun rowSize => calcStride height format * rowSize

/-- A `RECT`. -/
structure Rect where
  left : Word
  top : Word
  right : Word
  bottom : Word
  deriving DecidableEq, Repr

def calcImageByteOffset (pitch : Word) (rect : Rect) (format : D3DFORMAT) : Option Word :=
  (getBytesFromFormat format).map fun bytesPerPixel =>
    calcStride rect.top format * pitch + bytesPerPixel * calcStride rect.left format

/-! ### Blocks -/

/-- The blocks that `n` pixels take. -/
def blocks (format : D3DFORMAT) (n : Nat) : Nat :=
  (n + (getBlockSize format).toNat - 1) / (getBlockSize format).toNat

theorem getBlockSize_eq (format : D3DFORMAT) :
    getBlockSize format = 1 ∨ getBlockSize format = 4 := by
  unfold getBlockSize
  split <;> simp

/-- The bytes of a block of more than a pixel. -/
theorem bytes_of_blocks {format : D3DFORMAT} {bytesPerPixel : Word}
    (hblock : getBlockSize format ≠ 1) (hbytes : getBytesFromFormat format = some bytesPerPixel) :
    bytesPerPixel = 8 ∨ bytesPerPixel = 16 := by
  cases format <;> first | exact absurd rfl hblock | (cases hbytes; decide)

theorem blocks_mono (format : D3DFORMAT) {m n : Nat} (h : m ≤ n) :
    blocks format m ≤ blocks format n := Nat.div_le_div_right (by omega)

theorem blocks_lt (format : D3DFORMAT) (n : Word) : blocks format n.toNat < 2 ^ 32 := by
  have h1 : (1 : Word).toNat = 1 := rfl
  have h4 : (4 : Word).toNat = 4 := rfl
  have hn := n.isLt
  unfold blocks
  rcases getBlockSize_eq format with h | h
  · rw [h, h1]
    omega
  · rw [h, h4]
    omega

theorem calcStride_toNat {numPixels : Word} {format : D3DFORMAT}
    (h : getBlockSize format = 1 ∨ numPixels.toNat + 3 < 2 ^ 32) :
    (calcStride numPixels format).toNat = blocks format numPixels.toNat := by
  unfold calcStride blocks
  rw [BitVec.toNat_udiv]
  rcases getBlockSize_eq format with hb | hb
  · rw [hb, BitVec.add_sub_cancel]
    rfl
  · have hfit := h.resolve_left (by rw [hb]; decide)
    rw [hb]
    congr 1
    have h1 : (1 : Word).toNat = 1 := rfl
    have h4 : (4 : Word).toNat = 4 := rfl
    rw [BitVec.toNat_sub, BitVec.toNat_add, h1, h4]
    omega

theorem blocks_wrapped {numPixels : Word} {format : D3DFORMAT} (hblock : getBlockSize format = 4)
    (h : 2 ^ 32 ≤ numPixels.toNat + 3) :
    calcStride numPixels format = 0 ∧ blocks format numPixels.toNat = 2 ^ 30 := by
  have h1 : (1 : Word).toNat = 1 := rfl
  have h4 : (4 : Word).toNat = 4 := rfl
  have hlt := numPixels.isLt
  refine ⟨BitVec.eq_of_toNat_eq ?_, ?_⟩
  · rw [calcStride, hblock, BitVec.toNat_udiv, BitVec.toNat_sub, BitVec.toNat_add, h1, h4]
    have h0 : (0 : Word).toNat = 0 := rfl
    omega
  · rw [blocks, hblock, h4]
    omega

/-- A number of blocks has not overflowed if those of more pixels fit, in bytes, in 32 bits. -/
theorem calcStride_of_le {format : D3DFORMAT} {m n : Word} {size : Nat} (hle : m.toNat ≤ n.toNat)
    (hblock : getBlockSize format ≠ 1 → 4 ≤ size)
    (hfit : blocks format n.toNat * size < 2 ^ 32) :
    (calcStride m format).toNat = blocks format m.toNat := by
  refine calcStride_toNat ?_
  by_contra hno
  obtain ⟨hne, hm⟩ := not_or.mp hno
  have hblocks : blocks format n.toNat = 2 ^ 30 :=
    (blocks_wrapped ((getBlockSize_eq format).resolve_left hne) (by omega)).2
  have := hblock hne
  rw [hblocks] at hfit
  omega

/-! ### Rows -/

/-- The bytes of a row, whether or not the number of its blocks has overflowed. -/
theorem calcStride_mul_toNat {width : Word} {format : D3DFORMAT} {bytesPerPixel : Word}
    (hbytes : getBytesFromFormat format = some bytesPerPixel) :
    (calcStride width format * bytesPerPixel).toNat =
      blocks format width.toNat * bytesPerPixel.toNat % 2 ^ 32 := by
  by_cases hfit : getBlockSize format = 1 ∨ width.toNat + 3 < 2 ^ 32
  · rw [BitVec.toNat_mul, calcStride_toNat hfit]
  · obtain ⟨hblock, hwidth⟩ := not_or.mp hfit
    obtain ⟨hzero, hblocks⟩ := blocks_wrapped ((getBlockSize_eq format).resolve_left hblock)
      (Nat.le_of_not_lt hwidth)
    rw [hzero, hblocks]
    rcases bytes_of_blocks hblock hbytes with rfl | rfl <;> decide

theorem calcRowSize_eq (build : Build) (width : Word) {format : D3DFORMAT} {bytesPerPixel : Word}
    (hbytes : getBytesFromFormat format = some bytesPerPixel) :
    ∃ rowSize, calcRowSize build width format = some rowSize ∧ rowSize.toNat =
      max (MinSurfacePitch build).toNat
        (blocks format width.toNat * bytesPerPixel.toNat % 2 ^ 32) := by
  refine ⟨_, by rw [calcRowSize, hbytes, Option.map_some], ?_⟩
  rw [← calcStride_mul_toNat hbytes]
  dsimp only
  split
  · rename_i hlt
    exact (max_eq_right (Nat.le_of_lt (BitVec.lt_def.mp hlt))).symm
  · rename_i hle
    exact (max_eq_left (BitVec.le_def.mp (BitVec.not_lt.mp hle))).symm

end RemixBridge.Image
