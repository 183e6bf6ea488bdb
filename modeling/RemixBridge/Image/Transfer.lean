import RemixBridge.Image.Layout
import RemixBridge.Support.Loops
import RemixBridge.Support.Rows

/-!
# Image — Transfer

The pixels of a surface between the processes: `UnlockRect` copies a rectangle in, and
`ReturnSurfaceDataToClient` a whole surface out.  Neither sends its layout; both compute it from the
size and the format.

* `layoutAgrees_iff`: the sizes and formats that the two lay out alike.
-/

namespace RemixBridge.Image
open Rows

/-- A `D3DLOCKED_RECT`, with the memory at its `pBits`. -/
structure LockedRect where
  pitch : Word
  bits : Nat → Byte

/-- `FOR_EACH_RECT_ROW`: the byte at `x` of the row that `ptr` points to. -/
def LockedRect.row (lockedRect : LockedRect) (y x : Nat) : Byte :=
  lockedRect.bits ((BitVec.ofNat 32 y * lockedRect.pitch).toNat + x)

/-! ### The two ends -/

/-- The sender's loop, into a blob of the total size; `none` if it throws or writes past the end. -/
def sendRows (build : Build) (width height : Word) (format : D3DFORMAT) (row : Nat → Nat → Byte) :
    Option (List Byte) :=
  (calcTotalSizeOfRect build width height format).bind fun totalSize =>
    (calcRowSize build width format).bind fun rowSize =>
      let columnStride := (calcStride height format).toNat
      if columnStride * rowSize.toNat ≤ totalSize.toNat then
        some (pack columnStride rowSize.toNat row)
      else none

/-- The receiver's loop, over a blob with rows at a pitch: what it copies to each row. -/
def receiveRows (build : Build) (incomingPitch width height : Word) (format : D3DFORMAT)
    (data : List Byte) : Option (List (List Byte)) :=
  (calcRowSize build width format).bind fun rowSize =>
    (List.range (calcStride height format).toNat).mapM fun y =>
      slice data (BitVec.ofNat 32 y * incomingPitch).toNat rowSize.toNat

/-- `UnlockRect`, through the data queue. -/
def copyIn (width height : Word) (format : D3DFORMAT) (lockedRect : LockedRect) :
    Option (List (List Byte)) :=
  (calcRowSize .client32 width format).bind fun rowSize =>
    (sendRows .client32 width height format lockedRect.row).bind
      (receiveRows .server64 rowSize width height format)

/-- `ReturnSurfaceDataToClient`, and `copyServerSurfaceRawData`. -/
def copyOut (width height : Word) (format : D3DFORMAT) (lockedRect : LockedRect) :
    Option (List (List Byte)) :=
  (sendRows .server64 width height format lockedRect.row).bind fun data =>
    (calcRowSize .client32 width format).bind fun rowSize =>
      receiveRows .client32 rowSize width height format data

/-- The byte at `x` of a row of a rectangle, in an allocation of the shared heap. -/
def sharedRow (heap : Nat → Byte) (pitch : Word) (byteOffset : Word) (y x : Nat) : Byte :=
  heap (byteOffset.toNat + (BitVec.ofNat 32 y * pitch).toNat + x)

/-- `UnlockRect`, through the shared heap. -/
def copyShared (pitch : Word) (rect : Rect) (format : D3DFORMAT) (heap : Nat → Byte) :
    Option (List (List Byte)) :=
  (calcRowSize .server64 (rect.right - rect.left) format).bind fun rowSize =>
    (calcImageByteOffset pitch rect format).map fun byteOffset =>
      (List.range (calcStride (rect.bottom - rect.top) format).toNat).map fun y =>
        (List.range rowSize.toNat).map (sharedRow heap pitch byteOffset y)

/-! ### Agreement -/

/-- The rows of a rectangle, as a process keeps them. -/
def keptRows (build : Build) (width height : Word) (format : D3DFORMAT) (row : Nat → Nat → Byte) :
    Option (List (List Byte)) :=
  (calcRowSize build width format).map fun rowSize =>
    (List.range (blocks format height.toNat)).map fun y => (List.range rowSize.toNat).map (row y)

/-- The processes lay out a size and a format alike, and every row lands on the same row. -/
structure LayoutAgrees (width height : Word) (format : D3DFORMAT) : Prop where
  rowSize : calcRowSize .client32 width format = calcRowSize .server64 width format
  totalSize : calcTotalSizeOfRect .client32 width height format =
    calcTotalSizeOfRect .server64 width height format
  copiedIn (lockedRect : LockedRect) : copyIn width height format lockedRect =
    keptRows .client32 width height format lockedRect.row
  copiedOut (lockedRect : LockedRect) : copyOut width height format lockedRect =
    keptRows .server64 width height format lockedRect.row
  copiedShared (pitch : Word) (rect : Rect) (heap : Nat → Byte) : rect.right - rect.left = width →
    rect.bottom - rect.top = height → copyShared pitch rect format heap =
      (calcImageByteOffset pitch rect format).bind fun byteOffset =>
        keptRows .client32 width height format (sharedRow heap pitch byteOffset)

/-! ### Rows that are copied -/

section Rows

variable {build build' : Build} {width height rowSize : Word} {format : D3DFORMAT}
  {row : Nat → Nat → Byte}

theorem sendRows_eq (hrow : calcRowSize build width format = some rowSize) :
    sendRows build width height format row =
      if (calcStride height format).toNat * rowSize.toNat < 2 ^ 32 then
        some (pack (calcStride height format).toNat rowSize.toNat row)
      else none := by
  rw [sendRows, calcTotalSizeOfRect, hrow, Option.map_some, Option.bind_some, Option.bind_some]
  refine if_congr ?_ rfl rfl
  rw [BitVec.toNat_mul]
  constructor
  · intro hle
    exact Nat.lt_of_le_of_lt hle (Nat.mod_lt _ (by decide))
  · intro hlt
    rw [Nat.mod_eq_of_lt hlt]

/-- Packed rows are received one by one. -/
theorem receiveRows_pack (hrow : calcRowSize build width format = some rowSize)
    (hfit : (calcStride height format).toNat * rowSize.toNat < 2 ^ 32) :
    receiveRows build rowSize width height format
        (pack (calcStride height format).toNat rowSize.toNat row) =
      some ((List.range (calcStride height format).toNat).map fun y =>
        (List.range rowSize.toNat).map (row y)) := by
  rw [receiveRows, hrow, Option.bind_some]
  refine Loops.mapM_eq_map fun y hy => ?_
  have hy := List.mem_range.mp hy
  have hlt : y * rowSize.toNat < (calcStride height format).toNat * rowSize.toNat + 1 :=
    Nat.lt_succ_of_le (Nat.mul_le_mul_right _ (Nat.le_of_lt hy))
  have hoff : (BitVec.ofNat 32 y * rowSize).toNat = y * rowSize.toNat := by
    have hheight := (calcStride height format).isLt
    rw [BitVec.toNat_mul, BitVec.toNat_ofNat, Nat.mod_eq_of_lt (Nat.lt_trans hy hheight),
      Nat.mod_eq_of_lt (by omega)]
  rw [hoff, slice_pack row hy]

end Rows

/-! ### Where the processes agree -/

variable {width height : Word} {format : D3DFORMAT} {bytesPerPixel : Word}

/-- They agree about rows of at least the larger of their minimum pitches. -/
theorem calcRowSize_agree_iff (hbytes : getBytesFromFormat format = some bytesPerPixel) :
    calcRowSize .client32 width format = calcRowSize .server64 width format ↔
      8 ≤ blocks format width.toNat * bytesPerPixel.toNat % 2 ^ 32 := by
  obtain ⟨r₄, h₄, hr₄⟩ := calcRowSize_eq .client32 width hbytes
  obtain ⟨r₈, h₈, hr₈⟩ := calcRowSize_eq .server64 width hbytes
  have hmin₄ : (MinSurfacePitch .client32).toNat = 4 := rfl
  have hmin₈ : (MinSurfacePitch .server64).toNat = 8 := rfl
  rw [h₄, h₈, Option.some_inj, ← BitVec.toNat_inj, hr₄, hr₈, hmin₄, hmin₈]
  omega

theorem LayoutAgrees.rows_fit (h : LayoutAgrees width height format) {rowSize : Word}
    (hrow : calcRowSize .client32 width format = some rowSize) :
    blocks format height.toNat * rowSize.toNat < 2 ^ 32 := by
  have hcopied := h.copiedIn ⟨rowSize, fun _ => 0⟩
  have hserver := h.rowSize ▸ hrow
  rw [copyIn, keptRows, hrow, Option.bind_some, Option.map_some, sendRows_eq hrow] at hcopied
  split at hcopied
  · rename_i hfit
    rw [Option.bind_some, receiveRows_pack hserver hfit] at hcopied
    have hlen := congrArg List.length (Option.some.inj hcopied)
    rw [List.length_map, List.length_map, List.length_range, List.length_range] at hlen
    rwa [← hlen]
  · cases hcopied

/-- Nothing is laid out in a format that is not known. -/
theorem layoutAgrees_of_none (hbytes : getBytesFromFormat format = none) :
    LayoutAgrees width height format := by
  have hrow (build : Build) (width : Word) : calcRowSize build width format = none := by
    rw [calcRowSize, hbytes, Option.map_none]
  refine ⟨?_, ?_, fun _ => ?_, fun _ => ?_, fun _ _ _ _ _ => ?_⟩
  · rw [hrow, hrow]
  · rw [calcTotalSizeOfRect, calcTotalSizeOfRect, hrow, hrow]
  · rw [copyIn, keptRows, hrow, Option.bind_none, Option.map_none]
  · rw [copyOut, sendRows, calcTotalSizeOfRect, keptRows, hrow, hrow, Option.map_none,
      Option.bind_none, Option.bind_none, Option.map_none]
  · rw [copyShared, calcImageByteOffset, hbytes, hrow, Option.bind_none, Option.map_none,
      Option.bind_none]

theorem layoutAgrees_of_some {rowSize : Word}
    (hclient : calcRowSize .client32 width format = some rowSize)
    (hserver : calcRowSize .server64 width format = some rowSize) (hmin : 4 ≤ rowSize.toNat)
    (hfit : blocks format height.toNat * rowSize.toNat < 2 ^ 32) :
    LayoutAgrees width height format := by
  have hrows := calcStride_of_le (Nat.le_refl _) (fun _ => hmin) hfit
  have hsent := hfit
  rw [← hrows] at hsent
  refine ⟨hclient.trans hserver.symm, ?_, fun lockedRect => ?_, fun lockedRect => ?_,
    fun pitch rect heap hw hh => ?_⟩
  · rw [calcTotalSizeOfRect, calcTotalSizeOfRect, hclient, hserver]
  · rw [copyIn, hclient, Option.bind_some, sendRows_eq hclient, if_pos hsent, Option.bind_some,
      receiveRows_pack hserver hsent, keptRows, hclient, Option.map_some, hrows]
  · rw [copyOut, sendRows_eq hserver, if_pos hsent, Option.bind_some, hclient, Option.bind_some,
      receiveRows_pack hclient hsent, keptRows, hserver, Option.map_some, hrows]
  · subst hw hh
    simp only [copyShared, keptRows, hclient, hserver, Option.bind_some, Option.map_some, hrows]
    cases calcImageByteOffset pitch rect format <;> rfl

/-- **Image layout.**  The processes agree about a size and a format if and only if a row of that
width takes at least the server's minimum pitch and all rows together less than `2 ^ 32` bytes. -/
theorem layoutAgrees_iff (width height : Word) (format : D3DFORMAT) :
    LayoutAgrees width height format ↔
      ∀ bytesPerPixel, getBytesFromFormat format = some bytesPerPixel →
        8 ≤ blocks format width.toNat * bytesPerPixel.toNat % 2 ^ 32 ∧
        blocks format height.toNat * (blocks format width.toNat * bytesPerPixel.toNat % 2 ^ 32) <
          2 ^ 32 := by
  constructor
  · intro h bytesPerPixel hbytes
    have hpitch := (calcRowSize_agree_iff hbytes).mp h.rowSize
    obtain ⟨rowSize, hrow, hsize⟩ := calcRowSize_eq .client32 width hbytes
    have hmin : (MinSurfacePitch .client32).toNat = 4 := rfl
    have hfit := h.rows_fit hrow
    rw [hsize, hmin, max_eq_right (by omega)] at hfit
    exact ⟨hpitch, hfit⟩
  · intro hcond
    cases hbytes : getBytesFromFormat format with
    | none => exact layoutAgrees_of_none hbytes
    | some bytesPerPixel =>
        obtain ⟨hpitch, hfit⟩ := hcond bytesPerPixel hbytes
        obtain ⟨rowSize, hrow, hsize⟩ := calcRowSize_eq .client32 width hbytes
        have hmin : (MinSurfacePitch .client32).toNat = 4 := rfl
        rw [hmin, max_eq_right (by omega)] at hsize
        rw [← hsize] at hpitch hfit
        exact layoutAgrees_of_some hrow
          (((calcRowSize_agree_iff hbytes).mpr (hsize ▸ hpitch)).symm.trans hrow) (by omega) hfit

/-- **The processes disagree.**  About a surface of one pixel of four bytes. -/
theorem one_pixel_disagrees : ¬ ∀ (width height : Word) (format : D3DFORMAT),
    LayoutAgrees width height format := by
  intro hclaim
  have h := (layoutAgrees_iff 1 1 .A8R8G8B8).mp (hclaim _ _ _) 4 rfl
  revert h
  decide

end RemixBridge.Image
