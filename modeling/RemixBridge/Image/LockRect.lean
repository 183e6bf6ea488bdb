import RemixBridge.Image.Layout
import RemixBridge.Support.Rows

/-!
# Image — LockRect

Locks of a rectangle of a surface (`d3d9_surface.cpp`): where in the surface's memory the rows of
the rectangle are, and what `UnlockRect` copies of them.

* `staysInside_iff`: the rectangles whose rows stay inside the memory, with no overflow.
-/

namespace RemixBridge.Image
open Rows

/-- What the code reads of a `D3DSURFACE_DESC`. -/
structure Surface where
  width : Word
  height : Word
  format : D3DFORMAT

/-- A rectangle inside a surface. -/
structure Region (s : Surface) extends Rect where
  left_le : left.toNat ≤ right.toNat
  right_le : right.toNat ≤ s.width.toNat
  top_le : top.toNat ≤ bottom.toNat
  bottom_le : bottom.toNat ≤ s.height.toNat

/-- What `lock` computes: the pitch, the offset of `pBits`, and the size of the memory. -/
structure Lock where
  pitch : Word
  byteOffset : Word
  surfaceSize : Word

variable {s : Surface} {r : Region s} {bytesPerPixel : Word} {l : Lock} {rowSize totalSize : Word}

def Surface.lock (s : Surface) (rect : Rect) : Option Lock :=
  (calcRowSize .client32 s.width s.format).bind fun pitch =>
    (calcTotalSizeOfRect .client32 s.width s.height s.format).bind fun surfaceSize =>
      (calcImageByteOffset pitch rect s.format).map fun byteOffset =>
        ⟨pitch, byteOffset, surfaceSize⟩

/-- `getRectDimensions`. -/
def Rect.width (r : Rect) : Word := r.right - r.left

def Rect.height (r : Rect) : Word := r.bottom - r.top

/-- The bytes of a row of `n` pixels, as it is kept and copied. -/
def rowBytes (format : D3DFORMAT) (bytesPerPixel : Word) (n : Nat) : Nat :=
  max (MinSurfacePitch .client32).toNat (blocks format n * bytesPerPixel.toNat)

/-- The rows of a rectangle, as the application reaches them and as `UnlockRect` copies them, are
inside the memory of the surface, and no size is other than it would be without overflow. -/
structure StaysInside (s : Surface) (r : Region s) (bytesPerPixel : Word) (l : Lock)
    (rowSize totalSize : Word) : Prop where
  accessed (y x : Nat) : y < blocks s.format r.height.toNat →
    x < blocks s.format r.width.toNat * bytesPerPixel.toNat →
      l.byteOffset.toNat + y * l.pitch.toNat + x < l.surfaceSize.toNat
  copied (y : Nat) : y < (calcStride r.height s.format).toNat →
    l.byteOffset.toNat + (BitVec.ofNat 32 y * l.pitch).toNat + rowSize.toNat ≤ l.surfaceSize.toNat
  pitch_eq : l.pitch.toNat = rowBytes s.format bytesPerPixel s.width.toNat
  surfaceSize_eq : l.surfaceSize.toNat = blocks s.format s.height.toNat * l.pitch.toNat
  byteOffset_eq : l.byteOffset.toNat = blocks s.format r.top.toNat * l.pitch.toNat +
    bytesPerPixel.toNat * blocks s.format r.left.toNat
  rowSize_eq : rowSize.toNat = rowBytes s.format bytesPerPixel r.width.toNat
  totalSize_eq : totalSize.toNat = blocks s.format r.height.toNat * rowSize.toNat

/-- A lock of a rectangle, and its unlock, stay inside. -/
def LockStaysInside (s : Surface) (r : Region s) : Prop :=
  ∀ bytesPerPixel l rowSize totalSize, getBytesFromFormat s.format = some bytesPerPixel →
    s.lock r.toRect = some l → calcRowSize .client32 r.width s.format = some rowSize →
      calcTotalSizeOfRect .client32 r.width r.height s.format = some totalSize →
        StaysInside s r bytesPerPixel l rowSize totalSize

/-- No size overflows. -/
structure NoOverflow (s : Surface) (r : Region s) (bytesPerPixel : Word) : Prop where
  row : blocks s.format s.width.toNat * bytesPerPixel.toNat < 2 ^ 32
  total : blocks s.format s.height.toNat * rowBytes s.format bytesPerPixel s.width.toNat < 2 ^ 32
  offset : blocks s.format r.top.toNat * rowBytes s.format bytesPerPixel s.width.toNat +
    bytesPerPixel.toNat * blocks s.format r.left.toNat < 2 ^ 32

/-- A rectangle has no rows, or there are rows below its last one, or that is the last of the
surface and what is copied of it ends within the pitch. -/
def LastRowFits (s : Surface) (r : Region s) (bytesPerPixel : Word) : Prop :=
  let top := blocks s.format r.top.toNat
  let rows := blocks s.format (r.bottom.toNat - r.top.toNat)
  let left := bytesPerPixel.toNat * blocks s.format r.left.toNat
  let rowSize := rowBytes s.format bytesPerPixel (r.right.toNat - r.left.toNat)
  rows = 0 ∨ top + rows < blocks s.format s.height.toNat ∨
    top + rows = blocks s.format s.height.toNat ∧
      left + rowSize ≤ rowBytes s.format bytesPerPixel s.width.toNat

/-! ### What does not overflow -/

theorem Region.width_toNat (r : Region s) : r.width.toNat = r.right.toNat - r.left.toNat :=
  BitVec.toNat_sub_of_le (BitVec.le_def.mpr r.left_le)

theorem Region.height_toNat (r : Region s) : r.height.toNat = r.bottom.toNat - r.top.toNat :=
  BitVec.toNat_sub_of_le (BitVec.le_def.mpr r.top_le)

theorem four_le_rowBytes (format : D3DFORMAT) (bytesPerPixel : Word) (n : Nat) :
    4 ≤ rowBytes format bytesPerPixel n := le_max_left _ _

theorem rowBytes_mono (format : D3DFORMAT) {m n : Nat} (h : m ≤ n) :
    rowBytes format bytesPerPixel m ≤ rowBytes format bytesPerPixel n :=
  max_le_max_left _ (Nat.mul_le_mul_right _ (blocks_mono format h))

theorem calcRowSize_toNat {width : Word} {format : D3DFORMAT}
    (hbytes : getBytesFromFormat format = some bytesPerPixel)
    (hrow : calcRowSize .client32 width format = some rowSize)
    (hfit : blocks format width.toNat * bytesPerPixel.toNat < 2 ^ 32) :
    rowSize.toNat = rowBytes format bytesPerPixel width.toNat := by
  obtain ⟨rowSize', hrow', hsize⟩ := calcRowSize_eq .client32 width hbytes
  obtain rfl := Option.some.inj (hrow.symm.trans hrow')
  rw [hsize, Nat.mod_eq_of_lt hfit, rowBytes]

/-! ### A lock -/

theorem lock_eq (hbytes : getBytesFromFormat s.format = some bytesPerPixel)
    (hlock : s.lock r.toRect = some l) :
    calcRowSize .client32 s.width s.format = some l.pitch ∧
      l.surfaceSize = calcStride s.height s.format * l.pitch ∧
      l.byteOffset = calcStride r.top s.format * l.pitch +
        bytesPerPixel * calcStride r.left s.format := by
  simp only [Surface.lock, calcTotalSizeOfRect, calcImageByteOffset, hbytes, Option.map_some,
    Option.bind_eq_some_iff, Option.map_eq_some_iff, Option.some.injEq] at hlock
  obtain ⟨pitch, hpitch, size, ⟨pitch', hpitch', rfl⟩, rfl⟩ := hlock
  obtain rfl := Option.some.inj (hpitch.symm.trans hpitch')
  exact ⟨hpitch, rfl, rfl⟩

/-- Without overflow a lock computes what it should. -/
theorem NoOverflow.lock (h : NoOverflow s r bytesPerPixel)
    (hbytes : getBytesFromFormat s.format = some bytesPerPixel)
    (hlock : s.lock r.toRect = some l) :
    l.pitch.toNat = rowBytes s.format bytesPerPixel s.width.toNat ∧
      l.surfaceSize.toNat = blocks s.format s.height.toNat * l.pitch.toNat ∧
      l.byteOffset.toNat = blocks s.format r.top.toNat * l.pitch.toNat +
        bytesPerPixel.toNat * blocks s.format r.left.toNat := by
  obtain ⟨hrow, htotal, hoffset⟩ := h
  obtain ⟨hpitch, hsize, hoff⟩ := lock_eq hbytes hlock
  have hp := calcRowSize_toNat hbytes hpitch hrow
  rw [← hp] at htotal hoffset
  have hheight := calcStride_of_le (Nat.le_refl s.height.toNat)
    (fun _ => hp ▸ four_le_rowBytes s.format _ s.width.toNat) htotal
  have htop := calcStride_of_le (Nat.le_trans r.top_le r.bottom_le)
    (fun _ => hp ▸ four_le_rowBytes s.format _ s.width.toNat) htotal
  have hleft := calcStride_of_le (Nat.le_trans r.left_le r.right_le)
    (fun hne => by rcases bytes_of_blocks hne hbytes with rfl | rfl <;> decide) hrow
  refine ⟨hp, ?_, ?_⟩
  · rw [hsize, BitVec.toNat_mul, hheight, Nat.mod_eq_of_lt htotal]
  · rw [hoff, BitVec.toNat_add, BitVec.toNat_mul, BitVec.toNat_mul, htop, hleft,
      Nat.mod_eq_of_lt (by omega : blocks s.format r.top.toNat * l.pitch.toNat < 2 ^ 32),
      Nat.mod_eq_of_lt (by omega : bytesPerPixel.toNat * blocks s.format r.left.toNat < 2 ^ 32),
      Nat.mod_eq_of_lt hoffset]

/-- And the sizes that its unlock computes are those of a part. -/
theorem NoOverflow.unlock (h : NoOverflow s r bytesPerPixel)
    (hbytes : getBytesFromFormat s.format = some bytesPerPixel)
    (hrow : calcRowSize .client32 r.width s.format = some rowSize)
    (htotal : calcTotalSizeOfRect .client32 r.width r.height s.format = some totalSize) :
    rowSize.toNat = rowBytes s.format bytesPerPixel r.width.toNat ∧
      (calcStride r.height s.format).toNat = blocks s.format r.height.toNat ∧
      totalSize.toNat = blocks s.format r.height.toNat * rowSize.toNat := by
  have hw : r.width.toNat ≤ s.width.toNat := by
    have := r.right_le
    rw [r.width_toNat]
    omega
  have hh : r.height.toNat ≤ s.height.toNat := by
    have := r.bottom_le
    rw [r.height_toNat]
    omega
  have hfit : blocks s.format r.width.toNat * bytesPerPixel.toNat < 2 ^ 32 :=
    Nat.lt_of_le_of_lt (Nat.mul_le_mul_right _ (blocks_mono s.format hw)) h.row
  have hsize := calcRowSize_toNat hbytes hrow hfit
  have hrows := calcStride_of_le hh (fun _ => four_le_rowBytes s.format _ s.width.toNat) h.total
  have hle : blocks s.format r.height.toNat * rowSize.toNat < 2 ^ 32 := by
    refine Nat.lt_of_le_of_lt (Nat.mul_le_mul (blocks_mono s.format hh) ?_) h.total
    rw [hsize]
    exact rowBytes_mono s.format hw
  refine ⟨hsize, hrows, ?_⟩
  rw [calcTotalSizeOfRect, hrow, Option.map_some, Option.some_inj] at htotal
  rw [← htotal, BitVec.toNat_mul, hrows, Nat.mod_eq_of_lt hle]

theorem NoOverflow.mul_pitch (h : NoOverflow s r bytesPerPixel)
    (hp : l.pitch.toNat = rowBytes s.format bytesPerPixel s.width.toNat) {y : Nat}
    (hy : y < blocks s.format r.height.toNat) :
    (BitVec.ofNat 32 y * l.pitch).toNat = y * l.pitch.toNat := by
  have htotal := h.total
  have hheight : r.height.toNat ≤ s.height.toNat := by
    have := r.bottom_le
    rw [r.height_toNat]
    omega
  have hle := Nat.le_trans (Nat.le_of_lt hy) (blocks_mono s.format hheight)
  have hmul := Nat.mul_le_mul_right l.pitch.toNat hle
  have hblocks := blocks_lt s.format r.height
  rw [← hp] at htotal
  rw [BitVec.toNat_mul, BitVec.toNat_ofNat, Nat.mod_eq_of_lt (Nat.lt_trans hy hblocks),
    Nat.mod_eq_of_lt (Nat.lt_of_le_of_lt hmul htotal)]

/-- The rows that are copied end within the memory. -/
theorem lastRowFits_iff (r : Region s) (bytesPerPixel : Word) :
    LastRowFits s r bytesPerPixel ↔
      Inside (blocks s.format r.top.toNat * rowBytes s.format bytesPerPixel s.width.toNat +
          bytesPerPixel.toNat * blocks s.format r.left.toNat)
        (rowBytes s.format bytesPerPixel s.width.toNat)
        (rowBytes s.format bytesPerPixel r.width.toNat) (blocks s.format r.height.toNat)
        (blocks s.format s.height.toNat * rowBytes s.format bytesPerPixel s.width.toNat) := by
  have hright := r.right_le
  have hleft := r.left_le
  have hx : bytesPerPixel.toNat * blocks s.format r.left.toNat ≤
      rowBytes s.format bytesPerPixel s.width.toNat := by
    rw [Nat.mul_comm]
    exact Nat.le_trans (Nat.mul_le_mul_right _ (blocks_mono s.format (by omega)))
      (le_max_right _ _)
  have hw : rowBytes s.format bytesPerPixel r.width.toNat ≤
      rowBytes s.format bytesPerPixel s.width.toNat := by
    refine rowBytes_mono s.format ?_
    rw [r.width_toNat]
    omega
  have hmin := four_le_rowBytes s.format bytesPerPixel r.width.toNat
  rw [inside_iff, LastRowFits, ← r.width_toNat, ← r.height_toNat]
  rcases Nat.eq_zero_or_pos (blocks s.format r.height.toNat) with hzero | hpos
  · rw [hzero]
    simp
  · rw [last_row_iff hpos (by omega) hx hw]

theorem StaysInside.noOverflow (h : StaysInside s r bytesPerPixel l rowSize totalSize)
    (hbytes : getBytesFromFormat s.format = some bytesPerPixel)
    (hlock : s.lock r.toRect = some l) : NoOverflow s r bytesPerPixel := by
  obtain ⟨rowSize', hrow', hsize⟩ := calcRowSize_eq .client32 s.width hbytes
  obtain rfl := Option.some.inj ((lock_eq hbytes hlock).1.symm.trans hrow')
  have hpitch := h.pitch_eq
  refine ⟨?_, ?_, ?_⟩
  · have hmin : (MinSurfacePitch .client32).toNat = 4 := rfl
    rw [hsize, rowBytes, hmin] at hpitch
    have := Nat.mod_lt (blocks s.format s.width.toNat * bytesPerPixel.toNat)
      (by decide : 0 < 2 ^ 32)
    omega
  · rw [← hpitch, ← h.surfaceSize_eq]
    exact l.surfaceSize.isLt
  · rw [← hpitch, ← h.byteOffset_eq]
    exact l.byteOffset.isLt

/-- **Locked rectangles.**  The rows of a rectangle stay inside the memory of the surface, with no
overflow, if and only if the sizes fit in 32 bits and its last row fits. -/
theorem lockStaysInside_iff (s : Surface) (r : Region s) :
    LockStaysInside s r ↔ ∀ bytesPerPixel, getBytesFromFormat s.format = some bytesPerPixel →
      NoOverflow s r bytesPerPixel ∧ LastRowFits s r bytesPerPixel := by
  constructor
  · intro h bytesPerPixel hbytes
    obtain ⟨pitch, hpitch, -⟩ := calcRowSize_eq .client32 s.width hbytes
    obtain ⟨rowSize, hrow, -⟩ := calcRowSize_eq .client32 r.width hbytes
    have hlock : ∃ l, s.lock r.toRect = some l := by
      simp only [Surface.lock, calcTotalSizeOfRect, calcImageByteOffset, hpitch, hbytes,
        Option.bind_some, Option.map_some]
      exact ⟨_, rfl⟩
    obtain ⟨l, hlock⟩ := hlock
    have htotal : ∃ totalSize,
        calcTotalSizeOfRect .client32 r.width r.height s.format = some totalSize := by
      rw [calcTotalSizeOfRect, hrow]
      exact ⟨_, rfl⟩
    obtain ⟨totalSize, htotal⟩ := htotal
    have hstays := h bytesPerPixel l rowSize totalSize hbytes hlock hrow htotal
    have hno := hstays.noOverflow hbytes hlock
    obtain ⟨hp, hsize, hoff⟩ := hno.lock hbytes hlock
    obtain ⟨hrowSize, hrows, -⟩ := hno.unlock hbytes hrow htotal
    refine ⟨hno, (lastRowFits_iff r bytesPerPixel).mpr fun y hy => ?_⟩
    have hcopied := hstays.copied y (hrows ▸ hy)
    rw [hno.mul_pitch hp hy, hoff, hsize, hrowSize, hp] at hcopied
    exact hcopied
  · intro h bytesPerPixel l rowSize totalSize hbytes hlock hrow htotal
    obtain ⟨hno, hfits⟩ := h bytesPerPixel hbytes
    obtain ⟨hp, hsize, hoff⟩ := hno.lock hbytes hlock
    obtain ⟨hrowSize, hrows, htotalSize⟩ := hno.unlock hbytes hrow htotal
    have hinside := (lastRowFits_iff r bytesPerPixel).mp hfits
    rw [← hp, ← hrowSize, ← hsize, ← hoff] at hinside
    refine ⟨fun y x hy hx => ?_, fun y hy => ?_, hp, hsize, hoff, hrowSize, htotalSize⟩
    · have hle : blocks s.format r.width.toNat * bytesPerPixel.toNat ≤ rowSize.toNat :=
        hrowSize ▸ le_max_right _ _
      have := hinside y hy
      omega
    · have hy := hrows ▸ hy
      rw [hno.mul_pitch hp hy]
      exact hinside y hy

/-- A row of eight pixels of a byte, and the seventh of them. -/
def alphaRow : Surface := ⟨8, 1, .A8⟩

def seventhPixel : Region alphaRow where
  left := 6
  top := 0
  right := 7
  bottom := 1
  left_le := by decide
  right_le := by decide
  top_le := by decide
  bottom_le := by decide

/-- **A lock leaves the memory.**  Four bytes are copied from the seventh of eight. -/
theorem seventh_pixel_leaves : ¬ ∀ (s : Surface) (r : Region s), LockStaysInside s r := by
  intro hclaim
  have h := ((lockStaysInside_iff alphaRow seventhPixel).mp (hclaim _ _) 1 rfl).2
  revert h
  unfold LastRowFits
  decide

end RemixBridge.Image
