import RemixBridge.Image.Layout
import RemixBridge.Support.Rows

/-!
# Image — Volume

Locks of a box of a volume (`d3d9_volume.cpp`).  The pitches that a lock returns are counted in
blocks and in rows, not in bytes.

* `boxRows_iff`: the boxes whose rows are apart, inside the memory, and delivered.
-/

namespace RemixBridge.Image
open Rows

/-- A `D3DBOX`. -/
structure Box where
  Left : Word
  Top : Word
  Right : Word
  Bottom : Word
  Front : Word
  Back : Word
  deriving DecidableEq, Repr

/-- A `D3DLOCKED_BOX`, less `pBits`. -/
structure LockedBox where
  RowPitch : Word
  SlicePitch : Word
  deriving DecidableEq, Repr

/-- `getBoxDimensions`. -/
def Box.width (box : Box) : Word := box.Right - box.Left

def Box.height (box : Box) : Word := box.Bottom - box.Top

def Box.depth (box : Box) : Word := box.Back - box.Front

variable {format : D3DFORMAT} {box : Box} {bytesPerPixel : Word}

/-! ### The calls -/

/-- The pitches of a lock, and the size of the memory it allocates. -/
def LockBox (format : D3DFORMAT) (box : Box) : Option (LockedBox × Word) :=
  (getBytesFromFormat format).map fun bytesPerPixel =>
    let pixelsPerBlock := getBlockSize format
    let rowStride := (box.width + pixelsPerBlock - 1) / pixelsPerBlock
    let columnStride := (box.height + pixelsPerBlock - 1) / pixelsPerBlock
    (⟨rowStride, columnStride⟩, box.depth * columnStride * rowStride * bytesPerPixel)

/-- The byte at `x` of the row that the loops of the client copy. -/
def LockedBox.row (lockedVolume : LockedBox) (bits : Int → Byte) (z y x : Nat) : Byte :=
  bits ((BitVec.ofNat 32 y * lockedVolume.RowPitch).toNat +
    (BitVec.ofNat 32 z * lockedVolume.SlicePitch).toNat + x)

/-- The blob that `UnlockBox` sends of the memory at `pBits`; `none` if it throws or writes past the
end. -/
def UnlockBox (format : D3DFORMAT) (box : Box) (lockedVolume : LockedBox) (bits : Int → Byte) :
    Option (List Byte) :=
  (getBytesFromFormat format).bind fun bytesPerPixel =>
    let rowSize := lockedVolume.RowPitch * bytesPerPixel
    let totalSize := box.depth * lockedVolume.SlicePitch * rowSize
    if box.depth.toNat * (lockedVolume.SlicePitch.toNat * rowSize.toNat) ≤ totalSize.toNat then
      some ((List.range box.depth.toNat).flatMap fun z =>
        pack lockedVolume.SlicePitch.toNat rowSize.toNat (lockedVolume.row bits z))
    else none

/-- What the loops of the server copy to the row `(z, y)` of its box, from the numbers that the
client sends and the blob. -/
def serverRow (bytesPerPixel width height depth : Word) (data : List Byte) (z y : Nat) :
    Option (List Byte) :=
  let row_size := width * bytesPerPixel
  let slice_size := row_size * height
  if z < depth.toNat ∧ y < height.toNat then
    slice data ((BitVec.ofNat 32 y * row_size).toNat + (BitVec.ofNat 32 z * slice_size).toNat)
      row_size.toNat
  else none

/-! ### Rows -/

/-- A row of a box. -/
def IsRow (format : D3DFORMAT) (box : Box) (p : Nat × Nat) : Prop :=
  p.1 < box.depth.toNat ∧ p.2 < blocks format box.height.toNat

/-- Where an application finds a row: `z * SlicePitch + y * RowPitch`. -/
def LockedBox.addr (lockedVolume : LockedBox) (p : Nat × Nat) : Int :=
  p.1 * lockedVolume.SlicePitch.toInt + p.2 * lockedVolume.RowPitch.toInt

/-- The bytes of a row. -/
def rowLength (format : D3DFORMAT) (box : Box) (bytesPerPixel : Word) : Nat :=
  blocks format box.width.toNat * bytesPerPixel.toNat

/-- What a lock promises: rows that are apart and inside the memory, and an unlock that delivers
what has been written to them, in any order. -/
structure BoxRows (format : D3DFORMAT) (box : Box) (bytesPerPixel : Word) (lockedVolume : LockedBox)
    (size : Word) : Prop where
  apart : ∀ p p', IsRow format box p → IsRow format box p' → p ≠ p' →
    Apart lockedVolume.addr (rowLength format box bytesPerPixel) p p'
  inside : ∀ p (x : Nat), IsRow format box p → x < rowLength format box bytesPerPixel →
    0 ≤ lockedVolume.addr p + x ∧ lockedVolume.addr p + x < size.toNat
  delivered : ∀ (rows : List (Nat × Nat)) (content : Nat × Nat → Nat → Byte) (bits : Int → Byte),
    (∀ p, p ∈ rows ↔ IsRow format box p) → ∃ data,
      UnlockBox format box lockedVolume (storeAll lockedVolume.addr
        (rowLength format box bytesPerPixel) content rows bits) = some data ∧
      ∀ z y x, IsRow format box (z, y) → x < rowLength format box bytesPerPixel →
        (serverRow bytesPerPixel lockedVolume.RowPitch lockedVolume.SlicePitch box.depth data z
          y).bind (·[x]?) = some (content (z, y) x)

/-- The claim of a box. -/
def BoxIsDelivered (format : D3DFORMAT) (box : Box) : Prop :=
  ∀ bytesPerPixel lockedVolume size, getBytesFromFormat format = some bytesPerPixel →
    LockBox format box = some (lockedVolume, size) →
      BoxRows format box bytesPerPixel lockedVolume size

/-- There is nothing in a box, or only one row, or one byte to each step of its pitches. -/
def RowsMatchPitches (format : D3DFORMAT) (box : Box) (bytesPerPixel : Word) : Prop :=
  let depth := box.depth.toNat
  let columns := blocks format box.height.toNat
  let rowBlocks := blocks format box.width.toNat
  depth * columns = 0 ∨ rowBlocks * bytesPerPixel.toNat = 0 ∨
    (depth * columns = 1 ∨ bytesPerPixel.toNat = 1 ∧ (depth = 1 ∨ rowBlocks = 1)) ∧
      depth * columns * (rowBlocks * bytesPerPixel.toNat) < 2 ^ 32

/-! ### Pitches that are too small -/

section Arithmetic

variable {d c k b size : Nat} {slicePitch rowPitch : Int}

/-- The address of a row, from pitches. -/
def pitchAddr (slicePitch rowPitch : Int) (p : Nat × Nat) : Int :=
  p.1 * slicePitch + p.2 * rowPitch

section Apart

variable
  (hapart : ∀ p p' : Nat × Nat, p.1 < d ∧ p.2 < c → p'.1 < d ∧ p'.2 < c → p ≠ p' →
    Apart (pitchAddr slicePitch rowPitch) (k * b) p p')
  (hinside : ∀ p : Nat × Nat, p.1 < d ∧ p.2 < c → 0 ≤ pitchAddr slicePitch rowPitch p ∧
    pitchAddr slicePitch rowPitch p + (k * b : Nat) ≤ size)

include hapart hinside

/-- The second row of a slice. -/
theorem rowPitch_of_apart (hd : 0 < d) (hc : 2 ≤ c) (hlen : 0 < k * b)
    (hrow : rowPitch = k ∨ rowPitch < 0) : b = 1 ∧ rowPitch = k := by
  have h₀ := hapart (0, 0) (0, 1) ⟨hd, by omega⟩ ⟨hd, by omega⟩ (by decide)
  have h₁ := (hinside (0, 1) ⟨hd, by omega⟩).1
  simp only [Apart, pitchAddr] at h₀ h₁
  have hk : rowPitch = k := by
    rcases hrow with h | h
    · exact h
    · omega
  have hle : k * b ≤ k := by omega
  have hpos : 0 < k := Nat.pos_of_mul_pos_right hlen
  have hb : b ≤ 1 := Nat.le_of_mul_le_mul_left (by omega : k * b ≤ k * 1) hpos
  have : 0 < b := Nat.pos_of_mul_pos_left hlen
  exact ⟨by omega, hk⟩

/-- The first row of the second slice. -/
theorem slicePitch_of_apart (hd : 2 ≤ d) (hc : 0 < c) (hlen : 0 < k * b)
    (hslice : slicePitch = c ∨ slicePitch < 0) : k * b ≤ c ∧ slicePitch = c := by
  have h₀ := hapart (0, 0) (1, 0) ⟨by omega, hc⟩ ⟨hd, hc⟩ (by decide)
  have h₁ := (hinside (1, 0) ⟨hd, hc⟩).1
  simp only [Apart, pitchAddr] at h₀ h₁
  rcases hslice with h | h
  · exact ⟨by omega, h⟩
  · omega

/-- The row of the first slice where the second one starts. -/
theorem rowBlocks_of_apart (hd : 2 ≤ d) (hc : 2 ≤ c) (hb : b = 1) (hk : 0 < k)
    (hslice : slicePitch = c) (hrow : rowPitch = k) : k = 1 := by
  by_contra hne
  subst hb hslice hrow
  have hy : c / k < c := Nat.div_lt_self (by omega) (by omega)
  have hle := Nat.div_mul_le_self c k
  have hlt := Nat.lt_div_mul_add hk (a := c)
  have h := hapart (1, 0) (0, c / k) ⟨hd, by omega⟩ ⟨by omega, hy⟩ (by simp)
  simp only [Apart, pitchAddr] at h
  norm_cast at h
  omega

/-- If rows are apart and inside a memory, there is one, or there is a byte to each step. -/
theorem pitches_of_apart (hd : 0 < d) (hc : 0 < c) (hlen : 0 < k * b)
    (hslice : slicePitch = c ∨ slicePitch < 0) (hrow : rowPitch = k ∨ rowPitch < 0) :
    (d * c = 1 ∨ b = 1 ∧ (d = 1 ∨ k = 1)) ∧ d * c * (k * b) ≤ size := by
  have hk : 0 < k := Nat.pos_of_mul_pos_right hlen
  have hlast := (hinside (d - 1, c - 1) ⟨by omega, by omega⟩).2
  obtain ⟨d, rfl⟩ := Nat.exists_eq_add_of_lt hd
  obtain ⟨c, rfl⟩ := Nat.exists_eq_add_of_lt hc
  simp only [pitchAddr, Nat.zero_add, Nat.add_sub_cancel] at hlast
  rcases Nat.eq_zero_or_pos d with rfl | hd₂ <;> rcases Nat.eq_zero_or_pos c with rfl | hc₂
  · refine ⟨.inl rfl, ?_⟩
    simp only [Nat.cast_zero, zero_mul, Nat.zero_add] at hlast ⊢
    omega
  · obtain ⟨rfl, rfl⟩ := rowPitch_of_apart hapart hinside hd (by omega) hlen hrow
    refine ⟨.inr ⟨rfl, .inl rfl⟩, ?_⟩
    have hsum : (0 + 0 + 1) * (0 + c + 1) * (k * 1) = c * k + k * 1 := by ring
    rw [hsum]
    simp only [Nat.cast_zero, zero_mul, zero_add] at hlast
    exact_mod_cast hlast
  · obtain ⟨hle, rfl⟩ := slicePitch_of_apart hapart hinside (by omega) hc hlen hslice
    have hone : k * b = 1 := by omega
    obtain rfl := Nat.eq_one_of_mul_eq_one_right hone
    obtain rfl : b = 1 := by omega
    refine ⟨.inr ⟨rfl, .inr rfl⟩, ?_⟩
    simp only [Nat.cast_zero, zero_mul] at hlast
    push_cast at hlast
    omega
  · obtain ⟨rfl, rfl⟩ := rowPitch_of_apart hapart hinside hd (by omega) hlen hrow
    obtain ⟨-, rfl⟩ := slicePitch_of_apart hapart hinside (by omega) hc hlen hslice
    obtain rfl := rowBlocks_of_apart hapart hinside (by omega) (by omega) rfl hk rfl rfl
    refine ⟨.inr ⟨rfl, .inr rfl⟩, ?_⟩
    have hsum : (0 + d + 1) * (0 + c + 1) * (1 * 1) = d * (0 + c + 1) + c * 1 + 1 * 1 := by ring
    rw [hsum]
    exact_mod_cast hlast

end Apart

/-- Where there is a byte to each step, or one row, a row's address counts the rows before it. -/
theorem addr_of_match (h : d * c = 1 ∨ b = 1 ∧ (d = 1 ∨ k = 1)) {z y : Nat} (hz : z < d)
    (hy : y < c) : z * c + y * k = (z * c + y) * (k * b) := by
  rcases h with h | ⟨rfl, rfl | rfl⟩
  · obtain rfl := Nat.eq_one_of_mul_eq_one_right h
    obtain rfl : z = 0 := by omega
    obtain rfl : y = 0 := by omega
    simp
  · obtain rfl : z = 0 := by omega
    simp
  · simp

/-- Rows of an index of their own. -/
theorem index_lt {z y : Nat} (hz : z < d) (hy : y < c) : z * c + y + 1 ≤ d * c := by
  have hle : (z + 1) * c ≤ d * c := Nat.mul_le_mul_right c hz
  rw [Nat.succ_mul] at hle
  omega

theorem index_inj {z y z' y' : Nat} (hy : y < c) (hy' : y' < c) (h : z * c + y = z' * c + y') :
    z = z' ∧ y = y' := by
  have hc : 0 < c := by omega
  have hz : z = z' := by
    have hdiv := congrArg (· / c) h
    simpa only [Nat.add_comm (_ * c), Nat.add_mul_div_right _ _ hc,
      Nat.div_eq_of_lt hy, Nat.div_eq_of_lt hy', Nat.zero_add] using hdiv
  subst hz
  exact ⟨rfl, by omega⟩

end Arithmetic

/-! ### A lock -/

variable {lockedVolume : LockedBox} {size : Word}

theorem LockBox_eq (hbytes : getBytesFromFormat format = some bytesPerPixel)
    (hlock : LockBox format box = some (lockedVolume, size)) :
    lockedVolume.RowPitch = calcStride box.width format ∧
      lockedVolume.SlicePitch = calcStride box.height format ∧
      size = box.depth * lockedVolume.SlicePitch * lockedVolume.RowPitch * bytesPerPixel := by
  rw [LockBox, hbytes, Option.map_some] at hlock
  cases hlock
  exact ⟨rfl, rfl, rfl⟩

theorem four_le_bytes (hbytes : getBytesFromFormat format = some bytesPerPixel)
    (hblock : getBlockSize format ≠ 1) : 4 ≤ bytesPerPixel.toNat := by
  rcases bytes_of_blocks hblock hbytes with rfl | rfl <;> decide

theorem toInt_eq_or_neg (w : Word) : w.toInt = w.toNat ∨ w.toInt < 0 := by
  rw [BitVec.toInt_eq_toNat_cond]
  have := w.isLt
  split
  · exact .inl rfl
  · exact .inr (by omega)

/-- The pitches of a lock whose rows are inside the memory. -/
theorem pitches_of_inside (hbytes : getBytesFromFormat format = some bytesPerPixel)
    (hlock : LockBox format box = some (lockedVolume, size))
    (hlen : 0 < rowLength format box bytesPerPixel)
    (hinside : rowLength format box bytesPerPixel ≤ size.toNat) :
    lockedVolume.RowPitch.toNat = blocks format box.width.toNat ∧
      lockedVolume.SlicePitch.toNat = blocks format box.height.toNat := by
  obtain ⟨hrow, hslice, hsize⟩ := LockBox_eq hbytes hlock
  refine ⟨?_, ?_⟩
  · rw [hrow]
    exact calcStride_of_le (Nat.le_refl _) (four_le_bytes hbytes)
      (Nat.lt_of_le_of_lt hinside size.isLt)
  · rw [hslice]
    refine calcStride_toNat ?_
    by_contra hno
    obtain ⟨hblock, hheight⟩ := not_or.mp hno
    have hzero := (blocks_wrapped ((getBlockSize_eq format).resolve_left hblock)
      (Nat.le_of_not_lt hheight)).1
    have hnone : size = 0 := by
      rw [hsize, hslice, hzero]
      simp
    rw [hnone] at hinside
    have h0 : (0 : Word).toNat = 0 := rfl
    omega

/-- **From the rows to the pitches.** -/
theorem BoxRows.rowsMatchPitches (h : BoxRows format box bytesPerPixel lockedVolume size)
    (hbytes : getBytesFromFormat format = some bytesPerPixel)
    (hlock : LockBox format box = some (lockedVolume, size)) :
    RowsMatchPitches format box bytesPerPixel := by
  rw [RowsMatchPitches]
  rcases Nat.eq_zero_or_pos (box.depth.toNat * blocks format box.height.toNat) with hzero | hrows
  · exact .inl hzero
  rcases Nat.eq_zero_or_pos (rowLength format box bytesPerPixel) with hzero | hlen
  · exact .inr (.inl hzero)
  have hd : 0 < box.depth.toNat := Nat.pos_of_mul_pos_right hrows
  have hc : 0 < blocks format box.height.toNat := Nat.pos_of_mul_pos_left hrows
  have hinside (p : Nat × Nat) (hp : IsRow format box p) : 0 ≤ lockedVolume.addr p ∧
      lockedVolume.addr p + rowLength format box bytesPerPixel ≤ size.toNat := by
    have hfirst := (h.inside p 0 hp hlen).1
    have hlast := (h.inside p (rowLength format box bytesPerPixel - 1) hp (by omega)).2
    omega
  have hfirst := (hinside (0, 0) ⟨hd, hc⟩).2
  simp only [LockedBox.addr, Nat.cast_zero, zero_mul, zero_add] at hfirst
  obtain ⟨hrow, hslice⟩ := pitches_of_inside hbytes hlock hlen (by exact_mod_cast hfirst)
  obtain ⟨hmatch, htotal⟩ := pitches_of_apart h.apart hinside hd hc hlen
    (hslice ▸ toInt_eq_or_neg lockedVolume.SlicePitch)
    (hrow ▸ toInt_eq_or_neg lockedVolume.RowPitch)
  exact .inr (.inr ⟨hmatch, Nat.lt_of_le_of_lt htotal size.isLt⟩)

/-- A lock whose rows there is a byte to each step of. -/
structure Matched (format : D3DFORMAT) (box : Box) (bytesPerPixel : Word)
    (lockedVolume : LockedBox) (size : Word) : Prop where
  rowPitch : lockedVolume.RowPitch.toNat = blocks format box.width.toNat
  slicePitch : lockedVolume.SlicePitch.toNat = blocks format box.height.toNat
  rowSize : (lockedVolume.RowPitch * bytesPerPixel).toNat = rowLength format box bytesPerPixel
  size : size.toNat = box.depth.toNat *
    (blocks format box.height.toNat * rowLength format box bytesPerPixel)
  addr : ∀ z y, IsRow format box (z, y) → lockedVolume.addr (z, y) =
    ((z * blocks format box.height.toNat + y) * rowLength format box bytesPerPixel : Nat)
  offset : ∀ z y, IsRow format box (z, y) →
    ((BitVec.ofNat 32 y * lockedVolume.RowPitch).toNat +
      (BitVec.ofNat 32 z * lockedVolume.SlicePitch).toNat : Nat) =
    (z * blocks format box.height.toNat + y) * rowLength format box bytesPerPixel

/-- A product that does not wrap. -/
theorem toNat_ofNat_mul {n : Nat} {w : Word} (hn : n < 2 ^ 32) (h : n * w.toNat < 2 ^ 32) :
    (BitVec.ofNat 32 n * w).toNat = n * w.toNat := by
  rw [BitVec.toNat_mul, BitVec.toNat_ofNat, Nat.mod_eq_of_lt hn, Nat.mod_eq_of_lt h]

/-- A pitch that is stepped by is not negative. -/
theorem mul_toInt {n m : Nat} {w : Word} (hn : n < m) (h : m * w.toNat < 2 ^ 32) :
    (n : Int) * w.toInt = (n * w.toNat : Nat) := by
  rcases Nat.eq_zero_or_pos n with rfl | hpos
  · simp
  · have hle : 2 * w.toNat ≤ m * w.toNat := Nat.mul_le_mul_right _ (by omega)
    rw [BitVec.toInt_eq_toNat_of_lt (by omega), Nat.cast_mul]

theorem matched_of_match (hbytes : getBytesFromFormat format = some bytesPerPixel)
    (hlock : LockBox format box = some (lockedVolume, size))
    (hd : 0 < box.depth.toNat) (hc : 0 < blocks format box.height.toNat)
    (hlen : 0 < rowLength format box bytesPerPixel)
    (hmatch : box.depth.toNat * blocks format box.height.toNat = 1 ∨ bytesPerPixel.toNat = 1 ∧
      (box.depth.toNat = 1 ∨ blocks format box.width.toNat = 1))
    (htotal : box.depth.toNat * blocks format box.height.toNat *
      rowLength format box bytesPerPixel < 2 ^ 32) :
    Matched format box bytesPerPixel lockedVolume size := by
  obtain ⟨hrow, hslice, hsize⟩ := LockBox_eq hbytes hlock
  have hb : 0 < bytesPerPixel.toNat := Nat.pos_of_mul_pos_left hlen
  have hk : 0 < blocks format box.width.toNat := Nat.pos_of_mul_pos_right hlen
  have hrows : box.depth.toNat * blocks format box.height.toNat ≤
      box.depth.toNat * blocks format box.height.toNat * rowLength format box bytesPerPixel :=
    Nat.le_mul_of_pos_right _ hlen
  have hslicefit :
      blocks format box.height.toNat * rowLength format box bytesPerPixel < 2 ^ 32 := by
    refine Nat.lt_of_le_of_lt ?_ htotal
    rw [Nat.mul_assoc]
    exact Nat.le_mul_of_pos_left _ hd
  have hrowfit : rowLength format box bytesPerPixel < 2 ^ 32 :=
    Nat.lt_of_le_of_lt (Nat.le_mul_of_pos_left _ hc) hslicefit
  have hr : lockedVolume.RowPitch.toNat = blocks format box.width.toNat := by
    rw [hrow]
    exact calcStride_of_le (Nat.le_refl _) (four_le_bytes hbytes) hrowfit
  have hs : lockedVolume.SlicePitch.toNat = blocks format box.height.toNat := by
    rw [hslice]
    refine calcStride_of_le (Nat.le_refl _) (fun hne => ?_) hslicefit
    exact Nat.le_trans (four_le_bytes hbytes hne) (Nat.le_mul_of_pos_left _ hk)
  have hsteps : blocks format box.height.toNat * lockedVolume.RowPitch.toNat < 2 ^ 32 := by
    rw [hr]
    refine Nat.lt_of_le_of_lt (Nat.mul_le_mul_left _ ?_) hslicefit
    exact Nat.le_mul_of_pos_right _ hb
  have hslices : box.depth.toNat * lockedVolume.SlicePitch.toNat < 2 ^ 32 := by
    rw [hs]
    omega
  have haddr {z y : Nat} (h : IsRow format box (z, y)) :
      z * blocks format box.height.toNat + y * blocks format box.width.toNat =
        (z * blocks format box.height.toNat + y) * rowLength format box bytesPerPixel :=
    addr_of_match hmatch h.1 h.2
  refine ⟨hr, hs, ?_, ?_, fun z y h => ?_, fun z y h => ?_⟩
  · rw [BitVec.toNat_mul, hr]
    exact Nat.mod_eq_of_lt hrowfit
  · have hblocks : box.depth.toNat * blocks format box.height.toNat *
        blocks format box.width.toNat ≤ box.depth.toNat * blocks format box.height.toNat *
          rowLength format box bytesPerPixel :=
      Nat.mul_le_mul_left _ (Nat.le_mul_of_pos_right _ hb)
    rw [hsize, BitVec.toNat_mul, BitVec.toNat_mul, BitVec.toNat_mul, hr, hs,
      Nat.mod_eq_of_lt (Nat.lt_of_le_of_lt hrows htotal),
      Nat.mod_eq_of_lt (Nat.lt_of_le_of_lt hblocks htotal), Nat.mul_assoc, Nat.mul_assoc]
    rw [Nat.mul_assoc] at htotal
    exact Nat.mod_eq_of_lt htotal
  · rw [LockedBox.addr, mul_toInt h.1 hslices, mul_toInt h.2 hsteps, ← haddr h, hr, hs,
      Nat.cast_add]
  · have hlty := Nat.mul_le_mul_right lockedVolume.RowPitch.toNat (Nat.le_of_lt h.2)
    have hltz := Nat.mul_le_mul_right lockedVolume.SlicePitch.toNat (Nat.le_of_lt h.1)
    rw [toNat_ofNat_mul (Nat.lt_trans h.2 (blocks_lt format box.height)) (by omega),
      toNat_ofNat_mul (Nat.lt_trans h.1 box.depth.isLt) (by omega), hr, hs, ← haddr h, Nat.add_comm]

namespace Matched

variable (h : Matched format box bytesPerPixel lockedVolume size)

include h

theorem apart {p p' : Nat × Nat} (hp : IsRow format box p) (hp' : IsRow format box p')
    (hne : p ≠ p') : Apart lockedVolume.addr (rowLength format box bytesPerPixel) p p' := by
  obtain ⟨z, y⟩ := p
  obtain ⟨z', y'⟩ := p'
  have hidx :
      z * blocks format box.height.toNat + y ≠ z' * blocks format box.height.toNat + y' := by
    intro he
    obtain ⟨rfl, rfl⟩ := index_inj hp.2 hp'.2 he
    exact hne rfl
  rw [Apart, h.addr z y hp, h.addr z' y' hp']
  rcases Nat.lt_or_gt_of_ne hidx with hlt | hgt
  · have := Nat.mul_le_mul_right (rowLength format box bytesPerPixel) hlt
    rw [Nat.succ_mul] at this
    exact .inl (by exact_mod_cast this)
  · have := Nat.mul_le_mul_right (rowLength format box bytesPerPixel) hgt
    rw [Nat.succ_mul] at this
    exact .inr (by exact_mod_cast this)

theorem inside {p : Nat × Nat} (hp : IsRow format box p) : 0 ≤ lockedVolume.addr p ∧
    lockedVolume.addr p + rowLength format box bytesPerPixel ≤ size.toNat := by
  obtain ⟨z, y⟩ := p
  have hle := Nat.mul_le_mul_right (rowLength format box bytesPerPixel) (index_lt hp.1 hp.2)
  rw [Nat.succ_mul, Nat.mul_assoc] at hle
  rw [h.addr z y hp, h.size]
  exact ⟨Int.natCast_nonneg _, by exact_mod_cast hle⟩

/-- The blob holds the rows, one after another. -/
theorem unlockBox (hbytes : getBytesFromFormat format = some bytesPerPixel) (bits : Int → Byte) :
    UnlockBox format box lockedVolume bits = some ((List.range box.depth.toNat).flatMap fun z =>
      pack (blocks format box.height.toNat) (rowLength format box bytesPerPixel)
        (lockedVolume.row bits z)) := by
  have hsize := size.isLt
  rw [h.size] at hsize
  rw [UnlockBox, hbytes, Option.bind_some]
  dsimp only
  rw [h.rowSize, h.slicePitch, if_pos]
  rw [BitVec.toNat_mul, BitVec.toNat_mul, h.rowSize, h.slicePitch, Nat.mod_mul_mod, Nat.mul_assoc,
    Nat.mod_eq_of_lt hsize]

/-- A row is delivered as it is in the memory. -/
theorem serverRow_eq (bits : Int → Byte) {z y : Nat} (hp : IsRow format box (z, y)) :
    serverRow bytesPerPixel lockedVolume.RowPitch lockedVolume.SlicePitch box.depth
        ((List.range box.depth.toNat).flatMap fun z =>
          pack (blocks format box.height.toNat) (rowLength format box bytesPerPixel)
            (lockedVolume.row bits z)) z y =
      some ((List.range (rowLength format box bytesPerPixel)).map (lockedVolume.row bits z y)) := by
  have hsize := size.isLt
  rw [h.size] at hsize
  have hslicefit : blocks format box.height.toNat * rowLength format box bytesPerPixel < 2 ^ 32 :=
    Nat.lt_of_le_of_lt (Nat.le_mul_of_pos_left _ (Nat.zero_lt_of_lt hp.1)) hsize
  have hslice : (lockedVolume.RowPitch * bytesPerPixel * lockedVolume.SlicePitch).toNat =
      blocks format box.height.toNat * rowLength format box bytesPerPixel := by
    rw [BitVec.toNat_mul, h.rowSize, h.slicePitch, Nat.mul_comm, Nat.mod_eq_of_lt hslicefit]
  have hy : (BitVec.ofNat 32 y * (lockedVolume.RowPitch * bytesPerPixel)).toNat =
      y * rowLength format box bytesPerPixel := by
    have hle := Nat.mul_le_mul_right (rowLength format box bytesPerPixel) (Nat.le_of_lt hp.2)
    rw [toNat_ofNat_mul (Nat.lt_trans hp.2 (blocks_lt format box.height))
      (by rw [h.rowSize]; omega), h.rowSize]
  have hz : (BitVec.ofNat 32 z *
      (lockedVolume.RowPitch * bytesPerPixel * lockedVolume.SlicePitch)).toNat =
      z * (blocks format box.height.toNat * rowLength format box bytesPerPixel) := by
    have hle := Nat.mul_le_mul_right
      (blocks format box.height.toNat * rowLength format box bytesPerPixel) (Nat.le_of_lt hp.1)
    rw [toNat_ofNat_mul (Nat.lt_trans hp.1 box.depth.isLt) (by rw [hslice]; omega), hslice]
  have hfit : y * rowLength format box bytesPerPixel + rowLength format box bytesPerPixel ≤
      blocks format box.height.toNat * rowLength format box bytesPerPixel := by
    rw [← Nat.succ_mul]
    exact Nat.mul_le_mul_right _ hp.2
  rw [Image.serverRow, hy, hz, h.rowSize, h.slicePitch, if_pos ⟨hp.1, hp.2⟩, Nat.add_comm,
    slice_parts (fun _ => length_pack _ _ _) hp.1 hfit, slice_pack _ hp.2]

/-- What an application has written to a row is there. -/
theorem row_storeAll {rows : List (Nat × Nat)} (hrows : ∀ p, p ∈ rows ↔ IsRow format box p)
    (content : Nat × Nat → Nat → Byte) (bits : Int → Byte) {z y x : Nat}
    (hp : IsRow format box (z, y)) (hx : x < rowLength format box bytesPerPixel) :
    lockedVolume.row (storeAll lockedVolume.addr (rowLength format box bytesPerPixel) content rows
      bits) z y x = content (z, y) x := by
  have hoff : ((BitVec.ofNat 32 y * lockedVolume.RowPitch).toNat : Int) +
      (BitVec.ofNat 32 z * lockedVolume.SlicePitch).toNat = lockedVolume.addr (z, y) := by
    rw [h.addr z y hp, ← h.offset z y hp, Nat.cast_add]
  rw [LockedBox.row, hoff]
  refine storeAll_apply (fun p hp p' hp' hne => ?_) ((hrows _).mpr hp) hx bits
  exact h.apart ((hrows p).mp hp) ((hrows p').mp hp') hne

theorem boxRows (hbytes : getBytesFromFormat format = some bytesPerPixel) :
    BoxRows format box bytesPerPixel lockedVolume size where
  apart _ _ hp hp' hne := h.apart hp hp' hne
  inside p x hp hx := by
    have := h.inside hp
    omega
  delivered rows content bits hrows := by
    refine ⟨_, h.unlockBox hbytes _, fun z y x hp hx => ?_⟩
    rw [h.serverRow_eq _ hp, Option.bind_some, List.getElem?_map, List.getElem?_range hx,
      Option.map_some, h.row_storeAll hrows content bits hp hx]

end Matched

/-- Where there is nothing to deliver, there is nothing wrong. -/
theorem boxRows_of_empty (hbytes : getBytesFromFormat format = some bytesPerPixel)
    (hlock : LockBox format box = some (lockedVolume, size))
    (hempty : box.depth.toNat * blocks format box.height.toNat = 0 ∨
      rowLength format box bytesPerPixel = 0) :
    BoxRows format box bytesPerPixel lockedVolume size := by
  obtain ⟨hrow, hslice, -⟩ := LockBox_eq hbytes hlock
  have hlen {p : Nat × Nat} (hp : IsRow format box p) : rowLength format box bytesPerPixel = 0 :=
    hempty.resolve_left (Nat.ne_of_gt (Nat.mul_pos (Nat.zero_lt_of_lt hp.1)
      (Nat.zero_lt_of_lt hp.2)))
  refine ⟨fun p p' hp _ _ => ?_, fun p x hp hx => ?_, fun rows content bits _ => ?_⟩
  · rw [Apart, hlen hp, Nat.cast_zero, add_zero, add_zero]
    exact le_total _ _
  · rw [hlen hp] at hx
    cases hx
  · have hnone : box.depth.toNat * (lockedVolume.SlicePitch.toNat *
        (lockedVolume.RowPitch * bytesPerPixel).toNat) = 0 := by
      rcases hempty with hzero | hzero
      · rcases Nat.mul_eq_zero.mp hzero with hd | hc
        · rw [hd, Nat.zero_mul]
        · have hfit : blocks format box.height.toNat * 4 < 2 ^ 32 := by omega
          rw [hslice, calcStride_of_le (Nat.le_refl _) (fun _ => Nat.le_refl 4) hfit, hc,
            Nat.zero_mul, Nat.mul_zero]
      · have hsize : (lockedVolume.RowPitch * bytesPerPixel).toNat = 0 := by
          rw [hrow, calcStride_mul_toNat hbytes]
          rw [rowLength] at hzero
          rw [hzero, Nat.zero_mod]
        rw [hsize, Nat.mul_zero, Nat.mul_zero]
    have hsent (bits : Int → Byte) :
        ∃ data, UnlockBox format box lockedVolume bits = some data := by
      rw [UnlockBox, hbytes, Option.bind_some]
      dsimp only
      rw [if_pos (by omega)]
      exact ⟨_, rfl⟩
    obtain ⟨data, hdata⟩ := hsent _
    refine ⟨data, hdata, fun z y x hp hx => ?_⟩
    rw [hlen hp] at hx
    cases hx

/-- **Rows of a box.**  They are apart, inside the memory and delivered if and only if there is
nothing in the box, or its size fits in 32 bits and it has one row, or a byte to each block and one
slice, or a byte to each block and one block to each row. -/
theorem boxIsDelivered_iff (format : D3DFORMAT) (box : Box) :
    BoxIsDelivered format box ↔ ∀ bytesPerPixel,
      getBytesFromFormat format = some bytesPerPixel →
        RowsMatchPitches format box bytesPerPixel := by
  constructor
  · intro h bytesPerPixel hbytes
    have hlock : ∃ lockedVolume size, LockBox format box = some (lockedVolume, size) := by
      rw [LockBox, hbytes]
      exact ⟨_, _, rfl⟩
    obtain ⟨lockedVolume, size, hlock⟩ := hlock
    exact (h bytesPerPixel lockedVolume size hbytes hlock).rowsMatchPitches hbytes hlock
  · intro h bytesPerPixel lockedVolume size hbytes hlock
    have hcond := h bytesPerPixel hbytes
    rw [RowsMatchPitches] at hcond
    rcases Nat.eq_zero_or_pos (box.depth.toNat * blocks format box.height.toNat) with hzero | hrows
    · exact boxRows_of_empty hbytes hlock (.inl hzero)
    rcases Nat.eq_zero_or_pos (rowLength format box bytesPerPixel) with hzero | hlen
    · exact boxRows_of_empty hbytes hlock (.inr hzero)
    rcases hcond with hzero | hzero | ⟨hmatch, htotal⟩
    · omega
    · exact absurd hzero (Nat.ne_of_gt hlen)
    · exact (matched_of_match hbytes hlock (Nat.pos_of_mul_pos_right hrows)
        (Nat.pos_of_mul_pos_left hrows) hlen hmatch htotal).boxRows hbytes

/-- Two rows of one pixel of four bytes. -/
def twoRows : Box := ⟨0, 0, 1, 2, 0, 1⟩

/-- **Rows overlap.**  The second row starts a byte after the first one. -/
theorem two_rows_overlap : ¬ ∀ (format : D3DFORMAT) (box : Box), BoxIsDelivered format box := by
  intro hclaim
  have h := (boxIsDelivered_iff .A8R8G8B8 twoRows).mp (hclaim _ _) 4 rfl
  revert h
  unfold RowsMatchPitches
  decide

end RemixBridge.Image
