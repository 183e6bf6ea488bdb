import RemixBridge.Calls.DeviceCall
import RemixBridge.Support.MipChain

/-!
# Image — MipLevels

The levels that the client gives a texture which is created with `Levels` 0.  It counts them itself
and sends the count.

* `levels_length`: the server is told of as many levels as the client has.
* `creates_chain_iff`: they are the levels down to 1 by 1 if and only if the largest dimension is
  a power of 2.
-/

namespace RemixBridge.Image

open MipChain

structure TEXTURE_DESC where
  Width : Word
  Height : Word
  Depth : Word
  Levels : Word
  Usage : Word
  Format : Word
  Pool : Word

/-- `std::max`, of `UINT`s. -/
def maxUINT (a b : Word) : Word := if a.toNat < b.toNat then b else a

/-- The description that `Direct3DBaseTexture9_LSS` keeps. -/
def TEXTURE_DESC.sanitize (desc : TEXTURE_DESC) : TEXTURE_DESC :=
  { desc with
    Width := maxUINT desc.Width 1
    Height := maxUINT desc.Height 1
    Depth := maxUINT desc.Depth 1
    Levels := maxUINT desc.Levels 1 }

/-- The logarithm to the base 2 is exact enough in a `double` that its `ceil` is that of the
number. -/
def CalculateNumMipLevels (width height depth : Word) : Word :=
  .ofNat 32 (Nat.clog 2 (max depth.toNat (max width.toNat height.toNat))) + 1

inductive CreateCall where
  | CreateTexture (Width Height Levels Usage Format Pool : Word)
  | CreateVolumeTexture (Width Height Depth Levels Usage Format Pool : Word)
  | CreateCubeTexture (EdgeLength Levels Usage Format Pool : Word)

namespace CreateCall

/-- The `Levels` that the call is given. -/
def givenLevels : CreateCall → Word
  | .CreateTexture _ _ Levels _ _ _ | .CreateVolumeTexture _ _ _ Levels _ _ _
  | .CreateCubeTexture _ Levels _ _ _ => Levels

/-- The `Levels` that it goes on with. -/
def Levels : CreateCall → Word
  | .CreateTexture Width Height Levels _ _ _ =>
      if Levels = 0 then CalculateNumMipLevels Width Height 1 else Levels
  | .CreateVolumeTexture Width Height Depth Levels _ _ _ =>
      if Levels = 0 then CalculateNumMipLevels Width Height Depth else Levels
  | .CreateCubeTexture EdgeLength Levels _ _ _ =>
      if Levels = 0 then CalculateNumMipLevels EdgeLength 1 1 else Levels

/-- The description that the client's texture is created with. -/
def desc (c : CreateCall) : TEXTURE_DESC :=
  match c with
  | .CreateTexture Width Height _ Usage Format Pool =>
      ⟨Width, Height, 1, c.Levels, Usage, Format, Pool⟩
  | .CreateVolumeTexture Width Height Depth _ Usage Format Pool =>
      ⟨Width, Height, Depth, c.Levels, Usage, Format, Pool⟩
  | .CreateCubeTexture EdgeLength _ Usage Format Pool =>
      ⟨EdgeLength, EdgeLength, 6, c.Levels, Usage, Format, Pool⟩

/-- What the server is told, of a texture with an id. -/
def send (c : CreateCall) (id : Word) : DeviceCall :=
  match c with
  | .CreateTexture Width Height _ Usage Format Pool =>
      .CreateTexture Width Height c.Levels Usage Format Pool id
  | .CreateVolumeTexture Width Height Depth _ Usage Format Pool =>
      .CreateVolumeTexture Width Height Depth c.Levels Usage Format Pool id
  | .CreateCubeTexture EdgeLength _ Usage Format Pool =>
      .CreateCubeTexture EdgeLength c.Levels Usage Format Pool id

/-- The size of a level (`getLevelDesc`); the levels of a volume have a depth. -/
def levelSize (c : CreateCall) (level : Nat) : List Nat :=
  let desc := c.desc.sanitize
  match c with
  | .CreateVolumeTexture .. =>
      [(maxUINT 1 (desc.Width >>> level)).toNat, (maxUINT 1 (desc.Height >>> level)).toNat,
        (maxUINT 1 (desc.Depth >>> level)).toNat]
  | .CreateTexture .. | .CreateCubeTexture .. =>
      [(maxUINT 1 (desc.Width >>> level)).toNat, (maxUINT 1 (desc.Height >>> level)).toNat]

/-- The levels of the client's texture. -/
def levels (c : CreateCall) : List (List Nat) :=
  (List.range c.desc.sanitize.Levels.toNat).map c.levelSize

/-- The size that the call is given. -/
def size : CreateCall → List Nat
  | .CreateTexture Width Height _ _ _ _ => [Width.toNat, Height.toNat]
  | .CreateVolumeTexture Width Height Depth _ _ _ _ => [Width.toNat, Height.toNat, Depth.toNat]
  | .CreateCubeTexture EdgeLength _ _ _ _ => [EdgeLength.toNat, EdgeLength.toNat]

end CreateCall

/-- The `Levels` of a command that creates a texture. -/
def sentLevels : DeviceCall → Option Word
  | .CreateTexture _ _ Levels _ _ _ _ | .CreateVolumeTexture _ _ _ Levels _ _ _ _
  | .CreateCubeTexture _ Levels _ _ _ _ => some Levels
  | _ => none

/-! ### The levels the client has -/

theorem maxUINT_toNat (a b : Word) : (maxUINT a b).toNat = max a.toNat b.toNat := by
  unfold maxUINT
  split <;> omega

theorem maxUINT_one {a : Word} (h : 1 ≤ a.toNat) : maxUINT a 1 = a := by
  refine if_neg ?_
  show ¬ a.toNat < 1
  omega

theorem levelSize_toNat (a : Word) (level : Nat) :
    (maxUINT 1 (a >>> level)).toNat = max 1 (a.toNat / 2 ^ level) := by
  rw [maxUINT_toNat, BitVec.toNat_ushiftRight, Nat.shiftRight_eq_div_pow]
  rfl

theorem calculateNumMipLevels_toNat (width height depth : Word) :
    (CalculateNumMipLevels width height depth).toNat =
      Nat.clog 2 (max depth.toNat (max width.toNat height.toNat)) + 1 := by
  have hle : Nat.clog 2 (max depth.toNat (max width.toNat height.toNat)) ≤ 32 := by
    refine Nat.clog_le_of_le_pow ?_
    have := width.isLt
    have := height.isLt
    have := depth.isLt
    omega
  unfold CalculateNumMipLevels
  rw [BitVec.toNat_add, BitVec.toNat_ofNat]
  show (_ % 2 ^ 32 + 1) % 2 ^ 32 = _
  omega

namespace CreateCall

variable {c : CreateCall}

theorem levelSize_eq (hpos : ∀ d ∈ c.size, 1 ≤ d) (k : Nat) : c.levelSize k = level c.size k := by
  cases c with
  | CreateTexture Width Height Levels Usage Format Pool =>
      have hw : maxUINT Width 1 = Width := maxUINT_one (hpos _ (by simp [size]))
      have hh : maxUINT Height 1 = Height := maxUINT_one (hpos _ (by simp [size]))
      simp only [levelSize, desc, TEXTURE_DESC.sanitize, hw, hh, levelSize_toNat]
      rfl
  | CreateVolumeTexture Width Height Depth Levels Usage Format Pool =>
      have hw : maxUINT Width 1 = Width := maxUINT_one (hpos _ (by simp [size]))
      have hh : maxUINT Height 1 = Height := maxUINT_one (hpos _ (by simp [size]))
      have hd : maxUINT Depth 1 = Depth := maxUINT_one (hpos _ (by simp [size]))
      simp only [levelSize, desc, TEXTURE_DESC.sanitize, hw, hh, hd, levelSize_toNat]
      rfl
  | CreateCubeTexture EdgeLength Levels Usage Format Pool =>
      have he : maxUINT EdgeLength 1 = EdgeLength := maxUINT_one (hpos _ (by simp [size]))
      simp only [levelSize, desc, TEXTURE_DESC.sanitize, he, levelSize_toNat]
      rfl

theorem levels_count (hauto : c.givenLevels = 0) (hpos : ∀ d ∈ c.size, 1 ≤ d) :
    c.Levels.toNat = Nat.clog 2 (largest c.size) + 1 := by
  cases c with
  | CreateTexture Width Height Levels Usage Format Pool =>
      have hzero : Levels = 0 := hauto
      have hlargest : max (1 : Word).toNat (max Width.toNat Height.toNat) =
          largest [Width.toNat, Height.toNat] := by
        show max 1 (max Width.toNat Height.toNat) = max Width.toNat (max Height.toNat 1)
        omega
      rw [CreateCall.Levels, if_pos hzero, calculateNumMipLevels_toNat, hlargest]
      rfl
  | CreateVolumeTexture Width Height Depth Levels Usage Format Pool =>
      have hzero : Levels = 0 := hauto
      have hd : 1 ≤ Depth.toNat := hpos _ (by simp [size])
      have hlargest : max Depth.toNat (max Width.toNat Height.toNat) =
          largest [Width.toNat, Height.toNat, Depth.toNat] := by
        show _ = max Width.toNat (max Height.toNat (max Depth.toNat 1))
        omega
      rw [CreateCall.Levels, if_pos hzero, calculateNumMipLevels_toNat, hlargest]
      rfl
  | CreateCubeTexture EdgeLength Levels Usage Format Pool =>
      have hzero : Levels = 0 := hauto
      have hlargest : max (1 : Word).toNat (max EdgeLength.toNat (1 : Word).toNat) =
          largest [EdgeLength.toNat, EdgeLength.toNat] := by
        show max 1 (max EdgeLength.toNat 1) = max EdgeLength.toNat (max EdgeLength.toNat 1)
        omega
      rw [CreateCall.Levels, if_pos hzero, calculateNumMipLevels_toNat, hlargest]
      rfl

theorem desc_levels (c : CreateCall) : c.desc.Levels = c.Levels := by
  cases c <;> rfl

theorem sentLevels_send (c : CreateCall) (id : Word) : sentLevels (c.send id) = some c.Levels := by
  cases c <;> rfl

/-- The server is told of as many levels as the client has. -/
theorem levels_length (hauto : c.givenLevels = 0) (hpos : ∀ d ∈ c.size, 1 ≤ d) :
    c.levels.length = c.Levels.toNat := by
  have hone : 1 ≤ c.Levels.toNat := by
    rw [levels_count hauto hpos]
    exact Nat.le_add_left 1 _
  have hmax : c.desc.sanitize.Levels = c.Levels := by
    show maxUINT c.desc.Levels 1 = _
    rw [desc_levels, maxUINT_one hone]
  unfold levels
  rw [List.length_map, List.length_range, hmax]

theorem levels_eq (hauto : c.givenLevels = 0) (hpos : ∀ d ∈ c.size, 1 ≤ d) :
    c.levels = (List.range (Nat.clog 2 (largest c.size) + 1)).map (level c.size) := by
  have hlength := levels_length hauto hpos
  rw [levels_count hauto hpos, levels, List.length_map, List.length_range] at hlength
  unfold levels
  rw [hlength]
  exact List.map_congr_left fun k _ => levelSize_eq hpos k

end CreateCall

/-- **A texture that is created with `Levels` 0 has the levels down to 1 by 1**, and the server is
told to create as many, if and only if its largest dimension is a power of 2: else there is one
level more. -/
theorem creates_chain_iff (c : CreateCall) (id : Word) (hauto : c.givenLevels = 0)
    (hpos : ∀ d ∈ c.size, 1 ≤ d) :
    (Chain c.size c.levels ∧
        sentLevels (c.send id) = some (.ofNat 32 (Nat.log 2 (largest c.size) + 1))) ↔
      ∃ k, largest c.size = 2 ^ k := by
  have hne : largest c.size ≠ 0 := Nat.ne_zero_of_lt (largest_pos c.size)
  rw [← log_eq_clog_iff hne]
  constructor
  · rintro ⟨hchain, -⟩
    have hlevels := (chain_iff hpos).mp hchain
    rw [CreateCall.levels_eq hauto hpos] at hlevels
    have hlength := congrArg List.length hlevels
    rw [List.length_map, List.length_range, List.length_map, List.length_range] at hlength
    exact (Nat.succ.inj hlength).symm
  · intro hlog
    refine ⟨(chain_iff hpos).mpr ?_, ?_⟩
    · rw [CreateCall.levels_eq hauto hpos, hlog]
    · rw [CreateCall.sentLevels_send, hlog, ← CreateCall.levels_count hauto hpos,
        BitVec.ofNat_toNat, BitVec.setWidth_eq]

/-- A texture of 4 by 2. -/
theorem creates_chain_iff_four :
    (CreateCall.CreateTexture 4 2 0 0 21 0).givenLevels = 0 ∧
    (∀ d ∈ (CreateCall.CreateTexture 4 2 0 0 21 0).size, 1 ≤ d) ∧
    ((Chain (CreateCall.CreateTexture 4 2 0 0 21 0).size
          (CreateCall.CreateTexture 4 2 0 0 21 0).levels ∧
        sentLevels ((CreateCall.CreateTexture 4 2 0 0 21 0).send 7) =
          some (.ofNat 32 (Nat.log 2 (largest (CreateCall.CreateTexture 4 2 0 0 21 0).size) + 1))) ↔
      ∃ k, largest (CreateCall.CreateTexture 4 2 0 0 21 0).size = 2 ^ k) :=
  ⟨rfl, by decide, creates_chain_iff _ 7 rfl (by decide)⟩

/-- A texture of 3 by 1 is given 3 levels, and the third is as small as the second. -/
theorem third_level_created :
    (CreateCall.CreateTexture 3 1 0 0 21 0).levels = [[3, 1], [1, 1], [1, 1]] ∧
    sentLevels ((CreateCall.CreateTexture 3 1 0 0 21 0).send 7) = some 3 ∧
    ¬ Chain (CreateCall.CreateTexture 3 1 0 0 21 0).size
      (CreateCall.CreateTexture 3 1 0 0 21 0).levels := by
  have hpos : ∀ d ∈ (CreateCall.CreateTexture 3 1 0 0 21 0).size, 1 ≤ d := by decide
  have hlevels : (CreateCall.CreateTexture 3 1 0 0 21 0).levels = [[3, 1], [1, 1], [1, 1]] := by
    rw [CreateCall.levels_eq rfl hpos]
    decide
  refine ⟨hlevels, ?_, ?_⟩
  · decide
  · rw [chain_iff hpos, hlevels]
    decide

end RemixBridge.Image
