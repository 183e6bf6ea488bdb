import RemixBridge.Support.Loops
import RemixBridge.Device.Shadow
import Mathlib.Data.List.ProdSigma

/-!
# Device — StateBlock

The transfer of the flagged entries from one state to another (`Direct3DStateBlock9_LSS`,
`d3d9_stateblock.cpp`).  `buildPlan` lists the flagged indices of each array, and says of the large
ones whether every index is; `StateTransfer` goes over the lists, or copies the whole array.

* `copyFlagged`: the walk over the flags, each flagged entry from the source and every other from
  the destination.
* `stateTransfer_buildPlan`: the transfer under the plan of the flags is that walk.
-/

namespace RemixBridge.Device
open Loops

/-! ### The plan -/

/-- `TransferPlan`; `samplerStates` and `textureStageStates` hold `stage * 64 + type`. -/
structure TransferPlan where
  built : Bool
  allRenderStates : Bool
  allTransforms : Bool
  allSamplerStates : Bool
  allTextureStageStates : Bool
  allVsF : Bool
  allVsI : Bool
  allPsF : Bool
  allPsI : Bool
  renderStates : List Nat
  transforms : List Nat
  vsF : List Nat
  vsI : List Nat
  vsB : List Nat
  psF : List Nat
  psI : List Nat
  psB : List Nat
  samplerStates : List Nat
  textureStageStates : List Nat
  streams : List Nat
  streamOffsetsAndStrides : List Nat
  streamFreqs : List Nat
  textures : List Nat
  clipPlanes : List Nat
  deriving DecidableEq, Repr

/-- The indices `collect` puts into a vector of `w`-bit elements. -/
def collect {n : Nat} (w : Nat) (arr : Fin n → Bool) : List Nat :=
  ((List.finRange n).filter arr).map fun i : Fin n => (i : Nat) % 2 ^ w

/-- What `collect` sets `all` to. -/
def collectAll {n : Nat} (arr : Fin n → Bool) : Bool := (collect 16 arr).length == n

/-- The two nested loops of `buildPlan`. -/
def collect₂ {n m : Nat} (arr : Fin n → Fin m → Bool) : List Nat :=
  (List.finRange n).flatMap fun i : Fin n =>
    ((List.finRange m).filter (arr i)).map fun j : Fin m => ((i : Nat) * 64 + j) % 2 ^ 16

/-- Whether they find as many flags as they count. -/
def collectAll₂ {n m : Nat} (arr : Fin n → Fin m → Bool) : Bool := (collect₂ arr).length == n * m

def buildPlan (flags : StateCaptureDirtyFlags) : TransferPlan where
  built := true
  allRenderStates := collectAll fun i => flags.flag (.renderStates i)
  allTransforms := collectAll fun i => flags.flag (.transforms i)
  allSamplerStates := collectAll₂ fun i j => flags.flag (.samplerStates i j)
  allTextureStageStates := collectAll₂ fun i j => flags.flag (.textureStageStates i j)
  allVsF := collectAll fun i => flags.flag (.vsF i)
  allVsI := collectAll fun i => flags.flag (.vsI i)
  allPsF := collectAll fun i => flags.flag (.psF i)
  allPsI := collectAll fun i => flags.flag (.psI i)
  renderStates := collect 16 fun i => flags.flag (.renderStates i)
  transforms := collect 16 fun i => flags.flag (.transforms i)
  vsF := collect 16 fun i => flags.flag (.vsF i)
  vsI := collect 16 fun i => flags.flag (.vsI i)
  vsB := collect 16 fun i => flags.flag (.vsB i)
  psF := collect 16 fun i => flags.flag (.psF i)
  psI := collect 16 fun i => flags.flag (.psI i)
  psB := collect 16 fun i => flags.flag (.psB i)
  samplerStates := collect₂ fun i j => flags.flag (.samplerStates i j)
  textureStageStates := collect₂ fun i j => flags.flag (.textureStageStates i j)
  streams := collect 8 fun i => flags.flag (.streams i)
  streamOffsetsAndStrides := collect 8 fun i => flags.flag (.streamOffsetsAndStrides i)
  streamFreqs := collect 8 fun i => flags.flag (.streamFreqs i)
  textures := collect 8 fun i => flags.flag (.textures i)
  clipPlanes := collect 8 fun i => flags.flag (.clipPlanes i)

/-! ### The transfer -/

/-- A loop over a list of indices of an array of `n`. -/
def forEach {n : Nat} (is : List Nat) (body : Fin n → State → State) (dst : State) : State :=
  is.foldl (fun d i => if h : i < n then body ⟨i, h⟩ d else d) dst

/-- A loop over a list of pairs packed as `stage * 64 + type`. -/
def forEach₂ {n m : Nat} (ks : List Nat) (body : Fin n → Fin m → State → State) (dst : State) :
    State :=
  ks.foldl (fun d k =>
    if h : k >>> 6 < n ∧ k &&& 63 < m then body ⟨_, h.1⟩ ⟨_, h.2⟩ d else d) dst

/-- `dst.a = src.a`, for an array. -/
def copyAll {n : Nat} (slot : Fin n → Slot) (src dst : State) : State :=
  fun k => if ∃ i, slot i = k then src k else dst k

/-- `dst.a = src.a`, for an array of arrays. -/
def copyAll₂ {n m : Nat} (slot : Fin n → Fin m → Slot) (src dst : State) : State :=
  fun k => if ∃ i j, slot i j = k then src k else dst k

/-- The transfer of an array for which the plan says whether all of it is flagged. -/
def copyArray {n : Nat} (all : Bool) (slot : Fin n → Slot) (is : List Nat) (src dst : State) :
    State :=
  if all then copyAll slot src dst else forEach is (fun i => copy src (slot i)) dst

def copyArray₂ {n m : Nat} (all : Bool) (slot : Fin n → Fin m → Slot) (ks : List Nat)
    (src dst : State) : State :=
  if all then copyAll₂ slot src dst else forEach₂ ks (fun i j => copy src (slot i j)) dst

def copyIf (flag : Bool) (k : Slot) (src dst : State) : State :=
  if flag then copy src k dst else dst

/-- One bit of a word of `bConsts`. -/
def copyBit (src dst : Word) (i : Nat) : Word :=
  let bitMask := 1#32 <<< (i % 32)
  if src &&& bitMask ≠ 0 then dst ||| bitMask else dst &&& ~~~bitMask

def copyVsB (src : State) (i : Fin caps.MaxOtherConstantsSoftware) (dst : State) : State :=
  let dwordIndex := vsBWord i
  Function.update dst (.vsB dwordIndex) (copyBit (src (.vsB dwordIndex)) (dst (.vsB dwordIndex)) i)

def copyPsB (src : State) (i : Fin caps.MaxOtherConstants) (dst : State) : State :=
  let dwordIndex := psBWord i
  Function.update dst (.psB dwordIndex) (copyBit (src (.psB dwordIndex)) (dst (.psB dwordIndex)) i)

/-- `src.lights[key]`; `operator[]` inserts a light of zeros. -/
def State.light (s : State) (key : Word) : D3DLIGHT9 := (s (.lights key)).getD fun _ => 0

def State.lightEnable (s : State) (key : Word) : Bool := (s (.bLightEnables key)).getD false

/-- The loops over the two maps of the flags, at the destination. -/
def copyLights (flags : StateCaptureDirtyFlags) (src dst : State) : State :=
  flags.lights.foldl (fun d e => Function.update d (.lights e.1) (some (src.light e.1))) dst

def copyLightEnables (flags : StateCaptureDirtyFlags) (src dst : State) : State :=
  flags.bLightEnables.foldl
    (fun d e => Function.update d (.bLightEnables e.1) (some (src.lightEnable e.1))) dst

/-- The source after the two loops: `operator[]` has inserted what was missing. -/
def insertLights (flags : StateCaptureDirtyFlags) (src : State) : State :=
  flags.bLightEnables.foldl
    (fun s e => Function.update s (.bLightEnables e.1) (some (s.lightEnable e.1)))
    (flags.lights.foldl (fun s e => Function.update s (.lights e.1) (some (s.light e.1))) src)

/-- `StateTransfer` under a plan: what it leaves in `src` and in `dst`. -/
def StateTransfer (p : TransferPlan) (flags : StateCaptureDirtyFlags) (src dst : State) :
    State × State :=
  (insertLights flags src,
    dst
    |> copyArray p.allRenderStates .renderStates p.renderStates src
    |> copyIf (flags.flag .vertexDecl) .vertexDecl src
    |> copyIf (flags.flag .indices) .indices src
    |> copyArray₂ p.allSamplerStates .samplerStates p.samplerStates src
    |> forEach p.streams (fun i => copy src (.streams i))
    |> forEach p.streamOffsetsAndStrides
        (fun i d => copy src (.streamStrides i) (copy src (.streamOffsets i) d))
    |> forEach p.streamFreqs (fun i => copy src (.streamFreqs i))
    |> forEach p.textures (fun i d => copy src (.textureTypes i) (copy src (.textures i) d))
    |> copyIf (flags.flag .vertexShader) .vertexShader src
    |> copyIf (flags.flag .pixelShader) .pixelShader src
    |> copyIf (flags.flag .material) .material src
    |> copyLights flags src
    |> copyLightEnables flags src
    |> copyArray p.allTransforms .transforms p.transforms src
    |> copyArray₂ p.allTextureStageStates .textureStageStates p.textureStageStates src
    |> copyIf (flags.flag .viewport) .viewport src
    |> copyIf (flags.flag .scissorRect) .scissorRect src
    |> forEach p.clipPlanes (fun i d =>
        (List.finRange 4).foldl (fun d j => copy src (.clipPlanes i j) d) d)
    |> copyArray p.allVsF .vsF p.vsF src
    |> copyArray p.allVsI .vsI p.vsI src
    |> forEach p.vsB (copyVsB src)
    |> copyArray p.allPsF .psF p.psF src
    |> copyArray p.allPsI .psI p.psI src
    |> forEach p.psB (copyPsB src))

/-! ### The walk over the flags -/

/-- The word whose bits are `src`'s where `f` says so, and `dst`'s elsewhere. -/
def copyBits (f : Nat → Bool) (src dst : Word) : Word :=
  ((List.range 32).filter f).foldl (copyBit src) dst

/-- The flag of bit `b` of word `d` in an array of `n` bool constants. -/
def bitFlag {n : Nat} (flag : Fin n → Bool) (d b : Nat) : Bool :=
  if h : 32 * d + b < n then flag ⟨32 * d + b, h⟩ else false

/-- The walk over the flags: each flagged entry is the source's, every other the destination's.  A
light is flagged by being in the map, and a bool constant is a bit of its word. -/
def copyFlagged (flags : StateCaptureDirtyFlags) (src dst : State) : State
  | .renderTargets i => dst (.renderTargets i)
  | .depthStencil => dst .depthStencil
  | .transforms i => if flags.flag (.transforms i) then src (.transforms i) else dst (.transforms i)
  | .viewport => if flags.flag .viewport then src .viewport else dst .viewport
  | .material => if flags.flag .material then src .material else dst .material
  | .lights key =>
      if key ∈ flags.lights.map (·.1) then some (src.light key) else dst (.lights key)
  | .bLightEnables key =>
      if key ∈ flags.bLightEnables.map (·.1) then some (src.lightEnable key)
      else dst (.bLightEnables key)
  | .clipPlanes i j =>
      if flags.flag (.clipPlanes i) then src (.clipPlanes i j) else dst (.clipPlanes i j)
  | .renderStates i =>
      if flags.flag (.renderStates i) then src (.renderStates i) else dst (.renderStates i)
  | .textures i => if flags.flag (.textures i) then src (.textures i) else dst (.textures i)
  | .textureTypes i =>
      if flags.flag (.textures i) then src (.textureTypes i) else dst (.textureTypes i)
  | .textureStageStates i j =>
      if flags.flag (.textureStageStates i j) then src (.textureStageStates i j)
      else dst (.textureStageStates i j)
  | .samplerStates i j =>
      if flags.flag (.samplerStates i j) then src (.samplerStates i j) else dst (.samplerStates i j)
  | .scissorRect => if flags.flag .scissorRect then src .scissorRect else dst .scissorRect
  | .vertexDecl => if flags.flag .vertexDecl then src .vertexDecl else dst .vertexDecl
  | .vertexShader => if flags.flag .vertexShader then src .vertexShader else dst .vertexShader
  | .vsF i => if flags.flag (.vsF i) then src (.vsF i) else dst (.vsF i)
  | .vsI i => if flags.flag (.vsI i) then src (.vsI i) else dst (.vsI i)
  | .vsB d => copyBits (bitFlag (fun i => flags.flag (.vsB i)) d) (src (.vsB d)) (dst (.vsB d))
  | .streams i => if flags.flag (.streams i) then src (.streams i) else dst (.streams i)
  | .streamFreqs i =>
      if flags.flag (.streamFreqs i) then src (.streamFreqs i) else dst (.streamFreqs i)
  | .streamOffsets i =>
      if flags.flag (.streamOffsetsAndStrides i) then src (.streamOffsets i)
      else dst (.streamOffsets i)
  | .streamStrides i =>
      if flags.flag (.streamOffsetsAndStrides i) then src (.streamStrides i)
      else dst (.streamStrides i)
  | .indices => if flags.flag .indices then src .indices else dst .indices
  | .pixelShader => if flags.flag .pixelShader then src .pixelShader else dst .pixelShader
  | .psF i => if flags.flag (.psF i) then src (.psF i) else dst (.psF i)
  | .psI i => if flags.flag (.psI i) then src (.psI i) else dst (.psI i)
  | .psB d => copyBits (bitFlag (fun i => flags.flag (.psB i)) d) (src (.psB d)) (dst (.psB d))

/-! ### The lists of the plan -/

theorem forEach_collect {n w : Nat} (hn : n ≤ 2 ^ w) (arr : Fin n → Bool)
    (body : Fin n → State → State) (dst : State) :
    forEach (collect w arr) body dst =
      ((List.finRange n).filter arr).foldl (fun d i => body i d) dst := by
  unfold forEach collect
  rw [List.foldl_map]
  refine List.foldl_ext _ _ _ fun d i _ => ?_
  have hi : (i : Nat) % 2 ^ w = i := Nat.mod_eq_of_lt (i.isLt.trans_le hn)
  simp only [hi]
  rw [dif_pos i.isLt]

theorem collectAll_eq {n : Nat} {arr : Fin n → Bool} :
    collectAll arr = true ↔ ∀ i, arr i = true := by
  have h := List.length_filter_eq_length_iff (l := List.finRange n) (p := arr)
  rw [List.length_finRange] at h
  simp [collectAll, collect, h]

/-- What the transfer of an array leaves in an entry. -/
theorem copyArray_collect {n : Nat} (hn : n ≤ 2 ^ 16) (arr : Fin n → Bool) (slot : Fin n → Slot)
    (src dst : State) (k : Slot) :
    copyArray (collectAll arr) slot (collect 16 arr) src dst k =
      if ∃ i, arr i = true ∧ slot i = k then src k else dst k := by
  unfold copyArray
  split
  · rename_i hall
    have := collectAll_eq.mp hall
    simp [copyAll, this]
  · rw [forEach_collect hn, foldl_copy]
    simp [List.mem_map]

/-- The same when the body copies several entries. -/
theorem forEach_copies {n w : Nat} (hn : n ≤ 2 ^ w) (arr : Fin n → Bool)
    (slots : Fin n → List Slot) (src dst : State) (k : Slot) :
    forEach (collect w arr) (fun i d => (slots i).foldl (fun d k => copy src k d) d) dst k =
      if ∃ i, arr i = true ∧ k ∈ slots i then src k else dst k := by
  rw [forEach_collect hn, ← List.foldl_flatMap, foldl_copy (fun k => k)]
  simp [List.mem_flatMap]

theorem forEach_copy {n w : Nat} (hn : n ≤ 2 ^ w) (arr : Fin n → Bool) (slot : Fin n → Slot)
    (src dst : State) (k : Slot) :
    forEach (collect w arr) (fun i => copy src (slot i)) dst k =
      if ∃ i, arr i = true ∧ slot i = k then src k else dst k := by
  have h := forEach_copies hn arr (fun i => [slot i]) src dst k
  simp only [List.mem_singleton, @eq_comm _ k] at h
  exact h

/-! ### The packed lists -/

/-- The pairs that are flagged, in the order of the nested loops. -/
def flagged₂ {n m : Nat} (arr : Fin n → Fin m → Bool) : List (Fin n × Fin m) :=
  (List.finRange n ×ˢ List.finRange m).filter fun p => arr p.1 p.2

theorem collect₂_eq {n m : Nat} (arr : Fin n → Fin m → Bool) :
    collect₂ arr = (flagged₂ arr).map fun p => ((p.1 : Nat) * 64 + p.2) % 2 ^ 16 := by
  unfold collect₂ flagged₂
  rw [show (List.finRange n ×ˢ List.finRange m) =
    (List.finRange n).flatMap fun i => (List.finRange m).map (Prod.mk i) from rfl]
  rw [List.filter_flatMap, List.map_flatMap]
  refine List.flatMap_congr fun i _ => ?_
  rw [List.filter_map, List.map_map]
  rfl

theorem mem_flagged₂ {n m : Nat} {arr : Fin n → Fin m → Bool} {p : Fin n × Fin m} :
    p ∈ flagged₂ arr ↔ arr p.1 p.2 = true := by
  obtain ⟨i, j⟩ := p
  simp [flagged₂, List.mem_filter, List.mem_product]

theorem collectAll₂_eq {n m : Nat} {arr : Fin n → Fin m → Bool} :
    collectAll₂ arr = true ↔ ∀ i j, arr i j = true := by
  have h := List.length_filter_eq_length_iff (l := List.finRange n ×ˢ List.finRange m)
    (p := fun p => arr p.1 p.2)
  rw [List.length_product, List.length_finRange, List.length_finRange] at h
  unfold collectAll₂
  rw [collect₂_eq, List.length_map, beq_iff_eq, flagged₂, h]
  simp [List.mem_product]

/-- Packing a pair loses nothing. -/
theorem forEach₂_collect {n m : Nat} (hn : n * 64 ≤ 2 ^ 16) (hm : m ≤ 64)
    (arr : Fin n → Fin m → Bool) (body : Fin n → Fin m → State → State) (dst : State) :
    forEach₂ (collect₂ arr) body dst =
      (flagged₂ arr).foldl (fun d p => body p.1 p.2 d) dst := by
  unfold forEach₂
  rw [collect₂_eq, List.foldl_map]
  refine List.foldl_ext _ _ _ fun d p _ => ?_
  obtain ⟨i, j⟩ := p
  have hlt : (i : Nat) * 64 + j < 2 ^ 16 := by omega
  have hdiv : ((i : Nat) * 64 + j) >>> 6 = i := by
    rw [Nat.shiftRight_eq_div_pow]
    omega
  have hmod : ((i : Nat) * 64 + j) &&& 63 = j := by
    rw [show (63 : Nat) = 2 ^ 6 - 1 from rfl, Nat.and_two_pow_sub_one_eq_mod]
    omega
  simp only [Nat.mod_eq_of_lt hlt, hdiv, hmod]
  rw [dif_pos ⟨i.isLt, j.isLt⟩]

theorem copyArray₂_collect {n m : Nat} (hn : n * 64 ≤ 2 ^ 16) (hm : m ≤ 64)
    (arr : Fin n → Fin m → Bool) (slot : Fin n → Fin m → Slot) (src dst : State) (k : Slot) :
    copyArray₂ (collectAll₂ arr) slot (collect₂ arr) src dst k =
      if ∃ i j, arr i j = true ∧ slot i j = k then src k else dst k := by
  unfold copyArray₂
  split
  · rename_i hall
    have := collectAll₂_eq.mp hall
    simp [copyAll₂, this]
  · rw [forEach₂_collect hn hm, foldl_copy (fun p : Fin n × Fin m => slot p.1 p.2)]
    simp [List.mem_map, mem_flagged₂]

/-! ### Bool constants -/

theorem getLsbD_bitMask (i : Nat) {b : Nat} (hb : b < 32) :
    (1#32 <<< (i % 32)).getLsbD b = decide (b = i % 32) := by
  rw [BitVec.getLsbD_shiftLeft]
  by_cases h : b = i % 32
  · subst h
    simp [hb]
  · simp only [hb, decide_true, Bool.true_and, BitVec.getLsbD_one, h, decide_false]
    by_cases hlt : b < i % 32
    · simp [hlt]
    · have : b - i % 32 ≠ 0 := by omega
      simp [this]

theorem getLsbD_copyBit (src dst : Word) (i : Nat) {b : Nat} (hb : b < 32) :
    (copyBit src dst i).getLsbD b = if b = i % 32 then src.getLsbD b else dst.getLsbD b := by
  have hmask := getLsbD_bitMask i hb
  have hsrc : src &&& 1#32 <<< (i % 32) ≠ 0 ↔ src.getLsbD (i % 32) = true := by
    rw [← BitVec.twoPow_eq, BitVec.and_twoPow]
    cases src.getLsbD (i % 32)
    · simp
    · simp only [if_true, iff_true]
      intro h0
      have : (BitVec.twoPow 32 (i % 32)).getLsbD (i % 32) = true := by
        simp [Nat.mod_lt]
      rw [h0] at this
      simp at this
  unfold copyBit
  by_cases h : b = i % 32
  · subst h
    cases hbit : src.getLsbD (i % 32)
    · rw [if_neg (by rw [hsrc, hbit]; simp)]
      simp [hmask]
    · rw [if_pos (hsrc.mpr hbit)]
      simp [hmask]
  · rw [if_neg h]
    dsimp only
    split
    · rw [BitVec.getLsbD_or, hmask]
      simp [h]
    · rw [BitVec.getLsbD_and, BitVec.getLsbD_not, hmask]
      simp [h, hb]

theorem getLsbD_copyBits (f : Nat → Bool) (src dst : Word) {b : Nat} (hb : b < 32) :
    (copyBits f src dst).getLsbD b = if f b then src.getLsbD b else dst.getLsbD b := by
  have hfold : ∀ (l : List Nat) (w : Word), (∀ i ∈ l, i < 32) →
      (l.foldl (copyBit src) w).getLsbD b = if b ∈ l then src.getLsbD b else w.getLsbD b := by
    intro l
    induction l with
    | nil => simp
    | cons i l ih =>
        intro w hl
        rw [List.foldl_cons, ih _ fun j hj => hl j (List.mem_cons_of_mem i hj),
          getLsbD_copyBit _ _ _ hb, Nat.mod_eq_of_lt (hl i List.mem_cons_self)]
        by_cases hbl : b ∈ l
        · simp [hbl]
        · simp [hbl]
  unfold copyBits
  rw [hfold _ _ fun i hi => List.mem_range.mp (List.mem_of_mem_filter hi)]
  simp [List.mem_filter, hb]

/-- A loop over bool constants, seen at one word: `w` is the word, and `body i` copies bit `i % 32`
of word `i / 32`. -/
theorem forEach_copyBit {n v : Nat} (hn : n ≤ 2 ^ v) (arr : Fin n → Bool)
    (body : Fin n → State → State) (w : State → Word) (d : Nat) (x : Word)
    (hbody : ∀ i s, w (body i s) = if (i : Nat) / 32 = d then copyBit x (w s) i else w s)
    (dst : State) :
    w (forEach (collect v arr) body dst) = copyBits (bitFlag arr d) x (w dst) := by
  rw [forEach_collect hn]
  refine BitVec.eq_of_getLsbD_eq fun b hb => ?_
  rw [getLsbD_copyBits _ _ _ hb]
  have hfold : ∀ (l : List (Fin n)) (s : State),
      (w (l.foldl (fun d i => body i d) s)).getLsbD b =
        if ∃ i ∈ l, (i : Nat) = 32 * d + b then x.getLsbD b else (w s).getLsbD b := by
    intro l
    induction l with
    | nil => simp
    | cons i l ih =>
        intro s
        rw [List.foldl_cons, ih, hbody]
        by_cases hl : ∃ j ∈ l, (j : Nat) = 32 * d + b
        · rw [if_pos hl, if_pos]
          obtain ⟨j, hj, he⟩ := hl
          exact ⟨j, List.mem_cons_of_mem i hj, he⟩
        · rw [if_neg hl]
          by_cases hi : (i : Nat) = 32 * d + b
          · have hdiv : (i : Nat) / 32 = d := by omega
            have hmod : b = (i : Nat) % 32 := by omega
            rw [if_pos hdiv, getLsbD_copyBit _ _ _ hb, if_pos hmod,
              if_pos ⟨i, List.mem_cons_self, hi⟩]
          · rw [if_neg (show ¬ ∃ j ∈ i :: l, (j : Nat) = 32 * d + b by
              rintro ⟨j, hj, he⟩
              rcases List.mem_cons.mp hj with rfl | hj
              · exact hi he
              · exact hl ⟨j, hj, he⟩)]
            split
            · rw [getLsbD_copyBit _ _ _ hb, if_neg (by omega)]
            · rfl
  rw [hfold]
  refine if_congr ?_ rfl rfl
  unfold bitFlag
  split
  · rename_i hlt
    constructor
    · rintro ⟨i, hi, he⟩
      have : i = ⟨32 * d + b, hlt⟩ := Fin.ext he
      exact this ▸ List.of_mem_filter hi
    · intro h
      exact ⟨⟨32 * d + b, hlt⟩, List.mem_filter.mpr ⟨List.mem_finRange _, h⟩, rfl⟩
  · rename_i hge
    simp only [Bool.false_eq_true, iff_false]
    rintro ⟨i, -, he⟩
    exact hge (he ▸ i.isLt)

/-! ### The transfer is the walk -/

theorem copyIf_apply (flag : Bool) (k : Slot) (src dst : State) (k' : Slot) :
    copyIf flag k src dst k' = if flag = true ∧ k = k' then src k' else dst k' := by
  unfold copyIf
  by_cases hk : k = k'
  · subst hk
    cases flag <;> simp
  · cases flag
    · simp
    · simp [hk, copy_of_ne src dst (Ne.symm hk)]

/-- The source with nothing missing in its maps. -/
def State.full (s : State) : State
  | .lights key        => some (s.light key)
  | .bLightEnables key => some (s.lightEnable key)
  | k                  => s k

theorem copyLights_apply (flags : StateCaptureDirtyFlags) (src dst : State) (k : Slot) :
    copyLights flags src dst k =
      if k ∈ flags.lights.map (fun e => Slot.lights e.1) then src.full k else dst k :=
  foldl_copy (fun e : Word × Bool => Slot.lights e.1) src.full flags.lights dst k

theorem copyLightEnables_apply (flags : StateCaptureDirtyFlags) (src dst : State) (k : Slot) :
    copyLightEnables flags src dst k =
      if k ∈ flags.bLightEnables.map (fun e => Slot.bLightEnables e.1) then src.full k
      else dst k :=
  foldl_copy (fun e : Word × Bool => Slot.bLightEnables e.1) src.full flags.bLightEnables dst k

theorem forEach_copyPair {n w : Nat} (hn : n ≤ 2 ^ w) (arr : Fin n → Bool)
    (slot slot' : Fin n → Slot) (src dst : State) (k : Slot) :
    forEach (collect w arr) (fun i d => copy src (slot' i) (copy src (slot i) d)) dst k =
      if ∃ i, arr i = true ∧ (slot i = k ∨ slot' i = k) then src k else dst k := by
  have h := forEach_copies hn arr (fun i => [slot i, slot' i]) src dst k
  simp only [List.mem_cons, List.not_mem_nil, or_false, @eq_comm _ k] at h
  exact h

theorem forEach_copyPlane {n w : Nat} (hn : n ≤ 2 ^ w) (arr : Fin n → Bool)
    (slot : Fin n → Fin 4 → Slot) (src dst : State) (k : Slot) :
    forEach (collect w arr)
        (fun i d => (List.finRange 4).foldl (fun d j => copy src (slot i j) d) d) dst k =
      if ∃ i, arr i = true ∧ ∃ j, slot i j = k then src k else dst k := by
  have h := forEach_copies hn arr (fun i => (List.finRange 4).map (slot i)) src dst k
  simp only [List.foldl_map, List.mem_map, List.mem_finRange, true_and] at h
  exact h

theorem copyVsB_other (src : State) {k : Slot} (hk : ∀ d, k ≠ .vsB d) (is : List Nat)
    (dst : State) : forEach is (copyVsB src) dst k = dst k := by
  unfold forEach
  induction is generalizing dst with
  | nil => rfl
  | cons i is ih =>
      rw [List.foldl_cons, ih]
      split
      · exact Function.update_of_ne (hk _) _ _
      · rfl

theorem copyPsB_other (src : State) {k : Slot} (hk : ∀ d, k ≠ .psB d) (is : List Nat)
    (dst : State) : forEach is (copyPsB src) dst k = dst k := by
  unfold forEach
  induction is generalizing dst with
  | nil => rfl
  | cons i is ih =>
      rw [List.foldl_cons, ih]
      split
      · exact Function.update_of_ne (hk _) _ _
      · rfl

theorem copyVsB_vsB (arr : Fin caps.MaxOtherConstantsSoftware → Bool) (src dst : State)
    (d : Fin vsBWords) :
    forEach (collect 16 arr) (copyVsB src) dst (.vsB d) =
      copyBits (bitFlag arr d) (src (.vsB d)) (dst (.vsB d)) := by
  refine forEach_copyBit (by decide) arr (copyVsB src) (fun s => s (.vsB d)) d _
    (fun i s => ?_) dst
  unfold copyVsB
  by_cases h : (i : Nat) / 32 = d
  · obtain rfl : vsBWord i = d := Fin.ext h
    rw [Function.update_self, if_pos h]
  · have hd : Slot.vsB d ≠ .vsB (vsBWord i) := by
      intro he
      exact h (congrArg Fin.val (Slot.vsB.inj he)).symm
    simp only [Function.update_of_ne hd, if_neg h]

theorem copyPsB_psB (arr : Fin caps.MaxOtherConstants → Bool) (src dst : State)
    (d : Fin psBWords) :
    forEach (collect 16 arr) (copyPsB src) dst (.psB d) =
      copyBits (bitFlag arr d) (src (.psB d)) (dst (.psB d)) := by
  refine forEach_copyBit (by decide) arr (copyPsB src) (fun s => s (.psB d)) d _
    (fun i s => ?_) dst
  unfold copyPsB
  by_cases h : (i : Nat) / 32 = d
  · obtain rfl : psBWord i = d := Fin.ext h
    rw [Function.update_self, if_pos h]
  · have hd : Slot.psB d ≠ .psB (psBWord i) := by
      intro he
      exact h (congrArg Fin.val (Slot.psB.inj he)).symm
    simp only [Function.update_of_ne hd, if_neg h]

/-- A state with other words of bool constants. -/
def State.withVsB (s : State) (words : Fin vsBWords → Word) : State
  | .vsB d => words d
  | k      => s k

def State.withPsB (s : State) (words : Fin psBWords → Word) : State
  | .psB d => words d
  | k      => s k

theorem forEach_copyVsB (arr : Fin caps.MaxOtherConstantsSoftware → Bool) (src dst : State) :
    forEach (collect 16 arr) (copyVsB src) dst =
      dst.withVsB fun d => copyBits (bitFlag arr d) (src (.vsB d)) (dst (.vsB d)) := by
  funext k
  cases k with
  | vsB d => exact copyVsB_vsB arr src dst d
  | _ => exact copyVsB_other src (fun d h => by cases h) _ dst

theorem forEach_copyPsB (arr : Fin caps.MaxOtherConstants → Bool) (src dst : State) :
    forEach (collect 16 arr) (copyPsB src) dst =
      dst.withPsB fun d => copyBits (bitFlag arr d) (src (.psB d)) (dst (.psB d)) := by
  funext k
  cases k with
  | psB d => exact copyPsB_psB arr src dst d
  | _ => exact copyPsB_other src (fun d h => by cases h) _ dst

/-- **The plan is the walk.**  Under the plan of the flags the transfer leaves in the destination
what the walk over the flags leaves. -/
theorem stateTransfer_buildPlan (flags : StateCaptureDirtyFlags) (src dst : State) :
    (StateTransfer (buildPlan flags) flags src dst).2 = copyFlagged flags src dst := by
  funext k
  cases k <;>
    simp (disch := decide) [StateTransfer, buildPlan, copyFlagged, copyArray_collect,
      copyArray₂_collect, copyIf_apply, forEach_copy, forEach_copyPair, forEach_copyPlane,
      forEach_copyVsB, forEach_copyPsB, copyLights_apply, copyLightEnables_apply, State.full,
      State.withVsB, State.withPsB]

end RemixBridge.Device
