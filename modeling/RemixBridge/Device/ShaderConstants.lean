import RemixBridge.Device.Cells

/-!
# Device — ShaderConstants

The shader constants of a device: the check that the setters and the getters share
(`commonGetSetConstants`), and what a getter returns after a setter.

* `readsBack`: from a register of the array on, what was set is what is got.
* `constants_in_registers_iff`: the ranges for which the check keeps the calls in the array.
-/

namespace RemixBridge.Device
open Loops

inductive ShaderType where
  | Vertex
  | Pixel
  deriving DecidableEq, Repr

inductive ConstantType where
  | Float
  | Int
  | Bool
  deriving DecidableEq, Repr

variable {s : ShaderType} {c : ConstantType} {α : Type}

def getHardwareRegCount : ShaderType → ConstantType → Nat
  | .Vertex, .Float => caps.MaxFloatConstantsVS
  | .Pixel, .Float  => caps.MaxFloatConstantsPS
  | _, .Int         => caps.MaxOtherConstants
  | _, .Bool        => caps.MaxOtherConstants

def getSoftwareRegCount : ShaderType → ConstantType → Nat
  | .Vertex, .Float => caps.MaxFloatConstantsSoftware
  | .Vertex, .Int   => caps.MaxOtherConstantsSoftware
  | .Vertex, .Bool  => caps.MaxOtherConstantsSoftware
  | .Pixel, .Float  => caps.MaxFloatConstantsPS
  | .Pixel, .Int    => caps.MaxOtherConstants
  | .Pixel, .Bool   => caps.MaxOtherConstants

/-- What the data of a constant points to. -/
abbrev ConstantType.Data : ConstantType → Type
  | .Float => Vec4
  | .Int   => Vec4
  | .Bool  => Word

/-! ### The getters -/

/-- `adjCount` registers of a state; `none` where one is not in the array. -/
def readRegisters (n : Nat) (startRegister : Word) (adjCount : Nat) (get : Fin n → State → α)
    (st : State) : Option (List α) :=
  ((List.range adjCount).mapM fun i =>
    (index n (BitVec.ofNat 32 (startRegister.toNat + i))).map fun r => (r, i)).map fun rs =>
      rs.map fun p => get p.1 st

/-- `getShaderConstants`, to a pointer that may be null: `none` for `D3DERR_INVALIDCALL`, or what it
copies. -/
def getShaderConstants (n : Nat) (regCountHardware : Nat) (d : LssDevice) (startRegister : Word)
    (pConstantData : Bool) (count : Word) (get : Fin n → State → α) : Option (Option (List α)) :=
  match commonGetSetConstants (BitVec.ofNat 32 regCountHardware) (BitVec.ofNat 32 n)
      startRegister count with
  | none => some none
  | some adjCount =>
      if adjCount = 0 then some (some [])
      else if pConstantData then (readRegisters n startRegister adjCount get d.mState).map some
      else some none

def GetVertexShaderConstantF (d : LssDevice) (startRegister : Word) (pConstantData : Bool)
    (count : Word) : Option (Option (List Vec4)) :=
  if pConstantData then
    getShaderConstants caps.MaxFloatConstantsSoftware caps.MaxFloatConstantsVS d startRegister
      pConstantData count fun r st => st (.vsF r)
  else some none

def GetVertexShaderConstantI (d : LssDevice) (startRegister : Word) (pConstantData : Bool)
    (count : Word) : Option (Option (List Vec4)) :=
  if pConstantData then
    getShaderConstants caps.MaxOtherConstantsSoftware caps.MaxOtherConstants d startRegister
      pConstantData count fun r st => st (.vsI r)
  else some none

def GetPixelShaderConstantF (d : LssDevice) (startRegister : Word) (pConstantData : Bool)
    (count : Word) : Option (Option (List Vec4)) :=
  if pConstantData then
    getShaderConstants caps.MaxFloatConstantsPS caps.MaxFloatConstantsPS d startRegister
      pConstantData count fun r st => st (.psF r)
  else some none

/-- The next two getters of pixel shaders leave the test of the pointer to the check. -/
def GetPixelShaderConstantI (d : LssDevice) (startRegister : Word) (pConstantData : Bool)
    (count : Word) : Option (Option (List Vec4)) :=
  getShaderConstants caps.MaxOtherConstants caps.MaxOtherConstants d startRegister pConstantData
    count fun r st => st (.psI r)

/-- One bool constant of its word, as `TRUE` or `FALSE`. -/
def getBit (w : Word) (i : Nat) : Word := if w &&& 1#32 <<< (i % 32) ≠ 0 then 1 else 0

def GetVertexShaderConstantB (d : LssDevice) (startRegister : Word) (pConstantData : Bool)
    (count : Word) : Option (Option (List Word)) :=
  if pConstantData then
    getShaderConstants caps.MaxOtherConstantsSoftware caps.MaxOtherConstants d startRegister
      pConstantData count fun r st => getBit (st (.vsB (vsBWord r))) r
  else some none

def GetPixelShaderConstantB (d : LssDevice) (startRegister : Word) (pConstantData : Bool)
    (count : Word) : Option (Option (List Word)) :=
  getShaderConstants caps.MaxOtherConstants caps.MaxOtherConstants d startRegister pConstantData
    count fun r st => getBit (st (.psB (psBWord r))) r

/-! ### The six kinds -/

def setConstants (elim : Bool) : (s : ShaderType) → (c : ConstantType) → LssDevice → Word →
    Option (List c.Data) → Word → Option (Section × LssDevice)
  | .Vertex, .Float => SetVertexShaderConstantF elim
  | .Vertex, .Int   => SetVertexShaderConstantI
  | .Vertex, .Bool  => SetVertexShaderConstantB
  | .Pixel, .Float  => SetPixelShaderConstantF elim
  | .Pixel, .Int    => SetPixelShaderConstantI
  | .Pixel, .Bool   => SetPixelShaderConstantB

def getConstants : (s : ShaderType) → (c : ConstantType) → LssDevice → Word → Bool → Word →
    Option (Option (List c.Data))
  | .Vertex, .Float => GetVertexShaderConstantF
  | .Vertex, .Int   => GetVertexShaderConstantI
  | .Vertex, .Bool  => GetVertexShaderConstantB
  | .Pixel, .Float  => GetPixelShaderConstantF
  | .Pixel, .Int    => GetPixelShaderConstantI
  | .Pixel, .Bool   => GetPixelShaderConstantB

/-- A register, as a getter returns it. -/
def register : (s : ShaderType) → (c : ConstantType) → Fin (getSoftwareRegCount s c) → State →
    c.Data
  | .Vertex, .Float => fun r st => st (.vsF r)
  | .Vertex, .Int   => fun r st => st (.vsI r)
  | .Vertex, .Bool  => fun r st => getBit (st (.vsB (vsBWord r))) r
  | .Pixel, .Float  => fun r st => st (.psF r)
  | .Pixel, .Int    => fun r st => st (.psI r)
  | .Pixel, .Bool   => fun r st => getBit (st (.psB (psBWord r))) r

/-- The constant at `i` of the data: of a bool, whether it is set. -/
def constantAt : (c : ConstantType) → List c.Data → Nat → c.Data
  | .Float, data, i => data.getD i fun _ => 0
  | .Int, data, i   => data.getD i fun _ => 0
  | .Bool, data, i  => if data.getD i 0 ≠ 0 then 1 else 0

/-- The check of a range of one kind. -/
def checkRange (s : ShaderType) (c : ConstantType) (startRegister count : Word) : Option Nat :=
  commonGetSetConstants (BitVec.ofNat 32 (getHardwareRegCount s c))
    (BitVec.ofNat 32 (getSoftwareRegCount s c)) startRegister count

/-- A set of a range, and then a get of it.  The get returns the values that were set; while a state
block is recorded they go to the block, and the get returns what it did. -/
def ReadsBack (s : ShaderType) (c : ConstantType) (elim : Bool) (d : LssDevice)
    (startRegister : Word) (data : List c.Data) (count : Word) (adjCount : Nat) : Prop :=
  ∃ r d', setConstants elim s c d startRegister (some data) count = some (r, d') ∧
    r ≠ .rejected ∧
    (d.mStateRecording = none → getConstants s c d' startRegister true count =
      some (some ((List.range adjCount).map (constantAt c data)))) ∧
    ∀ sb, d.mStateRecording = some sb →
      readRegisters _ startRegister adjCount (register s c) (d'.blocks sb).mCaptureState =
        some ((List.range adjCount).map (constantAt c data)) ∧
      getConstants s c d' startRegister true count = getConstants s c d startRegister true count

/-- If the check accepts a range, it is in the array and reads back. -/
def ConstantsInRegisters (s : ShaderType) (c : ConstantType) (startRegister count : Word) : Prop :=
  ∀ adjCount, checkRange s c startRegister count = some adjCount →
    startRegister.toNat + adjCount ≤ getSoftwareRegCount s c ∧
    ∀ elim d data, ReadsBack s c elim d startRegister data count adjCount

/-! ### A range of the array -/

/-- The registers of a range, with where in the data each is. -/
theorem registers_of_range {n : Nat} {startRegister : Word} {adjCount : Nat}
    (hin : startRegister.toNat + adjCount ≤ n) (hn : n < 2 ^ 31) :
    ∃ rs : List (Fin n × Nat),
      ((List.range adjCount).mapM fun i =>
        (index n (BitVec.ofNat 32 (startRegister.toNat + i))).map fun r => (r, i)) = some rs ∧
      rs.map (·.2) = List.range adjCount ∧ (rs.map (·.1)).Nodup := by
  obtain ⟨rs, hrs, hR⟩ := mapM_exists (l := List.range adjCount)
    (f := fun i => (index n (BitVec.ofNat 32 (startRegister.toNat + i))).map fun r => (r, i))
    (R := fun i p => p.2 = i ∧ p.1.val = startRegister.toNat + i) (by
      intro i hi
      have hi := List.mem_range.mp hi
      have hreg : (BitVec.ofNat 32 (startRegister.toNat + i)).toNat = startRegister.toNat + i := by
        rw [BitVec.toNat_ofNat, Nat.mod_eq_of_lt (by omega)]
      refine ⟨(⟨startRegister.toNat + i, by omega⟩, i), ?_, rfl, rfl⟩
      rw [index, dif_pos (by omega)]
      simp only [hreg, Option.map_some])
  have hsnd : rs.map (·.2) = List.range adjCount := by
    refine List.ext_getElem (by simp [hR.length_eq]) fun i hi hi' => ?_
    rw [List.getElem_map]
    exact (hR.get (by simpa using hi') (by simpa using hi)).1
  have hfst : rs.map (fun p => p.1.val) = rs.map fun p => startRegister.toNat + p.2 := by
    refine List.map_congr_left fun p hp => ?_
    obtain ⟨i, hi, rfl⟩ := List.getElem_of_mem hp
    have hlen := hR.length_eq
    obtain ⟨hi₂, hi₁⟩ := hR.get (i := i) (by omega) hi
    simp only [List.get_eq_getElem] at hi₁ hi₂
    rw [hi₁, hi₂]
  refine ⟨rs, hrs, hsnd, List.Nodup.of_map (fun r => r.val) ?_⟩
  rw [List.map_map]
  have hrange : rs.map (fun p => p.1.val) =
      (List.range adjCount).map fun i => startRegister.toNat + i := by
    rw [hfst, ← hsnd, List.map_map]
    rfl
  exact hrange ▸ (List.nodup_range).map fun a b h => Nat.add_left_cancel h

/-! ### A set and a get -/

/-- What a kind's way of setting a register and of getting one have to do with each other. -/
structure Readable {n : Nat} (get : Fin n → State → α) (set : Fin n → Nat → State → State)
    (same : Fin n → Nat → State → Bool) (val : Nat → α) : Prop where
  self : ∀ r i st, get r (set r i st) = val i
  other : ∀ r r' i st, r' ≠ r → get r' (set r i st) = get r' st
  same : ∀ r i st, same r i st = true → get r st = val i

section Range

variable {n regCountHardware : Nat} {get : Fin n → State → α} {set : Fin n → Nat → State → State}
  {same : Fin n → Nat → State → Bool} {val : Nat → α} {startRegister count : Word} {adjCount : Nat}
  {d : LssDevice} {rs : List (Fin n × Nat)}

theorem readRegisters_of_set (hread : Readable get set same val) (hnd : (rs.map (·.1)).Nodup)
    (hrs : ((List.range adjCount).mapM fun i =>
      (index n (BitVec.ofNat 32 (startRegister.toNat + i))).map fun r => (r, i)) = some rs)
    (hsnd : rs.map (·.2) = List.range adjCount) (st : State) :
    readRegisters n startRegister adjCount get (rs.foldl (fun st p => set p.1 p.2 st) st) =
      some ((List.range adjCount).map val) := by
  rw [readRegisters, hrs, Option.map_some, foldl_view hread.self hread.other hnd, ← hsnd,
    List.map_map]
  rfl

theorem readRegisters_of_same (hread : Readable get set same val)
    (hrs : ((List.range adjCount).mapM fun i =>
      (index n (BitVec.ofNat 32 (startRegister.toNat + i))).map fun r => (r, i)) = some rs)
    (hsnd : rs.map (·.2) = List.range adjCount) {st : State}
    (hsame : (rs.all fun p => same p.1 p.2 st) = true) :
    readRegisters n startRegister adjCount get st = some ((List.range adjCount).map val) := by
  rw [readRegisters, hrs, Option.map_some, ← hsnd, List.map_map]
  refine congrArg some (List.map_congr_left fun p hp => ?_)
  exact hread.same p.1 p.2 st (List.all_eq_true.mp hsame p hp)

/-- **A range reads back.** -/
theorem readsBack_range (hread : Readable get set same val) (eliminates : Bool) (f : Fin n → Flag)
    (hcheck : commonGetSetConstants (BitVec.ofNat 32 regCountHardware) (BitVec.ofNat 32 n)
      startRegister count = some adjCount)
    (hin : startRegister.toNat + adjCount ≤ n) (hn : n < 2 ^ 31) (d : LssDevice) :
    ∃ r d', setShaderConstants n regCountHardware d startRegister count same eliminates set f =
        some (r, d') ∧ r ≠ .rejected ∧
      (d.mStateRecording = none →
        getShaderConstants n regCountHardware d' startRegister true count get =
          some (some ((List.range adjCount).map val))) ∧
      ∀ sb, d.mStateRecording = some sb →
        readRegisters n startRegister adjCount get (d'.blocks sb).mCaptureState =
          some ((List.range adjCount).map val) ∧ d'.mState = d.mState := by
  obtain ⟨rs, hrs, hsnd, hnd⟩ := registers_of_range hin hn
  by_cases hadj : adjCount = 0
  · subst hadj
    refine ⟨.written, d, ?_, ?_, fun _ => ?_, fun sb _ => ⟨rfl, rfl⟩⟩
    · rw [setShaderConstants, hcheck]
      exact if_pos rfl
    · intro h
      cases h
    · rw [getShaderConstants, hcheck]
      exact if_pos rfl
  · have hset : setShaderConstants n regCountHardware d startRegister count same eliminates set f =
        some (d.set (fun _ => false) (fun st => eliminates && rs.all fun p => same p.1 p.2 st)
          (fun st => rs.foldl (fun st p => set p.1 p.2 st) st) (rs.map fun p => f p.1)) := by
      rw [setShaderConstants, hcheck]
      dsimp only
      rw [if_neg hadj, hrs, Option.map_some]
    have hget (d' : LssDevice) : getShaderConstants n regCountHardware d' startRegister true count
        get = (readRegisters n startRegister adjCount get d'.mState).map some := by
      rw [getShaderConstants, hcheck]
      dsimp only
      rw [if_neg hadj, if_pos rfl]
    refine ⟨_, _, hset.trans (congrArg some (Prod.mk.eta).symm), ?_, ?_, ?_⟩
    · unfold LssDevice.set
      split
      · simp
      · split <;>
        · intro h
          cases h
    · intro hrec
      rw [hget]
      simp only [LssDevice.set, hrec]
      split
      · rename_i hsame
        rw [readRegisters_of_same hread hrs hsnd (Bool.and_eq_true_iff.mp hsame).2]
        rfl
      · rw [readRegisters_of_set hread hnd hrs hsnd]
        rfl
    · intro sb hrec
      simp only [LssDevice.set, hrec, LssDevice.putBlock]
      rw [if_neg Bool.false_ne_true]
      dsimp only
      rw [Function.update_self]
      exact ⟨readRegisters_of_set hread hnd hrs hsnd _, rfl⟩

end Range

/-! ### The registers -/

theorem getBit_eq (w : Word) (i : Nat) :
    getBit w i = if w.getLsbD (i % 32) then 1 else 0 := by
  have hi : i % 32 < 32 := Nat.mod_lt _ (by decide)
  unfold getBit
  refine if_congr ?_ rfl rfl
  constructor
  · intro hne
    by_contra hbit
    refine hne (BitVec.eq_of_getLsbD_eq fun b hb => ?_)
    rw [BitVec.getLsbD_and, getLsbD_bitMask i hb]
    by_cases h : b = i % 32
    · subst h
      simpa using hbit
    · simp [h]
  · intro hbit hzero
    have := congrArg (·.getLsbD (i % 32)) hzero
    simp only [BitVec.getLsbD_and, getLsbD_bitMask i hi, hbit] at this
    simp at this

/-- A register that is an entry of its own. -/
theorem readable_vec4s {n : Nat} {slot : Fin n → Slot} (hslot : Function.Injective slot)
    {val : ∀ i, Vec4 → (slot i).Val} (unval : ∀ i, (slot i).Val → Vec4)
    (hval : ∀ i v, unval i (val i v) = v) (data : List Vec4) :
    Readable (fun r st => unval r (st (slot r)))
      (fun r i st => Function.update st (slot r) (val r (data.getD i fun _ => 0)))
      (fun r i st => decide (st (slot r) = val r (data.getD i fun _ => 0)))
      fun i => data.getD i fun _ => 0 where
  self r i st := by rw [Function.update_self, hval]
  other r r' i st hne := by rw [Function.update_of_ne (fun h => hne (hslot h))]
  same r i st hsame := by rw [of_decide_eq_true hsame, hval]

/-- A register that is a bit. -/
theorem readable_bits {n : Nat} (bit : Fin n → State → Bool) {word : Fin n → State → Word}
    {set : Fin n → Nat → State → State} (data : List Word)
    (hword : ∀ r st, (word r st).getLsbD (r % 32) = bit r st)
    (hself : ∀ r i st, bit r (set r i st) = decide (data.getD i 0 ≠ 0))
    (hother : ∀ r r' i st, r' ≠ r → bit r' (set r i st) = bit r' st) :
    Readable (fun r st => getBit (word r st) r) set (fun _ _ _ => false)
      fun i => if data.getD i 0 ≠ 0 then 1 else 0 where
  self r i st := by
    rw [getBit_eq, hword, hself]
    simp only [decide_eq_true_eq]
  other r r' i st hne := by rw [getBit_eq, getBit_eq, hword, hword, hother r r' i st hne]
  same _ _ _ hsame := by cases hsame

theorem readable_vsB (data : List Word) :
    Readable (fun r st => getBit (st (.vsB (vsBWord r))) r)
      (fun r i st => Function.update st (.vsB (vsBWord r))
        (setBit (st (.vsB (vsBWord r))) r (data.getD i 0)))
      (fun _ _ _ => false) fun i => if data.getD i 0 ≠ 0 then 1 else 0 := by
  refine readable_bits (fun r st => st.vsBool r) data (fun _ _ => rfl) (fun r i st => ?_)
    fun r r' i st hne => ?_
  · have h := congrFun (cells_vsBool st r (data.getD i 0)) (.vsB r)
    rwa [Function.update_self] at h
  · have h := congrFun (cells_vsBool st r (data.getD i 0)) (.vsB r')
    rwa [Function.update_of_ne fun he => hne (Cell.vsB.inj he)] at h

theorem readable_psB (data : List Word) :
    Readable (fun r st => getBit (st (.psB (psBWord r))) r)
      (fun r i st => Function.update st (.psB (psBWord r))
        (setBit (st (.psB (psBWord r))) r (data.getD i 0)))
      (fun _ _ _ => false) fun i => if data.getD i 0 ≠ 0 then 1 else 0 := by
  refine readable_bits (fun r st => st.psBool r) data (fun _ _ => rfl) (fun r i st => ?_)
    fun r r' i st hne => ?_
  · have h := congrFun (cells_psBool st r (data.getD i 0)) (.psB r)
    rwa [Function.update_self] at h
  · have h := congrFun (cells_psBool st r (data.getD i 0)) (.psB r')
    rwa [Function.update_of_ne fun he => hne (Cell.psB.inj he)] at h

/-- Every setter is `setShaderConstants`, on the registers that its getter reads. -/
theorem setConstants_eq (elim : Bool) (s : ShaderType) (c : ConstantType) (data : List c.Data) :
    ∃ set same eliminates f, Readable (register s c) set same (constantAt c data) ∧
      ∀ d startRegister count, setConstants elim s c d startRegister (some data) count =
        setShaderConstants (getSoftwareRegCount s c) (getHardwareRegCount s c) d startRegister
          count same eliminates set f := by
  cases s <;> cases c
  case Vertex.Float =>
    exact ⟨_, _, elim, .vsF, readable_vec4s (fun _ _ => Slot.vsF.inj) (fun _ v => v)
      (fun _ _ => rfl) data, fun _ _ _ => rfl⟩
  case Vertex.Int =>
    exact ⟨_, _, false, .vsI, readable_vec4s (fun _ _ => Slot.vsI.inj) (fun _ v => v)
      (fun _ _ => rfl) data, fun _ _ _ => rfl⟩
  case Vertex.Bool => exact ⟨_, _, false, .vsB, readable_vsB data, fun _ _ _ => rfl⟩
  case Pixel.Float =>
    exact ⟨_, _, elim, .psF, readable_vec4s (fun _ _ => Slot.psF.inj) (fun _ v => v)
      (fun _ _ => rfl) data, fun _ _ _ => rfl⟩
  case Pixel.Int =>
    exact ⟨_, _, false, .psI, readable_vec4s (fun _ _ => Slot.psI.inj) (fun _ v => v)
      (fun _ _ => rfl) data, fun _ _ _ => rfl⟩
  case Pixel.Bool => exact ⟨_, _, false, .psB, readable_psB data, fun _ _ _ => rfl⟩

theorem getConstants_eq (s : ShaderType) (c : ConstantType) (d : LssDevice)
    (startRegister count : Word) :
    getConstants s c d startRegister true count =
      getShaderConstants (getSoftwareRegCount s c) (getHardwareRegCount s c) d startRegister true
        count (register s c) := by
  cases s <;> cases c <;> rfl

theorem getHardwareRegCount_le (s : ShaderType) (c : ConstantType) :
    getHardwareRegCount s c ≤ getSoftwareRegCount s c := by
  cases s <;> cases c <;> decide

theorem getSoftwareRegCount_lt (s : ShaderType) (c : ConstantType) :
    getSoftwareRegCount s c < 2 ^ 31 := by
  cases s <;> cases c <;> decide

/-! ### The check -/

/-- **Registers read back.**  A range that the check accepts from a register of the array on. -/
theorem readsBack {startRegister count : Word} {adjCount : Nat}
    (hcheck : checkRange s c startRegister count = some adjCount)
    (hin : startRegister.toNat + adjCount ≤ getSoftwareRegCount s c) (elim : Bool) (d : LssDevice)
    (data : List c.Data) : ReadsBack s c elim d startRegister data count adjCount := by
  obtain ⟨set, same, eliminates, f, hread, hset⟩ := setConstants_eq elim s c data
  obtain ⟨r, d', hd', hr, hnone, hsome⟩ := readsBack_range hread eliminates f hcheck hin
    (getSoftwareRegCount_lt s c) d
  refine ⟨r, d', (hset d startRegister count).trans hd', hr, fun hrec => ?_, fun sb hrec => ?_⟩
  · rw [getConstants_eq, hnone hrec]
  · obtain ⟨hblock, hstate⟩ := hsome sb hrec
    refine ⟨hblock, ?_⟩
    rw [getConstants_eq, getConstants_eq, getShaderConstants, getShaderConstants, hstate]

/-- **Shader constants.**  The check keeps a range in the array, and what is set of it is what is
got, if and only if it is not one that starts past the array with a sum, start and count, that wraps
to one of its registers. -/
theorem constants_in_registers_iff (s : ShaderType) (c : ConstantType)
    (startRegister count : Word) :
    ConstantsInRegisters s c startRegister count ↔
      ¬ (getSoftwareRegCount s c < startRegister.toNat ∧
        (startRegister + count).toNat ≤ getSoftwareRegCount s c) := by
  have hn := getSoftwareRegCount_lt s c
  have hle : startRegister + count > BitVec.ofNat 32 (getSoftwareRegCount s c) ↔
      ¬ (startRegister + count).toNat ≤ getSoftwareRegCount s c := by
    rw [gt_iff_lt, BitVec.lt_def, BitVec.toNat_ofNat, Nat.mod_eq_of_lt (by omega), Nat.not_le]
  constructor
  · rintro hin ⟨hstart, hsum⟩
    have hcheck : ∃ adjCount, checkRange s c startRegister count = some adjCount := by
      unfold checkRange commonGetSetConstants
      rw [if_neg (fun h => hle.mp h hsum)]
      exact ⟨_, rfl⟩
    obtain ⟨adjCount, hcheck⟩ := hcheck
    have := (hin adjCount hcheck).1
    omega
  · intro hno adjCount hcheck
    have hsum : (startRegister + count).toNat ≤ getSoftwareRegCount s c := by
      by_contra hgt
      rw [checkRange, commonGetSetConstants, if_pos (hle.mpr hgt)] at hcheck
      cases hcheck
    have hstart : startRegister.toNat ≤ getSoftwareRegCount s c := by
      by_contra hgt
      exact hno ⟨Nat.lt_of_not_le hgt, hsum⟩
    have hadj := commonGetSetConstants_eq hstart (fun h => hle.mp h hsum)
      (getHardwareRegCount_le s c) hn
    obtain rfl := Option.some.inj (hcheck.symm.trans hadj)
    have hin : startRegister.toNat + (min (startRegister + count).toNat (getHardwareRegCount s c) -
        startRegister.toNat) ≤ getSoftwareRegCount s c := by omega
    exact ⟨hin, readsBack hcheck hin⟩

/-- **A range past the array is accepted.**  `SetVertexShaderConstantF(0xffffffff, data, 1)`. -/
theorem wrapped_range_accepted : ¬ ∀ (s : ShaderType) (c : ConstantType)
    (startRegister count : Word), ConstantsInRegisters s c startRegister count := by
  intro hclaim
  refine (constants_in_registers_iff .Vertex .Float 0xffffffff 1).mp (hclaim _ _ _ _) ?_
  decide

end RemixBridge.Device
