import RemixBridge.Heap.Ownership
import RemixBridge.Channel.DataQueue

/-!
# Buffer — LockableBuffer

Locks and unlocks of vertex and index buffers (`lockable_buffer.h`), less those of dynamic buffers
with reserved data, and what the server makes of the unlocks that are sent (`main.cpp`).  A buffer
has its bytes in a shadow or in the shared heap, and an unlock sends the range that was locked or,
with `m_sendWhole`, all of them.

The bytes of the shadow are under the id that no allocation has.  `sent`, `touched` and `left` only
record what has happened.
-/

namespace RemixBridge.Buffer
open Runs Ownership
open SharedHeap (kInvalidId)
open DataRing (Byte)

structure Config where
  size : Word
  m_bUseSharedHeap : Bool
  m_sendWhole : Bool

/-- `pbData` is an offset into the shadow. -/
structure LockInfo where
  offsetToLock : Word
  sizeToLock : Word
  pbData : Nat
  flags : Word
  bufferId : AllocId
  discardedBufferId : AllocId

def LockInfo.isReadOnly (l : LockInfo) : Prop := l.flags &&& D3DLOCK_READONLY ≠ 0

instance (l : LockInfo) : Decidable l.isReadOnly := inferInstanceAs (Decidable (_ ≠ _))

/-- The data of an unlock, or where it is to be found. -/
inductive Source
  | data (bytes : List Byte)
  | sharedHeap (allocId : AllocId)

/-- `IDirect3DVertexBuffer9_Unlock` and `IDirect3DIndexBuffer9_Unlock`. -/
structure Command where
  offset : Word
  size : Word
  flags : Word
  source : Source

/-- The bytes from `first` on are read or written up to `past`. -/
structure Range where
  first : Nat
  past : Nat

def Command.range (c : Command) : Range := ⟨c.offset.toNat, c.offset.toNat + c.size.toNat⟩

structure State where
  m_bufferId : AllocId
  m_lockInfos : List LockInfo
  memory : AllocId → Nat → Byte
  /-- Sent, and not yet processed. -/
  commands : List Command
  /-- The bytes of the server's buffer. -/
  server : Nat → Byte
  sent : List Command
  /-- Where the client has read its buffer and the server has written its own. -/
  touched : List Range
  /-- The memory in which the application has left the value of a byte. -/
  left : Nat → Option AllocId

def init (memory : AllocId → Nat → Byte) (server : Nat → Byte) : State where
  m_bufferId := kInvalidId
  m_lockInfos := []
  memory := memory
  commands := []
  server := server
  sent := []
  touched := []
  left := fun _ => none

variable (cfg : Config)

/-! ### Lock -/

/-- A byte of the buffer that is in the range a lock asks for, up to the end when it asks for no
size. -/
def LockInfo.Locks (l : LockInfo) (x : Nat) : Prop :=
  l.offsetToLock.toNat ≤ x ∧ x < cfg.size.toNat ∧
    (l.sizeToLock = 0 ∨ x < l.offsetToLock.toNat + l.sizeToLock.toNat)

instance (l : LockInfo) (x : Nat) : Decidable (l.Locks cfg x) :=
  inferInstanceAs (Decidable (_ ∧ _ ∧ _))

/-- The application leaves in the locked range what it finds and writes there, and nothing outside
of it when it discards the buffer. -/
def leave (left : Nat → Option AllocId) (l : LockInfo) : Nat → Option AllocId :=
  if l.isReadOnly then left
  else fun x =>
    if l.Locks cfg x then some l.bufferId else if discards l.flags then none else left x

def State.push (s : State) (l : LockInfo) : State :=
  { s with
    m_bufferId := l.bufferId
    m_lockInfos := s.m_lockInfos ++ [l]
    left := leave cfg s.left l }

/-- `answer` is what the heap answers if it is asked for an allocation. -/
def lock (s : State) (offset size flags : Word) (answer : AllocId) : State :=
  if cfg.m_bUseSharedHeap then
    let bDiscard := discards flags
    let discardedBufferId :=
      if bDiscard ∧ s.m_bufferId ≠ kInvalidId then s.m_bufferId else kInvalidId
    let nextBufId := if bDiscard ∨ s.m_bufferId = kInvalidId then answer else s.m_bufferId
    if nextBufId = kInvalidId then { s with m_bufferId := nextBufId }
    else s.push cfg ⟨offset, size, 0, flags, nextBufId, discardedBufferId⟩
  else s.push cfg ⟨offset, size, offset.toNat, flags, kInvalidId, kInvalidId⟩

/-! ### Unlock -/

/-- The size that is unlocked of a buffer of `size` bytes, clamped to its end. -/
def unlockSize (size offsetToLock sizeToLock : Word) : Word :=
  let rest := size - offsetToLock
  if sizeToLock = 0 then rest else if rest < sizeToLock then rest else sizeToLock

/-- The clamped size, for a lock that starts inside the buffer. -/
theorem unlockSize_toNat {size offsetToLock sizeToLock : Word}
    (h : offsetToLock.toNat ≤ size.toNat) :
    (unlockSize size offsetToLock sizeToLock).toNat =
      if sizeToLock = 0 then size.toNat - offsetToLock.toNat
      else min sizeToLock.toNat (size.toNat - offsetToLock.toNat) := by
  have hrest : (size - offsetToLock).toNat = size.toNat - offsetToLock.toNat :=
    BitVec.toNat_sub_of_le (BitVec.le_def.mpr h)
  rw [unlockSize]
  by_cases hzero : sizeToLock = 0
  · rw [if_pos hzero, if_pos hzero, hrest]
  · rw [if_neg hzero, if_neg hzero]
    split
    · next hlt =>
        rw [BitVec.lt_def, hrest] at hlt
        rw [hrest, min_eq_right hlt.le]
    · next hle =>
        rw [BitVec.lt_def, hrest, not_lt] at hle
        rw [min_eq_left hle]

/-- `send_data(size, ptr)`. -/
def State.read (s : State) (ptr : Nat) (size : Word) : List Byte :=
  (List.range size.toNat).map fun i => s.memory kInvalidId (ptr + i)

/-- The command for a lock that is not read only, and where the client reads for it. -/
def unlockCommand (s : State) (l : LockInfo) : Command × List Range :=
  let offset := if cfg.m_sendWhole then 0 else l.offsetToLock
  let size := if cfg.m_sendWhole then cfg.size else unlockSize cfg.size l.offsetToLock l.sizeToLock
  let ptr := if cfg.m_sendWhole then 0 else l.pbData
  if cfg.m_bUseSharedHeap then (⟨offset, size, l.flags, .sharedHeap l.bufferId⟩, [])
  else (⟨offset, size, l.flags, .data (s.read ptr size)⟩, [⟨ptr, ptr + size.toNat⟩])

def State.send (s : State) (c : Command × List Range) : State :=
  { s with
    commands := s.commands ++ [c.1]
    sent := s.sent ++ [c.1]
    touched := s.touched ++ c.2 }

def unlock (s : State) : State :=
  match s.m_lockInfos with
  | [] => s
  | lockInfo :: rest =>
      let s' := if lockInfo.isReadOnly then s else s.send (unlockCommand cfg s lockInfo)
      { s' with m_lockInfos := rest }

/-! ### The server -/

/-- The byte that goes to `x`, from the command or from the heap. -/
def Command.byte (c : Command) (memory : AllocId → Nat → Byte) (x : Nat) : Byte :=
  match c.source with
  | .data bytes => bytes.getD (x - c.offset.toNat) 0
  | .sharedHeap allocId => memory allocId x

/-- A byte that the command has the server write. -/
def Command.Writes (c : Command) (x : Nat) : Prop :=
  c.range.first ≤ x ∧ x < c.range.past

instance (c : Command) (x : Nat) : Decidable (c.Writes x) := inferInstanceAs (Decidable (_ ∧ _))

/-- Locks the buffer, copies the data into it, and unlocks it.  What a buffer holds after a lock
that discards it is `undefined`. -/
def process (s : State) (c : Command) (undefined : Nat → Byte) : State :=
  let locked := if discards c.flags then undefined else s.server
  { s with
    server := fun x => if c.Writes x then c.byte s.memory x else locked x
    touched := s.touched ++ (match c.source with
      | .data _ => [c.range]
      | .sharedHeap _ => [c.range, c.range]) }

/-! ### The system -/

inductive Action
  | lock (offset size flags : Word) (answer : AllocId)
  | unlock
  /-- The application writes to memory that a lock has given it. -/
  | write (id : AllocId) (x : Nat) (value : Byte)
  | process (undefined : Nat → Byte)

def step (s : State) : Action → Option State
  | .lock offset size flags answer => some (lock cfg s offset size flags answer)
  | .unlock => some (unlock cfg s)
  | .write id x value =>
      some { s with memory := Function.update s.memory id (Function.update (s.memory id) x value) }
  | .process undefined =>
      match s.commands with
      | [] => none
      | c :: rest => some (process { s with commands := rest } c undefined)

end RemixBridge.Buffer
