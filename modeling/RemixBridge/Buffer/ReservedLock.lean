import RemixBridge.Buffer.LockableBuffer
import RemixBridge.Channel.SyncSteps

/-!
# Buffer — ReservedLock

Locks of dynamic buffers with reserved data (`lockable_buffer.h`, `m_optimizedLock`): a lock sends a
command with a blob and hands out the blob's words on the data ring, and the unlock tells the server
where they are.  The two processes go on as in `SyncDataQueue`; here the words of the ring have
their bytes, and some of the client's commands are those of locks and unlocks.

`wrote` and `copied` only record what has happened.
-/

namespace RemixBridge.ReservedLock
open Runs DataRing Ownership
open Buffer (unlockSize)

def kSIMDAlign : Nat := 16

/-- The bytes of `kLockCheckValue`, 0xbaadf00d, in memory. -/
def kLockCheckValue : List Byte := [0x0d, 0xf0, 0xad, 0xba]

/-- The ring, the address of its words in the client, and the size of the buffer. -/
structure Config where
  ring : RingSize
  base : Nat
  four_dvd_base : 4 ∣ base
  size : Word

/-- A `LockInfo`, whose pointers are offsets into the ring; `wrote` is what the application has
written through `pbData`. -/
structure LockInfo where
  offsetToLock : Word
  sizeToLock : Word
  pbData : Nat
  flags : Word
  checkPtr : Nat
  wrote : Nat → Option Byte

/-- The application writes the `i`-th byte. -/
def LockInfo.write (l : LockInfo) (i : Nat) (value : Byte) : LockInfo :=
  { l with wrote := Function.update l.wrote i (some value) }

/-- What the server pulls of an unlock, less the flags. -/
structure Unlock where
  lockInfo : LockInfo
  offset : Word
  size : Word
  dataOffset : Nat

/-- What the server has copied into its buffer from `offset` on. -/
structure Copy where
  lockInfo : LockInfo
  offset : Word
  size : Word
  bytes : Nat → Byte

/-- What the client is in the middle of: a lock, with its `LockInfo` once there is a blob, or an
unlock. -/
inductive Operation
  | locking (offset size flags : Word)
  | locked (lockInfo : LockInfo)
  | unlocking (lockInfo : LockInfo)

structure State where
  channel : SyncDataQueue.State
  memory : Nat → Byte
  m_lockInfos : List LockInfo
  operation : Option Operation
  /-- For each command of the channel, the unlock that it is. -/
  unlocks : List (Option Unlock)
  /-- The unlock that the server has taken the header of. -/
  processing : Option Unlock
  copied : List Copy

def start (memory : Nat → Byte) : State where
  channel := SyncDataQueue.start
  memory := memory
  m_lockInfos := []
  operation := none
  unlocks := []
  processing := none
  copied := []

variable (cfg : Config)

/-! ### Lock -/

def align (v a : Nat) : Nat := (v + a - 1) / a * a

def dataSize (size : Word) : Nat := if size = 0 then cfg.size.toNat else size.toNat

/-- The blob of a lock. -/
def blobSize (size : Word) : Nat := dataSize cfg size + 4 + kSIMDAlign

/-- What a lock makes of the blob that starts with the word `pos`. -/
def reserve (offset size flags : Word) (pos : Nat) : LockInfo where
  offsetToLock := offset
  sizeToLock := size
  pbData := align (cfg.base + 4 * pos + 4) kSIMDAlign - cfg.base
  flags := flags
  checkPtr := 4 * pos
  wrote := fun _ => none

/-- `bytes` are written from `ptr` on. -/
def writeBytes (memory : Nat → Byte) (ptr : Nat) (bytes : List Byte) (b : Nat) : Byte :=
  if ptr ≤ b then (bytes[b - ptr]?).getD (memory b) else memory b

/-- An item is pushed, whose words get the bytes of `data`. -/
def State.push (s : State) (it : Item) (data : Nat → Byte) : Nat → Byte := fun b =>
  if b / 4 ∈ it.words cfg.ring.size s.channel.ring.m_pos then data b else s.memory b

/-! ### Unlock -/

def unlockOf (l : LockInfo) : Unlock where
  lockInfo := l
  offset := l.offsetToLock
  size := unlockSize cfg.size l.offsetToLock l.sizeToLock
  dataOffset := l.pbData / 4

def LockInfo.isReadOnly (l : LockInfo) : Prop := l.flags &&& D3DLOCK_READONLY ≠ 0

instance (l : LockInfo) : Decidable l.isReadOnly := inferInstanceAs (Decidable (_ ≠ _))

/-- The front of the region is as the lock has left it. -/
def State.checks (s : State) (l : LockInfo) : Prop :=
  (List.range 4).map (fun i => s.memory (l.checkPtr + i)) = kLockCheckValue

instance (s : State) (l : LockInfo) : Decidable (s.checks l) :=
  inferInstanceAs (Decidable ((List.range 4).map _ = kLockCheckValue))

/-! ### The server -/

/-- `memcpy(pbData, data, SizeToLock)`. -/
def copy (memory : Nat → Byte) (u : Unlock) : Copy where
  lockInfo := u.lockInfo
  offset := u.offset
  size := u.size
  bytes := fun i => memory (4 * u.dataOffset + i)

/-- The server's next access, with what it takes and what it copies. -/
def State.serve (s : State) (channel : SyncDataQueue.State) : State :=
  match s.channel.server with
  | .idle =>
      { s with
        channel := channel
        processing := s.unlocks.head?.join
        unlocks := s.unlocks.tail }
  | .pulling =>
      match s.channel.ring.pulling with
      | [] =>
          { s with
            channel := channel
            processing := none
            copied := s.copied ++ (s.processing.map (copy s.memory)).toList }
      | _ :: _ => { s with channel := channel }
  | _ => { s with channel := channel }

/-! ### The steps -/

inductive Action
  /-- A step of a command that is no lock or unlock. -/
  | begin
  | send (it : Item)
  | done
  | lock (offset size flags : Word)
  | unlock
  /-- What is left of a lock or an unlock when it has pushed something. -/
  | proceed
  /-- The client's next access; `data` is what it pushes. -/
  | client (data : Nat → Byte)
  | wake
  | server
  /-- The application writes a byte of the range of the `k`-th lock that it has. -/
  | write (k i : Nat) (value : Byte)

/-- A command begins, with its first item. -/
def beginWith (channel : SyncDataQueue.State) (it : Item) : Option SyncDataQueue.State :=
  (SyncDataQueue.step cfg.ring channel .begin).bind fun c =>
    SyncDataQueue.step cfg.ring c (.send it)

/-- The client's next access: a push, or one that touches no word of the ring. -/
def State.access (s : State) (channel : SyncDataQueue.State) (data : Nat → Byte) : State :=
  match s.channel.client with
  | .write it =>
      let memory := s.push cfg it data
      match s.operation with
      | some (.locking offset size flags) =>
          let pos := ensureSpace cfg.ring.size (pop cfg.ring.size s.channel.ring.m_pos)
            (blobSize cfg size)
          let l := reserve cfg offset size flags pos
          { s with
            channel := channel
            memory := writeBytes memory l.checkPtr kLockCheckValue
            operation := some (.locked l) }
      | _ => { s with channel := channel, memory := memory }
  | _ => { s with channel := channel }

/-- The rest of a lock or an unlock. -/
def State.proceed (s : State) : Option State :=
  match s.operation with
  | some (.locked l) =>
      (SyncDataQueue.step cfg.ring s.channel .done).map fun c =>
        { s with
          channel := c
          operation := none
          m_lockInfos := s.m_lockInfos ++ [l]
          unlocks := s.unlocks ++ [none] }
  | some (.unlocking l) =>
      if s.channel.ring.cur = [.many 3] then
        (SyncDataQueue.step cfg.ring s.channel (.send (.many 1))).map fun c =>
          { s with channel := c }
      else
        (SyncDataQueue.step cfg.ring s.channel .done).map fun c =>
          { s with
            channel := c
            operation := none
            unlocks := s.unlocks ++ [some (unlockOf cfg l)] }
  | _ => none

def step (s : State) : Action → Option State
  | .begin =>
      if s.operation.isNone then
        (SyncDataQueue.step cfg.ring s.channel .begin).map fun c => { s with channel := c }
      else none
  | .send it =>
      if s.operation.isNone then
        (SyncDataQueue.step cfg.ring s.channel (.send it)).map fun c => { s with channel := c }
      else none
  | .done =>
      if s.operation.isNone then
        (SyncDataQueue.step cfg.ring s.channel .done).map fun c =>
          { s with channel := c, unlocks := s.unlocks ++ [none] }
      else none
  | .lock offset size flags =>
      if s.operation.isNone then
        (beginWith cfg s.channel (.blob (blobSize cfg size))).map fun c =>
          { s with channel := c, operation := some (.locking offset size flags) }
      else none
  | .unlock =>
      if s.operation.isNone then
        match s.m_lockInfos with
        | [] => some s
        | l :: rest =>
            if l.isReadOnly then some { s with m_lockInfos := rest }
            else if s.checks l then
              (beginWith cfg s.channel (.many 3)).map fun c =>
                { s with
                  channel := c
                  m_lockInfos := rest
                  operation := some (.unlocking l) }
            -- The application exits.
            else some { s with channel := { s.channel with client := .exited } }
      else none
  | .proceed => s.proceed cfg
  | .client data =>
      (SyncDataQueue.step cfg.ring s.channel .client).map fun c => s.access cfg c data
  | .wake => (SyncDataQueue.step cfg.ring s.channel .wake).map fun c => { s with channel := c }
  | .server => (SyncDataQueue.step cfg.ring s.channel .server).map s.serve
  | .write k i value =>
      s.m_lockInfos[k]?.bind fun l =>
        if i < dataSize cfg l.sizeToLock then
          some { s with
            memory := Function.update s.memory (l.pbData + i) value
            m_lockInfos := s.m_lockInfos.set k (l.write i value) }
        else none

end RemixBridge.ReservedLock
