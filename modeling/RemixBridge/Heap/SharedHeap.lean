import RemixBridge.Support.Extents
import RemixBridge.Support.Runs
import Mathlib.Data.BitVec
import Mathlib.Data.List.AList

/-!
# Heap — SharedHeap

The heap in shared memory (`util_sharedheap.cpp`): segments cut into chunks, the client's tables of
what is allocated in them, the server's tables of the same, built from the commands it is sent, and
a word of shared memory for every chunk.

The client's operations go in the steps between which the server can be seen to act: it looks at the
words one after the other, and the word of a new allocation is set after the command is sent.
`owners`, `held`, `processed` and `touched` only record what has happened.
-/

namespace RemixBridge.SharedHeap
open Runs

/-- Allocations, chunks and segments have 32-bit numbers. -/
def kInvalidId : Nat := 2 ^ 32 - 1

def kMax32BitHeapSize : Nat := 2 ^ 31

inductive ChunkState
  | Unallocated
  | Allocated
  | Deallocated
deriving DecidableEq

/-- `getSharedHeapChunkSize` and `getSharedHeapDefaultSegmentSize`. -/
structure Options where
  chunkSize : Nat
  defaultSegmentSize : Nat

/-- The number of words that `SharedHeap_meta` has room for. -/
def Options.metaSize (o : Options) : Nat := kMax32BitHeapSize / o.chunkSize

/-! ### Segments -/

structure Segment where
  size : Nat
  baseChunkId : Nat
  nChunks : Nat
deriving DecidableEq

def Segment.new (segmentSize chunkSize baseChunkId : Nat) : Segment where
  size := segmentSize
  baseChunkId := baseChunkId
  nChunks := segmentSize / chunkSize

def Segment.Contains (seg : Segment) (chunkId : Nat) : Prop :=
  seg.baseChunkId ≤ chunkId ∧ chunkId < seg.baseChunkId + seg.nChunks

instance (seg : Segment) (chunkId : Nat) : Decidable (seg.Contains chunkId) :=
  inferInstanceAs (Decidable (_ ∧ _))

def getTotalHeapSize (segments : List Segment) : Nat := (segments.map (·.size)).sum

def chunkIdToSegId (segments : List Segment) (chunkId : Nat) : Nat :=
  (segments.findIdx? (·.Contains chunkId)).getD kInvalidId

abbrev Cache := AList fun _ : Nat => Nat

/-- The segment and the offset in it of an allocation. -/
def getBuf (o : Options) (segments : List Segment) (cache : Cache) (id : Nat) :
    Option (Nat × Nat) := do
  let firstChunk ← cache.lookup id
  let segId := chunkIdToSegId segments firstChunk
  let seg ← segments[segId]?
  return (segId, (firstChunk - seg.baseChunkId) * o.chunkSize)

/-! ### The client -/

abbrev Allocation := Extent

structure Client where
  m_defaultSegmentSize : Nat
  m_nChunks : Nat
  m_cache : Cache
  m_nextUid : Nat
  m_allocations : List Allocation
  m_sizeAllocated : Nat
  m_segments : List Segment

def createAllocation (firstChunk numChunks : Nat) : Allocation where
  first := firstChunk
  final := (firstChunk + numChunks + (2 ^ 32 - 1)) % 2 ^ 32

def invalidAllocation : Allocation := ⟨kInvalidId, kInvalidId⟩

/-- What a segment size is doubled to; there is none when the doubling goes on for ever, the size
having become 0. -/
def growSegmentSize (size : Nat) : Nat → Nat → Option Nat
  | 0, _              => none
  | k + 1, newDefault =>
      if newDefault < size then growSegmentSize size k (newDefault * 2 % 2 ^ 32)
      else some newDefault

namespace Client

variable (o : Options) (c : Client)

def allocationCrossesHeapSegBound (alloc : Allocation) : Bool :=
  chunkIdToSegId c.m_segments alloc.first ≠ chunkIdToSegId c.m_segments alloc.final

def isValidAllocation (alloc : Allocation) : Bool :=
  ¬ (c.m_nChunks ≤ alloc.first ∨ c.m_nChunks ≤ alloc.final ∨ alloc.final < alloc.first ∨
    c.allocationCrossesHeapSegBound alloc)

/-- The loop over the allocations, past the one that ends in `prevAllocatedFinalChunk`. -/
def findGap (numChunks : Nat) : Nat → List Allocation → Allocation
  | _, []                                => invalidAllocation
  | prevAllocatedFinalChunk, alloc :: allocs =>
      let potentiallyFreeFirstChunk := (prevAllocatedFinalChunk + 1) % 2 ^ 32
      if potentiallyFreeFirstChunk < alloc.first ∧
          numChunks ≤ alloc.first - potentiallyFreeFirstChunk then
        createAllocation potentiallyFreeFirstChunk numChunks
      else findGap numChunks alloc.final allocs

def findFreeInMiddle (numChunks : Nat) : Allocation := findGap numChunks kInvalidId c.m_allocations

/-- Without allocations what is read as the last of them is `garbage`. -/
def findFreeOnEnd (numChunks : Nat) (garbage : Nat) : Allocation :=
  let finalChunk := (c.m_allocations.getLast?.map (·.final)).getD garbage
  createAllocation ((finalChunk + 1) % 2 ^ 32) numChunks

/-- `segmentSize` of a new segment, cut in half for each failed attempt to map it. -/
def newSegmentSize (failures : Nat) : Nat :=
  let segmentSizeUnaligned :=
    min ((kMax32BitHeapSize + (2 ^ 32 - getTotalHeapSize c.m_segments)) % 2 ^ 32)
      c.m_defaultSegmentSize
  let aligned := BitVec.ofNat 32 segmentSizeUnaligned &&& ~~~ (BitVec.ofNat 32 o.chunkSize - 1)
  aligned.toNat >>> failures

def addSegment (segmentSize : Nat) : Client :=
  let newSeg := Segment.new segmentSize o.chunkSize c.m_nChunks
  { c with
    m_segments := c.m_segments ++ [newSeg]
    m_nChunks := c.m_nChunks + newSeg.nChunks }

/-- A new entry of the tables. -/
def record (numChunks : Nat) (alloc : Allocation) : Client :=
  { c with
    m_nextUid := (c.m_nextUid + 1) % 2 ^ 32
    m_cache := c.m_cache.insert c.m_nextUid alloc.first
    m_allocations := alloc.insert c.m_allocations
    m_sizeAllocated := (c.m_sizeAllocated + numChunks * o.chunkSize) % 2 ^ 32 }

def firstChunk (id : Nat) : Nat := (c.m_cache.lookup id).getD 0

/-- One entry of `deallocatedIds`. -/
def free (id : Nat) : Client :=
  let firstChunk := c.firstChunk id
  let finalChunk := ((Extent.find firstChunk c.m_allocations).map (·.final)).getD 0
  let numChunks := (finalChunk + 1 + (2 ^ 32 - firstChunk)) % 2 ^ 32
  { c with
    m_cache := c.m_cache.erase id
    m_allocations := Extent.erase firstChunk c.m_allocations
    m_sizeAllocated := (c.m_sizeAllocated + (2 ^ 32 - numChunks * o.chunkSize % 2 ^ 32)) % 2 ^ 32 }

end Client

/-! ### Commands and the server -/

/-- `Bridge_SharedHeap_*`, and an unlock whose data is in the heap. -/
inductive Command
  | AddSeg (segmentSize : Nat)
  | Alloc (id : Nat) (firstChunk : Nat)
  | Dealloc (id : Nat)
  | Unlock (id : Nat)
deriving DecidableEq

structure Server where
  m_nChunks : Nat
  m_cache : Cache
  m_segments : List Segment

/-- The server's tables after a command. -/
def Server.process (o : Options) (v : Server) : Command → Server
  | .AddSeg segmentSize =>
      let newSeg := Segment.new segmentSize o.chunkSize v.m_nChunks
      { v with
        m_segments := v.m_segments ++ [newSeg]
        m_nChunks := v.m_nChunks + newSeg.nChunks }
  | .Alloc id firstChunk => { v with m_cache := v.m_cache.insert id firstChunk }
  | .Dealloc id => { v with m_cache := v.m_cache.erase id }
  | .Unlock _ => v

/-- `m_cache[id]`, which an unknown `id` is given the chunk 0 in. -/
def Server.firstChunk (v : Server) (id : Nat) : Nat := (v.m_cache.lookup id).getD 0

/-! ### The system -/

/-- Where the client is in an operation. -/
inductive Control
  | idle
  /-- At the top of the loop of `findAllocation`. -/
  | searching (numChunks nFailedIterations : Nat)
  /-- In `freeDeallocations`, with the ids still to look at and those found deallocated. -/
  | freeing (todo deallocatedIds : List Nat) (retry : Option (Nat × Nat))
  /-- Before `addNewHeapSegment` in the loop. -/
  | growing (numChunks nFailedIterations : Nat)
  /-- At the end of the loop's body. -/
  | waiting (numChunks nFailedIterations : Nat)
  /-- The allocation is sent, its chunk's word not yet set. -/
  | marking (firstChunk : Nat)

structure State where
  client : Client
  control : Control
  words : Nat → ChunkState
  queue : List Command
  server : Server
  owners : List (Nat × Allocation)
  held : List Nat
  processed : List Command
  touched : List Nat

inductive Action
  | allocate (size : Nat)
  | search (garbage : Nat)
  | freeDeallocations
  | look (id : Nat)
  | reclaim
  | addNewHeapSegment (failures : Nat)
  | wait (bTimedOut : Bool)
  | mark
  | deallocate (id : Nat)
  | unlock (id : Nat)
  | serve

namespace State

variable (o : Options) (s : State)

def send (c : Command) : State := { s with queue := s.queue ++ [c] }

def go (control : Control) : State := { s with control := control }

def setDefaultSegmentSize (newDefault : Nat) : State :=
  { s with client := { s.client with m_defaultSegmentSize := newDefault } }

/-- `setChunkState`. -/
def setChunkState (chunkId : Nat) (state : ChunkState) : State :=
  { s with
    words := Function.update s.words chunkId state
    touched := chunkId :: s.touched }

/-- The rest of `allocate` after `findAllocation`. -/
def finish (numChunks : Nat) (alloc : Allocation) : State :=
  if s.client.isValidAllocation alloc then
    { s with
      client := s.client.record o numChunks alloc
      control := .marking alloc.first
      queue := s.queue ++ [Command.Alloc s.client.m_nextUid alloc.first]
      owners := s.owners ++ [(s.client.m_nextUid, alloc)]
      held := s.client.m_nextUid :: s.held }
  else s.go .idle

/-- The second loop of `freeDeallocations`. -/
def freeAll : List Nat → State → State
  | [], s        => s
  | id :: ids, s =>
      freeAll ids
        { s.setChunkState (s.client.firstChunk id) .Unallocated with client := s.client.free o id }

def addSegment (segmentSize : Nat) : State :=
  { s with
    client := s.client.addSegment o segmentSize
    queue := s.queue ++ [Command.AddSeg segmentSize] }

/-- The word that a command sets on the server. -/
def serve (c : Command) : State :=
  let s' := match c with
    | .Dealloc id => s.setChunkState (s.server.firstChunk id) .Deallocated
    | _ => s
  { s' with
    server := s.server.process o c
    processed := s.processed ++ [c] }

end State

def kAttemptIncrease : Nat := 2

/-- One step of either process. -/
def step (o : Options) (s : State) : Action → Option State
  | .allocate size =>
      match s.control with
      | .idle =>
          if size < 2 ^ 32 then
            (growSegmentSize size 33 s.client.m_defaultSegmentSize).map fun newDefault =>
              let s' := s.setDefaultSegmentSize newDefault
              let numChunks :=
                if size % o.chunkSize = 0 then size / o.chunkSize else size / o.chunkSize + 1
              match s.client.m_allocations with
              | [] => s'.finish o numChunks (createAllocation 0 numChunks)
              | _ :: _ => s'.go (.searching numChunks 0)
          else none
      | _ => none
  | .search garbage =>
      match s.control with
      | .searching numChunks nFailedIterations =>
          let inMiddle := s.client.findFreeInMiddle numChunks
          let onEnd := s.client.findFreeOnEnd numChunks garbage
          if s.client.isValidAllocation inMiddle then some (s.finish o numChunks inMiddle)
          else if s.client.isValidAllocation onEnd then some (s.finish o numChunks onEnd)
          else some (s.go (.freeing s.client.m_cache.keys [] (some (numChunks, nFailedIterations))))
      | _ => none
  | .freeDeallocations =>
      match s.control with
      | .idle => some (s.go (.freeing s.client.m_cache.keys [] none))
      | _ => none
  | .look id =>
      match s.control with
      | .freeing todo deallocatedIds retry =>
          if id ∈ todo then
            let s' := { s with touched := s.client.firstChunk id :: s.touched }
            if s.words (s.client.firstChunk id) = .Deallocated then
              some (s'.go (.freeing (todo.erase id) (id :: deallocatedIds) retry))
            else some (s'.go (.freeing (todo.erase id) deallocatedIds retry))
          else none
      | _ => none
  | .reclaim =>
      match s.control with
      | .freeing [] deallocatedIds retry =>
          let s' := State.freeAll o deallocatedIds s
          match retry with
          | none => some (s'.go .idle)
          | some (numChunks, nFailedIterations) =>
              if nFailedIterations = kAttemptIncrease then
                some (s'.go (.growing numChunks nFailedIterations))
              else some (s'.go (.waiting numChunks nFailedIterations))
      | _ => none
  | .addNewHeapSegment failures =>
      let segmentSize := s.client.newSegmentSize o failures
      match s.control with
      | .idle => some (if o.chunkSize < segmentSize then s.addSegment o segmentSize else s)
      | .growing numChunks nFailedIterations =>
          if o.chunkSize < segmentSize then
            some ((s.addSegment o segmentSize).finish o numChunks
              (createAllocation s.client.m_nChunks numChunks))
          else some (s.go (.waiting numChunks nFailedIterations))
      | _ => none
  | .wait bTimedOut =>
      match s.control with
      | .waiting numChunks nFailedIterations =>
          if bTimedOut then some (s.go .idle)
          else some (s.go (.searching numChunks (nFailedIterations + 1)))
      | _ => none
  | .mark =>
      match s.control with
      | .marking firstChunk => some ((s.setChunkState firstChunk .Allocated).go .idle)
      | _ => none
  | .deallocate id =>
      match s.control with
      | .idle => some { s.send (.Dealloc id) with held := s.held.erase id }
      | _ => none
  | .unlock id =>
      match s.control with
      | .idle => some (s.send (.Unlock id))
      | _ => none
  | .serve =>
      match s.queue with
      | [] => none
      | c :: queue => some ({ s with queue := queue }.serve o c)

/-- Before the constructors: no segments. -/
def empty (o : Options) : State where
  client :=
    { m_defaultSegmentSize := o.defaultSegmentSize, m_nChunks := 0, m_cache := ∅, m_nextUid := 0
      m_allocations := [], m_sizeAllocated := 0, m_segments := [] }
  control := .idle
  words := fun _ => .Unallocated
  queue := []
  server := { m_nChunks := 0, m_cache := ∅, m_segments := [] }
  owners := []
  held := []
  processed := []
  touched := []

/-- After the client's constructor, which divides by the chunk's size and maps a word for each
chunk. -/
def start (o : Options) (failures : Nat) : Option State :=
  if 0 < o.metaSize then step o (empty o) (.addNewHeapSegment failures) else none

/-- A run from the start. -/
def exec (o : Options) (failures : Nat) (as : List Action) : Option State :=
  (start o failures).bind fun s => run (step o) s as

/-- The client gives back and unlocks only what it holds. -/
def Promised (s : State) : Action → Prop
  | .deallocate id => id ∈ s.held
  | .unlock id => id ∈ s.held
  | _ => True

instance (s : State) (a : Action) : Decidable (Promised s a) := by
  unfold Promised
  split <;> infer_instance

def stepPromised (o : Options) (s : State) (a : Action) : Option State :=
  if Promised s a then step o s a else none

/-- A run from the start in which the client does so. -/
def execPromised (o : Options) (failures : Nat) (as : List Action) : Option State :=
  (start o failures).bind fun s => run (stepPromised o) s as

end RemixBridge.SharedHeap
