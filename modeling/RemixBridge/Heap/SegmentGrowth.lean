import RemixBridge.Heap.Reuse

/-!
# Heap — SegmentGrowth

A new segment of the heap (`addNewHeapSegment`), on the client and on the server, when shared memory
cannot be mapped.  `SharedMemory` says so with a `throw` that has nothing to throw again, which ends
the process; neither `catch` is reached.

* `drain_eq`, `drain_terminated`: what the server makes of the commands in flight.
* `agreed_reached`: the server's segments are those of the client, up to commands in flight.
* `grows_cleanly_iff`: when both sides end with the same new segment, or without one.
-/

namespace RemixBridge.SharedHeap
open Runs

/-! ### Exceptions -/

/-- How a call ends: an exception is a message that a `catch` may take. -/
inductive Outcome (α : Type) where
  | returned (a : α)
  | threw (errMsg : String)
  | terminated
  deriving DecidableEq, Repr

/-- `throw;`, which throws what is being handled again. -/
def rethrow {α : Type} (handled : Option String) : Outcome α :=
  match handled with
  | some errMsg => .threw errMsg
  | none        => .terminated

/-- Whether the two calls of an attempt to map memory succeed. -/
structure Mapping where
  CreateFileMapping : Bool
  MapViewOfFile : Bool
  deriving DecidableEq, Repr

/-- `createSharedMemory`. -/
def Mapping.succeeds (m : Mapping) : Bool := m.CreateFileMapping && m.MapViewOfFile

/-- The constructor of `SharedMemory`. -/
def SharedMemory (handled : Option String) (m : Mapping) : Outcome Unit :=
  if m.succeeds then .returned () else rethrow handled

/-! ### The two sides -/

/-- The loop of `addNewHeapSegment`: the size that was mapped, if any was.  Outside its `catch`
nothing is being handled. -/
def tryHalves (chunkSize : Nat) (maps : Nat → Mapping) (segmentSize : Nat) : Outcome (Option Nat) :=
  if chunkSize < segmentSize then
    match SharedMemory none (maps 0) with
    | .returned _ => .returned (some segmentSize)
    | .threw _    => tryHalves chunkSize (fun i => maps (i + 1)) (segmentSize / 2)
    | .terminated => .terminated
  else .returned none
termination_by segmentSize
decreasing_by omega

/-- The client's `addNewHeapSegment`; `maps` are its attempts. -/
def State.addNewHeapSegment (o : Options) (s : State) (maps : Nat → Mapping) :
    Outcome (Bool × State) :=
  match tryHalves o.chunkSize maps (s.client.newSegmentSize o 0) with
  | .returned (some segmentSize) => .returned (true, s.addSegment o segmentSize)
  | .returned none               => .returned (false, s)
  | .threw errMsg                => .threw errMsg
  | .terminated                  => .terminated

/-- The server's. -/
def Server.addNewHeapSegment (o : Options) (v : Server) (segmentSize : Nat) (m : Mapping) :
    Outcome Server :=
  match SharedMemory none m with
  | .returned _ => .returned (v.process o (.AddSeg segmentSize))
  | .threw _    => .returned v
  | .terminated => .terminated

/-- The server processes commands; `maps id` is its attempt at the segment `id`. -/
def Server.drain (o : Options) (maps : Nat → Mapping) : Server → List Command → Outcome Server
  | v, []                       => .returned v
  | v, .AddSeg segmentSize :: q =>
      match v.addNewHeapSegment o segmentSize (maps v.m_segments.length) with
      | .returned v' => v'.drain o maps q
      | .threw msg   => .threw msg
      | .terminated  => .terminated
  | v, c :: q                   => (v.process o c).drain o maps q

/-- The client has a new segment, one of the halved sizes, and so has the server when it has
processed what is in flight; or there is none, and nothing has changed. -/
def GrowsCleanly (o : Options) (s : State) (maps serverMaps : Nat → Mapping) : Prop :=
  (∃ s' v failures, s.addNewHeapSegment o maps = .returned (true, s') ∧
    s'.client.m_segments = s.client.m_segments ++
      [Segment.new (s.client.newSegmentSize o failures) o.chunkSize s.client.m_nChunks] ∧
    s.server.drain o serverMaps s'.queue = .returned v ∧ v.m_segments = s'.client.m_segments) ∨
  s.addNewHeapSegment o maps = .returned (false, s)

/-! ### Commands in flight -/

section
variable {o : Options} {maps : Nat → Mapping} {v : Server} {q : List Command}

theorem after_cons (c : Command) : v.after o (c :: q) = (v.process o c).after o q := rfl

theorem after_length : v.m_segments.length ≤ (v.after o q).m_segments.length :=
  (after_segments q).length_le

theorem drain_addSeg {segmentSize : Nat} (h : (maps v.m_segments.length).succeeds = true) :
    v.drain o maps (.AddSeg segmentSize :: q) =
      (v.process o (.AddSeg segmentSize)).drain o maps q := by
  rw [Server.drain, Server.addNewHeapSegment, SharedMemory, h, if_pos rfl]

theorem drain_addSeg_terminated {segmentSize : Nat}
    (h : ¬ (maps v.m_segments.length).succeeds = true) :
    v.drain o maps (.AddSeg segmentSize :: q) = .terminated := by
  rw [Server.drain, Server.addNewHeapSegment, SharedMemory, if_neg h]
  rfl

/-- Where every mapping succeeds, so do the commands. -/
theorem drain_eq (h : ∀ id, v.m_segments.length ≤ id → id < (v.after o q).m_segments.length →
    (maps id).succeeds = true) : v.drain o maps q = .returned (v.after o q) := by
  induction q generalizing v with
  | nil => rfl
  | cons c q ih =>
      rw [after_cons] at h ⊢
      have hrest (hle : v.m_segments.length ≤ (v.process o c).m_segments.length) :
          (v.process o c).drain o maps q = .returned ((v.process o c).after o q) :=
        ih fun id hid => h id (hle.trans hid)
      cases c with
      | AddSeg segmentSize =>
          have hlen : (v.process o (.AddSeg segmentSize)).m_segments.length =
              v.m_segments.length + 1 := List.length_append
          have hmore := @after_length o (v.process o (.AddSeg segmentSize)) q
          rw [drain_addSeg (h _ le_rfl (by omega))]
          exact hrest (by omega)
      | Alloc id f => exact hrest le_rfl
      | Dealloc id => exact hrest le_rfl
      | Unlock id => exact hrest le_rfl

/-- A mapping that fails ends the server. -/
theorem drain_terminated {id : Nat} (hid : v.m_segments.length ≤ id)
    (hlt : id < (v.after o q).m_segments.length) (hfail : ¬ (maps id).succeeds = true) :
    v.drain o maps q = .terminated := by
  induction q generalizing v with
  | nil => exact absurd hlt (Nat.not_lt_of_le hid)
  | cons c q ih =>
      rw [after_cons] at hlt
      cases c with
      | AddSeg segmentSize =>
          have hlen : (v.process o (.AddSeg segmentSize)).m_segments.length =
              v.m_segments.length + 1 := List.length_append
          by_cases hfirst : (maps v.m_segments.length).succeeds = true
          · have hne : id ≠ v.m_segments.length := by
              rintro rfl
              exact hfail hfirst
            rw [drain_addSeg hfirst]
            exact ih (by omega) hlt
          · exact drain_addSeg_terminated hfirst
      | Alloc id' f => exact ih hid hlt
      | Dealloc id' => exact ih hid hlt
      | Unlock id' => exact ih hid hlt

end

/-! ### Segments of the two sides -/

/-- The states in which `addNewHeapSegment` can be called: that of the client's constructor, and
those of a run. -/
inductive Reached (o : Options) : State → Prop
  | constructor : Reached o (empty o)
  | run {failures : Nat} {as : List Action} {s : State} (h : exec o failures as = some s) :
      Reached o s

/-- What the server has processed and what is in flight are the segments of the client. -/
def Agreed (o : Options) (s : State) : Prop :=
  (s.server.after o s.queue).m_segments = s.client.m_segments ∧
    (s.server.after o s.queue).m_nChunks = s.client.m_nChunks

section
variable {o : Options} {s s' : State}

/-- A command that does not tell of a segment. -/
theorem Agreed.send (h : Agreed o s) {c : Command} (hc : ∀ size, c ≠ .AddSeg size) {client : Client}
    (hsegs : client.m_segments = s.client.m_segments)
    (hchunks : client.m_nChunks = s.client.m_nChunks) :
    (s.server.after o (s.queue ++ [c])).m_segments = client.m_segments ∧
      (s.server.after o (s.queue ++ [c])).m_nChunks = client.m_nChunks := by
  rw [after_append, hsegs, hchunks]
  cases c with
  | AddSeg size => exact absurd rfl (hc size)
  | Alloc id f => exact h
  | Dealloc id => exact h
  | Unlock id => exact h

theorem Agreed.finish (h : Agreed o s) (numChunks : Nat) (alloc : Allocation) :
    Agreed o (s.finish o numChunks alloc) := by
  unfold State.finish
  split
  · exact h.send (fun _ hc => by cases hc) rfl rfl
  · exact h

theorem Agreed.addSegment (h : Agreed o s) (segmentSize : Nat) :
    Agreed o (s.addSegment o segmentSize) := by
  obtain ⟨hsegs, hchunks⟩ := h
  unfold Agreed State.addSegment
  rw [after_append]
  constructor
  · show (s.server.after o s.queue).m_segments ++ _ = s.client.m_segments ++ _
    rw [hsegs, hchunks]
  · show (s.server.after o s.queue).m_nChunks + _ = s.client.m_nChunks + _
    rw [hchunks]

theorem Agreed.freeAll (h : Agreed o s) (ids : List Nat) : Agreed o (State.freeAll o ids s) := by
  induction ids generalizing s with
  | nil => exact h
  | cons id ids ih => exact ih h

theorem agreed_step {a : Action} (hstep : step o s a = some s') (h : Agreed o s) : Agreed o s' := by
  cases move_of_step hstep with
  | @allocateFirst _ _ newDefault =>
      have hset : Agreed o (s.setDefaultSegmentSize newDefault) := h
      exact hset.finish _ _
  | found => exact h.finish _ _
  | reclaim => exact Agreed.freeAll h _
  | addSegment => exact h.addSegment _
  | grow => exact (h.addSegment _).finish _ _
  | deallocate => exact h.send (fun _ hc => by cases hc) rfl rfl
  | unlock => exact h.send (fun _ hc => by cases hc) rfl rfl
  | @serve c queue hqueue =>
      unfold Agreed at h
      rw [hqueue] at h
      cases c with
      | AddSeg size => exact h
      | Alloc id f => exact h
      | Dealloc id => exact h
      | Unlock id => exact h
  | allocate | notFound | freeDeallocations | deallocated | notDeallocated | noSegment | noGrow
  | timeout | retry | mark => exact h

theorem agreed_reached (h : Reached o s) : Agreed o s := by
  cases h with
  | constructor => exact ⟨rfl, rfl⟩
  | @run failures as _ h =>
      obtain ⟨s₀, hstart, hrun⟩ := Option.bind_eq_some_iff.mp h
      have hfirst : Agreed o s₀ := by
        unfold start at hstart
        split at hstart
        · exact agreed_step hstart ⟨rfl, rfl⟩
        · cases hstart
      exact run_inv (fun _ _ _ hI hs => agreed_step hs hI) hfirst hrun

/-! ### The growth -/

theorem tryHalves_small {chunkSize segmentSize : Nat} (maps : Nat → Mapping)
    (h : ¬ chunkSize < segmentSize) : tryHalves chunkSize maps segmentSize = .returned none := by
  rw [tryHalves, if_neg h]

theorem tryHalves_first {chunkSize segmentSize : Nat} {maps : Nat → Mapping}
    (h : chunkSize < segmentSize) (hm : (maps 0).succeeds = true) :
    tryHalves chunkSize maps segmentSize = .returned (some segmentSize) := by
  rw [tryHalves, if_pos h, SharedMemory, if_pos hm]

theorem tryHalves_terminated {chunkSize segmentSize : Nat} {maps : Nat → Mapping}
    (h : chunkSize < segmentSize) (hm : ¬ (maps 0).succeeds = true) :
    tryHalves chunkSize maps segmentSize = .terminated := by
  rw [tryHalves, if_pos h, SharedMemory, if_neg hm]
  rfl

end

/-- **A segment is added on both sides or on neither**, in every state that the heap can reach, if
and only if there is no room for one, or the client's first attempt to map it succeeds and so does
each of those that the server still has to make. -/
theorem grows_cleanly_iff (o : Options) (s : State) (h : Reached o s)
    (maps serverMaps : Nat → Mapping) :
    GrowsCleanly o s maps serverMaps ↔
      s.client.newSegmentSize o 0 ≤ o.chunkSize ∨
        ((maps 0).succeeds = true ∧ ∀ id, s.server.m_segments.length ≤ id →
          id ≤ s.client.m_segments.length → (serverMaps id).succeeds = true) := by
  obtain ⟨size, hsize⟩ : ∃ size, size = s.client.newSegmentSize o 0 := ⟨_, rfl⟩
  by_cases hroom : o.chunkSize < size
  · -- there is something to map
    have hnot : ¬ s.client.newSegmentSize o 0 ≤ o.chunkSize := hsize ▸ Nat.not_le_of_lt hroom
    rw [or_iff_right hnot]
    by_cases hm : (maps 0).succeeds = true
    · have hgrown : s.addNewHeapSegment o maps = .returned (true, s.addSegment o size) := by
        rw [State.addNewHeapSegment, ← hsize, tryHalves_first hroom hm]
      obtain ⟨hsegs, -⟩ := (agreed_reached h).addSegment size
      have hlength : (s.server.after o (s.addSegment o size).queue).m_segments.length =
          s.client.m_segments.length + 1 := (congrArg List.length hsegs).trans List.length_append
      constructor
      · rintro (⟨s', v, failures, hreturned, -, hdrain, -⟩ | hreturned)
        · obtain rfl : s.addSegment o size = s' := by
            rw [hgrown] at hreturned
            cases hreturned
            rfl
          refine ⟨hm, fun id hle hle' => ?_⟩
          by_contra hfail
          rw [drain_terminated hle (by omega) hfail] at hdrain
          cases hdrain
        · rw [hgrown] at hreturned
          cases hreturned
      · rintro ⟨-, hserver⟩
        refine .inl ⟨_, _, 0, hgrown, ?_, drain_eq fun id hle hlt => ?_, hsegs⟩
        · rw [hsize]
          rfl
        · exact hserver id hle (by omega)
    · have hended : s.addNewHeapSegment o maps = .terminated := by
        rw [State.addNewHeapSegment, ← hsize, tryHalves_terminated hroom hm]
      refine iff_of_false ?_ fun hboth => hm hboth.1
      rintro (⟨s', v, failures, hreturned, -⟩ | hreturned)
      · rw [hended] at hreturned
        cases hreturned
      · rw [hended] at hreturned
        cases hreturned
  · refine iff_of_true (.inr ?_) (.inl (hsize ▸ Nat.le_of_not_lt hroom))
    rw [State.addNewHeapSegment, ← hsize, tryHalves_small maps hroom]

/-- Chunks of 4 and segments of 16 bytes. -/
def growthOptions : Options := ⟨4, 16⟩

def mapped : Mapping := ⟨true, true⟩

/-- The first segment, which both sides map. -/
theorem grows_cleanly_first :
    Reached growthOptions (empty growthOptions) ∧
    (GrowsCleanly growthOptions (empty growthOptions) (fun _ => mapped) (fun _ => mapped) ↔
      (empty growthOptions).client.newSegmentSize growthOptions 0 ≤ growthOptions.chunkSize ∨
        (mapped.succeeds = true ∧
          ∀ id, (empty growthOptions).server.m_segments.length ≤ id →
            id ≤ (empty growthOptions).client.m_segments.length → mapped.succeeds = true)) :=
  ⟨.constructor, grows_cleanly_iff growthOptions (empty growthOptions) .constructor _ _⟩

/-- The client cannot map 16 bytes; 8 are not tried. -/
theorem failed_mapping_terminates :
    Reached growthOptions (empty growthOptions) ∧
    (empty growthOptions).addNewHeapSegment growthOptions
      (fun i => ⟨decide (0 < i), true⟩) = .terminated ∧
    ¬ GrowsCleanly growthOptions (empty growthOptions) (fun i => ⟨decide (0 < i), true⟩)
      (fun _ => mapped) := by
  have hroom : growthOptions.chunkSize <
      (empty growthOptions).client.newSegmentSize growthOptions 0 := by decide
  have hended : (empty growthOptions).addNewHeapSegment growthOptions
      (fun i => ⟨decide (0 < i), true⟩) = .terminated := by
    rw [State.addNewHeapSegment, tryHalves_terminated hroom (by decide)]
  refine ⟨.constructor, hended, ?_⟩
  rintro (⟨s', v, failures, hreturned, -⟩ | hreturned)
  · rw [hended] at hreturned
    cases hreturned
  · rw [hended] at hreturned
    cases hreturned

end RemixBridge.SharedHeap
