import RemixBridge.Heap.Allocations

/-!
# Heap — UniqueIds

The ids of the heap come from `m_nextUid`, a counter of 32 bits that skips no value: not
`kInvalidId`, which is the last of them, and not one that an old allocation still has.

- `State.Live`: the ids that the client holds, and those that a table still has;
- `Issued`: what the counter and the tables know of the allocations made so far, in any run;
- `ids_fresh_iff`: a run's ids are all good exactly when it makes fewer than `2 ^ 32` of them.
-/

namespace RemixBridge.SharedHeap
open Runs

/-- An id that the client has not given back, or that a process has not taken out of its table. -/
def State.Live (s : State) (id : Nat) : Prop :=
  id ∈ s.held ∨ id ∈ s.client.m_cache ∨ id ∈ s.server.m_cache

/-- The id that a step from `s` to `s'` makes an allocation under, if it makes one. -/
def State.newId (s s' : State) : Option Nat := (s'.owners[s.owners.length]?).map (·.1)

/-- The id of an allocation that the step makes is valid and nobody else's. -/
def FreshId (o : Options) (s : State) (a : Action) : Prop :=
  ∀ s' id, step o s a = some s' → s.newId s' = some id → id ≠ kInvalidId ∧ ¬ s.Live id

/-- So are all of a run. -/
def IdsFresh (o : Options) (failures : Nat) (as : List Action) : Prop :=
  ∀ s, start o failures = some s → Along (step o) (FreshId o) s as

/-! ### The ids given out -/

/-- After `n` allocations the next id is `n`, cut to 32 bits, and no id is as large as `n`. -/
structure Issued (s : State) : Prop where
  next : s.client.m_nextUid = s.owners.length % 2 ^ 32
  held : ∀ id ∈ s.held, id < s.owners.length
  client : ∀ id ∈ s.client.m_cache, id < s.owners.length
  server : ∀ id ∈ s.server.m_cache, id < s.owners.length
  queue : ∀ id f, Command.Alloc id f ∈ s.queue → id < s.owners.length

section issued

variable {o : Options} {s s' : State} {a : Action}

theorem Issued.live (h : Issued s) {id : Nat} (hid : s.Live id) : id < s.owners.length := by
  rcases hid with hheld | hclient | hserver
  · exact h.held id hheld
  · exact h.client id hclient
  · exact h.server id hserver

/-- A queue with a command more that allocates nothing. -/
theorem Issued.send (h : Issued s) {c : Command} (hc : ∀ id f, c ≠ .Alloc id f) :
    Issued (s.send c) where
  next := h.next
  held := h.held
  client := h.client
  server := h.server
  queue id f hmem := by
    rcases List.mem_append.mp hmem with hold | hnew
    · exact h.queue id f hold
    · exact absurd (List.mem_singleton.mp hnew).symm (hc id f)

theorem Issued.go (h : Issued s) (control : Control) : Issued (s.go control) :=
  ⟨h.next, h.held, h.client, h.server, h.queue⟩

theorem Issued.setDefaultSegmentSize (h : Issued s) (newDefault : Nat) :
    Issued (s.setDefaultSegmentSize newDefault) :=
  ⟨h.next, h.held, h.client, h.server, h.queue⟩

theorem Issued.addSegment (h : Issued s) (segmentSize : Nat) :
    Issued (s.addSegment o segmentSize) := by
  have hsent := h.send (c := .AddSeg segmentSize) nofun
  exact ⟨hsent.next, hsent.held, hsent.client, hsent.server, hsent.queue⟩

theorem Issued.setChunkState (h : Issued s) (i : Nat) (state : ChunkState) :
    Issued (s.setChunkState i state) :=
  ⟨h.next, h.held, h.client, h.server, h.queue⟩

theorem Issued.freeAll {ids : List Nat} (h : Issued s) : Issued (State.freeAll o ids s) := by
  induction ids generalizing s with
  | nil => exact h
  | cons id ids ih =>
      refine ih ⟨h.next, h.held, fun id' hid' => ?_, h.server, h.queue⟩
      exact h.client id' (AList.mem_erase.mp hid').2

/-- The next id, which is one of the ids below the new number of allocations. -/
theorem Issued.uid_lt (h : Issued s) : s.client.m_nextUid < s.owners.length + 1 := by
  rw [h.next]
  exact Nat.lt_succ_of_le (Nat.mod_le _ _)

theorem Issued.finish (h : Issued s) (numChunks : Nat) (alloc : Allocation) :
    Issued (s.finish o numChunks alloc) := by
  unfold State.finish
  split
  · have hlen : (s.owners ++ [(s.client.m_nextUid, alloc)]).length = s.owners.length + 1 :=
      List.length_append
    constructor
    · change (s.client.m_nextUid + 1) % 2 ^ 32 = _
      rw [hlen, h.next, Nat.mod_add_mod]
    · intro id hid
      rw [hlen]
      rcases List.mem_cons.mp hid with rfl | hold
      · exact h.uid_lt
      · exact Nat.lt_succ_of_lt (h.held id hold)
    · intro id hid
      rw [hlen]
      rcases AList.mem_insert _ |>.mp hid with rfl | hold
      · exact h.uid_lt
      · exact Nat.lt_succ_of_lt (h.client id hold)
    · intro id hid
      rw [hlen]
      exact Nat.lt_succ_of_lt (h.server id hid)
    · intro id f hmem
      rw [hlen]
      rcases List.mem_append.mp hmem with hold | hnew
      · exact Nat.lt_succ_of_lt (h.queue id f hold)
      · cases List.mem_singleton.mp hnew
        exact h.uid_lt
  · exact h.go .idle

theorem Issued.serve {c : Command} {queue : List Command} (h : Issued s)
    (hq : s.queue = c :: queue) : Issued ({ s with queue := queue }.serve o c) := by
  have htail : ∀ id f, Command.Alloc id f ∈ queue → id < s.owners.length := fun id f hmem =>
    h.queue id f (hq ▸ List.mem_cons_of_mem c hmem)
  cases c with
  | AddSeg => exact ⟨h.next, h.held, h.client, h.server, htail⟩
  | Unlock => exact ⟨h.next, h.held, h.client, h.server, htail⟩
  | Alloc id f =>
      refine ⟨h.next, h.held, h.client, fun id' hid' => ?_, htail⟩
      rcases AList.mem_insert _ |>.mp hid' with rfl | hold
      · exact h.queue id' f (hq ▸ List.mem_cons_self)
      · exact h.server id' hold
  | Dealloc id =>
      refine ⟨h.next, h.held, h.client, fun id' hid' => ?_, htail⟩
      exact h.server id' (AList.mem_erase.mp hid').2

/-- **Every step.** -/
theorem issued_step (hs : step o s a = some s') (h : Issued s) : Issued s' := by
  cases move_of_step hs with
  | allocateFirst => exact (h.setDefaultSegmentSize _).finish _ _
  | allocate => exact (h.setDefaultSegmentSize _).go _
  | found => exact h.finish _ _
  | notFound => exact h.go _
  | freeDeallocations => exact h.go _
  | deallocated => exact ⟨h.next, h.held, h.client, h.server, h.queue⟩
  | notDeallocated => exact ⟨h.next, h.held, h.client, h.server, h.queue⟩
  | reclaim => exact h.freeAll.go _
  | addSegment => exact h.addSegment _
  | noSegment => exact h
  | grow => exact (h.addSegment _).finish _ _
  | noGrow => exact h.go _
  | timeout => exact h.go _
  | retry => exact h.go _
  | mark => exact (h.setChunkState _ _).go _
  | @deallocate id hidle =>
      have hsent := h.send (c := .Dealloc id) nofun
      refine ⟨hsent.next, fun id' hid' => ?_, hsent.client, hsent.server, hsent.queue⟩
      exact h.held id' (List.mem_of_mem_erase hid')
  | unlock => exact h.send nofun
  | serve hqueue => exact h.serve hqueue

theorem issued_start {failures : Nat} (h : start o failures = some s) : Issued s := by
  unfold start at h
  split at h
  · exact issued_step h ⟨rfl, nofun, nofun, nofun, nofun⟩
  · cases h

/-! ### An allocation -/

/-- What a step adds to the allocations made. -/
def State.Grants (s s' : State) : Prop :=
  s'.owners = s.owners ∨ ∃ alloc, s'.owners = s.owners ++ [(s.client.m_nextUid, alloc)]

theorem grants_finish (numChunks : Nat) (alloc : Allocation) :
    s.Grants (s.finish o numChunks alloc) := by
  unfold State.finish
  split
  · exact .inr ⟨alloc, rfl⟩
  · exact .inl rfl

theorem grants_step (hs : step o s a = some s') : s.Grants s' := by
  cases move_of_step hs with
  | @allocateFirst _ numChunks newDefault =>
      exact grants_finish (s := s.setDefaultSegmentSize newDefault) numChunks _
  | found => exact grants_finish _ _
  | @grow failures numChunks =>
      exact grants_finish (s := s.addSegment o (s.client.newSegmentSize o failures)) numChunks _
  | reclaim => exact .inl (owners_freeAll _ s)
  | @serve c => cases c <;> exact .inl rfl
  | _ => exact .inl rfl

theorem State.Grants.newId (h : s.Grants s') {id : Nat} (hid : s.newId s' = some id) :
    id = s.client.m_nextUid := by
  rcases h with hsame | ⟨alloc, hmore⟩
  · rw [State.newId, hsame, List.getElem?_eq_none (Nat.le_refl _)] at hid
    cases hid
  · rw [State.newId, hmore, List.getElem?_append_right (Nat.le_refl _), Nat.sub_self] at hid
    exact (Option.some.inj hid).symm

theorem State.Grants.length_le (h : s.Grants s') : s'.owners.length ≤ s.owners.length + 1 := by
  rcases h with hsame | ⟨alloc, hmore⟩
  · rw [hsame]
    exact Nat.le_succ _
  · rw [hmore, List.length_append]
    exact Nat.le_refl _

/-- Before the counter is at its last value the next id is larger than all there are. -/
theorem fresh_of_few (h : Issued s) (hfew : s.owners.length < kInvalidId) :
    FreshId o s a := by
  intro s' id hs hid
  have huid : id = s.owners.length := by
    rw [(grants_step hs).newId hid, h.next, Nat.mod_eq_of_lt (Nat.lt_of_lt_of_le hfew (by decide))]
  subst huid
  exact ⟨hfew.ne, fun hlive => (h.live hlive).ne rfl⟩

/-- At its last value it gives that one out. -/
theorem few_of_fresh (h : Issued s) (hfew : s.owners.length < 2 ^ 32) (hfresh : FreshId o s a)
    (hs : step o s a = some s') : s'.owners.length < 2 ^ 32 := by
  rcases grants_step hs with hsame | ⟨alloc, hmore⟩
  · rwa [hsame]
  · have hnew : s.newId s' = some s.client.m_nextUid := by
      rw [State.newId, hmore, List.getElem?_append_right (Nat.le_refl _), Nat.sub_self]
      rfl
    have hvalid := (hfresh s' _ hs hnew).1
    rw [h.next, Nat.mod_eq_of_lt hfew, kInvalidId] at hvalid
    rw [hmore, List.length_append, List.length_singleton]
    omega

end issued

/-! ### Every run -/

section runs

variable {o : Options} {failures : Nat} {as : List Action} {s s' : State}

theorem length_run (hr : run (step o) s as = some s') : s.owners.length ≤ s'.owners.length :=
  run_inv (I := fun s₁ => s.owners.length ≤ s₁.owners.length)
    (fun _ _ _ hle hs => Nat.le_trans hle (owners_kept (move_of_step hs)).length_le)
    (Nat.le_refl _) hr

theorem fresh_run (h : Issued s) (hr : run (step o) s as = some s')
    (hfew : s'.owners.length < 2 ^ 32) : Along (step o) (FreshId o) s as := by
  induction as generalizing s with
  | nil => trivial
  | cons a as ih =>
      obtain ⟨s₁, h₁, h₂⟩ := run_cons.mp hr
      refine ⟨?_, fun s₂ hs₂ => ?_⟩
      · intro s₂ id hs₂ hid
        rw [h₁] at hs₂
        cases hs₂
        -- the step makes an allocation, so there were fewer before it
        have hlen : s.owners.length < s₁.owners.length := by
          rw [State.newId, Option.map_eq_some_iff] at hid
          obtain ⟨owner, howner, -⟩ := hid
          exact (List.getElem?_eq_some_iff.mp howner).1
        have hlast := length_run h₂
        have hlt : s.owners.length < kInvalidId := by
          rw [kInvalidId]
          omega
        exact fresh_of_few h hlt s₁ id h₁ hid
      · rw [h₁] at hs₂
        cases hs₂
        exact ih (issued_step h₁ h) h₂

theorem few_run (h : Issued s) (hfew : s.owners.length < 2 ^ 32)
    (hfresh : Along (step o) (FreshId o) s as) (hr : run (step o) s as = some s') :
    s'.owners.length < 2 ^ 32 := by
  have hI := run_inv_along (I := fun s => Issued s ∧ s.owners.length < 2 ^ 32)
    (fun s a s' hI hC hs => ⟨issued_step hs hI.1, few_of_fresh hI.1 hI.2 hC hs⟩)
    ⟨h, hfew⟩ hfresh hr
  exact hI.2

theorem few_of_idsFresh (hr : exec o failures as = some s) (hfresh : IdsFresh o failures as) :
    s.owners.length < 2 ^ 32 := by
  obtain ⟨s₀, h₀, hr⟩ := Option.bind_eq_some_iff.mp hr
  have hnone : s₀.owners.length < 2 ^ 32 := by
    unfold start at h₀
    split at h₀
    · have hle := (grants_step h₀).length_le
      exact Nat.lt_of_le_of_lt hle (Nat.one_lt_two_pow (by decide))
    · cases h₀
  exact few_run (issued_start h₀) hnone (hfresh s₀ h₀) hr

/-- **The ids are unique.**  The ids that a run's allocations return are valid, and none is that of
an allocation still live or still in a table, exactly when the run makes fewer than `2 ^ 32`
allocations: the next one returns `kInvalidId`. -/
theorem ids_fresh_iff (hr : exec o failures as = some s) :
    IdsFresh o failures as ↔ s.owners.length < 2 ^ 32 := by
  refine ⟨few_of_idsFresh hr, fun hfew s₀ h₀ => ?_⟩
  obtain ⟨s₁, h₁, hrun⟩ := Option.bind_eq_some_iff.mp hr
  rw [h₀] at h₁
  cases h₁
  exact fresh_run (issued_start h₀) hrun hfew

end runs

/-- Two allocations of one chunk. -/
theorem ids_fresh_iff_two :
    IdsFresh ⟨4, 8⟩ 0 [.allocate 4, .mark, .allocate 4, .search 0, .mark] ↔ 2 < 2 ^ 32 := by
  have hr : exec ⟨4, 8⟩ 0 [.allocate 4, .mark, .allocate 4, .search 0, .mark] = some _ := rfl
  exact ids_fresh_iff hr

/-! ### A run as long -/

section promised

variable {o : Options} {s s' : State} {as : List Action}

/-- Where nothing is given back or unlocked there is nothing to promise. -/
theorem run_promised (hp : ∀ a ∈ as, ∀ s, Promised s a) (hr : run (step o) s as = some s') :
    run (stepPromised o) s as = some s' := by
  induction as generalizing s with
  | nil => exact hr
  | cons a as ih =>
      obtain ⟨s₁, h₁, h₂⟩ := run_cons.mp hr
      have hfirst : stepPromised o s a = some s₁ := by
        rw [stepPromised, if_pos (hp a List.mem_cons_self s), h₁]
      exact run_cons.mpr ⟨s₁, hfirst, ih (fun b hb => hp b (List.mem_cons_of_mem a hb)) h₂⟩

theorem run_of_promised (hr : run (stepPromised o) s as = some s') :
    run (step o) s as = some s' := by
  induction as generalizing s with
  | nil => exact hr
  | cons a as ih =>
      obtain ⟨s₁, h₁, h₂⟩ := run_cons.mp hr
      unfold stepPromised at h₁
      split at h₁
      · exact run_cons.mpr ⟨s₁, h₁, ih h₂⟩
      · cases h₁

theorem exec_of_promised {failures : Nat} (hr : execPromised o failures as = some s) :
    exec o failures as = some s := by
  obtain ⟨s₀, h₀, hr⟩ := Option.bind_eq_some_iff.mp hr
  exact Option.bind_eq_some_iff.mpr ⟨s₀, h₀, run_of_promised hr⟩

end promised

/-- The table of the heap below: chunk 0 for the id 0 and chunk 1 for the id `n`. -/
def twoEntries (n : Nat) : Cache := (AList.singleton 0 0).insert n 1

/-- The client of a heap of two chunks, both of them allocated. -/
def fullClient (n m_nextUid : Nat) : Client where
  m_defaultSegmentSize := 8
  m_nChunks := 2
  m_cache := twoEntries n
  m_nextUid := m_nextUid
  m_allocations := [⟨0, 0⟩, ⟨1, 1⟩]
  m_sizeAllocated := 8
  m_segments := [⟨8, 0, 2⟩]

/-- And with the second one free. -/
def halfClient (n : Nat) : Client where
  m_defaultSegmentSize := 8
  m_nChunks := 2
  m_cache := AList.singleton 0 0
  m_nextUid := n + 1
  m_allocations := [⟨0, 0⟩]
  m_sizeAllocated := 4
  m_segments := [⟨8, 0, 2⟩]

/-- A heap of two chunks, both allocated, the second of them given back since: `n` is its id, and
the last that there is.  The server knows the first. -/
structure Cycled (n : Nat) (s : State) : Prop where
  control : s.control = .idle
  client : s.client = fullClient n (n + 1)
  first : s.words 0 = .Allocated
  second : s.words 1 = .Deallocated
  queue : s.queue = []
  known : s.server.m_cache.lookup 0 = some 0
  segments : s.server.m_segments = [⟨8, 0, 2⟩]
  owners : s.owners.length = n + 1

/-- The first time. -/
def firstCycle : List Action :=
  [.allocate 4, .mark, .allocate 4, .search 0, .mark, .serve, .serve, .serve, .deallocate 1,
    .serve]

/-- An allocation that finds the heap full, takes the second chunk back and allocates it. -/
def reallocate (n : Nat) : List Action :=
  [.allocate 4, .search 0, .look n, .look 0, .reclaim, .wait false, .search 0]

def nextCycle (n : Nat) : List Action :=
  reallocate n ++ [.mark, .serve, .deallocate (n + 1), .serve]

/-- The full heap in the middle of the allocation that follows. -/
structure Reallocated (n : Nat) (s : State) : Prop where
  control : s.control = .marking 1
  client : s.client = fullClient (n + 1) ((n + 2) % 2 ^ 32)
  first : s.words 0 = .Allocated
  queue : s.queue = [.Alloc (n + 1) 1]
  known : s.server.m_cache.lookup 0 = some 0
  segments : s.server.m_segments = [⟨8, 0, 2⟩]
  owners : s.owners.length = n + 2
  held : n + 1 ∈ s.held

theorem twoEntries_second (n : Nat) : (twoEntries n).lookup n = some 1 := AList.lookup_insert _

section entries

variable {n : Nat} (hn : n ≠ 0)

include hn

theorem twoEntries_keys : (twoEntries n).keys = [n, 0] := by
  rw [twoEntries, AList.keys_insert, AList.keys_singleton, List.erase_of_not_mem]
  simpa using hn

theorem twoEntries_first : (twoEntries n).lookup 0 = some 0 := by
  rw [twoEntries, AList.lookup_insert_ne hn.symm]
  rfl

theorem twoEntries_erase : (twoEntries n).erase n = AList.singleton 0 0 := by
  have hkerase : List.kerase n [⟨0, 0⟩] = [(⟨0, 0⟩ : Sigma fun _ : Nat => Nat)] :=
    List.kerase_of_notMem_keys (by simpa using hn)
  have hentries : (twoEntries n).entries = ⟨n, 1⟩ :: List.kerase n [⟨0, 0⟩] :=
    AList.entries_insert
  apply AList.ext
  change List.kerase n (twoEntries n).entries = [⟨0, 0⟩]
  rw [hentries, hkerase]
  exact List.kerase_cons_eq rfl

end entries

/-- A search of the full heap. -/
theorem search_full {n m_nextUid k : Nat} {s : State} (hn : n ≠ 0)
    (hclient : s.client = fullClient n m_nextUid) (hcontrol : s.control = .searching 1 k) :
    step ⟨4, 8⟩ s (.search 0) = some (s.go (.freeing [n, 0] [] (some (1, k)))) := by
  simp only [step, hcontrol]
  rw [← twoEntries_keys hn, hclient]
  rfl

theorem cycled_first : ∃ s, execPromised ⟨4, 8⟩ 0 firstCycle = some s ∧ Cycled 1 s := by
  refine ⟨_, rfl, ?_⟩
  exact ⟨rfl, rfl, rfl, rfl, rfl, rfl, rfl, rfl⟩

theorem reallocated {n : Nat} {s : State} (hn : n ≠ 0) (h : Cycled n s) :
    ∃ s', run (stepPromised ⟨4, 8⟩) s (reallocate n) = some s' ∧ Reallocated n s' := by
  obtain ⟨client, control, words, queue, server, owners, held, processed, touched⟩ := s
  obtain ⟨hcontrol, hclient, hfirst, hsecond, hqueue, hknown, hsegments, howners⟩ := h
  dsimp only at hcontrol hclient hfirst hsecond hqueue howners
  subst hcontrol hclient hqueue
  have hsecondChunk : (fullClient n (n + 1)).firstChunk n = 1 :=
    congrArg (·.getD 0) (twoEntries_second n)
  have hfirstChunk : (fullClient n (n + 1)).firstChunk 0 = 0 :=
    congrArg (·.getD 0) (twoEntries_first hn)
  have h₂ : step ⟨4, 8⟩ ⟨fullClient n (n + 1), .searching 1 0, words, [], server, owners, held,
        processed, touched⟩ (.search 0) =
      some ⟨fullClient n (n + 1), .freeing [n, 0] [] (some (1, 0)), words, [], server, owners, held,
        processed, touched⟩ := search_full hn rfl rfl
  have h₃ : step ⟨4, 8⟩ ⟨fullClient n (n + 1), .freeing [n, 0] [] (some (1, 0)), words, [], server,
        owners, held, processed, touched⟩ (.look n) =
      some ⟨fullClient n (n + 1), .freeing [0] [n] (some (1, 0)), words, [], server, owners, held,
        processed, 1 :: touched⟩ := by
    simp [step, hsecondChunk, hsecond, State.go]
  have h₄ : step ⟨4, 8⟩ ⟨fullClient n (n + 1), .freeing [0] [n] (some (1, 0)), words, [], server,
        owners, held, processed, 1 :: touched⟩ (.look 0) =
      some ⟨fullClient n (n + 1), .freeing [] [n] (some (1, 0)), words, [], server, owners, held,
        processed, 0 :: 1 :: touched⟩ := by
    simp [step, hfirstChunk, hfirst, State.go]
  have hfree : (fullClient n (n + 1)).free ⟨4, 8⟩ n = halfClient n := by
    simp only [Client.free, hsecondChunk]
    simp only [fullClient, halfClient, twoEntries_erase hn, Extent.find, Extent.erase]
    rfl
  have h₅ : step ⟨4, 8⟩ ⟨fullClient n (n + 1), .freeing [] [n] (some (1, 0)), words, [], server,
        owners, held, processed, 0 :: 1 :: touched⟩ .reclaim =
      some ⟨halfClient n, .waiting 1 0, Function.update words 1 .Unallocated, [], server, owners,
        held, processed, 1 :: 0 :: 1 :: touched⟩ := by
    simp [step, State.freeAll, hsecondChunk, hfree, State.setChunkState, State.go, kAttemptIncrease]
  have hend : (halfClient n).isValidAllocation ⟨1, 1⟩ = true := rfl
  have hlast : (halfClient n).findFreeOnEnd 1 0 = ⟨1, 1⟩ := by
    simp [Client.findFreeOnEnd, createAllocation, halfClient]
  have hmiddle : ¬ (halfClient n).isValidAllocation ((halfClient n).findFreeInMiddle 1) = true := by
    simp [Client.findFreeInMiddle, Client.findGap, halfClient, Client.isValidAllocation,
      kInvalidId, invalidAllocation]
  have h₇ (s : State) (hc : s.client = halfClient n) (hs : s.control = .searching 1 1) :
      step ⟨4, 8⟩ s (.search 0) = some (s.finish ⟨4, 8⟩ 1 ⟨1, 1⟩) := by
    simp only [step, hs]
    rw [hc, if_neg hmiddle, hlast, if_pos hend]
  have hpromised : ∀ a ∈ reallocate n, ∀ s, Promised s a := by
    simp [reallocate, Promised]
  refine ⟨_, run_promised hpromised (run_cons.mpr ⟨_, rfl, run_cons.mpr ⟨_, h₂, run_cons.mpr
    ⟨_, h₃, run_cons.mpr ⟨_, h₄, run_cons.mpr ⟨_, h₅, run_cons.mpr ⟨_, rfl, run_cons.mpr
    ⟨_, h₇ _ rfl rfl, rfl⟩⟩⟩⟩⟩⟩⟩), ?_⟩
  rw [State.finish, if_pos (by exact hend)]
  refine ⟨rfl, ?_, hfirst, rfl, hknown, hsegments, ?_, List.mem_cons_self⟩
  · change (halfClient n).record ⟨4, 8⟩ 1 ⟨1, 1⟩ = _
    simp [Client.record, halfClient, fullClient, twoEntries, Extent.insert]
  · change (owners ++ [(n + 1, (⟨1, 1⟩ : Allocation))]).length = n + 2
    rw [List.length_append, howners, List.length_singleton]

/-- The allocation is sent and given back. -/
theorem cycled_next {n : Nat} {s : State} (hn : n + 2 < 2 ^ 32) (h : Reallocated n s) :
    ∃ s', run (stepPromised ⟨4, 8⟩) s [.mark, .serve, .deallocate (n + 1), .serve] = some s' ∧
      Cycled (n + 1) s' := by
  obtain ⟨client, control, words, queue, server, owners, held, processed, touched⟩ := s
  obtain ⟨hcontrol, hclient, hfirst, hqueue, hknown, hsegments, howners, hheld⟩ := h
  dsimp only at hcontrol hclient hfirst hqueue hknown hsegments howners hheld
  subst hcontrol hclient hqueue
  refine ⟨_, run_cons.mpr ⟨_, rfl, run_cons.mpr ⟨_, rfl, run_cons.mpr ⟨_, if_pos hheld,
    run_cons.mpr ⟨_, rfl, rfl⟩⟩⟩⟩, ?_⟩
  have hchunk : ((server.m_cache.insert (n + 1) 1).lookup (n + 1)).getD 0 = 1 := by
    rw [AList.lookup_insert, Option.getD_some]
  have hnext : (n + 2) % 2 ^ 32 = n + 1 + 1 := Nat.mod_eq_of_lt hn
  constructor
  · rfl
  · exact congrArg (fullClient (n + 1)) hnext
  · change Function.update (Function.update words 1 .Allocated)
      (((server.m_cache.insert (n + 1) 1).lookup (n + 1)).getD 0) ChunkState.Deallocated 0 = _
    rw [hchunk, Function.update_of_ne Nat.zero_ne_one, Function.update_of_ne Nat.zero_ne_one,
      hfirst]
  · change Function.update (Function.update words 1 .Allocated)
      (((server.m_cache.insert (n + 1) 1).lookup (n + 1)).getD 0) ChunkState.Deallocated 1 = _
    rw [hchunk, Function.update_self]
  · rfl
  · change ((server.m_cache.insert (n + 1) 1).erase (n + 1)).lookup 0 = _
    rw [AList.lookup_erase_ne (Nat.succ_ne_zero n).symm,
      AList.lookup_insert_ne (Nat.succ_ne_zero n).symm, hknown]
  · exact hsegments
  · exact howners

/-- The heap can be filled and emptied as often as there are ids. -/
theorem cycled_all {n : Nat} (hn : n + 2 < 2 ^ 32) :
    ∃ as s, execPromised ⟨4, 8⟩ 0 as = some s ∧ Cycled (n + 1) s := by
  induction n with
  | zero => exact ⟨firstCycle, cycled_first⟩
  | succ n ih =>
      obtain ⟨as, s, hr, hs⟩ := ih (Nat.lt_of_succ_lt hn)
      obtain ⟨s₀, h₀, hrun⟩ := Option.bind_eq_some_iff.mp hr
      obtain ⟨s₁, h₁, hs₁⟩ := reallocated (Nat.succ_ne_zero n) hs
      obtain ⟨s₂, h₂, hs₂⟩ := cycled_next hn hs₁
      refine ⟨as ++ nextCycle (n + 1), s₂, Option.bind_eq_some_iff.mpr ⟨s₀, h₀, ?_⟩, hs₂⟩
      exact run_append.mpr ⟨s, hrun, run_append.mpr ⟨s₁, h₁, h₂⟩⟩

/-- And once more. -/
theorem reallocated_last :
    ∃ as s, execPromised ⟨4, 8⟩ 0 as = some s ∧ Reallocated (2 ^ 32 - 2) s := by
  obtain ⟨as, s, hr, hs⟩ := cycled_all (n := 2 ^ 32 - 3) (by decide)
  obtain ⟨s₀, h₀, hrun⟩ := Option.bind_eq_some_iff.mp hr
  obtain ⟨s', h', hs'⟩ := reallocated (Nat.succ_ne_zero _) hs
  exact ⟨as ++ reallocate (2 ^ 32 - 3 + 1), s',
    Option.bind_eq_some_iff.mpr ⟨s₀, h₀, run_append.mpr ⟨s, hrun, h'⟩⟩, hs'⟩

/-- One allocation more, after `2 ^ 32 - 1` of them, and it returns `kInvalidId`. -/
theorem invalid_id_returned :
    ¬ ∀ (o : Options) (failures : Nat) (as : List Action),
      (exec o failures as).isSome → IdsFresh o failures as := by
  intro hall
  obtain ⟨as, s, hr, hs⟩ := reallocated_last
  have hexec := exec_of_promised hr
  have hfew := few_of_idsFresh hexec (hall _ _ _ (hexec ▸ rfl))
  rw [hs.owners] at hfew
  exact absurd hfew (by decide)

end RemixBridge.SharedHeap
