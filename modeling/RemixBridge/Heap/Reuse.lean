import RemixBridge.Heap.UniqueIds

/-!
# Heap — Reuse

The two processes over the shared heap: the server's tables are those of the client as of the
commands that it has processed, and a word says that a chunk is deallocated only after the server
has processed the command that says so.

* `synced_step`: what a step keeps, when the client gives back only what it holds.
* `reuse_safe`: chunks are handed out again only after the server is done with their owner, and both
  processes resolve an id alike, in runs of fewer than `2 ^ 32` allocations.
* `id_wraps_onto_live`: then an id comes round that a live allocation has.
-/

namespace RemixBridge.SharedHeap
open Runs

/-! ### Commands in flight -/

/-- The command is about an allocation that there is. -/
def Command.Uses (id : Nat) (c : Command) : Prop := c = .Dealloc id ∨ c = .Unlock id

/-- How many allocations the command tells of. -/
def Command.allocs : Command → Nat
  | .Alloc _ _ => 1
  | _ => 0

def allocs (q : List Command) : Nat := (q.map Command.allocs).sum

/-- The server after the commands. -/
def Server.after (o : Options) (v : Server) (q : List Command) : Server :=
  q.foldl (Server.process o) v

/-- What the server knows suffices for the command, the `n`-th allocation being the next one. -/
def Command.Allowed (n : Nat) (v : Server) : Command → Prop
  | .AddSeg _ => True
  | .Alloc id firstChunk => id = n ∧ firstChunk < v.m_nChunks
  | .Dealloc id => id ∈ v.m_cache
  | .Unlock id => id ∈ v.m_cache

/-- Each of the commands is allowed when it comes to it. -/
def Ready (o : Options) : Nat → Server → List Command → Prop
  | _, _, []     => True
  | n, v, c :: q => c.Allowed n v ∧ Ready o (n + c.allocs) (v.process o c) q

section ready

variable {o : Options} {n : Nat} {v : Server} {q : List Command} {c : Command} {id : Nat}

theorem after_append : v.after o (q ++ [c]) = (v.after o q).process o c := by
  rw [Server.after, List.foldl_append]
  rfl

theorem allocs_append : allocs (q ++ [c]) = allocs q + c.allocs := by
  simp [allocs]

theorem ready_append :
    Ready o n v (q ++ [c]) ↔ Ready o n v q ∧ c.Allowed (n + allocs q) (v.after o q) := by
  induction q generalizing n v with
  | nil => simp [Ready, allocs, Server.after]
  | cons d q ih =>
      have hn : n + d.allocs + allocs q = n + allocs (d :: q) := by
        simp [allocs, Nat.add_assoc]
      rw [List.cons_append, Ready, Ready, ih, hn, and_assoc]
      rfl

/-- What the server has come to not know is not in the commands, and it does not come to know
it. -/
theorem Ready.unknown (h : Ready o n v q) (hid : id ∉ v.m_cache) (hn : id < n) :
    id ∉ (v.after o q).m_cache ∧ ∀ c ∈ q, ¬ c.Uses id := by
  induction q generalizing n v with
  | nil => exact ⟨hid, nofun⟩
  | cons d q ih =>
      obtain ⟨hallowed, hrest⟩ := h
      have hstep : id ∉ (v.process o d).m_cache ∧ ¬ d.Uses id := by
        cases d with
        | AddSeg segmentSize => exact ⟨hid, nofun⟩
        | Alloc id' f =>
            refine ⟨fun hmem => ?_, nofun⟩
            rcases (AList.mem_insert _).mp hmem with rfl | hmem
            · exact absurd hallowed.1 (Nat.ne_of_lt hn)
            · exact hid hmem
        | Dealloc id' =>
            refine ⟨fun hmem => hid (AList.mem_erase.mp hmem).2, ?_⟩
            rintro (heq | heq)
            · cases heq
              exact hid hallowed
            · cases heq
        | Unlock id' =>
            refine ⟨hid, ?_⟩
            rintro (heq | heq)
            · cases heq
            · cases heq
              exact hid hallowed
      obtain ⟨hafter, hq⟩ := ih hrest hstep.1 (Nat.lt_of_lt_of_le hn (Nat.le_add_right _ _))
      refine ⟨hafter, fun c hc => ?_⟩
      rcases List.mem_cons.mp hc with rfl | hc
      · exact hstep.2
      · exact hq c hc

theorem process_segments (c : Command) : v.m_segments <+: (v.process o c).m_segments := by
  cases c with
  | AddSeg segmentSize => exact List.prefix_append _ _
  | _ => exact List.prefix_refl _

theorem after_segments (q : List Command) : v.m_segments <+: (v.after o q).m_segments := by
  induction q generalizing v with
  | nil => exact List.prefix_refl _
  | cons c q ih => exact (process_segments c).trans ih

end ready

/-! ### Segments on both sides -/

/-- More segments do not change where a chunk is. -/
theorem chunkIdToSegId_prefix {segs segs' : List Segment} {e f : Nat}
    (h : Consecutive 0 segs e) (hp : segs <+: segs') (hf : f < e) :
    chunkIdToSegId segs' f = chunkIdToSegId segs f ∧
      ∃ seg, segs[chunkIdToSegId segs f]? = some seg ∧
        segs'[chunkIdToSegId segs f]? = some seg := by
  obtain ⟨seg, hseg, -⟩ := h.chunkIdToSegId (Nat.zero_le _) hf
  obtain ⟨x, hx, hxc⟩ := h.exists_contains (Nat.zero_le _) hf
  have hsame : chunkIdToSegId segs' f = chunkIdToSegId segs f := by
    cases hi : segs.findIdx? (·.Contains f) with
    | none =>
        have hnone := List.findIdx?_eq_none_iff.mp hi x hx
        simp [hxc] at hnone
    | some i =>
        unfold chunkIdToSegId
        rw [hi, hp.findIdx?_eq_some hi]
  refine ⟨hsame, seg, hseg, ?_⟩
  obtain ⟨rest, rfl⟩ := hp
  have hlt := (List.getElem?_eq_some_iff.mp hseg).1
  rw [List.getElem?_append_left hlt]
  exact hseg

/-- Both processes resolve an id to the same segment and offset. -/
theorem getBuf_agree {o : Options} {v : Server} {c : Client} {id f : Nat}
    (hlaid : Consecutive 0 v.m_segments v.m_nChunks) (hp : v.m_segments <+: c.m_segments)
    (hf : f < v.m_nChunks) (hv : v.m_cache.lookup id = some f)
    (hc : c.m_cache.lookup id = some f) :
    ∃ b, getBuf o v.m_segments v.m_cache id = some b ∧
      getBuf o c.m_segments c.m_cache id = some b := by
  obtain ⟨hsame, seg, hseg, hseg'⟩ := chunkIdToSegId_prefix hlaid hp hf
  refine ⟨(chunkIdToSegId v.m_segments f, (f - seg.baseChunkId) * o.chunkSize), ?_, ?_⟩
  · simp [getBuf, hv, hseg]
  · simp [getBuf, hc, hsame, hseg']

/-! ### The invariant -/

/-- The two processes, the server having processed the first `n` allocations. -/
structure Synced (o : Options) (s : State) (n : Nat) : Prop where
  ready : Ready o n s.server s.queue
  count : n + allocs s.queue = s.owners.length
  /-- The server's tables. -/
  laid : Consecutive 0 s.server.m_segments s.server.m_nChunks
  below : ∀ id f, s.server.m_cache.lookup id = some f → f < s.server.m_nChunks
  known : ∀ id ∈ s.server.m_cache, id < n
  cached : ∀ id f, s.server.m_cache.lookup id = some f → s.client.m_cache.lookup id = some f
  gone : ∀ id, .Dealloc id ∈ s.processed → id ∉ s.server.m_cache ∧ id < n
  /-- The server's tables once it has processed what is in flight. -/
  segments : (s.server.after o s.queue).m_segments = s.client.m_segments
  nChunks : (s.server.after o s.queue).m_nChunks = s.client.m_nChunks
  pending : ∀ id f, (s.server.after o s.queue).m_cache.lookup id = some f →
    s.client.m_cache.lookup id = some f
  held : ∀ id, id ∈ s.held ↔ id ∈ (s.server.after o s.queue).m_cache
  distinct : s.held.Nodup
  /-- The words, and those who have owned chunks. -/
  words : ∀ f, s.words f = .Deallocated →
    ∃ id, s.client.m_cache.lookup id = some f ∧ .Dealloc id ∈ s.processed
  ids : ∀ p ∈ s.owners, p.1 < s.owners.length
  allocs : ∀ id f, .Alloc id f ∈ s.queue → ∃ a, (id, a) ∈ s.owners ∧ a.first = f
  kept : ∀ p ∈ s.owners, .Dealloc p.1 ∈ s.processed ∨
    (s.client.m_cache.lookup p.1 = some p.2.first ∧ p.2 ∈ s.client.m_allocations)
  reused : ∀ p ∈ s.owners, ∀ p' ∈ s.owners, p.1 < p'.1 → ¬ p.2.Disjoint p'.2 →
    .Dealloc p.1 ∈ s.processed
  found : ∀ todo ids retry, s.control = .freeing todo ids retry →
    ∀ id ∈ ids, .Dealloc id ∈ s.processed

section synced

variable {o : Options} {s : State} {n : Nat}

/-- What the server has said to be deallocated is not looked for any more. -/
theorem Synced.done (h : Synced o s n) {id : Nat} (hid : .Dealloc id ∈ s.processed) :
    id ∉ (s.server.after o s.queue).m_cache ∧ ∀ c ∈ s.queue, ¬ c.Uses id := by
  obtain ⟨hunknown, hlt⟩ := h.gone id hid
  exact h.ready.unknown hunknown hlt

/-! ### The client's steps -/

/-- Only `found` looks at where the client is. -/
theorem Synced.go (h : Synced o s n) {control : Control}
    (hfound : ∀ todo ids retry, control = .freeing todo ids retry →
      ∀ id ∈ ids, .Dealloc id ∈ s.processed) : Synced o (s.go control) n :=
  { h with found := hfound }

theorem Synced.setDefaultSegmentSize (h : Synced o s n) (newDefault : Nat) :
    Synced o (s.setDefaultSegmentSize newDefault) n :=
  { h with }

theorem lookup_record {c : Client} {k : Nat} {a : Allocation} (hc : c.m_nextUid ∉ c.m_cache)
    {id f : Nat} : (c.record o k a).m_cache.lookup id = some f ↔
      (id = c.m_nextUid ∧ f = a.first) ∨ c.m_cache.lookup id = some f := by
  by_cases hid : id = c.m_nextUid
  · subst hid
    have hnone : c.m_cache.lookup c.m_nextUid = none := AList.lookup_eq_none.mpr hc
    rw [Client.record, AList.lookup_insert, hnone]
    simp [eq_comm]
  · rw [Client.record, AList.lookup_insert_ne hid]
    simp [hid]

/-- **Handing out.**  Whoever has owned one of the chunks is dealt with, since free chunks are in
no allocation. -/
theorem Synced.finish (h : Synced o s n) (hwf : s.client.Wf o s.owners.length) {k : Nat}
    {a : Allocation} (hfree : s.client.isValidAllocation a = true →
      Extent.Free s.client.m_allocations a)
    (hfew : (s.finish o k a).owners.length < 2 ^ 32) : Synced o (s.finish o k a) n := by
  unfold State.finish at hfew ⊢
  split
  case isFalse => exact h.go nofun
  case isTrue hv =>
  rw [if_pos hv, List.length_append, List.length_singleton] at hfew
  have hfree := hfree hv
  obtain ⟨hfirst, -, hle, -⟩ := valid_iff.mp hv
  have hnext : s.client.m_nextUid = s.owners.length := by
    rw [hwf.next]
    exact Nat.mod_eq_of_lt (by omega)
  have hfresh : s.client.m_nextUid ∉ s.client.m_cache := fun hmem => by
    have hlt := hwf.recent _ hmem
    omega
  have hcached {id f : Nat} (hf : s.client.m_cache.lookup id = some f) :
      (s.client.record o k a).m_cache.lookup id = some f := (lookup_record hfresh).mpr (.inr hf)
  have hmem (b : Extent) : b ∈ (s.client.record o k a).m_allocations ↔
      b = a ∨ b ∈ s.client.m_allocations := Extent.mem_insert hwf.ordered hle hfree
  have hnew (id : Nat) (hid : id ∈ (s.server.after o s.queue).m_cache) :
      id ≠ s.client.m_nextUid := by
    rintro rfl
    obtain ⟨f, hf⟩ := Option.isSome_iff_exists.mp (AList.lookup_isSome.mpr hid)
    exact hfresh (AList.lookup_isSome.mp (h.pending _ f hf ▸ rfl))
  have hafter : s.server.after o (s.queue ++ [Command.Alloc s.client.m_nextUid a.first]) =
      { s.server.after o s.queue with
        m_cache := (s.server.after o s.queue).m_cache.insert s.client.m_nextUid a.first } :=
    after_append
  have hcount := h.count
  refine
    { ready := ready_append.mpr ⟨h.ready, by rw [hnext, hcount], by rw [h.nChunks]; exact hfirst⟩
      count := ?_
      laid := h.laid
      below := h.below
      known := h.known
      cached := fun id f hf => hcached (h.cached id f hf)
      gone := h.gone
      segments := by rw [hafter]; exact h.segments
      nChunks := by rw [hafter]; exact h.nChunks
      pending := fun id f hf => ?_
      held := fun id => ?_
      distinct := List.nodup_cons.mpr ⟨fun hid => hnew _ ((h.held _).mp hid) rfl, h.distinct⟩
      words := fun f hf => ?_
      ids := fun p hp => ?_
      allocs := fun id f hf => ?_
      kept := fun p hp => ?_
      reused := fun p hp p' hp' hlt hover => ?_
      found := nofun }
  · rw [allocs_append, List.length_append, ← Nat.add_assoc, hcount]
    rfl
  · rw [hafter] at hf
    by_cases hid : id = s.client.m_nextUid
    · subst hid
      rw [AList.lookup_insert] at hf
      exact (lookup_record hfresh).mpr (.inl ⟨rfl, (Option.some.inj hf).symm⟩)
    · rw [AList.lookup_insert_ne hid] at hf
      exact hcached (h.pending id f hf)
  · rw [hafter, List.mem_cons, h.held, AList.mem_insert]
  · obtain ⟨id, hid, hproc⟩ := h.words f hf
    exact ⟨id, hcached hid, hproc⟩
  · rw [List.length_append, List.length_singleton]
    rcases List.mem_append.mp hp with hp | hp
    · have hlt := h.ids p hp
      omega
    · cases List.mem_singleton.mp hp
      exact Nat.lt_succ_of_le (Nat.le_of_eq hnext)
  · rcases List.mem_append.mp hf with hf | hf
    · obtain ⟨b, hb, hbf⟩ := h.allocs id f hf
      exact ⟨b, List.mem_append_left _ hb, hbf⟩
    · cases List.mem_singleton.mp hf
      exact ⟨a, List.mem_append_right _ (List.mem_singleton.mpr rfl), rfl⟩
  · rcases List.mem_append.mp hp with hp | hp
    · rcases h.kept p hp with hproc | ⟨hlook, hin⟩
      · exact .inl hproc
      · exact .inr ⟨hcached hlook, (hmem _).mpr (.inr hin)⟩
    · cases List.mem_singleton.mp hp
      exact .inr ⟨(lookup_record hfresh).mpr (.inl ⟨rfl, rfl⟩), (hmem _).mpr (.inl rfl)⟩
  · have hlt' (q : Nat × Allocation) (hq : q ∈ s.owners) : q.1 < s.client.m_nextUid :=
      hnext ▸ h.ids q hq
    rcases List.mem_append.mp hp with hp | hp
    · rcases List.mem_append.mp hp' with hp' | hp'
      · exact h.reused p hp p' hp' hlt hover
      · cases List.mem_singleton.mp hp'
        rcases h.kept p hp with hproc | ⟨-, hin⟩
        · exact hproc
        · exact absurd (hfree p.2 hin) hover
    · cases List.mem_singleton.mp hp
      rcases List.mem_append.mp hp' with hp' | hp'
      · have hp'' := hlt' p' hp'
        exact absurd hlt (Nat.not_lt_of_lt hp'')
      · cases List.mem_singleton.mp hp'
        exact absurd hlt (Nat.lt_irrefl _)

theorem Synced.addSegment (h : Synced o s n) (segmentSize : Nat) :
    Synced o (s.addSegment o segmentSize) n := by
  have hafter : s.server.after o (s.queue ++ [Command.AddSeg segmentSize]) =
      (s.server.after o s.queue).process o (.AddSeg segmentSize) := after_append
  have hsent : n + SharedHeap.allocs (s.queue ++ [Command.AddSeg segmentSize]) =
      n + SharedHeap.allocs s.queue := by
    rw [allocs_append]
    rfl
  exact
    { h with
      ready := ready_append.mpr ⟨h.ready, trivial⟩
      count := hsent.trans h.count
      segments := by
        have hs : (s.server.after o (s.queue ++ [Command.AddSeg segmentSize])).m_segments =
            (s.server.after o s.queue).m_segments ++
              [Segment.new segmentSize o.chunkSize (s.server.after o s.queue).m_nChunks] := by
          rw [hafter]
          rfl
        exact hs.trans (by rw [h.segments, h.nChunks]; rfl)
      nChunks := by
        have hn : (s.server.after o (s.queue ++ [Command.AddSeg segmentSize])).m_nChunks =
            (s.server.after o s.queue).m_nChunks + segmentSize / o.chunkSize := by
          rw [hafter]
          rfl
        exact hn.trans (by rw [h.nChunks]; rfl)
      pending := fun id f hf => by
        have hf' : (s.server.after o (s.queue ++ [Command.AddSeg segmentSize])).m_cache.lookup id =
            some f := hf
        rw [hafter] at hf'
        exact h.pending id f hf'
      held := fun id => (h.held id).trans (by rw [State.addSegment, hafter]; rfl)
      allocs := fun id f hf => by
        rcases List.mem_append.mp hf with hf | hf
        · exact h.allocs id f hf
        · cases List.mem_singleton.mp hf }

theorem Synced.mark (h : Synced o s n) (f : Nat) :
    Synced o ((s.setChunkState f .Allocated).go .idle) n :=
  { h with
    words := fun g hg => by
      by_cases hgf : g = f
      · have hword : Function.update s.words f .Allocated g = .Deallocated := hg
        rw [hgf, Function.update_self] at hword
        cases hword
      · have hword : Function.update s.words f .Allocated g = .Deallocated := hg
        rw [Function.update_of_ne hgf] at hword
        exact h.words g hword
    found := nofun }

theorem Synced.deallocate (h : Synced o s n) {id : Nat} (hidle : s.control = .idle)
    (hheld : id ∈ s.held) :
    Synced o { s.send (.Dealloc id) with held := s.held.erase id } n := by
  have hafter : s.server.after o (s.queue ++ [Command.Dealloc id]) =
      { s.server.after o s.queue with
        m_cache := (s.server.after o s.queue).m_cache.erase id } := after_append
  have hsent : n + SharedHeap.allocs (s.queue ++ [Command.Dealloc id]) =
      n + SharedHeap.allocs s.queue := by
    rw [allocs_append]
    rfl
  exact
    { h with
      ready := ready_append.mpr ⟨h.ready, (h.held id).mp hheld⟩
      count := hsent.trans h.count
      segments := by
        have hs : (s.server.after o (s.queue ++ [Command.Dealloc id])).m_segments =
            (s.server.after o s.queue).m_segments := by rw [hafter]
        exact hs.trans h.segments
      nChunks := by
        have hn : (s.server.after o (s.queue ++ [Command.Dealloc id])).m_nChunks =
            (s.server.after o s.queue).m_nChunks := by rw [hafter]
        exact hn.trans h.nChunks
      pending := fun id' f hf => by
        have hf' : (s.server.after o (s.queue ++ [Command.Dealloc id])).m_cache.lookup id' =
            some f := hf
        rw [hafter] at hf'
        by_cases hid : id' = id
        · rw [hid, AList.lookup_erase] at hf'
          cases hf'
        · rw [AList.lookup_erase_ne hid] at hf'
          exact h.pending id' f hf'
      held := fun id' => by
        have hmem : id' ∈ s.held.erase id ↔ id' ≠ id ∧ id' ∈ s.held := h.distinct.mem_erase_iff
        refine hmem.trans ?_
        rw [h.held]
        have hs : id' ∈ (s.server.after o (s.queue ++ [Command.Dealloc id])).m_cache ↔
            id' ≠ id ∧ id' ∈ (s.server.after o s.queue).m_cache := by
          rw [hafter]
          exact AList.mem_erase
        exact hs.symm
      distinct := h.distinct.erase id
      allocs := fun id' f hf => by
        rcases List.mem_append.mp hf with hf | hf
        · exact h.allocs id' f hf
        · cases List.mem_singleton.mp hf
      found := fun todo ids retry hcontrol => by
        have hc : s.control = .freeing todo ids retry := hcontrol
        rw [hidle] at hc
        cases hc }

theorem Synced.unlock (h : Synced o s n) {id : Nat} (hheld : id ∈ s.held) :
    Synced o (s.send (.Unlock id)) n := by
  have hafter : s.server.after o (s.queue ++ [Command.Unlock id]) = s.server.after o s.queue :=
    after_append
  have hsent : n + SharedHeap.allocs (s.queue ++ [Command.Unlock id]) =
      n + SharedHeap.allocs s.queue := by
    rw [allocs_append]
    rfl
  exact
    { h with
      ready := ready_append.mpr ⟨h.ready, (h.held id).mp hheld⟩
      count := hsent.trans h.count
      segments := by
        have hs : (s.server.after o (s.queue ++ [Command.Unlock id])).m_segments =
            (s.server.after o s.queue).m_segments := by rw [hafter]
        exact hs.trans h.segments
      nChunks := by
        have hn : (s.server.after o (s.queue ++ [Command.Unlock id])).m_nChunks =
            (s.server.after o s.queue).m_nChunks := by rw [hafter]
        exact hn.trans h.nChunks
      pending := fun id' f hf => h.pending id' f (hafter ▸ hf)
      held := fun id' => (h.held id').trans (by rw [State.send, hafter])
      allocs := fun id' f hf => by
        rcases List.mem_append.mp hf with hf | hf
        · exact h.allocs id' f hf
        · cases List.mem_singleton.mp hf }

/-! ### Freeing -/

theorem lookup_firstChunk {c : Client} {id : Nat} (hid : id ∈ c.m_cache) :
    c.m_cache.lookup id = some (c.firstChunk id) := by
  obtain ⟨f, hf⟩ := Option.isSome_iff_exists.mp (AList.lookup_isSome.mpr hid)
  rw [Client.firstChunk, hf, Option.getD_some]

/-- A word that is found deallocated tells of its own allocation. -/
theorem Synced.deallocated (h : Synced o s n) (hwf : s.client.Wf o s.owners.length) {id : Nat}
    (hid : id ∈ s.client.m_cache) (hword : s.words (s.client.firstChunk id) = .Deallocated) :
    .Dealloc id ∈ s.processed := by
  obtain ⟨id', hlook, hproc⟩ := h.words _ hword
  have hsame : id' = id := hwf.injective id' id _ hlook (lookup_firstChunk hid)
  rwa [hsame] at hproc

/-- One turn of the second loop. -/
theorem Synced.free (h : Synced o s n) (hwf : s.client.Wf o s.owners.length) {id : Nat}
    (hid : id ∈ s.client.m_cache) (hproc : .Dealloc id ∈ s.processed) :
    Synced o
      { s.setChunkState (s.client.firstChunk id) .Unallocated with client := s.client.free o id }
      n := by
  have hfirst := lookup_firstChunk hid
  have hstay {id' f : Nat} (hne : id' ≠ id) (hf : s.client.m_cache.lookup id' = some f) :
      (s.client.free o id).m_cache.lookup id' = some f := by
    rw [Client.free, AList.lookup_erase_ne hne]
    exact hf
  have hgone := (h.done hproc).1
  exact
    { h with
      cached := fun id' f hf => by
        refine hstay ?_ (h.cached id' f hf)
        rintro rfl
        exact (h.gone _ hproc).1 (AList.lookup_isSome.mp (hf ▸ rfl))
      pending := fun id' f hf => by
        refine hstay ?_ (h.pending id' f hf)
        rintro rfl
        exact hgone (AList.lookup_isSome.mp (hf ▸ rfl))
      words := fun g hg => by
        have hword : Function.update s.words (s.client.firstChunk id) .Unallocated g =
            .Deallocated := hg
        by_cases hgf : g = s.client.firstChunk id
        · rw [hgf, Function.update_self] at hword
          cases hword
        · rw [Function.update_of_ne hgf] at hword
          obtain ⟨id', hlook, hproc'⟩ := h.words g hword
          refine ⟨id', hstay ?_ hlook, hproc'⟩
          rintro rfl
          exact hgf (Option.some.inj (hlook.symm.trans hfirst))
      kept := fun p hp => by
        rcases h.kept p hp with hproc' | ⟨hlook, hin⟩
        · exact .inl hproc'
        · by_cases hne : p.1 = id
          · exact .inl (hne ▸ hproc)
          · refine .inr ⟨hstay hne hlook, Extent.mem_erase.mpr ⟨hin, fun heq => hne ?_⟩⟩
            exact hwf.injective p.1 id _ hlook (heq ▸ hfirst) }

theorem Synced.freeAll {ids : List Nat} (h : Synced o s n)
    (hwf : s.client.Wf o s.owners.length) (hnodup : ids.Nodup)
    (hids : ∀ id ∈ ids, id ∈ s.client.m_cache) (hproc : ∀ id ∈ ids, .Dealloc id ∈ s.processed) :
    Synced o (State.freeAll o ids s) n := by
  induction ids generalizing s with
  | nil => exact h
  | cons id ids ih =>
      obtain ⟨hid, hrest⟩ := List.nodup_cons.mp hnodup
      have hmem := hids id List.mem_cons_self
      refine ih (h.free hwf hmem (hproc id List.mem_cons_self)) (hwf.free hmem) hrest
        (fun id' hid' => ?_) fun id' hid' => hproc id' (List.mem_cons_of_mem _ hid')
      refine AList.mem_erase.mpr ⟨?_, hids id' (List.mem_cons_of_mem _ hid')⟩
      rintro rfl
      exact hid hid'

/-! ### The server's step -/

/-- **Processing.**  The word is set for an allocation that the client still has, since it is the
first command about it that the server processes. -/
theorem Synced.serve {c : Command} {q : List Command} (h : Synced o s n) (hq : s.queue = c :: q) :
    Synced o ({ s with queue := q }.serve o c) (n + c.allocs) := by
  have hready := h.ready
  rw [hq] at hready
  obtain ⟨hallowed, hrest⟩ := hready
  have hafter : (s.server.process o c).after o q = s.server.after o s.queue := by
    rw [hq]
    rfl
  have hcount : n + c.allocs + SharedHeap.allocs q = s.owners.length := by
    rw [← h.count, hq]
    simp [SharedHeap.allocs, Nat.add_assoc]
  have hmore {d : Command} (hd : d ∈ s.processed) : d ∈ s.processed ++ [c] :=
    List.mem_append_left _ hd
  have hqueue {d : Command} (hd : d ∈ q) : d ∈ s.queue := hq ▸ List.mem_cons_of_mem _ hd
  have hkept (p : Nat × Allocation) (hp : p ∈ s.owners) :
      .Dealloc p.1 ∈ s.processed ++ [c] ∨
        (s.client.m_cache.lookup p.1 = some p.2.first ∧ p.2 ∈ s.client.m_allocations) :=
    (h.kept p hp).imp_left hmore
  have hreused (p : Nat × Allocation) (hp : p ∈ s.owners) (p' : Nat × Allocation)
      (hp' : p' ∈ s.owners) (hlt : p.1 < p'.1) (hover : ¬ p.2.Disjoint p'.2) :
      .Dealloc p.1 ∈ s.processed ++ [c] := hmore (h.reused p hp p' hp' hlt hover)
  have hgone (hc : ∀ id, c ≠ .Dealloc id) {id : Nat} (hid : .Dealloc id ∈ s.processed ++ [c]) :
      .Dealloc id ∈ s.processed := by
    rcases List.mem_append.mp hid with hid | hid
    · exact hid
    · exact absurd (List.mem_singleton.mp hid).symm (hc id)
  have hwords (f : Nat) (hf : s.words f = .Deallocated) :
      ∃ id, s.client.m_cache.lookup id = some f ∧ .Dealloc id ∈ s.processed ++ [c] := by
    obtain ⟨id, hlook, hproc⟩ := h.words f hf
    exact ⟨id, hlook, hmore hproc⟩
  cases c with
  | AddSeg segmentSize =>
      exact
        { ready := hrest
          count := hcount
          laid := h.laid.append rfl
          below := fun id f hf => Nat.lt_of_lt_of_le (h.below id f hf) (Nat.le_add_right _ _)
          known := h.known
          cached := h.cached
          gone := fun id hid => h.gone id (hgone nofun hid)
          segments := (congrArg Server.m_segments hafter).trans h.segments
          nChunks := (congrArg Server.m_nChunks hafter).trans h.nChunks
          pending := fun id f hf => h.pending id f (hafter ▸ hf)
          held := fun id => (h.held id).trans (by rw [← hafter]; rfl)
          distinct := h.distinct
          words := hwords
          ids := h.ids
          allocs := fun id f hf => h.allocs id f (hqueue hf)
          kept := hkept
          reused := hreused
          found := fun todo ids retry hc id hid => hmore (h.found todo ids retry hc id hid) }
  | Alloc id f =>
      obtain ⟨hid, hf⟩ := hallowed
      obtain ⟨a, ha, rfl⟩ := h.allocs id f (hq ▸ List.mem_cons_self)
      have hlook : s.client.m_cache.lookup id = some a.first := by
        rcases h.kept _ ha with hproc | ⟨hlook, -⟩
        · have hlt := (h.gone _ hproc).2
          exact absurd hlt (by omega)
        · exact hlook
      have hinsert {id' g : Nat}
          (hg : (s.server.m_cache.insert id a.first).lookup id' = some g) :
          (id' = id ∧ g = a.first) ∨ s.server.m_cache.lookup id' = some g := by
        by_cases hne : id' = id
        · rw [hne, AList.lookup_insert] at hg
          exact .inl ⟨hne, (Option.some.inj hg).symm⟩
        · rw [AList.lookup_insert_ne hne] at hg
          exact .inr hg
      exact
        { ready := hrest
          count := hcount
          laid := h.laid
          below := fun id' g hg => by
            rcases hinsert hg with ⟨-, rfl⟩ | hg
            · exact hf
            · exact h.below id' g hg
          known := fun id' hid' => by
            have hone : n + (Command.Alloc id a.first).allocs = n + 1 := rfl
            rcases (AList.mem_insert _).mp hid' with rfl | hid'
            · omega
            · have hlt := h.known id' hid'
              omega
          cached := fun id' g hg => by
            rcases hinsert hg with ⟨rfl, rfl⟩ | hg
            · exact hlook
            · exact h.cached id' g hg
          gone := fun id' hid' => by
            obtain ⟨hnot, hlt⟩ := h.gone id' (hgone nofun hid')
            refine ⟨fun hmem => ?_, Nat.lt_of_lt_of_le hlt (Nat.le_add_right _ _)⟩
            rcases (AList.mem_insert _).mp hmem with rfl | hmem
            · omega
            · exact hnot hmem
          segments := (congrArg Server.m_segments hafter).trans h.segments
          nChunks := (congrArg Server.m_nChunks hafter).trans h.nChunks
          pending := fun id' g hg => h.pending id' g (hafter ▸ hg)
          held := fun id' => (h.held id').trans (by rw [← hafter]; rfl)
          distinct := h.distinct
          words := hwords
          ids := h.ids
          allocs := fun id' g hg => h.allocs id' g (hqueue hg)
          kept := hkept
          reused := hreused
          found := fun todo ids retry hc id' hid' => hmore (h.found todo ids retry hc id' hid') }
  | Dealloc id =>
      have hknown : id ∈ s.server.m_cache := hallowed
      obtain ⟨f, hf⟩ := Option.isSome_iff_exists.mp (AList.lookup_isSome.mpr hknown)
      have hfirst : s.server.firstChunk id = f := by
        rw [Server.firstChunk, hf, Option.getD_some]
      have herase {id' g : Nat} (hg : (s.server.m_cache.erase id).lookup id' = some g) :
          s.server.m_cache.lookup id' = some g := by
        by_cases hne : id' = id
        · rw [hne, AList.lookup_erase] at hg
          cases hg
        · rwa [AList.lookup_erase_ne hne] at hg
      exact
        { ready := hrest
          count := hcount
          laid := h.laid
          below := fun id' g hg => h.below id' g (herase hg)
          known := fun id' hid' => h.known id' (AList.mem_erase.mp hid').2
          cached := fun id' g hg => h.cached id' g (herase hg)
          gone := fun id' hid' => by
            rcases List.mem_append.mp hid' with hid' | hid'
            · obtain ⟨hnot, hlt⟩ := h.gone id' hid'
              exact ⟨fun hmem => hnot (AList.mem_erase.mp hmem).2, hlt⟩
            · cases List.mem_singleton.mp hid'
              exact ⟨fun hmem => (AList.mem_erase.mp hmem).1 rfl, h.known id hknown⟩
          segments := (congrArg Server.m_segments hafter).trans h.segments
          nChunks := (congrArg Server.m_nChunks hafter).trans h.nChunks
          pending := fun id' g hg => h.pending id' g (hafter ▸ hg)
          held := fun id' => (h.held id').trans (by rw [← hafter]; rfl)
          distinct := h.distinct
          words := fun g hg => by
            have hword : Function.update s.words (s.server.firstChunk id) .Deallocated g =
                .Deallocated := hg
            by_cases hgf : g = s.server.firstChunk id
            · refine ⟨id, ?_, List.mem_append_right _ (List.mem_singleton.mpr rfl)⟩
              rw [hgf, hfirst]
              exact h.cached id f hf
            · rw [Function.update_of_ne hgf] at hword
              exact hwords g hword
          ids := h.ids
          allocs := fun id' g hg => h.allocs id' g (hqueue hg)
          kept := hkept
          reused := hreused
          found := fun todo ids retry hc id' hid' => hmore (h.found todo ids retry hc id' hid') }
  | Unlock id =>
      exact
        { ready := hrest
          count := hcount
          laid := h.laid
          below := h.below
          known := h.known
          cached := h.cached
          gone := fun id' hid' => h.gone id' (hgone nofun hid')
          segments := (congrArg Server.m_segments hafter).trans h.segments
          nChunks := (congrArg Server.m_nChunks hafter).trans h.nChunks
          pending := fun id' f hf => h.pending id' f (hafter ▸ hf)
          held := fun id' => (h.held id').trans (by rw [← hafter]; rfl)
          distinct := h.distinct
          words := hwords
          ids := h.ids
          allocs := fun id' f hf => h.allocs id' f (hqueue hf)
          kept := hkept
          reused := hreused
          found := fun todo ids retry hc id' hid' => hmore (h.found todo ids retry hc id' hid') }

/-! ### Runs -/

/-- **The step lemma.**  It holds of a step that gives back or unlocks only what is held. -/
theorem synced_step {s' : State} {a : Action} (hstep : step o s a = some s') (hI : Inv o s)
    (h : Synced o s n) (hp : Promised s a) (hfew : s'.owners.length < 2 ^ 32) :
    ∃ n', Synced o s' n' := by
  obtain ⟨ht, hfits⟩ := hI
  have hwf := ht.client
  cases move_of_step hstep with
  | @allocateFirst _ numChunks newDefault _ hnone =>
      refine ⟨n, (h.setDefaultSegmentSize newDefault).finish
        (ht.setDefaultSegmentSize newDefault).client (fun _ j hj => ?_) hfew⟩
      have hmem : j ∈ s.client.m_allocations := hj
      rw [hnone] at hmem
      cases hmem
  | @allocate _ _ newDefault => exact ⟨n, (h.setDefaultSegmentSize newDefault).go nofun⟩
  | found hsearch hv halloc =>
      have hnum : Control.Fits s.client (.searching _ _) := hsearch ▸ hfits
      refine ⟨n, h.finish hwf (fun _ => ?_) hfew⟩
      rcases halloc with rfl | rfl
      · exact (findFreeInMiddle_free hwf.shape hnum hv).1
      · exact (findFreeOnEnd_free hwf.shape hnum hv).1
  | notFound =>
      refine ⟨n, h.go fun todo ids retry hc => ?_⟩
      cases hc
      exact nofun
  | freeDeallocations =>
      refine ⟨n, h.go fun todo ids retry hc => ?_⟩
      cases hc
      exact nofun
  | @deallocated id todo ids retry hfreeing hid hword =>
      obtain ⟨-, hmem, -⟩ : Control.Fits s.client (.freeing todo ids retry) := hfreeing ▸ hfits
      have hproc := h.deallocated hwf (hmem id (List.mem_append_left _ hid)) hword
      have htouched : Synced o { s with touched := s.client.firstChunk id :: s.touched } n :=
        { h with }
      refine ⟨n, htouched.go fun todo' ids' retry' hc id' hid' => ?_⟩
      cases hc
      rcases List.mem_cons.mp hid' with rfl | hid'
      · exact hproc
      · exact h.found todo ids retry hfreeing id' hid'
  | @notDeallocated id todo ids retry hfreeing =>
      have htouched : Synced o { s with touched := s.client.firstChunk id :: s.touched } n :=
        { h with }
      refine ⟨n, htouched.go fun todo' ids' retry' hc id' hid' => ?_⟩
      cases hc
      exact h.found todo ids retry hfreeing id' hid'
  | @reclaim ids retry next hfreeing hnext =>
      obtain ⟨hnodup, hmem, -⟩ : Control.Fits s.client (.freeing [] ids retry) := hfreeing ▸ hfits
      have hfreed := h.freeAll hwf hnodup hmem (h.found [] ids retry hfreeing)
      refine ⟨n, hfreed.go fun todo' ids' retry' hc => ?_⟩
      rcases hnext with rfl | ⟨m, k, -, rfl | rfl⟩ <;> cases hc
  | addSegment => exact ⟨n, h.addSegment _⟩
  | noSegment => exact ⟨n, h⟩
  | @grow failures numChunks k hgrowing =>
      have hnum : Control.Fits s.client (.growing numChunks k) := hgrowing ▸ hfits
      have hadded := ht.addSegment failures
      refine ⟨n, (h.addSegment _).finish hadded.client (fun hv => ?_) hfew⟩
      exact (newSegment_free hwf.shape hnum hv hadded.client.shape).1
  | noGrow => exact ⟨n, h.go nofun⟩
  | timeout => exact ⟨n, h.go nofun⟩
  | retry => exact ⟨n, h.go nofun⟩
  | mark => exact ⟨n, h.mark _⟩
  | deallocate hidle => exact ⟨n, h.deallocate hidle hp⟩
  | unlock => exact ⟨n, h.unlock hp⟩
  | serve hqueue => exact ⟨_, h.serve hqueue⟩

end synced

theorem synced_empty (o : Options) : Synced o (empty o) 0 where
  ready := trivial
  count := rfl
  laid := rfl
  below := nofun
  known := fun id hid => absurd hid (AList.notMem_empty id)
  cached := nofun
  gone := nofun
  segments := rfl
  nChunks := rfl
  pending := nofun
  held := fun id => ⟨nofun, fun hid => absurd hid (AList.notMem_empty id)⟩
  distinct := .nil
  words := nofun
  ids := nofun
  allocs := nofun
  kept := nofun
  reused := nofun
  found := nofun

theorem synced_start {o : Options} {failures : Nat} {s : State} (h : start o failures = some s) :
    Inv o s ∧ ∃ n, Synced o s n := by
  refine ⟨inv_start h, ?_⟩
  unfold start at h
  split at h
  · next hroom =>
      have hI := tables_empty hroom
      have hfew : s.owners.length < 2 ^ 32 := by
        cases move_of_step h with
        | addSegment => exact Nat.two_pow_pos 32
        | noSegment => exact Nat.two_pow_pos 32
        | grow hgrowing => cases hgrowing
        | noGrow hgrowing => cases hgrowing
      exact synced_step h hI (synced_empty o) trivial hfew
  · cases h

/-- Chunks and ids are safe to use. -/
structure Safe (o : Options) (s : State) : Prop where
  /-- Once a chunk is handed out again, the server has processed the deallocation of its previous
  owner, and no command that uses that owner is left. -/
  reuse : ∀ id a id' a', (id, a) ∈ s.owners → (id', a') ∈ s.owners → id < id' → ¬ a.Disjoint a' →
    .Dealloc id ∈ s.processed ∧ ∀ c ∈ s.queue, ¬ c.Uses id
  /-- What the server is about to use, it knows. -/
  uses : ∀ id c q, s.queue = c :: q → c.Uses id → id ∈ s.server.m_cache
  /-- What the server knows it resolves as the client does. -/
  agree : ∀ id ∈ s.server.m_cache, ∃ b, getBuf o s.server.m_segments s.server.m_cache id = some b ∧
    getBuf o s.client.m_segments s.client.m_cache id = some b
  /-- So it will what the client holds, once it has processed what is in flight. -/
  live : ∀ id ∈ s.held, ∃ b, getBuf o (s.server.after o s.queue).m_segments
      (s.server.after o s.queue).m_cache id = some b ∧
    getBuf o s.client.m_segments s.client.m_cache id = some b

theorem Synced.safe {o : Options} {s : State} {n : Nat} (hI : Inv o s) (h : Synced o s n) :
    Safe o s where
  reuse id a id' a' ha ha' hlt hover := by
    have hproc := h.reused (id, a) ha (id', a') ha' hlt hover
    exact ⟨hproc, (h.done hproc).2⟩
  uses id c q hq hc := by
    have hready := h.ready
    rw [hq] at hready
    rcases hc with rfl | rfl
    · exact hready.1
    · exact hready.1
  agree id hid := by
    obtain ⟨f, hf⟩ := Option.isSome_iff_exists.mp (AList.lookup_isSome.mpr hid)
    have hsegs : s.server.m_segments <+: s.client.m_segments :=
      h.segments ▸ after_segments s.queue
    exact getBuf_agree h.laid hsegs (h.below id f hf) hf (h.cached id f hf)
  live id hid := by
    have hmem := (h.held id).mp hid
    obtain ⟨f, hf⟩ := Option.isSome_iff_exists.mp (AList.lookup_isSome.mpr hmem)
    have hlook := h.pending id f hf
    refine getBuf_agree ?_ ?_ ?_ hf hlook
    · rw [h.segments, h.nChunks]
      exact hI.tables.client.laid
    · rw [h.segments]
    · rw [h.nChunks]
      exact hI.tables.client.lookup_lt hlook

/-- **No reuse before the server is done.**  In every run of fewer than `2 ^ 32` allocations in which
the client gives back and unlocks only what it holds, a chunk is handed out again only after the
server has processed the deallocation of its previous owner, and both processes resolve every id
alike. -/
theorem reuse_safe {o : Options} {failures : Nat} {s : State} {as : List Action}
    (hr : execPromised o failures as = some s) (hfew : s.owners.length < 2 ^ 32) : Safe o s := by
  obtain ⟨s₀, h₀, hr⟩ := Option.bind_eq_some_iff.mp hr
  have hsafe : s.owners.length < 2 ^ 32 → Inv o s ∧ ∃ n, Synced o s n := by
    refine run_inv (I := fun s => s.owners.length < 2 ^ 32 → Inv o s ∧ ∃ n, Synced o s n) ?_
      (fun _ => synced_start h₀) hr
    intro s a s' hI h hfew
    unfold stepPromised at h
    split at h
    · next hp =>
        have hle := (owners_kept (move_of_step h)).length_le
        obtain ⟨hinv, n, hs⟩ := hI (Nat.lt_of_le_of_lt hle hfew)
        exact ⟨inv_step h hinv hfew, synced_step h hinv hs hp hfew⟩
    · cases h
  obtain ⟨hinv, n, hs⟩ := hsafe hfew
  exact hs.safe hinv

/-- An allocation is used, given back, dealt with and handed out again. -/
theorem reuse_safe_reused :
    ∃ s, execPromised ⟨4096, 2 ^ 28⟩ 0 [.allocate 5000, .mark, .allocate 4096, .search 0, .mark,
        .unlock 0, .deallocate 0, .serve, .serve, .serve, .serve, .serve, .freeDeallocations,
        .look 0, .look 1, .reclaim, .allocate 8192, .search 0, .mark] = some s ∧
      Safe ⟨4096, 2 ^ 28⟩ s := by
  have hr : execPromised ⟨4096, 2 ^ 28⟩ 0 [.allocate 5000, .mark, .allocate 4096, .search 0, .mark,
      .unlock 0, .deallocate 0, .serve, .serve, .serve, .serve, .serve, .freeDeallocations,
      .look 0, .look 1, .reclaim, .allocate 8192, .search 0, .mark] = some _ := rfl
  exact ⟨_, hr, reuse_safe hr (by decide)⟩

/-! ### The wrap of the counter -/

/-- The heap of two chunks, `kInvalidId` on the second one, and all commands processed. -/
structure Full (s : State) : Prop where
  client : s.client = fullClient kInvalidId 0
  first : s.words 0 = .Allocated
  second : s.words 1 = .Allocated
  queue : s.queue = []
  known : s.server.m_cache.lookup 0 = some 0
  segments : s.server.m_segments = [⟨8, 0, 2⟩]

/-- An attempt of `findAllocation` that finds nothing and frees nothing. -/
def attempt : List Action := [.search 0, .look kInvalidId, .look 0, .reclaim]

theorem attempted {s : State} {k : Nat} (h : Full s) (hcontrol : s.control = .searching 1 k) :
    ∃ s', run (step ⟨4, 8⟩) s attempt = some s' ∧ Full s' ∧
      s'.control = if k = kAttemptIncrease then .growing 1 k else .waiting 1 k := by
  have hid : kInvalidId ≠ 0 := by decide
  have hfirstChunk : (fullClient kInvalidId 0).firstChunk 0 = 0 :=
    congrArg (·.getD 0) (twoEntries_first hid)
  have hsecondChunk : (fullClient kInvalidId 0).firstChunk kInvalidId = 1 :=
    congrArg (·.getD 0) (twoEntries_second kInvalidId)
  have hsearch := search_full hid h.client hcontrol
  -- neither word says that its chunk is deallocated
  have hlook {s : State} (hs : Full s) {i : Nat} {todo : List Nat}
      (hi : i = kInvalidId ∨ i = 0) (hc : s.control = .freeing (i :: todo) [] (some (1, k))) :
      ∃ s', step ⟨4, 8⟩ s (.look i) = some s' ∧ Full s' ∧
        s'.control = .freeing todo [] (some (1, k)) := by
    have hword : s.words (s.client.firstChunk i) ≠ .Deallocated := by
      rw [hs.client]
      rcases hi with rfl | rfl
      · rw [hsecondChunk, hs.second]
        exact ChunkState.noConfusion
      · rw [hfirstChunk, hs.first]
        exact ChunkState.noConfusion
    refine ⟨{ s with touched := s.client.firstChunk i :: s.touched }.go
      (.freeing todo [] (some (1, k))), ?_,
      ⟨hs.client, hs.first, hs.second, hs.queue, hs.known, hs.segments⟩, rfl⟩
    simp only [step, hc, List.mem_cons_self, if_true, if_neg hword, List.erase_cons_head]
  have hgo : Full (s.go (.freeing [kInvalidId, 0] [] (some (1, k)))) :=
    ⟨h.client, h.first, h.second, h.queue, h.known, h.segments⟩
  obtain ⟨s₁, h₁, hs₁, hc₁⟩ := hlook hgo (.inl rfl) rfl
  obtain ⟨s₂, h₂, hs₂, hc₂⟩ := hlook hs₁ (.inr rfl) hc₁
  have hreclaim : step ⟨4, 8⟩ s₂ .reclaim =
      some (s₂.go (if k = kAttemptIncrease then .growing 1 k else .waiting 1 k)) := by
    simp only [step, hc₂, State.freeAll]
    split <;> rfl
  refine ⟨_, run_cons.mpr ⟨_, hsearch, run_cons.mpr ⟨_, h₁, run_cons.mpr ⟨_, h₂,
    run_cons.mpr ⟨_, hreclaim, rfl⟩⟩⟩⟩, ?_, rfl⟩
  exact ⟨hs₂.client, hs₂.first, hs₂.second, hs₂.queue, hs₂.known, hs₂.segments⟩

/-- Another allocation, after the one that got `kInvalidId`: the heap is full at each attempt, and
grows. -/
def allocateGrowing : List Action :=
  [.mark, .serve, .allocate 4] ++ attempt ++ [.wait false] ++ attempt ++ [.wait false] ++ attempt ++
    [.addNewHeapSegment 0]

theorem resolved_apart {s : State} (h : Reallocated (2 ^ 32 - 2) s) :
    ∃ s', run (step ⟨4, 8⟩) s allocateGrowing = some s' ∧
      getBuf ⟨4, 8⟩ s'.server.m_segments s'.server.m_cache 0 = some (0, 0) ∧
      getBuf ⟨4, 8⟩ s'.client.m_segments s'.client.m_cache 0 = some (1, 0) := by
  obtain ⟨client, control, words, queue, server, owners, held, processed, touched⟩ := s
  obtain ⟨hcontrol, hclient, hfirst, hqueue, hknown, hsegments, -, -⟩ := h
  dsimp only at hcontrol hclient hfirst hqueue hknown hsegments
  subst hcontrol hclient hqueue
  -- the second chunk is marked and the server told of it
  have hbegin : ∃ s₁, run (step ⟨4, 8⟩) ⟨fullClient kInvalidId 0, .marking 1, words,
      [.Alloc kInvalidId 1], server, owners, held, processed, touched⟩
        [.mark, .serve, .allocate 4] = some s₁ ∧ Full s₁ ∧ s₁.control = .searching 1 0 := by
    have hword₀ : Function.update words 1 ChunkState.Allocated 0 = .Allocated := by
      rw [Function.update_of_ne Nat.zero_ne_one, hfirst]
    have hword₁ : Function.update words 1 ChunkState.Allocated 1 = .Allocated :=
      Function.update_self _ _ _
    have hserver : (server.m_cache.insert kInvalidId 1).lookup 0 = some 0 := by
      rw [AList.lookup_insert_ne (by decide), hknown]
    exact ⟨_, rfl, ⟨rfl, hword₀, hword₁, rfl, hserver, hsegments⟩, rfl⟩
  obtain ⟨s₁, h₁, hs₁, hc₁⟩ := hbegin
  obtain ⟨s₂, h₂, hs₂, hc₂⟩ := attempted hs₁ hc₁
  have hwait {s : State} {k : Nat} (hs : Full s) (hc : s.control = .waiting 1 k) :
      run (step ⟨4, 8⟩) s [.wait false] = some (s.go (.searching 1 (k + 1))) := by
    rw [run, step, hc]
    rfl
  have hgo {s : State} (hs : Full s) (control : Control) : Full (s.go control) :=
    ⟨hs.client, hs.first, hs.second, hs.queue, hs.known, hs.segments⟩
  obtain ⟨s₃, h₃, hs₃, hc₃⟩ := attempted (hgo hs₂ (.searching 1 1)) rfl
  obtain ⟨s₄, h₄, hs₄, hc₄⟩ := attempted (hgo hs₃ (.searching 1 2)) rfl
  have hgrow : run (step ⟨4, 8⟩) s₄ [.addNewHeapSegment 0] =
      some ((s₄.addSegment ⟨4, 8⟩ 8).finish ⟨4, 8⟩ 1 ⟨2, 2⟩) := by
    rw [run, step, hc₄, hs₄.client]
    rfl
  have hvalid : (s₄.addSegment ⟨4, 8⟩ 8).client.isValidAllocation ⟨2, 2⟩ = true := by
    rw [State.addSegment, hs₄.client]
    rfl
  refine ⟨_, run_append.mpr ⟨s₄, run_append.mpr ⟨_, run_append.mpr ⟨s₃, run_append.mpr ⟨_,
    run_append.mpr ⟨s₂, run_append.mpr ⟨s₁, h₁, h₂⟩, hwait hs₂ hc₂⟩, h₃⟩, hwait hs₃ hc₃⟩, h₄⟩,
    hgrow⟩, ?_, ?_⟩
  · rw [State.finish, if_pos hvalid]
    change getBuf _ s₄.server.m_segments s₄.server.m_cache 0 = _
    rw [hs₄.segments, getBuf, hs₄.known]
    rfl
  · rw [State.finish, if_pos hvalid]
    change getBuf _ (s₄.client.addSegment ⟨4, 8⟩ 8).m_segments
      (s₄.client.m_cache.insert s₄.client.m_nextUid 2) 0 = _
    rw [hs₄.client]
    rfl

/-- **The counter comes round to a live id.**  The allocation after the one that got `kInvalidId`
gets the id 0, which the first one still has, and the processes resolve it apart. -/
theorem id_wraps_onto_live :
    ¬ ∀ (o : Options) (failures : Nat) (as : List Action) (s : State),
      execPromised o failures as = some s → Safe o s := by
  intro hall
  obtain ⟨as, s, hr, hs⟩ := reallocated_last
  obtain ⟨s', hr', hserver, hclient⟩ := resolved_apart hs
  have hpromised : ∀ a ∈ allocateGrowing, ∀ s, Promised s a := by
    simp [allocateGrowing, attempt, Promised]
  obtain ⟨s₀, h₀, hrun⟩ := Option.bind_eq_some_iff.mp hr
  have hsafe := hall _ _ _ s' (Option.bind_eq_some_iff.mpr
    ⟨s₀, h₀, run_append.mpr ⟨s, hrun, run_promised hpromised hr'⟩⟩)
  have hknown : 0 ∈ s'.server.m_cache := by
    obtain ⟨f, hf, -⟩ := Option.bind_eq_some_iff.mp hserver
    exact AList.lookup_isSome.mp (hf ▸ rfl)
  obtain ⟨b, hb, hb'⟩ := hsafe.agree 0 hknown
  rw [hserver] at hb
  rw [hclient] at hb'
  cases hb
  cases hb'

end RemixBridge.SharedHeap
