import RemixBridge.Heap.Completeness
import RemixBridge.Heap.SegmentGrowth

/-!
# Heap — AllocateReturns

Whether `allocate` comes to an end.  It doubles the segment size until an allocation fits, looks for
free chunks until there are some or a timeout is over, and tries once to add a segment, of which it
halves the size.  What it sees of the server and of the clock is any environment.

* `growSegmentSize_ends_iff`: the doubling ends for the sizes that a doubled size reaches before it
  has become 0.
* `retries_iff`: the retries end by the timeout, unless the new segment cannot be mapped.
* `allocate_returns_iff`: when the call returns.
-/

namespace RemixBridge.SharedHeap

/-! ### The call -/

/-- What a call sees: the words of the chunks and the clock, in each turn of the loop, what is read
as the last allocation where there is none, and the attempts to map memory. -/
structure Environment where
  timeoutStart : Nat
  ticks : Nat → Nat
  words : Nat → Nat → ChunkState
  garbage : Nat → Nat
  maps : Nat → Mapping

/-- `getSharedHeapFreeChunkWaitTimeout` is in seconds. -/
def Environment.bTimedOut (env : Environment) (timeout n : Nat) : Bool :=
  decide (timeout ≤ (env.ticks n - env.timeoutStart) / 1000)

namespace Client

variable (o : Options) (c : Client)

def freeDeallocations (words : Nat → ChunkState) : Client :=
  (c.m_cache.keys.filter fun id => decide (words (c.firstChunk id) = .Deallocated)).foldl
    (fun c id => c.free o id) c

/-- `addNewHeapSegment`: the client with a new segment, if there is one. -/
def addNewHeapSegment (maps : Nat → Mapping) : Outcome (Option Client) :=
  match tryHalves o.chunkSize maps (c.newSegmentSize o 0) with
  | .returned (some segmentSize) => .returned (some (c.addSegment o segmentSize))
  | .returned none               => .returned none
  | .threw errMsg                => .threw errMsg
  | .terminated                  => .terminated

/-- The body of the loop of `findAllocation`, to the test of the time. -/
def turn (env : Environment) (numChunks n : Nat) : Outcome (Client × Option Allocation) :=
  let inMiddle := c.findFreeInMiddle numChunks
  let onEnd := c.findFreeOnEnd numChunks (env.garbage n)
  if c.isValidAllocation inMiddle then .returned (c, some inMiddle)
  else if c.isValidAllocation onEnd then .returned (c, some onEnd)
  else
    let c' := c.freeDeallocations o (env.words n)
    if n = kAttemptIncrease then
      match c'.addNewHeapSegment o env.maps with
      | .returned (some grown) =>
          .returned (grown, some (createAllocation c'.m_nChunks numChunks))
      | .returned none => .returned (c', none)
      | .threw errMsg  => .threw errMsg
      | .terminated    => .terminated
    else .returned (c', none)

end Client

/-- The loop of `findAllocation`, in its `n`-th turn; `none` when it has not ended after `fuel`
turns. -/
def retry (o : Options) (timeout : Nat) (env : Environment) (numChunks : Nat) :
    Nat → Nat → Client → Option (Outcome (Client × Allocation))
  | 0, _, _        => none
  | fuel + 1, n, c =>
      match c.turn o env numChunks n with
      | .returned (c', some alloc) => some (.returned (c', alloc))
      | .returned (c', none) =>
          if env.bTimedOut timeout n then some (.returned (c', invalidAllocation))
          else retry o timeout env numChunks fuel (n + 1) c'
      | .threw errMsg => some (.threw errMsg)
      | .terminated => some .terminated

def findAllocation (o : Options) (timeout : Nat) (env : Environment) (fuel : Nat) (c : Client)
    (numChunks : Nat) : Option (Outcome (Client × Allocation)) :=
  match c.m_allocations with
  | []     => some (.returned (c, createAllocation 0 numChunks))
  | _ :: _ => retry o timeout env numChunks fuel 0 c

/-- The rest of `allocate`: the client's tables and the id, or `kInvalidId`. -/
def Client.finish (o : Options) (c : Client) (numChunks : Nat) (alloc : Allocation) :
    Client × Nat :=
  if c.isValidAllocation alloc then (c.record o numChunks alloc, c.m_nextUid)
  else (c, kInvalidId)

def Client.withDefault (c : Client) (newDefault : Nat) : Client :=
  { c with m_defaultSegmentSize := newDefault }

/-- `allocate`, with as many turns for each of its two loops. -/
def Client.allocate (o : Options) (timeout : Nat) (env : Environment) (doublings retries : Nat)
    (c : Client) (size : Nat) : Option (Outcome (Client × Nat)) :=
  (growSegmentSize size doublings c.m_defaultSegmentSize).bind fun newDefault =>
    (findAllocation o timeout env retries (c.withDefault newDefault) (numChunksOf o size)).map fun
      | .returned (found, alloc) => .returned (found.finish o (numChunksOf o size) alloc)
      | .threw errMsg            => .threw errMsg
      | .terminated              => .terminated

/-- The call returns after finitely many turns. -/
def Client.Returns (o : Options) (timeout : Nat) (env : Environment) (c : Client) (size : Nat) :
    Prop :=
  ∃ doublings retries r, c.allocate o timeout env doublings retries size = some (.returned r)

/-- The clock keeps advancing. -/
def Environment.Advances (env : Environment) : Prop := ∀ b, ∃ N, ∀ n ≥ N, b ≤ env.ticks n

/-! ### The doubling -/

theorem growSegmentSize_mono {size fuel fuel' d r : Nat} (hle : fuel ≤ fuel')
    (h : growSegmentSize size fuel d = some r) : growSegmentSize size fuel' d = some r := by
  induction fuel generalizing fuel' d with
  | zero => cases h
  | succ fuel ih =>
      obtain ⟨k, rfl⟩ : ∃ k, fuel' = k + 1 := Nat.exists_eq_add_one.mpr (by omega)
      rw [growSegmentSize] at h ⊢
      split at h
      · rw [if_pos ‹_›]
        exact ih (by omega) h
      · rw [if_neg ‹_›]
        exact h

theorem growSegmentSize_unique {size fuel fuel' d r r' : Nat}
    (h : growSegmentSize size fuel d = some r) (h' : growSegmentSize size fuel' d = some r') :
    r = r' := by
  have hmax := growSegmentSize_mono (le_max_left fuel fuel') h
  have hmax' := growSegmentSize_mono (le_max_right fuel fuel') h'
  exact Option.some.inj (hmax.symm.trans hmax')

theorem double_mod (d k : Nat) : d * 2 % 2 ^ 32 * 2 ^ k % 2 ^ 32 = d * 2 ^ (k + 1) % 2 ^ 32 := by
  rw [Nat.mod_mul_mod, Nat.mul_assoc, ← Nat.pow_succ']

/-- The doubling ends if and only if the size, or one that it is doubled to, is large enough. -/
theorem growSegmentSize_ends_iff (size d : Nat) :
    (∃ fuel r, growSegmentSize size fuel d = some r) ↔
      size ≤ d ∨ ∃ k, size ≤ d * 2 ^ k % 2 ^ 32 := by
  constructor
  · rintro ⟨fuel, r, h⟩
    induction fuel generalizing d with
    | zero => cases h
    | succ fuel ih =>
        rw [growSegmentSize] at h
        split at h
        · rcases ih _ h with hle | ⟨k, hk⟩
          · exact .inr ⟨1, by rwa [Nat.pow_one]⟩
          · exact .inr ⟨k + 1, by rwa [double_mod] at hk⟩
        · exact .inl (Nat.le_of_not_lt ‹_›)
  · have hnow {d : Nat} (hle : size ≤ d) : ∃ fuel r, growSegmentSize size fuel d = some r :=
      ⟨1, d, if_neg (Nat.not_lt_of_le hle)⟩
    rintro (hle | ⟨k, hk⟩)
    · exact hnow hle
    · induction k generalizing d with
      | zero =>
          rw [Nat.pow_zero, Nat.mul_one] at hk
          exact hnow (hk.trans (Nat.mod_le _ _))
      | succ k ih =>
          rw [← double_mod] at hk
          obtain ⟨fuel, r, h⟩ := ih _ hk
          by_cases hlt : d < size
          · exact ⟨fuel + 1, r, (if_pos hlt).trans h⟩
          · exact hnow (Nat.le_of_not_lt hlt)

/-! ### The retries -/

section
variable {o : Options} {timeout : Nat} {env : Environment} {numChunks n : Nat} {c : Client}

/-- A search finds chunks. -/
def Client.Finds (c : Client) (numChunks garbage : Nat) : Prop :=
  c.isValidAllocation (c.findFreeInMiddle numChunks) = true ∨
    c.isValidAllocation (c.findFreeOnEnd numChunks garbage) = true

/-- The client in the `n`-th turn, as long as nothing has been found and no segment added. -/
def Client.freed (o : Options) (env : Environment) (c : Client) : Nat → Client
  | 0     => c
  | n + 1 => (c.freed o env n).freeDeallocations o (env.words n)

/-- The loop ends from the `n`-th turn on. -/
def Retries (o : Options) (timeout : Nat) (env : Environment) (numChunks n : Nat) (c : Client) :
    Prop :=
  ∃ fuel r, retry o timeout env numChunks fuel n c = some (.returned r)

theorem turn_finds (h : c.Finds numChunks (env.garbage n)) :
    ∃ alloc, c.turn o env numChunks n = .returned (c, some alloc) := by
  unfold Client.turn
  dsimp only
  by_cases hm : c.isValidAllocation (c.findFreeInMiddle numChunks) = true
  · exact ⟨_, if_pos hm⟩
  · rw [if_neg hm, if_pos (h.resolve_left hm)]
    exact ⟨_, rfl⟩

theorem turn_other (h : ¬ c.Finds numChunks (env.garbage n)) (hn : n ≠ kAttemptIncrease) :
    c.turn o env numChunks n = .returned (c.freeDeallocations o (env.words n), none) := by
  obtain ⟨hm, he⟩ := not_or.mp h
  unfold Client.turn
  dsimp only
  rw [if_neg hm, if_neg he, if_neg hn]

theorem turn_full (h : ¬ c.Finds numChunks (env.garbage kAttemptIncrease))
    (hroom : ¬ o.chunkSize <
      (c.freeDeallocations o (env.words kAttemptIncrease)).newSegmentSize o 0) :
    c.turn o env numChunks kAttemptIncrease =
      .returned (c.freeDeallocations o (env.words kAttemptIncrease), none) := by
  obtain ⟨hm, he⟩ := not_or.mp h
  unfold Client.turn Client.addNewHeapSegment
  dsimp only
  rw [if_neg hm, if_neg he, if_pos rfl, tryHalves_small _ hroom]

theorem turn_grows (h : ¬ c.Finds numChunks (env.garbage kAttemptIncrease))
    (hroom : o.chunkSize <
      (c.freeDeallocations o (env.words kAttemptIncrease)).newSegmentSize o 0)
    (hmaps : (env.maps 0).succeeds = true) :
    ∃ c' alloc, c.turn o env numChunks kAttemptIncrease = .returned (c', some alloc) := by
  obtain ⟨hm, he⟩ := not_or.mp h
  unfold Client.turn Client.addNewHeapSegment
  dsimp only
  rw [if_neg hm, if_neg he, if_pos rfl, tryHalves_first hroom hmaps]
  exact ⟨_, _, rfl⟩

theorem turn_terminated (h : ¬ c.Finds numChunks (env.garbage kAttemptIncrease))
    (hroom : o.chunkSize <
      (c.freeDeallocations o (env.words kAttemptIncrease)).newSegmentSize o 0)
    (hmaps : ¬ (env.maps 0).succeeds = true) :
    c.turn o env numChunks kAttemptIncrease = .terminated := by
  obtain ⟨hm, he⟩ := not_or.mp h
  unfold Client.turn Client.addNewHeapSegment
  dsimp only
  rw [if_neg hm, if_neg he, if_pos rfl, tryHalves_terminated hroom hmaps]

theorem retries_some {c' : Client} {alloc : Allocation}
    (h : c.turn o env numChunks n = .returned (c', some alloc)) :
    Retries o timeout env numChunks n c := by
  refine ⟨1, (c', alloc), ?_⟩
  rw [retry, h]

/-- A turn that finds nothing is the last one, or the loop goes on. -/
theorem retries_none {c' : Client} (h : c.turn o env numChunks n = .returned (c', none)) :
    Retries o timeout env numChunks n c ↔
      env.bTimedOut timeout n = true ∨ Retries o timeout env numChunks (n + 1) c' := by
  constructor
  · rintro ⟨fuel, r, hr⟩
    cases fuel with
    | zero => cases hr
    | succ fuel =>
        rw [retry, h] at hr
        dsimp only at hr
        split at hr
        · exact .inl ‹_›
        · exact .inr ⟨fuel, r, hr⟩
  · intro hor
    by_cases hout : env.bTimedOut timeout n = true
    · refine ⟨1, (c', invalidAllocation), ?_⟩
      rw [retry, h]
      exact if_pos hout
    · obtain ⟨fuel, r, hr⟩ := hor.resolve_left hout
      refine ⟨fuel + 1, r, ?_⟩
      rw [retry, h]
      exact (if_neg hout).trans hr

theorem Environment.Advances.timedOut (h : env.Advances) (timeout : Nat) :
    ∃ N, ∀ n ≥ N, env.bTimedOut timeout n = true := by
  obtain ⟨N, hN⟩ := h (env.timeoutStart + timeout * 1000)
  refine ⟨N, fun n hn => decide_eq_true ?_⟩
  have hticks := hN n hn
  rw [Nat.le_div_iff_mul_le (by decide)]
  omega

/-- Behind the turn that tries to add a segment the loop ends by the timeout. -/
theorem retries_late (h : env.Advances) (hn : kAttemptIncrease < n) :
    Retries o timeout env numChunks n c := by
  obtain ⟨N, hN⟩ := h.timedOut timeout
  obtain ⟨left, hleft⟩ : ∃ left, left = N - n := ⟨_, rfl⟩
  induction left generalizing n c with
  | zero =>
      by_cases hfinds : c.Finds numChunks (env.garbage n)
      · obtain ⟨alloc, halloc⟩ := turn_finds (o := o) hfinds
        exact retries_some halloc
      · rw [retries_none (turn_other hfinds hn.ne')]
        exact .inl (hN n (by omega))
  | succ left ih =>
      by_cases hfinds : c.Finds numChunks (env.garbage n)
      · obtain ⟨alloc, halloc⟩ := turn_finds (o := o) hfinds
        exact retries_some halloc
      · rw [retries_none (turn_other hfinds hn.ne')]
        exact .inr (ih (by omega) (by omega))

theorem retries_other (hn : n ≠ kAttemptIncrease) :
    Retries o timeout env numChunks n c ↔
      c.Finds numChunks (env.garbage n) ∨ env.bTimedOut timeout n = true ∨
        Retries o timeout env numChunks (n + 1) (c.freeDeallocations o (env.words n)) := by
  by_cases hfinds : c.Finds numChunks (env.garbage n)
  · obtain ⟨alloc, halloc⟩ := turn_finds (o := o) hfinds
    exact iff_of_true (retries_some halloc) (.inl hfinds)
  · rw [or_iff_right hfinds]
    exact retries_none (turn_other hfinds hn)

theorem retries_growth (h : env.Advances) :
    Retries o timeout env numChunks kAttemptIncrease c ↔
      c.Finds numChunks (env.garbage kAttemptIncrease) ∨
        ¬ o.chunkSize <
          (c.freeDeallocations o (env.words kAttemptIncrease)).newSegmentSize o 0 ∨
        (env.maps 0).succeeds = true := by
  by_cases hfinds : c.Finds numChunks (env.garbage kAttemptIncrease)
  · obtain ⟨alloc, halloc⟩ := turn_finds (o := o) hfinds
    exact iff_of_true (retries_some halloc) (.inl hfinds)
  · rw [or_iff_right hfinds]
    by_cases hroom : o.chunkSize <
        (c.freeDeallocations o (env.words kAttemptIncrease)).newSegmentSize o 0
    · rw [or_iff_right (not_not.mpr hroom)]
      constructor
      · rintro ⟨fuel, r, hr⟩
        by_contra hmaps
        cases fuel with
        | zero => cases hr
        | succ fuel =>
            rw [retry, turn_terminated hfinds hroom hmaps] at hr
            cases hr
      · intro hmaps
        obtain ⟨c', alloc, hgrown⟩ := turn_grows hfinds hroom hmaps
        exact retries_some hgrown
    · refine iff_of_true ?_ (.inl hroom)
      rw [retries_none (turn_full hfinds hroom)]
      exact .inr (retries_late h (Nat.lt_succ_self _))

/-- Nothing is found in the turns up to the one that tries to add a segment, and there is room for
one. -/
structure NeedsSegment (o : Options) (timeout : Nat) (env : Environment) (numChunks : Nat)
    (c : Client) : Prop where
  searches (n : Nat) : n ≤ kAttemptIncrease →
    ¬ (c.freed o env n).Finds numChunks (env.garbage n)
  inTime (n : Nat) : n < kAttemptIncrease → ¬ env.bTimedOut timeout n = true
  room : o.chunkSize < (c.freed o env (kAttemptIncrease + 1)).newSegmentSize o 0

/-- The loop ends, unless a segment is needed and cannot be mapped. -/
theorem retries_iff (h : env.Advances) :
    Retries o timeout env numChunks 0 c ↔
      (NeedsSegment o timeout env numChunks c → (env.maps 0).succeeds = true) := by
  have hturns : Retries o timeout env numChunks 0 c ↔
      (c.freed o env 0).Finds numChunks (env.garbage 0) ∨ env.bTimedOut timeout 0 = true ∨
      (c.freed o env 1).Finds numChunks (env.garbage 1) ∨ env.bTimedOut timeout 1 = true ∨
      (c.freed o env 2).Finds numChunks (env.garbage 2) ∨
      ¬ o.chunkSize < (c.freed o env 3).newSegmentSize o 0 ∨ (env.maps 0).succeeds = true := by
    rw [retries_other (by decide), retries_other (by decide)]
    exact or_congr_right (or_congr_right (or_congr_right (or_congr_right (retries_growth h))))
  rw [hturns]
  constructor
  · rintro hor ⟨hsearches, hinTime, hroom⟩
    have h0 := hsearches 0 (by decide)
    have h1 := hsearches 1 (by decide)
    have h2 := hsearches 2 (by decide)
    have ht0 := hinTime 0 (by decide)
    have ht1 := hinTime 1 (by decide)
    rcases hor with hf | ht | hf | ht | hf | hr | hm
    · exact absurd hf h0
    · exact absurd ht ht0
    · exact absurd hf h1
    · exact absurd ht ht1
    · exact absurd hf h2
    · exact absurd hroom hr
    · exact hm
  · intro hneeds
    by_contra hnot
    simp only [not_or, not_not] at hnot
    obtain ⟨h0, ht0, h1, ht1, h2, hroom, hm⟩ := hnot
    refine hm (hneeds ⟨fun n hn => ?_, fun n hn => ?_, hroom⟩)
    · obtain rfl | rfl | rfl : n = 0 ∨ n = 1 ∨ n = 2 := by
        unfold kAttemptIncrease at hn
        omega
      · exact h0
      · exact h1
      · exact h2
    · obtain rfl | rfl : n = 0 ∨ n = 1 := by
        unfold kAttemptIncrease at hn
        omega
      · exact ht0
      · exact ht1

theorem findAllocation_iff (h : env.Advances) :
    (∃ fuel r, findAllocation o timeout env fuel c numChunks = some (.returned r)) ↔
      (c.m_allocations ≠ [] → NeedsSegment o timeout env numChunks c →
        (env.maps 0).succeeds = true) := by
  unfold findAllocation
  split
  · rename_i hnone
    exact iff_of_true ⟨0, _, rfl⟩ fun hne => absurd hnone hne
  · rename_i hsome
    rw [← retries_iff h]
    refine ⟨fun hr _ => hr, fun hr => hr ?_⟩
    rw [hsome]
    exact List.cons_ne_nil _ _

end

/-! ### The call returns -/

/-- **`allocate` returns** for every size, whatever it sees, if and only if the segment size, or one
that it is doubled to, is large enough, and a segment that it needs can be mapped. -/
theorem allocate_returns_iff (o : Options) (timeout : Nat) (env : Environment) (c : Client)
    (size : Nat) (h : env.Advances) :
    c.Returns o timeout env size ↔
      (size ≤ c.m_defaultSegmentSize ∨ ∃ k, size ≤ c.m_defaultSegmentSize * 2 ^ k % 2 ^ 32) ∧
      ∀ fuel newDefault, growSegmentSize size fuel c.m_defaultSegmentSize = some newDefault →
        c.m_allocations ≠ [] →
        NeedsSegment o timeout env (numChunksOf o size) (c.withDefault newDefault) →
        (env.maps 0).succeeds = true := by
  rw [← growSegmentSize_ends_iff]
  constructor
  · rintro ⟨doublings, retries, r, hr⟩
    obtain ⟨newDefault, hgrow, hfind⟩ := Option.bind_eq_some_iff.mp hr
    obtain ⟨found, hfound, hreturned⟩ := Option.map_eq_some_iff.mp hfind
    refine ⟨⟨doublings, newDefault, hgrow⟩, fun fuel newDefault' hgrow' => ?_⟩
    obtain rfl := growSegmentSize_unique hgrow hgrow'
    cases found with
    | returned p => exact (findAllocation_iff h).mp ⟨retries, p, hfound⟩
    | threw errMsg => cases hreturned
    | terminated => cases hreturned
  · rintro ⟨⟨doublings, newDefault, hgrow⟩, hmaps⟩
    obtain ⟨retries, p, hfound⟩ :=
      (findAllocation_iff (c := c.withDefault newDefault) h).mpr (hmaps doublings newDefault hgrow)
    refine ⟨doublings, retries, p.1.finish o (numChunksOf o size) p.2, ?_⟩
    rw [Client.allocate, hgrow, Option.bind_some, hfound]
    rfl

/-- A heap of one segment of four chunks, all of them of one allocation. -/
def busyClient : Client where
  m_defaultSegmentSize := 16384
  m_nChunks := 4
  m_cache := AList.singleton 0 0
  m_nextUid := 1
  m_allocations := [⟨0, 3⟩]
  m_sizeAllocated := 16384
  m_segments := [⟨16384, 0, 4⟩]

/-- A clock of a tick a turn, a server that gives nothing back, and a way to map memory. -/
def ticking (mapping : Mapping) : Environment where
  timeoutStart := 0
  ticks := fun n => n
  words := fun _ _ => .Allocated
  garbage := fun _ => 0
  maps := fun _ => mapping

theorem ticking_advances (mapping : Mapping) : (ticking mapping).Advances :=
  fun b => ⟨b, fun _ hn => hn⟩

/-- Six chunks need a segment of twice the size. -/
theorem busyClient_needsSegment :
    NeedsSegment ⟨4096, 16384⟩ 10 (ticking ⟨true, false⟩) 6 (busyClient.withDefault 32768) where
  searches n hn := by
    unfold Client.Finds
    obtain rfl | rfl | rfl : n = 0 ∨ n = 1 ∨ n = 2 := by
      unfold kAttemptIncrease at hn
      omega
    · decide
    · decide
    · decide
  inTime n hn := by
    obtain rfl | rfl : n = 0 ∨ n = 1 := by
      unfold kAttemptIncrease at hn
      omega
    · decide
    · decide
  room := by decide

/-- Six chunks of a full heap: the segment size is doubled, the search fails three times, and the
call returns if the segment that it then adds can be mapped. -/
theorem allocate_returns_full :
    busyClient.Returns ⟨4096, 16384⟩ 10 (ticking ⟨true, true⟩) 24576 ∧
    ¬ busyClient.Returns ⟨4096, 16384⟩ 10 (ticking ⟨true, false⟩) 24576 := by
  have hiff := fun mapping =>
    allocate_returns_iff ⟨4096, 16384⟩ 10 (ticking mapping) busyClient 24576
      (ticking_advances mapping)
  constructor
  · exact (hiff ⟨true, true⟩).mpr ⟨.inr ⟨1, by decide⟩, fun _ _ _ _ _ => rfl⟩
  · intro hreturns
    have hmaps := ((hiff ⟨true, false⟩).mp hreturns).2 2 32768 rfl (List.cons_ne_nil _ _)
      busyClient_needsSegment
    cases hmaps

/-- Segments of 256 MB, no allocation yet. -/
def client256 : Client where
  m_defaultSegmentSize := 2 ^ 28
  m_nChunks := 0
  m_cache := ∅
  m_nextUid := 0
  m_allocations := []
  m_sizeAllocated := 0
  m_segments := []

theorem doubled_le (k : Nat) : 2 ^ 28 * 2 ^ k % 2 ^ 32 ≤ 2 ^ 31 := by
  rcases Nat.lt_or_ge k 4 with hk | hk
  · have hpow : 2 ^ k ≤ 2 ^ 3 := Nat.pow_le_pow_right (by decide) (Nat.le_of_lt_succ hk)
    exact (Nat.mod_le _ _).trans (Nat.mul_le_mul_left (2 ^ 28) hpow)
  · obtain ⟨j, rfl⟩ := Nat.exists_eq_add_of_le hk
    rw [Nat.pow_add, ← Nat.mul_assoc, show 2 ^ 28 * 2 ^ 4 = 2 ^ 32 from rfl, Nat.mul_mod_right]
    exact Nat.zero_le _

/-- A byte more than 2 GB: the segment size becomes 0 and is doubled for ever. -/
theorem doubled_for_ever :
    ¬ ∃ o timeout env, client256.Returns o timeout env (2 ^ 31 + 1) := by
  rintro ⟨o, timeout, env, doublings, retries, r, hr⟩
  obtain ⟨newDefault, hgrow, -⟩ := Option.bind_eq_some_iff.mp hr
  rcases (growSegmentSize_ends_iff _ _).mp ⟨doublings, newDefault, hgrow⟩ with hle | ⟨k, hk⟩
  · exact absurd hle (by decide)
  · have hdoubled := doubled_le k
    exact absurd (hk.trans hdoubled) (by decide)

end RemixBridge.SharedHeap
