import RemixBridge.Heap.Allocations

/-!
# Heap — Completeness

Whether `findAllocation` finds the chunks that there are.  It tries the first gap between the
allocations that is long enough, and then what lies behind the last of them; neither looks at where
the segments end before it has been chosen.

* `findGap_eq`: the gap that is tried is the first one.
* `valid_create_iff`: what is tried is taken exactly when it lies in one segment.
* `search_complete`: in every run a call that asks for free chunks is given them, exactly when those
  it tries lie in one segment and neither its timeout nor the growth comes first.
-/

namespace RemixBridge.SharedHeap
open Runs

/-! ### What there is, and what is tried -/

/-- The chunks `p, …, p + n - 1` are of one segment. -/
def Client.InSegment (c : Client) (p n : Nat) : Prop :=
  ∃ seg ∈ c.m_segments, seg.baseChunkId ≤ p ∧ p + n ≤ seg.baseChunkId + seg.nChunks

/-- None of the chunks `p, …, p + n - 1` is of an allocation. -/
def FreeAt (allocs : List Allocation) (p n : Nat) : Prop :=
  ∀ a ∈ allocs, a.final < p ∨ p + n ≤ a.first

/-- Some segment has `n` free chunks one after the other. -/
def Client.HasStrip (c : Client) (n : Nat) : Prop :=
  ∃ p, c.InSegment p n ∧ FreeAt c.m_allocations p n

/-- From `lo` on, `n` free chunks start at `p`, at the beginning of what is free and before an
allocation. -/
def GapFrom (lo : Nat) (allocs : List Allocation) (n p : Nat) : Prop :=
  (p = lo ∨ ∃ a ∈ allocs, a.final + 1 = p) ∧ FreeAt allocs p n ∧ ∃ b ∈ allocs, p + n ≤ b.first

/-- The first gap of at least `n` chunks starts at `p`. -/
def FirstGap (allocs : List Allocation) (n p : Nat) : Prop :=
  GapFrom 0 allocs n p ∧ ∀ q, GapFrom 0 allocs n q → p ≤ q

/-- The chunk behind the last allocation, without which it is behind `garbage`. -/
def Client.behindLast (c : Client) (garbage : Nat) : Nat :=
  ((c.m_allocations.getLast?.map (·.final)).getD garbage + 1) % 2 ^ 32

/-- What the loop tries lies in one segment: the first gap, or the chunks behind the last
allocation. -/
def Client.Reaches (c : Client) (garbage n : Nat) : Prop :=
  0 < n ∧ ((∃ p, FirstGap c.m_allocations n p ∧ c.InSegment p n) ∨
    c.InSegment (c.behindLast garbage) n)

/-- The chunks that `size` bytes take. -/
def numChunksOf (o : Options) (size : Nat) : Nat :=
  if size % o.chunkSize = 0 then size / o.chunkSize else size / o.chunkSize + 1

/-- The step answers a call for `n` chunks: it is the choice of the first allocation of all, a
search, the end of a call that has timed out, or the growth of the heap. -/
inductive Answers (o : Options) (s : State) : Action → Nat → Prop
  | first {size : Nat} (hidle : s.control = .idle) (hnone : s.client.m_allocations = []) :
      Answers o s (.allocate size) (numChunksOf o size)
  | search {n k garbage : Nat} (hsearch : s.control = .searching n k) :
      Answers o s (.search garbage) n
  | timeout {n k : Nat} (hwaiting : s.control = .waiting n k) : Answers o s (.wait true) n
  | grow {n k failures : Nat} (hgrowing : s.control = .growing n k)
      (hroom : o.chunkSize < s.client.newSegmentSize o failures) :
      Answers o s (.addNewHeapSegment failures) n

/-- `n` free chunks of one segment have been handed out, and no segment has been added. -/
def Granted (s s' : State) (n : Nat) : Prop :=
  ∃ alloc : Allocation, alloc.count = n ∧ s.client.isValidAllocation alloc = true ∧
    s.client.InSegment alloc.first n ∧ FreeAt s.client.m_allocations alloc.first n ∧
    s'.client.m_allocations = alloc.insert s.client.m_allocations ∧
    s'.client.m_segments = s.client.m_segments ∧ s'.control = .marking alloc.first

/-- A step that answers a call grants it if there is a strip. -/
def Complete (o : Options) (s : State) (a : Action) : Prop :=
  ∀ s' n, step o s a = some s' → Answers o s a n → s.client.HasStrip n → Granted s s' n

/-- When a step that answers a call can grant it: the first allocation lies at the start of the
first segment, a search reaches what it tries, and calls with a strip do not come to their timeout
or to the growth. -/
def CanGrant (o : Options) (s : State) (a : Action) : Prop :=
  ∀ s' n, step o s a = some s' → Answers o s a n → s.client.HasStrip n →
    match a with
    | .allocate _      => 0 < n ∧ s.client.InSegment 0 n
    | .search garbage  => s.client.Reaches garbage n
    | _                => False

/-! ### The first gap -/

section gap

variable {allocs : List Allocation} {n p : Nat}

/-- Past an allocation the gaps are those from its end on. -/
theorem gapFrom_cons {a : Allocation} {lo q : Nat} (hn : 0 < n)
    (hord : Extent.Ordered (a :: allocs)) (hlo : lo ≤ a.first)
    (hroom : ¬ (lo < a.first ∧ n ≤ a.first - lo)) :
    GapFrom lo (a :: allocs) n q ↔ GapFrom (a.final + 1) allocs n q := by
  obtain ⟨ha, -⟩ := List.pairwise_cons.mp hord.before
  have hna := hord.nonempty a List.mem_cons_self
  constructor
  · rintro ⟨hstart, hfree, b, hb, hqb⟩
    have hqa := hfree a List.mem_cons_self
    have hpast : a.final < q := by
      rcases hqa with hlt | hle
      · exact hlt
      · rcases hstart with rfl | ⟨a', ha', rfl⟩
        · omega
        · rcases List.mem_cons.mp ha' with rfl | ha'
          · exact Nat.lt_succ_self _
          · have haa' := ha a' ha'
            have hna' := hord.nonempty a' (List.mem_cons_of_mem _ ha')
            omega
    refine ⟨?_, fun j hj => hfree j (List.mem_cons_of_mem _ hj), ?_⟩
    · rcases hstart with rfl | ⟨a', ha', rfl⟩
      · omega
      · rcases List.mem_cons.mp ha' with rfl | ha'
        · exact .inl rfl
        · exact .inr ⟨a', ha', rfl⟩
    · rcases List.mem_cons.mp hb with rfl | hb
      · omega
      · exact ⟨b, hb, hqb⟩
  · rintro ⟨hstart, hfree, b, hb, hqb⟩
    have hpast : a.final < q := by
      rcases hstart with rfl | ⟨a', ha', rfl⟩
      · exact Nat.lt_succ_self _
      · have haa' := ha a' ha'
        have hna' := hord.nonempty a' (List.mem_cons_of_mem _ ha')
        omega
    refine ⟨?_, fun j hj => ?_, b, List.mem_cons_of_mem _ hb, hqb⟩
    · rcases hstart with rfl | ⟨a', ha', rfl⟩
      · exact .inr ⟨a, List.mem_cons_self, rfl⟩
      · exact .inr ⟨a', List.mem_cons_of_mem _ ha', rfl⟩
    · rcases List.mem_cons.mp hj with rfl | hj
      · exact .inl hpast
      · exact hfree j hj

/-- **The gap that is tried.**  It is the first one from where the loop has come to, if there is
one. -/
theorem findGap_eq {prev lo : Nat} (hn : 0 < n) (hord : Extent.Ordered allocs)
    (hprev : (prev + 1) % 2 ^ 32 = lo) (hlo : ∀ a ∈ allocs, lo ≤ a.first)
    (hsmall : ∀ a ∈ allocs, a.final < 2 ^ 31) :
    (∃ p, GapFrom lo allocs n p ∧ (∀ q, GapFrom lo allocs n q → p ≤ q) ∧
      Client.findGap n prev allocs = createAllocation p n) ∨
    ((∀ q, ¬ GapFrom lo allocs n q) ∧ Client.findGap n prev allocs = invalidAllocation) := by
  induction allocs generalizing prev lo with
  | nil =>
      refine .inr ⟨?_, rfl⟩
      rintro q ⟨-, -, b, hb, -⟩
      cases hb
  | cons a allocs ih =>
      obtain ⟨ha, hbefore⟩ := List.pairwise_cons.mp hord.before
      have hrest : Extent.Ordered allocs :=
        ⟨fun m hm => hord.nonempty m (List.mem_cons_of_mem _ hm), hbefore⟩
      have hna := hord.nonempty a List.mem_cons_self
      have hsa := hsmall a List.mem_cons_self
      have hloa := hlo a List.mem_cons_self
      simp only [Client.findGap, hprev]
      split
      · next hroom =>
          refine .inl ⟨lo, ⟨.inl rfl, fun j hj => ?_, a, List.mem_cons_self, by omega⟩,
            fun q hq => ?_, rfl⟩
          · rcases List.mem_cons.mp hj with rfl | hj
            · exact .inr (by omega)
            · have haj := ha j hj
              exact .inr (by omega)
          · obtain ⟨rfl | ⟨a', ha', rfl⟩, -⟩ := hq
            · exact Nat.le_refl q
            · have hna' := hord.nonempty a' ha'
              have hloa' := hlo a' ha'
              omega
      · next hroom =>
          have hnext : (a.final + 1) % 2 ^ 32 = a.final + 1 := Nat.mod_eq_of_lt (by omega)
          have hsame (q : Nat) := gapFrom_cons (q := q) hn hord hloa hroom
          simp only [hsame]
          exact ih hrest hnext ha fun j hj => hsmall j (List.mem_cons_of_mem _ hj)

end gap

/-! ### What is tried, and what is taken -/

section tries

variable {o : Options} {c : Client} {n p : Nat}

theorem Client.Shape.inSegment_le (h : c.Shape o) (hin : c.InSegment p n) : p + n ≤ 2 ^ 31 := by
  obtain ⟨seg, hseg, -, hle⟩ := hin
  exact Nat.le_trans hle (Nat.le_trans (h.laid.bounds hseg).2 h.nChunks_small)

theorem createAllocation_final (hn : 0 < n) (hle : p + n ≤ 2 ^ 31) :
    (createAllocation p n).final = p + n - 1 := by
  simp only [createAllocation]
  omega

/-- **What is taken.**  Chunks that are tried are taken exactly when they are of one segment. -/
theorem valid_create_iff (h : c.Shape o) (hn : n < 2 ^ 32) :
    c.isValidAllocation (createAllocation p n) = true ↔ 0 < n ∧ c.InSegment p n := by
  constructor
  · intro hv
    obtain ⟨hle, hlt⟩ := h.valid_small hv
    obtain ⟨hpos, hfinal, -⟩ := createAllocation_valid hn hle hlt
    obtain ⟨seg, hseg, hfirst, hlast⟩ := h.valid_inside hv
    refine ⟨hpos, seg, hseg, hfirst.1, ?_⟩
    have hlast := hlast.2
    rw [hfinal] at hlast
    omega
  · rintro ⟨hpos, hin⟩
    have hfinal := createAllocation_final hpos (h.inSegment_le hin)
    obtain ⟨seg, hseg, hlo, hhi⟩ := hin
    have hbounds := h.laid.bounds hseg
    obtain ⟨i, hi⟩ := List.getElem?_of_mem hseg
    -- every chunk of the strip is resolved to this segment
    have hresolve {x : Nat} (hx : seg.Contains x) : chunkIdToSegId c.m_segments x = i := by
      have hxlt : x < c.m_nChunks := Nat.lt_of_lt_of_le hx.2 hbounds.2
      obtain ⟨y, hy, hyc⟩ := h.laid.chunkIdToSegId (Nat.zero_le x) hxlt
      exact h.laid.unique hy hyc hi hx
    have hfirst : seg.Contains p := ⟨hlo, by omega⟩
    have hlast : seg.Contains (p + n - 1) := ⟨by omega, by omega⟩
    rw [valid_iff, hfinal]
    refine ⟨?_, ?_, ?_, ?_⟩
    · exact Nat.lt_of_lt_of_le hfirst.2 hbounds.2
    · exact Nat.lt_of_lt_of_le hlast.2 hbounds.2
    · show p ≤ p + n - 1
      omega
    · exact (hresolve hfirst).trans (hresolve hlast).symm

theorem not_valid_invalid (h : c.Shape o) : c.isValidAllocation invalidAllocation = false := by
  refine Bool.eq_false_iff.mpr fun hv => ?_
  have hlt := (h.valid_small hv).2
  have hfinal : invalidAllocation.final = 2 ^ 32 - 1 := rfl
  omega

/-- The gap in the middle is the first one of all. -/
theorem findFreeInMiddle_eq (h : c.Shape o) (hpos : 0 < n) :
    (∃ p, FirstGap c.m_allocations n p ∧ c.findFreeInMiddle n = createAllocation p n) ∨
      ((∀ p, ¬ FirstGap c.m_allocations n p) ∧ c.findFreeInMiddle n = invalidAllocation) := by
  have hzero : (kInvalidId + 1) % 2 ^ 32 = 0 := rfl
  rcases findGap_eq hpos h.ordered hzero (fun a _ => Nat.zero_le a.first)
    (fun a ha => h.final_small ha) with ⟨p, hgap, hmin, heq⟩ | ⟨hnone, heq⟩
  · exact .inl ⟨p, ⟨hgap, hmin⟩, heq⟩
  · exact .inr ⟨fun p hp => hnone p hp.1, heq⟩

theorem pos_of_valid_middle (h : c.Shape o) (hn : n < 2 ^ 32)
    (hv : c.isValidAllocation (c.findFreeInMiddle n) = true) : 0 < n := by
  have hcount := (findFreeInMiddle_free h hn hv).2
  rw [Extent.count] at hcount
  omega

theorem findFreeInMiddle_create (h : c.Shape o) (hn : n < 2 ^ 32)
    (hv : c.isValidAllocation (c.findFreeInMiddle n) = true) :
    ∃ p, c.findFreeInMiddle n = createAllocation p n := by
  rcases findFreeInMiddle_eq h (pos_of_valid_middle h hn hv) with ⟨p, -, heq⟩ | ⟨-, heq⟩
  · exact ⟨p, heq⟩
  · rw [heq, not_valid_invalid h] at hv
    cases hv

/-- The gap in the middle is taken exactly when the first one is of one segment. -/
theorem valid_findFreeInMiddle_iff (h : c.Shape o) (hpos : 0 < n) (hn : n < 2 ^ 32) :
    c.isValidAllocation (c.findFreeInMiddle n) = true ↔
      ∃ p, FirstGap c.m_allocations n p ∧ c.InSegment p n := by
  rcases findFreeInMiddle_eq h hpos with ⟨p, hfirst, heq⟩ | ⟨hnone, heq⟩
  · rw [heq, valid_create_iff h hn, and_iff_right hpos]
    constructor
    · intro hin
      exact ⟨p, hfirst, hin⟩
    · rintro ⟨q, hq, hin⟩
      rwa [Nat.le_antisymm (hfirst.2 q hq.1) (hq.2 p hfirst.1)]
  · rw [heq, not_valid_invalid h]
    refine iff_of_false Bool.false_ne_true ?_
    rintro ⟨q, hq, -⟩
    exact hnone q hq

/-- The search takes something exactly when it reaches what it tries. -/
theorem reaches_iff (h : c.Shape o) (hn : n < 2 ^ 32) (garbage : Nat) :
    (c.isValidAllocation (c.findFreeInMiddle n) = true ∨
      c.isValidAllocation (c.findFreeOnEnd n garbage) = true) ↔ c.Reaches garbage n := by
  have hend : c.isValidAllocation (c.findFreeOnEnd n garbage) = true ↔
      0 < n ∧ c.InSegment (c.behindLast garbage) n := valid_create_iff h hn
  rw [hend, Client.Reaches]
  rcases Nat.eq_zero_or_pos n with rfl | hpos
  · have hzero : ¬ c.isValidAllocation (c.findFreeInMiddle 0) = true := fun hv =>
      Nat.lt_irrefl 0 (pos_of_valid_middle h hn hv)
    simp [hzero]
  · rw [valid_findFreeInMiddle_iff h hpos hn]
    simp [hpos]

end tries

/-! ### Steps -/

/-- The chunks that the call in progress asks for. -/
def Control.asked : Control → Option Nat
  | .searching n _     => some n
  | .growing n _       => some n
  | .waiting n _       => some n
  | .freeing _ _ retry => retry.map (·.1)
  | _                  => none

/-- What every step keeps of the client. -/
structure Sound (o : Options) (s : State) : Prop where
  shape : s.client.Shape o
  asked : ∀ n ∈ s.control.asked, n < 2 ^ 32

section steps

variable {o : Options} {s s' : State} {a : Action} {n : Nat} {alloc : Allocation}

theorem shape_setDefault (h : s.client.Shape o) (newDefault : Nat) :
    (s.setDefaultSegmentSize newDefault).client.Shape o :=
  ⟨h.laid, h.cut, h.heap, h.ordered, h.inside⟩

theorem sound_finish (h : s.client.Shape o) (hfree : s.client.isValidAllocation alloc = true →
    Extent.Free s.client.m_allocations alloc) : Sound o (s.finish o n alloc) := by
  unfold State.finish
  split
  · next hv => exact ⟨h.record hv (hfree hv), nofun⟩
  · exact ⟨h, nofun⟩

theorem shape_freeAll {ids : List Nat} (h : s.client.Shape o) :
    (State.freeAll o ids s).client.Shape o := by
  induction ids generalizing s with
  | nil => exact h
  | cons id ids ih => exact ih (h.free id)

/-- **The step lemma.** -/
theorem sound_step (hs : step o s a = some s') (h : Sound o s) : Sound o s' := by
  obtain ⟨hshape, hasked⟩ := h
  cases move_of_step hs with
  | @allocateFirst size numChunks newDefault hidle hnone hnum =>
      have hset := shape_setDefault hshape newDefault
      refine sound_finish hset fun _ j hj => ?_
      have hmem : j ∈ s.client.m_allocations := hj
      rw [hnone] at hmem
      cases hmem
  | allocate hidle hnum =>
      refine ⟨shape_setDefault hshape _, ?_⟩
      rintro n ⟨⟩
      exact hnum
  | found hsearch hv halloc =>
      have hnum := hasked _ (by rw [hsearch]; rfl)
      refine sound_finish hshape fun _ => ?_
      rcases halloc with rfl | rfl
      · exact (findFreeInMiddle_free hshape hnum hv).1
      · exact (findFreeOnEnd_free hshape hnum hv).1
  | notFound hsearch =>
      refine ⟨hshape, ?_⟩
      rintro n ⟨⟩
      exact hasked _ (by rw [hsearch]; rfl)
  | freeDeallocations => exact ⟨hshape, nofun⟩
  | deallocated hfreeing => exact ⟨hshape, fun n hn => hasked n (by rw [hfreeing]; exact hn)⟩
  | notDeallocated hfreeing => exact ⟨hshape, fun n hn => hasked n (by rw [hfreeing]; exact hn)⟩
  | reclaim hfreeing hnext =>
      refine ⟨shape_freeAll hshape, fun n hn => hasked n ?_⟩
      rw [hfreeing]
      rcases hnext with rfl | ⟨m, k, rfl, rfl | rfl⟩
      · cases hn
      · exact hn
      · exact hn
  | addSegment hidle => exact ⟨hshape.addSegment _, hasked⟩
  | noSegment => exact ⟨hshape, hasked⟩
  | @grow failures numChunks k hgrowing =>
      have hnum := hasked numChunks (by rw [hgrowing]; rfl)
      have hadded := hshape.addSegment failures
      exact sound_finish (s := s.addSegment o (s.client.newSegmentSize o failures)) hadded
        fun hv => (newSegment_free hshape hnum hv hadded).1
  | noGrow hgrowing => exact ⟨hshape, fun n hn => hasked n (by rw [hgrowing]; exact hn)⟩
  | timeout => exact ⟨hshape, nofun⟩
  | retry hwaiting => exact ⟨hshape, fun n hn => hasked n (by rw [hwaiting]; exact hn)⟩
  | mark => exact ⟨hshape, nofun⟩
  | deallocate => exact ⟨hshape, hasked⟩
  | unlock => exact ⟨hshape, hasked⟩
  | serve =>
      rename_i c queue hqueue
      cases c <;> exact ⟨hshape, hasked⟩

theorem sound_start {failures : Nat} (h : start o failures = some s) : Sound o s := by
  unfold start at h
  split at h
  · next hroom =>
      exact sound_step h ⟨(tables_empty hroom).tables.client.shape, nofun⟩
  · cases h

/-! ### Answers -/

theorem freeAt_of_free {p : Nat} (hpos : 0 < n) (hle : p + n ≤ 2 ^ 31)
    (hfree : Extent.Free s.client.m_allocations (createAllocation p n)) :
    FreeAt s.client.m_allocations p n := by
  intro j hj
  rcases hfree j hj with hd | hd
  · exact .inl hd
  · rw [createAllocation_final hpos hle] at hd
    exact .inr (by omega)

/-- What is tried and taken has been granted. -/
theorem granted_finish {p : Nat} (h : s.client.Shape o) (hn : n < 2 ^ 32)
    (hv : s.client.isValidAllocation (createAllocation p n) = true)
    (hfree : Extent.Free s.client.m_allocations (createAllocation p n)) :
    Granted s (s.finish o n (createAllocation p n)) n := by
  obtain ⟨hpos, hin⟩ := (valid_create_iff h hn).mp hv
  have hle := h.inSegment_le hin
  have hcount : (createAllocation p n).count = n := by
    have hfirst : (createAllocation p n).first = p := rfl
    rw [Extent.count, createAllocation_final hpos hle, hfirst]
    omega
  have hat : FreeAt s.client.m_allocations p n := freeAt_of_free hpos hle hfree
  refine ⟨createAllocation p n, hcount, hv, hin, hat, ?_⟩
  unfold State.finish
  rw [if_pos hv]
  exact ⟨rfl, rfl, rfl⟩

/-- What is not marked has not been granted. -/
theorem not_granted (h : ∀ firstChunk, s'.control ≠ .marking firstChunk) : ¬ Granted s s' n := by
  rintro ⟨alloc, -, -, -, -, -, -, hmarking⟩
  exact h _ hmarking

theorem finish_of_not_valid (hv : ¬ s.client.isValidAllocation alloc = true) :
    s.finish o n alloc = s.go .idle := by
  unfold State.finish
  rw [if_neg hv]

/-- The first allocation of all. -/
theorem granted_first_iff {size : Nat} (h : Sound o s) (hidle : s.control = .idle)
    (hnone : s.client.m_allocations = []) (hs : step o s (.allocate size) = some s') :
    Granted s s' (numChunksOf o size) ↔
      0 < numChunksOf o size ∧ s.client.InSegment 0 (numChunksOf o size) := by
  simp only [step, hidle] at hs
  split at hs
  · next hsize =>
      obtain ⟨newDefault, -, rfl⟩ := Option.map_eq_some_iff.mp hs
      rw [hnone]
      have hn : numChunksOf o size < 2 ^ 32 := numChunks_lt hsize
      have hshape := shape_setDefault h.shape newDefault
      have hfree : Extent.Free (s.setDefaultSegmentSize newDefault).client.m_allocations
          (createAllocation 0 (numChunksOf o size)) := fun j hj => by
        have hmem : j ∈ s.client.m_allocations := hj
        rw [hnone] at hmem
        cases hmem
      have hiff := valid_create_iff (p := 0) hshape hn
      constructor
      · intro hgranted
        by_contra hno
        have hinvalid := fun hv => hno (hiff.mp hv)
        refine not_granted (s := s) (fun f => ?_) hgranted
        show ((s.setDefaultSegmentSize newDefault).finish o (numChunksOf o size)
          (createAllocation 0 (numChunksOf o size))).control ≠ _
        rw [finish_of_not_valid hinvalid]
        exact fun hmark => by cases hmark
      · intro hin
        exact granted_finish hshape hn (hiff.mpr hin) hfree
  · cases hs

/-- A search. -/
theorem granted_search_iff {garbage k : Nat} (h : Sound o s)
    (hsearch : s.control = .searching n k) (hs : step o s (.search garbage) = some s') :
    Granted s s' n ↔ s.client.Reaches garbage n := by
  have hn : n < 2 ^ 32 := h.asked n (by rw [hsearch]; rfl)
  rw [← reaches_iff h.shape hn garbage]
  simp only [step, hsearch] at hs
  split at hs
  · next hv =>
      cases hs
      have hfree := (findFreeInMiddle_free h.shape hn hv).1
      obtain ⟨p, hp⟩ := findFreeInMiddle_create h.shape hn hv
      rw [hp] at hv hfree ⊢
      exact iff_of_true (granted_finish h.shape hn hv hfree) (.inl hv)
  · next hmiddle =>
      split at hs
      · next hv =>
          cases hs
          have hfree := (findFreeOnEnd_free h.shape hn hv).1
          exact iff_of_true (granted_finish h.shape hn hv hfree) (.inr hv)
      · next hend =>
          cases hs
          exact iff_of_false (not_granted fun _ hmark => by cases hmark)
            (not_or.mpr ⟨hmiddle, hend⟩)

/-- **One step.**  It grants what it is asked for exactly when it can. -/
theorem complete_iff (h : Sound o s) (a : Action) : Complete o s a ↔ CanGrant o s a := by
  refine forall₂_congr fun s' n => forall₃_congr fun hs hanswers _ => ?_
  cases hanswers with
  | first hidle hnone => exact granted_first_iff h hidle hnone hs
  | search hsearch => exact granted_search_iff h hsearch hs
  | timeout hwaiting =>
      simp only [step, hwaiting] at hs
      cases hs
      exact iff_of_false (not_granted fun _ hmark => by cases hmark) id
  | @grow n k failures hgrowing hroom =>
      simp only [step, hgrowing, if_pos hroom] at hs
      cases hs
      refine iff_of_false ?_ id
      rintro ⟨alloc, -, -, -, -, -, hsegments, -⟩
      have hadded := congrArg List.length hsegments
      unfold State.finish at hadded
      split at hadded
      · simp [State.addSegment, Client.addSegment, Client.record] at hadded
      · simp [State.addSegment, Client.addSegment, State.go] at hadded

end steps

/-- **Search completeness.**  In every run each call that asks for free chunks of one segment is
granted them without growing the heap, exactly when each step that answers a call can grant it. -/
theorem search_complete {o : Options} {failures : Nat} {s : State}
    (h : start o failures = some s) (as : List Action) :
    Along (step o) (Complete o) s as ↔ Along (step o) (CanGrant o) s as :=
  along_iff (I := Sound o) (fun _ a hI => complete_iff hI a)
    (fun _ _ _ hI _ hs => sound_step hs hI) (sound_start h) as

/-! ### A run that is granted all it asks for -/

section decidable

instance (c : Client) (p n : Nat) : Decidable (c.InSegment p n) :=
  inferInstanceAs (Decidable (∃ seg ∈ c.m_segments, _ ∧ _))

instance (allocs : List Allocation) (p n : Nat) : Decidable (FreeAt allocs p n) :=
  inferInstanceAs (Decidable (∀ a ∈ allocs, _ ∨ _))

instance (lo : Nat) (allocs : List Allocation) (n p : Nat) : Decidable (GapFrom lo allocs n p) :=
  inferInstanceAs (Decidable ((_ ∨ ∃ a ∈ allocs, _) ∧ FreeAt allocs p n ∧ ∃ b ∈ allocs, _))

/-- Where a gap can start. -/
def gapStarts (allocs : List Allocation) : List Nat := 0 :: allocs.map (·.final + 1)

theorem GapFrom.mem_starts {allocs : List Allocation} {n p : Nat} (h : GapFrom 0 allocs n p) :
    p ∈ gapStarts allocs := by
  rcases h.1 with rfl | ⟨a, ha, rfl⟩
  · exact List.mem_cons_self
  · exact List.mem_cons_of_mem _ (List.mem_map_of_mem ha)

instance (allocs : List Allocation) (n p : Nat) : Decidable (FirstGap allocs n p) :=
  decidable_of_iff
    (GapFrom 0 allocs n p ∧ ∀ q ∈ gapStarts allocs, GapFrom 0 allocs n q → p ≤ q)
    (and_congr_right fun _ => ⟨fun h q hq => h q hq.mem_starts hq, fun h q _ hq => h q hq⟩)

instance (c : Client) (garbage n : Nat) : Decidable (c.Reaches garbage n) :=
  decidable_of_iff
    (0 < n ∧ ((∃ p ∈ gapStarts c.m_allocations, FirstGap c.m_allocations n p ∧ c.InSegment p n) ∨
      c.InSegment (c.behindLast garbage) n))
    (and_congr_right fun _ => or_congr_left
      ⟨fun ⟨p, _, hp⟩ => ⟨p, hp⟩, fun ⟨p, hp⟩ => ⟨p, hp.1.1.mem_starts, hp⟩⟩)

/-- The step answers no call, or one whose chunks it reaches. -/
def Granting (o : Options) (s : State) : Action → Prop
  | .allocate size =>
      match s.control, s.client.m_allocations with
      | .idle, [] => 0 < numChunksOf o size ∧ s.client.InSegment 0 (numChunksOf o size)
      | _, _      => True
  | .search garbage =>
      match s.control with
      | .searching n _ => s.client.Reaches garbage n
      | _              => True
  | .wait bTimedOut => bTimedOut = false
  | .addNewHeapSegment _ =>
      match s.control with
      | .growing _ _ => False
      | _            => True
  | _ => True

instance (o : Options) (s : State) (a : Action) : Decidable (Granting o s a) := by
  unfold Granting
  split
  · split <;> infer_instance
  · split <;> infer_instance
  · infer_instance
  · split <;> infer_instance
  · infer_instance

theorem canGrant_of_granting {o : Options} {s : State} {a : Action} (h : Granting o s a) :
    CanGrant o s a := by
  rintro s' n - hanswers -
  cases hanswers with
  | first hidle hnone =>
      simp only [Granting, hidle, hnone] at h
      exact h
  | search hsearch =>
      simp only [Granting, hsearch] at h
      exact h
  | timeout hwaiting => cases h
  | grow hgrowing hroom =>
      simp only [Granting, hgrowing] at h

end decidable

/-- Three allocations in a heap of four chunks.  The one in the middle is given back and reclaimed,
its chunk is the gap that the next call is granted, and the call after that is granted what lies
behind the last allocation. -/
def reclaiming : List Action :=
  [.allocate 4096, .mark, .allocate 100, .search 0, .mark, .allocate 4096, .search 0, .mark,
    .deallocate 1, .serve, .serve, .serve, .serve, .serve, .freeDeallocations, .look 2, .look 1,
    .look 0, .reclaim, .allocate 4000, .search 0, .mark, .allocate 1, .search 0, .mark]

theorem search_complete_reclaimed :
    ∃ s, start ⟨4096, 16384⟩ 0 = some s ∧
      (run (step ⟨4096, 16384⟩) s reclaiming).map (·.owners) =
        some [(0, ⟨0, 0⟩), (1, ⟨1, 1⟩), (2, ⟨2, 2⟩), (3, ⟨1, 1⟩), (4, ⟨3, 3⟩)] ∧
      Along (step ⟨4096, 16384⟩) (Complete ⟨4096, 16384⟩) s reclaiming := by
  have h : start ⟨4096, 16384⟩ 0 = some _ := rfl
  refine ⟨_, h, by decide +kernel, (search_complete h _).mpr ?_⟩
  exact along_mono (C := Granting ⟨4096, 16384⟩) (fun _ _ => canGrant_of_granting)
    (by decide +kernel)

/-- Segments of four chunks: the second one is all free again, and two chunks are asked for.  What
lies behind the last allocation begins in the first segment, and nothing is found. -/
theorem second_segment_not_searched :
    ∃ s, exec ⟨4096, 16384⟩ 0 [.allocate 12288, .mark, .allocate 12288, .search 0, .look 0,
        .reclaim, .wait false, .search 0, .look 0, .reclaim, .wait false, .search 0, .look 0,
        .reclaim, .addNewHeapSegment 0, .mark, .deallocate 1, .serve, .serve, .serve, .serve,
        .serve, .allocate 8192, .search 0, .look 0, .look 1, .reclaim, .wait false] = some s ∧
      s.client.HasStrip 2 ∧ ¬ Complete ⟨4096, 16384⟩ s (.search 0) := by
  have hr : exec ⟨4096, 16384⟩ 0 [.allocate 12288, .mark, .allocate 12288, .search 0, .look 0,
    .reclaim, .wait false, .search 0, .look 0, .reclaim, .wait false, .search 0, .look 0,
    .reclaim, .addNewHeapSegment 0, .mark, .deallocate 1, .serve, .serve, .serve, .serve, .serve,
    .allocate 8192, .search 0, .look 0, .look 1, .reclaim, .wait false] = some _ := rfl
  refine ⟨_, hr, (and_iff_left_of_imp fun hstrip hcomplete => ?_).mpr ?_⟩
  · refine not_granted (fun firstChunk hmarking => ?_) (hcomplete _ 2 rfl (.search rfl) hstrip)
    cases hmarking
  · refine ⟨4, ⟨⟨16384, 4, 4⟩, .tail _ (.head _), Nat.le_refl 4, by decide⟩, ?_⟩
    unfold FreeAt
    decide

end RemixBridge.SharedHeap
