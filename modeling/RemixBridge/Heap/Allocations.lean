import RemixBridge.Heap.SharedHeap
import Mathlib.Data.Set.Function

/-!
# Heap — Allocations

What the client's tables of the shared heap say of each other, whatever the server does to the
words.

* `Client.Wf`: the invariant; kept by a new entry (`record_wf`), a freed one (`free_wf`) and a new
  segment (`addSegment_wf`).
* `tables_agree`: in every run the allocations are disjoint, in order and each in one segment, the
  ids are one for each, their size is the one that is kept, and no index is out of the words.
-/

namespace RemixBridge.SharedHeap
open Runs

/-! ### Segments one after the other -/

/-- The segments cut the chunks from `b` to `e`. -/
def Consecutive : Nat → List Segment → Nat → Prop
  | b, [], e          => b = e
  | b, seg :: segs, e => seg.baseChunkId = b ∧ Consecutive (b + seg.nChunks) segs e

section segments

variable {b e : Nat} {segs : List Segment} {seg : Segment}

theorem Consecutive.le (h : Consecutive b segs e) : b ≤ e := by
  induction segs generalizing b with
  | nil => exact Nat.le_of_eq h
  | cons seg segs ih => exact Nat.le_trans (Nat.le_add_right _ _) (ih h.2)

theorem Consecutive.append (h : Consecutive b segs e) (hseg : seg.baseChunkId = e) :
    Consecutive b (segs ++ [seg]) (e + seg.nChunks) := by
  induction segs generalizing b with
  | nil =>
      cases h
      exact ⟨hseg, rfl⟩
  | cons s segs ih => exact ⟨h.1, ih h.2⟩

theorem Consecutive.bounds (h : Consecutive b segs e) (hseg : seg ∈ segs) :
    b ≤ seg.baseChunkId ∧ seg.baseChunkId + seg.nChunks ≤ e := by
  induction segs generalizing b with
  | nil => cases hseg
  | cons s segs ih =>
      obtain ⟨hbase, hrest⟩ := h
      rcases List.mem_cons.mp hseg with rfl | hseg
      · have hle := hrest.le
        exact ⟨Nat.le_of_eq hbase.symm, by omega⟩
      · have hb := ih hrest hseg
        exact ⟨by omega, hb.2⟩

theorem Consecutive.exists_contains {c : Nat} (h : Consecutive b segs e) (hb : b ≤ c)
    (he : c < e) : ∃ seg ∈ segs, seg.Contains c := by
  induction segs generalizing b with
  | nil =>
      cases h
      omega
  | cons s segs ih =>
      obtain ⟨hbase, hrest⟩ := h
      by_cases hc : c < b + s.nChunks
      · exact ⟨s, List.mem_cons_self, by rw [hbase]; exact hb, by rw [hbase]; exact hc⟩
      · obtain ⟨seg, hseg, hin⟩ := ih hrest (Nat.le_of_not_lt hc)
        exact ⟨seg, List.mem_cons_of_mem _ hseg, hin⟩

/-- A chunk is in one segment only. -/
theorem Consecutive.unique {c : Nat} {i j : Nat} {x y : Segment} (h : Consecutive b segs e)
    (hx : segs[i]? = some x) (hxc : x.Contains c) (hy : segs[j]? = some y)
    (hyc : y.Contains c) : i = j := by
  induction segs generalizing b i j with
  | nil => cases hx
  | cons s segs ih =>
      obtain ⟨hbase, hrest⟩ := h
      have hlater {k : Nat} {z : Segment} (hz : segs[k]? = some z) (hzc : z.Contains c) :
          ¬ s.Contains c := by
        intro hs
        have hzb := (hrest.bounds (List.mem_of_getElem? hz)).1
        have h₁ := hzc.1
        have h₂ := hs.2
        omega
      cases i with
      | zero =>
          cases j with
          | zero => rfl
          | succ j =>
              cases hx
              exact absurd hxc (hlater hy hyc)
      | succ i =>
          cases j with
          | zero =>
              cases hy
              exact absurd hyc (hlater hx hxc)
          | succ j => exact congrArg (· + 1) (ih hrest hx hy)

/-- `chunkIdToSegId` of a chunk that there is. -/
theorem Consecutive.chunkIdToSegId {c : Nat} (h : Consecutive b segs e) (hb : b ≤ c)
    (he : c < e) :
    ∃ seg, segs[SharedHeap.chunkIdToSegId segs c]? = some seg ∧ seg.Contains c := by
  obtain ⟨seg, hseg, hin⟩ := h.exists_contains hb he
  cases hf : segs.findIdx? (·.Contains c) with
  | none =>
      have hnone := List.findIdx?_eq_none_iff.mp hf seg hseg
      simp [hin] at hnone
  | some i =>
      have hsome := List.of_findIdx?_eq_some hf
      unfold SharedHeap.chunkIdToSegId
      rw [hf, Option.getD_some]
      cases hi : segs[i]? with
      | none => simp [hi] at hsome
      | some x =>
          rw [hi] at hsome
          exact ⟨x, rfl, by simpa using hsome⟩

theorem sum_nChunks_le {chunkSize : Nat} (hcut : ∀ seg ∈ segs, seg.nChunks = seg.size / chunkSize) :
    (segs.map (·.nChunks)).sum ≤ getTotalHeapSize segs / chunkSize := by
  induction segs with
  | nil => exact Nat.zero_le _
  | cons s segs ih =>
      have ih := ih fun seg hseg => hcut seg (List.mem_cons_of_mem _ hseg)
      have hs := hcut s List.mem_cons_self
      have hdiv : s.size / chunkSize + getTotalHeapSize segs / chunkSize ≤
          (s.size + getTotalHeapSize segs) / chunkSize := Nat.div_add_div_le_add_div
      have htotal : getTotalHeapSize (s :: segs) = s.size + getTotalHeapSize segs := rfl
      rw [List.map_cons, List.sum_cons, htotal, hs]
      omega

theorem Consecutive.sum_nChunks (h : Consecutive b segs e) :
    b + (segs.map (·.nChunks)).sum = e := by
  induction segs generalizing b with
  | nil => exact h
  | cons s segs ih =>
      have ih := ih h.2
      rw [List.map_cons, List.sum_cons]
      omega

end segments

/-! ### The tables -/

/-- What holds of the segments and the allocations, however many ids have been given out. -/
structure Client.Shape (o : Options) (c : Client) : Prop where
  laid : Consecutive 0 c.m_segments c.m_nChunks
  cut : ∀ seg ∈ c.m_segments, seg.nChunks = seg.size / o.chunkSize
  heap : getTotalHeapSize c.m_segments ≤ kMax32BitHeapSize
  ordered : Extent.Ordered c.m_allocations
  inside : ∀ a ∈ c.m_allocations, ∃ seg ∈ c.m_segments, seg.Contains a.first ∧ seg.Contains a.final

/-- What holds of the client's tables after `n` allocations. -/
structure Client.Wf (o : Options) (c : Client) (n : Nat) : Prop where
  laid : Consecutive 0 c.m_segments c.m_nChunks
  cut : ∀ seg ∈ c.m_segments, seg.nChunks = seg.size / o.chunkSize
  heap : getTotalHeapSize c.m_segments ≤ kMax32BitHeapSize
  ordered : Extent.Ordered c.m_allocations
  inside : ∀ a ∈ c.m_allocations, ∃ seg ∈ c.m_segments, seg.Contains a.first ∧ seg.Contains a.final
  known : ∀ id f, c.m_cache.lookup id = some f → ∃ a ∈ c.m_allocations, a.first = f
  injective : ∀ id id' f, c.m_cache.lookup id = some f → c.m_cache.lookup id' = some f → id = id'
  owned : ∀ a ∈ c.m_allocations, ∃ id, c.m_cache.lookup id = some a.first
  recent : ∀ id ∈ c.m_cache, id < n
  next : c.m_nextUid = n % 2 ^ 32
  size : c.m_sizeAllocated = Extent.total c.m_allocations * o.chunkSize

section wf

variable {o : Options} {c : Client} {n : Nat}

theorem Client.Wf.shape (h : c.Wf o n) : c.Shape o :=
  ⟨h.laid, h.cut, h.heap, h.ordered, h.inside⟩

theorem Client.Shape.nChunks_le (h : c.Shape o) : c.m_nChunks ≤ o.metaSize := by
  have hsum := h.laid.sum_nChunks
  have hle := sum_nChunks_le h.cut
  have hmono : getTotalHeapSize c.m_segments / o.chunkSize ≤ o.metaSize :=
    Nat.div_le_div_right h.heap
  omega

theorem Client.Wf.nChunks_le (h : c.Wf o n) : c.m_nChunks ≤ o.metaSize := h.shape.nChunks_le

theorem metaSize_mul_le (o : Options) : o.metaSize * o.chunkSize ≤ 2 ^ 31 :=
  Nat.div_mul_le_self _ _

theorem metaSize_le (o : Options) : o.metaSize ≤ 2 ^ 31 := Nat.div_le_self _ _

theorem Client.Shape.nChunks_small (h : c.Shape o) : c.m_nChunks ≤ 2 ^ 31 :=
  Nat.le_trans h.nChunks_le (metaSize_le o)

theorem Client.Shape.final_lt (h : c.Shape o) {a : Allocation} (ha : a ∈ c.m_allocations) :
    a.final < c.m_nChunks := by
  obtain ⟨seg, hseg, -, -, hlt⟩ := h.inside a ha
  exact Nat.lt_of_lt_of_le hlt (h.laid.bounds hseg).2

theorem Client.Wf.final_lt (h : c.Wf o n) {a : Allocation} (ha : a ∈ c.m_allocations) :
    a.final < c.m_nChunks := h.shape.final_lt ha

theorem Client.Wf.lookup_lt (h : c.Wf o n) {id f : Nat} (hf : c.m_cache.lookup id = some f) :
    f < c.m_nChunks := by
  obtain ⟨a, ha, rfl⟩ := h.known id f hf
  exact Nat.lt_of_le_of_lt (h.ordered.nonempty a ha) (h.final_lt ha)

theorem Client.Wf.firstChunk_lt (h : c.Wf o n) {id : Nat} (hid : id ∈ c.m_cache) :
    c.firstChunk id < c.m_nChunks := by
  obtain ⟨f, hf⟩ := Option.isSome_iff_exists.mp (AList.lookup_isSome.mpr hid)
  rw [Client.firstChunk, hf, Option.getD_some]
  exact h.lookup_lt hf

theorem Client.Wf.total_le (h : c.Wf o n) (is : List Extent) (hord : Extent.Ordered is)
    (hlt : ∀ i ∈ is, i.final < c.m_nChunks) : Extent.total is * o.chunkSize ≤ 2 ^ 31 := by
  have htotal := Extent.total_le hord (fun i _ => Nat.zero_le i.first) hlt
  have hle : Extent.total is ≤ o.metaSize := by
    have hn := h.nChunks_le
    omega
  exact Nat.le_trans (Nat.mul_le_mul_right _ hle) (metaSize_mul_le o)

/-! ### A new entry -/

/-- What `isValidAllocation` checks. -/
theorem valid_iff {alloc : Allocation} :
    c.isValidAllocation alloc = true ↔ alloc.first < c.m_nChunks ∧ alloc.final < c.m_nChunks ∧
      alloc.first ≤ alloc.final ∧
      chunkIdToSegId c.m_segments alloc.first = chunkIdToSegId c.m_segments alloc.final := by
  simp [Client.isValidAllocation, Client.allocationCrossesHeapSegBound]

theorem Client.Shape.valid_inside (h : c.Shape o) {alloc : Allocation}
    (hv : c.isValidAllocation alloc = true) :
    ∃ seg ∈ c.m_segments, seg.Contains alloc.first ∧ seg.Contains alloc.final := by
  obtain ⟨hfirst, hfinal, -, hseg⟩ := valid_iff.mp hv
  obtain ⟨x, hx, hxc⟩ := h.laid.chunkIdToSegId (Nat.zero_le _) hfirst
  obtain ⟨y, hy, hyc⟩ := h.laid.chunkIdToSegId (Nat.zero_le _) hfinal
  rw [hseg] at hx
  cases hx.symm.trans hy
  exact ⟨x, List.mem_of_getElem? hx, hxc, hyc⟩

/-- A valid allocation of free chunks keeps the shape. -/
theorem Client.Shape.record (h : c.Shape o) {alloc : Allocation} {numChunks : Nat}
    (hv : c.isValidAllocation alloc = true) (hfree : Extent.Free c.m_allocations alloc) :
    (c.record o numChunks alloc).Shape o := by
  obtain ⟨-, -, hle, -⟩ := valid_iff.mp hv
  refine ⟨h.laid, h.cut, h.heap, Extent.ordered_insert h.ordered hle hfree, fun a ha => ?_⟩
  rcases (Extent.mem_insert h.ordered hle hfree).mp ha with rfl | ha
  · exact h.valid_inside hv
  · exact h.inside a ha

/-- **A new entry.**  A valid allocation of free chunks can be put in the tables. -/
theorem Client.Wf.record (h : c.Wf o n) (hn : n < 2 ^ 32) {alloc : Allocation} {numChunks : Nat}
    (hv : c.isValidAllocation alloc = true) (hfree : Extent.Free c.m_allocations alloc)
    (hnum : alloc.count = numChunks) : (c.record o numChunks alloc).Wf o (n + 1) := by
  obtain ⟨-, hfinal, hle, -⟩ := valid_iff.mp hv
  have hnext : c.m_nextUid = n := h.next.trans (Nat.mod_eq_of_lt hn)
  have hfresh : c.m_nextUid ∉ c.m_cache := fun hmem => by
    have hlt := h.recent _ hmem
    omega
  have hfirst {f : Nat} {id : Nat} (hf : c.m_cache.lookup id = some f) : f ≠ alloc.first := by
    obtain ⟨a, ha, rfl⟩ := h.known id f hf
    exact hfree.first_ne hle h.ordered.nonempty ha
  have hmem (a : Extent) : a ∈ alloc.insert c.m_allocations ↔ a = alloc ∨ a ∈ c.m_allocations :=
    Extent.mem_insert h.ordered hle hfree
  have hshape : (c.record o numChunks alloc).Shape o := h.shape.record hv hfree
  have hlookup (id f : Nat) : (c.record o numChunks alloc).m_cache.lookup id = some f ↔
      (id = c.m_nextUid ∧ f = alloc.first) ∨ c.m_cache.lookup id = some f := by
    by_cases hid : id = c.m_nextUid
    · subst hid
      have hnone : c.m_cache.lookup c.m_nextUid = none := AList.lookup_eq_none.mpr hfresh
      rw [Client.record, AList.lookup_insert, hnone]
      simp [eq_comm]
    · rw [Client.record, AList.lookup_insert_ne hid]
      simp [hid]
  refine ⟨h.laid, h.cut, h.heap, hshape.ordered, hshape.inside, fun id f hf => ?_,
    fun id id' f hf hf' => ?_, fun a ha => ?_, fun id hid => ?_, ?_, ?_⟩
  · rcases (hlookup id f).mp hf with ⟨-, rfl⟩ | hf
    · exact ⟨alloc, (hmem alloc).mpr (.inl rfl), rfl⟩
    · obtain ⟨a, ha, hfa⟩ := h.known id f hf
      exact ⟨a, (hmem a).mpr (.inr ha), hfa⟩
  · rcases (hlookup id f).mp hf with ⟨rfl, hfa⟩ | hf
    · rcases (hlookup id' f).mp hf' with ⟨rfl, -⟩ | hf'
      · rfl
      · exact absurd hfa (hfirst hf')
    · rcases (hlookup id' f).mp hf' with ⟨-, hfa⟩ | hf'
      · exact absurd hfa (hfirst hf)
      · exact h.injective id id' f hf hf'
  · rcases (hmem a).mp ha with rfl | ha
    · exact ⟨c.m_nextUid, (hlookup _ _).mpr (.inl ⟨rfl, rfl⟩)⟩
    · obtain ⟨id, hid⟩ := h.owned a ha
      exact ⟨id, (hlookup id _).mpr (.inr hid)⟩
  · rcases (AList.mem_insert _).mp hid with rfl | hid
    · omega
    · have hlt := h.recent id hid
      omega
  · rw [Client.record, hnext]
  · have htotal := Extent.total_insert h.ordered hle hfree
    have hbound : Extent.total (alloc.insert c.m_allocations) * o.chunkSize ≤ 2 ^ 31 :=
      h.total_le _ hshape.ordered fun i hi => by
        rcases (hmem i).mp hi with rfl | hi
        · exact hfinal
        · exact h.final_lt hi
    have hsmall : Extent.total (alloc.insert c.m_allocations) * o.chunkSize < 2 ^ 32 := by omega
    rw [Client.record, h.size, ← hnum, ← Nat.add_mul, ← htotal, Nat.mod_eq_of_lt hsmall]

/-! ### A freed entry -/

/-- A freed entry keeps the shape. -/
theorem Client.Shape.free (h : c.Shape o) (id : Nat) : (c.free o id).Shape o :=
  ⟨h.laid, h.cut, h.heap, Extent.ordered_erase h.ordered _,
    fun a ha => h.inside a (Extent.mem_erase.mp ha).1⟩

/-- **A freed entry.**  It leaves both tables. -/
theorem Client.Wf.free (h : c.Wf o n) {id : Nat} (hid : id ∈ c.m_cache) : (c.free o id).Wf o n := by
  obtain ⟨f, hf⟩ := Option.isSome_iff_exists.mp (AList.lookup_isSome.mpr hid)
  obtain ⟨a, ha, rfl⟩ := h.known id f hf
  have hfirst : c.firstChunk id = a.first := by rw [Client.firstChunk, hf, Option.getD_some]
  have hle := h.ordered.nonempty a ha
  have hlt := h.final_lt ha
  have hlookup {id' g : Nat} (hg : (c.free o id).m_cache.lookup id' = some g) :
      id' ≠ id ∧ c.m_cache.lookup id' = some g := by
    by_cases hne : id' = id
    · subst hne
      rw [Client.free, AList.lookup_erase] at hg
      cases hg
    · rw [Client.free, AList.lookup_erase_ne hne] at hg
      exact ⟨hne, hg⟩
  have hallocs : (c.free o id).m_allocations = Extent.erase a.first c.m_allocations := by
    rw [Client.free, hfirst]
  have hmem (b : Extent) : b ∈ (c.free o id).m_allocations ↔
      b ∈ c.m_allocations ∧ b.first ≠ a.first := by
    rw [hallocs]
    exact Extent.mem_erase
  have hshape : (c.free o id).Shape o := h.shape.free id
  refine ⟨h.laid, h.cut, h.heap, hshape.ordered, hshape.inside, fun id' g hg => ?_,
    fun id₁ id₂ g h₁ h₂ => h.injective id₁ id₂ g (hlookup h₁).2 (hlookup h₂).2, fun b hb => ?_,
    fun id' hid' => h.recent id' (AList.mem_erase.mp hid').2, h.next, ?_⟩
  · obtain ⟨hne, hg⟩ := hlookup hg
    obtain ⟨b, hb, rfl⟩ := h.known id' g hg
    refine ⟨b, (hmem b).mpr ⟨hb, fun heq => hne ?_⟩, rfl⟩
    exact h.injective id' id a.first (heq ▸ hg) hf
  · obtain ⟨hb, hne⟩ := (hmem b).mp hb
    obtain ⟨id', hid'⟩ := h.owned b hb
    refine ⟨id', ?_⟩
    have hidne : id' ≠ id := by
      rintro rfl
      exact hne (Option.some.inj (hid'.symm.trans hf))
    rw [Client.free, AList.lookup_erase_ne hidne]
    exact hid'
  · have htotal := Extent.total_erase h.ordered ha
    have hbound := h.total_le c.m_allocations h.ordered fun i hi => h.final_lt hi
    have hfind : Extent.find a.first c.m_allocations = some a := h.ordered.find_mem ha
    have hchunks := h.nChunks_le
    have hmeta := metaSize_le o
    have hcount : (a.final + 1 + (2 ^ 32 - a.first)) % 2 ^ 32 = a.count := by
      rw [Extent.count]
      omega
    have hsplit : Extent.total c.m_allocations * o.chunkSize =
        Extent.total (Extent.erase a.first c.m_allocations) * o.chunkSize +
          a.count * o.chunkSize := by
      rw [← htotal, Nat.add_mul]
    simp only [Client.free, hfirst, hfind, Option.map_some, Option.getD_some, hcount, h.size,
      hsplit]
    rw [hsplit] at hbound
    omega

/-! ### A new segment -/

theorem Client.Shape.newSegmentSize_le (h : c.Shape o) (failures : Nat) :
    c.newSegmentSize o failures ≤ kMax32BitHeapSize - getTotalHeapSize c.m_segments := by
  have hheap := h.heap
  have hmax : kMax32BitHeapSize = 2 ^ 31 := rfl
  have hdiff : (kMax32BitHeapSize + (2 ^ 32 - getTotalHeapSize c.m_segments)) % 2 ^ 32 =
      kMax32BitHeapSize - getTotalHeapSize c.m_segments := by omega
  unfold Client.newSegmentSize
  simp only [hdiff]
  refine Nat.le_trans (Nat.shiftRight_le _ _) ?_
  rw [BitVec.toNat_and, BitVec.toNat_ofNat]
  refine Nat.le_trans Nat.and_le_left (Nat.le_trans (Nat.mod_le _ _) (Nat.min_le_left _ _))

/-- A new segment keeps the shape: it is cut from what is left of the heap. -/
theorem Client.Shape.addSegment (h : c.Shape o) (failures : Nat) :
    (c.addSegment o (c.newSegmentSize o failures)).Shape o where
  laid := h.laid.append rfl
  cut seg hseg := by
    rcases List.mem_append.mp hseg with hseg | hseg
    · exact h.cut seg hseg
    · cases List.mem_singleton.mp hseg
      rfl
  heap := by
    have hheap := h.heap
    have hle := h.newSegmentSize_le failures
    have htotal : getTotalHeapSize (c.addSegment o (c.newSegmentSize o failures)).m_segments =
        getTotalHeapSize c.m_segments + c.newSegmentSize o failures := by
      simp [Client.addSegment, getTotalHeapSize, Segment.new]
    omega
  ordered := h.ordered
  inside a ha := by
    obtain ⟨seg, hseg, hin⟩ := h.inside a ha
    exact ⟨seg, List.mem_append_left _ hseg, hin⟩

/-- **A new segment.** -/
theorem Client.Wf.addSegment (h : c.Wf o n) (failures : Nat) :
    (c.addSegment o (c.newSegmentSize o failures)).Wf o n := by
  have hshape := h.shape.addSegment failures
  exact ⟨hshape.laid, hshape.cut, hshape.heap, hshape.ordered, hshape.inside, h.known,
    h.injective, h.owned, h.recent, h.next, h.size⟩

end wf

/-! ### Free chunks -/

section candidates

variable {n : Nat}

theorem createAllocation_valid {f : Nat} (hn : n < 2 ^ 32)
    (hle : (createAllocation f n).first ≤ (createAllocation f n).final)
    (hlt : (createAllocation f n).final < 2 ^ 31) :
    0 < n ∧ (createAllocation f n).final = f + n - 1 ∧ (createAllocation f n).count = n := by
  simp only [createAllocation, Extent.count] at hle hlt ⊢
  omega

/-- Where `findFreeInMiddle` finds room, it is past the allocation it has come to. -/
theorem findGap_free {allocs : List Allocation} {prev : Nat} (hn : n < 2 ^ 32)
    (hord : Extent.Ordered allocs) (hprev : ∀ a ∈ allocs, (prev + 1) % 2 ^ 32 ≤ a.first)
    (hsmall : ∀ a ∈ allocs, a.final < 2 ^ 31)
    (hle : (Client.findGap n prev allocs).first ≤ (Client.findGap n prev allocs).final)
    (hlt : (Client.findGap n prev allocs).final < 2 ^ 31) :
    Extent.Free allocs (Client.findGap n prev allocs) ∧
      (prev + 1) % 2 ^ 32 ≤ (Client.findGap n prev allocs).first ∧
      (Client.findGap n prev allocs).count = n := by
  induction allocs generalizing prev with
  | nil =>
      have hinvalid : (Client.findGap n prev []).final = 2 ^ 32 - 1 := rfl
      omega
  | cons a allocs ih =>
      obtain ⟨ha, hbefore⟩ := List.pairwise_cons.mp hord.before
      have hrest : Extent.Ordered allocs :=
        ⟨fun m hm => hord.nonempty m (List.mem_cons_of_mem _ hm), hbefore⟩
      have hna := hord.nonempty a List.mem_cons_self
      have hsa := hsmall a List.mem_cons_self
      have hpa := hprev a List.mem_cons_self
      simp only [Client.findGap] at hle hlt ⊢
      split
      · next hroom =>
          rw [if_pos hroom] at hle hlt
          obtain ⟨hpos, hfinal, hcount⟩ := createAllocation_valid hn hle hlt
          refine ⟨fun j hj => .inr ?_, Nat.le_refl _, hcount⟩
          have hbound : (createAllocation ((prev + 1) % 2 ^ 32) n).final < a.first := by
            rw [hfinal]
            omega
          rcases List.mem_cons.mp hj with rfl | hj
          · exact hbound
          · have haj := ha j hj
            omega
      · next hroom =>
          rw [if_neg hroom] at hle hlt
          have hnext : (a.final + 1) % 2 ^ 32 = a.final + 1 := Nat.mod_eq_of_lt (by omega)
          obtain ⟨hfree, hpast, hcount⟩ := ih hrest (fun j hj => by rw [hnext]; exact ha j hj)
            (fun j hj => hsmall j (List.mem_cons_of_mem _ hj)) hle hlt
          refine ⟨fun j hj => ?_, by omega, hcount⟩
          rcases List.mem_cons.mp hj with rfl | hj
          · exact .inl (by omega)
          · exact hfree j hj

variable {o : Options} {c : Client} {alloc : Allocation}

theorem Client.Shape.valid_small (h : c.Shape o) (hv : c.isValidAllocation alloc = true) :
    alloc.first ≤ alloc.final ∧ alloc.final < 2 ^ 31 := by
  obtain ⟨-, hfinal, hle, -⟩ := valid_iff.mp hv
  exact ⟨hle, Nat.lt_of_lt_of_le hfinal h.nChunks_small⟩

theorem Client.Shape.final_small (h : c.Shape o) {a : Allocation} (ha : a ∈ c.m_allocations) :
    a.final < 2 ^ 31 :=
  Nat.lt_of_lt_of_le (h.final_lt ha) h.nChunks_small

theorem findFreeInMiddle_free (h : c.Shape o) (hn : n < 2 ^ 32)
    (hv : c.isValidAllocation (c.findFreeInMiddle n) = true) :
    Extent.Free c.m_allocations (c.findFreeInMiddle n) ∧ (c.findFreeInMiddle n).count = n := by
  obtain ⟨hle, hlt⟩ := h.valid_small hv
  have hzero : (kInvalidId + 1) % 2 ^ 32 = 0 := rfl
  obtain ⟨hfree, -, hcount⟩ := findGap_free hn h.ordered
    (fun a _ => by rw [hzero]; exact Nat.zero_le _) (fun a ha => h.final_small ha) hle hlt
  exact ⟨hfree, hcount⟩

/-- Whatever is read as the last allocation where there is none. -/
theorem findFreeOnEnd_free (h : c.Shape o) (hn : n < 2 ^ 32) {garbage : Nat}
    (hv : c.isValidAllocation (c.findFreeOnEnd n garbage) = true) :
    Extent.Free c.m_allocations (c.findFreeOnEnd n garbage) ∧
      (c.findFreeOnEnd n garbage).count = n := by
  obtain ⟨hle, hlt⟩ := h.valid_small hv
  obtain ⟨-, -, hcount⟩ := createAllocation_valid hn hle hlt
  refine ⟨fun j hj => .inl ?_, hcount⟩
  cases hlast : c.m_allocations.getLast? with
  | none =>
      rw [List.getLast?_eq_none_iff.mp hlast] at hj
      cases hj
  | some last =>
      have hjl := h.ordered.final_le_getLast hlast hj
      have hsmall := h.final_small (List.mem_of_getLast? hlast)
      simp only [Client.findFreeOnEnd, hlast, Option.map_some, Option.getD_some, createAllocation]
      omega

/-- The first chunks of a segment that is yet to be added. -/
theorem newSegment_free (h : c.Shape o) (hn : n < 2 ^ 32)
    (hv : (c.addSegment o k).isValidAllocation (createAllocation c.m_nChunks n) = true)
    (h' : (c.addSegment o k).Shape o) :
    Extent.Free (c.addSegment o k).m_allocations (createAllocation c.m_nChunks n) ∧
      (createAllocation c.m_nChunks n).count = n := by
  obtain ⟨hle, hlt⟩ := h'.valid_small hv
  exact ⟨fun j hj => .inl (h.final_lt hj), (createAllocation_valid hn hle hlt).2.2⟩

end candidates

/-! ### The whole state -/

/-- What the client holds on to in the middle of an operation. -/
def Control.Fits (c : Client) : Control → Prop
  | .idle => True
  | .searching numChunks _ => numChunks < 2 ^ 32
  | .growing numChunks _ => numChunks < 2 ^ 32
  | .waiting numChunks _ => numChunks < 2 ^ 32
  | .freeing todo deallocatedIds retry =>
      (todo ++ deallocatedIds).Nodup ∧ (∀ id ∈ todo ++ deallocatedIds, id ∈ c.m_cache) ∧
        ∀ r ∈ retry, r.1 < 2 ^ 32
  | .marking firstChunk => firstChunk < c.m_nChunks

/-- The tables, and the indices of words that they and the commands hold. -/
structure Tables (o : Options) (s : State) : Prop where
  client : s.client.Wf o s.owners.length
  server : ∀ id f, s.server.m_cache.lookup id = some f → f < s.client.m_nChunks
  queue : ∀ id f, Command.Alloc id f ∈ s.queue → f < s.client.m_nChunks
  touched : ∀ i ∈ s.touched, i < o.metaSize
  room : 0 < o.metaSize

structure Inv (o : Options) (s : State) : Prop where
  tables : Tables o s
  control : s.control.Fits s.client

section tables

variable {o : Options} {s : State}

theorem Tables.setDefaultSegmentSize (h : Tables o s) (newDefault : Nat) :
    Tables o (s.setDefaultSegmentSize newDefault) where
  client := ⟨h.client.laid, h.client.cut, h.client.heap, h.client.ordered, h.client.inside,
    h.client.known, h.client.injective, h.client.owned, h.client.recent, h.client.next,
    h.client.size⟩
  server := h.server
  queue := h.queue
  touched := h.touched
  room := h.room

theorem Tables.setChunkState (h : Tables o s) {i : Nat} (hi : i < o.metaSize) (state : ChunkState) :
    Tables o (s.setChunkState i state) where
  client := h.client
  server := h.server
  queue := h.queue
  touched j hj := by
    rcases List.mem_cons.mp hj with rfl | hj
    · exact hi
    · exact h.touched j hj
  room := h.room

theorem Tables.freeAll {ids : List Nat} (h : Tables o s) (hnodup : ids.Nodup)
    (hids : ∀ id ∈ ids, id ∈ s.client.m_cache) : Tables o (State.freeAll o ids s) := by
  induction ids generalizing s with
  | nil => exact h
  | cons id ids ih =>
      obtain ⟨hid, hrest⟩ := List.nodup_cons.mp hnodup
      have hmem := hids id List.mem_cons_self
      have hfirst := Nat.lt_of_lt_of_le (h.client.firstChunk_lt hmem) h.client.nChunks_le
      have hset := h.setChunkState hfirst .Unallocated
      refine ih ⟨hset.client.free hmem, hset.server, hset.queue, hset.touched, hset.room⟩ hrest ?_
      intro id' hid'
      refine AList.mem_erase.mpr ⟨?_, hids id' (List.mem_cons_of_mem _ hid')⟩
      rintro rfl
      exact hid hid'

theorem Tables.addSegment (h : Tables o s) (failures : Nat) :
    Tables o (s.addSegment o (s.client.newSegmentSize o failures)) where
  client := h.client.addSegment failures
  server id f hf := Nat.lt_of_lt_of_le (h.server id f hf) (Nat.le_add_right _ _)
  queue id f hf := by
    rcases List.mem_append.mp hf with hf | hf
    · exact Nat.lt_of_lt_of_le (h.queue id f hf) (Nat.le_add_right _ _)
    · cases List.mem_singleton.mp hf
  touched := h.touched
  room := h.room

theorem Tables.send (h : Tables o s) {c : Command} (hc : ∀ id f, c ≠ .Alloc id f) :
    Tables o (s.send c) where
  client := h.client
  server := h.server
  queue id f hf := by
    rcases List.mem_append.mp hf with hf | hf
    · exact h.queue id f hf
    · exact absurd (List.mem_singleton.mp hf).symm (hc id f)
  touched := h.touched
  room := h.room

/-- **Handing out.**  Free chunks go in the tables and in the command; without such there is no
change. -/
theorem Tables.finish (h : Tables o s) {n : Nat} {alloc : Allocation}
    (hfree : s.client.isValidAllocation alloc = true →
      Extent.Free s.client.m_allocations alloc ∧ alloc.count = n)
    (hfew : (s.finish o n alloc).owners.length < 2 ^ 32) : Inv o (s.finish o n alloc) := by
  unfold State.finish at hfew ⊢
  split
  · next hv =>
      rw [if_pos hv, List.length_append, List.length_singleton] at hfew
      obtain ⟨hfree, hcount⟩ := hfree hv
      have hfirst := (valid_iff.mp hv).1
      refine ⟨⟨?_, h.server, fun id f hf => ?_, h.touched, h.room⟩, hfirst⟩
      · rw [List.length_append]
        exact h.client.record (by omega) hv hfree hcount
      · rcases List.mem_append.mp hf with hf | hf
        · exact h.queue id f hf
        · cases List.mem_singleton.mp hf
          exact hfirst
  · exact ⟨⟨h.client, h.server, h.queue, h.touched, h.room⟩, trivial⟩

/-- The server's step, from the rest of the queue. -/
theorem Tables.serve {c : Command} {queue : List Command} (h : Tables o s)
    (hq : s.queue = c :: queue) : Tables o ({ s with queue := queue }.serve o c) := by
  have htail (id f : Nat) (hf : Command.Alloc id f ∈ queue) : f < s.client.m_nChunks :=
    h.queue id f (hq ▸ List.mem_cons_of_mem _ hf)
  cases c with
  | AddSeg segmentSize => exact ⟨h.client, h.server, htail, h.touched, h.room⟩
  | Unlock id => exact ⟨h.client, h.server, htail, h.touched, h.room⟩
  | Alloc id firstChunk =>
      refine ⟨h.client, fun id' f hf => ?_, htail, h.touched, h.room⟩
      by_cases hid : id' = id
      · subst hid
        have hsome : (s.server.m_cache.insert id' firstChunk).lookup id' = some f := hf
        rw [AList.lookup_insert] at hsome
        cases hsome
        exact h.queue id' firstChunk (hq ▸ List.mem_cons_self)
      · have hsome : (s.server.m_cache.insert id firstChunk).lookup id' = some f := hf
        rw [AList.lookup_insert_ne hid] at hsome
        exact h.server id' f hsome
  | Dealloc id =>
      have hfirst : s.server.firstChunk id < o.metaSize := by
        unfold Server.firstChunk
        cases hf : s.server.m_cache.lookup id with
        | none => exact h.room
        | some f => exact Nat.lt_of_lt_of_le (h.server id f hf) h.client.nChunks_le
      refine ⟨h.client, fun id' f hf => ?_, htail, ?_, h.room⟩
      · have hsome : (s.server.m_cache.erase id).lookup id' = some f := hf
        by_cases hid : id' = id
        · subst hid
          rw [AList.lookup_erase] at hsome
          cases hsome
        · rw [AList.lookup_erase_ne hid] at hsome
          exact h.server id' f hsome
      · exact (h.setChunkState hfirst .Deallocated).touched

end tables

/-! ### Steps -/

/-- What a step does. -/
inductive Move (o : Options) (s : State) : Action → State → Prop
  | allocateFirst {size numChunks newDefault : Nat} (hidle : s.control = .idle)
      (hnone : s.client.m_allocations = []) (hnum : numChunks < 2 ^ 32) :
      Move o s (.allocate size)
        ((s.setDefaultSegmentSize newDefault).finish o numChunks (createAllocation 0 numChunks))
  | allocate {size numChunks newDefault : Nat} (hidle : s.control = .idle)
      (hnum : numChunks < 2 ^ 32) :
      Move o s (.allocate size)
        ((s.setDefaultSegmentSize newDefault).go (.searching numChunks 0))
  | found {garbage numChunks k : Nat} {alloc : Allocation}
      (hsearch : s.control = .searching numChunks k)
      (hv : s.client.isValidAllocation alloc = true)
      (halloc : alloc = s.client.findFreeInMiddle numChunks ∨
        alloc = s.client.findFreeOnEnd numChunks garbage) :
      Move o s (.search garbage) (s.finish o numChunks alloc)
  | notFound {garbage numChunks k : Nat} (hsearch : s.control = .searching numChunks k) :
      Move o s (.search garbage)
        (s.go (.freeing s.client.m_cache.keys [] (some (numChunks, k))))
  | freeDeallocations (hidle : s.control = .idle) :
      Move o s .freeDeallocations (s.go (.freeing s.client.m_cache.keys [] none))
  | deallocated {id : Nat} {todo ids : List Nat} {retry : Option (Nat × Nat)}
      (hfreeing : s.control = .freeing todo ids retry) (hid : id ∈ todo)
      (hword : s.words (s.client.firstChunk id) = .Deallocated) :
      Move o s (.look id)
        ({ s with touched := s.client.firstChunk id :: s.touched }.go
          (.freeing (todo.erase id) (id :: ids) retry))
  | notDeallocated {id : Nat} {todo ids : List Nat} {retry : Option (Nat × Nat)}
      (hfreeing : s.control = .freeing todo ids retry) (hid : id ∈ todo) :
      Move o s (.look id)
        ({ s with touched := s.client.firstChunk id :: s.touched }.go
          (.freeing (todo.erase id) ids retry))
  | reclaim {ids : List Nat} {retry : Option (Nat × Nat)} {next : Control}
      (hfreeing : s.control = .freeing [] ids retry)
      (hnext : next = .idle ∨ ∃ n k, retry = some (n, k) ∧
        (next = .growing n k ∨ next = .waiting n k)) :
      Move o s .reclaim ((State.freeAll o ids s).go next)
  | addSegment {failures : Nat} (hidle : s.control = .idle) :
      Move o s (.addNewHeapSegment failures)
        (s.addSegment o (s.client.newSegmentSize o failures))
  | noSegment {failures : Nat} (hidle : s.control = .idle) :
      Move o s (.addNewHeapSegment failures) s
  | grow {failures numChunks k : Nat} (hgrowing : s.control = .growing numChunks k) :
      Move o s (.addNewHeapSegment failures)
        ((s.addSegment o (s.client.newSegmentSize o failures)).finish o numChunks
          (createAllocation s.client.m_nChunks numChunks))
  | noGrow {failures numChunks k : Nat} (hgrowing : s.control = .growing numChunks k) :
      Move o s (.addNewHeapSegment failures) (s.go (.waiting numChunks k))
  | timeout {numChunks k : Nat} (hwaiting : s.control = .waiting numChunks k) :
      Move o s (.wait true) (s.go .idle)
  | retry {numChunks k : Nat} (hwaiting : s.control = .waiting numChunks k) :
      Move o s (.wait false) (s.go (.searching numChunks (k + 1)))
  | mark {firstChunk : Nat} (hmarking : s.control = .marking firstChunk) :
      Move o s .mark ((s.setChunkState firstChunk .Allocated).go .idle)
  | deallocate {id : Nat} (hidle : s.control = .idle) :
      Move o s (.deallocate id) { s.send (.Dealloc id) with held := s.held.erase id }
  | unlock {id : Nat} (hidle : s.control = .idle) :
      Move o s (.unlock id) (s.send (.Unlock id))
  | serve {c : Command} {queue : List Command} (hqueue : s.queue = c :: queue) :
      Move o s .serve ({ s with queue := queue }.serve o c)

theorem numChunks_lt {size k : Nat} (h : size < 2 ^ 32) :
    (if size % k = 0 then size / k else size / k + 1) < 2 ^ 32 := by
  have hdiv := Nat.div_le_self size k
  split
  · omega
  · next hmod =>
      have hsplit := Nat.div_add_mod size k
      rcases Nat.eq_zero_or_pos k with rfl | hpos
      · simp
      · have hle : size / k ≤ k * (size / k) := Nat.le_mul_of_pos_left _ hpos
        omega

/-- **The steps.** -/
theorem move_of_step {o : Options} {s s' : State} {a : Action} (h : step o s a = some s') :
    Move o s a s' := by
  cases a with
  | allocate size =>
      simp only [step] at h
      split at h
      · next hidle =>
          split at h
          · next hsize =>
              have hnum := numChunks_lt (k := o.chunkSize) hsize
              obtain ⟨newDefault, -, rfl⟩ := Option.map_eq_some_iff.mp h
              split
              · next hnone => exact .allocateFirst hidle hnone hnum
              · exact .allocate hidle hnum
          · cases h
      · cases h
  | search garbage =>
      simp only [step] at h
      split at h
      · next hsearch =>
          split at h
          · next hv =>
              cases h
              exact .found hsearch hv (.inl rfl)
          · split at h
            · next hv =>
                cases h
                exact .found hsearch hv (.inr rfl)
            · cases h
              exact .notFound hsearch
      · cases h
  | freeDeallocations =>
      simp only [step] at h
      split at h
      · next hidle =>
          cases h
          exact .freeDeallocations hidle
      · cases h
  | look id =>
      simp only [step] at h
      split at h
      · next hfreeing =>
          split at h
          · next hid =>
              split at h
              · next hword =>
                  cases h
                  exact .deallocated hfreeing hid hword
              · cases h
                exact .notDeallocated hfreeing hid
          · cases h
      · cases h
  | reclaim =>
      simp only [step] at h
      split at h
      · next hfreeing =>
          split at h
          · cases h
            exact .reclaim hfreeing (.inl rfl)
          · split at h
            · cases h
              exact .reclaim hfreeing (.inr ⟨_, _, rfl, .inl rfl⟩)
            · cases h
              exact .reclaim hfreeing (.inr ⟨_, _, rfl, .inr rfl⟩)
      · cases h
  | addNewHeapSegment failures =>
      simp only [step] at h
      split at h
      · next hidle =>
          cases h
          split
          · exact .addSegment hidle
          · exact .noSegment hidle
      · next hgrowing =>
          split at h
          · cases h
            exact .grow hgrowing
          · cases h
            exact .noGrow hgrowing
      · cases h
  | wait bTimedOut =>
      simp only [step] at h
      split at h
      · next hwaiting =>
          cases bTimedOut with
          | true =>
              cases h
              exact .timeout hwaiting
          | false =>
              cases h
              exact .retry hwaiting
      · cases h
  | mark =>
      simp only [step] at h
      split at h
      · next hmarking =>
          cases h
          exact .mark hmarking
      · cases h
  | deallocate id =>
      simp only [step] at h
      split at h
      · next hidle =>
          cases h
          exact .deallocate hidle
      · cases h
  | unlock id =>
      simp only [step] at h
      split at h
      · next hidle =>
          cases h
          exact .unlock hidle
      · cases h
  | serve =>
      simp only [step] at h
      split at h
      · cases h
      · next hqueue =>
          cases h
          exact .serve hqueue

section steps

variable {o : Options} {s s' : State} {a : Action}

theorem owners_freeAll (ids : List Nat) (s : State) :
    (State.freeAll o ids s).owners = s.owners := by
  induction ids generalizing s with
  | nil => rfl
  | cons id ids ih => exact ih _

theorem owners_finish {n : Nat} {a : Allocation} : s.owners <+: (s.finish o n a).owners := by
  unfold State.finish
  split
  · exact List.prefix_append _ _
  · exact List.prefix_refl _

/-- Who has owned chunks is never forgotten. -/
theorem owners_kept (h : Move o s a s') : s.owners <+: s'.owners := by
  cases h with
  | @allocateFirst _ numChunks newDefault =>
      have hset : (s.setDefaultSegmentSize newDefault).owners <+: _ :=
        owners_finish (o := o) (n := numChunks) (a := createAllocation 0 numChunks)
      exact hset
  | found => exact owners_finish
  | @grow failures numChunks =>
      have hadd : (s.addSegment o (s.client.newSegmentSize o failures)).owners <+: _ :=
        owners_finish (o := o) (n := numChunks)
          (a := createAllocation s.client.m_nChunks numChunks)
      exact hadd
  | reclaim => exact (owners_freeAll _ s) ▸ List.prefix_refl _
  | serve =>
      rename_i c queue hqueue
      cases c <;> exact List.prefix_refl _
  | _ => exact List.prefix_refl _

theorem fits_keys (c : Client) {retry : Option (Nat × Nat)} (h : ∀ r ∈ retry, r.1 < 2 ^ 32) :
    (Control.freeing c.m_cache.keys [] retry).Fits c := by
  refine ⟨?_, fun id hid => ?_, h⟩
  · rw [List.append_nil]
    exact c.m_cache.keys_nodup
  · rw [List.append_nil] at hid
    exact AList.mem_keys.mpr hid

/-- **The step lemma.** -/
theorem inv_step (h : step o s a = some s') (hI : Inv o s) (hfew : s'.owners.length < 2 ^ 32) :
    Inv o s' := by
  obtain ⟨ht, hfits⟩ := hI
  cases move_of_step h with
  | allocateFirst hidle hnone hnum =>
      refine (ht.setDefaultSegmentSize _).finish (fun hv => ?_) hfew
      have hsmall := valid_iff.mp hv
      refine ⟨fun j hj => ?_, (createAllocation_valid hnum hsmall.2.2.1 ?_).2.2⟩
      · have hmem : j ∈ s.client.m_allocations := hj
        rw [hnone] at hmem
        cases hmem
      · have hle := Nat.le_trans ht.client.nChunks_le (metaSize_le o)
        exact Nat.lt_of_lt_of_le hsmall.2.1 hle
  | @allocate _ _ newDefault hidle hnum =>
      have hset := ht.setDefaultSegmentSize newDefault
      exact ⟨⟨hset.client, hset.server, hset.queue, hset.touched, hset.room⟩, hnum⟩
  | found hsearch hv halloc =>
      have hnum : Control.Fits s.client (.searching _ _) := hsearch ▸ hfits
      refine ht.finish (fun _ => ?_) hfew
      rcases halloc with rfl | rfl
      · exact findFreeInMiddle_free ht.client.shape hnum hv
      · exact findFreeOnEnd_free ht.client.shape hnum hv
  | notFound hsearch =>
      have hnum : Control.Fits s.client (.searching _ _) := hsearch ▸ hfits
      refine ⟨⟨ht.client, ht.server, ht.queue, ht.touched, ht.room⟩,
        fits_keys s.client fun r hr => ?_⟩
      cases hr
      exact hnum
  | freeDeallocations =>
      exact ⟨⟨ht.client, ht.server, ht.queue, ht.touched, ht.room⟩, fits_keys s.client nofun⟩
  | @deallocated id todo ids retry hfreeing hid =>
      obtain ⟨hnodup, hmem, hretry⟩ : Control.Fits s.client (.freeing _ _ _) := hfreeing ▸ hfits
      have hperm : (todo.erase id ++ id :: ids).Perm (todo ++ ids) :=
        List.perm_middle.trans ((List.perm_cons_erase hid).symm.append_right ids)
      have hcached := hmem id (List.mem_append_left _ hid)
      have hfirst := Nat.lt_of_lt_of_le (ht.client.firstChunk_lt hcached) ht.client.nChunks_le
      refine ⟨⟨ht.client, ht.server, ht.queue, fun i hi => ?_, ht.room⟩,
        hperm.nodup_iff.mpr hnodup, fun i hi => hmem i (hperm.mem_iff.mp hi), hretry⟩
      rcases List.mem_cons.mp hi with rfl | hi
      · exact hfirst
      · exact ht.touched i hi
  | @notDeallocated id todo ids retry hfreeing hid =>
      obtain ⟨hnodup, hmem, hretry⟩ : Control.Fits s.client (.freeing _ _ _) := hfreeing ▸ hfits
      have hsub : (todo.erase id ++ ids).Sublist (todo ++ ids) :=
        List.erase_sublist.append_right ids
      have hcached := hmem id (List.mem_append_left _ hid)
      have hfirst := Nat.lt_of_lt_of_le (ht.client.firstChunk_lt hcached) ht.client.nChunks_le
      refine ⟨⟨ht.client, ht.server, ht.queue, fun i hi => ?_, ht.room⟩,
        hnodup.sublist hsub, fun i hi => hmem i (hsub.subset hi), hretry⟩
      rcases List.mem_cons.mp hi with rfl | hi
      · exact hfirst
      · exact ht.touched i hi
  | reclaim hfreeing hnext =>
      obtain ⟨hnodup, hmem, hretry⟩ : Control.Fits s.client (.freeing _ _ _) := hfreeing ▸ hfits
      have hfreed := ht.freeAll hnodup hmem
      refine ⟨⟨hfreed.client, hfreed.server, hfreed.queue, hfreed.touched, hfreed.room⟩, ?_⟩
      rcases hnext with rfl | ⟨n, k, rfl, rfl | rfl⟩
      · trivial
      · exact hretry _ rfl
      · exact hretry _ rfl
  | @addSegment failures hidle =>
      have hadded := ht.addSegment failures
      refine ⟨hadded, ?_⟩
      have hctl : (s.addSegment o (s.client.newSegmentSize o failures)).control = .idle := hidle
      rw [hctl]
      trivial
  | noSegment => exact ⟨ht, hfits⟩
  | @grow failures numChunks k hgrowing =>
      have hnum : Control.Fits s.client (.growing numChunks k) := hgrowing ▸ hfits
      have hadded := ht.addSegment failures
      exact hadded.finish (fun hv => newSegment_free ht.client.shape hnum hv hadded.client.shape) hfew
  | noGrow hgrowing =>
      have hnum : Control.Fits s.client (.growing _ _) := hgrowing ▸ hfits
      exact ⟨⟨ht.client, ht.server, ht.queue, ht.touched, ht.room⟩, hnum⟩
  | timeout => exact ⟨⟨ht.client, ht.server, ht.queue, ht.touched, ht.room⟩, trivial⟩
  | retry hwaiting =>
      have hnum : Control.Fits s.client (.waiting _ _) := hwaiting ▸ hfits
      exact ⟨⟨ht.client, ht.server, ht.queue, ht.touched, ht.room⟩, hnum⟩
  | mark hmarking =>
      have hfirst : Control.Fits s.client (.marking _) := hmarking ▸ hfits
      have hset := ht.setChunkState (Nat.lt_of_lt_of_le hfirst ht.client.nChunks_le) .Allocated
      exact ⟨⟨hset.client, hset.server, hset.queue, hset.touched, hset.room⟩, trivial⟩
  | @deallocate id hidle =>
      have hsent := ht.send (c := .Dealloc id) nofun
      refine ⟨⟨hsent.client, hsent.server, hsent.queue, hsent.touched, hsent.room⟩, ?_⟩
      have hctl : (s.send (.Dealloc id)).control = .idle := hidle
      rw [hctl]
      trivial
  | @unlock id hidle =>
      refine ⟨ht.send nofun, ?_⟩
      have hctl : (s.send (.Unlock id)).control = .idle := hidle
      rw [hctl]
      trivial
  | serve hqueue =>
      rename_i c queue
      refine ⟨ht.serve hqueue, ?_⟩
      cases c <;> exact hfits

end steps

theorem tables_empty {o : Options} (h : 0 < o.metaSize) : Inv o (empty o) where
  tables :=
    { client :=
        { laid := rfl
          cut := nofun
          heap := Nat.zero_le _
          ordered := Extent.ordered_nil
          inside := nofun
          known := nofun
          injective := nofun
          owned := nofun
          recent := fun id hid => absurd hid (AList.notMem_empty id)
          next := rfl
          size := (Nat.zero_mul _).symm }
      server := nofun
      queue := nofun
      touched := nofun
      room := h }
  control := trivial

theorem inv_start {o : Options} {failures : Nat} {s : State} (h : start o failures = some s) :
    Inv o s := by
  unfold start at h
  split at h
  · next hroom =>
      have hI := tables_empty hroom
      have hfew : s.owners.length < 2 ^ 32 := by
        cases move_of_step h with
        | addSegment => exact Nat.two_pow_pos 32
        | noSegment => exact Nat.two_pow_pos 32
        | grow hgrowing => cases hgrowing
        | noGrow hgrowing => cases hgrowing
      exact inv_step h hI hfew
  · cases h

theorem inv_exec {o : Options} {failures : Nat} {s : State} {as : List Action}
    (hr : exec o failures as = some s) (hfew : s.owners.length < 2 ^ 32) : Inv o s := by
  obtain ⟨s₀, h₀, hr⟩ := Option.bind_eq_some_iff.mp hr
  refine run_inv (I := fun s => s.owners.length < 2 ^ 32 → Inv o s) ?_ (fun _ => inv_start h₀) hr
    hfew
  intro s a s' hI h hfew
  have hle := (owners_kept (move_of_step h)).length_le
  exact inv_step h (hI (Nat.lt_of_le_of_lt hle hfew)) hfew

/-! ### Every run -/

/-- The tables of the client say the same. -/
structure Client.Agree (o : Options) (c : Client) : Prop where
  /-- The allocations are not empty, disjoint and in order. -/
  ordered : Extent.Ordered c.m_allocations
  /-- Each is below `m_nChunks` and in exactly one segment. -/
  inside : ∀ a ∈ c.m_allocations, a.final < c.m_nChunks ∧
    ∃! k : Nat, ∃ seg : Segment, c.m_segments[k]? = some seg ∧ seg.Contains a.first ∧
      seg.Contains a.final
  /-- The known ids are one for each. -/
  cache : Set.BijOn c.firstChunk {id | id ∈ c.m_cache}
    {f | ∃ a ∈ c.m_allocations, a.first = f}
  size : c.m_sizeAllocated = (c.m_allocations.map fun a => a.count * o.chunkSize).sum

theorem Client.Wf.agree {o : Options} {c : Client} {n : Nat} (h : c.Wf o n) : c.Agree o where
  ordered := h.ordered
  inside a ha := by
    obtain ⟨seg, hseg, hfirst, hfinal⟩ := h.inside a ha
    obtain ⟨k, hk⟩ := List.getElem?_of_mem hseg
    refine ⟨h.final_lt ha, k, ⟨seg, hk, hfirst, hfinal⟩, ?_⟩
    rintro j ⟨x, hx, hxc, -⟩
    exact h.laid.unique hx hxc hk hfirst
  cache := by
    have hsome {id : Nat} (hid : id ∈ c.m_cache) :
        c.m_cache.lookup id = some (c.firstChunk id) := by
      obtain ⟨f, hf⟩ := Option.isSome_iff_exists.mp (AList.lookup_isSome.mpr hid)
      rw [Client.firstChunk, hf, Option.getD_some]
    refine ⟨fun id hid => h.known id _ (hsome hid), fun id hid id' hid' heq => ?_, ?_⟩
    · have hid'' := hsome hid'
      rw [← heq] at hid''
      exact h.injective id id' _ (hsome hid) hid''
    · rintro f ⟨a, ha, rfl⟩
      obtain ⟨id, hid⟩ := h.owned a ha
      refine ⟨id, AList.lookup_isSome.mp (hid ▸ rfl), ?_⟩
      rw [Client.firstChunk, hid, Option.getD_some]
  size := by
    rw [h.size, Extent.total]
    induction c.m_allocations with
    | nil => exact Nat.zero_mul _
    | cons a allocs ih =>
        rw [List.map_cons, List.sum_cons, Nat.add_mul, ih, List.map_cons, List.sum_cons]

/-- **The tables agree.**  In every run of fewer than `2 ^ 32` allocations the client's tables say
the same, and the words that either process has used are words that there are. -/
theorem tables_agree {o : Options} {failures : Nat} {s : State} {as : List Action}
    (hr : exec o failures as = some s) (hfew : s.owners.length < 2 ^ 32) :
    s.client.Agree o ∧ ∀ i ∈ s.touched, i < o.metaSize := by
  have hI := inv_exec hr hfew
  exact ⟨hI.tables.client.agree, hI.tables.touched⟩

/-- Two allocations, the first of them freed and its chunks handed out again. -/
theorem tables_agree_reused :
    ∃ s, exec ⟨4096, 2 ^ 28⟩ 0 [.allocate 5000, .mark, .allocate 4096, .search 0, .mark,
        .deallocate 0, .serve, .serve, .serve, .serve, .freeDeallocations, .look 0, .look 1,
        .reclaim, .allocate 8192, .search 0, .mark] = some s ∧
      s.client.Agree ⟨4096, 2 ^ 28⟩ ∧ ∀ i ∈ s.touched, i < 2 ^ 19 := by
  have hr : exec ⟨4096, 2 ^ 28⟩ 0 [.allocate 5000, .mark, .allocate 4096, .search 0, .mark,
      .deallocate 0, .serve, .serve, .serve, .serve, .freeDeallocations, .look 0, .look 1,
      .reclaim, .allocate 8192, .search 0, .mark] = some _ := rfl
  exact ⟨_, hr, tables_agree hr (by decide)⟩

end RemixBridge.SharedHeap
