import RemixBridge.Channel.AtomicCircularQueue
import RemixBridge.Channel.DataQueue

/-!
# Channel — RoundTrip

The operations of `CircularQueue` and `CircularBuffer` on a writer's and on a reader's end, with
all they read and leave, and the round trip through the ring.  A null pointer is pushed as a size
of 0 and pulled as a null pointer; so is an object of no bytes.

* `footprint`: the words a sequence of pushes takes, its rollover gaps included.
* `Writer.run_store`: the operations leave what the pushes of `DataQueue` leave.
* `data_ring_round_trip`: a sequence that fits the ring is pulled as it was pushed, and the two
  positions agree after each operation.
-/

namespace RemixBridge.DataRing

/-- The writer's end: the words, `m_pos`, and the count of words pushed in a batch. -/
structure Writer where
  m_data : Memory
  m_pos : Nat
  m_batchInProgress : Bool
  m_batchSize : Nat

/-- The operations of the writer.  `pushObj` is `push(size, obj)`, of a null pointer or of the
`size` bytes it points to; `blob` is `begin_blob_push`, the bytes written to the blob, and
`end_blob_push`. -/
inductive WriterOp where
  | push (obj : Word)
  | pushMany (objs : List Word)
  | pushObj (obj : Option (List Byte))
  | blob (bytes : List Byte)
  deriving DecidableEq

/-- The operations of the reader: `pull()`, `pull(void**)`, and `pull_and_copy` to an object of
`sizeofV` bytes. -/
inductive ReaderOp where
  | pull
  | pullObj
  | pullAndCopy (sizeofV : Nat)
  deriving DecidableEq

/-- What a pull gives: a word, or a size and the bytes behind the pointer, if it is not null.
`pull_and_copy` gives `V()` where the pointer would be null. -/
inductive Pulled where
  | word (w : Word)
  | obj (size : Word) (bytes : Option (List Byte))
  deriving DecidableEq

variable (m_size : Nat)

/-- `ensure_space`: `none` is its fatal exit. -/
def ensureSpaceOrExit (m_pos size : Nat) : Option Nat :=
  if m_pos + chunkSize size ≥ m_size then
    if chunkSize size > m_size then none else some 0
  else some m_pos

namespace Writer

def pushImpl (w : Writer) (batchInProgress : Bool) (obj : Word) : Writer :=
  { w with
    m_data := w.m_data.setWord w.m_pos obj
    m_pos := pop m_size w.m_pos
    m_batchSize := if batchInProgress then w.m_batchSize + 1 else w.m_batchSize }

def push (w : Writer) (obj : Word) : Writer := w.pushImpl m_size w.m_batchInProgress obj

/-- The first statement of `push_many`. -/
def countBatch (w : Writer) (count : Nat) : Writer :=
  if w.m_batchInProgress then { w with m_batchSize := w.m_batchSize + count } else w

def pushMany (w : Writer) (objs : List Word) : Writer :=
  if m_size - w.m_pos > objs.length then
    { w.countBatch objs.length with
      m_data := storeWords (· + 1) w.m_data w.m_pos objs
      m_pos := w.m_pos + objs.length }
  else objs.foldl (fun w obj => w.pushImpl m_size false obj) (w.countBatch objs.length)

/-- The size word, `ensure_space`, the copy and `advance`. -/
def pushBytes (w : Writer) (bytes : List Byte) : Option Writer :=
  (ensureSpaceOrExit m_size (w.push m_size (BitVec.ofNat 32 bytes.length)).m_pos
    bytes.length).map fun start =>
      { w.push m_size (BitVec.ofNat 32 bytes.length) with
        m_data := (w.push m_size (BitVec.ofNat 32 bytes.length)).m_data.copy start bytes
        m_pos := start + chunkSize bytes.length }

/-- One operation, and what it returns. -/
def exec (w : Writer) : WriterOp → Option (Writer × Result)
  | .push obj            => some (w.push m_size obj, .Success)
  | .pushMany objs       => some (w.pushMany m_size objs, .Success)
  | .pushObj none        => some (w.push m_size 0, .Success)
  | .pushObj (some obj)  => (w.pushBytes m_size obj).map (·, .Success)
  | .blob bytes          =>
      (w.pushBytes m_size bytes).map
        (·, if chunkSize bytes.length ≠ 0 then .Success else .Failure)

/-- A sequence of operations. -/
def run : Writer → List WriterOp → Option Writer
  | w, []        => some w
  | w, op :: ops => (w.exec m_size op).bind fun r => run r.1 ops

end Writer

/-- One operation of the reader, and its position after it. -/
def pullOp (m_data : Memory) (m_pos : Nat) : ReaderOp → Option (Pulled × Nat)
  | .pull => some (.word (m_data.word m_pos), pop m_size m_pos)
  | .pullObj =>
      (ensureSpaceOrExit m_size (pop m_size m_pos) (m_data.word m_pos).toNat).map fun start =>
        (.obj (m_data.word m_pos)
          (if chunkSize (m_data.word m_pos).toNat ≠ 0 then
            some ((List.range (m_data.word m_pos).toNat).map fun i => m_data (4 * start + i))
          else none),
        start + chunkSize (m_data.word m_pos).toNat)
  | .pullAndCopy sizeofV =>
      (ensureSpaceOrExit m_size (pop m_size m_pos) (m_data.word m_pos).toNat).map fun start =>
        (.obj (m_data.word m_pos)
          (if chunkSize (m_data.word m_pos).toNat ≠ 0 then
            some ((List.range sizeofV).map fun i => m_data (4 * start + i))
          else none),
        start + chunkSize (m_data.word m_pos).toNat)

/-- A sequence of operations of the reader. -/
def pullAll (m_data : Memory) : Nat → List ReaderOp → Option (List Pulled × Nat)
  | m_pos, []        => some ([], m_pos)
  | m_pos, op :: ops =>
      (pullOp m_size m_data m_pos op).bind fun r =>
        (pullAll m_data r.2 ops).map fun rs => (r.1 :: rs.1, rs.2)

/-! ### Matching operations and footprints -/

/-- The push of `DataQueue` that an operation makes. -/
def WriterOp.toPush : WriterOp → Push
  | .push obj           => .word obj
  | .pushMany objs      => .many objs
  | .pushObj none       => .obj []
  | .pushObj (some obj) => .obj obj
  | .blob bytes         => .obj bytes

/-- The pull takes the datum: an object is taken by its pointer, or copied to a type of its
size. -/
def ReaderOp.Matches : ReaderOp → Datum → Prop
  | .pull, .word _              => True
  | .pullObj, .obj _            => True
  | .pullAndCopy sizeofV, .obj bytes => bytes = [] ∨ bytes.length = sizeofV
  | _, _                        => False

/-- What the pull of a datum gives. -/
def Datum.pulled : Datum → Pulled
  | .word w    => .word w
  | .obj bytes => .obj (BitVec.ofNat 32 bytes.length) (if bytes = [] then none else some bytes)

/-- The words left unused before an object that rolls over. -/
def gap (m_pos size : Nat) : Nat :=
  if m_pos + chunkSize size ≥ m_size then m_size - m_pos else 0

/-- The words an operation takes at `m_pos`. -/
def Push.footprint (m_pos : Nat) : Push → Nat
  | .word _    => 1
  | .many ws   => ws.length
  | .obj bytes => 1 + gap m_size (pop m_size m_pos) bytes.length + chunkSize bytes.length

/-- The words a sequence of operations takes from `m_pos` on. -/
def footprint : Nat → List WriterOp → Nat
  | _, []            => 0
  | m_pos, op :: ops =>
      op.toPush.footprint m_size m_pos +
        footprint ((m_pos + op.toPush.footprint m_size m_pos) % m_size) ops

variable {m_size : Nat}

theorem pushAbs_footprint (hn : 0 < m_size) (a : Nat) (p : Push) :
    p.item.pushAbs m_size a = a + p.footprint m_size (a % m_size) := by
  cases p with
  | word w => rfl
  | many ws => exact pullsAbs_replicate_word a ws.length
  | obj bytes =>
      have hlt : (a + 1) % m_size < m_size := Nat.mod_lt _ hn
      have hdiv := Nat.div_add_mod (a + 1) m_size
      show objStart m_size (a + 1) bytes.length + chunkSize bytes.length = _
      rw [Push.footprint, pop_mod hn, gap, objStart, Nat.mul_succ]
      split <;> omega

theorem Push.pushAbs_data (p : Push) (a : Nat) :
    p.item.pushAbs m_size a = pullsAbs m_size a (p.data.map Datum.pull) := by
  cases p with
  | word w => rfl
  | many ws =>
      rw [Item.pushAbs, Push.data, List.map_map]
      show pullsAbs m_size a (List.replicate ws.length .word) = _
      rw [← List.map_const']
      rfl
  | obj bytes => rfl

/-- The absolute position a sequence of operations ends at. -/
theorem pullsAbs_footprint (hn : 0 < m_size) (a : Nat) (ops : List WriterOp) :
    pullsAbs m_size a ((dataOf (ops.map WriterOp.toPush)).map Datum.pull) =
      a + footprint m_size (a % m_size) ops := by
  induction ops generalizing a with
  | nil => rfl
  | cons op ops ih =>
      have hcons : dataOf ((op :: ops).map WriterOp.toPush) =
          op.toPush.data ++ dataOf (ops.map WriterOp.toPush) := rfl
      rw [hcons, List.map_append, pullsAbs_append, ← Push.pushAbs_data, pushAbs_footprint hn, ih,
        footprint, Nat.mod_add_mod, Nat.add_assoc]

theorem chunkSize_le_footprint {bytes : List Byte} {ops : List WriterOp} {m_pos : Nat}
    (h : Push.obj bytes ∈ ops.map WriterOp.toPush) :
    chunkSize bytes.length < footprint m_size m_pos ops := by
  induction ops generalizing m_pos with
  | nil => cases h
  | cons op ops ih =>
      rw [List.map_cons] at h
      rw [footprint]
      rcases List.mem_cons.mp h with hop | h
      · rw [← hop, Push.footprint]
        omega
      · exact Nat.lt_add_left _ (ih h)

/-- What takes no more words than the ring has fits a lap. -/
theorem fitsLap_of_footprint (n : RingSize) {a : Nat} {ops : List WriterOp}
    (h : footprint n.size (a % n.size) ops ≤ n.size) :
    FitsLap n.size a (ops.map WriterOp.toPush) where
  obj bytes hb := by
    have hchunk : chunkSize bytes.length < n.size :=
      Nat.lt_of_lt_of_le (chunkSize_le_footprint hb) h
    have hword := n.lt_word
    refine ⟨hchunk, ?_⟩
    unfold chunkSize at hchunk
    omega
  lap := by
    rw [pullsAbs_footprint n.pos]
    exact Nat.add_le_add_left h a

/-! ### The writer -/

theorem pop_lt (hn : 0 < m_size) (m_pos : Nat) : pop m_size m_pos < m_size := Ring.next_lt hn

/-- Within the ring `ensure_space` does not exit. -/
theorem ensureSpaceOrExit_eq {m_pos size : Nat} (h : chunkSize size ≤ m_size) :
    ensureSpaceOrExit m_size m_pos size = some (ensureSpace m_size m_pos size) := by
  unfold ensureSpaceOrExit ensureSpace
  split
  · exact if_neg (Nat.not_lt.mpr h)
  · rfl

theorem Memory.copy_nil (mem : Memory) (pos : Nat) : mem.copy pos [] = mem :=
  funext fun _ => Memory.copy_of_not_mem id

namespace Writer

/-- The words an operation counts in a batch. -/
def counted : WriterOp → Nat
  | .pushMany objs => objs.length
  | _              => 1

/-- `m_batchSize` after `count` more words. -/
def batched (w : Writer) (count : Nat) : Nat :=
  if w.m_batchInProgress then w.m_batchSize + count else w.m_batchSize

theorem foldl_pushImpl (w : Writer) (objs : List Word) :
    objs.foldl (fun w obj => w.pushImpl m_size false obj) w =
      { w with
        m_data := storeWords (pop m_size) w.m_data w.m_pos objs
        m_pos := (pop m_size)^[objs.length] w.m_pos } := by
  induction objs generalizing w with
  | nil => rfl
  | cons obj objs ih =>
      rw [List.foldl_cons, ih]
      rfl

theorem countBatch_eq (w : Writer) (count : Nat) :
    w.countBatch count = { w with m_batchSize := w.batched count } := by
  unfold countBatch batched
  split <;> rfl

theorem pushMany_eq (w : Writer) (objs : List Word) :
    w.pushMany m_size objs =
      { w with
        m_data := (Push.many objs).store m_size w.m_data w.m_pos
        m_pos := (Push.many objs).item.pushPos m_size w.m_pos
        m_batchSize := w.batched objs.length } := by
  have hdata : (Push.many objs).store m_size w.m_data w.m_pos =
      if m_size - w.m_pos > objs.length then storeWords (· + 1) w.m_data w.m_pos objs
      else storeWords (pop m_size) w.m_data w.m_pos objs := rfl
  have hpos : (Push.many objs).item.pushPos m_size w.m_pos =
      if m_size - w.m_pos > objs.length then w.m_pos + objs.length
      else (pop m_size)^[objs.length] w.m_pos := rfl
  rw [pushMany, countBatch_eq, hdata, hpos]
  by_cases h : m_size - w.m_pos > objs.length
  · rw [if_pos h, if_pos h, if_pos h]
  · rw [if_neg h, if_neg h, if_neg h, foldl_pushImpl]

theorem pushBytes_eq (w : Writer) {bytes : List Byte} (h : chunkSize bytes.length ≤ m_size) :
    w.pushBytes m_size bytes = some
      { w with
        m_data := (Push.obj bytes).store m_size w.m_data w.m_pos
        m_pos := (Push.obj bytes).item.pushPos m_size w.m_pos
        m_batchSize := w.batched 1 } := by
  unfold pushBytes
  rw [ensureSpaceOrExit_eq h]
  rfl

/-- **What an operation leaves** is what the push it makes leaves. -/
theorem exec_store (hn : 0 < m_size) (w : Writer) (op : WriterOp)
    (h : ∀ bytes, op.toPush = .obj bytes → chunkSize bytes.length ≤ m_size) :
    ∃ r, w.exec m_size op = some
      ({ w with
        m_data := op.toPush.store m_size w.m_data w.m_pos
        m_pos := op.toPush.item.pushPos m_size w.m_pos
        m_batchSize := w.batched (counted op) }, r) := by
  cases op with
  | push obj => exact ⟨.Success, rfl⟩
  | pushMany objs => exact ⟨.Success, by rw [exec, pushMany_eq]; rfl⟩
  | pushObj obj =>
      cases obj with
      | some obj => exact ⟨.Success, by rw [exec, pushBytes_eq w (h obj rfl)]; rfl⟩
      | none =>
          have hpos : ensureSpace m_size (pop m_size w.m_pos) 0 = pop m_size w.m_pos :=
            if_neg (Nat.not_le_of_lt (pop_lt hn w.m_pos))
          refine ⟨.Success, congrArg some (Prod.ext ?_ rfl)⟩
          simp only [WriterOp.toPush, Push.store, Push.item, Item.pushPos, Memory.copy_nil,
            List.length_nil, hpos]
          rfl
  | blob bytes =>
      refine ⟨if chunkSize bytes.length ≠ 0 then .Success else .Failure, ?_⟩
      rw [exec, pushBytes_eq w (h bytes rfl)]
      rfl

/-- **What a sequence of operations leaves** is what its pushes leave. -/
theorem run_store (hn : 0 < m_size) (ops : List WriterOp) (w : Writer)
    (h : ∀ bytes, Push.obj bytes ∈ ops.map WriterOp.toPush → chunkSize bytes.length ≤ m_size) :
    ∃ w', w.run m_size ops = some w' ∧
      (w'.m_data, w'.m_pos) = store m_size w.m_data w.m_pos (ops.map WriterOp.toPush) := by
  induction ops generalizing w with
  | nil => exact ⟨w, rfl, rfl⟩
  | cons op ops ih =>
      obtain ⟨r, hexec⟩ := exec_store hn w op fun bytes hb => h bytes (hb ▸ List.mem_cons_self)
      obtain ⟨w', hrun, hstore⟩ := ih
        { w with
          m_data := op.toPush.store m_size w.m_data w.m_pos
          m_pos := op.toPush.item.pushPos m_size w.m_pos
          m_batchSize := w.batched (counted op) }
        fun bytes hb => h bytes (List.mem_cons_of_mem _ hb)
      exact ⟨w', by rw [Writer.run, hexec]; exact hrun, hstore⟩

theorem run_push (w : Writer) (objs : List Word) :
    w.run m_size (objs.map WriterOp.push) = some
      { w with
        m_data := storeWords (pop m_size) w.m_data w.m_pos objs
        m_pos := (pop m_size)^[objs.length] w.m_pos
        m_batchSize := w.batched objs.length } := by
  induction objs generalizing w with
  | nil =>
      show some w = _
      unfold batched
      split <;> rfl
  | cons obj objs ih =>
      have hstep : w.run m_size ((obj :: objs).map WriterOp.push) =
          (w.push m_size obj).run m_size (objs.map WriterOp.push) := rfl
      have hbatched : (w.push m_size obj).batched objs.length = w.batched (obj :: objs).length := by
        unfold batched push pushImpl
        dsimp only
        split
        · rw [List.length_cons]
          omega
        · rfl
      rw [hstep, ih, hbatched]
      rfl

/-- **`push_many` is that many pushes**, at every position and for any number of words. -/
theorem run_pushMany (hn : 0 < m_size) {w : Writer} (hpos : w.m_pos < m_size) (objs : List Word) :
    w.run m_size [.pushMany objs] = w.run m_size (objs.map WriterOp.push) := by
  rw [run_push]
  show some (w.pushMany m_size objs) = _
  rw [pushMany_eq]
  have hmod : w.m_pos % m_size = w.m_pos := Nat.mod_eq_of_lt hpos
  have hiter := iterate_pop_mod hn w.m_pos objs.length
  have hmany := Item.pushPos_mod hn w.m_pos (.many objs.length) nofun
  rw [Item.pushAbs, Item.pulls, pullsAbs_replicate_word, ← hiter, hmod] at hmany
  have hdata : (Push.many objs).store m_size w.m_data w.m_pos =
      storeWords (pop m_size) w.m_data w.m_pos objs := by
    rw [Push.store]
    split
    · exact storeWords_direct _ ‹_›
    · rfl
  rw [hdata, Push.item, hmany]

end Writer

/-! ### The reader -/

theorem chunkSize_eq_zero {size : Nat} : chunkSize size = 0 ↔ size = 0 := by
  unfold chunkSize
  omega

/-- An object that is there, taken as `size` bytes. -/
theorem pullObj_at {mem : Memory} {m_pos size : Nat} {bytes : List Byte}
    (hd : (Datum.obj bytes).At m_size mem m_pos) (hchunk : chunkSize bytes.length ≤ m_size)
    (hlen : bytes = [] ∨ bytes.length = size) :
    ((ensureSpaceOrExit m_size (pop m_size m_pos) (mem.word m_pos).toNat).map fun start =>
      (Pulled.obj (mem.word m_pos)
        (if chunkSize (mem.word m_pos).toNat ≠ 0 then
          some ((List.range size).map fun i => mem (4 * start + i)) else none),
      start + chunkSize (mem.word m_pos).toNat)) =
    some ((Datum.obj bytes).pulled, pullPos m_size m_pos (.obj bytes.length)) := by
  obtain ⟨hsize, hbytes⟩ := hd
  have hword : mem.word m_pos = BitVec.ofNat 32 bytes.length := by
    rw [← hsize, BitVec.ofNat_toNat, BitVec.setWidth_eq]
  rw [hsize, ensureSpaceOrExit_eq hchunk, hword, Option.map_some, Datum.pulled]
  have hzero : chunkSize bytes.length = 0 ↔ bytes = [] :=
    chunkSize_eq_zero.trans List.length_eq_zero_iff
  by_cases hnil : bytes = []
  · rw [if_pos hnil, if_neg (not_not.mpr (hzero.mpr hnil))]
    rfl
  · rw [if_neg hnil, if_pos (mt hzero.mp hnil), ← hlen.resolve_left hnil]
    have heq : ((List.range bytes.length).map fun i =>
        mem (4 * ensureSpace m_size (pop m_size m_pos) bytes.length + i)) = bytes := by
      refine List.ext_getElem (by simp) fun i hi hi' => ?_
      rw [List.getElem_map, List.getElem_range]
      exact hbytes i hi'
    rw [heq]
    rfl

/-- What the pull of a datum that is there gives, and where it leaves the reader. -/
theorem pullOp_at {mem : Memory} {m_pos : Nat} {op : ReaderOp} {d : Datum}
    (hop : op.Matches d) (hd : d.At m_size mem m_pos)
    (hfit : ∀ size, d.pull = .obj size → chunkSize size ≤ m_size) :
    pullOp m_size mem m_pos op = some (d.pulled, pullPos m_size m_pos d.pull) := by
  cases op with
  | pull =>
      cases d with
      | word w => exact congrArg (fun v => some (Pulled.word v, pop m_size m_pos)) hd
      | obj bytes => cases hop
  | pullObj =>
      cases d with
      | word w => cases hop
      | obj bytes =>
          have h := pullObj_at hd (hfit _ rfl) (.inr rfl)
          have hsize : (mem.word m_pos).toNat = bytes.length := hd.1
          rw [← hsize] at h
          rw [pullOp, h, hsize]
          rfl
  | pullAndCopy sizeofV =>
      cases d with
      | word w => cases hop
      | obj bytes => exact pullObj_at hd (hfit _ rfl) hop

/-- What the pulls of data that are there give, and where they leave the reader. -/
theorem pullAll_holds {mem : Memory} {e : Nat} {ops : List ReaderOp} {ds : List Datum}
    (hops : List.Forall₂ ReaderOp.Matches ops ds) {m_pos : Nat}
    (hd : Holds m_size mem m_pos ds e)
    (hfit : ∀ size, Pull.obj size ∈ ds.map Datum.pull → chunkSize size ≤ m_size) :
    pullAll m_size mem m_pos ops = some (ds.map Datum.pulled, e) := by
  induction hops generalizing m_pos with
  | nil => exact congrArg (fun p => some ([], p)) hd
  | cons hop hops ih =>
      rw [pullAll, pullOp_at hop hd.1 fun size hs => hfit size (hs ▸ List.mem_cons_self),
        Option.bind_some, ih hd.2 fun size hs => hfit size (List.mem_cons_of_mem _ hs)]
      rfl

/-- Where data that are there end. -/
theorem Holds.end_eq {mem : Memory} {e m_pos : Nat} {ds : List Datum}
    (h : Holds m_size mem m_pos ds e) :
    e = (ds.map Datum.pull).foldl (pullPos m_size) m_pos := by
  induction ds generalizing m_pos with
  | nil => exact h.symm
  | cons d ds ih => exact ih h.2

theorem foldl_pullPos_mod (hn : 0 < m_size) (a : Nat) {ps : List Pull}
    (h : ∀ size, Pull.obj size ∈ ps → chunkSize size < m_size) :
    ps.foldl (pullPos m_size) (a % m_size) = pullsAbs m_size a ps % m_size := by
  induction ps generalizing a with
  | nil => rfl
  | cons p ps ih =>
      rw [List.foldl_cons, pullPos_mod hn a fun size hs => h size (hs ▸ List.mem_cons_self),
        ih _ fun size hs => h size (List.mem_cons_of_mem _ hs)]
      rfl

/-! ### The round trip -/

/-- **Data-ring round trip.**  From any common position, operations that with their rollover gaps
take no more words than the ring has are pulled as they were pushed, by any matching operations of
the reader, and after each of them the reader is where the writer was.  And `push_many` does what
as many pushes do, from any position and for any number of words. -/
theorem data_ring_round_trip (n : RingSize) (w : Writer) (hpos : w.m_pos < n.size)
    (ops : List WriterOp) (hfit : footprint n.size w.m_pos ops ≤ n.size) :
    (∃ w', w.run n.size ops = some w' ∧
      ∀ done todo, ops = done ++ todo → ∃ wd, w.run n.size done = some wd ∧
        ∀ reads, List.Forall₂ ReaderOp.Matches reads (dataOf (done.map WriterOp.toPush)) →
          pullAll n.size w'.m_data w.m_pos reads =
            some ((dataOf (done.map WriterOp.toPush)).map Datum.pulled, wd.m_pos)) ∧
    ∀ (v : Writer) (objs : List Word), v.m_pos < n.size →
      v.run n.size [.pushMany objs] = v.run n.size (objs.map WriterOp.push) := by
  have hmod : w.m_pos % n.size = w.m_pos := Nat.mod_eq_of_lt hpos
  have hlap : FitsLap n.size w.m_pos (ops.map WriterOp.toPush) :=
    fitsLap_of_footprint n (by rwa [hmod])
  refine ⟨?_, fun v objs hv => Writer.run_pushMany n.pos hv objs⟩
  obtain ⟨w', hrun, hstore⟩ :=
    Writer.run_store n.pos ops w fun bytes hb => (hlap.obj bytes hb).1.le
  refine ⟨w', hrun, fun done todo hsplit => ?_⟩
  subst hsplit
  rw [List.map_append] at hlap hstore
  have hdone : FitsLap n.size w.m_pos (done.map WriterOp.toPush) :=
    { obj := fun bytes hb => hlap.obj bytes (List.mem_append_left _ hb)
      lap := by
        refine Nat.le_trans ?_ hlap.lap
        rw [dataOf_append, List.map_append, pullsAbs_append]
        exact le_pullsAbs n.pos _ _ }
  obtain ⟨wd, hrun_done, hstore_done⟩ :=
    Writer.run_store n.pos done w fun bytes hb => (hdone.obj bytes hb).1.le
  refine ⟨wd, hrun_done, fun reads hreads => ?_⟩
  have hholds := holds_store n.pos w.m_data hlap
  rw [hmod, ← hstore, dataOf_append] at hholds
  have hposd : wd.m_pos = ((dataOf (done.map WriterOp.toPush)).map Datum.pull).foldl
      (pullPos n.size) w.m_pos := by
    have hfold := foldl_pullPos_mod n.pos w.m_pos fun size hs => (hdone.data size hs).1
    have hdata := store_data n.pos w.m_data w.m_pos _ fun bytes hb => (hdone.obj bytes hb).1
    have hend := store_data_pos n.pos (fun size hs => (hdone.data size hs).1) w.m_data w.m_pos
    rw [hmod] at hfold hdata hend
    rw [hfold, ← hend, dataOf, ← hdata, ← hstore_done]
  obtain ⟨m, hm, -⟩ := holds_append.mp hholds
  rw [hposd, ← hm.end_eq]
  exact pullAll_holds hreads hm fun size hs => (hdone.data size hs).1.le

/-- A ring of 4 words entered at word 1: a word, then an object that rolls over. -/
theorem data_ring_round_trip_rollover :
    ∃ w', Writer.run 4 ⟨fun _ => 0, 1, false, 0⟩ [.pushMany [7], .blob [1, 2]] = some w' ∧
      pullAll 4 w'.m_data 1 [.pull, .pullObj] =
        some ([.word 7, .obj 2 (some [1, 2])], w'.m_pos) := by
  have h := data_ring_round_trip ⟨4, by decide, by decide⟩ ⟨fun _ => 0, 1, false, 0⟩
    (show 1 < 4 by decide) [.pushMany [7], .blob [1, 2]] (show footprint 4 1 _ ≤ 4 by decide)
  obtain ⟨⟨w', hrun, hread⟩, -⟩ := h
  obtain ⟨wd, hdone, hpull⟩ := hread [.pushMany [7], .blob [1, 2]] [] rfl
  rw [hrun] at hdone
  cases hdone
  exact ⟨w', hrun, hpull _ (.cons trivial (.cons trivial .nil))⟩

end RemixBridge.DataRing
