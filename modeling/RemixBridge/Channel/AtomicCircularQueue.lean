import RemixBridge.Support.Runs
import RemixBridge.Support.Ring
import Mathlib.Tactic.Common

/-!
# Channel — AtomicCircularQueue

The command queue of `util_atomiccircularqueue.h`: one producer, one consumer, two indices in
shared memory.  `mWrite` is the index the consumer stores and the producer loads, `mRead` the one
the producer publishes and the consumer loads; each side tests against its own copy of the other
side's index, and the producer publishes its private `mLocalWrite` late.

Each step is one access to shared memory with the local code around it, so a run is an
interleaving.  `pushed` and `pulled` are history: the elements the producer has stored and the
elements the consumer has taken, in order.

* `Queue.Inv`: the four indices as remainders of the two counts, and what the slots hold.
* `fifo`: on every run, what was pulled is a prefix of what was pushed.
* `push_reports`, `pull_returns`: what a call reports is what it pushed or pulled.
-/

namespace RemixBridge

/-- What an operation on a channel reports (`util_common.h`). -/
inductive Result where
  | Success
  | Timeout
  | Failure
  deriving DecidableEq, Repr

end RemixBridge

namespace RemixBridge.AtomicCircularQueue
open Runs

/-- `m_queueSize`: a `uint32_t` option, of which a queue needs two slots. -/
structure QueueSize where
  size : Nat
  two_le : 2 ≤ size
  lt_word : size < 2 ^ 32

/-- `queueIdxInc`, in `uint32_t` arithmetic. -/
def queueIdxInc (n : QueueSize) (idx : Nat) : Nat :=
  if (idx + 1) % 2 ^ 32 < n.size then (idx + 1) % 2 ^ 32 else 0

/-- Where the producer is in `push`; `start` is the clock reading of the first wait. -/
inductive ProducerPC (T : Type) where
  | idle
  | top (obj : T) (start : Nat)
  | test (obj : T) (start : Nat)
  | stored
  | full (obj : T) (start : Nat)
  | waiting (obj : T) (start : Nat)
  deriving DecidableEq, Repr

/-- The two operations of the consumer. -/
inductive ConsumerOp where
  | peek
  | pull
  deriving DecidableEq, Repr

/-- Where the consumer is in `peek` or `pull`. -/
inductive ConsumerPC where
  | idle
  | top (op : ConsumerOp) (start : Nat)
  | test (op : ConsumerOp) (start : Nat)
  | slot (op : ConsumerOp)
  | taken
  | waiting (op : ConsumerOp) (start : Nat)
  deriving DecidableEq, Repr

/-- The shared words, each side's indices, and the history. -/
structure Core (T : Type) where
  mWrite : Nat
  mRead : Nat
  mData : Nat → T
  mCachedConsumer : Nat
  mLocalWrite : Nat
  mPending : Nat
  mPublishBatch : Nat
  mCachedProducer : Nat
  pushed : List T
  pulled : List T

/-- The queue, with where each process is and what its last call reported: `result` is the
variable the consumer's caller passes by reference, `returned` the element it was given. -/
structure Queue (T : Type) extends Core T where
  producer : ProducerPC T
  pushResult : Result
  mLastPulled : T
  consumer : ConsumerPC
  result : Result
  returned : T

/-- The steps of the two processes. -/
inductive Act (T : Type) where
  | setPublishBatch (n : Nat)
  | flush
  | push (obj : T)
  | producer
  | producerClock (timeoutMS curTick : Nat)
  | consume (op : ConsumerOp) (result : Result)
  | consumer
  | consumerClock (timeoutMS curTick : Nat) (earlyOut : Bool)
  deriving DecidableEq, Repr

variable {T : Type}

/-- The actions of the consumer. -/
def Act.ofConsumer : Act T → Bool
  | .consume _ _ | .consumer | .consumerClock _ _ _ => true
  | _ => false

/-- A queue as its two constructors leave it; `m_default` fills the slots. -/
def start (m_default : T) : Queue T where
  mWrite := 0
  mRead := 0
  mData := fun _ => m_default
  mCachedConsumer := 0
  mLocalWrite := 0
  mPending := 0
  mPublishBatch := 1
  mCachedProducer := 0
  pushed := []
  pulled := []
  producer := .idle
  pushResult := .Success
  mLastPulled := m_default
  consumer := .idle
  result := .Success
  returned := m_default

/-- `setPublishBatch`. -/
def Core.setPublishBatch (q : Core T) (n : Nat) : Core T :=
  { q with mPublishBatch := if n ≠ 0 then n else 1 }

/-- `flush`. -/
def Core.flush (q : Core T) : Core T :=
  if q.mPending ≠ 0 then { q with mRead := q.mLocalWrite, mPending := 0 } else q

/-- The refresh of `m_cachedConsumer`, at the head of `push`'s loop. -/
def Core.loadConsumer (n : QueueSize) (q : Core T) : Core T :=
  if queueIdxInc n q.mLocalWrite = q.mCachedConsumer then { q with mCachedConsumer := q.mWrite }
  else q

/-- The slot store of `push` and the local updates after it. -/
def Core.store (n : QueueSize) (q : Core T) (obj : T) : Core T :=
  { q with
    mData := Function.update q.mData q.mLocalWrite obj
    mLocalWrite := queueIdxInc n q.mLocalWrite
    mPending := (q.mPending + 1) % 2 ^ 32
    pushed := q.pushed ++ [obj] }

/-- The publication of `push`, every `m_publishBatch` elements. -/
def Core.publish (q : Core T) : Core T :=
  if q.mPending ≥ q.mPublishBatch then { q with mRead := q.mLocalWrite, mPending := 0 } else q

/-- The refresh of `m_cachedProducer`, at the head of the loops of `peek` and `pull`. -/
def Core.loadProducer (q : Core T) : Core T :=
  if q.mWrite = q.mCachedProducer then { q with mCachedProducer := q.mRead } else q

/-- The store of the consumer's index, after the element was copied out. -/
def Core.take (n : QueueSize) (q : Core T) (obj : T) : Core T :=
  { q with mWrite := queueIdxInc n q.mWrite, pulled := q.pulled ++ [obj] }

/-- `start > 0 ? start : curTick`. -/
def firstTick (start curTick : Nat) : Nat := if start > 0 then start else curTick

/-- The loop condition of `push`, `peek` and `pull`, in `ULONGLONG` arithmetic. -/
def keepsWaiting (timeoutMS start curTick : Nat) : Bool :=
  timeoutMS == 0 || decide ((start + timeoutMS) % 2 ^ 64 > curTick)

/-- One step inside `push`. -/
def Queue.producerStep (n : QueueSize) (q : Queue T) : Option (Queue T) :=
  match q.producer with
  | .top obj start  =>
      some { q with toCore := q.toCore.loadConsumer n, producer := .test obj start }
  | .test obj start =>
      if queueIdxInc n q.mLocalWrite ≠ q.mCachedConsumer then
        some { q with toCore := q.toCore.store n obj, producer := .stored }
      else some { q with producer := .full obj start }
  | .stored         =>
      some { q with toCore := q.toCore.publish, producer := .idle, pushResult := .Success }
  | .full obj start => some { q with toCore := q.toCore.flush, producer := .waiting obj start }
  | _               => none

/-- The clock reading and the loop test of `push`. -/
def Queue.producerClock (q : Queue T) (timeoutMS curTick : Nat) : Option (Queue T) :=
  match q.producer with
  | .waiting obj start =>
      if keepsWaiting timeoutMS (firstTick start curTick) curTick then
        some { q with producer := .top obj (firstTick start curTick) }
      else some { q with producer := .idle, pushResult := .Failure }
  | _ => none

/-- One step inside `peek` or `pull`: the refresh, the test, the slot load, and, for `pull`, the
store of the consumer's index. -/
def Queue.consumerStep (n : QueueSize) (q : Queue T) : Option (Queue T) :=
  match q.consumer with
  | .top op start  => some { q with toCore := q.toCore.loadProducer, consumer := .test op start }
  | .test op start =>
      if q.mWrite ≠ q.mCachedProducer then some { q with consumer := .slot op }
      else some { q with consumer := .waiting op start }
  | .slot .peek    =>
      some { q with consumer := .idle, result := .Success, returned := q.mData q.mWrite }
  | .slot .pull    => some { q with consumer := .taken, mLastPulled := q.mData q.mWrite }
  | .taken         =>
      some { q with
        toCore := q.toCore.take n q.mLastPulled
        consumer := .idle
        result := .Success
        returned := q.mLastPulled }
  | _              => none

/-- The clock reading, the early-out test and the loop test of `peek` and `pull`.  On a plain
timeout `peek` sets `result` and `pull` leaves it as the caller passed it. -/
def Queue.consumerClock (m_default : T) (q : Queue T) (timeoutMS curTick : Nat)
    (earlyOut : Bool) : Option (Queue T) :=
  match q.consumer with
  | .waiting op start =>
      if earlyOut then
        some { q with consumer := .idle, result := .Timeout, returned := m_default }
      else if keepsWaiting timeoutMS (firstTick start curTick) curTick then
        some { q with consumer := .top op (firstTick start curTick) }
      else match op with
        | .peek => some { q with consumer := .idle, result := .Timeout, returned := m_default }
        | .pull => some { q with consumer := .idle, returned := m_default }
  | _ => none

/-- The steps of both processes.  A call starts only where the process is in no other call. -/
def step (n : QueueSize) (m_default : T) (q : Queue T) : Act T → Option (Queue T)
  | .setPublishBatch k =>
      match q.producer with
      | .idle => some { q with toCore := q.toCore.setPublishBatch k }
      | _     => none
  | .flush =>
      match q.producer with
      | .idle => some { q with toCore := q.toCore.flush }
      | _     => none
  | .push obj =>
      match q.producer with
      | .idle => some { q with producer := .top obj 0 }
      | _     => none
  | .producer => q.producerStep n
  | .producerClock timeoutMS curTick => q.producerClock timeoutMS curTick
  | .consume op result =>
      match q.consumer with
      | .idle => some { q with consumer := .top op 0, result := result }
      | _     => none
  | .consumer => q.consumerStep n
  | .consumerClock timeoutMS curTick earlyOut =>
      q.consumerClock m_default timeoutMS curTick earlyOut

/-! ### The invariant -/

/-- What the indices and the slots hold between any two steps.  Each index is a remainder of a
count: `mLocalWrite` of the elements stored, `mRead` of those published, `mWrite` of those taken,
and each cached copy of a count its owner had at some earlier moment. -/
structure Core.Inv (n : QueueSize) (q : Core T) : Prop where
  published : q.pulled.length + q.mPending ≤ q.pushed.length
  room : q.pushed.length < q.pulled.length + n.size
  localWrite : q.mLocalWrite = q.pushed.length % n.size
  write : q.mWrite = q.pulled.length % n.size
  read : q.mRead = (q.pushed.length - q.mPending) % n.size
  cachedConsumer : ∃ c ≤ q.pulled.length, q.mCachedConsumer = c % n.size ∧
    q.pushed.length < c + n.size
  cachedProducer : ∃ p, q.pulled.length ≤ p ∧ p + q.mPending ≤ q.pushed.length ∧
    q.mCachedProducer = p % n.size
  slots : ∀ i, q.pulled.length ≤ i → i < q.pushed.length →
    q.pushed[i]? = some (q.mData (i % n.size))
  inOrder : q.pulled <+: q.pushed

/-- The consumer has passed its test and has not yet stored its index. -/
def ConsumerPC.AtFront : ConsumerPC → Prop
  | .slot _ => True
  | .taken  => True
  | _       => False

/-- The invariant of the queue: past its test the consumer's copy still says that the queue is
not empty, and past the slot load it holds the front element. -/
structure Queue.Inv (n : QueueSize) (q : Queue T) : Prop where
  core : q.toCore.Inv n
  front : q.consumer.AtFront → q.mWrite ≠ q.mCachedProducer
  lastPulled : q.consumer = .taken → q.pushed[q.pulled.length]? = some q.mLastPulled

theorem QueueSize.pos (n : QueueSize) : 0 < n.size := Nat.zero_lt_of_lt n.two_le

/-- In range, the `uint32_t` increment steps a remainder to the next. -/
theorem queueIdxInc_mod (n : QueueSize) (k : Nat) :
    queueIdxInc n (k % n.size) = (k + 1) % n.size := by
  have h₁ : k % n.size < n.size := Nat.mod_lt k n.pos
  have h₂ : (k % n.size + 1) % 2 ^ 32 = k % n.size + 1 :=
    Nat.mod_eq_of_lt (by have := n.lt_word; omega)
  rw [← Ring.next_mod n.pos]
  unfold queueIdxInc Ring.next
  rw [h₂]

theorem inv_start (n : QueueSize) (m_default : T) : (start m_default).Inv n where
  core :=
    { published := Nat.le_refl 0
      room := by simpa [start] using n.pos
      localWrite := (Nat.zero_mod n.size).symm
      write := (Nat.zero_mod n.size).symm
      read := (Nat.zero_mod n.size).symm
      cachedConsumer :=
        ⟨0, Nat.le_refl 0, (Nat.zero_mod n.size).symm, by simpa [start] using n.pos⟩
      cachedProducer := ⟨0, Nat.le_refl 0, Nat.le_refl 0, (Nat.zero_mod n.size).symm⟩
      slots := fun i _ h => absurd h (Nat.not_lt_zero i)
      inOrder := List.prefix_rfl }
  front := False.elim
  lastPulled := nofun

/-! ### What each operation keeps -/

namespace Core.Inv

variable {n : QueueSize} {q : Core T}

/-- When the full test of `push` fails, the slot after the last one is free, even by the cached
copy of the consumer's index. -/
theorem room_of_test (h : q.Inv n) (ht : queueIdxInc n q.mLocalWrite ≠ q.mCachedConsumer) :
    ∃ c ≤ q.pulled.length, q.mCachedConsumer = c % n.size ∧
      q.pushed.length + 1 < c + n.size := by
  obtain ⟨c, hc, hcc, hlt⟩ := h.cachedConsumer
  refine ⟨c, hc, hcc, ?_⟩
  by_contra hno
  have hfull : q.pushed.length + 1 = c + n.size := by omega
  apply ht
  rw [h.localWrite, hcc, queueIdxInc_mod, hfull, Nat.add_mod_right]

/-- When the empty test of `peek` and `pull` fails, the front element is published, even by the
cached copy of the producer's index. -/
theorem front_of_test (h : q.Inv n) (ht : q.mWrite ≠ q.mCachedProducer) :
    ∃ p, q.pulled.length < p ∧ p + q.mPending ≤ q.pushed.length ∧
      q.mCachedProducer = p % n.size := by
  obtain ⟨p, hp, hpq, hcp⟩ := h.cachedProducer
  refine ⟨p, Nat.lt_of_le_of_ne hp ?_, hpq, hcp⟩
  rintro rfl
  exact ht (h.write.trans hcp.symm)

/-- Publishing every pending element keeps the invariant. -/
theorem publishAll (h : q.Inv n) :
    Core.Inv n { q with mRead := q.mLocalWrite, mPending := 0 } where
  published := Nat.le_of_add_right_le h.published
  room := h.room
  localWrite := h.localWrite
  write := h.write
  read := h.localWrite
  cachedConsumer := h.cachedConsumer
  cachedProducer := by
    obtain ⟨p, hp, hpq, hcp⟩ := h.cachedProducer
    exact ⟨p, hp, Nat.le_of_add_right_le hpq, hcp⟩
  slots := h.slots
  inOrder := h.inOrder

theorem flush (h : q.Inv n) : q.flush.Inv n := by
  unfold Core.flush
  split
  · exact h.publishAll
  · exact h

theorem publish (h : q.Inv n) : q.publish.Inv n := by
  unfold Core.publish
  split
  · exact h.publishAll
  · exact h

theorem setPublishBatch (h : q.Inv n) (k : Nat) : (q.setPublishBatch k).Inv n :=
  ⟨h.published, h.room, h.localWrite, h.write, h.read, h.cachedConsumer, h.cachedProducer,
    h.slots, h.inOrder⟩

theorem loadConsumer (h : q.Inv n) : (q.loadConsumer n).Inv n := by
  unfold Core.loadConsumer
  split
  · exact { h with cachedConsumer := ⟨q.pulled.length, Nat.le_refl _, h.write, h.room⟩ }
  · exact h

theorem loadProducer (h : q.Inv n) : q.loadProducer.Inv n := by
  have hle : q.pulled.length + q.mPending ≤ q.pushed.length := h.published
  have h₁ : q.pulled.length ≤ q.pushed.length - q.mPending := by omega
  have h₂ : q.pushed.length - q.mPending + q.mPending ≤ q.pushed.length := by omega
  unfold Core.loadProducer
  split
  · exact { h with cachedProducer := ⟨q.pushed.length - q.mPending, h₁, h₂, h.read⟩ }
  · exact h

/-- A store into a free slot leaves the unread slots alone. -/
theorem store (h : q.Inv n) (obj : T) (ht : queueIdxInc n q.mLocalWrite ≠ q.mCachedConsumer) :
    (q.store n obj).Inv n := by
  obtain ⟨c, hc, hcc, hroom⟩ := h.room_of_test ht
  have hword := n.lt_word
  have hpub := h.published
  have hpend : (q.mPending + 1) % 2 ^ 32 = q.mPending + 1 := Nat.mod_eq_of_lt (by omega)
  have hlen : (q.pushed ++ [obj]).length = q.pushed.length + 1 := List.length_append
  constructor <;> simp only [Core.store, hpend, hlen]
  · omega
  · omega
  · rw [h.localWrite, queueIdxInc_mod]
  · exact h.write
  · rw [h.read, Nat.add_sub_add_right]
  · exact ⟨c, hc, hcc, hroom⟩
  · obtain ⟨p, hp, hpq, hcp⟩ := h.cachedProducer
    exact ⟨p, hp, by omega, hcp⟩
  · intro i hi hlt
    rw [h.localWrite]
    rcases Nat.lt_succ_iff_lt_or_eq.mp hlt with hlt | rfl
    · have hne : i % n.size ≠ q.pushed.length % n.size := fun e =>
        Nat.ne_of_lt hlt ((Ring.mod_eq_iff (by omega) (by omega)).mp e)
      rw [Function.update_of_ne hne, List.getElem?_append_left hlt, h.slots i hi hlt]
    · rw [Function.update_self, List.getElem?_concat_length]
  · exact h.inOrder.trans (List.prefix_append _ _)

/-- Taking the front element moves the window up by one. -/
theorem take (h : q.Inv n) {obj : T} (ht : q.mWrite ≠ q.mCachedProducer)
    (hobj : q.pushed[q.pulled.length]? = some obj) : (q.take n obj).Inv n := by
  obtain ⟨p, hp, hpq, hcp⟩ := h.front_of_test ht
  have hroom := h.room
  have hlen : (q.pulled ++ [obj]).length = q.pulled.length + 1 := List.length_append
  constructor <;> simp only [Core.take, hlen]
  · omega
  · omega
  · exact h.localWrite
  · rw [h.write, queueIdxInc_mod]
  · exact h.read
  · obtain ⟨c, hc, hcc, hlt⟩ := h.cachedConsumer
    exact ⟨c, by omega, hcc, hlt⟩
  · exact ⟨p, hp, hpq, hcp⟩
  · exact fun i hi hlt => h.slots i (by omega) hlt
  · obtain ⟨rest, hrest⟩ := h.inOrder
    rw [← hrest, List.getElem?_append_right (Nat.le_refl _), Nat.sub_self] at hobj
    obtain ⟨rest', rfl⟩ : ∃ rest', rest = obj :: rest' := by
      cases rest with
      | nil => simp at hobj
      | cons x xs => exact ⟨xs, by simpa using hobj⟩
    exact ⟨rest', by rw [← hrest, List.append_assoc]; rfl⟩

end Core.Inv

/-! ### The steps of the two processes -/

/-- What the producer's operations leave to the consumer: its indices, what it has taken, and
every element stored so far. -/
structure Core.ProducerFrame (q c : Core T) : Prop where
  mWrite : c.mWrite = q.mWrite
  mCachedProducer : c.mCachedProducer = q.mCachedProducer
  pulled : c.pulled = q.pulled
  pushed : q.pushed <+: c.pushed

namespace Core.ProducerFrame

theorem refl (q : Core T) : ProducerFrame q q := ⟨rfl, rfl, rfl, List.prefix_rfl⟩

theorem setPublishBatch (q : Core T) (k : Nat) : ProducerFrame q (q.setPublishBatch k) :=
  ⟨rfl, rfl, rfl, List.prefix_rfl⟩

theorem flush (q : Core T) : ProducerFrame q q.flush := by
  unfold Core.flush
  split <;> exact ⟨rfl, rfl, rfl, List.prefix_rfl⟩

theorem publish (q : Core T) : ProducerFrame q q.publish := by
  unfold Core.publish
  split <;> exact ⟨rfl, rfl, rfl, List.prefix_rfl⟩

theorem loadConsumer (n : QueueSize) (q : Core T) : ProducerFrame q (q.loadConsumer n) := by
  unfold Core.loadConsumer
  split <;> exact ⟨rfl, rfl, rfl, List.prefix_rfl⟩

theorem store (n : QueueSize) (q : Core T) (obj : T) : ProducerFrame q (q.store n obj) :=
  ⟨rfl, rfl, rfl, List.prefix_append _ _⟩

end Core.ProducerFrame

namespace Queue.Inv

variable {n : QueueSize} {q q' : Queue T}

/-- A step of the producer keeps the invariant when its operation on the core does. -/
theorem produce (h : q.Inv n) {c : Core T} (hc : c.Inv n) (hf : q.toCore.ProducerFrame c)
    (pc : ProducerPC T) (r : Result) :
    Inv n { q with toCore := c, producer := pc, pushResult := r } where
  core := hc
  front := fun hat => by
    rw [hf.mWrite, hf.mCachedProducer]
    exact h.front hat
  lastPulled := fun ht => by
    rw [hf.pulled]
    obtain ⟨hlt, hget⟩ := List.getElem?_eq_some_iff.mp (h.lastPulled ht)
    rw [← hget]
    exact List.prefix_iff_getElem?.mp hf.pushed _ hlt

/-- The front slot holds the front element. -/
theorem slot (h : q.Inv n) (hf : q.consumer.AtFront) :
    q.pushed[q.pulled.length]? = some (q.mData q.mWrite) := by
  obtain ⟨p, hp, hpq, -⟩ := h.core.front_of_test (h.front hf)
  rw [h.core.write]
  exact h.core.slots _ (Nat.le_refl _) (by omega)

theorem producerStep (h : q.Inv n) (hs : q.producerStep n = some q') : q'.Inv n := by
  unfold Queue.producerStep at hs
  split at hs
  · cases hs
    exact h.produce h.core.loadConsumer (.loadConsumer n _) _ _
  · split at hs
    · rename_i ht
      cases hs
      exact h.produce (h.core.store _ ht) (.store n _ _) _ _
    · cases hs
      exact h.produce h.core (.refl _) _ _
  · cases hs
    exact h.produce h.core.publish (.publish _) _ _
  · cases hs
    exact h.produce h.core.flush (.flush _) _ _
  · cases hs

theorem producerClock (h : q.Inv n) {timeoutMS curTick : Nat}
    (hs : q.producerClock timeoutMS curTick = some q') : q'.Inv n := by
  unfold Queue.producerClock at hs
  split at hs
  · split at hs <;> cases hs <;> exact h.produce h.core (.refl _) _ _
  · cases hs

theorem consumerStep (h : q.Inv n) (hs : q.consumerStep n = some q') : q'.Inv n := by
  unfold Queue.consumerStep at hs
  split at hs
  · cases hs
    exact ⟨h.core.loadProducer, False.elim, nofun⟩
  · split at hs
    · rename_i ht
      cases hs
      exact ⟨h.core, fun _ => ht, nofun⟩
    · cases hs
      exact ⟨h.core, False.elim, nofun⟩
  · cases hs
    exact ⟨h.core, False.elim, nofun⟩
  · rename_i e
    have hat : q.consumer.AtFront := e ▸ trivial
    cases hs
    exact ⟨h.core, fun _ => h.front hat, fun _ => h.slot hat⟩
  · rename_i e
    have hat : q.consumer.AtFront := e ▸ trivial
    cases hs
    exact ⟨h.core.take (h.front hat) (h.lastPulled e), False.elim, nofun⟩
  · cases hs

theorem consumerClock (h : q.Inv n) {m_default : T} {timeoutMS curTick : Nat} {earlyOut : Bool}
    (hs : q.consumerClock m_default timeoutMS curTick earlyOut = some q') : q'.Inv n := by
  unfold Queue.consumerClock at hs
  split at hs
  · split at hs
    · cases hs
      exact ⟨h.core, False.elim, nofun⟩
    · split at hs
      · cases hs
        exact ⟨h.core, False.elim, nofun⟩
      · split at hs <;> cases hs <;> exact ⟨h.core, False.elim, nofun⟩
  · cases hs

/-- **The step lemma.**  Every step of either process keeps the invariant. -/
theorem step (h : q.Inv n) {m_default : T} {a : Act T}
    (hs : step n m_default q a = some q') : q'.Inv n := by
  cases a with
  | setPublishBatch k =>
      simp only [AtomicCircularQueue.step] at hs
      split at hs <;> cases hs
      exact h.produce (h.core.setPublishBatch k) (.setPublishBatch _ k) _ _
  | flush =>
      simp only [AtomicCircularQueue.step] at hs
      split at hs <;> cases hs
      exact h.produce h.core.flush (.flush _) _ _
  | push obj =>
      simp only [AtomicCircularQueue.step] at hs
      split at hs <;> cases hs
      exact h.produce h.core (.refl _) _ _
  | producer => exact h.producerStep hs
  | producerClock timeoutMS curTick => exact h.producerClock hs
  | consume op result =>
      simp only [AtomicCircularQueue.step] at hs
      split at hs <;> cases hs
      exact ⟨h.core, False.elim, nofun⟩
  | consumer => exact h.consumerStep hs
  | consumerClock timeoutMS curTick earlyOut => exact h.consumerClock hs

end Queue.Inv

/-! ### What each side leaves to the other -/

/-- `q'` is to the consumer what `q` is. -/
structure Queue.SameConsumer (q q' : Queue T) : Prop where
  mWrite : q'.mWrite = q.mWrite
  mCachedProducer : q'.mCachedProducer = q.mCachedProducer
  pulled : q'.pulled = q.pulled
  consumer : q'.consumer = q.consumer
  result : q'.result = q.result
  returned : q'.returned = q.returned
  mLastPulled : q'.mLastPulled = q.mLastPulled

/-- `q'` is to the producer what `q` is. -/
structure Queue.SameProducer (q q' : Queue T) : Prop where
  pushed : q'.pushed = q.pushed
  producer : q'.producer = q.producer
  pushResult : q'.pushResult = q.pushResult

section frames

variable {n : QueueSize} {m_default : T} {q q' : Queue T}

theorem Queue.SameConsumer.refl (q : Queue T) : q.SameConsumer q :=
  ⟨rfl, rfl, rfl, rfl, rfl, rfl, rfl⟩

theorem Core.ProducerFrame.sameConsumer {c : Core T} (hf : q.toCore.ProducerFrame c)
    (pc : ProducerPC T) (r : Result) :
    q.SameConsumer { q with toCore := c, producer := pc, pushResult := r } :=
  ⟨hf.mWrite, hf.mCachedProducer, hf.pulled, rfl, rfl, rfl, rfl⟩

/-- The producer's steps. -/
theorem sameConsumer_of_step {a : Act T} (ha : a.ofConsumer = false)
    (hs : step n m_default q a = some q') : q.SameConsumer q' := by
  cases a with
  | setPublishBatch k =>
      simp only [AtomicCircularQueue.step] at hs
      split at hs <;> cases hs
      exact (Core.ProducerFrame.setPublishBatch _ k).sameConsumer _ _
  | flush =>
      simp only [AtomicCircularQueue.step] at hs
      split at hs <;> cases hs
      exact (Core.ProducerFrame.flush _).sameConsumer _ _
  | push obj =>
      simp only [AtomicCircularQueue.step] at hs
      split at hs <;> cases hs
      exact (Core.ProducerFrame.refl _).sameConsumer _ _
  | producer =>
      simp only [AtomicCircularQueue.step, Queue.producerStep] at hs
      split at hs
      · cases hs
        exact (Core.ProducerFrame.loadConsumer n _).sameConsumer _ _
      · split at hs <;> cases hs
        · exact (Core.ProducerFrame.store n _ _).sameConsumer _ _
        · exact (Core.ProducerFrame.refl _).sameConsumer _ _
      · cases hs
        exact (Core.ProducerFrame.publish _).sameConsumer _ _
      · cases hs
        exact (Core.ProducerFrame.flush _).sameConsumer _ _
      · cases hs
  | producerClock timeoutMS curTick =>
      simp only [AtomicCircularQueue.step, Queue.producerClock] at hs
      split at hs
      · split at hs <;> cases hs <;> exact (Core.ProducerFrame.refl _).sameConsumer _ _
      · cases hs
  | consume op result => cases ha
  | consumer => cases ha
  | consumerClock timeoutMS curTick earlyOut => cases ha

/-- What a step of the consumer does to the shared words and to the producer. -/
theorem core_of_consumer {a : Act T} (ha : a.ofConsumer = true)
    (hs : step n m_default q a = some q') :
    (q'.producer = q.producer ∧ q'.pushResult = q.pushResult) ∧
    (q'.toCore = q.toCore ∨ q'.toCore = q.toCore.loadProducer ∨
      ∃ obj, q'.toCore = q.toCore.take n obj) := by
  cases a with
  | consume op result =>
      simp only [AtomicCircularQueue.step] at hs
      split at hs <;> cases hs
      exact ⟨⟨rfl, rfl⟩, .inl rfl⟩
  | consumer =>
      simp only [AtomicCircularQueue.step, Queue.consumerStep] at hs
      split at hs
      · cases hs
        exact ⟨⟨rfl, rfl⟩, .inr (.inl rfl)⟩
      · split at hs <;> cases hs <;> exact ⟨⟨rfl, rfl⟩, .inl rfl⟩
      · cases hs
        exact ⟨⟨rfl, rfl⟩, .inl rfl⟩
      · cases hs
        exact ⟨⟨rfl, rfl⟩, .inl rfl⟩
      · cases hs
        exact ⟨⟨rfl, rfl⟩, .inr (.inr ⟨_, rfl⟩)⟩
      · cases hs
  | consumerClock timeoutMS curTick earlyOut =>
      simp only [AtomicCircularQueue.step, Queue.consumerClock] at hs
      split at hs
      · split at hs
        · cases hs
          exact ⟨⟨rfl, rfl⟩, .inl rfl⟩
        · split at hs
          · cases hs
            exact ⟨⟨rfl, rfl⟩, .inl rfl⟩
          · split at hs <;> cases hs <;> exact ⟨⟨rfl, rfl⟩, .inl rfl⟩
      · cases hs
  | setPublishBatch k => cases ha
  | flush => cases ha
  | push obj => cases ha
  | producer => cases ha
  | producerClock timeoutMS curTick => cases ha

@[simp] theorem Core.loadProducer_pushed (q : Core T) : q.loadProducer.pushed = q.pushed := by
  unfold Core.loadProducer
  split <;> rfl

/-- The consumer's steps. -/
theorem sameProducer_of_step {a : Act T} (ha : a.ofConsumer = true)
    (hs : step n m_default q a = some q') : q.SameProducer q' := by
  obtain ⟨⟨hproducer, hresult⟩, hcore⟩ := core_of_consumer ha hs
  refine ⟨?_, hproducer, hresult⟩
  rcases hcore with hcore | hcore | ⟨obj, hcore⟩
  · rw [hcore]
  · rw [hcore, Core.loadProducer_pushed]
  · rw [hcore]
    rfl

end frames

/-- Every reachable queue has the invariant. -/
theorem inv_run {n : QueueSize} {m_default : T} {acts : List (Act T)} {q : Queue T}
    (h : run (step n m_default) (start m_default) acts = some q) : q.Inv n :=
  run_inv (fun _ _ _ hI hs => hI.step hs) (inv_start n m_default) h

/-- **First in, first out.**  On every interleaving the elements pulled are a prefix of the
elements pushed, at most `m_queueSize - 1` are unread, each unread element is still in its slot,
and the published index trails the local one by `m_pending` slots. -/
theorem fifo (n : QueueSize) (m_default : T) (acts : List (Act T)) (q : Queue T)
    (h : run (step n m_default) (start m_default) acts = some q) :
    q.pulled <+: q.pushed ∧
    q.pushed.length - q.pulled.length ≤ n.size - 1 ∧
    (∀ i, q.pulled.length ≤ i → i < q.pushed.length →
      q.pushed[i]? = some (q.mData (i % n.size))) ∧
    q.mPending ≤ n.size - 1 ∧
    q.mRead = (q.mLocalWrite + n.size - q.mPending) % n.size := by
  have hI : q.toCore.Inv n := (inv_run h).core
  have hpub := hI.published
  have hroom := hI.room
  have hpend : q.mPending ≤ n.size - 1 := by omega
  refine ⟨hI.inOrder, by omega, hI.slots, hpend, ?_⟩
  rw [hI.read, hI.localWrite, Ring.mod_add_sub_mod (by omega) (by omega)]

/-- A queue of two free slots, publishing every two elements.  The third push finds no room until
the consumer has taken an element; after it the producer's index has come round, and its element is
not published yet. -/
theorem fifo_round :
    ∃ q, run (step ⟨3, by decide, by decide⟩ 0) (start 0)
        [.setPublishBatch 2, .push 7, .producer, .producer, .producer, .push 8, .producer,
          .producer, .producer, .push 9, .producer, .producer, .consume .pull .Failure, .consumer,
          .consumer, .consumer, .producer, .consumer, .producerClock 0 5, .producer, .producer,
          .producer] = some q ∧
      q.pushed = [7, 8, 9] ∧ q.pulled = [7] ∧ q.pulled <+: q.pushed ∧
      q.pushed.length - q.pulled.length ≤ 2 ∧ q.pushed[2]? = some (q.mData (2 % 3)) ∧
      q.mPending = 1 ∧ q.mRead = (q.mLocalWrite + 3 - q.mPending) % 3 := by
  have h : run (step ⟨3, by decide, by decide⟩ 0) (start 0)
      [.setPublishBatch 2, .push 7, .producer, .producer, .producer, .push 8, .producer,
        .producer, .producer, .push 9, .producer, .producer, .consume .pull .Failure, .consumer,
        .consumer, .consumer, .producer, .consumer, .producerClock 0 5, .producer, .producer,
        .producer] = some _ := rfl
  obtain ⟨horder, hroom, hslots, -, hread⟩ := fifo _ _ _ _ h
  exact ⟨_, h, rfl, rfl, horder, hroom, hslots 2 (by decide) (by decide), rfl, hread⟩

/-! ### What a call reports -/

/-- The calls of the producer. -/
def Act.callsProducer : Act T → Bool
  | .setPublishBatch _ | .flush | .push _ => true
  | _ => false

@[simp] theorem Core.flush_mPending (q : Core T) : q.flush.mPending = 0 := by
  unfold Core.flush
  split
  · rfl
  · rename_i h
    exact not_not.mp h

@[simp] theorem Core.loadProducer_mPending (q : Core T) :
    q.loadProducer.mPending = q.mPending := by
  unfold Core.loadProducer
  split <;> rfl

/-- The slots, the producer's index and the elements accepted are those of `q₀`. -/
structure Core.Untouched (q₀ q : Core T) : Prop where
  pushed : q.pushed = q₀.pushed
  mData : q.mData = q₀.mData
  mLocalWrite : q.mLocalWrite = q₀.mLocalWrite

namespace Core.Untouched

variable {q₀ q : Core T}

theorem loadConsumer (n : QueueSize) (h : q₀.Untouched q) : q₀.Untouched (q.loadConsumer n) := by
  unfold Core.loadConsumer
  split <;> exact { h with }

theorem flush (h : q₀.Untouched q) : q₀.Untouched q.flush := by
  unfold Core.flush
  split <;> exact { h with }

theorem loadProducer (h : q₀.Untouched q) : q₀.Untouched q.loadProducer := by
  unfold Core.loadProducer
  split <;> exact { h with }

end Core.Untouched

/-- `q` is inside, or just after, a push of `obj` called at `q₀`. -/
def Queue.Pushing (q₀ : Queue T) (obj : T) (q : Queue T) : Prop :=
  match q.producer with
  | .top o _     => o = obj ∧ q₀.toCore.Untouched q.toCore
  | .test o _    => o = obj ∧ q₀.toCore.Untouched q.toCore
  | .full o _    => o = obj ∧ q₀.toCore.Untouched q.toCore
  | .waiting o _ => o = obj ∧ q₀.toCore.Untouched q.toCore ∧ q.mPending = 0
  | .stored      => q.pushed = q₀.pushed ++ [obj]
  | .idle        =>
      q.pushResult = .Success ∧ q.pushed = q₀.pushed ++ [obj] ∨
      q.pushResult = .Failure ∧ q₀.toCore.Untouched q.toCore ∧ q.mPending = 0

namespace Queue.Pushing

variable {n : QueueSize} {m_default : T} {q₀ q q' : Queue T} {obj : T}

/-- The consumer changes nothing a push looks back on. -/
theorem consume (h : q₀.Pushing obj q) {a : Act T} (ha : a.ofConsumer = true)
    (hs : AtomicCircularQueue.step n m_default q a = some q') : q₀.Pushing obj q' := by
  obtain ⟨-, hcore⟩ := core_of_consumer ha hs
  have hun (hun : q₀.toCore.Untouched q.toCore) : q₀.toCore.Untouched q'.toCore := by
    rcases hcore with hcore | hcore | ⟨obj, hcore⟩
    · exact hcore ▸ hun
    · exact hcore ▸ hun.loadProducer
    · exact hcore ▸ { hun with }
  have hpending : q'.mPending = q.mPending := by
    rcases hcore with hcore | hcore | ⟨obj, hcore⟩
    · rw [hcore]
    · rw [hcore, Core.loadProducer_mPending]
    · rw [hcore]
      rfl
  have hsame := sameProducer_of_step ha hs
  unfold Queue.Pushing at h ⊢
  rw [hsame.producer, hsame.pushResult, hsame.pushed, hpending]
  split <;> rename_i hat <;> simp only [hat] at h
  · exact ⟨h.1, hun h.2⟩
  · exact ⟨h.1, hun h.2⟩
  · exact ⟨h.1, hun h.2⟩
  · exact ⟨h.1, hun h.2.1, h.2.2⟩
  · exact h
  · exact h.imp_right fun hfail => ⟨hfail.1, hun hfail.2.1, hfail.2.2⟩

theorem step (h : q₀.Pushing obj q) {a : Act T} (ha : a.callsProducer = false)
    (hs : step n m_default q a = some q') : q₀.Pushing obj q' := by
  cases a with
  | setPublishBatch k | flush | push obj => cases ha
  | producer =>
      simp only [AtomicCircularQueue.step, Queue.producerStep] at hs
      unfold Queue.Pushing at h
      split at hs <;> rename_i hat <;> simp only [hat] at h
      · cases hs
        exact ⟨h.1, h.2.loadConsumer n⟩
      · split at hs <;> cases hs
        · obtain ⟨rfl, hun⟩ := h
          exact congrArg (· ++ [_]) hun.pushed
        · exact h
      · cases hs
        refine .inl ⟨rfl, ?_⟩
        unfold Core.publish
        split <;> exact h
      · cases hs
        exact ⟨h.1, h.2.flush, Core.flush_mPending _⟩
      · cases hs
  | producerClock timeoutMS curTick =>
      simp only [AtomicCircularQueue.step, Queue.producerClock] at hs
      unfold Queue.Pushing at h
      split at hs
      · rename_i hat
        simp only [hat] at h
        split at hs <;> cases hs
        · exact ⟨h.1, h.2.1⟩
        · exact .inr ⟨rfl, h.2⟩
      · cases hs
  | consume op result => exact h.consume rfl hs
  | consumer => exact h.consume rfl hs
  | consumerClock timeoutMS curTick earlyOut => exact h.consume rfl hs

end Queue.Pushing

/-- `q` is inside, or just after, a `pull` called at `q₀`. -/
def Queue.Pulling (m_default : T) (q₀ q : Queue T) : Prop :=
  match q.consumer with
  | .top op _     => op = .pull ∧ q.pulled = q₀.pulled
  | .test op _    => op = .pull ∧ q.pulled = q₀.pulled
  | .slot op      => op = .pull ∧ q.pulled = q₀.pulled
  | .waiting op _ => op = .pull ∧ q.pulled = q₀.pulled
  | .taken        => q.pulled = q₀.pulled
  | .idle         =>
      q.result = .Success ∧ q.pulled = q₀.pulled ++ [q.returned] ∨
      q.returned = m_default ∧ q.pulled = q₀.pulled

namespace Queue.Pulling

variable {n : QueueSize} {m_default : T} {q₀ q q' : Queue T}

/-- The producer changes nothing a `pull` looks back on. -/
theorem produce (h : q₀.Pulling m_default q) (hsame : q.SameConsumer q') :
    q₀.Pulling m_default q' := by
  unfold Queue.Pulling at h ⊢
  rw [hsame.consumer, hsame.result, hsame.pulled, hsame.returned]
  exact h

theorem step (h : q₀.Pulling m_default q) {a : Act T} (ha : ∀ op result, a ≠ .consume op result)
    (hs : step n m_default q a = some q') : q₀.Pulling m_default q' := by
  cases a with
  | setPublishBatch k => exact h.produce (sameConsumer_of_step rfl hs)
  | flush => exact h.produce (sameConsumer_of_step rfl hs)
  | push obj => exact h.produce (sameConsumer_of_step rfl hs)
  | producer => exact h.produce (sameConsumer_of_step rfl hs)
  | producerClock timeoutMS curTick => exact h.produce (sameConsumer_of_step rfl hs)
  | consume op result => exact absurd rfl (ha op result)
  | consumer =>
      simp only [AtomicCircularQueue.step, Queue.consumerStep] at hs
      unfold Queue.Pulling at h
      split at hs <;> rename_i hat <;> simp only [hat] at h
      · cases hs
        refine ⟨h.1, ?_⟩
        unfold Core.loadProducer
        split <;> exact h.2
      · split at hs <;> cases hs <;> exact h
      · cases h.1
      · cases hs
        exact h.2
      · cases hs
        exact .inl ⟨rfl, congrArg (· ++ [_]) h⟩
      · cases hs
  | consumerClock timeoutMS curTick earlyOut =>
      simp only [AtomicCircularQueue.step, Queue.consumerClock] at hs
      unfold Queue.Pulling at h
      split at hs
      · rename_i hat
        simp only [hat] at h
        obtain ⟨rfl, hpulled⟩ := h
        split at hs
        · cases hs
          exact .inr ⟨rfl, hpulled⟩
        · split at hs <;> cases hs
          · exact ⟨rfl, hpulled⟩
          · exact .inr ⟨rfl, hpulled⟩
      · cases hs

end Queue.Pulling

section reports

variable {n : QueueSize} {m_default : T} {q₀ q : Queue T} {acts : List (Act T)}

/-- **A push reports what it did.**  When a push called at `q₀` has returned, whatever the consumer
has done meanwhile, it has stored its element and reports `Success`, or it reports `Failure`, has
left the slots and the elements accepted as they were, and nothing unpublished. -/
theorem push_reports {obj : T} (hacts : ∀ a ∈ acts, Act.callsProducer a = false)
    (hr : run (step n m_default) q₀ (.push obj :: acts) = some q) (hidle : q.producer = .idle) :
    q.pushResult = .Success ∧ q.pushed = q₀.pushed ++ [obj] ∨
    q.pushResult = .Failure ∧ q₀.toCore.Untouched q.toCore ∧ q.mPending = 0 := by
  obtain ⟨q₁, hs, hr⟩ := run_cons.mp hr
  have h₁ : q₀.Pushing obj q₁ := by
    simp only [step] at hs
    split at hs <;> cases hs
    exact ⟨rfl, rfl, rfl, rfl⟩
  have h : q₀.Pushing obj q :=
    run_inv_along (fun _ _ _ h ha hs => h.step ha hs) h₁ (along_of_forall q₁ hacts) hr
  unfold Queue.Pushing at h
  simpa only [hidle] using h

/-- **A `pull` returns what it took.**  When a `pull` called at `q₀` has returned, whatever the
producer has done meanwhile, it has taken the element it returns and reports `Success`, or it
returns the default and has taken nothing. -/
theorem pull_returns {result : Result} (hacts : ∀ a ∈ acts, ∀ op r, a ≠ Act.consume op r)
    (hr : run (step n m_default) q₀ (.consume .pull result :: acts) = some q)
    (hidle : q.consumer = .idle) :
    q.result = .Success ∧ q.pulled = q₀.pulled ++ [q.returned] ∨
    q.returned = m_default ∧ q.pulled = q₀.pulled := by
  obtain ⟨q₁, hs, hr⟩ := run_cons.mp hr
  have h₁ : q₀.Pulling m_default q₁ := by
    simp only [step] at hs
    split at hs <;> cases hs
    exact ⟨rfl, rfl⟩
  have h : q₀.Pulling m_default q :=
    run_inv_along (fun _ _ _ h ha hs => h.step ha hs) h₁ (along_of_forall q₁ hacts) hr
  unfold Queue.Pulling at h
  simpa only [hidle] using h

end reports

end RemixBridge.AtomicCircularQueue
