import RemixBridge.Channel.AtomicCircularQueue

/-!
# Channel — BatchedPublish

What deferring the publication changes.  `Queue.event` is what a caller sees of a step: a push that
is accepted or reports `Failure`, a flush, an element the consumer is given.  A queue that batches
is run side by side with one that publishes every push (`Lockstep`): the two producers take the
same steps, and the second consumer is called where the first one gets an element.

* `Lockstep.step`: every step of the first is matched, with the same events, by the second.
* `batched_publication`: the events of a batched run are those of a run that publishes every push;
  after a flush the consumer can take every element accepted; a failed push leaves the queue as it
  was, with nothing unpublished.
* `batched_ne_each_push`: the consumer may time out, and the producer then fail, where publishing
  every push would not.
-/

namespace RemixBridge.AtomicCircularQueue
open Runs

/-- What the callers of a queue see. -/
inductive Event (T : Type) where
  | push (obj : T) (result : Result)
  | flush
  | receive (op : ConsumerOp) (obj : T)
  deriving DecidableEq, Repr

variable {T : Type}

/-- What the step from `q` by an action shows.  A push shows its result where it is decided: at the
slot store, which nothing can undo, or at the last clock reading. -/
def Queue.event (n : QueueSize) (q : Queue T) : Act T → List (Event T)
  | .flush => [.flush]
  | .producer =>
      match q.producer with
      | .test obj _ =>
          if queueIdxInc n q.mLocalWrite ≠ q.mCachedConsumer then [.push obj .Success] else []
      | _ => []
  | .producerClock timeoutMS curTick =>
      match q.producer with
      | .waiting obj start =>
          if keepsWaiting timeoutMS (firstTick start curTick) curTick then []
          else [.push obj .Failure]
      | _ => []
  | .consumer =>
      match q.consumer with
      | .slot .peek => [.receive .peek (q.mData q.mWrite)]
      | .taken      => [.receive .pull q.mLastPulled]
      | _           => []
  | _ => []

/-- The element an event adds to the queue. -/
def Event.accepted : Event T → Option T
  | .push obj .Success => some obj
  | _                  => none

/-- The element an event takes from the queue. -/
def Event.pulled : Event T → Option T
  | .receive .pull obj => some obj
  | _                  => none

/-- The operation an action starts. -/
def Act.call : Act T → Option (Act T)
  | .flush        => some .flush
  | .push obj     => some (.push obj)
  | .consume op _ => some (.consume op .Success)
  | _             => none

/-- The actions of one call of the consumer that finds an element. -/
def receiveActs : ConsumerOp → List (Act T)
  | .peek => [.consume .peek .Failure, .consumer, .consumer, .consumer]
  | .pull => [.consume .pull .Failure, .consumer, .consumer, .consumer, .consumer]

theorem receiveActs_ofConsumer (op : ConsumerOp) :
    ∀ a ∈ receiveActs (T := T) op, a.ofConsumer = true := by
  cases op <;> simp [receiveActs, Act.ofConsumer]

/-! ### One call of the consumer -/

/-- When the queue holds a published element, the refresh lets the empty test pass. -/
theorem Core.Inv.loadProducer_ne {n : QueueSize} {q : Core T} (h : q.Inv n)
    (hnext : q.pulled.length + q.mPending < q.pushed.length) :
    q.mWrite ≠ q.loadProducer.mCachedProducer := by
  have hroom := h.room
  unfold Core.loadProducer
  split
  · intro heq
    have hread : q.pulled.length % n.size = (q.pushed.length - q.mPending) % n.size := by
      rw [← h.write, ← h.read]
      exact heq
    have := (Ring.mod_eq_iff (by omega) (by omega)).mp hread
    omega
  · rename_i hne
    exact hne

@[simp] theorem Core.loadProducer_mWrite (q : Core T) : q.loadProducer.mWrite = q.mWrite := by
  unfold Core.loadProducer
  split <;> rfl

@[simp] theorem Core.loadProducer_pulled (q : Core T) : q.loadProducer.pulled = q.pulled := by
  unfold Core.loadProducer
  split <;> rfl

@[simp] theorem Core.loadProducer_mData (q : Core T) : q.loadProducer.mData = q.mData := by
  unfold Core.loadProducer
  split <;> rfl

/-- What the consumer's core is after a call that finds an element. -/
def Core.receive (n : QueueSize) (q : Core T) : ConsumerOp → Core T
  | .peek => q.loadProducer
  | .pull => q.loadProducer.take n (q.mData q.mWrite)

/-- A call of the consumer, started when a published element is there, is given that element. -/
theorem Queue.run_receive {n : QueueSize} (m_default : T) {q : Queue T} (h : q.Inv n)
    (hidle : q.consumer = .idle) (hnext : q.pulled.length + q.mPending < q.pushed.length)
    (op : ConsumerOp) :
    ∃ q', run (step n m_default) q (receiveActs op) = some q' ∧
      trace (step n m_default) (Queue.event n) q (receiveActs op) =
        [.receive op (q.mData q.mWrite)] ∧
      q'.toCore = q.toCore.receive n op ∧ q'.consumer = .idle ∧ q'.producer = q.producer := by
  have hne := h.core.loadProducer_ne hnext
  cases op with
  | peek =>
      refine ⟨{ q with
        toCore := q.toCore.receive n .peek
        consumer := .idle
        result := .Success
        returned := q.mData q.mWrite }, ?_, ?_, rfl, rfl, rfl⟩
      · simp [run, receiveActs, step, Queue.consumerStep, hidle, hne, Core.receive]
      · simp [trace, receiveActs, step, Queue.consumerStep, Queue.event, hidle, hne]
  | pull =>
      refine ⟨{ q with
        toCore := q.toCore.receive n .pull
        mLastPulled := q.mData q.mWrite
        consumer := .idle
        result := .Success
        returned := q.mData q.mWrite }, ?_, ?_, rfl, rfl, rfl⟩
      · simp [run, receiveActs, step, Queue.consumerStep, Core.receive, hidle, hne]
      · simp [trace, receiveActs, step, Queue.consumerStep, Queue.event, hidle, hne]

/-! ### A batching queue next to one that publishes every push -/

/-- The two cores agree on all but what is published and on the consumer's copy of it. -/
structure Core.Same (q s : Core T) : Prop where
  mWrite : s.mWrite = q.mWrite
  mData : s.mData = q.mData
  mCachedConsumer : s.mCachedConsumer = q.mCachedConsumer
  mLocalWrite : s.mLocalWrite = q.mLocalWrite
  pushed : s.pushed = q.pushed
  pulled : s.pulled = q.pulled

namespace Core.Same

variable {n : QueueSize} {q s : Core T}

theorem loadConsumer (h : q.Same s) : (q.loadConsumer n).Same (s.loadConsumer n) := by
  have hiff : queueIdxInc n s.mLocalWrite = s.mCachedConsumer ↔
      queueIdxInc n q.mLocalWrite = q.mCachedConsumer := by
    rw [h.mLocalWrite, h.mCachedConsumer]
  unfold Core.loadConsumer
  by_cases hq : queueIdxInc n q.mLocalWrite = q.mCachedConsumer
  · rw [if_pos hq, if_pos (hiff.mpr hq)]
    exact { h with mCachedConsumer := h.mWrite }
  · rw [if_neg hq, if_neg (mt hiff.mp hq)]
    exact h

theorem store (h : q.Same s) (obj : T) : (q.store n obj).Same (s.store n obj) where
  mWrite := h.mWrite
  mData := by simp only [Core.store, h.mData, h.mLocalWrite]
  mCachedConsumer := h.mCachedConsumer
  mLocalWrite := by simp only [Core.store, h.mLocalWrite]
  pushed := by simp only [Core.store, h.pushed]
  pulled := h.pulled

theorem take (h : q.Same s) (obj : T) : (q.take n obj).Same (s.take n obj) where
  mWrite := by simp only [Core.take, h.mWrite]
  mData := h.mData
  mCachedConsumer := h.mCachedConsumer
  mLocalWrite := h.mLocalWrite
  pushed := h.pushed
  pulled := by simp only [Core.take, h.pulled]

theorem flush_left (h : q.Same s) : q.flush.Same s := by
  unfold Core.flush
  split <;> exact { h with }

theorem flush_right (h : q.Same s) : q.Same s.flush := by
  unfold Core.flush
  split <;> exact { h with }

theorem publish_left (h : q.Same s) : q.publish.Same s := by
  unfold Core.publish
  split <;> exact { h with }

theorem publish_right (h : q.Same s) : q.Same s.publish := by
  unfold Core.publish
  split <;> exact { h with }

theorem loadProducer_left (h : q.Same s) : q.loadProducer.Same s := by
  unfold Core.loadProducer
  split <;> exact { h with }

theorem loadProducer_right (h : q.Same s) : q.Same s.loadProducer := by
  unfold Core.loadProducer
  split <;> exact { h with }

end Core.Same

@[simp] theorem Core.flush_mPublishBatch (q : Core T) :
    q.flush.mPublishBatch = q.mPublishBatch := by
  unfold Core.flush
  split <;> rfl

@[simp] theorem Core.publish_mPublishBatch (q : Core T) :
    q.publish.mPublishBatch = q.mPublishBatch := by
  unfold Core.publish
  split <;> rfl

@[simp] theorem Core.loadConsumer_mPublishBatch (n : QueueSize) (q : Core T) :
    (q.loadConsumer n).mPublishBatch = q.mPublishBatch := by
  unfold Core.loadConsumer
  split <;> rfl

@[simp] theorem Core.loadConsumer_mPending (n : QueueSize) (q : Core T) :
    (q.loadConsumer n).mPending = q.mPending := by
  unfold Core.loadConsumer
  split <;> rfl

@[simp] theorem Core.loadProducer_mPublishBatch (q : Core T) :
    q.loadProducer.mPublishBatch = q.mPublishBatch := by
  unfold Core.loadProducer
  split <;> rfl

/-- Published at every push, nothing is left pending. -/
theorem Core.publish_each {q : Core T} (h : q.mPublishBatch = 1) : q.publish.mPending = 0 := by
  unfold Core.publish
  split
  · rfl
  · omega

/-- `q` batches; `s` publishes every push, its producer is where `q`'s is, and its consumer is in
no call. -/
structure Lockstep (n : QueueSize) (q s : Queue T) : Prop where
  inv : q.Inv n
  inv' : s.Inv n
  same : q.toCore.Same s.toCore
  producer : s.producer = q.producer
  idle : s.consumer = .idle
  batch : s.mPublishBatch = 1
  pending : s.mPending ≤ q.mPending
  stored : q.producer ≠ .stored → s.mPending = 0

namespace Lockstep

variable {n : QueueSize} {m_default : T} {q s : Queue T}

theorem start : Lockstep n (start m_default) (start m_default) where
  inv := inv_start n m_default
  inv' := inv_start n m_default
  same := ⟨rfl, rfl, rfl, rfl, rfl, rfl⟩
  producer := rfl
  idle := rfl
  batch := rfl
  pending := Nat.le_refl 0
  stored := fun _ => rfl

/-- The two tests of `push` agree. -/
theorem test_iff (h : Lockstep n q s) :
    queueIdxInc n s.mLocalWrite ≠ s.mCachedConsumer ↔
      queueIdxInc n q.mLocalWrite ≠ q.mCachedConsumer := by
  rw [h.same.mLocalWrite, h.same.mCachedConsumer]

/-- What the consumer of the batching queue can see, the other one can. -/
theorem next_visible (h : Lockstep n q s) (hq : q.mWrite ≠ q.mCachedProducer) :
    s.pulled.length + s.mPending < s.pushed.length := by
  obtain ⟨p, hp, hpq, -⟩ := h.inv.core.front_of_test hq
  have := h.pending
  rw [h.same.pulled, h.same.pushed]
  omega

/-- The action that matches `a`: the same one, for the producer's calls and steps. -/
theorem same_step (h : Lockstep n q s) {q' r : Queue T} {a : Act T}
    (hq : step n m_default q a = some q') (hs : step n m_default s a = some r)
    (hevent : s.event n a = q.event n a) (ha : ∀ k, a ≠ .setPublishBatch k)
    (hlock : q'.Inv n → r.Inv n → Lockstep n q' r) :
    ∃ bs s', run (step n m_default) s bs = some s' ∧ (∀ b ∈ bs, ∀ k, b ≠ .setPublishBatch k) ∧
      trace (step n m_default) (Queue.event n) s bs = q.event n a ∧ Lockstep n q' s' := by
  refine ⟨[a], r, by rw [run_cons]; exact ⟨r, hs, rfl⟩, ?_, ?_, ?_⟩
  · rintro b hb
    rw [List.mem_singleton.mp hb]
    exact ha
  · rw [trace_cons _ hs, trace_nil, List.append_nil, hevent]
  · exact hlock (h.inv.step hq) (h.inv'.step hs)

/-- A step of the first consumer that takes no element is matched by none of the second's. -/
theorem no_step (h : Lockstep n q s) {q' : Queue T} {a : Act T}
    (hq : step n m_default q a = some q') (hevent : q.event n a = [])
    (hcore : q'.toCore = q.toCore ∨ q'.toCore = q.toCore.loadProducer)
    (hpc : q'.producer = q.producer) :
    ∃ bs s', run (step n m_default) s bs = some s' ∧ (∀ b ∈ bs, ∀ k, b ≠ .setPublishBatch k) ∧
      trace (step n m_default) (Queue.event n) s bs = q.event n a ∧ Lockstep n q' s' := by
  refine ⟨[], s, rfl, fun _ hb => absurd hb List.not_mem_nil, hevent.symm, ?_⟩
  have hsame : q'.toCore.Same s.toCore ∧ q'.mPending = q.mPending := by
    rcases hcore with hcore | hcore <;> rw [hcore]
    · exact ⟨h.same, rfl⟩
    · exact ⟨h.same.loadProducer_left, Core.loadProducer_mPending _⟩
  exact
    { h with
      inv := h.inv.step hq
      same := hsame.1
      producer := h.producer.trans hpc.symm
      pending := hsame.2 ▸ h.pending
      stored := hpc ▸ h.stored }

/-- What `Lockstep.step` says of the step `q → q'` by `a`. -/
def Matched (n : QueueSize) (m_default : T) (q s : Queue T) (a : Act T) (q' : Queue T) : Prop :=
  ∃ bs s', run (step n m_default) s bs = some s' ∧ (∀ b ∈ bs, ∀ k, b ≠ .setPublishBatch k) ∧
    trace (step n m_default) (Queue.event n) s bs = q.event n a ∧ Lockstep n q' s'

theorem matched_producer (h : Lockstep n q s) {q' : Queue T}
    (hs : step n m_default q .producer = some q') : Matched n m_default q s .producer q' := by
  have hpc := h.producer
  have hq := hs
  simp only [AtomicCircularQueue.step, Queue.producerStep] at hq
  split at hq
  case h_1 obj t hat =>
      cases hq
      refine h.same_step (r := { s with
          toCore := s.toCore.loadConsumer n
          producer := .test obj t }) hs ?_ ?_ (fun _ h => by cases h) fun hI hI' =>
        { h with
          inv := hI
          inv' := hI'
          same := h.same.loadConsumer
          producer := rfl
          batch := (Core.loadConsumer_mPublishBatch n _).trans h.batch
          pending := by simpa using h.pending
          stored := fun _ => by simpa using h.stored (by simp [hat]) }
      · simp [AtomicCircularQueue.step, Queue.producerStep, hpc, hat]
      · simp [Queue.event, hpc, hat]
  case h_2 obj t hat =>
      have hzero : s.mPending = 0 := h.stored (by simp [hat])
      split at hq
      · rename_i ht
        cases hq
        refine h.same_step (r := { s with toCore := s.toCore.store n obj, producer := .stored })
          hs ?_ ?_ (fun _ h => by cases h) fun hI hI' =>
          { h with
            inv := hI
            inv' := hI'
            same := h.same.store obj
            producer := rfl
            batch := h.batch
            pending := ?_
            stored := fun hne => absurd rfl hne }
        · simp [AtomicCircularQueue.step, Queue.producerStep, hpc, hat, h.test_iff, ht]
        · simp [Queue.event, hpc, hat, h.test_iff]
        · have hroom := h.inv.core.room
          have hpub := h.inv.core.published
          have hword := n.lt_word
          simp only [Core.store]
          omega
      · rename_i ht
        cases hq
        refine h.same_step (r := { s with producer := .full obj t }) hs ?_ ?_ (fun _ h => by cases h) fun hI hI' =>
          { h with inv := hI, inv' := hI', producer := rfl, stored := fun _ => hzero }
        · simp [AtomicCircularQueue.step, Queue.producerStep, hpc, hat, mt h.test_iff.mp ht]
        · simp [Queue.event, hpc, hat, h.test_iff]
  case h_3 hat =>
      cases hq
      have hzero : s.toCore.publish.mPending = 0 := Core.publish_each h.batch
      refine h.same_step (r := { s with
          toCore := s.toCore.publish
          producer := .idle
          pushResult := .Success }) hs ?_ ?_ (fun _ h => by cases h) fun hI hI' =>
        { h with
          inv := hI
          inv' := hI'
          same := h.same.publish_left.publish_right
          producer := rfl
          batch := (Core.publish_mPublishBatch _).trans h.batch
          pending := hzero.trans_le (Nat.zero_le _)
          stored := fun _ => hzero }
      · simp [AtomicCircularQueue.step, Queue.producerStep, hpc, hat]
      · simp [Queue.event, hpc, hat]
  case h_4 obj t hat =>
      cases hq
      refine h.same_step (r := { s with
          toCore := s.toCore.flush
          producer := .waiting obj t }) hs ?_ ?_ (fun _ h => by cases h) fun hI hI' =>
        { h with
          inv := hI
          inv' := hI'
          same := h.same.flush_left.flush_right
          producer := rfl
          batch := (Core.flush_mPublishBatch _).trans h.batch
          pending := (Core.flush_mPending _).trans_le (Nat.zero_le _)
          stored := fun _ => Core.flush_mPending _ }
      · simp [AtomicCircularQueue.step, Queue.producerStep, hpc, hat]
      · simp [Queue.event, hpc, hat]
  case h_5 => cases hq

theorem matched_consumer (h : Lockstep n q s) {q' : Queue T}
    (hs : step n m_default q .consumer = some q') : Matched n m_default q s .consumer q' := by
  have hq := hs
  simp only [AtomicCircularQueue.step, Queue.consumerStep] at hq
  split at hq
  case h_1 op t hat =>
      cases hq
      exact h.no_step hs (by simp [Queue.event, hat]) (.inr rfl) rfl
  case h_2 op t hat =>
      split at hq <;> cases hq <;> exact h.no_step hs (by simp [Queue.event, hat]) (.inl rfl) rfl
  case h_3 hat =>
      cases hq
      have hnext := h.next_visible (h.inv.front (by rw [hat]; trivial))
      obtain ⟨s', hrun, htrace, hcore, hidle, hpc⟩ :=
        Queue.run_receive m_default h.inv' h.idle hnext .peek
      refine ⟨receiveActs .peek, s', hrun, by simp [receiveActs], ?_, ?_⟩
      · simp [htrace, Queue.event, hat, h.same.mData, h.same.mWrite]
      · have hcore : s'.toCore = s.toCore.loadProducer := hcore
        exact
          { inv := h.inv.step hs
            inv' := run_inv (fun _ _ _ hI hs => hI.step hs) h.inv' hrun
            same := hcore ▸ h.same.loadProducer_right
            producer := hpc.trans h.producer
            idle := hidle
            batch := by rw [hcore, Core.loadProducer_mPublishBatch, h.batch]
            pending := by rw [hcore, Core.loadProducer_mPending]; exact h.pending
            stored := fun hne => by rw [hcore, Core.loadProducer_mPending]; exact h.stored hne }
  case h_4 hat =>
      cases hq
      exact h.no_step hs (by simp [Queue.event, hat]) (.inl rfl) rfl
  case h_5 hat =>
      cases hq
      have hfront := h.inv.front (by rw [hat]; trivial)
      have hnext := h.next_visible hfront
      obtain ⟨s', hrun, htrace, hcore, hidle, hpc⟩ :=
        Queue.run_receive m_default h.inv' h.idle hnext .pull
      -- both consumers take the front element: the slot has not changed since it was loaded
      have helem : s.mData s.mWrite = q.mLastPulled := by
        have hslot := h.inv.slot (by rw [hat]; trivial)
        rw [h.inv.lastPulled hat] at hslot
        rw [h.same.mData, h.same.mWrite]
        exact (Option.some.inj hslot).symm
      refine ⟨receiveActs .pull, s', hrun, by simp [receiveActs], ?_, ?_⟩
      · simp [htrace, Queue.event, hat, helem]
      · have hcore : s'.toCore = s.toCore.loadProducer.take n q.mLastPulled := by
          rw [hcore, ← helem]
          rfl
        have hpending : s'.mPending = s.mPending := by
          rw [hcore]
          exact Core.loadProducer_mPending _
        exact
          { inv := h.inv.step hs
            inv' := run_inv (fun _ _ _ hI hs => hI.step hs) h.inv' hrun
            same := hcore ▸ h.same.loadProducer_right.take _
            producer := hpc.trans h.producer
            idle := hidle
            batch := by
              rw [hcore]
              exact (Core.loadProducer_mPublishBatch _).trans h.batch
            pending := hpending ▸ h.pending
            stored := fun hne => hpending ▸ h.stored hne }
  case h_6 => cases hq

/-- **The step lemma.**  Each step of a batching queue is matched, with the same events, by one
that publishes every push. -/
theorem step (h : Lockstep n q s) {a : Act T} {q' : Queue T}
    (hs : step n m_default q a = some q') : Matched n m_default q s a q' := by
  have hpc := h.producer
  cases a with
  | setPublishBatch k =>
      have hq := hs
      simp only [AtomicCircularQueue.step] at hq
      split at hq <;> cases hq
      refine ⟨[], s, rfl, fun _ hb => absurd hb List.not_mem_nil, rfl, ?_⟩
      exact { h with inv := h.inv.step hs, same := { h.same with } }
  | flush =>
      have hq := hs
      simp only [AtomicCircularQueue.step] at hq
      split at hq <;> cases hq
      rename_i hat
      refine h.same_step (r := { s with toCore := s.toCore.flush }) hs ?_ rfl (fun _ h => by cases h)
        fun hI hI' =>
        { h with
          inv := hI
          inv' := hI'
          same := h.same.flush_left.flush_right
          batch := (Core.flush_mPublishBatch _).trans h.batch
          pending := (Core.flush_mPending _).trans_le (Nat.zero_le _)
          stored := fun _ => Core.flush_mPending _ }
      simp [AtomicCircularQueue.step, hpc, hat]
  | push obj =>
      have hq := hs
      simp only [AtomicCircularQueue.step] at hq
      split at hq <;> cases hq
      rename_i hat
      refine h.same_step (r := { s with producer := .top obj 0 }) hs ?_ rfl (fun _ h => by cases h) fun hI hI' =>
        { h with
          inv := hI
          inv' := hI'
          producer := rfl
          stored := fun _ => h.stored (by simp [hat]) }
      simp [AtomicCircularQueue.step, hpc, hat]
  | producer => exact h.matched_producer hs
  | producerClock timeoutMS curTick =>
      have hq := hs
      simp only [AtomicCircularQueue.step, Queue.producerClock] at hq
      split at hq
      · rename_i obj t hat
        have hzero : s.mPending = 0 := h.stored (by simp [hat])
        split at hq <;> cases hq <;> rename_i hclock
        · refine h.same_step (r := { s with producer := .top obj (firstTick t curTick) }) hs ?_
            ?_ (fun _ h => by cases h) fun hI hI' =>
            { h with inv := hI, inv' := hI', producer := rfl, stored := fun _ => hzero }
          · simp [AtomicCircularQueue.step, Queue.producerClock, hpc, hat, hclock]
          · simp [Queue.event, hpc, hat]
        · refine h.same_step (r := { s with producer := .idle, pushResult := .Failure }) hs ?_
            ?_ (fun _ h => by cases h) fun hI hI' =>
            { h with inv := hI, inv' := hI', producer := rfl, stored := fun _ => hzero }
          · simp [AtomicCircularQueue.step, Queue.producerClock, hpc, hat, hclock]
          · simp [Queue.event, hpc, hat]
      · cases hq
  | consume op result =>
      have hq := hs
      simp only [AtomicCircularQueue.step] at hq
      split at hq <;> cases hq
      exact h.no_step hs rfl (.inl rfl) rfl
  | consumer => exact h.matched_consumer hs
  | consumerClock timeoutMS curTick earlyOut =>
      have hq := hs
      simp only [AtomicCircularQueue.step, Queue.consumerClock] at hq
      split at hq
      · split at hq
        · cases hq
          exact h.no_step hs rfl (.inl rfl) rfl
        · split at hq
          · cases hq
            exact h.no_step hs rfl (.inl rfl) rfl
          · split at hq <;> cases hq <;> exact h.no_step hs rfl (.inl rfl) rfl
      · cases hq

/-- **The run lemma.**  Each run of a batching queue is matched by one that publishes every push. -/
theorem run (h : Lockstep n q s) {acts : List (Act T)} {q' : Queue T}
    (hr : Runs.run (AtomicCircularQueue.step n m_default) q acts = some q') :
    ∃ each s', Runs.run (AtomicCircularQueue.step n m_default) s each = some s' ∧
      (∀ a ∈ each, ∀ k, a ≠ .setPublishBatch k) ∧
      trace (AtomicCircularQueue.step n m_default) (Queue.event n) s each =
        trace (AtomicCircularQueue.step n m_default) (Queue.event n) q acts ∧
      Lockstep n q' s' :=
  run_sim (fun _ _ _ _ hR hs => hR.step hs) h hr

end Lockstep

/-! ### What the events say of the queue -/

/-- The elements accepted and pulled in a step are those its events show. -/
theorem Queue.event_step {n : QueueSize} {m_default : T} {q q' : Queue T} {a : Act T}
    (hs : step n m_default q a = some q') :
    q'.pushed = q.pushed ++ (q.event n a).filterMap Event.accepted ∧
    q'.pulled = q.pulled ++ (q.event n a).filterMap Event.pulled := by
  cases a with
  | setPublishBatch k | push obj | consume op result =>
      simp only [step] at hs
      split at hs <;> cases hs
      simp [Queue.event, Core.setPublishBatch]
  | flush =>
      simp only [step] at hs
      split at hs <;> cases hs
      unfold Core.flush
      split <;> simp [Queue.event, Event.accepted, Event.pulled]
  | producer =>
      simp only [step, Queue.producerStep] at hs
      split at hs
      case h_1 hat =>
          cases hs
          unfold Core.loadConsumer
          split <;> simp [Queue.event, hat]
      case h_2 hat =>
          split at hs <;> cases hs <;> rename_i ht
          · simp [Queue.event, hat, ht, Event.accepted, Event.pulled, Core.store]
          · simp [Queue.event, hat, not_not.mp ht]
      case h_3 hat =>
          cases hs
          unfold Core.publish
          split <;> simp [Queue.event, hat]
      case h_4 hat =>
          cases hs
          unfold Core.flush
          split <;> simp [Queue.event, hat]
      case h_5 => cases hs
  | producerClock timeoutMS curTick =>
      simp only [step, Queue.producerClock] at hs
      split at hs
      · rename_i hat
        split at hs <;> cases hs <;> rename_i hclock <;>
          simp [Queue.event, hat, hclock, Event.accepted, Event.pulled]
      · cases hs
  | consumer =>
      simp only [step, Queue.consumerStep] at hs
      split at hs
      case h_1 hat =>
          cases hs
          unfold Core.loadProducer
          split <;> simp [Queue.event, hat]
      case h_2 hat => split at hs <;> cases hs <;> simp [Queue.event, hat]
      case h_3 hat =>
          cases hs
          simp [Queue.event, hat, Event.accepted, Event.pulled]
      case h_4 hat =>
          cases hs
          simp [Queue.event, hat]
      case h_5 hat =>
          cases hs
          simp [Queue.event, hat, Event.accepted, Event.pulled, Core.take]
      case h_6 => cases hs
  | consumerClock timeoutMS curTick earlyOut =>
      simp only [step, Queue.consumerClock] at hs
      split at hs
      · split at hs
        · cases hs
          simp [Queue.event]
        · split at hs
          · cases hs
            simp [Queue.event]
          · split at hs <;> cases hs <;> simp [Queue.event]
      · cases hs

/-- The elements accepted and pulled in a run are those its events show, in order. -/
theorem Queue.event_run {n : QueueSize} {m_default : T} {q q' : Queue T} {acts : List (Act T)}
    (hr : run (step n m_default) q acts = some q') :
    q'.pushed =
      q.pushed ++ (trace (step n m_default) (Queue.event n) q acts).filterMap Event.accepted ∧
    q'.pulled =
      q.pulled ++ (trace (step n m_default) (Queue.event n) q acts).filterMap Event.pulled := by
  induction acts generalizing q with
  | nil =>
      cases hr
      simp
  | cons a acts ih =>
      obtain ⟨q₁, h₁, h₂⟩ := run_cons.mp hr
      obtain ⟨hpushed, hpulled⟩ := Queue.event_step h₁
      obtain ⟨hpushed', hpulled'⟩ := ih h₂
      rw [trace_cons _ h₁, List.filterMap_append, List.filterMap_append, hpushed', hpulled',
        hpushed, hpulled, List.append_assoc, List.append_assoc]
      exact ⟨rfl, rfl⟩

/-! ### After a flush -/

/-- Actions of the consumer alone lead from `q` to a state it is in no call at, with the producer's
side as it was. -/
def Queue.Settles (n : QueueSize) (m_default : T) (q : Queue T) : Prop :=
  ∃ acts q', (∀ a ∈ acts, Act.ofConsumer a = true) ∧ run (step n m_default) q acts = some q' ∧
    q'.consumer = .idle ∧ q'.pushed = q.pushed ∧ q'.mPending = q.mPending

namespace Queue.Settles

variable {n : QueueSize} {m_default : T} {q : Queue T}

theorem cons {q₁ : Queue T} (a : Act T) (h : q₁.Settles n m_default)
    (hs : step n m_default q a = some q₁) (ha : a.ofConsumer = true)
    (hpushed : q₁.pushed = q.pushed) (hpending : q₁.mPending = q.mPending) :
    q.Settles n m_default := by
  obtain ⟨acts, q', hacts, hrun, hidle, h₁, h₂⟩ := h
  refine ⟨a :: acts, q', ?_, run_cons.mpr ⟨q₁, hs, hrun⟩, hidle, h₁.trans hpushed,
    h₂.trans hpending⟩
  rintro b hb
  rcases List.mem_cons.mp hb with rfl | hb
  · exact ha
  · exact hacts b hb

theorem of_idle (h : q.consumer = .idle) : q.Settles n m_default :=
  ⟨[], q, fun _ hb => absurd hb List.not_mem_nil, rfl, h, rfl, rfl⟩

theorem of_taken (h : q.consumer = .taken) : q.Settles n m_default := by
  refine .cons .consumer (of_idle (q := { q with
    toCore := q.toCore.take n q.mLastPulled
    consumer := .idle
    result := .Success
    returned := q.mLastPulled }) rfl) ?_ rfl rfl rfl
  simp [step, Queue.consumerStep, h]

theorem of_slot {op : ConsumerOp} (h : q.consumer = .slot op) : q.Settles n m_default := by
  cases op with
  | peek =>
      refine .cons .consumer (of_idle (q := { q with
        consumer := .idle
        result := .Success
        returned := q.mData q.mWrite }) rfl) ?_ rfl rfl rfl
      simp [step, Queue.consumerStep, h]
  | pull =>
      refine .cons .consumer (of_taken (q := { q with
        consumer := .taken
        mLastPulled := q.mData q.mWrite }) rfl) ?_ rfl rfl rfl
      simp [step, Queue.consumerStep, h]

theorem of_waiting {op : ConsumerOp} {t : Nat} (h : q.consumer = .waiting op t) :
    q.Settles n m_default := by
  refine .cons (.consumerClock 0 0 true) (of_idle (q := { q with
    consumer := .idle
    result := .Timeout
    returned := m_default }) rfl) ?_ rfl rfl rfl
  simp [step, Queue.consumerClock, h]

theorem of_test {op : ConsumerOp} {t : Nat} (h : q.consumer = .test op t) :
    q.Settles n m_default := by
  by_cases ht : q.mWrite = q.mCachedProducer
  · refine .cons .consumer (of_waiting (q := { q with consumer := .waiting op t }) rfl) ?_ rfl
      rfl rfl
    simp [step, Queue.consumerStep, h, ht]
  · refine .cons .consumer (of_slot (q := { q with consumer := .slot op }) rfl) ?_ rfl rfl rfl
    simp [step, Queue.consumerStep, h, ht]

theorem of_top {op : ConsumerOp} {t : Nat} (h : q.consumer = .top op t) :
    q.Settles n m_default := by
  refine .cons .consumer (of_test (q := { q with
    toCore := q.toCore.loadProducer
    consumer := .test op t }) rfl) ?_ rfl (Core.loadProducer_pushed _)
    (Core.loadProducer_mPending _)
  simp [step, Queue.consumerStep, h]

/-- The consumer can always leave the call it is in. -/
theorem all (q : Queue T) : q.Settles n m_default := by
  rcases hpc : q.consumer with _ | ⟨op, t⟩ | ⟨op, t⟩ | op | _ | ⟨op, t⟩
  · exact of_idle hpc
  · exact of_top hpc
  · exact of_test hpc
  · exact of_slot hpc
  · exact of_taken hpc
  · exact of_waiting hpc

end Queue.Settles

/-- With nothing unpublished, a consumer in no call can pull every element left. -/
theorem Queue.Inv.drain {n : QueueSize} (m_default : T) (k : Nat) :
    ∀ {q : Queue T}, q.Inv n → q.consumer = .idle → q.mPending = 0 →
      q.pulled.length + k = q.pushed.length →
      ∃ acts q', (∀ a ∈ acts, Act.ofConsumer a = true) ∧
        run (AtomicCircularQueue.step n m_default) q acts = some q' ∧ q'.pulled = q.pushed := by
  induction k with
  | zero =>
      intro q h _ _ hlen
      exact ⟨[], q, fun _ hb => absurd hb List.not_mem_nil, rfl, h.core.inOrder.eq_of_length hlen⟩
  | succ k ih =>
      intro q h hidle hpending hlen
      obtain ⟨q₁, hrun₁, -, hcore, hidle₁, -⟩ :=
        Queue.run_receive m_default h hidle (by omega) .pull
      have hInv₁ : q₁.Inv n := run_inv (fun _ _ _ hI hs => hI.step hs) h hrun₁
      have hpulled : q₁.pulled.length = q.pulled.length + 1 := by
        rw [hcore]
        simp [Core.receive, Core.take]
      have hpushed : q₁.pushed = q.pushed := by
        rw [hcore]
        simp [Core.receive, Core.take]
      have hpending₁ : q₁.mPending = 0 := by
        rw [hcore]
        exact (Core.loadProducer_mPending _).trans hpending
      have hlen₁ : q₁.pulled.length + k = q₁.pushed.length := by
        rw [hpulled, hpushed]
        omega
      obtain ⟨acts, q', hacts, hrun, hq'⟩ := ih hInv₁ hidle₁ hpending₁ hlen₁
      exact ⟨receiveActs .pull ++ acts, q',
        List.forall_mem_append.mpr ⟨receiveActs_ofConsumer .pull, hacts⟩,
        run_append.mpr ⟨q₁, hrun₁, hrun⟩, hq'.trans hpushed⟩

/-- **After a flush.**  Nothing is unpublished, and the consumer alone can go on to pull every
element accepted. -/
theorem Queue.Inv.after_flush {n : QueueSize} {m_default : T} {q q₁ : Queue T} (h : q.Inv n)
    (hs : AtomicCircularQueue.step n m_default q .flush = some q₁) :
    q₁.mPending = 0 ∧ ∃ acts q', (∀ a ∈ acts, Act.ofConsumer a = true) ∧
      run (AtomicCircularQueue.step n m_default) q₁ acts = some q' ∧ q'.pulled = q.pushed := by
  have hInv₁ : q₁.Inv n := h.step hs
  have hpushed : q₁.pushed = q.pushed := by
    simpa [Queue.event, Event.accepted, List.filterMap_cons] using (Queue.event_step hs).1
  have hpending : q₁.mPending = 0 := by
    simp only [AtomicCircularQueue.step] at hs
    split at hs <;> cases hs
    exact Core.flush_mPending _
  obtain ⟨acts₁, q₂, hacts₁, hrun₁, hidle, hpushed₂, hpending₂⟩ := Queue.Settles.all q₁
  have hInv₂ : q₂.Inv n := run_inv (fun _ _ _ hI hs => hI.step hs) hInv₁ hrun₁
  have hle : q₂.pulled.length ≤ q₂.pushed.length := hInv₂.core.inOrder.length_le
  obtain ⟨acts₂, q', hacts₂, hrun₂, hq'⟩ :=
    hInv₂.drain m_default (q₂.pushed.length - q₂.pulled.length) hidle (hpending₂.trans hpending)
      (Nat.add_sub_cancel' hle)
  exact ⟨hpending, acts₁ ++ acts₂, q', List.forall_mem_append.mpr ⟨hacts₁, hacts₂⟩,
    run_append.mpr ⟨q₂, hrun₁, hrun₂⟩, hq'.trans (hpushed₂.trans hpushed)⟩

/-! ### Batched publication -/

/-- **Batching only delays.**  Every run with publication batched in any way shows its callers what
some run that publishes every push shows: the same pushes accepted and refused, the same elements
received, in the same order.  The elements accepted and pulled are those shown.  After a flush,
nothing is unpublished and the consumer alone can pull every element accepted.  And a push that
reports `Failure` leaves the contents as they were and nothing unpublished. -/
theorem batched_publication (n : QueueSize) (m_default : T) (acts : List (Act T)) (q : Queue T)
    (h : run (step n m_default) (start m_default) acts = some q) :
    (∃ each q', run (step n m_default) (start m_default) each = some q' ∧
      (∀ a ∈ each, ∀ k, a ≠ .setPublishBatch k) ∧
      trace (step n m_default) (Queue.event n) (start m_default) each =
        trace (step n m_default) (Queue.event n) (start m_default) acts ∧
      q'.pushed = q.pushed ∧ q'.pulled = q.pulled) ∧
    q.pushed = (trace (step n m_default) (Queue.event n) (start m_default) acts).filterMap
      Event.accepted ∧
    q.pulled = (trace (step n m_default) (Queue.event n) (start m_default) acts).filterMap
      Event.pulled ∧
    (∀ q₁, step n m_default q .flush = some q₁ → q₁.mPending = 0 ∧
      ∃ pulls q₂, (∀ a ∈ pulls, Act.ofConsumer a = true) ∧
        run (step n m_default) q₁ pulls = some q₂ ∧ q₂.pulled = q.pushed) ∧
    ∀ obj rest q', (∀ a ∈ rest, Act.callsProducer a = false) →
      run (step n m_default) q (.push obj :: rest) = some q' →
      q'.producer = .idle → q'.pushResult = .Failure →
      q'.pushed = q.pushed ∧ q'.mData = q.mData ∧ q'.mLocalWrite = q.mLocalWrite ∧
        q'.mPending = 0 := by
  obtain ⟨each, q', hrun, heach, htrace, hlock⟩ :=
    Lockstep.run Lockstep.start h
  have hevents := Queue.event_run h
  refine ⟨⟨each, q', hrun, heach, htrace, hlock.same.pushed, hlock.same.pulled⟩, hevents.1,
    hevents.2, fun q₁ hs => (inv_run h).after_flush hs, ?_⟩
  intro obj rest q' hrest hr hidle hfail
  rcases push_reports hrest hr hidle with ⟨hsucc, -⟩ | ⟨-, hun, hpending⟩
  · cases hsucc.symm.trans hfail
  · exact ⟨hun.pushed, hun.mData, hun.mLocalWrite, hpending⟩

/-- Two elements pushed with publication held back, a third push that fails, and a flush. -/
theorem batched_publication_full :
    ∃ each q', run (step ⟨3, by decide, by decide⟩ 0) (start 0) each = some q' ∧
      (∀ a ∈ each, ∀ k, a ≠ .setPublishBatch k) ∧
      trace (step ⟨3, by decide, by decide⟩ 0) (Queue.event ⟨3, by decide, by decide⟩) (start 0)
        each = [.push 7 .Success, .push 8 .Success, .push 9 .Failure, .flush] ∧
      q'.pushed = [7, 8] := by
  have h : run (step ⟨3, by decide, by decide⟩ 0) (start 0)
      [.setPublishBatch 4, .push 7, .producer, .producer, .producer, .push 8, .producer,
        .producer, .producer, .push 9, .producer, .producer, .producer, .producerClock 1 5,
        .producer, .producer, .producer, .producerClock 1 7, .flush] = some _ := rfl
  obtain ⟨⟨each, q', hrun, heach, htrace, hpushed, -⟩, -⟩ := batched_publication _ _ _ _ h
  exact ⟨each, q', hrun, heach, htrace, hpushed⟩

/-- **A pull before the flush may find nothing.**  The sequence push, pull, push, flush, each
operation run to its end before the next one starts, on a queue of one free slot.  Held back, the
first element is not there for the pull, which times out, and the second push then fails. -/
theorem batched_ne_each_push :
    ∃ batched each : List (Act Nat),
      batched.filterMap Act.call = each.filterMap Act.call ∧
      batched.getLast? = some .flush ∧ each.getLast? = some .flush ∧
      ∃ q₁ q₂, run (step ⟨2, by decide, by decide⟩ 0) (start 0) (.setPublishBatch 2 :: batched) =
          some q₁ ∧
        run (step ⟨2, by decide, by decide⟩ 0) (start 0) (.setPublishBatch 1 :: each) = some q₂ ∧
        q₁.pulled = [] ∧ q₁.pushed = [7] ∧ q₂.pulled = [7] ∧ q₂.pushed = [7, 8] :=
  ⟨[.push 7, .producer, .producer, .producer,
      .consume .pull .Success, .consumer, .consumer, .consumerClock 1 5 false, .consumer,
        .consumer, .consumerClock 1 7 false,
      .push 8, .producer, .producer, .producer, .producerClock 1 8, .producer, .producer,
        .producer, .producerClock 1 10,
      .flush],
    [.push 7, .producer, .producer, .producer,
      .consume .pull .Success, .consumer, .consumer, .consumer, .consumer,
      .push 8, .producer, .producer, .producer,
      .flush],
    rfl, rfl, rfl, _, _, rfl, rfl, rfl, rfl, rfl, rfl⟩

end RemixBridge.AtomicCircularQueue
