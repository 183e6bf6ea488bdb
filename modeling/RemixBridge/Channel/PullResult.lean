import RemixBridge.Channel.AtomicCircularQueue

/-!
# Channel — PullResult

What `peek` and `pull` report to their caller, and `Bridge::pop_front` with them, while the producer
may publish between any two of their steps.  A call leaves through the slot it found, through the
early-out signal, or through its timeout; the last of these does not set `result` in `pull`.

* `inCall_run`: until it leaves, a call takes nothing off the queue.
* `reports_iff`: a call reports what it did, unless it is a `pull` that times out with the `Success`
  it was handed.
-/

namespace RemixBridge.AtomicCircularQueue
open Runs

variable {T : Type}

/-- `Bridge::pop_front`: a `pull` with a `Result` that is not initialised. -/
def popFront (uninitialised : Result) : Act T := .consume .pull uninitialised

/-- The call the consumer is in. -/
def ConsumerPC.op : ConsumerPC → Option ConsumerOp
  | .idle         => none
  | .top op _     => some op
  | .test op _    => some op
  | .slot op      => some op
  | .taken        => some .pull
  | .waiting op _ => some op

/-- The action starts no call of the consumer. -/
def Act.Inside : Act T → Prop
  | .consume _ _ => False
  | _            => True

/-- The element is the front of the queue: published, not taken, and the next in order. -/
def Core.FrontIs (q : Core T) (obj : T) : Prop :=
  q.pulled.length < q.pushed.length - q.mPending ∧ q.pushed[q.pulled.length]? = some obj

/-- What a call does to the queue when it leaves with an element. -/
def ConsumerOp.effect (n : QueueSize) (q : Core T) (obj : T) : ConsumerOp → Core T
  | .peek => q
  | .pull => q.take n obj

/-- A call of `op` from `q₀` that leaves by the step from `q` to `q'` reports what it did: `Success`
with the front of the queue, which `pull` then takes, and otherwise the default, the queue being
left as it was. -/
def Reported (n : QueueSize) (m_default : T) (op : ConsumerOp) (q₀ q q' : Queue T) : Prop :=
  (q.pulled = q₀.pulled ∧ q.mWrite = q₀.mWrite) ∧
    if q'.result = .Success then q.FrontIs q'.returned ∧ q'.toCore = op.effect n q.toCore q'.returned
    else q'.returned = m_default ∧ q'.toCore = q.toCore

/-- The call leaves through its timeout: the loop condition fails, and no signal asked it to leave
early. -/
def Queue.TimesOut (q : Queue T) : Act T → Prop
  | .consumerClock timeoutMS curTick false =>
      ∃ op start, q.consumer = .waiting op start ∧
        keepsWaiting timeoutMS (firstTick start curTick) curTick = false
  | _ => False

/-- One call of `op`, handed `result`, on a run of the queue: it starts at `q₀`, goes on to `q`, and
leaves by the step `a` to `q'`. -/
structure Call (n : QueueSize) (m_default : T) (op : ConsumerOp) (result : Result)
    (q₀ q : Queue T) (a : Act T) (q' : Queue T) : Prop where
  reached : ∃ before, run (step n m_default) (start m_default) before = some q₀
  called : ∃ q₁ inside, step n m_default q₀ (.consume op result) = some q₁ ∧
    run (step n m_default) q₁ inside = some q ∧ ∀ b ∈ inside, b.Inside
  going : q.consumer ≠ .idle
  leaves : step n m_default q a = some q'
  left : q'.consumer = .idle

/-! ### Inside a call -/

/-- A call that goes on has taken nothing off the queue and not touched `result`. -/
def InCall (op : ConsumerOp) (result : Result) (q₀ q : Queue T) : Prop :=
  ∀ op', q.consumer.op = some op' →
    op' = op ∧ q.result = result ∧ q.pulled = q₀.pulled ∧ q.mWrite = q₀.mWrite

section inside

variable {n : QueueSize} {m_default : T} {op : ConsumerOp} {result : Result} {q₀ q q' : Queue T}

theorem loadProducer_frame (q : Core T) :
    q.loadProducer.pulled = q.pulled ∧ q.loadProducer.mWrite = q.mWrite := by
  unfold Core.loadProducer
  split <;> exact ⟨rfl, rfl⟩

theorem inCall_consumerStep (h : InCall op result q₀ q) (hs : q.consumerStep n = some q') :
    InCall op result q₀ q' := by
  unfold Queue.consumerStep at hs
  split at hs
  · rename_i e
    cases hs
    obtain ⟨hpulled, hwrite⟩ := loadProducer_frame q.toCore
    rintro op' ⟨⟩
    obtain ⟨hop, hresult, hp, hw⟩ := h _ (by rw [e]; rfl)
    exact ⟨hop, hresult, hpulled.trans hp, hwrite.trans hw⟩
  · rename_i e
    split at hs
    · cases hs
      rintro op' ⟨⟩
      exact h _ (by rw [e]; rfl)
    · cases hs
      rintro op' ⟨⟩
      exact h _ (by rw [e]; rfl)
  · cases hs
    exact nofun
  · rename_i e
    cases hs
    rintro op' ⟨⟩
    exact h _ (by rw [e]; rfl)
  · cases hs
    exact nofun
  · cases hs

theorem inCall_consumerClock {timeoutMS curTick : Nat} {earlyOut : Bool}
    (h : InCall op result q₀ q)
    (hs : q.consumerClock m_default timeoutMS curTick earlyOut = some q') :
    InCall op result q₀ q' := by
  unfold Queue.consumerClock at hs
  split at hs
  · rename_i e
    split at hs
    · cases hs
      exact nofun
    · split at hs
      · cases hs
        rintro op' ⟨⟩
        exact h _ (by rw [e]; rfl)
      · split at hs <;> cases hs <;> exact nofun
  · cases hs

theorem inCall_step {a : Act T} (h : InCall op result q₀ q) (ha : a.Inside)
    (hs : step n m_default q a = some q') : InCall op result q₀ q' := by
  have hproducer : a.ofConsumer = false → InCall op result q₀ q' := by
    intro hc op' hop'
    have hsame := sameConsumer_of_step hc hs
    rw [hsame.consumer] at hop'
    rw [hsame.result, hsame.pulled, hsame.mWrite]
    exact h op' hop'
  cases a with
  | setPublishBatch k => exact hproducer rfl
  | flush => exact hproducer rfl
  | push obj => exact hproducer rfl
  | producer => exact hproducer rfl
  | producerClock timeoutMS curTick => exact hproducer rfl
  | consume op' r => cases ha
  | consumer => exact inCall_consumerStep h hs
  | consumerClock timeoutMS curTick earlyOut => exact inCall_consumerClock h hs

theorem inCall_start {q₁ : Queue T} (hs : step n m_default q₀ (.consume op result) = some q₁) :
    InCall op result q₀ q₁ := by
  simp only [step] at hs
  split at hs <;> cases hs
  rintro op' ⟨⟩
  exact ⟨rfl, rfl, rfl, rfl⟩

theorem inCall_run {q₁ : Queue T} {inside : List (Act T)}
    (h₁ : step n m_default q₀ (.consume op result) = some q₁)
    (hr : run (step n m_default) q₁ inside = some q) (hb : ∀ b ∈ inside, b.Inside) :
    InCall op result q₀ q :=
  run_inv_along (C := fun _ b => b.Inside) (I := InCall op result q₀)
    (fun _ _ _ h ha hs => inCall_step h ha hs) (inCall_start h₁) (along_of_forall q₁ hb) hr

/-! ### The ways out -/

/-- A call leaves with the slot it found, or with the default. -/
inductive Leaves (n : QueueSize) (m_default : T) (q : Queue T) (a : Act T) : Queue T → Prop where
  | peeked (e : q.consumer = .slot .peek) (ha : ¬ q.TimesOut a) :
      Leaves n m_default q a
        { q with consumer := .idle, result := .Success, returned := q.mData q.mWrite }
  | pulled (e : q.consumer = .taken) (ha : ¬ q.TimesOut a) :
      Leaves n m_default q a { q with
        toCore := q.toCore.take n q.mLastPulled
        consumer := .idle
        result := .Success
        returned := q.mLastPulled }
  | timeout {op : ConsumerOp} {start : Nat} (e : q.consumer = .waiting op start)
      (ha : ¬ (op = .pull ∧ q.TimesOut a)) :
      Leaves n m_default q a
        { q with consumer := .idle, result := .Timeout, returned := m_default }
  | unset {start : Nat} (e : q.consumer = .waiting .pull start) (ha : q.TimesOut a) :
      Leaves n m_default q a { q with consumer := .idle, returned := m_default }

theorem leaves_of_consumer (hq : q'.consumer = .idle) (hs : q.consumerStep n = some q') :
    Leaves n m_default q .consumer q' := by
  unfold Queue.consumerStep at hs
  split at hs
  · cases hs
    cases hq
  · split at hs <;> cases hs <;> cases hq
  · cases hs
    exact .peeked ‹_› id
  · cases hs
    cases hq
  · cases hs
    exact .pulled ‹_› id
  · cases hs

theorem leaves_of_clock {timeoutMS curTick : Nat} {earlyOut : Bool} (hq : q'.consumer = .idle)
    (hs : q.consumerClock m_default timeoutMS curTick earlyOut = some q') :
    Leaves n m_default q (.consumerClock timeoutMS curTick earlyOut) q' := by
  unfold Queue.consumerClock at hs
  split at hs
  · rename_i op start e
    cases earlyOut with
    | true =>
        cases hs
        exact .timeout e fun h => h.2
    | false =>
        rw [if_neg Bool.false_ne_true] at hs
        split at hs
        · cases hs
          cases hq
        · rename_i hexpired
          cases op with
          | peek =>
              cases hs
              exact .timeout e nofun
          | pull =>
              cases hs
              exact .unset e ⟨.pull, start, e, Bool.eq_false_iff.mpr hexpired⟩
  · cases hs

theorem Call.leaves_cases {a : Act T} (c : Call n m_default op result q₀ q a q') :
    Leaves n m_default q a q' := by
  have hs := c.leaves
  have hproducer : a.ofConsumer = false → Leaves n m_default q a q' := by
    intro ha
    have hsame := sameConsumer_of_step ha hs
    exact absurd (hsame.consumer.symm.trans c.left) c.going
  cases a with
  | setPublishBatch k => exact hproducer rfl
  | flush => exact hproducer rfl
  | push obj => exact hproducer rfl
  | producer => exact hproducer rfl
  | producerClock timeoutMS curTick => exact hproducer rfl
  | consume op' r =>
      simp only [step] at hs
      split at hs
      · exact absurd ‹_› c.going
      · cases hs
  | consumer => exact leaves_of_consumer c.left hs
  | consumerClock timeoutMS curTick earlyOut => exact leaves_of_clock c.left hs

/-! ### The report -/

/-- Past its test a call finds the front of the queue. -/
theorem frontIs_of_atFront (h : q.Inv n) (hat : q.consumer.AtFront) {obj : T}
    (hobj : q.pushed[q.pulled.length]? = some obj) : q.FrontIs obj := by
  obtain ⟨p, hp, hpq, -⟩ := h.core.front_of_test (h.front hat)
  exact ⟨by omega, hobj⟩

/-- Taking an element is not leaving the queue as it was. -/
theorem take_ne (c : Core T) (obj : T) : c ≠ c.take n obj := by
  intro h
  have hlen : c.pulled.length = (c.pulled ++ [obj]).length := congrArg (·.pulled.length) h
  rw [List.length_append] at hlen
  exact absurd hlen (Nat.ne_of_lt (Nat.lt_succ_self _))

end inside

/-- **What a call reports.**  On every run, and whatever the producer does meanwhile, a call of
`peek` or `pull` reports what it did, unless it is a `pull` that was handed `Success` and leaves
through its timeout. -/
theorem reports_iff {n : QueueSize} {m_default : T} {op : ConsumerOp} {result : Result}
    {q₀ q q' : Queue T} {a : Act T} (c : Call n m_default op result q₀ q a q') :
    Reported n m_default op q₀ q q' ↔
      ¬ (op = .pull ∧ result = .Success ∧ q.TimesOut a) := by
  obtain ⟨before, hbefore⟩ := c.reached
  obtain ⟨q₁, inside, hcalled, hinside, hb⟩ := c.called
  have hin : InCall op result q₀ q := inCall_run hcalled hinside hb
  have hI : q.Inv n := by
    have hrun : run (step n m_default) (start m_default)
        (before ++ .consume op result :: inside) = some q :=
      run_append.mpr ⟨q₀, hbefore, run_cons.mpr ⟨q₁, hcalled, hinside⟩⟩
    exact inv_run hrun
  cases c.leaves_cases with
  | peeked e ha =>
      obtain ⟨rfl, -, hsame⟩ := hin .peek (by rw [e]; rfl)
      have hat : q.consumer.AtFront := e ▸ trivial
      refine iff_of_true ⟨hsame, ?_⟩ fun h => ha h.2.2
      exact ⟨frontIs_of_atFront hI hat (hI.slot hat), rfl⟩
  | pulled e ha =>
      obtain ⟨rfl, -, hsame⟩ := hin .pull (by rw [e]; rfl)
      have hat : q.consumer.AtFront := e ▸ trivial
      refine iff_of_true ⟨hsame, ?_⟩ fun h => ha h.2.2
      exact ⟨frontIs_of_atFront hI hat (hI.lastPulled e), rfl⟩
  | timeout e ha =>
      obtain ⟨rfl, -, hsame⟩ := hin _ (by rw [e]; rfl)
      exact iff_of_true ⟨hsame, rfl, rfl⟩ fun h => ha ⟨h.1, h.2.2⟩
  | unset e ha =>
      obtain ⟨rfl, rfl, hsame⟩ := hin .pull (by rw [e]; rfl)
      by_cases hr : q.result = .Success
      · refine iff_of_false (fun h => ?_) fun h => h ⟨rfl, hr, ha⟩
        have htaken := h.2
        rw [if_pos hr] at htaken
        exact take_ne q.toCore m_default htaken.2
      · refine iff_of_true ⟨hsame, ?_⟩ fun h => hr h.2.1
        rw [if_neg hr]
        exact ⟨rfl, rfl⟩

def threeSlots : QueueSize := ⟨3, by decide, by decide⟩

/-- The queue after actions that go through. -/
def drive (q : Queue Nat) (acts : List (Act Nat)) : Queue Nat :=
  (run (step threeSlots 0) q acts).getD q

/-- `pop_front` takes a published element. -/
theorem reports_iff_popped : ∃ q₀ q q' : Queue Nat, q'.result = .Success ∧ q'.returned = 7 ∧
    (Reported threeSlots 0 .pull q₀ q q' ↔
      ¬ (ConsumerOp.pull = .pull ∧ Result.Failure = .Success ∧ q.TimesOut .consumer)) := by
  let q₀ := drive (start 0) [.push 7, .producer, .producer, .producer]
  let q₁ := drive q₀ [popFront .Failure]
  let q := drive q₁ [.consumer, .consumer, .consumer]
  let q' := drive q [.consumer]
  have hcall : Call threeSlots 0 .pull .Failure q₀ q .consumer q' :=
    ⟨⟨[.push 7, .producer, .producer, .producer], rfl⟩,
      ⟨q₁, [.consumer, .consumer, .consumer], rfl, rfl, by simp [Act.Inside]⟩, nofun, rfl, rfl⟩
  exact ⟨q₀, q, q', rfl, rfl, reports_iff hcall⟩

/-- `pop_front` on a queue that stays empty, its `Result` happening to hold `Success`: the timeout
reports `Success` with the default, which is the front of no queue. -/
theorem popFront_reports_nothing : ∃ q₀ q q' : Queue Nat,
    Call threeSlots 0 .pull .Success q₀ q (.consumerClock 10 15 false) q' ∧
      q'.result = .Success ∧ q'.pushed = [] ∧ ¬ Reported threeSlots 0 .pull q₀ q q' := by
  let waits : List (Act Nat) :=
    [.consumer, .consumer, .consumerClock 10 5 false, .consumer, .consumer]
  let q₁ := drive (start 0) [popFront .Success]
  let q := drive q₁ waits
  let q' := drive q [.consumerClock 10 15 false]
  have hcall : Call threeSlots 0 .pull .Success (start 0) q (.consumerClock 10 15 false) q' :=
    ⟨⟨[], rfl⟩, ⟨q₁, waits, rfl, rfl, by simp [waits, Act.Inside]⟩, nofun, rfl, rfl⟩
  refine ⟨start 0, q, q', hcall, rfl, rfl, fun h => ?_⟩
  exact absurd h.2.1.1 (Nat.not_lt_zero 0)

end RemixBridge.AtomicCircularQueue
