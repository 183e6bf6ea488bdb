import RemixBridge.Support.RingHistory
import RemixBridge.Channel.AtomicCircularQueue
import RemixBridge.Wire.Commands

/-!
# Channel — CommandHistory

The log of recent commands (`getWriterQueueData`, `getReaderQueueData`), read out of the slots of
the live queue, from the last one backwards, while the two sides go on.

The writer's log starts at `m_localWrite`.  That is a field of the queue object, which only `push`
moves: in the consuming process it is still what the constructor left, and `OnClientExited` reads
it there.  The reader's log starts at the consumer's index, which both processes share, but goes on
into slots that the producer has filled again, ahead of the consumer, when the queue is nearly full.

* `Reading.Intact`: neither happens.
* `queue_data`: on every run a log that is intact is the last commands, newest first.
-/

namespace RemixBridge.CommandHistory
open Runs AtomicCircularQueue

/-- `queueIdxDec`. -/
def queueIdxDec (n : QueueSize) (idx : Nat) : Nat := if idx = 0 then n.size - 1 else idx - 1

/-- The two processes, each with a queue object of its own on the shared memory. -/
inductive Process where
  | producer
  | consumer
  deriving DecidableEq, Repr

/-- Which log is asked for: `getWriterQueueData` or `getReaderQueueData`. -/
inductive Log where
  | writer
  | reader
  deriving DecidableEq, Repr

/-- `Header`'s defaults, which fill the slots of a new queue. -/
def m_default : Header := ⟨.Bridge_Invalid, 0, 0, 0⟩

/-- `m_localWrite` in the object of a process. -/
def localWrite (q : Queue Header) : Process → Nat
  | .producer => q.mLocalWrite
  | .consumer => (AtomicCircularQueue.start m_default).mLocalWrite

/-- Where a log starts. -/
def currentIndex (n : QueueSize) (q : Queue Header) (p : Process) : Log → Nat
  | .writer => queueIdxDec n (localWrite q p)
  | .reader => queueIdxDec n q.mWrite

/-- What a log is about: the commands sent, or those pulled. -/
def Log.subject (q : Queue Header) : Log → List Header
  | .writer => q.pushed
  | .reader => q.pulled

/-- A call: its arguments, the locals of `buildQueueData`, and history, which is what it was about
when it started and how many commands had been sent at its last step. -/
structure Reading where
  process : Process
  log : Log
  maxQueueElements : Int
  currentIndex : Nat
  itemCount : Nat
  commandHistory : List D3D9Command
  subject : List Header
  sent : Nat
  deriving DecidableEq, Repr

/-- Whoever asks for a log. -/
inductive Caller where
  | idle
  | reading (r : Reading)
  | returned (r : Reading)
  deriving DecidableEq, Repr

/-- The start of a call. -/
def Reading.start (n : QueueSize) (q : Queue Header) (p : Process) (log : Log)
    (maxQueueElements : Int) : Reading where
  process := p
  log := log
  maxQueueElements := maxQueueElements
  currentIndex := CommandHistory.currentIndex n q p log
  itemCount := 0
  commandHistory := []
  subject := log.subject q
  sent := q.pushed.length

/-- One turn of the loop of `buildQueueData`. -/
def Reading.turn (n : QueueSize) (q : Queue Header) (r : Reading) : Caller :=
  if r.itemCount < n.size ∧ r.itemCount < r.maxQueueElements then
    -- a default command is where the queue has not come to yet
    if (q.mData r.currentIndex).command = .Bridge_Invalid then
      .returned { r with sent := q.pushed.length }
    else
      .reading { r with
        commandHistory := r.commandHistory ++ [(q.mData r.currentIndex).command]
        currentIndex := queueIdxDec n r.currentIndex
        itemCount := r.itemCount + 1
        sent := q.pushed.length }
  else .returned { r with sent := q.pushed.length }

structure State where
  queue : Queue Header
  caller : Caller

/-- The steps of the queue, and those of the caller. -/
inductive Act where
  | queue (a : AtomicCircularQueue.Act Header)
  | getQueueData (p : Process) (log : Log) (maxQueueElements : Int)
  | turn
  deriving DecidableEq, Repr

def start : State := ⟨AtomicCircularQueue.start m_default, .idle⟩

def step (n : QueueSize) (s : State) : Act → Option State
  | .queue a =>
      (AtomicCircularQueue.step n m_default s.queue a).map fun q => { s with queue := q }
  | .getQueueData p log maxQueueElements =>
      match s.caller with
      | .reading _ => none
      | _ => some { s with caller := .reading (.start n s.queue p log maxQueueElements) }
  | .turn =>
      match s.caller with
      | .reading r => some { s with caller := r.turn n s.queue }
      | _ => none

/-! ### What a log should be -/

/-- How many turns a call takes at most. -/
def Reading.most (n : QueueSize) (r : Reading) : Nat := min n.size r.maxQueueElements.toNat

/-- The last commands of a list, newest first. -/
def newest (k : Nat) (l : List Header) : List D3D9Command := (l.reverse.take k).map Header.command

/-- No default command is ever sent. -/
def NoInvalid (l : List Header) : Prop := ∀ x ∈ l, x.command ≠ .Bridge_Invalid

instance (l : List Header) : Decidable (NoInvalid l) :=
  inferInstanceAs (Decidable (∀ x ∈ l, x.command ≠ .Bridge_Invalid))

namespace Reading

variable (n : QueueSize) (r : Reading)

/-- The process that asks knows where the commands end. -/
def Known : Prop := r.process = .consumer → r.log = .writer → r.subject.length % n.size = 0

/-- By the end of the call the producer has not come around to the commands that it is about. -/
def InTime : Prop := r.sent < n.size ∨ r.most n + (r.sent - r.subject.length) ≤ n.size

/-- The walk goes over the commands that it is about, if it goes anywhere. -/
def Intact : Prop := r.maxQueueElements ≤ 0 ∨ r.Known n ∧ r.InTime n

instance : Decidable (r.Intact n) := by
  unfold Intact Known InTime
  infer_instance

end Reading

/-! ### The walk -/

theorem queueIdxDec_mod (n : QueueSize) (k : Nat) :
    queueIdxDec n ((k + 1) % n.size) = k % n.size :=
  Ring.back_mod n.pos k

theorem newest_succ {l : List Header} {j : Nat} {x : Header} (hj : j < l.length)
    (hx : l[l.length - (j + 1)]? = some x) : newest (j + 1) l = newest j l ++ [x.command] := by
  have hrev : l.reverse[j]? = some x := by
    rw [List.getElem?_reverse hj, Nat.sub_sub, Nat.add_comm 1 j, hx]
  rw [newest, newest, List.take_add_one, hrev, Option.toList_some, List.map_append,
    List.map_singleton]

theorem newest_of_le {l : List Header} {k : Nat} (h : l.length ≤ k) :
    newest k l = newest l.length l := by
  have hrev : l.reverse.length ≤ k := by rwa [List.length_reverse]
  rw [newest, newest, List.take_of_length_le hrev, List.take_of_length_le (List.length_reverse.le)]

/-- What a call has read when it is under way, where `l` are the commands sent so far. -/
structure Reading.Inv (n : QueueSize) (l : List Header) (r : Reading) : Prop where
  subject : r.subject <+: l
  sent : r.sent ≤ l.length
  length : r.commandHistory.length = r.itemCount
  most : r.itemCount ≤ r.most n
  history : NoInvalid l → r.Known n → r.InTime n →
    r.commandHistory = newest r.itemCount r.subject
  index : r.Known n →
    r.currentIndex = queueIdxDec n ((r.subject.length + n.size - r.itemCount) % n.size)

/-- What holds of a call in each of its stages. -/
def Caller.Inv (n : QueueSize) (l : List Header) : Caller → Prop
  | .idle       => True
  | .reading r  => r.Inv n l
  | .returned r =>
      NoInvalid l → r.Intact n → r.commandHistory = newest (r.most n) r.subject

theorem NoInvalid.of_prefix {l l' : List Header} (hl : l <+: l') (h : NoInvalid l') :
    NoInvalid l :=
  fun x hx => h x (hl.subset hx)

/-- More commands sent take nothing from a call. -/
theorem Caller.Inv.mono {n : QueueSize} {l l' : List Header} {c : Caller} (h : c.Inv n l)
    (hl : l <+: l') : c.Inv n l' := by
  cases c with
  | idle => trivial
  | reading r =>
      have h : r.Inv n l := h
      exact
        { h with
          subject := h.subject.trans hl
          sent := h.sent.trans hl.length_le
          history := fun hno => h.history (hno.of_prefix hl) }
  | returned r => exact fun hno => h (hno.of_prefix hl)

/-- A call starts right behind the last command that it is about, where it knows that place. -/
theorem Reading.Inv.start {n : QueueSize} {q : Queue Header} (hq : q.Inv n) (p : Process)
    (log : Log) (maxQueueElements : Int) :
    (Reading.start n q p log maxQueueElements).Inv n q.pushed where
  subject := by
    cases log with
    | writer => exact List.prefix_rfl
    | reader => exact hq.core.inOrder
  sent := Nat.le_refl _
  length := rfl
  most := Nat.zero_le _
  history := fun _ _ _ => rfl
  index := by
    intro hknown
    simp only [Reading.start, Nat.sub_zero, Nat.add_mod_right]
    cases log with
    | reader => exact congrArg (queueIdxDec n) hq.core.write
    | writer =>
        cases p with
        | producer => exact congrArg (queueIdxDec n) hq.core.localWrite
        | consumer => exact congrArg (queueIdxDec n) (hknown rfl rfl).symm

section turn

variable {n : QueueSize} {q : Queue Header} {r : Reading}

theorem Reading.lt_most : r.itemCount < r.most n ↔
    r.itemCount < n.size ∧ (r.itemCount : Int) < r.maxQueueElements := by
  unfold Reading.most
  omega

/-- A turn looks at the slot of the element before. -/
theorem Reading.Inv.index_eq {l : List Header} (h : r.Inv n l) (hlt : r.itemCount < r.most n)
    (hknown : r.Known n) :
    r.currentIndex = (r.subject.length + n.size - (r.itemCount + 1)) % n.size := by
  have hmost : r.most n ≤ n.size := Nat.min_le_left _ _
  have hnext : r.subject.length + n.size - r.itemCount =
      r.subject.length + n.size - (r.itemCount + 1) + 1 := by omega
  rw [h.index hknown, hnext, queueIdxDec_mod]

/-- What a turn finds in its slot: the next element, or, behind the first one, a default. -/
theorem Reading.Inv.slot (h : r.Inv n q.pushed)
    (hq : Ring.Holds n.size q.mData m_default q.pushed) (hlt : r.itemCount < r.most n)
    (hknown : r.Known n)
    (htime : ({ r with sent := q.pushed.length } : Reading).InTime n) :
    (r.itemCount < r.subject.length ∧
      r.subject[r.subject.length - (r.itemCount + 1)]? = some (q.mData r.currentIndex)) ∨
    (r.subject.length ≤ r.itemCount ∧
      (r.itemCount = r.subject.length → q.mData r.currentIndex = m_default)) := by
  have hmost : r.most n ≤ n.size := Nat.min_le_left _ _
  have hle : r.subject.length ≤ q.pushed.length := h.subject.length_le
  have htime : q.pushed.length < n.size ∨
      r.most n + (q.pushed.length - r.subject.length) ≤ n.size := htime
  have hindex := h.index_eq hlt hknown
  rcases Nat.lt_or_ge r.itemCount r.subject.length with hj | hj
  · left
    refine ⟨hj, ?_⟩
    obtain ⟨rest, hrest⟩ := h.subject
    rw [hindex, ← hq.behind hj hle (by omega), ← hrest, List.getElem?_append_left (by omega)]
  · right
    refine ⟨hj, fun he => ?_⟩
    rw [hindex, he]
    exact hq.behind_first (by omega)

/-- **A turn of the loop.** -/
theorem Reading.Inv.turn (h : r.Inv n q.pushed)
    (hq : Ring.Holds n.size q.mData m_default q.pushed) : (r.turn n q).Inv n q.pushed := by
  have hsent : r.sent ≤ q.pushed.length := h.sent
  -- what is in time now was in time at the turn before
  have hearlier : ({ r with sent := q.pushed.length } : Reading).InTime n → r.InTime n := by
    simp only [Reading.InTime, Reading.most]
    omega
  unfold Reading.turn
  split
  · rename_i hlt
    have hlt : r.itemCount < r.most n := Reading.lt_most.mpr hlt
    split
    · rename_i hinvalid
      intro hno hI
      have hpos : 0 < r.maxQueueElements := by
        unfold Reading.most at hlt
        omega
      obtain ⟨hknown, htime⟩ := hI.resolve_left (Int.not_le.mpr hpos)
      rcases h.slot hq hlt hknown htime with ⟨-, hx⟩ | ⟨hge, -⟩
      · have hmem : q.mData r.currentIndex ∈ r.subject := List.mem_of_getElem? hx
        exact absurd hinvalid (hno _ (h.subject.subset hmem))
      · have hmost : r.subject.length ≤ r.most n := hge.trans h.most
        exact (h.history hno hknown (hearlier htime)).trans
          ((newest_of_le hge).trans (newest_of_le hmost).symm)
    · rename_i hvalid
      exact
        { subject := h.subject
          sent := Nat.le_refl _
          length := by
            rw [List.length_append, h.length]
            rfl
          most := hlt
          history := by
            intro hno hknown htime
            have hsofar := h.history hno hknown (hearlier htime)
            rcases h.slot hq hlt hknown htime with ⟨hj, hx⟩ | ⟨hge, hdefault⟩
            · exact (congrArg (· ++ [_]) hsofar).trans (newest_succ hj hx).symm
            · have hlen : r.itemCount ≤ r.subject.length := by
                rw [← h.length, hsofar, newest, List.length_map, List.length_take,
                  List.length_reverse]
                exact Nat.min_le_right _ _
              have hslot := hdefault (Nat.le_antisymm hlen hge)
              exact absurd (congrArg Header.command hslot) hvalid
          index := fun hknown => congrArg (queueIdxDec n) (h.index_eq hlt hknown) }
  · rename_i hge
    have hcount : r.itemCount = r.most n :=
      Nat.le_antisymm h.most (Nat.not_lt.mp (mt Reading.lt_most.mp hge))
    rintro hno (hzero | ⟨hknown, htime⟩)
    · have hzero : r.maxQueueElements ≤ 0 := hzero
      have hmost : r.most n = 0 := by
        unfold Reading.most
        omega
      have hnil : r.commandHistory = [] := by
        rw [← List.length_eq_zero_iff, h.length, hcount, hmost]
      exact hnil.trans (congrArg (newest · r.subject) hmost).symm
    · exact (h.history hno hknown (hearlier htime)).trans (congrArg (newest · r.subject) hcount)

end turn

/-! ### Every run -/

theorem flush_keeps (q : Core Header) :
    q.flush.mData = q.mData ∧ q.flush.pushed = q.pushed := by
  unfold Core.flush
  split <;> exact ⟨rfl, rfl⟩

/-- What a step of the queue does to the slots: nothing, or the store of one more element. -/
theorem stores_of_step {n : QueueSize} {q q' : Queue Header} {a : AtomicCircularQueue.Act Header}
    (hs : AtomicCircularQueue.step n m_default q a = some q') :
    (q'.mData = q.mData ∧ q'.pushed = q.pushed) ∨
    ∃ obj, q'.mData = Function.update q.mData q.mLocalWrite obj ∧
      q'.pushed = q.pushed ++ [obj] := by
  cases a with
  | setPublishBatch k =>
      simp only [AtomicCircularQueue.step] at hs
      split at hs <;> cases hs
      exact .inl ⟨rfl, rfl⟩
  | flush =>
      simp only [AtomicCircularQueue.step] at hs
      split at hs <;> cases hs
      exact .inl (flush_keeps q.toCore)
  | push obj =>
      simp only [AtomicCircularQueue.step] at hs
      split at hs <;> cases hs
      exact .inl ⟨rfl, rfl⟩
  | producer =>
      simp only [AtomicCircularQueue.step, Queue.producerStep] at hs
      split at hs
      · cases hs
        exact .inl (by unfold Core.loadConsumer; split <;> exact ⟨rfl, rfl⟩)
      · split at hs <;> cases hs
        · exact .inr ⟨_, rfl, rfl⟩
        · exact .inl ⟨rfl, rfl⟩
      · cases hs
        exact .inl (by unfold Core.publish; split <;> exact ⟨rfl, rfl⟩)
      · cases hs
        exact .inl (flush_keeps q.toCore)
      · cases hs
  | producerClock timeoutMS curTick =>
      simp only [AtomicCircularQueue.step, Queue.producerClock] at hs
      split at hs
      · split at hs <;> cases hs <;> exact .inl ⟨rfl, rfl⟩
      · cases hs
  | consume op result =>
      simp only [AtomicCircularQueue.step] at hs
      split at hs <;> cases hs
      exact .inl ⟨rfl, rfl⟩
  | consumer =>
      simp only [AtomicCircularQueue.step, Queue.consumerStep] at hs
      split at hs
      · cases hs
        exact .inl (by unfold Core.loadProducer; split <;> exact ⟨rfl, rfl⟩)
      · split at hs <;> cases hs <;> exact .inl ⟨rfl, rfl⟩
      · cases hs
        exact .inl ⟨rfl, rfl⟩
      · cases hs
        exact .inl ⟨rfl, rfl⟩
      · cases hs
        exact .inl ⟨rfl, rfl⟩
      · cases hs
  | consumerClock timeoutMS curTick earlyOut =>
      simp only [AtomicCircularQueue.step, Queue.consumerClock] at hs
      split at hs
      · split at hs
        · cases hs
          exact .inl ⟨rfl, rfl⟩
        · split at hs
          · cases hs
            exact .inl ⟨rfl, rfl⟩
          · split at hs <;> cases hs <;> exact .inl ⟨rfl, rfl⟩
      · cases hs

structure State.Inv (n : QueueSize) (s : State) : Prop where
  queue : s.queue.Inv n
  slots : Ring.Holds n.size s.queue.mData m_default s.queue.pushed
  caller : s.caller.Inv n s.queue.pushed

theorem inv_start (n : QueueSize) : start.Inv n where
  queue := AtomicCircularQueue.inv_start n m_default
  slots := Ring.Holds.empty n.size m_default
  caller := trivial

theorem State.Inv.step {n : QueueSize} {s s' : State} {a : Act} (h : s.Inv n)
    (hs : step n s a = some s') : s'.Inv n := by
  cases a with
  | queue a =>
      obtain ⟨q, hq, rfl⟩ := Option.map_eq_some_iff.mp hs
      have hqueue : q.Inv n := h.queue.step hq
      rcases stores_of_step hq with ⟨hdata, hpushed⟩ | ⟨obj, hdata, hpushed⟩
      · exact ⟨hqueue, by rw [hdata, hpushed]; exact h.slots, by rw [hpushed]; exact h.caller⟩
      · refine ⟨hqueue, ?_, h.caller.mono (hpushed ▸ List.prefix_append _ _)⟩
        rw [hdata, hpushed, h.queue.core.localWrite]
        exact h.slots.store obj
  | getQueueData p log maxQueueElements =>
      simp only [CommandHistory.step] at hs
      split at hs <;> cases hs
      exact ⟨h.queue, h.slots, .start h.queue p log maxQueueElements⟩
  | turn =>
      simp only [CommandHistory.step] at hs
      split at hs <;> cases hs
      rename_i r e
      have hr : r.Inv n s.queue.pushed := (e ▸ h.caller : (Caller.reading r).Inv n _)
      exact ⟨h.queue, h.slots, hr.turn h.slots⟩

theorem inv_run {n : QueueSize} {acts : List Act} {s : State}
    (h : run (step n) start acts = some s) : s.Inv n :=
  run_inv (fun _ _ _ hI hs => hI.step hs) (inv_start n) h

/-- **The command history.**  On every run, an intact log of a queue that no default command was
sent on is the last commands sent, or pulled, newest first: as many as were asked for, or all there
were, or as many as the queue has slots. -/
theorem queue_data (n : QueueSize) (acts : List Act) (s : State) (r : Reading)
    (h : run (step n) start acts = some s) (hret : s.caller = .returned r)
    (hno : NoInvalid s.queue.pushed) (hI : r.Intact n) :
    r.commandHistory = newest (min n.size r.maxQueueElements.toNat) r.subject := by
  have hr : (Caller.returned r).Inv n s.queue.pushed := hret ▸ (inv_run h).caller
  exact hr hno hI

/-! ### Runs -/

/-- A command that is sent, with the queue not full. -/
def send (command : D3D9Command) : List Act :=
  [.queue (.push ⟨command, 0, 0, 0⟩), .queue .producer, .queue .producer, .queue .producer]

/-- A command that is pulled, with the queue not empty. -/
def receive : List Act :=
  [.queue (.consume .pull .Failure), .queue .consumer, .queue .consumer, .queue .consumer,
    .queue .consumer]

/-- Two commands sent, and both asked for where they were sent. -/
theorem queue_data_sent :
    ∃ s r, run (step ⟨4, by decide, by decide⟩) start
        (send .IDirect3DDevice9Ex_BeginScene ++ send .IDirect3DDevice9Ex_EndScene ++
          [.getQueueData .producer .writer 10, .turn, .turn, .turn]) = some s ∧
      s.caller = .returned r ∧ r.commandHistory = newest (min 4 10) r.subject ∧
      newest (min 4 10) r.subject =
        [.IDirect3DDevice9Ex_EndScene, .IDirect3DDevice9Ex_BeginScene] := by
  have h : run (step ⟨4, by decide, by decide⟩) start
      (send .IDirect3DDevice9Ex_BeginScene ++ send .IDirect3DDevice9Ex_EndScene ++
        [.getQueueData .producer .writer 10, .turn, .turn, .turn]) = some _ := rfl
  exact ⟨_, _, h, rfl, queue_data _ _ _ _ h rfl (by decide) (by decide), rfl⟩

/-- A command was sent, and the process that it was sent to knows of none: the case of
`OnClientExited`.  And in a queue of three slots, where two commands were pulled and two more were
sent, the last of those, still unread, stands among the commands pulled. -/
theorem log_not_intact :
    (∃ s r, run (step ⟨3, by decide, by decide⟩) start
        (send .IDirect3DDevice9Ex_BeginScene ++
          [.getQueueData .consumer .writer 10, .turn]) = some s ∧
      s.caller = .returned r ∧ NoInvalid s.queue.pushed ∧
      newest (min 3 10) s.queue.pushed = [.IDirect3DDevice9Ex_BeginScene] ∧
      r.commandHistory = []) ∧
    ∃ s r, run (step ⟨3, by decide, by decide⟩) start
        (send .IDirect3DDevice9Ex_BeginScene ++ receive ++
          send .IDirect3DDevice9Ex_EvictManagedResources ++ receive ++
          send .IDirect3DDevice9Ex_GetDirect3D ++ send .IDirect3DDevice9Ex_EndScene ++
          [.getQueueData .consumer .reader 10, .turn, .turn, .turn, .turn]) = some s ∧
      s.caller = .returned r ∧ NoInvalid s.queue.pushed ∧
      newest (min 3 10) s.queue.pulled =
        [.IDirect3DDevice9Ex_EvictManagedResources, .IDirect3DDevice9Ex_BeginScene] ∧
      r.commandHistory =
        [.IDirect3DDevice9Ex_EvictManagedResources, .IDirect3DDevice9Ex_EndScene,
          .IDirect3DDevice9Ex_GetDirect3D] :=
  ⟨⟨_, _, rfl, rfl, by decide, rfl, rfl⟩, ⟨_, _, rfl, rfl, by decide, rfl, rfl⟩⟩

end RemixBridge.CommandHistory
