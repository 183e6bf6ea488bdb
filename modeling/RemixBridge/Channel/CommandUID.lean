import RemixBridge.Support.RecursiveLock
import RemixBridge.Channel.WaitForCommand

/-!
# Channel — CommandUID

The two counters a request is tagged with.  The client numbers a command by `s_cmdUID`
(`Bridge::Command`, `util_bridgecommand.cpp`), which it advances for each header it pushed; the
server by `g_rxUID` (`server/main.cpp`), which it advances for each header it pulled.  No message
carries the number.

The client is any number of threads.  Each has a stack of `Command`s: a constructor may run
`g_stateBatchFlush`, whose `Command` lives inside it.  A step is one access to what the threads
share, with the local code around it.  The queue between the processes is `AtomicCircularQueue`; an
element carries, as history, what `get_uid` returned while its `Command` was alive.

* `Sending`: how far `s_cmdUID` is behind the headers stored, by where the one `Command` that has
  the channel is.
* `Serving`: the same of `g_rxUID`.
* `uid_agreement`: the server counts a command by what `get_uid` returned for it.
-/

namespace RemixBridge.CommandUID
open Runs RecursiveLock AtomicCircularQueue WaitForCommand

/-- `BridgeState::ProcessState`. -/
inductive ProcessState where
  | NotInit
  | Init
  | Handshaking
  | Running
  | DoneProcessing
  | Exited
  deriving DecidableEq, Repr

def ProcessState.toNat : ProcessState → Nat
  | .NotInit        => 0
  | .Init           => 1
  | .Handshaking    => 2
  | .Running        => 3
  | .DoneProcessing => 4
  | .Exited         => 5

/-- A header, and what `get_uid` returned for its command. -/
structure Sent where
  header : Header
  uids : List Word
  deriving DecidableEq, Repr

/-- A default header. -/
def m_default : Sent := ⟨⟨.Bridge_Invalid, 0, 0, 0⟩, []⟩

/-- Where a `Command` is in its life.  Up to `setInProgress` it is in its constructor, from
`pushNext` on in its destructor. -/
inductive Stage where
  | flushTest
  | lockToFlush
  | flushRetest
  | flushing
  | unlockFlushed
  | lock
  | testInProgress
  | setInProgress
  | alive
  | pushNext (numRetries : Nat)
  | pushing (numRetries : Nat)
  | pushed (result : Result)
  | clearInProgress (headerSent : Bool)
  | countAndUnlock (headerSent : Bool)
  deriving DecidableEq, Repr

/-- A `Command`; `uids` is what `get_uid` has returned in its scope. -/
structure Command where
  command : D3D9Command
  commandFlags : Nat
  handle : Nat
  stage : Stage
  uids : List Word
  deriving DecidableEq, Repr

/-- The options the two processes read. -/
structure Config extends Options where
  startupTimeout : Nat

def Config.getStartupTimeout (o : Config) : Nat := if o.disableTimeouts then 0 else o.startupTimeout

/-- `get_default_timeout`, the time `pop_front` may take, in `DWORD` arithmetic. -/
def Config.getDefaultTimeout (o : Config) (infiniteRetries : Bool) : Nat :=
  let timeout := o.getCommandTimeout
  let retries := o.getCommandRetries infiniteRetries
  let product := timeout * retries % 2 ^ 32
  if timeout ≠ 0 ∧ product / timeout ≠ retries then 2 ^ 32 - 1 else product

/-- What the server waits for: the two commands of the handshake, then any. -/
inductive Awaited where
  | syn
  | goOn
  | any
  deriving DecidableEq, Repr

def Awaited.command : Awaited → D3D9Command
  | .syn  => .Bridge_Syn
  | .goOn => .Bridge_Continue
  | .any  => .Bridge_Any

/-- The timeout the server overrides the default with. -/
def Awaited.overrideTimeoutMS (o : Config) : Awaited → Nat
  | .any => 0
  | _    => o.getStartupTimeout

/-- Where the server is.  `received` has popped a header it has not counted, and `processing` is
the switch of `ProcessDeviceCommandQueue` with its `currentUID`. -/
inductive ServerPC where
  | ready (a : Awaited)
  | looking (a : Awaited) (w : Wait)
  | peeking (a : Awaited) (w : Wait)
  | again (a : Awaited) (w : Wait)
  | found (a : Awaited)
  | popping (a : Awaited)
  | received (a : Awaited) (rpc : Sent)
  | initialising
  | processing (rpc : Sent) (currentUID : Word)
  | stopped
  deriving DecidableEq, Repr

/-- The bridge.  `commands t` are the `Command`s of thread `t`, innermost first, and `locks t` its
holds of the channel lock as the device lock; `gStateBatchFlush` says that the pointer is set. -/
structure State where
  queue : Queue Sent
  mMutex : Lock Nat
  pbCmdInProgress : Bool
  sCmdUID : Word
  gStateBatchPending : Bool
  gStateBatchFlush : Bool
  gbBridgeRunning : Bool
  serverState : ProcessState
  infiniteRetries : Bool
  locks : Nat → Nat
  commands : Nat → List Command
  exited : Bool
  server : ServerPC
  gRxUID : Word

/-- The two processes before the first command, with the client's `m_publishBatch` set. -/
def start (publishBatch : Nat) : State where
  queue := { AtomicCircularQueue.start m_default with
    toCore := (AtomicCircularQueue.start m_default).toCore.setPublishBatch publishBatch }
  mMutex := .free
  pbCmdInProgress := false
  sCmdUID := 0
  gStateBatchPending := false
  gStateBatchFlush := false
  gbBridgeRunning := true
  serverState := .NotInit
  infiniteRetries := false
  locks := fun _ => 0
  commands := fun _ => []
  exited := false
  server := .ready .syn
  gRxUID := 0

/-! ### The client -/

/-- The steps of the client: of a thread `t` in its own code, of its innermost `Command`, of the
`push` that one is in, and what the rest of the process does to the flags they read. -/
inductive ClientAct where
  | lockDevice (t : Nat)
  | unlockDevice (t : Nat)
  | flushWriter (t : Nat)
  | command (t : Nat) (c : D3D9Command) (commandFlags handle : Nat)
  | getUID (t : Nat)
  | advance (t dataPos : Nat)
  | push (t : Nat)
  | pushClock (t curTick : Nat)
  | setStateBatchPending (b : Bool)
  | setStateBatchFlush
  | setServerState (p : ProcessState)
  | setInfiniteRetries (b : Bool)
  | stopBridge
  deriving DecidableEq, Repr

/-- A thread runs its own code: outside every `Command`, in the scope of one, or in
`g_stateBatchFlush`. -/
def inCode : List Command → Bool
  | []     => true
  | c :: _ => c.stage == .alive || c.stage == .flushing

/-- The state with the stack of thread `t` as it is now. -/
def State.put (s : State) (t : Nat) (cs : List Command) : State :=
  { s with commands := Function.update s.commands t cs }

/-- The constructor of `c`, the innermost `Command` of thread `t`. -/
def State.construct (s : State) (t : Nat) (c : Command) (cs : List Command) : Option State :=
  match c.stage with
  | .flushTest =>
      if s.gStateBatchPending && c.command != .IDirect3DDevice9Ex_StateBatch &&
          s.gStateBatchFlush then
        some (s.put t ({ c with stage := .lockToFlush } :: cs))
      else some (s.put t ({ c with stage := .lock } :: cs))
  | .lockToFlush => (s.mMutex.acquire t).map fun m =>
      { s.put t ({ c with stage := .flushRetest } :: cs) with mMutex := m }
  | .flushRetest =>
      if s.gStateBatchPending then
        some { s.put t ({ c with stage := .flushing } :: cs) with gStateBatchPending := false }
      else some (s.put t ({ c with stage := .unlockFlushed } :: cs))
  | .flushing => some (s.put t ({ c with stage := .unlockFlushed } :: cs))
  | .unlockFlushed =>
      some { s.put t ({ c with stage := .lock } :: cs) with mMutex := s.mMutex.release }
  | .lock => (s.mMutex.acquire t).map fun m =>
      { s.put t ({ c with stage := .testInProgress } :: cs) with mMutex := m }
  | .testInProgress =>
      if s.pbCmdInProgress then some { s with exited := true }
      else some (s.put t ({ c with stage := .setInProgress } :: cs))
  | .setInProgress =>
      some { s.put t ({ c with stage := .alive } :: cs) with pbCmdInProgress := true }
  | _ => none

/-- The loop condition of the destructor. -/
def State.pushesAgain (o : Config) (s : State) (numRetries : Nat) : Bool :=
  s.queue.pushResult != .Success && decide (numRetries < o.getCommandRetries s.infiniteRetries) &&
    s.gbBridgeRunning && s.serverState == .Running

/-- `gbBridgeRunning` after the destructor has looked at the result. -/
def State.runsAfter (s : State) (result : Result) : Bool :=
  if s.serverState.toNat ≥ ProcessState.toNat .DoneProcessing then false
  else if result != .Success then false
  else s.gbBridgeRunning

/-- The destructor of `c`, the innermost `Command` of thread `t`; `dataPos` is where the data ring
stands. -/
def State.destruct (o : Config) (n : QueueSize) (s : State) (t dataPos : Nat) (c : Command)
    (cs : List Command) : Option State :=
  match c.stage with
  | .alive =>
      if s.gbBridgeRunning then some (s.put t ({ c with stage := .pushNext 0 } :: cs))
      else some (s.put t ({ c with stage := .clearInProgress false } :: cs))
  | .pushNext numRetries =>
      (AtomicCircularQueue.step n m_default s.queue
        (.push ⟨⟨c.command, c.commandFlags, dataPos, c.handle⟩, c.uids⟩)).map fun q =>
      { s.put t ({ c with stage := .pushing numRetries } :: cs) with queue := q }
  | .pushing numRetries =>
      match s.queue.producer with
      | .idle =>
          if s.pushesAgain o numRetries then
            some (s.put t ({ c with stage := .pushNext ((numRetries + 1) % 2 ^ 32) } :: cs))
          else some (s.put t ({ c with stage := .pushed s.queue.pushResult } :: cs))
      | _ => none
  | .pushed result =>
      some { s.put t ({ c with stage := .clearInProgress (result == .Success) } :: cs) with
        gbBridgeRunning := s.runsAfter result }
  | .clearInProgress headerSent =>
      some { s.put t ({ c with stage := .countAndUnlock headerSent } :: cs) with
        pbCmdInProgress := false }
  | .countAndUnlock headerSent =>
      some { s.put t cs with
        sCmdUID := if headerSent then s.sCmdUID + 1 else s.sCmdUID
        mMutex := s.mMutex.release }
  | _ => none

/-- A step of the `push` that the innermost `Command` of thread `t` is in. -/
def State.pushStep (n : QueueSize) (s : State) (t : Nat) (a : AtomicCircularQueue.Act Sent) :
    Option State :=
  match s.commands t with
  | { stage := .pushing _, .. } :: _ =>
      (AtomicCircularQueue.step n m_default s.queue a).map fun q => { s with queue := q }
  | _ => none

/-- A thread in its own code can only take the lock, flush, or start a `Command`. -/
def State.clientStep (o : Config) (n : QueueSize) (s : State) : ClientAct → Option State
  | .lockDevice t =>
      if inCode (s.commands t) then (s.mMutex.acquire t).map fun m =>
        { s with mMutex := m, locks := Function.update s.locks t (s.locks t + 1) }
      else none
  | .unlockDevice t =>
      if inCode (s.commands t) && decide (0 < s.locks t) then some { s with
        mMutex := s.mMutex.release
        locks := Function.update s.locks t (s.locks t - 1) }
      else none
  | .flushWriter t =>
      if inCode (s.commands t) then (s.mMutex.acquire t).bind fun _ =>
        if s.queue.mPublishBatch > 1 then
          (AtomicCircularQueue.step n m_default s.queue .flush).map fun q => { s with queue := q }
        else some s
      else none
  | .command t c commandFlags handle =>
      if inCode (s.commands t) then
        some (s.put t (⟨c, commandFlags, handle, .flushTest, []⟩ :: s.commands t))
      else none
  | .getUID t =>
      match s.commands t with
      | c :: cs =>
          if c.stage = .alive then some (s.put t ({ c with uids := c.uids ++ [s.sCmdUID] } :: cs))
          else none
      | [] => none
  | .advance t dataPos =>
      match s.commands t with
      | c :: cs => (s.construct t c cs).or (s.destruct o n t dataPos c cs)
      | []      => none
  | .push t => s.pushStep n t .producer
  | .pushClock t curTick => s.pushStep n t (.producerClock o.getCommandTimeout curTick)
  | .setStateBatchPending b => some { s with gStateBatchPending := b }
  | .setStateBatchFlush     => some { s with gStateBatchFlush := true }
  | .setServerState p       => some { s with serverState := p }
  | .setInfiniteRetries b   => some { s with infiniteRetries := b }
  | .stopBridge             => some { s with gbBridgeRunning := false }

/-! ### The server -/

/-- The steps of the server: its own, with the flags of its process (`initialised` is what
`InitializeD3D` reports, `done` what the switch leaves in that flag), and those of the `peek` or
`pull` it is in. -/
inductive ServerAct where
  | advance (infiniteRetries gbBridgeRunning initialised done : Bool)
  | consumer
  | consumerClock (infiniteRetries : Bool) (curTick : Nat)
  deriving DecidableEq, Repr

def State.serve (o : Config) (n : QueueSize) (s : State)
    (infiniteRetries gbBridgeRunning initialised done : Bool) : Option State :=
  match s.server with
  | .ready a => some { s with
      server := .looking a
        (.start o.toOptions infiniteRetries a.command (a.overrideTimeoutMS o) false 0) }
  | .looking a w =>
      (AtomicCircularQueue.step n m_default s.queue (.consume .peek .Success)).map fun q =>
      { s with queue := q, server := .peeking a w }
  | .peeking a w =>
      match s.queue.consumer, s.queue.result with
      | .idle, .Success =>
          if w.accepts s.queue.returned.header then some { s with server := .found a }
          else some { s with server := .again a w }
      | .idle, .Timeout =>
          some { s with server := .again a (w.afterTimeout o.toOptions infiniteRetries) }
      | .idle, .Failure => some { s with server := .stopped }
      | _, _            => none
  | .again a w =>
      if w.keepsTrying gbBridgeRunning false then
        some { s with server := .looking a { w with attemptNum := (w.attemptNum + 1) % 2 ^ 32 } }
      else some { s with server := .stopped }
  | .found a =>
      (AtomicCircularQueue.step n m_default s.queue (.consume .pull .Success)).map fun q =>
      { s with queue := q, server := .popping a }
  | .popping a =>
      match s.queue.consumer with
      | .idle => some { s with server := .received a s.queue.returned }
      | _     => none
  | .received .syn _   => some { s with gRxUID := s.gRxUID + 1, server := .initialising }
  | .received .goOn _  => some { s with gRxUID := s.gRxUID + 1, server := .ready .any }
  | .received .any rpc =>
      some { s with gRxUID := s.gRxUID + 1, server := .processing rpc s.gRxUID }
  | .initialising =>
      if initialised then some { s with server := .ready .goOn }
      else some { s with server := .stopped }
  | .processing _ _ =>
      if done then some { s with server := .stopped } else some { s with server := .ready .any }
  | .stopped => none

/-- The timeout of the `peek` or `pull` the server is in. -/
def State.peekTimeout (o : Config) (s : State) (infiniteRetries : Bool) : Nat :=
  match s.server with
  | .peeking _ w => w.peekTimeoutMS
  | _            => o.getDefaultTimeout infiniteRetries

def State.serverStep (o : Config) (n : QueueSize) (s : State) : ServerAct → Option State
  | .advance infiniteRetries gbBridgeRunning initialised done =>
      s.serve o n infiniteRetries gbBridgeRunning initialised done
  | .consumer =>
      (AtomicCircularQueue.step n m_default s.queue .consumer).map fun q => { s with queue := q }
  | .consumerClock infiniteRetries curTick =>
      (AtomicCircularQueue.step n m_default s.queue
        (.consumerClock (s.peekTimeout o infiniteRetries) curTick false)).map fun q =>
      { s with queue := q }

/-- The command the server is at, with what it counts it by. -/
def State.currentUID (s : State) : Option (Sent × Word) :=
  match s.server with
  | .received _ rpc            => some (rpc, s.gRxUID)
  | .processing rpc currentUID => some (rpc, currentUID)
  | _                          => none

/-! ### Runs -/

inductive Act where
  | client (a : ClientAct)
  | server (a : ServerAct)
  deriving DecidableEq, Repr

/-- A step of one of the processes. -/
def step (o : Config) (n : QueueSize) (s : State) : Act → Option State
  | .client a => if s.exited then none else s.clientStep o n a
  | .server a => s.serverStep o n a

/-! ### The channel lock -/

/-- The `Command` has taken the channel lock and not given it back. -/
def Stage.locked : Stage → Bool
  | .flushTest | .lockToFlush | .lock => false
  | _                                 => true

/-- The `Command` has found no other in progress, and has not given the channel back. -/
def Stage.busy : Stage → Bool
  | .flushTest | .lockToFlush | .flushRetest | .flushing | .unlockFlushed | .lock
  | .testInProgress => false
  | _               => true

/-- How often thread `t` holds the channel lock. -/
def holds (locks : Nat → Nat) (commands : Nat → List Command) (t : Nat) : Nat :=
  locks t + (commands t).countP fun c => c.stage.locked

/-- The busy `Command`s of thread `t`, when `cur` is the only one. -/
def only (cur : Option (Nat × Command)) (t : Nat) : List Command :=
  match cur with
  | some (u, c) => if u = t then [c] else []
  | none        => []

/-- What `push` has done: the header is stored, or not yet and `get_uid` returned its number. -/
def Pushing (q : Queue Sent) (uid : Word) : Prop :=
  match q.producer with
  | .stored => uid + 1 = BitVec.ofNat 32 q.pushed.length
  | .idle   =>
      uid + (if q.pushResult = .Success then 1 else 0) = BitVec.ofNat 32 q.pushed.length
  | .top obj _ | .test obj _ | .full obj _ | .waiting obj _ =>
      uid = BitVec.ofNat 32 q.pushed.length ∧ ∀ u ∈ obj.uids, u = uid

/-- `s_cmdUID` is the number of headers stored, less the one that the busy `Command` has stored
and not counted; and `pbCmdInProgress` is that command's. -/
def Sending (q : Queue Sent) (inProgress : Bool) (uid : Word) : Option (Nat × Command) → Prop
  | none        =>
      q.producer = .idle ∧ inProgress = false ∧ uid = BitVec.ofNat 32 q.pushed.length
  | some (_, c) =>
      match c.stage with
      | .setInProgress => q.producer = .idle ∧ inProgress = false ∧
          uid = BitVec.ofNat 32 q.pushed.length ∧ c.uids = []
      | .alive | .pushNext _ => q.producer = .idle ∧ inProgress = true ∧
          uid = BitVec.ofNat 32 q.pushed.length ∧ ∀ u ∈ c.uids, u = uid
      | .pushing _ => inProgress = true ∧ Pushing q uid ∧ ∀ u ∈ c.uids, u = uid
      | .pushed result => q.producer = .idle ∧ inProgress = true ∧
          uid + (if result = .Success then 1 else 0) = BitVec.ofNat 32 q.pushed.length
      | .clearInProgress headerSent => q.producer = .idle ∧ inProgress = true ∧
          uid + (if headerSent then 1 else 0) = BitVec.ofNat 32 q.pushed.length
      | .countAndUnlock headerSent => q.producer = .idle ∧ inProgress = false ∧
          uid + (if headerSent then 1 else 0) = BitVec.ofNat 32 q.pushed.length
      | _ => False

/-- `g_rxUID` is the number of headers pulled, less the one that was popped and not counted. -/
def Serving (q : Queue Sent) (rx : Word) : ServerPC → Prop
  | .peeking _ _ => rx = BitVec.ofNat 32 q.pulled.length ∧
      match q.consumer with
      | .idle => q.result = .Success → q.mWrite ≠ q.mCachedProducer
      | .top .peek _ | .test .peek _ | .slot .peek | .waiting .peek _ => True
      | _ => False
  | .found _ => rx = BitVec.ofNat 32 q.pulled.length ∧ q.consumer = .idle ∧
      q.mWrite ≠ q.mCachedProducer
  | .popping _ =>
      match q.consumer with
      | .idle => rx + 1 = BitVec.ofNat 32 q.pulled.length ∧ q.pulled.getLast? = some q.returned
      | .top .pull _ | .test .pull _ | .slot .pull | .taken =>
          rx = BitVec.ofNat 32 q.pulled.length ∧ q.mWrite ≠ q.mCachedProducer
      | _ => False
  | .received _ rpc => rx + 1 = BitVec.ofNat 32 q.pulled.length ∧ q.consumer = .idle ∧
      q.pulled.getLast? = some rpc
  | .processing rpc currentUID => rx = BitVec.ofNat 32 q.pulled.length ∧ q.consumer = .idle ∧
      currentUID + 1 = BitVec.ofNat 32 q.pulled.length ∧ q.pulled.getLast? = some rpc
  | _ => rx = BitVec.ofNat 32 q.pulled.length ∧ q.consumer = .idle

/-- The invariant of the bridge. -/
structure Inv (n : QueueSize) (s : State) : Prop where
  queue : s.queue.Inv n
  mutex : Held s.mMutex (holds s.locks s.commands)
  nested : ∀ t, ∀ c ∈ (s.commands t).tail, c.stage = .alive ∨ c.stage = .flushing
  fresh : ∀ t, ∀ c ∈ s.commands t, c.stage.busy = false → c.uids = []
  sending : ∃ cur, (∀ t, (s.commands t).filter (fun c => c.stage.busy) = only cur t) ∧
    Sending s.queue s.pbCmdInProgress s.sCmdUID cur
  sent : ∀ i x, s.queue.pushed[i]? = some x → ∀ u ∈ x.uids, u = BitVec.ofNat 32 i
  serving : Serving s.queue s.gRxUID s.server

theorem inv_start (n : QueueSize) (publishBatch : Nat) : Inv n (start publishBatch) where
  queue := (AtomicCircularQueue.inv_start n m_default).produce
    ((AtomicCircularQueue.inv_start n m_default).core.setPublishBatch _)
    (.setPublishBatch _ _) _ _
  mutex := held_free
  nested := by simp [start]
  fresh := by simp [start]
  sending := ⟨none, fun _ => rfl, rfl, rfl, rfl⟩
  sent := by simp [start, AtomicCircularQueue.start, Core.setPublishBatch]
  serving := ⟨rfl, rfl⟩

/-! ### Replacing the innermost command -/

theorem Stage.locked_of_busy {st : Stage} (h : st.busy = true) : st.locked = true := by
  cases st <;> first | rfl | cases h

theorem holds_update (locks : Nat → Nat) (commands : Nat → List Command) (t : Nat)
    (cs : List Command) :
    holds locks (Function.update commands t cs) =
      Function.update (holds locks commands) t (locks t + cs.countP fun c => c.stage.locked) := by
  funext u
  by_cases hu : u = t
  · subst hu
    simp [holds]
  · simp [holds, hu]

theorem holds_pos {locks : Nat → Nat} {commands : Nat → List Command} {t : Nat} {c : Command}
    (hc : c ∈ commands t) (hl : c.stage.locked = true) : 0 < holds locks commands t := by
  have : 0 < (commands t).countP fun d => d.stage.locked := List.countP_pos_iff.mpr ⟨c, hc, hl⟩
  unfold holds
  omega

theorem Serving.frame {q q' : Queue Sent} {rx : Word} {pc : ServerPC} (h : Serving q rx pc)
    (hf : q.SameConsumer q') : Serving q' rx pc := by
  cases pc <;> simpa only [Serving, hf.pulled, hf.consumer, hf.result, hf.returned, hf.mWrite,
    hf.mCachedProducer] using h

theorem Sending.frame {q q' : Queue Sent} {b : Bool} {uid : Word} {cur : Option (Nat × Command)}
    (h : Sending q b uid cur) (hf : q.SameProducer q') : Sending q' b uid cur := by
  rcases cur with - | ⟨t, c⟩
  · simpa only [Sending, hf.pushed, hf.producer, hf.pushResult] using h
  · simpa only [Sending, Pushing, hf.pushed, hf.producer, hf.pushResult] using h

namespace Inv

variable {n : QueueSize} {s : State} {t : Nat} {c : Command} {cs : List Command}

theorem nested_update (h : Inv n s) (hc : s.commands t = c :: cs) (c' : Command) :
    ∀ u, ∀ d ∈ (Function.update s.commands t (c' :: cs) u).tail,
      d.stage = .alive ∨ d.stage = .flushing := by
  intro u d hd
  by_cases hu : u = t
  · subst hu
    have := h.nested u d
    rw [hc] at this
    simp only [Function.update_self] at hd
    exact this hd
  · rw [Function.update_of_ne hu] at hd
    exact h.nested u d hd

theorem fresh_update (h : Inv n s) (hc : s.commands t = c :: cs) {c' : Command}
    (hc' : c'.stage.busy = false → c'.uids = []) :
    ∀ u, ∀ d ∈ Function.update s.commands t (c' :: cs) u, d.stage.busy = false → d.uids = [] := by
  intro u d hd
  by_cases hu : u = t
  · subst hu
    rw [Function.update_self] at hd
    rcases List.mem_cons.mp hd with rfl | hd
    · exact hc'
    · exact h.fresh u d (hc ▸ List.mem_cons_of_mem _ hd)
  · rw [Function.update_of_ne hu] at hd
    exact h.fresh u d hd

/-- A busy innermost command is the only busy one. -/
theorem of_busy (h : Inv n s) (hc : s.commands t = c :: cs) (hb : c.stage.busy = true) :
    (∀ u, (s.commands u).filter (fun d => d.stage.busy) = only (some (t, c)) u) ∧
      Sending s.queue s.pbCmdInProgress s.sCmdUID (some (t, c)) := by
  obtain ⟨cur, hall, hsend⟩ := h.sending
  have ht := hall t
  rw [hc, List.filter_cons_of_pos (by simpa using hb)] at ht
  rcases cur with - | ⟨u, d⟩
  · cases ht
  · simp only [only] at ht
    split at ht
    · rename_i hu
      have hd : c = d := (List.cons.inj ht).1
      subst hu hd
      exact ⟨hall, hsend⟩
    · cases ht

theorem rest_of_busy (hc : s.commands t = c :: cs) (hb : c.stage.busy = true)
    (hall : ∀ u, (s.commands u).filter (fun d => d.stage.busy) = only (some (t, c)) u) :
    cs.filter (fun d => d.stage.busy) = [] := by
  have ht := hall t
  rw [hc, List.filter_cons_of_pos (by simpa using hb), only, if_pos rfl] at ht
  exact (List.cons.inj ht).2

/-- A step of a command that is not busy, before and after. -/
theorem plain (h : Inv n s) (hc : s.commands t = c :: cs) (hb : c.stage.busy = false)
    {st : Stage} (hb' : st.busy = false) {m : Lock Nat} (pending : Bool)
    (hm : Held m (holds s.locks (Function.update s.commands t ({ c with stage := st } :: cs)))) :
    Inv n { s.put t ({ c with stage := st } :: cs) with
      mMutex := m, gStateBatchPending := pending } where
  queue := h.queue
  mutex := hm
  nested := h.nested_update hc _
  fresh := h.fresh_update hc fun _ => h.fresh t c (hc ▸ List.mem_cons_self) hb
  sending := by
    obtain ⟨cur, hall, hsend⟩ := h.sending
    refine ⟨cur, fun u => ?_, hsend⟩
    rw [← hall u]
    by_cases hu : u = t
    · subst hu
      simp [State.put, hc, hb, hb']
    · simp [State.put, hu]
  sent := h.sent
  serving := h.serving

/-- A step of the busy command that leaves it busy. -/
theorem busy (h : Inv n s) (hc : s.commands t = c :: cs) (hb : c.stage.busy = true)
    {c' : Command} (hb' : c'.stage.busy = true) {q : Queue Sent} (inProgress running : Bool)
    (hq : q.Inv n) (hf : s.queue.SameConsumer q) (hpushed : q.pushed = s.queue.pushed)
    (hs : Sending q inProgress s.sCmdUID (some (t, c'))) :
    Inv n { s.put t (c' :: cs) with
      queue := q, pbCmdInProgress := inProgress, gbBridgeRunning := running } where
  queue := hq
  mutex := by
    have hl := Stage.locked_of_busy hb
    have hl' := Stage.locked_of_busy hb'
    have : holds s.locks (Function.update s.commands t (c' :: cs)) =
        holds s.locks s.commands := by
      rw [holds_update, Function.update_eq_self_iff]
      simp [holds, hc, hl, hl']
    rw [show (State.put s t (c' :: cs)).commands = _ from rfl]
    exact this ▸ h.mutex
  nested := h.nested_update hc _
  fresh := h.fresh_update hc fun hno => absurd hb' (by simp [hno])
  sending := by
    obtain ⟨hall, -⟩ := h.of_busy hc hb
    have hrest := rest_of_busy hc hb hall
    refine ⟨some (t, c'), fun u => ?_, hs⟩
    by_cases hu : u = t
    · subst hu
      simp [State.put, only, hb', hrest]
    · have := hall u
      simp only [only, if_neg (Ne.symm hu)] at this
      simp [State.put, only, hu, Ne.symm hu, this]
  sent := by
    intro i x hx
    rw [show State.queue _ = q from rfl, hpushed] at hx
    exact h.sent i x hx
  serving := h.serving.frame hf

theorem mutex_same (h : Inv n s) (hc : s.commands t = c :: cs) {st : Stage}
    (hl : st.locked = c.stage.locked) :
    Held s.mMutex (holds s.locks (Function.update s.commands t ({ c with stage := st } :: cs))) := by
  have : holds s.locks (Function.update s.commands t ({ c with stage := st } :: cs)) =
      holds s.locks s.commands := by
    rw [holds_update, Function.update_eq_self_iff]
    simp [holds, hc, hl, List.countP_cons]
  exact this ▸ h.mutex

theorem mutex_acquire (h : Inv n s) (hc : s.commands t = c :: cs) {st : Stage}
    (hl : c.stage.locked = false) (hl' : st.locked = true) {m : Lock Nat}
    (hm : s.mMutex.acquire t = some m) :
    Held m (holds s.locks (Function.update s.commands t ({ c with stage := st } :: cs))) := by
  have := h.mutex.acquire hm
  rw [holds_update]
  simpa [holds, hc, hl, hl', List.countP_cons, Nat.add_assoc] using this

theorem mutex_release (h : Inv n s) (hc : s.commands t = c :: cs) (hl : c.stage.locked = true)
    {l : List Command} (hl' : (l.countP fun d => d.stage.locked) = cs.countP fun d => d.stage.locked) :
    Held s.mMutex.release (holds s.locks (Function.update s.commands t l)) := by
  have hpos : 0 < holds s.locks s.commands t := holds_pos (hc ▸ List.mem_cons_self) hl
  have := h.mutex.release hpos
  rw [holds_update, hl']
  simpa [holds, hc, hl, List.countP_cons, ← Nat.add_assoc] using this

/-- A command that finds no other in progress is alone: another busy one would be the same
thread's, since it too holds the lock, and a command around this one is in progress. -/
theorem enter (h : Inv n s) (hc : s.commands t = c :: cs) (hst : c.stage = .testInProgress)
    (hno : s.pbCmdInProgress = false) :
    Inv n (s.put t ({ c with stage := .setInProgress } :: cs)) := by
  have hb : c.stage.busy = false := by rw [hst]; rfl
  have hl : c.stage.locked = true := by rw [hst]; rfl
  obtain ⟨cur, hall, hsend⟩ := h.sending
  have hnone : cur = none := by
    rcases cur with - | ⟨u, d⟩
    · rfl
    · exfalso
      have hmem : d ∈ (s.commands u).filter fun e => e.stage.busy := by
        rw [hall u]
        simp [only]
      obtain ⟨hd, hbusy⟩ := List.mem_filter.mp hmem
      have hut := h.mutex.unique (holds_pos hd (Stage.locked_of_busy hbusy))
        (holds_pos (hc ▸ List.mem_cons_self) hl)
      subst hut
      rw [hc] at hd
      rcases List.mem_cons.mp hd with rfl | hd
      · simp [hb] at hbusy
      · have hstage := h.nested u d (by rw [hc]; exact hd)
        rcases hstage with hstage | hstage
        · simp [Sending, hstage, hno] at hsend
        · simp [hstage, Stage.busy] at hbusy
  subst hnone
  obtain ⟨hidle, -, huid⟩ := hsend
  exact
    { queue := h.queue
      mutex := h.mutex_same hc (by rw [hl]; rfl)
      nested := h.nested_update hc _
      fresh := h.fresh_update hc nofun
      sending := by
        refine ⟨some (t, { c with stage := .setInProgress }), fun u => ?_, hidle, hno, huid,
          h.fresh t c (hc ▸ List.mem_cons_self) hb⟩
        have hu := hall u
        by_cases hut : u = t
        · subst hut
          rw [hc, List.filter_cons_of_neg (by simp [hb])] at hu
          simp only [State.put, Function.update_self, only, if_pos]
          rw [List.filter_cons_of_pos rfl, hu]
          rfl
        · simp [State.put, only, hut, Ne.symm hut, hu]
      sent := h.sent
      serving := h.serving }

/-- The busy command counts its header and gives the channel back. -/
theorem leave (h : Inv n s) (hc : s.commands t = c :: cs) {headerSent : Bool}
    (hst : c.stage = .countAndUnlock headerSent) :
    Inv n { s.put t cs with
      sCmdUID := if headerSent then s.sCmdUID + 1 else s.sCmdUID
      mMutex := s.mMutex.release } := by
  have hb : c.stage.busy = true := by rw [hst]; rfl
  obtain ⟨hall, hsend⟩ := h.of_busy hc hb
  have hrest := rest_of_busy hc hb hall
  simp only [Sending, hst] at hsend
  obtain ⟨hidle, hno, huid⟩ := hsend
  exact
    { queue := h.queue
      mutex := h.mutex_release hc (Stage.locked_of_busy hb) rfl
      nested := by
        intro u d hd
        by_cases hu : u = t
        · subst hu
          simp only [State.put, Function.update_self] at hd
          exact h.nested u d (by rw [hc]; exact List.mem_of_mem_tail hd)
        · simp only [State.put, Function.update_of_ne hu] at hd
          exact h.nested u d hd
      fresh := by
        intro u d hd
        by_cases hu : u = t
        · subst hu
          simp only [State.put, Function.update_self] at hd
          exact h.fresh u d (hc ▸ List.mem_cons_of_mem _ hd)
        · simp only [State.put, Function.update_of_ne hu] at hd
          exact h.fresh u d hd
      sending := by
        refine ⟨none, fun u => ?_, hidle, hno, ?_⟩
        · by_cases hu : u = t
          · subst hu
            simp [State.put, only, hrest]
          · have := hall u
            simp only [only, if_neg (Ne.symm hu)] at this
            simp [State.put, only, hu, this]
        · cases headerSent with
          | true => exact huid
          | false => simpa [State.put] using huid
      sent := h.sent
      serving := h.serving }

end Inv

/-! ### The steps of the client -/

namespace Inv

variable {o : Config} {n : QueueSize} {s s' : State} {t : Nat} {c : Command} {cs : List Command}

theorem construct (h : Inv n s) (hc : s.commands t = c :: cs)
    (hs : s.construct t c cs = some s') : Inv n s' := by
  unfold State.construct at hs
  split at hs
  · rename_i hst
    have hb : c.stage.busy = false := by rw [hst]; rfl
    have hl : c.stage.locked = false := by rw [hst]; rfl
    split at hs
    · cases hs
      exact h.plain hc hb rfl s.gStateBatchPending (h.mutex_same hc hl.symm)
    · cases hs
      exact h.plain hc hb rfl s.gStateBatchPending (h.mutex_same hc hl.symm)
  · rename_i hst
    have hb : c.stage.busy = false := by rw [hst]; rfl
    have hl : c.stage.locked = false := by rw [hst]; rfl
    obtain ⟨m, hm, rfl⟩ := Option.map_eq_some_iff.mp hs
    exact h.plain hc hb rfl s.gStateBatchPending (h.mutex_acquire hc hl rfl hm)
  · rename_i hst
    have hb : c.stage.busy = false := by rw [hst]; rfl
    have hl : c.stage.locked = true := by rw [hst]; rfl
    split at hs
    · cases hs
      exact h.plain hc hb rfl false (h.mutex_same hc hl.symm)
    · cases hs
      exact h.plain hc hb rfl s.gStateBatchPending (h.mutex_same hc hl.symm)
  · rename_i hst
    have hb : c.stage.busy = false := by rw [hst]; rfl
    have hl : c.stage.locked = true := by rw [hst]; rfl
    cases hs
    exact h.plain hc hb rfl s.gStateBatchPending (h.mutex_same hc hl.symm)
  · rename_i hst
    have hb : c.stage.busy = false := by rw [hst]; rfl
    have hl : c.stage.locked = true := by rw [hst]; rfl
    cases hs
    exact h.plain hc hb rfl s.gStateBatchPending
      (h.mutex_release hc hl (by simp [Stage.locked]))
  · rename_i hst
    have hb : c.stage.busy = false := by rw [hst]; rfl
    have hl : c.stage.locked = false := by rw [hst]; rfl
    obtain ⟨m, hm, rfl⟩ := Option.map_eq_some_iff.mp hs
    exact h.plain hc hb rfl s.gStateBatchPending (h.mutex_acquire hc hl rfl hm)
  · rename_i hst
    split at hs
    · cases hs
      exact ⟨h.queue, h.mutex, h.nested, h.fresh, h.sending, h.sent, h.serving⟩
    · rename_i hno
      cases hs
      exact h.enter hc hst (by simpa using hno)
  · rename_i hst
    have hb : c.stage.busy = true := by rw [hst]; rfl
    obtain ⟨-, hsend⟩ := h.of_busy hc hb
    simp only [Sending, hst] at hsend
    obtain ⟨hidle, -, huid, huids⟩ := hsend
    cases hs
    exact h.busy hc hb rfl true s.gbBridgeRunning h.queue (.refl _) rfl
      ⟨hidle, rfl, huid, by simp [huids]⟩
  · cases hs

theorem destruct (h : Inv n s) (hc : s.commands t = c :: cs) {dataPos : Nat}
    (hs : s.destruct o n t dataPos c cs = some s') : Inv n s' := by
  unfold State.destruct at hs
  split at hs
  · rename_i hst
    have hb : c.stage.busy = true := by rw [hst]; rfl
    obtain ⟨-, hsend⟩ := h.of_busy hc hb
    simp only [Sending, hst] at hsend
    obtain ⟨hidle, hin, huid, huids⟩ := hsend
    split at hs
    · cases hs
      exact h.busy hc hb rfl s.pbCmdInProgress s.gbBridgeRunning h.queue (.refl _) rfl
        ⟨hidle, hin, huid, huids⟩
    · cases hs
      exact h.busy hc hb rfl s.pbCmdInProgress s.gbBridgeRunning h.queue (.refl _) rfl
        ⟨hidle, hin, by simpa using huid⟩
  · rename_i numRetries hst
    have hb : c.stage.busy = true := by rw [hst]; rfl
    obtain ⟨-, hsend⟩ := h.of_busy hc hb
    simp only [Sending, hst] at hsend
    obtain ⟨hidle, hin, huid, huids⟩ := hsend
    obtain ⟨q, hq, rfl⟩ := Option.map_eq_some_iff.mp hs
    have hframe := sameConsumer_of_step rfl hq
    have hqI := h.queue.step hq
    simp only [AtomicCircularQueue.step, hidle] at hq
    cases hq
    exact h.busy hc hb rfl s.pbCmdInProgress s.gbBridgeRunning hqI hframe rfl
      ⟨hin, ⟨huid, huids⟩, huids⟩
  · rename_i numRetries hst
    have hb : c.stage.busy = true := by rw [hst]; rfl
    obtain ⟨-, hsend⟩ := h.of_busy hc hb
    simp only [Sending, hst] at hsend
    obtain ⟨hin, hpush, huids⟩ := hsend
    split at hs
    · rename_i hidle
      simp only [Pushing, hidle] at hpush
      split at hs
      · rename_i hagain
        cases hs
        have hne : s.queue.pushResult ≠ .Success := by
          simp only [State.pushesAgain, Bool.and_eq_true] at hagain
          simpa using hagain.1.1.1
        rw [if_neg hne] at hpush
        exact h.busy hc hb rfl s.pbCmdInProgress s.gbBridgeRunning h.queue (.refl _) rfl
          ⟨hidle, hin, by simpa using hpush, huids⟩
      · cases hs
        exact h.busy hc hb rfl s.pbCmdInProgress s.gbBridgeRunning h.queue (.refl _) rfl
          ⟨hidle, hin, hpush⟩
    · cases hs
  · rename_i result hst
    have hb : c.stage.busy = true := by rw [hst]; rfl
    obtain ⟨-, hsend⟩ := h.of_busy hc hb
    simp only [Sending, hst] at hsend
    obtain ⟨hidle, hin, huid⟩ := hsend
    cases hs
    exact h.busy hc hb rfl s.pbCmdInProgress (s.runsAfter result) h.queue (.refl _) rfl
      ⟨hidle, hin, by simpa [State.put] using huid⟩
  · rename_i headerSent hst
    have hb : c.stage.busy = true := by rw [hst]; rfl
    obtain ⟨-, hsend⟩ := h.of_busy hc hb
    simp only [Sending, hst] at hsend
    obtain ⟨hidle, -, huid⟩ := hsend
    cases hs
    exact h.busy hc hb rfl false s.gbBridgeRunning h.queue (.refl _) rfl ⟨hidle, rfl, huid⟩
  · rename_i headerSent hst
    cases hs
    exact h.leave hc hst
  · cases hs

/-- What a step inside `push` does to the count of headers stored. -/
theorem pushing_step {q q' : Queue Sent} {uid : Word} (hp : Pushing q uid)
    {a : AtomicCircularQueue.Act Sent}
    (ha : a = .producer ∨ ∃ timeoutMS curTick, a = .producerClock timeoutMS curTick)
    (hs : AtomicCircularQueue.step n m_default q a = some q') :
    Pushing q' uid ∧ (q'.pushed = q.pushed ∨
      ∃ x, q'.pushed = q.pushed ++ [x] ∧ ∀ u ∈ x.uids, u = BitVec.ofNat 32 q.pushed.length) := by
  rcases ha with rfl | ⟨timeoutMS, curTick, rfl⟩
  · simp only [AtomicCircularQueue.step, Queue.producerStep] at hs
    split at hs
    · rename_i hpc
      simp only [Pushing, hpc] at hp
      cases hs
      have hpushed : (q.loadConsumer n).pushed = q.pushed := by
        unfold Core.loadConsumer
        split <;> rfl
      exact ⟨by simpa only [Pushing, hpushed] using hp, .inl hpushed⟩
    · rename_i obj start hpc
      simp only [Pushing, hpc] at hp
      split at hs
      · cases hs
        refine ⟨?_, .inr ⟨obj, rfl, fun u hu => (hp.2 u hu).trans hp.1⟩⟩
        simp [Pushing, Core.store, hp.1, BitVec.ofNat_add]
      · cases hs
        exact ⟨hp, .inl rfl⟩
    · rename_i hpc
      simp only [Pushing, hpc] at hp
      cases hs
      have hpushed : q.publish.pushed = q.pushed := by
        unfold Core.publish
        split <;> rfl
      exact ⟨by simpa [Pushing, hpushed] using hp, .inl hpushed⟩
    · rename_i hpc
      simp only [Pushing, hpc] at hp
      cases hs
      have hpushed : q.toCore.flush.pushed = q.pushed := by
        unfold Core.flush
        split <;> rfl
      exact ⟨by simpa only [Pushing, hpushed] using hp, .inl hpushed⟩
    · cases hs
  · simp only [AtomicCircularQueue.step, Queue.producerClock] at hs
    split at hs
    · rename_i hpc
      simp only [Pushing, hpc] at hp
      split at hs <;> cases hs
      · exact ⟨hp, .inl rfl⟩
      · exact ⟨by simpa [Pushing] using hp.1, .inl rfl⟩
    · cases hs

theorem pushStep (h : Inv n s) {a : AtomicCircularQueue.Act Sent}
    (ha : a = .producer ∨ ∃ timeoutMS curTick, a = .producerClock timeoutMS curTick)
    (hs : s.pushStep n t a = some s') : Inv n s' := by
  unfold State.pushStep at hs
  split at hs
  · rename_i c f hd numRetries uids cs hc
    obtain ⟨hall, hsend⟩ := h.of_busy hc rfl
    obtain ⟨hin, hpush, huids⟩ := hsend
    obtain ⟨q, hq, rfl⟩ := Option.map_eq_some_iff.mp hs
    obtain ⟨hpush', hpushed⟩ := pushing_step hpush ha hq
    have hframe : s.queue.SameConsumer q := by
      rcases ha with rfl | ⟨timeoutMS, curTick, rfl⟩
      · exact sameConsumer_of_step rfl hq
      · exact sameConsumer_of_step rfl hq
    exact
      { queue := h.queue.step hq
        mutex := h.mutex
        nested := h.nested
        fresh := h.fresh
        sending := ⟨_, hall, hin, hpush', huids⟩
        sent := by
          intro i x hx u hu
          rcases hpushed with hpushed | ⟨y, hpushed, hy⟩
          · exact h.sent i x (hpushed ▸ hx) u hu
          · rw [show State.queue _ = q from rfl, hpushed, List.getElem?_append] at hx
            split at hx
            · exact h.sent i x hx u hu
            · rename_i hlt
              obtain ⟨hi, hxy⟩ := List.getElem?_eq_some_iff.mp hx
              have hi' : i = s.queue.pushed.length := by
                simp only [List.length_cons, List.length_nil] at hi
                omega
              subst hi'
              simp only [Nat.sub_self, List.getElem_cons_zero] at hxy
              subst hxy
              exact hy u hu
        serving := h.serving.frame hframe }
  · cases hs

/-- A thread in its own code starts a `Command`. -/
theorem begin_command (h : Inv n s) (hcode : inCode (s.commands t) = true) (hst : c.stage = .flushTest)
    (hu : c.uids = []) : Inv n (s.put t (c :: s.commands t)) where
  queue := h.queue
  mutex := by
    have hl : c.stage.locked = false := by rw [hst]; rfl
    have : holds s.locks (Function.update s.commands t (c :: s.commands t)) =
        holds s.locks s.commands := by
      rw [holds_update, Function.update_eq_self_iff]
      simp [holds, hl]
    exact this.symm ▸ h.mutex
  nested := by
    intro u d hd
    by_cases hu : u = t
    · subst hu
      simp only [State.put, Function.update_self, List.tail_cons] at hd
      cases hcs : s.commands u with
      | nil => simp [hcs] at hd
      | cons e es =>
          rw [hcs] at hd hcode
          rcases List.mem_cons.mp hd with rfl | hd
          · simpa [inCode] using hcode
          · exact h.nested u d (by rw [hcs]; exact hd)
    · simp only [State.put, Function.update_of_ne hu] at hd
      exact h.nested u d hd
  fresh := by
    intro u d hd hbusy
    by_cases hu : u = t
    · subst hu
      simp only [State.put, Function.update_self] at hd
      rcases List.mem_cons.mp hd with rfl | hd
      · assumption
      · exact h.fresh u d hd hbusy
    · simp only [State.put, Function.update_of_ne hu] at hd
      exact h.fresh u d hd hbusy
  sending := by
    obtain ⟨cur, hall, hsend⟩ := h.sending
    refine ⟨cur, fun u => ?_, hsend⟩
    rw [← hall u]
    by_cases hu : u = t
    · subst hu
      simp [State.put, hst, Stage.busy]
    · simp [State.put, hu]
  sent := h.sent
  serving := h.serving

theorem getUID (h : Inv n s) (hc : s.commands t = c :: cs) (hst : c.stage = .alive) :
    Inv n (s.put t ({ c with uids := c.uids ++ [s.sCmdUID] } :: cs)) := by
  have hb : c.stage.busy = true := by rw [hst]; rfl
  obtain ⟨-, hsend⟩ := h.of_busy hc hb
  simp only [Sending, hst] at hsend
  obtain ⟨hidle, hin, huid, huids⟩ := hsend
  refine h.busy hc hb (by rw [hst]; rfl) s.pbCmdInProgress s.gbBridgeRunning h.queue (.refl _) rfl ?_
  simp only [Sending, hst]
  refine ⟨hidle, hin, huid, fun u hu => ?_⟩
  rcases List.mem_append.mp hu with hu | hu
  · exact huids u hu
  · exact List.mem_singleton.mp hu

theorem flushWriter (h : Inv n s) {q : Queue Sent}
    (hq : AtomicCircularQueue.step n m_default s.queue .flush = some q) :
    Inv n { s with queue := q } := by
  have hframe := sameConsumer_of_step rfl hq
  have hqI := h.queue.step hq
  have hsame : s.queue.SameProducer q := by
    simp only [AtomicCircularQueue.step] at hq
    split at hq <;> cases hq
    exact ⟨by unfold Core.flush; split <;> rfl, rfl, rfl⟩
  obtain ⟨cur, hall, hsend⟩ := h.sending
  exact
    { queue := hqI
      mutex := h.mutex
      nested := h.nested
      fresh := h.fresh
      sending := ⟨cur, hall, hsend.frame hsame⟩
      sent := fun i x hx => h.sent i x (hsame.pushed ▸ hx)
      serving := h.serving.frame hframe }

theorem clientStep (h : Inv n s) {a : ClientAct} (hs : s.clientStep o n a = some s') :
    Inv n s' := by
  cases a with
  | lockDevice t =>
      simp only [State.clientStep] at hs
      split at hs
      · obtain ⟨m, hm, rfl⟩ := Option.map_eq_some_iff.mp hs
        refine ⟨h.queue, ?_, h.nested, h.fresh, h.sending, h.sent, h.serving⟩
        have hsum : holds (Function.update s.locks t (s.locks t + 1)) s.commands =
            Function.update (holds s.locks s.commands) t (holds s.locks s.commands t + 1) := by
          funext u
          by_cases hu : u = t
          · subst hu
            simp [holds, Nat.add_right_comm]
          · simp [holds, hu]
        exact hsum.symm ▸ h.mutex.acquire hm
      · cases hs
  | unlockDevice t =>
      simp only [State.clientStep] at hs
      split at hs
      · rename_i hpos
        cases hs
        simp only [Bool.and_eq_true, decide_eq_true_eq] at hpos
        refine ⟨h.queue, ?_, h.nested, h.fresh, h.sending, h.sent, h.serving⟩
        have hsum : holds (Function.update s.locks t (s.locks t - 1)) s.commands =
            Function.update (holds s.locks s.commands) t (holds s.locks s.commands t - 1) := by
          funext u
          by_cases hu : u = t
          · subst hu
            simp only [holds, Function.update_self]
            omega
          · simp [holds, hu]
        have hheld : 0 < holds s.locks s.commands t := Nat.add_pos_left hpos.2 _
        exact hsum.symm ▸ h.mutex.release hheld
      · cases hs
  | flushWriter t =>
      simp only [State.clientStep] at hs
      split at hs
      · obtain ⟨m, -, hs⟩ := Option.bind_eq_some_iff.mp hs
        split at hs
        · obtain ⟨q, hq, rfl⟩ := Option.map_eq_some_iff.mp hs
          exact h.flushWriter hq
        · cases hs
          exact h
      · cases hs
  | command t c commandFlags handle =>
      simp only [State.clientStep] at hs
      split at hs
      · rename_i hcode
        cases hs
        exact h.begin_command hcode rfl rfl
      · cases hs
  | getUID t =>
      simp only [State.clientStep] at hs
      split at hs
      · rename_i c cs hc
        split at hs
        · rename_i hst
          cases hs
          exact h.getUID hc hst
        · cases hs
      · cases hs
  | advance t dataPos =>
      simp only [State.clientStep] at hs
      split at hs
      · rename_i c cs hc
        rcases Option.or_eq_some_iff.mp hs with hs | ⟨-, hs⟩
        · exact h.construct hc hs
        · exact h.destruct hc hs
      · cases hs
  | push t => exact h.pushStep (.inl rfl) hs
  | pushClock t curTick => exact h.pushStep (.inr ⟨_, _, rfl⟩) hs
  | setStateBatchPending b =>
      cases hs
      exact ⟨h.queue, h.mutex, h.nested, h.fresh, h.sending, h.sent, h.serving⟩
  | setStateBatchFlush =>
      cases hs
      exact ⟨h.queue, h.mutex, h.nested, h.fresh, h.sending, h.sent, h.serving⟩
  | setServerState p =>
      cases hs
      exact ⟨h.queue, h.mutex, h.nested, h.fresh, h.sending, h.sent, h.serving⟩
  | setInfiniteRetries b =>
      cases hs
      exact ⟨h.queue, h.mutex, h.nested, h.fresh, h.sending, h.sent, h.serving⟩
  | stopBridge =>
      cases hs
      exact ⟨h.queue, h.mutex, h.nested, h.fresh, h.sending, h.sent, h.serving⟩

end Inv

/-! ### The steps of the server -/

namespace Inv

variable {o : Config} {n : QueueSize} {s s' : State}

/-- The server's steps leave the client what it was. -/
theorem server (h : Inv n s) {q : Queue Sent} (hq : q.Inv n) (hf : s.queue.SameProducer q)
    {pc : ServerPC} {rx : Word} (hs : Serving q rx pc) :
    Inv n { s with queue := q, server := pc, gRxUID := rx } where
  queue := hq
  mutex := h.mutex
  nested := h.nested
  fresh := h.fresh
  sending := by
    obtain ⟨cur, hall, hsend⟩ := h.sending
    exact ⟨cur, hall, hsend.frame hf⟩
  sent := fun i x hx => h.sent i x (hf.pushed ▸ hx)
  serving := hs

theorem serve (h : Inv n s) {infiniteRetries gbBridgeRunning initialised done : Bool}
    (hs : s.serve o n infiniteRetries gbBridgeRunning initialised done = some s') : Inv n s' := by
  have hserving := h.serving
  have hsame : s.queue.SameProducer s.queue := ⟨rfl, rfl, rfl⟩
  unfold State.serve at hs
  split at hs
  · rename_i a hpc
    rw [hpc] at hserving
    cases hs
    exact h.server h.queue hsame hserving
  · rename_i a w hpc
    rw [hpc] at hserving
    obtain ⟨hrx, hidle⟩ := hserving
    obtain ⟨q, hq, rfl⟩ := Option.map_eq_some_iff.mp hs
    have hf := sameProducer_of_step rfl hq
    have hqI := h.queue.step hq
    simp only [AtomicCircularQueue.step, hidle] at hq
    cases hq
    exact h.server hqI hf ⟨hrx, trivial⟩
  · rename_i a w hpc
    rw [hpc] at hserving
    split at hs
    · rename_i hidle hres
      simp only [Serving, hidle] at hserving
      split at hs
      · cases hs
        exact h.server h.queue hsame ⟨hserving.1, hidle, hserving.2 hres⟩
      · cases hs
        exact h.server h.queue hsame ⟨hserving.1, hidle⟩
    · rename_i hidle hres
      simp only [Serving, hidle] at hserving
      cases hs
      exact h.server h.queue hsame ⟨hserving.1, hidle⟩
    · rename_i hidle hres
      simp only [Serving, hidle] at hserving
      cases hs
      exact h.server h.queue hsame ⟨hserving.1, hidle⟩
    · cases hs
  · rename_i a w hpc
    rw [hpc] at hserving
    split at hs <;> cases hs
    · exact h.server h.queue hsame hserving
    · exact h.server h.queue hsame hserving
  · rename_i a hpc
    rw [hpc] at hserving
    obtain ⟨hrx, hidle, hne⟩ := hserving
    obtain ⟨q, hq, rfl⟩ := Option.map_eq_some_iff.mp hs
    have hf := sameProducer_of_step rfl hq
    have hqI := h.queue.step hq
    simp only [AtomicCircularQueue.step, hidle] at hq
    cases hq
    exact h.server hqI hf ⟨hrx, hne⟩
  · rename_i a hpc
    rw [hpc] at hserving
    split at hs
    · rename_i hidle
      simp only [Serving, hidle] at hserving
      cases hs
      exact h.server h.queue hsame ⟨hserving.1, hidle, hserving.2⟩
    · cases hs
  · rename_i rpc hpc
    rw [hpc] at hserving
    cases hs
    exact h.server h.queue hsame ⟨hserving.1, hserving.2.1⟩
  · rename_i rpc hpc
    rw [hpc] at hserving
    cases hs
    exact h.server h.queue hsame ⟨hserving.1, hserving.2.1⟩
  · rename_i rpc hpc
    rw [hpc] at hserving
    obtain ⟨hrx, hidle, hlast⟩ := hserving
    cases hs
    exact h.server h.queue hsame ⟨hrx, hidle, hrx, hlast⟩
  · rename_i hpc
    rw [hpc] at hserving
    split at hs <;> cases hs
    · exact h.server h.queue hsame hserving
    · exact h.server h.queue hsame hserving
  · rename_i rpc currentUID hpc
    rw [hpc] at hserving
    split at hs <;> cases hs
    · exact h.server h.queue hsame ⟨hserving.1, hserving.2.1⟩
    · exact h.server h.queue hsame ⟨hserving.1, hserving.2.1⟩
  · cases hs

/-- Inside a call of the queue the server is at a `peek` or a `pull`. -/
theorem serving_call {q : Queue Sent} {rx : Word} {pc : ServerPC} (h : Serving q rx pc)
    (hbusy : q.consumer ≠ .idle) : (∃ a w, pc = .peeking a w) ∨ ∃ a, pc = .popping a := by
  cases pc with
  | peeking a w => exact .inl ⟨a, w, rfl⟩
  | popping a => exact .inr ⟨a, rfl⟩
  | found a => exact absurd h.2.1 hbusy
  | received a rpc => exact absurd h.2.1 hbusy
  | processing rpc currentUID => exact absurd h.2.1 hbusy
  | ready a => exact absurd h.2 hbusy
  | looking a w => exact absurd h.2 hbusy
  | again a w => exact absurd h.2 hbusy
  | initialising => exact absurd h.2 hbusy
  | stopped => exact absurd h.2 hbusy

theorem serving_peek {q q' : Queue Sent} {rx : Word} {a : Awaited} {w : Wait} (hI : q.Inv n)
    (h : Serving q rx (.peeking a w)) (hs : q.consumerStep n = some q') :
    Serving q' rx (.peeking a w) := by
  obtain ⟨hrx, hpc⟩ := h
  unfold Queue.consumerStep at hs
  split at hs
  · rename_i op start hat
    cases hs
    have hpulled : q.loadProducer.pulled = q.pulled := by
      unfold Core.loadProducer
      split <;> rfl
    refine ⟨by simpa only [hpulled] using hrx, ?_⟩
    cases op with
    | peek => trivial
    | pull => simp [hat] at hpc
  · rename_i op start hat
    split at hs <;> cases hs
    · cases op with
      | peek => exact ⟨hrx, trivial⟩
      | pull => simp [hat] at hpc
    · cases op with
      | peek => exact ⟨hrx, trivial⟩
      | pull => simp [hat] at hpc
  · rename_i hat
    cases hs
    exact ⟨hrx, fun _ => hI.front (hat ▸ trivial)⟩
  · rename_i hat
    simp [hat] at hpc
  · rename_i hat
    simp [hat] at hpc
  · cases hs

/-- After a successful `peek` nothing stands between `pop_front` and the front element. -/
theorem serving_pop {q q' : Queue Sent} {rx : Word} {a : Awaited}
    (h : Serving q rx (.popping a)) (hs : q.consumerStep n = some q') :
    Serving q' rx (.popping a) := by
  simp only [Serving] at h ⊢
  unfold Queue.consumerStep at hs
  split at hs
  · rename_i op start hat
    cases op with
    | peek => simp [hat] at h
    | pull =>
        simp only [hat] at h
        cases hs
        have hsame : q.loadProducer = q.toCore := if_neg h.2
        simpa [hsame] using h
  · rename_i op start hat
    cases op with
    | peek => simp [hat] at h
    | pull =>
        simp only [hat] at h
        rw [if_pos h.2] at hs
        cases hs
        exact h
  · rename_i hat
    simp [hat] at h
  · rename_i hat
    simp only [hat] at h
    cases hs
    exact h
  · rename_i hat
    simp only [hat] at h
    cases hs
    refine ⟨?_, by simp [Core.take]⟩
    simp [Core.take, h.1, BitVec.ofNat_add]
  · cases hs

theorem serving_clock {q q' : Queue Sent} {rx : Word} {pc : ServerPC} (h : Serving q rx pc)
    {timeoutMS curTick : Nat} (hs : q.consumerClock m_default timeoutMS curTick false = some q') :
    Serving q' rx pc := by
  unfold Queue.consumerClock at hs
  split at hs
  · rename_i op start hat
    obtain ⟨a, w, rfl⟩ | ⟨a, rfl⟩ := serving_call h (by simp [hat])
    · obtain ⟨hrx, hpc⟩ := h
      cases op with
      | pull => simp [hat] at hpc
      | peek =>
          simp only [Bool.false_eq_true, if_false] at hs
          split at hs <;> cases hs
          · exact ⟨hrx, trivial⟩
          · exact ⟨hrx, nofun⟩
    · simp [Serving, hat] at h
  · cases hs

theorem serverStep (h : Inv n s) {a : ServerAct} (hs : s.serverStep o n a = some s') :
    Inv n s' := by
  cases a with
  | advance infiniteRetries gbBridgeRunning initialised done => exact h.serve hs
  | consumer =>
      obtain ⟨q, hq, rfl⟩ := Option.map_eq_some_iff.mp hs
      have hf := sameProducer_of_step rfl hq
      have hqI := h.queue.step hq
      have hcall : s.queue.consumer ≠ .idle := by
        intro hidle
        simp [AtomicCircularQueue.step, Queue.consumerStep, hidle] at hq
      refine h.server hqI hf ?_
      have hserving := h.serving
      obtain ⟨a, w, hpc⟩ | ⟨a, hpc⟩ := serving_call hserving hcall
      · rw [hpc] at hserving ⊢
        exact serving_peek h.queue hserving hq
      · rw [hpc] at hserving ⊢
        exact serving_pop hserving hq
  | consumerClock infiniteRetries curTick =>
      obtain ⟨q, hq, rfl⟩ := Option.map_eq_some_iff.mp hs
      have hf := sameProducer_of_step rfl hq
      exact h.server (h.queue.step hq) hf (serving_clock h.serving hq)

/-- **The step lemma.** -/
theorem step (h : Inv n s) {a : Act} (hs : step o n s a = some s') : Inv n s' := by
  cases a with
  | client a =>
      simp only [CommandUID.step] at hs
      split at hs
      · cases hs
      · exact h.clientStep hs
  | server a => exact h.serverStep hs

end Inv

theorem inv_run {o : Config} {n : QueueSize} {publishBatch : Nat} {acts : List Act} {s : State}
    (h : run (step o n) (start publishBatch) acts = some s) : Inv n s :=
  run_inv (fun _ _ _ hI hs => hI.step hs) (inv_start n publishBatch) h

/-- **UID agreement.**  In every run, when the server is at a command, that command is the last
one pulled, the element of that position among those pushed, and the server's count is what
`get_uid` returned for it: the position, in `uint32_t`. -/
theorem uid_agreement (o : Config) (n : QueueSize) (publishBatch : Nat) (acts : List Act)
    (s : State) (h : run (step o n) (start publishBatch) acts = some s) (rpc : Sent)
    (currentUID : Word) (hcur : s.currentUID = some (rpc, currentUID)) :
    (∀ uid ∈ rpc.uids, uid = currentUID) ∧
    ∃ i, s.queue.pulled.length = i + 1 ∧ s.queue.pulled[i]? = some rpc ∧
      s.queue.pushed[i]? = some rpc ∧ currentUID = BitVec.ofNat 32 i := by
  have hI := inv_run h
  have hserving := hI.serving
  have hlast : currentUID + 1 = BitVec.ofNat 32 s.queue.pulled.length ∧
      s.queue.pulled.getLast? = some rpc := by
    unfold State.currentUID at hcur
    split at hcur
    · rename_i a x hpc
      rw [hpc] at hserving
      cases hcur
      exact ⟨hserving.1, hserving.2.2⟩
    · rename_i x uid hpc
      rw [hpc] at hserving
      cases hcur
      exact hserving.2.2
    · cases hcur
  obtain ⟨huid, hlast⟩ := hlast
  obtain ⟨front, hfront⟩ := List.getLast?_eq_some_iff.mp hlast
  have hlen : s.queue.pulled.length = front.length + 1 := by simp [hfront]
  have hpulled : s.queue.pulled[front.length]? = some rpc := by simp [hfront]
  have hpushed : s.queue.pushed[front.length]? = some rpc := by
    rw [← hpulled]
    exact (List.prefix_iff_getElem?.mp hI.queue.core.inOrder _ (by omega)).trans
      (List.getElem?_eq_getElem (by omega)).symm
  have hcount : currentUID = BitVec.ofNat 32 front.length := by
    rw [hlen, BitVec.ofNat_add] at huid
    exact (BitVec.add_left_inj _).mp huid
  refine ⟨fun uid hu => ?_, front.length, hlen, hpulled, hpushed, hcount⟩
  rw [hcount]
  exact hI.sent _ _ hpushed uid hu

/-- Thread `0` runs a `Command` that finds no batch to flush, and asks for its UID. -/
def sends (c : D3D9Command) : List Act :=
  ([.command 0 c 0 0, .advance 0 0, .advance 0 0, .advance 0 0, .advance 0 0, .getUID 0,
    .advance 0 0, .advance 0 0, .push 0, .push 0, .push 0, .advance 0 0, .advance 0 0,
    .advance 0 0, .advance 0 0] : List ClientAct).map Act.client

/-- The server waits for a command that is there, and pops it. -/
def receives : List Act :=
  ([.advance false true true false, .advance false true true false, .consumer, .consumer,
    .consumer, .advance false true true false, .advance false true true false, .consumer,
    .consumer, .consumer, .consumer, .advance false true true false] :
      List ServerAct).map Act.server

/-- The server counts the command it popped, and is done with it. -/
def handles : List Act :=
  ([.advance false true true false, .advance false true true false] :
    List ServerAct).map Act.server

/-- A handshake, and a `Clear` whose constructor flushes a batch. -/
def flushes : List Act :=
  sends .Bridge_Syn ++ receives ++ handles ++
  sends .Bridge_Continue ++ receives ++ [Act.server (.advance false true true false)] ++
  ([.client .setStateBatchFlush, .client (.setStateBatchPending true),
    .client (.command 0 .IDirect3DDevice9Ex_Clear 0 0), .client (.advance 0 0),
    .client (.advance 0 0), .client (.advance 0 0)] : List Act) ++
  sends .IDirect3DDevice9Ex_StateBatch ++ [Act.client (.advance 0 0), Act.client (.advance 0 0)] ++
  (sends .IDirect3DDevice9Ex_Clear).drop 2 ++ receives ++ handles ++ receives

/-- The server counts that `Clear` as the fourth command, as `get_uid` did. -/
theorem uid_agreement_flushed :
    ∃ s rpc, run (step ⟨⟨100, 100, 0, false⟩, 1000⟩ ⟨3, by decide, by decide⟩) (start 1) flushes =
        some s ∧ s.currentUID = some (rpc, 3) ∧ rpc.header.command = .IDirect3DDevice9Ex_Clear ∧
      rpc.uids = [3] ∧ ∀ uid ∈ rpc.uids, uid = 3 := by
  have h : run (step ⟨⟨100, 100, 0, false⟩, 1000⟩ ⟨3, by decide, by decide⟩) (start 1) flushes =
      some _ := rfl
  exact ⟨_, ⟨⟨.IDirect3DDevice9Ex_Clear, 0, 0, 0⟩, [3]⟩, h, rfl, rfl, rfl,
    (uid_agreement _ _ _ _ _ h _ _ rfl).1⟩

end RemixBridge.CommandUID
