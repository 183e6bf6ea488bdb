import RemixBridge.Support.Runs
import RemixBridge.Channel.CommandUID

/-!
# Channel — Session

A session from its first message to its last: `InitServer` and `RemixDetach` (`d3d9_lss.cpp`) in the
client, `main` and the loop of `ProcessDeviceCommandQueue` (`server/main.cpp`) in the server, and
the callbacks by which each process learns that the other has ended.  The two command queues are
first in, first out (`AtomicCircularQueue`).  A wait either finds at the front what it waits for or
gives up (`WaitForCommand`): it may do so whatever lies there by then.

* `Inv`: how far each process is, by what it has sent and taken.
* `session`: the server processes what the client has sent behind `Bridge_Continue`, in its order,
  and the client goes on only with a server that is ready; who hears of an orderly end is right.
-/

namespace RemixBridge.Session
open Runs
open CommandUID (ProcessState)

/-- Where the client is.  `connected` says that `InitServer` got its `Bridge_Ack`, `notified` that
`RemixDetach` did. -/
inductive ClientPC where
  | idle
  | syn
  | waitSyn
  | goOn
  | running
  | refused
  | detaching (connected : Bool)
  | waitDone (connected : Bool)
  | done (connected notified : Bool)
  | aborted
  deriving DecidableEq, Repr

/-- Where the server is.  `terminated` says that its loop ended with `Bridge_Terminate`; `failed`
has returned 1 and `finished` 0. -/
inductive ServerPC where
  | none
  | waitSyn
  | initialising
  | answering
  | waitContinue
  | processing
  | finishing (terminated : Bool)
  | failed
  | finished (terminated : Bool)
  | killed
  deriving DecidableEq, Repr

/-- `OnServerExited`, which runs once. -/
inductive Callback where
  | armed
  | running
  | over
  deriving DecidableEq, Repr

/-- The two queues, and history: the commands that the client has sent, those that the server has
taken before its loop and in it, and how many `Bridge_Ack`s the client has taken. -/
structure Wire where
  commands : List D3D9Command
  responses : List D3D9Command
  sent : List D3D9Command
  taken : List D3D9Command
  processed : List D3D9Command
  acks : Nat

/-- `gbBridgeRunning` of either process, and the states the client keeps of both. -/
structure State where
  client : ClientPC
  gbBridgeRunning : Bool
  clientState : ProcessState
  serverState : ProcessState
  callback : Callback
  server : ServerPC
  serverBridgeRunning : Bool
  gpD3D : Bool
  wire : Wire

def start : State where
  client := .idle
  gbBridgeRunning := true
  clientState := .NotInit
  serverState := .NotInit
  callback := .armed
  server := .none
  serverBridgeRunning := true
  gpD3D := false
  wire := ⟨[], [], [], [], [], 0⟩

/-- The steps.  `message` is the next `ClientMessage` of `InitServer` or `RemixDetach`, `call` one
of any other function, `ack` and `giveUp` end a wait, `response` is the wait of a function;
`pushed` says whether the queue took the header. -/
inductive Act where
  | initServer (created : Bool)
  | message (pushed : Bool)
  | ack
  | giveUp
  | call (c : D3D9Command) (pushed : Bool)
  | response
  | detach
  | crash
  | serverExited
  | serverExitedEnd
  | serverSyn
  | initializeD3D (loaded : Bool)
  | serverAck (pushed : Bool)
  | serverContinue
  | process (answer : Option Bool)
  | serverGiveUp
  | serverDone (pushed : Bool)
  | clientExited
  | kill
  deriving DecidableEq, Repr

/-! ### The messages -/

/-- What is not a message of the session itself. -/
def isCall (c : D3D9Command) : Bool :=
  c != .Bridge_Syn && c != .Bridge_Ack && c != .Bridge_Continue && c != .Bridge_Terminate

/-- A `ClientMessage`: it is nothing where the bridge is off, and turns it off when the queue did
not take the header or the server is known to be gone. -/
def State.send (s : State) (c : D3D9Command) (pushed : Bool) : State :=
  if s.gbBridgeRunning then
    { s with
      gbBridgeRunning := pushed && decide (s.serverState.toNat < ProcessState.DoneProcessing.toNat)
      wire :=
        if pushed then
          { s.wire with commands := s.wire.commands ++ [c], sent := s.wire.sent ++ [c] }
        else s.wire }
  else s

/-- A `ServerMessage`. -/
def State.answer (s : State) (c : D3D9Command) (pushed : Bool) : State :=
  if s.serverBridgeRunning then
    { s with
      serverBridgeRunning := pushed
      wire :=
        if pushed then { s.wire with responses := s.wire.responses ++ [c] } else s.wire }
  else s

/-! ### The steps -/

/-- `InitServer` has returned. -/
def ClientPC.attached : ClientPC → Bool
  | .running | .refused | .detaching _ | .waitDone _ | .done _ _ => true
  | _ => false

/-- The client's process has ended, or is about to. -/
def ClientPC.gone : ClientPC → Bool
  | .done _ _ | .aborted => true
  | _ => false

/-- The exit callback is registered. -/
def ClientPC.watches : ClientPC → Bool
  | .syn | .waitSyn | .goOn | .running | .refused | .detaching _ => true
  | _ => false

/-- The server's process has ended. -/
def ServerPC.gone : ServerPC → Bool
  | .failed | .finished _ | .killed => true
  | _ => false

/-- The server's process is there and watches the client's. -/
def ServerPC.watches : ServerPC → Bool
  | .initialising | .answering | .waitContinue | .processing | .finishing _ => true
  | _ => false

/-- The next message of `InitServer` or `RemixDetach`. -/
def State.message (s : State) (pushed : Bool) : Option State :=
  match s.client with
  | .syn =>
      some { s.send .Bridge_Syn pushed with client := .waitSyn, clientState := .Handshaking }
  | .goOn =>
      some { s.send .Bridge_Continue pushed with
        client := .running, clientState := .Running, serverState := .Running }
  | .detaching connected =>
      -- `UnregisterExitCallback` waits for the callback to end
      if s.callback = .running then none
      else some { s.send .Bridge_Terminate pushed with client := .waitDone connected }
  | _ => none

/-- The wait for `Bridge_Ack` finds it and takes it off. -/
def State.ack (s : State) : Option State :=
  match s.wire.responses with
  | .Bridge_Ack :: rest =>
      let wire : Wire := { s.wire with responses := rest, acks := s.wire.acks + 1 }
      match s.client with
      | .waitSyn => some { s with client := .goOn, serverState := .Handshaking, wire := wire }
      | .waitDone connected => some { s with client := .done connected true, wire := wire }
      | _ => none
  | _ => none

/-- It returns `Timeout` or `Failure`. -/
def State.giveUp (s : State) : Option State :=
  match s.client with
  | .waitSyn =>
      some { s with client := .refused, serverState := .DoneProcessing, gbBridgeRunning := false }
  | .waitDone connected => some { s with client := .done connected false }
  | _ => none

def State.detach (s : State) : Option State :=
  match s.client with
  | .running => some { s with client := .detaching true, clientState := .DoneProcessing }
  | .refused => some { s with client := .detaching false, clientState := .DoneProcessing }
  | _ => none

/-- The rest of `OnServerExited`. -/
def State.serverExitedEnd (s : State) : State :=
  { s with
    gbBridgeRunning := false
    callback := .over
    client := if s.clientState ≠ .DoneProcessing then .aborted else s.client }

/-- The server's loop takes a command and processes it; `answer` says whether it answers. -/
def State.process (s : State) (answer : Option Bool) : Option State :=
  match s.server, s.wire.commands with
  | .processing, c :: rest =>
      let s : State := { s with
        server := if c = .Bridge_Terminate then .finishing true else .processing
        wire := { s.wire with commands := rest, processed := s.wire.processed ++ [c] } }
      match answer with
      | none        => some s
      | some pushed => some (s.answer .Bridge_Response pushed)
  | _, _ => none

def State.serverGiveUp (s : State) : Option State :=
  match s.server with
  | .waitSyn | .waitContinue => some { s with server := .failed }
  | .processing => some { s with server := .finishing false }
  | _ => none

def step (s : State) : Act → Option State
  | .initServer created =>
      match s.client, s.server with
      | .idle, .none =>
          some { s with
            client := .syn, serverState := .Init, server := if created then .waitSyn else .none }
      | _, _ => none
  | .message pushed => s.message pushed
  | .ack => s.ack
  | .giveUp => s.giveUp
  | .call c pushed => if s.client.attached && isCall c then some (s.send c pushed) else none
  | .response =>
      match s.wire.responses with
      | .Bridge_Response :: rest =>
          if s.client.attached then some { s with wire := { s.wire with responses := rest } }
          else none
      | _ => none
  | .detach => s.detach
  | .crash => some { s with client := .aborted }
  | .serverExited =>
      if s.server.gone && s.client.watches && s.callback = .armed then
        some { s with serverState := .Exited, callback := .running }
      else none
  | .serverExitedEnd => if s.callback = .running then some s.serverExitedEnd else none
  | .serverSyn =>
      match s.server, s.wire.commands with
      | .waitSyn, .Bridge_Syn :: rest =>
          some { s with
            server := .initialising
            wire := { s.wire with commands := rest, taken := s.wire.taken ++ [.Bridge_Syn] } }
      | _, _ => none
  | .initializeD3D loaded =>
      match s.server with
      | .initialising =>
          if loaded then some { s with server := .answering, gpD3D := true }
          else some { s with server := .failed }
      | _ => none
  | .serverAck pushed =>
      match s.server with
      | .answering => some { s.answer .Bridge_Ack pushed with server := .waitContinue }
      | _ => none
  | .serverContinue =>
      match s.server, s.wire.commands with
      | .waitContinue, .Bridge_Continue :: rest =>
          some { s with
            server := .processing
            wire := { s.wire with commands := rest, taken := s.wire.taken ++ [.Bridge_Continue] } }
      | _, _ => none
  | .process answer => s.process answer
  | .serverGiveUp => s.serverGiveUp
  | .serverDone pushed =>
      match s.server with
      | .finishing terminated =>
          some { s.answer .Bridge_Ack pushed with server := .finished terminated }
      | _ => none
  | .clientExited =>
      if s.client.gone && s.server.watches then some { s with serverBridgeRunning := false }
      else none
  | .kill =>
      if !s.server.gone && s.server != .none then some { s with server := .killed }
      else none

/-! ### How far each process is -/

def Calls (cs : List D3D9Command) : Prop := ∀ c ∈ cs, isCall c = true

/-- Nothing but the first message. -/
def Short (cs : List D3D9Command) : Prop := cs = [] ∨ cs = [.Bridge_Syn]

/-- The handshake, and calls. -/
def Opened (sent : List D3D9Command) : Prop :=
  ∃ cs, Calls cs ∧ sent = .Bridge_Syn :: .Bridge_Continue :: cs

/-- The handshake, calls, the last message, and the calls of threads that still run. -/
def Closed (sent : List D3D9Command) : Prop :=
  ∃ cs cs', Calls cs ∧ Calls cs' ∧
    sent = .Bridge_Syn :: .Bridge_Continue :: (cs ++ .Bridge_Terminate :: cs')

/-- What a client has sent, by where it is. -/
def ClientPC.Sent (gbBridgeRunning : Bool) (sent : List D3D9Command) : ClientPC → Prop
  | .idle | .syn => sent = []
  | .waitSyn => sent = [.Bridge_Syn] ∨ (sent = [] ∧ gbBridgeRunning = false)
  | .goOn => sent = [.Bridge_Syn]
  | .refused => Short sent ∧ gbBridgeRunning = false
  | .running | .detaching _ => Opened sent ∨ (Short sent ∧ gbBridgeRunning = false)
  | .waitDone _ | .done _ _ =>
      Opened sent ∨ Closed sent ∨ (Short sent ∧ gbBridgeRunning = false)
  | .aborted => Opened sent ∨ Closed sent ∨ Short sent

/-- The `Bridge_Ack`s that a client has taken, by where it is. -/
def ClientPC.Acked (acks : Nat) : ClientPC → Prop
  | .idle | .syn | .waitSyn | .refused => acks = 0
  | .goOn | .running => acks = 1
  | .detaching connected | .waitDone connected => acks = connected.toNat
  | .done connected notified => acks = connected.toNat + notified.toNat
  | .aborted => True

/-- What a server has taken and processed, by where it is. -/
def ServerPC.Served (taken processed : List D3D9Command) : ServerPC → Prop
  | .none | .waitSyn => taken = [] ∧ processed = []
  | .initialising | .answering | .waitContinue => taken = [.Bridge_Syn] ∧ processed = []
  | .processing | .finishing false | .finished false =>
      taken = [.Bridge_Syn, .Bridge_Continue] ∧ Calls processed
  | .finishing true | .finished true =>
      taken = [.Bridge_Syn, .Bridge_Continue] ∧
        ∃ cs, Calls cs ∧ processed = cs ++ [.Bridge_Terminate]
  | .failed => Short taken ∧ processed = []
  | .killed =>
      (Short taken ∧ processed = []) ∨
        taken = [.Bridge_Syn, .Bridge_Continue] ∧
          (Calls processed ∨ ∃ cs, Calls cs ∧ processed = cs ++ [.Bridge_Terminate])

/-- How many `Bridge_Ack`s a server can have sent, by where it is. -/
def ServerPC.answers : ServerPC → Nat
  | .none | .waitSyn | .initialising | .answering => 0
  | .waitContinue | .processing | .finishing _ | .failed | .killed => 1
  | .finished _ => 2

/-- The `Bridge_Ack`s that the server has sent. -/
def Wire.answered (w : Wire) : Nat := w.responses.count .Bridge_Ack + w.acks

structure ClientInv (s : State) : Prop where
  sent : s.client.Sent s.gbBridgeRunning s.wire.sent
  acked : s.client.Acked s.wire.acks

structure ServerInv (s : State) : Prop where
  served : s.server.Served s.wire.taken s.wire.processed
  answers : s.wire.answered ≤ s.server.answers
  ready : s.server = .answering ∨ 0 < s.wire.answered →
    s.gpD3D = true ∧ .Bridge_Syn ∈ s.wire.taken

/-- The queue holds what was sent and not taken, and `Bridge_Continue` is only sent behind a
`Bridge_Ack`. -/
structure WireInv (w : Wire) : Prop where
  order : w.sent = w.taken ++ w.processed ++ w.commands
  behind : .Bridge_Continue ∈ w.sent → 0 < w.acks

structure Inv (s : State) : Prop where
  client : ClientInv s
  server : ServerInv s
  wire : WireInv s.wire

theorem inv_start : Inv start where
  client := ⟨rfl, rfl⟩
  server := ⟨⟨rfl, rfl⟩, Nat.le_refl 0, by simp [start, Wire.answered]⟩
  wire := ⟨rfl, nofun⟩

variable {s s' : State}

/-- Where nothing but the client's own state changes. -/
theorem Inv.of_client (h : Inv s) (hserver : s'.server = s.server) (hd3d : s'.gpD3D = s.gpD3D)
    (hwire : s'.wire = s.wire) (hclient : ClientInv s') : Inv s' where
  client := hclient
  server := by
    obtain ⟨hserved, hanswers, hready⟩ := h.server
    constructor <;> rw [hserver, hwire]
    · exact hserved
    · exact hanswers
    · rw [hd3d]
      exact hready
  wire := by rw [hwire]; exact h.wire

/-- Where nothing but the server's own state changes. -/
theorem Inv.of_server (h : Inv s) (hclient : s'.client = s.client)
    (hbridge : s'.gbBridgeRunning = s.gbBridgeRunning) (hwire : s'.wire = s.wire)
    (hserver : ServerInv s') : Inv s' where
  client := by
    obtain ⟨hsent, hacked⟩ := h.client
    constructor <;> rw [hclient, hwire]
    · rw [hbridge]
      exact hsent
    · exact hacked
  server := hserver
  wire := by rw [hwire]; exact h.wire

/-! ### A message of the client -/

/-- The queue with one more command. -/
def Wire.push (w : Wire) (c : D3D9Command) : Wire :=
  { w with commands := w.commands ++ [c], sent := w.sent ++ [c] }

@[simp] theorem send_client (c : D3D9Command) (pushed : Bool) :
    (s.send c pushed).client = s.client := by
  unfold State.send
  split <;> rfl

@[simp] theorem send_server (c : D3D9Command) (pushed : Bool) :
    (s.send c pushed).server = s.server := by
  unfold State.send
  split <;> rfl

@[simp] theorem send_gpD3D (c : D3D9Command) (pushed : Bool) :
    (s.send c pushed).gpD3D = s.gpD3D := by
  unfold State.send
  split <;> rfl

/-- Either the bridge is off afterwards and nothing was sent, or it was on and the command was. -/
theorem send_cases (s : State) (c : D3D9Command) (pushed : Bool) :
    ((s.send c pushed).wire = s.wire ∧ (s.send c pushed).gbBridgeRunning = false) ∨
      (s.gbBridgeRunning = true ∧ (s.send c pushed).wire = s.wire.push c) := by
  unfold State.send
  by_cases hon : s.gbBridgeRunning = true
  · rw [if_pos hon]
    cases pushed with
    | false => exact .inl ⟨rfl, rfl⟩
    | true => exact .inr ⟨hon, rfl⟩
  · rw [if_neg hon]
    exact .inl ⟨rfl, Bool.eq_false_iff.mpr hon⟩

theorem WireInv.push {w : Wire} (h : WireInv w) {c : D3D9Command}
    (hc : c = .Bridge_Continue → 0 < w.acks) : WireInv (w.push c) where
  order := by
    show w.sent ++ [c] = w.taken ++ w.processed ++ (w.commands ++ [c])
    rw [h.order, List.append_assoc]
  behind hmem := by
    rcases List.mem_append.mp hmem with hold | hnew
    · exact h.behind hold
    · exact hc (List.mem_singleton.mp hnew).symm

/-- A message, and what becomes of the client. -/
theorem Inv.send (h : Inv s) {c : D3D9Command} {pushed : Bool} (hserver : s'.server = s.server)
    (hd3d : s'.gpD3D = s.gpD3D) (hwire : s'.wire = (s.send c pushed).wire)
    (hbridge : s'.gbBridgeRunning = (s.send c pushed).gbBridgeRunning)
    (hc : c = .Bridge_Continue → 0 < s.wire.acks) (hacked : s'.client.Acked s.wire.acks)
    (hoff : s'.client.Sent false s.wire.sent)
    (hon : s.gbBridgeRunning = true → ∀ b, s'.client.Sent b (s.wire.sent ++ [c])) : Inv s' := by
  rcases send_cases s c pushed with ⟨hsame, hgb⟩ | ⟨hgb, hpush⟩
  · rw [hsame] at hwire
    refine h.of_client hserver hd3d hwire ⟨?_, ?_⟩
    · rw [hbridge, hgb, hwire]
      exact hoff
    · rw [hwire]
      exact hacked
  · rw [hpush] at hwire
    refine ⟨⟨?_, ?_⟩, ?_, ?_⟩
    · rw [hwire]
      exact hon hgb _
    · rw [hwire]
      exact hacked
    · obtain ⟨hserved, hanswers, hready⟩ := h.server
      constructor <;> rw [hserver, hwire]
      · exact hserved
      · exact hanswers
      · rw [hd3d]
        exact hready
    · rw [hwire]
      exact h.wire.push hc

theorem Calls.snoc {cs : List D3D9Command} {c : D3D9Command} (h : Calls cs)
    (hc : isCall c = true) : Calls (cs ++ [c]) := by
  intro x hx
  rcases List.mem_append.mp hx with hold | hnew
  · exact h x hold
  · rw [List.mem_singleton.mp hnew]
    exact hc

theorem Opened.snoc {sent : List D3D9Command} {c : D3D9Command} (h : Opened sent)
    (hc : isCall c = true) : Opened (sent ++ [c]) := by
  obtain ⟨cs, hcs, rfl⟩ := h
  exact ⟨cs ++ [c], hcs.snoc hc, rfl⟩

theorem Closed.snoc {sent : List D3D9Command} {c : D3D9Command} (h : Closed sent)
    (hc : isCall c = true) : Closed (sent ++ [c]) := by
  obtain ⟨cs, cs', hcs, hcs', rfl⟩ := h
  refine ⟨cs, cs' ++ [c], hcs, hcs'.snoc hc, ?_⟩
  rw [List.cons_append, List.cons_append, List.append_assoc, List.cons_append]

theorem Opened.close {sent : List D3D9Command} (h : Opened sent) :
    Closed (sent ++ [.Bridge_Terminate]) := by
  obtain ⟨cs, hcs, rfl⟩ := h
  exact ⟨cs, [], hcs, nofun, rfl⟩

/-- The next message of `InitServer` or `RemixDetach`. -/
theorem Inv.message (h : Inv s) {pushed : Bool} (hs : s.message pushed = some s') : Inv s' := by
  obtain ⟨hsent, hacked⟩ := h.client
  unfold State.message at hs
  split at hs
  case h_1 hc =>
    cases hs
    rw [hc] at hsent hacked
    refine h.send (send_server _ pushed) (send_gpD3D _ pushed) rfl rfl nofun hacked ?_ ?_
    · exact .inr ⟨hsent, rfl⟩
    · intro _ b
      rw [hsent]
      exact .inl rfl
  case h_2 hc =>
    cases hs
    rw [hc] at hsent hacked
    have hacks : 0 < s.wire.acks := by
      rw [hacked]
      exact Nat.one_pos
    refine h.send (send_server _ pushed) (send_gpD3D _ pushed) rfl rfl (fun _ => hacks) hacked ?_ ?_
    · exact .inr ⟨.inr hsent, rfl⟩
    · intro _ b
      rw [hsent]
      exact .inl ⟨[], nofun, rfl⟩
  case h_3 connected hc =>
    rw [hc] at hsent hacked
    split at hs
    · cases hs
    · cases hs
      refine h.send (send_server _ pushed) (send_gpD3D _ pushed) rfl rfl nofun hacked ?_ ?_
      · rcases hsent with hopened | ⟨hshort, -⟩
        · exact .inl hopened
        · exact .inr (.inr ⟨hshort, rfl⟩)
      · intro hon b
        rcases hsent with hopened | ⟨-, hoff⟩
        · exact .inr (.inl hopened.close)
        · cases hon.symm.trans hoff
  case h_4 => cases hs

/-- A message of any other function. -/
theorem Inv.call (h : Inv s) {c : D3D9Command} {pushed : Bool}
    (hattached : s.client.attached = true) (hc : isCall c = true) : Inv (s.send c pushed) := by
  obtain ⟨hsent, hacked⟩ := h.client
  have hcontinue : c = .Bridge_Continue → 0 < s.wire.acks := by
    rintro rfl
    cases hc
  refine h.send (send_server _ _) (send_gpD3D _ _) rfl rfl hcontinue ?_ ?_ ?_
  · rw [send_client]
    exact hacked
  · rw [send_client]
    cases hpc : s.client <;> rw [hpc] at hsent hattached
    case running | detaching => exact hsent.imp_right fun hoff => ⟨hoff.1, rfl⟩
    case refused => exact ⟨hsent.1, rfl⟩
    case waitDone | done => exact hsent.imp_right (Or.imp_right fun hoff => ⟨hoff.1, rfl⟩)
    all_goals cases hattached
  · intro hon b
    rw [send_client]
    cases hpc : s.client <;> rw [hpc] at hsent hattached
    case running | detaching =>
      rcases hsent with hopened | ⟨-, hoff⟩
      · exact .inl (hopened.snoc hc)
      · cases hon.symm.trans hoff
    case refused => cases hon.symm.trans hsent.2
    case waitDone | done =>
      rcases hsent with hopened | hclosed | ⟨-, hoff⟩
      · exact .inl (hopened.snoc hc)
      · exact .inr (.inl (hclosed.snoc hc))
      · cases hon.symm.trans hoff
    all_goals cases hattached

/-! ### The other steps of the client -/

theorem sent_aborted {b : Bool} {pc : ClientPC} {sent : List D3D9Command} (h : pc.Sent b sent) :
    ClientPC.aborted.Sent b sent := by
  cases pc with
  | idle | syn => exact .inr (.inr (.inl h))
  | waitSyn => exact .inr (.inr (h.symm.imp_left And.left))
  | goOn => exact .inr (.inr (.inr h))
  | refused => exact .inr (.inr h.1)
  | running | detaching => exact h.imp_right fun hoff => .inr hoff.1
  | waitDone | done => exact h.imp_right (Or.imp_right And.left)
  | aborted => exact h

/-- Turning the bridge off is safe. -/
theorem sent_off {b : Bool} {pc : ClientPC} {sent : List D3D9Command} (h : pc.Sent b sent) :
    pc.Sent false sent := by
  cases pc with
  | idle | syn | goOn | aborted => exact h
  | waitSyn => exact h.imp_right fun hoff => ⟨hoff.1, rfl⟩
  | refused => exact ⟨h.1, rfl⟩
  | running | detaching => exact h.imp_right fun hoff => ⟨hoff.1, rfl⟩
  | waitDone | done => exact h.imp_right (Or.imp_right fun hoff => ⟨hoff.1, rfl⟩)

/-- Taking a `Bridge_Ack` off the queue. -/
theorem Inv.takeAck (h : Inv s) {rest : List D3D9Command}
    (hrest : s.wire.responses = .Bridge_Ack :: rest) (hserver : s'.server = s.server)
    (hd3d : s'.gpD3D = s.gpD3D)
    (hwire : s'.wire = { s.wire with responses := rest, acks := s.wire.acks + 1 })
    (hclient : ClientInv s') : Inv s' := by
  have hanswered : s'.wire.answered = s.wire.answered := by
    rw [Wire.answered, Wire.answered, hwire, hrest, List.count_cons_self, Nat.add_assoc,
      Nat.add_comm 1]
  obtain ⟨hserved, hanswers, hready⟩ := h.server
  refine ⟨hclient, ⟨?_, ?_, ?_⟩, ?_⟩
  · rw [hserver, hwire]
    exact hserved
  · rw [hserver, hanswered]
    exact hanswers
  · rw [hserver, hanswered, hd3d, hwire]
    exact hready
  · rw [hwire]
    exact ⟨h.wire.order, fun _ => Nat.succ_pos _⟩

/-- A client that finds a `Bridge_Ack` has a server that has taken its first message. -/
theorem Inv.sent_of_ack (h : Inv s) {rest : List D3D9Command}
    (hrest : s.wire.responses = .Bridge_Ack :: rest) : s.wire.sent ≠ [] := by
  have hpos : 0 < s.wire.answered := by
    rw [Wire.answered, hrest, List.count_cons_self]
    omega
  obtain ⟨-, htaken⟩ := h.server.ready (.inr hpos)
  intro hnone
  have horder := h.wire.order
  rw [hnone, List.append_assoc] at horder
  rw [(List.append_eq_nil_iff.mp horder.symm).1] at htaken
  cases htaken

theorem Inv.ack (h : Inv s) (hs : s.ack = some s') : Inv s' := by
  obtain ⟨hsent, hacked⟩ := h.client
  unfold State.ack at hs
  split at hs
  case h_1 rest hrest =>
    split at hs
    case h_1 hc =>
      cases hs
      rw [hc] at hsent hacked
      refine h.takeAck hrest rfl rfl rfl ⟨?_, congrArg (· + 1) hacked⟩
      exact hsent.resolve_right fun hnone => h.sent_of_ack hrest hnone.1
    case h_2 connected hc =>
      cases hs
      rw [hc] at hsent hacked
      exact h.takeAck hrest rfl rfl rfl ⟨hsent, congrArg (· + 1) hacked⟩
    case h_3 => cases hs
  case h_2 => cases hs

theorem Inv.giveUp (h : Inv s) (hs : s.giveUp = some s') : Inv s' := by
  obtain ⟨hsent, hacked⟩ := h.client
  unfold State.giveUp at hs
  split at hs
  case h_1 hc =>
    cases hs
    rw [hc] at hsent hacked
    refine h.of_client rfl rfl rfl ⟨⟨?_, rfl⟩, hacked⟩
    exact (hsent.imp_right And.left).symm
  case h_2 connected hc =>
    cases hs
    rw [hc] at hsent hacked
    exact h.of_client rfl rfl rfl ⟨hsent, hacked⟩
  case h_3 => cases hs

theorem Inv.detach (h : Inv s) (hs : s.detach = some s') : Inv s' := by
  obtain ⟨hsent, hacked⟩ := h.client
  unfold State.detach at hs
  split at hs
  case h_1 hc =>
    cases hs
    rw [hc] at hsent hacked
    exact h.of_client rfl rfl rfl ⟨hsent, hacked⟩
  case h_2 hc =>
    cases hs
    rw [hc] at hsent hacked
    exact h.of_client rfl rfl rfl ⟨.inr hsent, hacked⟩
  case h_3 => cases hs

theorem Inv.serverExitedEnd (h : Inv s) : Inv s.serverExitedEnd := by
  obtain ⟨hsent, hacked⟩ := h.client
  refine h.of_client rfl rfl rfl ?_
  unfold State.serverExitedEnd
  split
  · exact ⟨sent_aborted (sent_off hsent), trivial⟩
  · exact ⟨sent_off hsent, hacked⟩

/-- The wait of a function takes its response. -/
theorem Inv.response (h : Inv s) {rest : List D3D9Command}
    (hrest : s.wire.responses = .Bridge_Response :: rest) :
    Inv { s with wire := { s.wire with responses := rest } } := by
  have hanswered :
      { s.wire with responses := rest : Wire }.answered = s.wire.answered := by
    rw [Wire.answered, Wire.answered, hrest, List.count_cons_of_ne (by decide)]
  obtain ⟨hserved, hanswers, hready⟩ := h.server
  refine ⟨⟨h.client.sent, h.client.acked⟩, ⟨hserved, ?_, ?_⟩, h.wire.order, h.wire.behind⟩
  · exact hanswered ▸ hanswers
  · exact hanswered ▸ hready

/-! ### The steps of the server -/

@[simp] theorem answer_client (c : D3D9Command) (pushed : Bool) :
    (s.answer c pushed).client = s.client := by
  unfold State.answer
  split <;> rfl

@[simp] theorem answer_gbBridgeRunning (c : D3D9Command) (pushed : Bool) :
    (s.answer c pushed).gbBridgeRunning = s.gbBridgeRunning := by
  unfold State.answer
  split <;> rfl

@[simp] theorem answer_server (c : D3D9Command) (pushed : Bool) :
    (s.answer c pushed).server = s.server := by
  unfold State.answer
  split <;> rfl

@[simp] theorem answer_gpD3D (c : D3D9Command) (pushed : Bool) :
    (s.answer c pushed).gpD3D = s.gpD3D := by
  unfold State.answer
  split <;> rfl

/-- The message was sent or it was not. -/
theorem answer_wire (s : State) (c : D3D9Command) (pushed : Bool) :
    (s.answer c pushed).wire = s.wire ∨
      (s.answer c pushed).wire = { s.wire with responses := s.wire.responses ++ [c] } := by
  unfold State.answer
  split
  · cases pushed with
    | false => exact .inl rfl
    | true => exact .inr rfl
  · exact .inl rfl

/-- A message that is no `Bridge_Ack`. -/
theorem Inv.answer (h : Inv s) {c : D3D9Command} (hc : c ≠ .Bridge_Ack) (pushed : Bool) :
    Inv (s.answer c pushed) := by
  rcases answer_wire s c pushed with hsame | hwire
  · refine h.of_server (answer_client _ _) (answer_gbBridgeRunning _ _) hsame ?_
    obtain ⟨hserved, hanswers, hready⟩ := h.server
    refine ⟨?_, ?_, ?_⟩ <;> rw [answer_server, hsame]
    · exact hserved
    · exact hanswers
    · rw [answer_gpD3D]
      exact hready
  · have hanswered : (s.answer c pushed).wire.answered = s.wire.answered := by
      rw [Wire.answered, Wire.answered, hwire, List.count_append, List.count_cons_of_ne hc,
        List.count_nil, Nat.add_zero]
    obtain ⟨hserved, hanswers, hready⟩ := h.server
    refine ⟨⟨?_, ?_⟩, ⟨?_, ?_, ?_⟩, ?_⟩
    · rw [answer_client, answer_gbBridgeRunning, hwire]
      exact h.client.sent
    · rw [answer_client, hwire]
      exact h.client.acked
    · rw [answer_server, hwire]
      exact hserved
    · rw [answer_server, hanswered]
      exact hanswers
    · rw [answer_server, hanswered, answer_gpD3D, hwire]
      exact hready
    · rw [hwire]
      exact ⟨h.wire.order, h.wire.behind⟩

/-- A `Bridge_Ack`, and what becomes of the server. -/
theorem Inv.acknowledge (h : Inv s) {pushed : Bool} (hclient : s'.client = s.client)
    (hbridge : s'.gbBridgeRunning = s.gbBridgeRunning) (hd3d : s'.gpD3D = s.gpD3D)
    (hwire : s'.wire = (s.answer .Bridge_Ack pushed).wire)
    (hserved : s'.server.Served s.wire.taken s.wire.processed)
    (hanswers : s.wire.answered + 1 ≤ s'.server.answers)
    (hready : s.gpD3D = true ∧ .Bridge_Syn ∈ s.wire.taken) : Inv s' := by
  rcases answer_wire s .Bridge_Ack pushed with hsame | hack
  · rw [hsame] at hwire
    refine h.of_server hclient hbridge hwire ⟨?_, ?_, fun _ => ?_⟩ <;> rw [hwire]
    · exact hserved
    · exact Nat.le_of_succ_le hanswers
    · rw [hd3d]
      exact hready
  · rw [hack] at hwire
    have hanswered : s'.wire.answered = s.wire.answered + 1 := by
      rw [Wire.answered, Wire.answered, hwire, List.count_append, List.count_cons_self,
        List.count_nil, Nat.zero_add, Nat.add_right_comm]
    refine ⟨⟨?_, ?_⟩, ⟨?_, ?_, fun _ => ?_⟩, ?_⟩
    · rw [hclient, hbridge, hwire]
      exact h.client.sent
    · rw [hclient, hwire]
      exact h.client.acked
    · rw [hwire]
      exact hserved
    · rw [hanswered]
      exact hanswers
    · rw [hd3d, hwire]
      exact hready
    · rw [hwire]
      exact ⟨h.wire.order, h.wire.behind⟩

/-- The server takes a command. -/
theorem Inv.take (h : Inv s) {server : ServerPC} {rest taken processed : List D3D9Command}
    (horder : taken ++ processed ++ rest = s.wire.taken ++ s.wire.processed ++ s.wire.commands)
    (hserved : server.Served taken processed) (hanswers : s.wire.answered ≤ server.answers)
    (hready : server = .answering ∨ 0 < s.wire.answered →
      s.gpD3D = true ∧ .Bridge_Syn ∈ taken) :
    Inv { s with
      server := server
      wire := { s.wire with commands := rest, taken := taken, processed := processed } } where
  client := ⟨h.client.sent, h.client.acked⟩
  server := ⟨hserved, hanswers, hready⟩
  wire := ⟨h.wire.order.trans horder.symm, h.wire.behind⟩

/-- What a client sends behind its handshake. -/
theorem Inv.language (h : Inv s) :
    ∀ c ∈ s.wire.sent.drop 2, isCall c = true ∨ c = .Bridge_Terminate := by
  have hsent : Opened s.wire.sent ∨ Closed s.wire.sent ∨ Short s.wire.sent :=
    sent_aborted h.client.sent
  rcases hsent with ⟨cs, hcs, heq⟩ | ⟨cs, cs', hcs, hcs', heq⟩ | heq | heq <;>
    rw [heq] <;> intro c hc
  · exact .inl (hcs c hc)
  · rcases List.mem_append.mp hc with hc | hc
    · exact .inl (hcs c hc)
    · rcases List.mem_cons.mp hc with hc | hc
      · exact .inr hc
      · exact .inl (hcs' c hc)
  · cases hc
  · cases hc

/-- The server's loop. -/
theorem Inv.process (h : Inv s) {answer : Option Bool} (hs : s.process answer = some s') :
    Inv s' := by
  unfold State.process at hs
  split at hs
  case h_1 c rest hserver hcommands =>
    obtain ⟨hserved, hanswers, hready⟩ := h.server
    rw [hserver] at hserved hanswers
    obtain ⟨htaken, hcalls⟩ := hserved
    have horder := h.wire.order
    have hc : isCall c = true ∨ c = .Bridge_Terminate := by
      refine h.language c ?_
      rw [horder, htaken, hcommands, List.append_assoc]
      show c ∈ s.wire.processed ++ c :: rest
      exact List.mem_append_right _ List.mem_cons_self
    have htake : Inv { s with
        server := if c = .Bridge_Terminate then .finishing true else .processing
        wire := { s.wire with commands := rest, processed := s.wire.processed ++ [c] } } := by
      refine h.take ?_ ?_ ?_ ?_
      · rw [hcommands, List.append_assoc, List.append_assoc, List.append_assoc,
          List.singleton_append]
      · split
        next hterminate => exact ⟨htaken, s.wire.processed, hcalls, by rw [hterminate]⟩
        next hcall => exact ⟨htaken, hcalls.snoc (hc.resolve_right hcall)⟩
      · split <;> exact hanswers
      · intro hor
        refine hready (.inr (hor.resolve_left ?_))
        split <;> nofun
    cases answer with
    | none =>
        cases hs
        exact htake
    | some pushed =>
        cases hs
        exact htake.answer (by decide) pushed
  case h_2 => cases hs

/-- A wait of the server gives up. -/
theorem Inv.serverGiveUp (h : Inv s) (hs : s.serverGiveUp = some s') : Inv s' := by
  obtain ⟨hserved, hanswers, hready⟩ := h.server
  unfold State.serverGiveUp at hs
  split at hs
  case h_1 hserver =>
    cases hs
    rw [hserver] at hserved hanswers
    refine h.of_server rfl rfl rfl ⟨⟨.inl hserved.1, hserved.2⟩, ?_, ?_⟩
    · exact hanswers.trans (Nat.zero_le 1)
    · exact fun hor => hready (.inr (hor.resolve_left nofun))
  case h_2 hserver =>
    cases hs
    rw [hserver] at hserved hanswers
    refine h.of_server rfl rfl rfl ⟨⟨.inr hserved.1, hserved.2⟩, hanswers, ?_⟩
    exact fun hor => hready (.inr (hor.resolve_left nofun))
  case h_3 hserver =>
    cases hs
    rw [hserver] at hserved hanswers
    refine h.of_server rfl rfl rfl ⟨hserved, hanswers, ?_⟩
    exact fun hor => hready (.inr (hor.resolve_left nofun))
  case h_4 => cases hs

/-- A server in its loop has answered, and the client has heard it. -/
theorem Inv.opened (h : Inv s) (htaken : s.wire.taken = [.Bridge_Syn, .Bridge_Continue]) :
    0 < s.wire.acks ∧ s.gpD3D = true ∧ .Bridge_Syn ∈ s.wire.taken := by
  have hacks : 0 < s.wire.acks := by
    refine h.wire.behind ?_
    rw [h.wire.order, htaken, List.append_assoc]
    exact List.mem_append_left _ (List.mem_cons_of_mem _ List.mem_cons_self)
  exact ⟨hacks, h.server.ready (.inr (Nat.add_pos_right _ hacks))⟩

/-- A server that is killed. -/
theorem Inv.kill (h : Inv s) (hgone : s.server.gone = false) :
    Inv { s with server := .killed } := by
  obtain ⟨hserved, hanswers, hready⟩ := h.server
  refine h.of_server rfl rfl rfl ⟨?_, ?_, fun hor => hready (.inr (hor.resolve_left nofun))⟩
  · cases hs : s.server <;> rw [hs] at hserved hgone
    case none | waitSyn => exact .inl ⟨.inl hserved.1, hserved.2⟩
    case initialising | answering | waitContinue => exact .inl ⟨.inr hserved.1, hserved.2⟩
    case processing => exact .inr ⟨hserved.1, .inl hserved.2⟩
    case finishing terminated =>
      cases terminated with
      | false => exact .inr ⟨hserved.1, .inl hserved.2⟩
      | true => exact .inr ⟨hserved.1, .inr hserved.2⟩
    all_goals cases hgone
  · refine hanswers.trans ?_
    show s.server.answers ≤ 1
    cases hs : s.server <;> rw [hs] at hgone
    case finished => cases hgone
    case finishing => exact Nat.le_refl 1
    all_goals decide

/-- **One step.** -/
theorem Inv.step (h : Inv s) {a : Act} (hs : step s a = some s') : Inv s' := by
  cases a with
  | initServer created =>
      simp only [Session.step] at hs
      split at hs
      next hc hserver =>
        cases hs
        obtain ⟨hsent, hacked⟩ := h.client
        obtain ⟨hserved, hanswers, hready⟩ := h.server
        rw [hc] at hsent hacked
        rw [hserver] at hserved hanswers
        refine ⟨⟨hsent, hacked⟩, ⟨?_, ?_, fun hor => hready (.inr (hor.resolve_left ?_))⟩, h.wire⟩
        · cases created <;> exact hserved
        · cases created <;> exact hanswers
        · cases created <;> nofun
      next => cases hs
  | message pushed => exact h.message hs
  | ack => exact h.ack hs
  | giveUp => exact h.giveUp hs
  | call c pushed =>
      simp only [Session.step] at hs
      split at hs
      next hcall =>
        cases hs
        rw [Bool.and_eq_true] at hcall
        exact h.call hcall.1 hcall.2
      next => cases hs
  | response =>
      simp only [Session.step] at hs
      split at hs
      next rest hrest =>
        split at hs
        next =>
          cases hs
          exact h.response hrest
        next => cases hs
      next => cases hs
  | detach => exact h.detach hs
  | crash =>
      cases hs
      exact h.of_client rfl rfl rfl ⟨sent_aborted h.client.sent, trivial⟩
  | serverExited =>
      simp only [Session.step] at hs
      split at hs
      next =>
        cases hs
        exact h.of_client rfl rfl rfl ⟨h.client.sent, h.client.acked⟩
      next => cases hs
  | serverExitedEnd =>
      simp only [Session.step] at hs
      split at hs
      next =>
        cases hs
        exact h.serverExitedEnd
      next => cases hs
  | serverSyn =>
      simp only [Session.step] at hs
      split at hs
      next rest hserver hcommands =>
        cases hs
        obtain ⟨hserved, hanswers, hready⟩ := h.server
        rw [hserver] at hserved hanswers
        refine h.take ?_ ?_ ?_ ?_
        · rw [hcommands, hserved.1, hserved.2]
          rfl
        · rw [hserved.1, hserved.2]
          exact ⟨rfl, rfl⟩
        · exact hanswers
        · intro hor
          exact absurd (hor.resolve_left nofun) (Nat.not_lt_of_le hanswers)
      next => cases hs
  | initializeD3D loaded =>
      simp only [Session.step] at hs
      split at hs
      next hserver =>
        obtain ⟨hserved, hanswers, hready⟩ := h.server
        rw [hserver] at hserved hanswers
        split at hs
        next =>
          cases hs
          refine h.of_server rfl rfl rfl ⟨hserved, hanswers, fun _ => ⟨rfl, ?_⟩⟩
          rw [hserved.1]
          exact List.mem_cons_self
        next =>
          cases hs
          refine h.of_server rfl rfl rfl ⟨⟨.inr hserved.1, hserved.2⟩, ?_, ?_⟩
          · exact hanswers.trans (Nat.zero_le 1)
          · exact fun hor => hready (.inr (hor.resolve_left nofun))
      next => cases hs
  | serverAck pushed =>
      simp only [Session.step] at hs
      split at hs
      next hserver =>
        cases hs
        obtain ⟨hserved, hanswers, hready⟩ := h.server
        rw [hserver] at hserved hanswers
        exact h.acknowledge (answer_client _ _) (answer_gbBridgeRunning _ _) (answer_gpD3D _ _)
          rfl hserved (Nat.succ_le_succ hanswers) (hready (.inl hserver))
      next => cases hs
  | serverContinue =>
      simp only [Session.step] at hs
      split at hs
      next rest hserver hcommands =>
        cases hs
        obtain ⟨hserved, hanswers, hready⟩ := h.server
        rw [hserver] at hserved hanswers
        refine h.take ?_ ?_ ?_ ?_
        · rw [hcommands, hserved.1, hserved.2]
          rfl
        · rw [hserved.1, hserved.2]
          exact ⟨rfl, nofun⟩
        · exact hanswers
        · intro hor
          exact (hready (.inr (hor.resolve_left nofun))).imp_right (List.mem_append_left _)
      next => cases hs
  | process answer => exact h.process hs
  | serverGiveUp => exact h.serverGiveUp hs
  | serverDone pushed =>
      simp only [Session.step] at hs
      split at hs
      next terminated hserver =>
        cases hs
        obtain ⟨hserved, hanswers, hready⟩ := h.server
        rw [hserver] at hserved hanswers
        have htaken : s.wire.taken = [.Bridge_Syn, .Bridge_Continue] := by
          cases terminated <;> exact hserved.1
        refine h.acknowledge (answer_client _ _) (answer_gbBridgeRunning _ _) (answer_gpD3D _ _)
          rfl ?_ (Nat.succ_le_succ hanswers) (h.opened htaken).2
        cases terminated <;> exact hserved
      next => cases hs
  | clientExited =>
      simp only [Session.step] at hs
      split at hs
      next =>
        cases hs
        exact h.of_server rfl rfl rfl ⟨h.server.served, h.server.answers, h.server.ready⟩
      next => cases hs
  | kill =>
      simp only [Session.step] at hs
      split at hs
      next hkill =>
        cases hs
        rw [Bool.and_eq_true] at hkill
        exact h.kill (by simpa using hkill.1)
      next => cases hs

/-! ### Runs -/

/-- An orderly session. -/
structure Orderly (s : State) : Prop where
  /-- The server processes the commands in the order in which they were sent. -/
  order : s.wire.sent = s.wire.taken ++ s.wire.processed ++ s.wire.commands
  /-- It does so behind the handshake alone, with a `d3d9.dll`, when the client has heard of it. -/
  handshake : s.server = .processing ∨ s.wire.processed ≠ [] →
    s.wire.taken = [.Bridge_Syn, .Bridge_Continue] ∧ 0 < s.wire.acks ∧ s.gpD3D = true
  /-- The client goes on with a server that has taken its first message and has a `d3d9.dll`. -/
  ready : s.client = .goOn ∨ s.client = .running → s.gpD3D = true ∧ .Bridge_Syn ∈ s.wire.taken
  /-- Nothing is processed behind `Bridge_Terminate`. -/
  last : ∀ c ∈ s.wire.processed.dropLast, isCall c = true
  /-- A client that was connected and is notified of the end has a server that has ended, and all
  calls before `Bridge_Terminate` were processed if that is why. -/
  notified : s.client = .done true true → ∃ terminated, s.server = .finished terminated ∧
    (terminated = true → ∃ calls rest, Calls calls ∧
      s.wire.processed = calls ++ [.Bridge_Terminate] ∧
      s.wire.sent = .Bridge_Syn :: .Bridge_Continue :: (calls ++ .Bridge_Terminate :: rest))

theorem Inv.taken (h : Inv s) (hs : s.server = .processing ∨ s.wire.processed ≠ []) :
    s.wire.taken = [.Bridge_Syn, .Bridge_Continue] := by
  have hserved := h.server.served
  rcases hs with hs | hs
  · rw [hs] at hserved
    exact hserved.1
  · cases hpc : s.server <;> rw [hpc] at hserved
    case processing => exact hserved.1
    case finishing terminated | finished terminated => cases terminated <;> exact hserved.1
    case killed => exact (hserved.resolve_left fun hnone => hs hnone.2).1
    all_goals exact absurd hserved.2 hs

theorem Inv.last (h : Inv s) : ∀ c ∈ s.wire.processed.dropLast, isCall c = true := by
  have hcases : Calls s.wire.processed ∨
      ∃ cs, Calls cs ∧ s.wire.processed = cs ++ [.Bridge_Terminate] := by
    have hserved := h.server.served
    have hempty : s.wire.processed = [] → Calls s.wire.processed := by
      intro hnone
      rw [hnone]
      exact nofun
    cases hpc : s.server <;> rw [hpc] at hserved
    case processing => exact .inl hserved.2
    case finishing terminated | finished terminated =>
      cases terminated with
      | false => exact .inl hserved.2
      | true => exact .inr hserved.2
    case killed => exact hserved.elim (fun hnone => .inl (hempty hnone.2)) And.right
    all_goals exact .inl (hempty hserved.2)
  rcases hcases with hcalls | ⟨cs, hcs, heq⟩
  · exact fun c hc => hcalls c (List.dropLast_subset _ hc)
  · rw [heq, List.dropLast_concat]
    exact hcs

theorem Inv.notified (h : Inv s) (hdone : s.client = .done true true) :
    ∃ terminated, s.server = .finished terminated := by
  have hacked := h.client.acked
  have hanswers := h.server.answers
  rw [hdone] at hacked
  have htwo : 2 ≤ s.server.answers := by
    refine Nat.le_trans ?_ hanswers
    rw [Wire.answered, hacked]
    exact Nat.le_add_left _ _
  cases hs : s.server <;> rw [hs] at htwo
  case finished terminated => exact ⟨terminated, rfl⟩
  all_goals exact absurd htwo (by simp [ServerPC.answers])

/-- **An orderly session**, whatever the order of the two processes' steps, and whichever waits give
up, messages are not taken or processes end. -/
theorem session {acts : List Act} (hr : run step start acts = some s) : Orderly s := by
  have h : Inv s := run_inv (fun _ _ _ h hs => h.step hs) inv_start hr
  refine ⟨h.wire.order, fun hs => ?_, fun hs => ?_, h.last, fun hdone => ?_⟩
  · obtain ⟨hacks, hd3d, -⟩ := h.opened (h.taken hs)
    exact ⟨h.taken hs, hacks, hd3d⟩
  · have hacked := h.client.acked
    have hone : s.wire.acks = 1 := by
      rcases hs with hs | hs <;> (rw [hs] at hacked; exact hacked)
    refine h.server.ready (.inr ?_)
    rw [Wire.answered, hone]
    exact Nat.succ_pos _
  · obtain ⟨terminated, hs⟩ := h.notified hdone
    refine ⟨terminated, hs, ?_⟩
    rintro rfl
    have hserved := h.server.served
    rw [hs] at hserved
    obtain ⟨htaken, cs, hcs, hprocessed⟩ := hserved
    refine ⟨cs, s.wire.commands, hcs, hprocessed, ?_⟩
    rw [h.wire.order, htaken, hprocessed, List.append_assoc, List.append_assoc]
    rfl

/-- A session with one call. -/
theorem session_call : ∃ s, run step start [.initServer true, .message true, .serverSyn,
    .initializeD3D true, .serverAck true, .ack, .message true, .serverContinue,
    .call .IDirect3DDevice9Ex_BeginScene true, .process (some true), .response, .detach,
    .message true, .process none, .serverDone true, .ack] = some s ∧
      s.client = .done true true ∧ Orderly s := by
  have hr : run step start [.initServer true, .message true, .serverSyn,
    .initializeD3D true, .serverAck true, .ack, .message true, .serverContinue,
    .call .IDirect3DDevice9Ex_BeginScene true, .process (some true), .response, .detach,
    .message true, .process none, .serverDone true, .ack] = some _ := rfl
  exact ⟨_, hr, rfl, session hr⟩

/-- The `Bridge_Ack` that `InitServer` gave up waiting for is there for `RemixDetach` to take for
the last one. -/
example : ∃ s, run step start [.initServer true, .message true, .giveUp, .serverSyn,
    .initializeD3D true, .serverAck true, .detach, .message true, .ack] = some s ∧
      s.client = .done false true ∧ s.server = .waitContinue :=
  ⟨_, rfl, rfl, rfl⟩

end RemixBridge.Session
