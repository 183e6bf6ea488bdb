import RemixBridge.Support.Runs
import RemixBridge.Channel.AtomicCircularQueue
import RemixBridge.Wire.Commands

/-!
# Channel — WaitForCommand

The client's wait for a server response (`Bridge::waitForCommand`, `util_bridgecommand.cpp`).  The
wait looks at the front of the response queue and never takes it off: only the caller pops, and
only after the wait returned `Success`.  `responses` is what `AtomicCircularQueue` holds between
the two indices, front first; a look at it is the slot load of `peek` (`Queue.Inv.slot`).

A request is known by its number among all commands sent; its UID is that number in `uint32_t`.

* `Inv`: a queued response belongs to the request being waited for or to a call that is over.
* `wait_recovers`: when a published response is received.
-/

namespace RemixBridge.WaitForCommand
open Runs

/-- The options the wait reads. -/
structure Options where
  commandTimeout : Nat
  ackTimeout : Nat
  commandRetries : Nat
  disableTimeouts : Bool

def Options.getCommandTimeout (o : Options) : Nat := if o.disableTimeouts then 0 else o.commandTimeout

def Options.getAckTimeout (o : Options) : Nat := if o.disableTimeouts then 0 else o.ackTimeout

/-- `getCommandRetries`; `infiniteRetries` is switched while the program runs. -/
def Options.getCommandRetries (o : Options) (infiniteRetries : Bool) : Nat :=
  if infiniteRetries then 2 ^ 32 - 1 else o.commandRetries

/-- The arguments and the locals of one `waitForCommand`. -/
structure Wait where
  command : D3D9Command
  overrideTimeoutMS : Nat
  verifyUID : Bool
  uidToVerify : Nat
  peekTimeoutMS : Nat
  maxAttempts : Nat
  infiniteRetries : Bool
  attemptNum : Nat
  deriving DecidableEq, Repr

/-- The peek timeout a wait starts with and goes back to. -/
def Options.peekTimeout (o : Options) (overrideTimeoutMS : Nat) : Nat :=
  if overrideTimeoutMS > 0 then overrideTimeoutMS else o.getCommandTimeout

/-- The head of `waitForCommand`. -/
def Wait.start (o : Options) (infiniteRetries : Bool) (command : D3D9Command)
    (overrideTimeoutMS : Nat) (verifyUID : Bool) (uidToVerify : Nat) : Wait where
  command := command
  overrideTimeoutMS := overrideTimeoutMS
  verifyUID := verifyUID
  uidToVerify := uidToVerify
  peekTimeoutMS := o.peekTimeout overrideTimeoutMS
  maxAttempts := o.getCommandRetries infiniteRetries
  infiniteRetries := false
  attemptNum := 0

/-- The test on a header at the front of the queue. -/
def Wait.accepts (w : Wait) (header : Header) : Bool :=
  w.command == .Bridge_Any ||
    (header.command == w.command && (!w.verifyUID || header.pHandle == w.uidToVerify))

/-- The `Result::Timeout` case of the switch. -/
def Wait.afterTimeout (o : Options) (infiniteRetries : Bool) (w : Wait) : Wait :=
  if infiniteRetries then
    { w with
      peekTimeoutMS := 1
      attemptNum := if w.attemptNum > 0 then w.attemptNum - 1 else w.attemptNum
      infiniteRetries := true }
  else if w.infiniteRetries then
    { w with peekTimeoutMS := o.peekTimeout w.overrideTimeoutMS, infiniteRetries := false }
  else w

/-- The loop condition, before the increment of `attemptNum`. -/
def Wait.keepsTrying (w : Wait) (gbBridgeRunning bEarlyOut : Bool) : Bool :=
  !bEarlyOut && decide (w.attemptNum ≤ w.maxAttempts) && gbBridgeRunning

/-- Where the client is in a call: `looking` inside `peek`, `mismatched` and `expired` before the
loop test, `returned` before it acts on the result. -/
inductive ClientPC where
  | idle
  | sent (req : Nat)
  | looking (req : Nat) (w : Wait)
  | mismatched (req : Nat) (w : Wait)
  | expired (req : Nat) (w : Wait)
  | returned (req : Nat) (r : Result)
  deriving DecidableEq, Repr

/-- A published response and the request it answers. -/
structure Response where
  req : Nat
  header : Header
  deriving DecidableEq, Repr

/-- `commands` counts the commands sent; `ended` is history: the requests whose call has ended. -/
structure State where
  commands : Nat
  client : ClientPC
  unanswered : List Nat
  responses : List Response
  infiniteRetries : Bool
  gbBridgeRunning : Bool
  ended : List Nat

/-- `s_cmdUID` of a command. -/
def uid (req : Nat) : Nat := req % 2 ^ 32

inductive Act where
  | send
  | request
  | wait
  | peek
  | loopTest (bEarlyOut : Bool)
  | finish
  | respond (req : Nat) (dataOffset : Nat)
  | setInfiniteRetries (b : Bool)
  | setRunning (b : Bool)
  deriving DecidableEq, Repr

/-- The loop test, from the wait as the switch left it. -/
def State.loopTest (s : State) (req : Nat) (w : Wait) (bEarlyOut : Bool) : State :=
  if w.keepsTrying s.gbBridgeRunning bEarlyOut then
    { s with client := .looking req { w with attemptNum := (w.attemptNum + 1) % 2 ^ 32 } }
  else { s with client := .returned req .Timeout, ended := req :: s.ended }

/-- The look of `peek` at the front of the queue.  With a zero timeout it spins on an empty one. -/
def State.peek (s : State) (req : Nat) (w : Wait) : Option State :=
  match s.responses with
  | r :: _ =>
      if w.accepts r.header then some { s with client := .returned req .Success }
      else some { s with client := .mismatched req w }
  | [] => if w.peekTimeoutMS ≠ 0 then some { s with client := .expired req w } else none

/-- The steps of the client and the server.  `send` is a command nobody waits for; `request` and
`wait` are a command under `WAIT_FOR_SERVER_RESPONSE`; `finish` pops the response a wait found, or
returns the caller's error value. -/
def step (o : Options) (s : State) : Act → Option State
  | .send =>
      match s.client with
      | .idle => some { s with commands := s.commands + 1 }
      | _     => none
  | .request =>
      match s.client with
      | .idle => some { s with
          commands := s.commands + 1
          client := .sent s.commands
          unanswered := s.unanswered ++ [s.commands] }
      | _     => none
  | .wait =>
      match s.client with
      | .sent req => some { s with
          client := .looking req
            (.start o s.infiniteRetries .Bridge_Response o.getAckTimeout true (uid req)) }
      | _         => none
  | .peek =>
      match s.client with
      | .looking req w => s.peek req w
      | _              => none
  | .loopTest bEarlyOut =>
      match s.client with
      | .mismatched req w => some (s.loopTest req w bEarlyOut)
      | .expired req w    => some (s.loopTest req (w.afterTimeout o s.infiniteRetries) bEarlyOut)
      | _                 => none
  | .finish =>
      match s.client with
      | .returned req .Success =>
          some { s with client := .idle, responses := s.responses.tail, ended := req :: s.ended }
      | .returned _ _          => some { s with client := .idle }
      | _                      => none
  | .respond req dataOffset =>
      if req ∈ s.unanswered then
        some { s with
          unanswered := s.unanswered.erase req
          responses := s.responses ++ [⟨req, ⟨.Bridge_Response, 0, dataOffset, uid req⟩⟩] }
      else none
  | .setInfiniteRetries b => some { s with infiniteRetries := b }
  | .setRunning b         => some { s with gbBridgeRunning := b }

/-- The bridge after the handshake. -/
def start : State where
  commands := 0
  client := .idle
  unanswered := []
  responses := []
  infiniteRetries := false
  gbBridgeRunning := true
  ended := []

/-! ### What a step can do -/

/-- The wait that a loop test goes on with. -/
inductive TestOf (o : Options) (s : State) (req : Nat) : Wait → Prop where
  | mismatched {w : Wait} (hpc : s.client = .mismatched req w) : TestOf o s req w
  | expired {w : Wait} (hpc : s.client = .expired req w) :
      TestOf o s req (w.afterTimeout o s.infiniteRetries)

/-- The transitions of `step`, each with its guard. -/
inductive Move (o : Options) (s : State) : Act → State → Prop where
  | send (hpc : s.client = .idle) : Move o s .send { s with commands := s.commands + 1 }
  | request (hpc : s.client = .idle) :
      Move o s .request { s with
        commands := s.commands + 1
        client := .sent s.commands
        unanswered := s.unanswered ++ [s.commands] }
  | wait {req : Nat} (hpc : s.client = .sent req) :
      Move o s .wait { s with
        client := .looking req
          (.start o s.infiniteRetries .Bridge_Response o.getAckTimeout true (uid req)) }
  | found {req : Nat} {w : Wait} {r : Response} {rest : List Response}
      (hpc : s.client = .looking req w) (hq : s.responses = r :: rest)
      (ha : w.accepts r.header = true) : Move o s .peek { s with client := .returned req .Success }
  | mismatch {req : Nat} {w : Wait} {r : Response} {rest : List Response}
      (hpc : s.client = .looking req w) (hq : s.responses = r :: rest)
      (ha : w.accepts r.header = false) : Move o s .peek { s with client := .mismatched req w }
  | expire {req : Nat} {w : Wait} (hpc : s.client = .looking req w) (hq : s.responses = []) :
      Move o s .peek { s with client := .expired req w }
  | retry {req : Nat} {w : Wait} {bEarlyOut : Bool} (ht : TestOf o s req w)
      (hk : w.keepsTrying s.gbBridgeRunning bEarlyOut = true) :
      Move o s (.loopTest bEarlyOut) { s with
        client := .looking req { w with attemptNum := (w.attemptNum + 1) % 2 ^ 32 } }
  | giveUp {req : Nat} {w : Wait} {bEarlyOut : Bool} (ht : TestOf o s req w)
      (hk : w.keepsTrying s.gbBridgeRunning bEarlyOut = false) :
      Move o s (.loopTest bEarlyOut)
        { s with client := .returned req .Timeout, ended := req :: s.ended }
  | pop {req : Nat} (hpc : s.client = .returned req .Success) :
      Move o s .finish
        { s with client := .idle, responses := s.responses.tail, ended := req :: s.ended }
  | fail {req : Nat} {r : Result} (hpc : s.client = .returned req r) (hr : r ≠ .Success) :
      Move o s .finish { s with client := .idle }
  | respond {req : Nat} (hreq : req ∈ s.unanswered) (dataOffset : Nat) :
      Move o s (.respond req dataOffset) { s with
        unanswered := s.unanswered.erase req
        responses := s.responses ++ [⟨req, ⟨.Bridge_Response, 0, dataOffset, uid req⟩⟩] }
  | setInfiniteRetries (b : Bool) :
      Move o s (.setInfiniteRetries b) { s with infiniteRetries := b }
  | setRunning (b : Bool) : Move o s (.setRunning b) { s with gbBridgeRunning := b }

theorem move_of_loopTest {o : Options} {s : State} {req : Nat} {w : Wait} {bEarlyOut : Bool}
    (ht : TestOf o s req w) : Move o s (.loopTest bEarlyOut) (s.loopTest req w bEarlyOut) := by
  unfold State.loopTest
  split
  · exact .retry ht ‹_›
  · exact .giveUp ht (Bool.eq_false_iff.mpr ‹_›)

theorem move_of_step {o : Options} {s s' : State} {a : Act} (hs : step o s a = some s') :
    Move o s a s' := by
  cases a with
  | send =>
      simp only [step] at hs
      split at hs <;> cases hs
      exact .send ‹_›
  | request =>
      simp only [step] at hs
      split at hs <;> cases hs
      exact .request ‹_›
  | wait =>
      simp only [step] at hs
      split at hs <;> cases hs
      exact .wait ‹_›
  | peek =>
      simp only [step, State.peek] at hs
      split at hs
      · rename_i req w hpc
        split at hs
        · split at hs <;> cases hs
          · exact .found hpc ‹_› ‹_›
          · exact .mismatch hpc ‹_› (Bool.eq_false_iff.mpr ‹_›)
        · split at hs <;> cases hs
          exact .expire hpc ‹_›
      · cases hs
  | loopTest bEarlyOut =>
      simp only [step] at hs
      split at hs <;> cases hs
      · exact move_of_loopTest (.mismatched ‹_›)
      · exact move_of_loopTest (.expired ‹_›)
  | finish =>
      simp only [step] at hs
      split at hs <;> cases hs
      · exact .pop ‹_›
      · rename_i hr hpc
        exact .fail hpc hr
  | respond req dataOffset =>
      simp only [step] at hs
      split at hs <;> cases hs
      exact .respond ‹_› dataOffset
  | setInfiniteRetries b =>
      cases hs
      exact .setInfiniteRetries b
  | setRunning b =>
      cases hs
      exact .setRunning b

/-! ### Whose responses are queued -/

/-- The request of a call that is not over. -/
def ClientPC.req? : ClientPC → Option Nat
  | .idle                  => none
  | .sent req              => some req
  | .looking req _         => some req
  | .mismatched req _      => some req
  | .expired req _         => some req
  | .returned req .Success => some req
  | .returned _ _          => none

/-- A call that did not receive its response is over. -/
theorem req?_returned_of_ne {req : Nat} {r : Result} (hr : r ≠ .Success) :
    (ClientPC.returned req r).req? = none := by
  cases r with
  | Success => exact absurd rfl hr
  | Timeout => rfl
  | Failure => rfl

/-- A wait for the response to `req`. -/
def Wait.IsFor (w : Wait) (req : Nat) : Prop :=
  w.command = .Bridge_Response ∧ w.verifyUID = true ∧ w.uidToVerify = uid req

/-- The wait the client is in. -/
def ClientPC.wait? : ClientPC → Option (Nat × Wait)
  | .looking req w    => some (req, w)
  | .mismatched req w => some (req, w)
  | .expired req w    => some (req, w)
  | _                 => none

theorem Wait.IsFor.afterTimeout {w : Wait} {req : Nat} (h : w.IsFor req) (o : Options)
    (infiniteRetries : Bool) : (w.afterTimeout o infiniteRetries).IsFor req := by
  unfold Wait.afterTimeout
  split
  · exact h
  · split <;> exact h

theorem TestOf.req? {o : Options} {s : State} {req : Nat} {w : Wait} (ht : TestOf o s req w) :
    s.client.req? = some req := by
  cases ht with
  | mismatched hpc => rw [hpc]; rfl
  | expired hpc => rw [hpc]; rfl

/-- What holds between any two steps: every request is answered at most once, and a queued or
outstanding response belongs to the request being waited for or to a call that is over. -/
structure Inv (s : State) : Prop where
  sentQueued : ∀ r ∈ s.responses, r.req < s.commands
  sentUnanswered : ∀ req ∈ s.unanswered, req < s.commands
  sentClient : ∀ req, s.client.req? = some req → req < s.commands
  distinct : (s.responses.map Response.req ++ s.unanswered).Nodup
  header : ∀ r ∈ s.responses, r.header.command = .Bridge_Response ∧
    r.header.pHandle = uid r.req
  queued : ∀ r ∈ s.responses, r.req ∈ s.ended ∨ s.client.req? = some r.req
  unanswered : ∀ req ∈ s.unanswered, req ∈ s.ended ∨ s.client.req? = some req
  wait : ∀ req w, s.client.wait? = some (req, w) → w.IsFor req

theorem inv_start : Inv start where
  sentQueued := fun _ h => nomatch h
  sentUnanswered := fun _ h => nomatch h
  sentClient := fun _ h => nomatch h
  distinct := List.nodup_nil
  header := fun _ h => nomatch h
  queued := fun _ h => nomatch h
  unanswered := fun _ h => nomatch h
  wait := fun _ _ h => nomatch h

namespace Inv

variable {o : Options} {s s' : State}

/-- Moving on inside a call keeps the invariant. -/
theorem goOn (h : Inv s) (req : Nat) (pc : ClientPC) (hreq : s.client.req? = some req)
    (hpc : pc.req? = some req) (hwait : ∀ req w, pc.wait? = some (req, w) → w.IsFor req) :
    Inv { s with client := pc } where
  sentQueued := h.sentQueued
  sentUnanswered := h.sentUnanswered
  sentClient := fun r hr => h.sentClient r (by rwa [hreq, ← hpc])
  distinct := h.distinct
  header := h.header
  queued := by rw [hpc, ← hreq]; exact h.queued
  unanswered := by rw [hpc, ← hreq]; exact h.unanswered
  wait := hwait

/-- Ending a call keeps the invariant when its request, if it had one, goes into `ended`. -/
theorem finish (h : Inv s) (pc : ClientPC) (ended : List Nat) (hpc : pc.req? = none)
    (hwait : pc.wait? = none)
    (hover : ∀ req, req ∈ s.ended ∨ s.client.req? = some req → req ∈ ended) :
    Inv { s with client := pc, ended := ended } where
  sentQueued := h.sentQueued
  sentUnanswered := h.sentUnanswered
  sentClient := by rw [hpc]; exact fun _ h => nomatch h
  distinct := h.distinct
  header := h.header
  queued := fun r hr => .inl (hover _ (h.queued r hr))
  unanswered := fun req hr => .inl (hover _ (h.unanswered req hr))
  wait := by rw [hwait]; exact fun _ _ h => nomatch h

theorem request (h : Inv s) (hidle : s.client = .idle) :
    Inv { s with
      commands := s.commands + 1
      client := .sent s.commands
      unanswered := s.unanswered ++ [s.commands] } where
  sentQueued := fun r hr => Nat.lt_succ_of_lt (h.sentQueued r hr)
  sentUnanswered := by
    intro req hr
    rcases List.mem_append.mp hr with hr | hr
    · exact Nat.lt_succ_of_lt (h.sentUnanswered req hr)
    · rw [List.mem_singleton.mp hr]
      exact Nat.lt_succ_self _
  sentClient := by
    intro req hr
    cases hr
    exact Nat.lt_succ_self _
  distinct := by
    have hnew : s.commands ∉ s.responses.map Response.req ++ s.unanswered := by
      intro hmem
      rcases List.mem_append.mp hmem with hmem | hmem
      · obtain ⟨r, hr, he⟩ := List.mem_map.mp hmem
        exact Nat.lt_irrefl _ (he ▸ h.sentQueued r hr)
      · exact Nat.lt_irrefl _ (h.sentUnanswered _ hmem)
    rw [← List.append_assoc]
    exact (List.perm_append_singleton _ _).nodup_iff.mpr (List.nodup_cons.mpr ⟨hnew, h.distinct⟩)
  header := h.header
  queued := fun r hr => .inl ((h.queued r hr).resolve_right (by rw [hidle]; nofun))
  unanswered := by
    intro req hr
    rcases List.mem_append.mp hr with hr | hr
    · exact .inl ((h.unanswered req hr).resolve_right (by rw [hidle]; nofun))
    · rw [List.mem_singleton.mp hr]
      exact .inr rfl
  wait := fun _ _ h => nomatch h

theorem respond (h : Inv s) {req : Nat} (hreq : req ∈ s.unanswered) (dataOffset : Nat) :
    Inv { s with
      unanswered := s.unanswered.erase req
      responses := s.responses ++ [⟨req, ⟨.Bridge_Response, 0, dataOffset, uid req⟩⟩] } where
  sentQueued := by
    intro r hr
    rcases List.mem_append.mp hr with hr | hr
    · exact h.sentQueued r hr
    · rw [List.mem_singleton.mp hr]
      exact h.sentUnanswered req hreq
  sentUnanswered := fun req' hr => h.sentUnanswered req' (List.mem_of_mem_erase hr)
  sentClient := h.sentClient
  distinct := by
    refine (List.Perm.nodup_iff ?_).mp h.distinct
    rw [List.map_append, List.append_assoc]
    exact List.Perm.append_left _ (List.perm_cons_erase hreq)
  header := by
    intro r hr
    rcases List.mem_append.mp hr with hr | hr
    · exact h.header r hr
    · rw [List.mem_singleton.mp hr]
      exact ⟨rfl, rfl⟩
  queued := by
    intro r hr
    rcases List.mem_append.mp hr with hr | hr
    · exact h.queued r hr
    · rw [List.mem_singleton.mp hr]
      exact h.unanswered req hreq
  unanswered := fun req' hr => h.unanswered req' (List.mem_of_mem_erase hr)
  wait := h.wait

/-- Taking the front response off the queue keeps the invariant. -/
theorem tail (h : Inv s) : Inv { s with responses := s.responses.tail } where
  sentQueued := fun r hr => h.sentQueued r (List.mem_of_mem_tail hr)
  sentUnanswered := h.sentUnanswered
  sentClient := h.sentClient
  distinct := h.distinct.sublist
    (((List.tail_sublist _).map Response.req).append (List.Sublist.refl _))
  header := fun r hr => h.header r (List.mem_of_mem_tail hr)
  queued := fun r hr => h.queued r (List.mem_of_mem_tail hr)
  unanswered := h.unanswered
  wait := h.wait

theorem testOf (h : Inv s) {req : Nat} {w : Wait} (ht : TestOf o s req w) : w.IsFor req := by
  cases ht with
  | mismatched hpc => exact h.wait req w (by rw [hpc]; rfl)
  | @expired w hpc => exact (h.wait req w (by rw [hpc]; rfl)).afterTimeout o _

/-- The request of an ended call is over, and so is every one that was before. -/
theorem over_of_ended {req : Nat} (hreq : s.client.req? = some req) (r : Nat)
    (hr : r ∈ s.ended ∨ s.client.req? = some r) : r ∈ req :: s.ended := by
  rcases hr with hr | hr
  · exact List.mem_cons_of_mem _ hr
  · rw [hreq] at hr
    cases hr
    exact List.mem_cons_self

/-- **The step lemma.**  Every step of the client and of the server keeps the invariant. -/
theorem step (h : Inv s) {a : Act} (hs : step o s a = some s') : Inv s' := by
  cases move_of_step hs with
  | send hpc =>
      exact { h with
        sentQueued := fun r hr => Nat.lt_succ_of_lt (h.sentQueued r hr)
        sentUnanswered := fun r hr => Nat.lt_succ_of_lt (h.sentUnanswered r hr)
        sentClient := fun r hr => Nat.lt_succ_of_lt (h.sentClient r hr) }
  | request hpc => exact h.request hpc
  | @wait req hpc =>
      refine h.goOn req _ (by rw [hpc]; rfl) rfl fun r w e => ?_
      cases e
      exact ⟨rfl, rfl, rfl⟩
  | @found req w r rest hpc hq ha =>
      exact h.goOn req _ (by rw [hpc]; rfl) rfl fun _ _ h => nomatch h
  | @mismatch req w r rest hpc hq ha =>
      refine h.goOn req _ (by rw [hpc]; rfl) rfl fun r w' e => ?_
      cases e
      exact h.wait req w (by rw [hpc]; rfl)
  | @expire req w hpc hq =>
      refine h.goOn req _ (by rw [hpc]; rfl) rfl fun r w' e => ?_
      cases e
      exact h.wait req w (by rw [hpc]; rfl)
  | @retry req w bEarlyOut ht hk =>
      refine h.goOn req _ ht.req? rfl fun r w' e => ?_
      cases e
      exact (h.testOf ht : w.IsFor req)
  | giveUp ht hk => exact h.finish _ _ rfl rfl (over_of_ended ht.req?)
  | pop hpc => exact h.tail.finish _ _ rfl rfl (over_of_ended (by rw [hpc]; rfl))
  | fail hpc hr =>
      refine h.finish _ s.ended rfl rfl fun r hr' => hr'.resolve_right ?_
      rw [hpc, req?_returned_of_ne hr]
      nofun
  | respond hreq dataOffset => exact h.respond hreq dataOffset
  | setInfiniteRetries b => exact { h with }
  | setRunning b => exact { h with }

end Inv

theorem inv_run {o : Options} {acts : List Act} {s : State}
    (h : run (step o) start acts = some s) : Inv s :=
  run_inv (fun _ _ _ hI hs => hI.step hs) inv_start h

/-! ### When a published response is received -/

/-- The response a wait is for is in the queue. -/
def Published (s : State) (w : Wait) : Prop :=
  ∃ r ∈ s.responses, r.header.command = w.command ∧ r.header.pHandle = w.uidToVerify

/-- The wait, about to look at the queue, returns `Success`. -/
def Receives (o : Options) (s : State) (req : Nat) : Prop :=
  ∃ s', step o s .peek = some s' ∧ s'.client = .returned req .Success

/-- The responses ahead of the first one that the wait accepts. -/
def ahead (s : State) (w : Wait) : List Response :=
  s.responses.takeWhile fun r => !w.accepts r.header

/-- A step that strands no response: the server answers no call that is over, and a wait does not
give up on a response published since its last look. -/
def Prompt (o : Options) (s : State) : Act → Prop
  | .respond req _ => req ∉ s.ended
  | .loopTest bEarlyOut => ∀ req w, s.client = .expired req w →
      (w.afterTimeout o s.infiniteRetries).keepsTrying s.gbBridgeRunning bEarlyOut = false →
      ∀ r ∈ s.responses, r.req ≠ req
  | _ => True

instance (o : Options) (s : State) (a : Act) : Decidable (Prompt o s a) :=
  match a with
  | .respond req _ => inferInstanceAs (Decidable (req ∉ s.ended))
  | .loopTest bEarlyOut =>
      match hpc : s.client with
      | .expired req w =>
          decidable_of_iff ((w.afterTimeout o s.infiniteRetries).keepsTrying s.gbBridgeRunning
              bEarlyOut = false → ∀ r ∈ s.responses, r.req ≠ req)
            ⟨fun h req' w' hpc' => by rw [hpc] at hpc'; cases hpc'; exact h, fun h => h req w hpc⟩
      | .idle | .sent _ | .looking _ _ | .mismatched _ _ | .returned _ _ =>
          .isTrue fun req w hpc' => by rw [hpc] at hpc'; cases hpc'
  | .send | .request | .wait | .peek | .finish | .setInfiniteRetries _ | .setRunning _ =>
      .isTrue trivial

/-- Every queued response is the one the call in progress is for, and no wait has seen another. -/
structure Clean (s : State) : Prop where
  own : ∀ r ∈ s.responses, s.client.req? = some r.req
  matched : ∀ req w, s.client ≠ .mismatched req w

/-- A wait accepts the response to its own request. -/
theorem Wait.IsFor.accepts {w : Wait} {req : Nat} (hw : w.IsFor req) {h : Header}
    (hc : h.command = .Bridge_Response) (hu : h.pHandle = uid req) : w.accepts h = true := by
  obtain ⟨h₁, h₂, h₃⟩ := hw
  simp [Wait.accepts, h₁, h₂, h₃, hc, hu]

theorem Wait.IsFor.pHandle_of_accepts {w : Wait} {req : Nat} (hw : w.IsFor req) {h : Header}
    (ha : w.accepts h = true) : h.pHandle = uid req := by
  obtain ⟨h₁, h₂, h₃⟩ := hw
  simp only [Wait.accepts, h₁, h₂, h₃, Bool.not_true, Bool.false_or, Bool.or_eq_true,
    Bool.and_eq_true, beq_iff_eq] at ha
  rcases ha with ha | ⟨-, ha⟩
  · cases ha
  · exact ha

theorem Inv.accepts_own {s : State} (hI : Inv s) {req : Nat} {w : Wait}
    (hpc : s.client = .looking req w) {r : Response} (hr : r ∈ s.responses) (e : r.req = req) :
    w.accepts r.header = true := by
  have hw : w.IsFor req := hI.wait req w (by rw [hpc]; rfl)
  obtain ⟨hc, hu⟩ := hI.header r hr
  exact hw.accepts hc (e ▸ hu)

theorem receives_of_front {o : Options} {s : State} {req : Nat} {w : Wait} {r : Response}
    {rest : List Response} (hpc : s.client = .looking req w) (hq : s.responses = r :: rest)
    (ha : w.accepts r.header = true) : Receives o s req := by
  refine ⟨{ s with client := .returned req .Success }, ?_, rfl⟩
  simp only [step, hpc, State.peek, hq, ha, if_true]

theorem front_of_receives {o : Options} {s : State} {req : Nat} {w : Wait}
    (hpc : s.client = .looking req w) (h : Receives o s req) :
    ∃ r rest, s.responses = r :: rest ∧ w.accepts r.header = true := by
  obtain ⟨s', hs, hr⟩ := h
  simp only [step, hpc, State.peek] at hs
  split at hs
  · rename_i r rest hq
    split at hs <;> cases hs
    · exact ⟨r, rest, hq, ‹_›⟩
    · cases hr
  · split at hs <;> cases hs
    cases hr

namespace Clean

variable {o : Options} {s s' : State}

/-- Outside a call the queue is empty. -/
theorem empty (h : Clean s) (hnone : s.client.req? = none) : s.responses = [] := by
  cases hq : s.responses with
  | nil => rfl
  | cons r rest =>
      have := h.own r (by rw [hq]; exact List.mem_cons_self)
      rw [hnone] at this
      cases this

theorem of_empty (hq : s.responses = []) (hm : ∀ req w, s.client ≠ .mismatched req w) :
    Clean s where
  own := by
    rw [hq]
    exact fun _ h => nomatch h
  matched := hm

/-- Popping the response of the call in progress leaves an empty queue. -/
theorem tail (hI : Inv s) (h : Clean s) : s.responses.tail = [] := by
  cases hq : s.responses with
  | nil => rfl
  | cons r rest =>
      cases hrest : rest with
      | nil => rfl
      | cons r' rest' =>
          have h₁ := h.own r (by simp [hq])
          have h₂ := h.own r' (by simp [hq, hrest])
          have heq : r.req = r'.req := Option.some.inj (h₁.symm.trans h₂)
          have hd := hI.distinct
          rw [hq, hrest] at hd
          simp [heq] at hd

/-- Moving on inside a call leaves the queue clean. -/
theorem goOn (h : Clean s) (req : Nat) {pc : ClientPC} (hreq : s.client.req? = some req)
    (hpc : pc.req? = some req) (hm : ∀ req w, pc ≠ .mismatched req w) :
    Clean { s with client := pc } where
  own := by rw [hpc, ← hreq]; exact h.own
  matched := hm

/-- **A prompt step leaves the queue clean.** -/
theorem step (hI : Inv s) (h : Clean s) {a : Act} (hp : Prompt o s a)
    (hs : step o s a = some s') : Clean s' := by
  cases move_of_step hs with
  | send hpc => exact ⟨h.own, h.matched⟩
  | request hpc => exact of_empty (h.empty (by rw [hpc]; rfl)) fun _ _ h => nomatch h
  | @wait req hpc => exact h.goOn req (by rw [hpc]; rfl) rfl fun _ _ h => nomatch h
  | @found req w r rest hpc hq ha => exact h.goOn req (by rw [hpc]; rfl) rfl fun _ _ h => nomatch h
  | @mismatch req w r rest hpc hq ha =>
      -- the front response is this call's own
      have hr : r ∈ s.responses := by
        rw [hq]
        exact List.mem_cons_self
      have hown := h.own r hr
      rw [hpc] at hown
      rw [hI.accepts_own hpc hr (Option.some.inj hown).symm] at ha
      cases ha
  | @expire req w hpc hq => exact h.goOn req (by rw [hpc]; rfl) rfl fun _ _ h => nomatch h
  | retry ht hk => exact h.goOn _ ht.req? rfl fun _ _ h => nomatch h
  | @giveUp req w bEarlyOut ht hk =>
      cases ht with
      | mismatched hpc => exact absurd hpc (h.matched _ _)
      | @expired w hpc =>
          refine ⟨fun r hr => ?_, fun _ _ h => nomatch h⟩
          have hown := h.own r hr
          rw [hpc] at hown
          exact absurd (Option.some.inj hown).symm (hp req w hpc hk r hr)
  | pop hpc => exact of_empty (h.tail hI) fun _ _ h => nomatch h
  | fail hpc hr =>
      exact of_empty (h.empty (by rw [hpc, req?_returned_of_ne hr])) fun _ _ h => nomatch h
  | respond hreq dataOffset =>
      refine ⟨fun r hr => ?_, h.matched⟩
      rcases List.mem_append.mp hr with hr | hr
      · exact h.own r hr
      · rw [List.mem_singleton.mp hr]
        exact (hI.unanswered _ hreq).resolve_left hp
  | setInfiniteRetries b => exact ⟨h.own, h.matched⟩
  | setRunning b => exact ⟨h.own, h.matched⟩

end Clean

theorem clean_start : Clean start := ⟨(fun _ h => nomatch h), fun _ _ h => nomatch h⟩

/-- In every run of prompt steps the queue is clean. -/
theorem clean_run {o : Options} {acts : List Act} {s : State}
    (hp : Along (step o) (Prompt o) start acts) (h : run (step o) start acts = some s) :
    Inv s ∧ Clean s :=
  run_inv_along (I := fun s => Inv s ∧ Clean s)
    (fun _ _ _ hI hc hs => ⟨hI.1.step hs, hI.2.step hI.1 hc hs⟩) ⟨inv_start, clean_start⟩ hp h

/-! ### A foreign response at the front -/

/-- The call on `req` will not receive its response: its wait has a foreign response at the front
of the queue, or it has ended. -/
structure Blocked (req : Nat) (s : State) : Prop where
  old : req < s.commands
  pc : s.client.req? ≠ some req ∨
    ∃ w r rest, s.client.wait? = some (req, w) ∧ w.IsFor req ∧ s.responses = r :: rest ∧
      r.header.pHandle ≠ uid req

namespace Blocked

variable {o : Options} {s s' : State} {req : Nat}

theorem ne_success (h : Blocked req s) : s.client ≠ .returned req .Success := by
  intro hpc
  rcases h.pc with hne | ⟨w, r, rest, hw, -⟩
  · exact hne (by rw [hpc]; rfl)
  · rw [hpc] at hw
    cases hw

/-- Only `request` starts a call, and it numbers it afresh. -/
theorem step_of_ended {a : Act} (hold : req < s.commands) (hne : s.client.req? ≠ some req)
    (hs : step o s a = some s') : Blocked req s' := by
  cases move_of_step hs with
  | send hpc => exact ⟨Nat.lt_succ_of_lt hold, .inl hne⟩
  | request hpc =>
      refine ⟨Nat.lt_succ_of_lt hold, .inl fun e => ?_⟩
      cases e
      exact Nat.lt_irrefl _ hold
  | wait hpc => exact ⟨hold, .inl (by rwa [hpc] at hne)⟩
  | found hpc hq ha => exact ⟨hold, .inl (by rwa [hpc] at hne)⟩
  | mismatch hpc hq ha => exact ⟨hold, .inl (by rwa [hpc] at hne)⟩
  | expire hpc hq => exact ⟨hold, .inl (by rwa [hpc] at hne)⟩
  | retry ht hk => exact ⟨hold, .inl (by rwa [ht.req?] at hne)⟩
  | giveUp ht hk => exact ⟨hold, .inl nofun⟩
  | pop hpc => exact ⟨hold, .inl nofun⟩
  | fail hpc hr => exact ⟨hold, .inl nofun⟩
  | respond hreq dataOffset => exact ⟨hold, .inl hne⟩
  | setInfiniteRetries b => exact ⟨hold, .inl hne⟩
  | setRunning b => exact ⟨hold, .inl hne⟩

/-- Nothing but this call's own success would take the front response off. -/
theorem step_of_front {a : Act} (hold : req < s.commands) {w : Wait} {r : Response}
    {rest : List Response} (hw : s.client.wait? = some (req, w)) (hfor : w.IsFor req)
    (hq : s.responses = r :: rest) (hr : r.header.pHandle ≠ uid req)
    (hs : step o s a = some s') : Blocked req s' := by
  cases move_of_step hs with
  | send hpc => rw [hpc] at hw; cases hw
  | request hpc => rw [hpc] at hw; cases hw
  | wait hpc => rw [hpc] at hw; cases hw
  | found hpc hq' ha =>
      rw [hpc] at hw
      cases hw
      rw [hq] at hq'
      cases hq'
      exact absurd (hfor.pHandle_of_accepts ha) hr
  | mismatch hpc hq' ha =>
      rw [hpc] at hw
      cases hw
      exact ⟨hold, .inr ⟨w, r, rest, rfl, hfor, hq, hr⟩⟩
  | expire hpc hq' => rw [hq] at hq'; cases hq'
  | @retry req' w' bEarlyOut ht hk =>
      obtain ⟨rfl, hfor'⟩ : req' = req ∧ w'.IsFor req := by
        cases ht with
        | mismatched hpc =>
            rw [hpc] at hw
            cases hw
            exact ⟨rfl, hfor⟩
        | expired hpc =>
            rw [hpc] at hw
            cases hw
            exact ⟨rfl, hfor.afterTimeout o _⟩
      exact ⟨hold, .inr ⟨_, r, rest, rfl, hfor', hq, hr⟩⟩
  | giveUp ht hk => exact ⟨hold, .inl nofun⟩
  | pop hpc => rw [hpc] at hw; cases hw
  | fail hpc hr' => rw [hpc] at hw; cases hw
  | respond hreq dataOffset =>
      exact ⟨hold, .inr ⟨w, r, _, hw, hfor, by rw [hq]; rfl, hr⟩⟩
  | setInfiniteRetries b => exact ⟨hold, .inr ⟨w, r, rest, hw, hfor, hq, hr⟩⟩
  | setRunning b => exact ⟨hold, .inr ⟨w, r, rest, hw, hfor, hq, hr⟩⟩

theorem step {a : Act} (h : Blocked req s) (hs : step o s a = some s') : Blocked req s' := by
  rcases h.pc with hne | ⟨w, r, rest, hw, hfor, hq, hr⟩
  · exact step_of_ended h.old hne hs
  · exact step_of_front h.old hw hfor hq hr hs

end Blocked

/-- **When the wait recovers.**  A wait whose response is in the queue receives it exactly when no
response ahead of it belongs to a call that is over; and it does so in every run in which no
response is stranded. -/
theorem wait_recovers (o : Options) (acts : List Act) (s : State)
    (h : run (step o) start acts = some s) (req : Nat) (w : Wait)
    (hpc : s.client = .looking req w) (hpub : Published s w) :
    (Receives o s req ↔ ∀ r ∈ ahead s w, r.req ∉ s.ended) ∧
    (¬ Receives o s req → ∀ more s', run (step o) s more = some s' →
      s'.client ≠ .returned req .Success) ∧
    (Along (step o) (Prompt o) start acts → Receives o s req) := by
  have hI : Inv s := inv_run h
  have hw : w.IsFor req := hI.wait req w (by rw [hpc]; rfl)
  obtain ⟨r₀, hr₀, -⟩ := hpub
  obtain ⟨r, rest, hq⟩ := List.exists_cons_of_ne_nil (List.ne_nil_of_mem hr₀)
  have hr : r ∈ s.responses := by
    rw [hq]
    exact List.mem_cons_self
  have hfront : ¬ Receives o s req → w.accepts r.header = false := fun hno =>
    Bool.eq_false_iff.mpr fun ha => hno (receives_of_front hpc hq ha)
  refine ⟨⟨fun hrec => ?_, fun hah => ?_⟩, fun hno more s' hrun => ?_, fun hp => ?_⟩
  · obtain ⟨r', rest', hq', ha⟩ := front_of_receives hpc hrec
    simp [ahead, hq', ha]
  · by_contra hno
    have hmem : r ∈ ahead s w := by simp [ahead, hq, hfront hno]
    -- not accepted, so not the response of this call
    refine (hI.queued r hr).elim (hah r hmem) fun hown => ?_
    rw [hpc] at hown
    exact hno (receives_of_front hpc hq (hI.accepts_own hpc hr (Option.some.inj hown).symm))
  · have hb : Blocked req s :=
      { old := hI.sentClient req (by rw [hpc]; rfl)
        pc := .inr ⟨w, r, rest, by rw [hpc]; rfl, hw, hq, fun hu =>
          absurd (hw.accepts (hI.header r hr).1 hu) (by rw [hfront hno]; nofun)⟩ }
    exact (run_inv (I := Blocked req) (fun _ _ _ hI hs => hI.step hs) hb hrun).ne_success
  · have hown := (clean_run hp h).2.own r hr
    rw [hpc] at hown
    exact receives_of_front hpc hq (hI.accepts_own hpc hr (Option.some.inj hown).symm)

/-- The options of the runs below. -/
def quick : Options := ⟨100, 100, 0, false⟩

/-- A call whose wait looks twice, a command nobody waits for, and a call that retries for as long
as it takes; its response has come after the third look. -/
def retrying : List Act :=
  [.request, .wait, .peek, .loopTest false, .respond 0 8, .peek, .finish, .send,
    .setInfiniteRetries true, .request, .wait, .peek, .loopTest false, .peek, .loopTest false, .peek,
    .loopTest false, .respond 2 16]

/-- It is received. -/
theorem wait_recovers_retried : ∃ s, run (step quick) start retrying = some s ∧
    s.ended = [0] ∧ Receives quick s 2 := by
  have h : run (step quick) start retrying = some _ := rfl
  have hprompt : Along (step quick) (Prompt quick) start retrying := by decide +kernel
  exact ⟨_, h, rfl,
    (wait_recovers quick _ _ h 2 _ rfl ⟨_, List.mem_cons_self, rfl, rfl⟩).2.2 hprompt⟩

/-- **A late response blocks the next call.**  The wait on request 0 times out and its response
comes after; the response to request 1 is published, and the wait for it is refused. -/
theorem wait_not_recovers :
    ¬ ∀ (o : Options) (acts : List Act) (s : State), run (step o) start acts = some s →
      ∀ (req : Nat) (w : Wait), s.client = .looking req w → Published s w → Receives o s req := by
  intro hclaim
  have h : run (step quick) start [.request, .wait, .peek, .loopTest false, .peek, .loopTest false,
      .finish, .respond 0 0, .request, .respond 1 0, .wait] = some _ := rfl
  obtain ⟨r, rest, hq, ha⟩ := front_of_receives rfl
    (hclaim quick _ _ h 1 _ rfl ⟨_, List.mem_cons_of_mem _ List.mem_cons_self, rfl, rfl⟩)
  cases hq
  cases ha

end RemixBridge.WaitForCommand
