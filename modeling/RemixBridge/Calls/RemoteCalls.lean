import RemixBridge.Calls.WireAgreement
import RemixBridge.Channel.Delivery

/-!
# Calls — RemoteCalls

The calls of the client over the whole channel of the device.  A `Command` sends what its call
carries over the data ring, push by push, and its header over the command queue; the server takes
the headers one after the other, and for each makes the call that its switch pulls off the ring
(`ProcessDeviceCommandQueue`).  The two processes go on in any order, as in `Delivery`, and the
command queue takes every header (`AtomicCircularQueue`).

A turn of the server looks at the ring while the client goes on with its next commands, so that what
it makes of a header is asked of every state in which it is at it.

* `Turn.Wf.make`: a turn whose data are in the ring makes the client's call.
* `Inv`: where each of the client's calls is, and that the words of the turn are still there.
* `remote_calls`: the server makes the client's calls, each once and in their order.
-/

namespace RemixBridge.RemoteCalls
open Runs DataRing
open SyncDataQueue (ClientPC ServerPC)

/-- A call of the client, with the handle of the object that it is made on. -/
structure Call where
  call : DeviceQueueCall
  pHandle : Word

/-- What a turn of the server comes to: the call and the handle that it is made with, and
`CHECK_DATA_OFFSET`. -/
abbrev Made := Option (ServerCall × Nat × Bool)

namespace Call

def data (c : Call) : List Push := c.call.message.data

/-- The header, which its `Command` pushes at the end. -/
def header (c : Call) (m_pos : Nat) : Header := c.call.message.header m_pos c.pHandle.toNat

/-- What the server has to make of it. -/
def made (c : Call) : Made := some (c.call.received, c.pHandle.toNat, true)

/-- Where its data end that start at `a`. -/
def ends (N : RingSize) (a : Nat) (c : Call) : Nat :=
  pullsAbs N.size a ((dataOf c.data).map Datum.pull)

end Call

/-- A turn of the server's loop: its header, and where it pulls from.  `of` is history, the call
that the header is of. -/
structure Turn where
  rpcHeader : Header
  readPos : Nat
  of : Call

/-- What the turn makes of a memory. -/
def Turn.make (N : RingSize) (fuel : Nat) (t : Turn) (m_data : Memory) : Made :=
  serverTurn (ProcessDeviceCommandQueue fuel) N.size m_data t.readPos t.rpcHeader

/-- The data ring, the command queue and the two programs: `sending` is the call that the client is
in and `left` what it has yet to push for it, `turn` the last header that the server has taken.
`calls` is history: the calls that the headers are of. -/
structure State where
  data : Delivery.State
  sending : Option Call
  left : List Push
  headers : List Header
  turn : Option Turn
  calls : List Call

/-- The steps: a call, with the constructor of its `Command`, its next sender, its destructor, the
next access of the client, the end of its wait, and the next access of the server. -/
inductive Act where
  | call (c : Call)
  | send
  | done
  | client
  | wake
  | server

/-- The step on the data ring. -/
def Act.data (s : State) : Act → Option Delivery.Act
  | .call _ => some .begin
  | .send   => s.left.head?.map .send
  | .done   => if s.left = [] then some .done else none
  | .client => some .client
  | .wake   => some .wake
  | .server => some .server

/-- The server takes the next header. -/
def State.take (s : State) (data : Delivery.State) : State :=
  match s.data.sync.server, s.headers, s.calls with
  | .idle, rpcHeader :: headers, c :: calls =>
      { s with
        data, headers, calls
        turn := some ⟨rpcHeader, s.data.sync.ring.readPos, c⟩ }
  | _, _, _ => { s with data }

/-- What the step does besides. -/
def State.after (s : State) (data : Delivery.State) : Act → State
  | .call c => { s with data, sending := some c, left := c.data }
  | .send   => { s with data, left := s.left.tail }
  | .done   =>
      { s with
        data
        headers := s.headers ++ s.sending.toList.map fun c => c.header s.data.sync.ring.m_pos
        calls := s.calls ++ s.sending.toList }
  | .server => s.take data
  | _ => { s with data }

def step (N : RingSize) (s : State) (a : Act) : Option State :=
  (a.data s).bind fun b => (Delivery.step N s.data b).map fun data => s.after data a

def start (m_data : Memory) : State where
  data := Delivery.start m_data
  sending := none
  left := []
  headers := []
  turn := none
  calls := []

/-- A header that is pushed is a call sent, and a turn that comes to its end is what the server has
made of one. -/
def obs (N : RingSize) (fuel : Nat) (s : State) : Act → List (Mailbox.Event Made)
  | .done => s.sending.toList.map fun c => .put c.made
  | .server =>
      if s.data.sync.server = .pulling ∧ s.data.pulling = [] then
        s.turn.toList.map fun t => .taken (t.make N fuel s.data.m_data)
      else []
  | _ => []

/-- The calls that have been sent and whose turns are not over. -/
def State.waiting (s : State) : List Call :=
  (if s.data.sync.server = .pulling then s.turn.toList.map Turn.of else []) ++ s.calls

/-- A call that comes over (`WireAgreement`), with the loops of the server's switch bounded by
`fuel`. -/
def Call.Ok (fuel : Nat) (c : Call) : Prop := c.call.Sound ∧ c.call.turns < fuel

/-- What a step needs: the client overwrites nothing, and calls what comes over. -/
structure Orderly (N : RingSize) (fuel : Nat) (s : State) (a : Act) : Prop where
  sound : ∀ b, a.data s = some b → SyncDataQueue.Sound N s.data.sync b.sync
  call : ∀ c, a = .call c → c.Ok fuel

/-! ### One turn -/

/-- A turn whose data lie from `a` on. -/
structure Turn.Wf (N : RingSize) (fuel : Nat) (s : Delivery.State) (t : Turn) (a : Nat) : Prop where
  ok : t.of.Ok fuel
  readPos : t.readPos = a % N.size
  rpcHeader : t.rpcHeader = t.of.header (t.of.ends N a % N.size)
  fits : FitsLap N.size a t.of.data
  finished : s.sync.ring.fAbs ≤ a
  written : t.of.ends N a ≤ s.sync.ring.cAbs
  holds : Holds N.size s.m_data (a % N.size) (dataOf t.of.data) (t.of.ends N a % N.size)

/-- It makes the client's call. -/
theorem Turn.Wf.make {N : RingSize} {fuel : Nat} {s : Delivery.State} {t : Turn} {a : Nat}
    (h : t.Wf N fuel s a) : t.make N fuel s.m_data = t.of.made := by
  have hturn := agrees_iff.mpr (DeviceQueueCall.delivers h.ok.1 h.ok.2) N.size a s.m_data
    t.of.pHandle.toNat N.pos h.fits
  -- the memory is as the call's own pushes would leave it
  have hstore : store N.size s.m_data (a % N.size) t.of.call.message.data =
      (s.m_data, t.of.ends N a % N.size) := store_holds N.pos h.fits h.holds
  rw [hstore] at hturn
  rw [Turn.make, h.readPos, h.rpcHeader]
  exact hturn

/-! ### The steps of the channel -/

section Steps

variable {N : RingSize} {s s' : Delivery.State}

theorem step_begin (hs : Delivery.step N s .begin = some s') :
    s' = { s with
      sync := { s.sync with client := .building, ring := s.sync.ring.begin }, cur := [] } := by
  obtain ⟨sync, hsync, heff⟩ := Option.bind_eq_some_iff.mp hs
  cases heff
  cases SyncDataQueue.move_of_step hsync
  rfl

theorem step_send {p : Push} (hs : Delivery.step N s (.send p) = some s') :
    s.sync.client = .building ∧
      s' = { s with sync := { s.sync with client := .item p.item }, pushing := p } := by
  obtain ⟨sync, hsync, heff⟩ := Option.bind_eq_some_iff.mp hs
  cases heff
  cases SyncDataQueue.move_of_step hsync with
  | send hc => exact ⟨hc, rfl⟩

theorem step_done (hs : Delivery.step N s .done = some s') :
    s.sync.client = .building ∧
      s' = { s with
        sync := { s.sync with client := .idle, ring := s.sync.ring.done }
        commands := s.commands ++ [s.cur] } := by
  obtain ⟨sync, hsync, heff⟩ := Option.bind_eq_some_iff.mp hs
  cases heff
  cases SyncDataQueue.move_of_step hsync with
  | done hc => exact ⟨hc, rfl⟩

end Steps

/-! ### The invariant -/

/-- The headers of calls whose data start at `a`. -/
def headersFrom (N : RingSize) : Nat → List Call → List Header
  | _, []      => []
  | a, c :: cs => c.header (c.ends N a % N.size) :: headersFrom N (c.ends N a) cs

theorem headersFrom_append (N : RingSize) (a : Nat) (cs : List Call) (c : Call) :
    headersFrom N a (cs ++ [c]) =
      headersFrom N a cs ++ [c.header (c.ends N (cs.foldl (Call.ends N) a) % N.size)] := by
  induction cs generalizing a with
  | nil => rfl
  | cons d cs ih =>
      rw [List.cons_append, headersFrom, ih, headersFrom, List.cons_append, List.foldl_cons]

theorem ends_foldl (N : RingSize) (a : Nat) (cs : List Call) :
    pullsAbs N.size a (((cs.map Call.data).flatMap dataOf).map Datum.pull) =
      cs.foldl (Call.ends N) a := by
  induction cs generalizing a with
  | nil => rfl
  | cons c cs ih =>
      rw [List.map_cons, List.flatMap_cons, List.map_append, pullsAbs_append, ih, List.foldl_cons,
        Call.ends]

/-- Where the server is when it has pulled what it has begun to pull. -/
def next (N : RingSize) (s : Delivery.State) : Nat :=
  pullsAbs N.size s.sync.ring.rAbs (s.pulling.map Datum.pull)

structure Inv (N : RingSize) (fuel : Nat) (s : State) : Prop where
  data : Delivery.Inv N s.data
  ok : ∀ c ∈ s.sending.toList ++ s.calls, c.Ok fuel
  building : s.data.sync.client = .building →
    ∃ c, s.sending = some c ∧ s.data.cur ++ s.left = c.data
  held : ∀ it, s.data.sync.client.held = some it →
    ∃ c, s.sending = some c ∧ s.data.cur ++ s.data.pushing :: s.left = c.data
  commands : s.data.commands = s.calls.map Call.data
  headers : s.headers = headersFrom N (next N s.data) s.calls
  turn : s.data.sync.server = .pulling → ∃ t a, s.turn = some t ∧ t.Wf N fuel s.data a

theorem inv_start (N : RingSize) (fuel : Nat) (m_data : Memory) : Inv N fuel (start m_data) where
  data := Delivery.inv_start N m_data
  ok := nofun
  building := nofun
  held := nofun
  commands := rfl
  headers := rfl
  turn := nofun

variable {N : RingSize} {fuel : Nat} {s s' : State}

/-- What the server is yet to make. -/
def State.mail (s : State) : List Made := s.waiting.map Call.made

/-- The step shows what a mailbox shows that goes from the one state's calls to the other's. -/
def Matched (N : RingSize) (fuel : Nat) (s : State) (a : Act) (s' : State) : Prop :=
  ∃ bs, run Mailbox.step s.mail bs = some s'.mail ∧
    trace Mailbox.step Mailbox.obs s.mail bs = obs N fuel s a

theorem Matched.silent {a : Act} (hobs : obs N fuel s a = []) (hwaiting : s'.waiting = s.waiting) :
    Matched N fuel s a s' := by
  refine ⟨[], ?_, hobs.symm⟩
  rw [run_nil, State.mail, State.mail, hwaiting]

theorem Turn.Wf.frame {d d' : Delivery.State} {t : Turn} {a : Nat} (h : t.Wf N fuel d a)
    (hmem : d'.m_data = d.m_data) (hf : d'.sync.ring.fAbs = d.sync.ring.fAbs)
    (hc : d'.sync.ring.cAbs = d.sync.ring.cAbs) : t.Wf N fuel d' a :=
  { h with
    finished := hf ▸ h.finished
    written := hc ▸ h.written
    holds := hmem ▸ h.holds }

/-- Where the client or the server goes on, and no call is sent or taken. -/
theorem Inv.frame (h : Inv N fuel s) {data : Delivery.State} (hdata : Delivery.Inv N data)
    (hcommands : data.commands = s.data.commands) (hnext : next N data = next N s.data)
    (hbuilding : data.sync.client = .building →
      ∃ c, s.sending = some c ∧ data.cur ++ s.left = c.data)
    (hheld : ∀ it, data.sync.client.held = some it →
      ∃ c, s.sending = some c ∧ data.cur ++ data.pushing :: s.left = c.data)
    (hturn : data.sync.server = .pulling → s.data.sync.server = .pulling ∧
      ∀ (t : Turn) (a : Nat), t.Wf N fuel s.data a → t.Wf N fuel data a) :
    Inv N fuel { s with data } where
  data := hdata
  ok := h.ok
  building := hbuilding
  held := hheld
  commands := hcommands.trans h.commands
  headers := h.headers.trans (congrArg (headersFrom N · s.calls) hnext.symm)
  turn hserver := by
    obtain ⟨hold, hwf⟩ := hturn hserver
    obtain ⟨t, a, ht, hw⟩ := h.turn hold
    exact ⟨t, a, ht, hwf t a hw⟩

/-- The client's push leaves the words of the turn. -/
theorem Turn.Wf.push {d : Delivery.State} {t : Turn} {a : Nat} {it : Item} (h : t.Wf N fuel d a)
    (hd : Delivery.Inv N d) (hc : d.sync.client = .write it)
    (hf : SyncDataQueue.FitsRing N d.sync.ring it) {cur : List Push} :
    t.Wf N fuel { d with
      sync := { d.sync with client := .building, ring := d.sync.ring.push N it }
      m_data := d.pushing.store N.size d.m_data d.sync.ring.m_pos
      cur := cur } a := by
  refine { h with written := h.written.trans (le_pullsAbs N.pos _ _), holds := ?_ }
  -- they are behind the writer, and not published as free before the turn is over
  refine Delivery.holds_congr N.pos (fun size hs => (h.fits.data size hs).1)
    (fun x i hx hxe hi => ?_) h.holds
  exact hd.store_frame hc hf (h.finished.trans hx) (hxe.trans_le h.written) hi

/-- A step within a push. -/
theorem Inv.within (h : Inv N fuel s) {sync : SyncDataQueue.State}
    (hdata : Delivery.Inv N { s.data with sync := sync })
    (hw : Delivery.Within s.data.sync sync) :
    Inv N fuel { s with data := { s.data with sync := sync } } := by
  refine h.frame hdata rfl ?_ (fun hb => absurd hb hw.client)
    (fun it hit => h.held it (hw.held it hit)) fun hserver => ⟨hw.server ▸ hserver, ?_⟩
  · rw [next, next]
    rw [hw.ring]
  · intro t a ht
    exact ht.frame rfl (congrArg SyncDataQueue.Ring.fAbs hw.ring)
      (congrArg SyncDataQueue.Ring.cAbs hw.ring)

theorem waiting_within {sync : SyncDataQueue.State} (hw : Delivery.Within s.data.sync sync) :
    State.waiting { s with data := { s.data with sync := sync } } = s.waiting := by
  unfold State.waiting
  rw [← hw.server]

/-- The client's next access. -/
theorem Inv.client (h : Inv N fuel s) {data : Delivery.State}
    (hsound : SyncDataQueue.Sound N s.data.sync .client) (hdata : Delivery.Inv N data)
    (hs : Delivery.step N s.data .client = some data) :
    Matched N fuel s .client { s with data } ∧ Inv N fuel { s with data } := by
  obtain ⟨sync, hsync, heff⟩ := Option.bind_eq_some_iff.mp hs
  rcases Delivery.client_cases hsync heff with ⟨it, hc, rfl, rfl⟩ | ⟨rfl, hw⟩
  · obtain ⟨c, hsending, hleft⟩ := h.held it (congrArg ClientPC.held hc)
    refine ⟨.silent rfl rfl, h.frame hdata rfl rfl (fun _ => ⟨c, hsending, ?_⟩) (fun it hit => ?_)
      fun hserver => ⟨hserver, fun t a ht => ht.push h.data hc (hsound.2 it hc)⟩⟩
    · rw [← hleft]
      show (s.data.cur ++ [s.data.pushing]) ++ s.left = _
      rw [List.append_assoc, List.singleton_append]
    · cases hit
  · exact ⟨.silent rfl (waiting_within hw), h.within hdata hw⟩

/-- The destructor of a `Command`. -/
theorem Inv.done (h : Inv N fuel s) (hleft : s.left = [])
    (hbuilding : s.data.sync.client = .building)
    {data : Delivery.State} (hdata : Delivery.Inv N data)
    (heq : data = { s.data with
      sync := { s.data.sync with client := .idle, ring := s.data.sync.ring.done }
      commands := s.data.commands ++ [s.data.cur] }) :
    Matched N fuel s .done (s.after data .done) ∧ Inv N fuel (s.after data .done) := by
  obtain ⟨c, hsending, hcur⟩ := h.building hbuilding
  rw [hleft, List.append_nil] at hcur
  have hring := h.data.sync.ring
  have hopen : s.data.sync.ring.s_curBatchStartPos ≠ -1 :=
    h.data.sync.client.isOpen hbuilding (by decide)
  -- the call's data end where the writer is
  have hends : c.ends N (s.calls.foldl (Call.ends N) (next N s.data)) = s.data.sync.ring.cAbs := by
    have hpending := h.data.ends
    rw [Delivery.State.pending, Delivery.State.opened, if_neg hopen, h.commands, List.map_append,
      List.map_append, pullsAbs_append, pullsAbs_append, ends_foldl, hcur] at hpending
    exact hpending
  have hafter : s.after data .done =
      { s with
        data
        headers := s.headers ++ [c.header s.data.sync.ring.m_pos]
        calls := s.calls ++ [c] } := by
    rw [State.after, hsending]
    rfl
  rw [hafter]
  subst heq
  refine ⟨⟨[.put c.made], ?_, ?_⟩, hdata, fun d hd => ?_, fun hb => ?_, fun it hit => ?_, ?_, ?_,
    fun hserver => ?_⟩
  · simp only [run_cons, run_nil, Mailbox.step, State.mail, State.waiting, List.map_append,
      List.map_cons, List.map_nil, List.append_assoc, Option.some.injEq, exists_eq_left']
  · rw [obs, hsending]
    rfl
  · refine h.ok d ?_
    rw [hsending] at hd ⊢
    simp only [Option.toList_some, List.mem_append, List.mem_singleton] at hd ⊢
    rcases hd with hd | hd | hd
    · exact .inl hd
    · exact .inr hd
    · exact .inl hd
  · cases hb
  · cases hit
  · show s.data.commands ++ [s.data.cur] = _
    rw [h.commands, hcur, List.map_append]
    rfl
  · show s.headers ++ [c.header s.data.sync.ring.m_pos] =
      headersFrom N (next N s.data) (s.calls ++ [c])
    rw [headersFrom_append, hends, hring.m_pos, h.headers]
  · obtain ⟨t, a, ht, hw⟩ := h.turn hserver
    exact ⟨t, a, ht, hw.frame rfl rfl rfl⟩

theorem after_server (hserver : s.data.sync.server ≠ .idle) (data : Delivery.State) :
    s.after data .server = { s with data } := by
  show s.take data = _
  unfold State.take
  split
  · exact absurd ‹_› hserver
  · rfl

/-- The server takes the next header. -/
theorem Inv.take (h : Inv N fuel s) {ps : List Push} {cs : List (List Push)}
    {sync : SyncDataQueue.State} (hserver : s.data.sync.server = .idle)
    (hcs : s.data.commands = ps :: cs)
    (hring : sync.ring =
      s.data.sync.ring.popHeader (ps.map Push.item) (cs.map fun ps => ps.map Push.item))
    (server : sync.server = .pulling) (client : sync.client = s.data.sync.client)
    {data : Delivery.State} (hdata : Delivery.Inv N data)
    (heq : data =
      { s.data with sync := sync, commands := cs, pulling := dataOf ps, pulled := [] }) :
    Matched N fuel s .server (s.after data .server) ∧ Inv N fuel (s.after data .server) := by
  subst heq
  -- the front header is that of the front call, whose data are the next that the server pulls
  obtain ⟨c, calls, hcalls⟩ : ∃ c calls, s.calls = c :: calls := by
    have hcommands := h.commands
    rw [hcs] at hcommands
    exact List.exists_cons_of_ne_nil fun hnil => by
      rw [hnil] at hcommands
      cases hcommands
  have hcommands := h.commands
  rw [hcs, hcalls, List.map_cons] at hcommands
  obtain ⟨rfl, rfl⟩ := List.cons.inj hcommands
  have hold := h.data.sync.ring
  have hnot : s.data.sync.server ≠ .pulling := by
    rw [hserver]
    decide
  obtain ⟨hfits, hwritten, hholds⟩ := h.data.front hnot hcs
  have hheaders : s.headers = c.header (c.ends N s.data.sync.ring.rAbs % N.size) ::
      headersFrom N (c.ends N s.data.sync.ring.rAbs) calls := by
    rw [h.headers, hcalls, next, h.data.pulling_nil hnot]
    rfl
  have hafter : s.after
      { s.data with
        sync := sync, commands := calls.map Call.data, pulling := dataOf c.data, pulled := [] }
      .server =
      { s with
        data := { s.data with
          sync := sync, commands := calls.map Call.data, pulling := dataOf c.data, pulled := [] }
        headers := headersFrom N (c.ends N s.data.sync.ring.rAbs) calls
        turn := some ⟨c.header (c.ends N s.data.sync.ring.rAbs % N.size),
          s.data.sync.ring.readPos, c⟩
        calls := calls } := by
    simp only [State.after, State.take, hserver, hheaders, hcalls]
  have hok : ∀ d ∈ s.sending.toList ++ c :: calls, d.Ok fuel := hcalls ▸ h.ok
  rw [hafter]
  refine ⟨.silent (if_neg fun hp => hnot hp.1) ?_, hdata, fun d hd => hok d ?_, fun hb => ?_,
    fun it hit => ?_, rfl, ?_, fun _ => ⟨_, s.data.sync.ring.rAbs, rfl, ?_⟩⟩
  · rw [State.waiting, State.waiting, if_pos server, if_neg hnot, hcalls]
    rfl
  · rcases List.mem_append.mp hd with hd | hd
    · exact List.mem_append_left _ hd
    · exact List.mem_append_right _ (List.mem_cons_of_mem c hd)
  · exact h.building (client ▸ hb)
  · exact h.held it (client ▸ hit)
  · show headersFrom N _ calls = headersFrom N (pullsAbs N.size sync.ring.rAbs _) calls
    rw [hring]
    rfl
  · refine ⟨hok c (List.mem_append_right _ List.mem_cons_self), hold.readPos, rfl, hfits, ?_, ?_,
      hholds⟩
    · show sync.ring.fAbs ≤ _
      rw [hring]
      exact hold.finished
    · show _ ≤ sync.ring.cAbs
      rw [hring]
      exact hwritten

/-- The steps of the server. -/
theorem Inv.server (h : Inv N fuel s) {data : Delivery.State} (hdata : Delivery.Inv N data)
    (hs : Delivery.step N s.data .server = some data) :
    Matched N fuel s .server (s.after data .server) ∧ Inv N fuel (s.after data .server) := by
  obtain ⟨sync, hsync, heff⟩ := Option.bind_eq_some_iff.mp hs
  cases Delivery.server_cases h.data hsync heff with
  | take hserver hcs hring server client =>
      exact h.take hserver hcs hring server client hdata rfl
  | pull hserver hds hring server client =>
      rw [after_server (by rw [hserver]; decide)]
      refine ⟨.silent (if_neg fun hp => ?_) ?_, h.frame hdata rfl ?_ ?_ ?_ fun _ => ⟨hserver, ?_⟩⟩
      · cases hds.symm.trans hp.2
      · rw [State.waiting, State.waiting, if_pos server, if_pos hserver]
      · show pullsAbs N.size _ _ = pullsAbs N.size _ _
        rw [hring, hds]
        rfl
      · exact fun hb => h.building (client ▸ hb)
      · exact fun it hit => h.held it (client ▸ hit)
      · have hfinished := congrArg SyncDataQueue.Ring.fAbs hring
        have hwritten := congrArg SyncDataQueue.Ring.cAbs hring
        exact fun t a ht => ht.frame rfl hfinished hwritten
  | publish hserver hnone hring server client =>
      rw [after_server (by rw [hserver]; decide)]
      obtain ⟨t, a, ht, hwf⟩ := h.turn hserver
      -- the turn is over: its call is the one that has waited longest
      have hwaiting : s.waiting = t.of :: s.calls := by
        rw [State.waiting, if_pos hserver, ht]
        rfl
      have hthen : State.waiting { s with data := { s.data with sync := sync } } = s.calls := by
        show (if sync.server = .pulling then _ else []) ++ s.calls = s.calls
        rw [if_neg (by rw [server]; decide), List.nil_append]
      refine ⟨⟨[.take], ?_, ?_⟩, h.frame hdata rfl ?_ ?_ ?_ fun hp => ?_⟩
      · rw [State.mail, State.mail, hwaiting, hthen]
        rfl
      · rw [State.mail, hwaiting]
        unfold obs
        rw [if_pos ⟨hserver, hnone⟩, ht]
        show _ = [Mailbox.Event.taken (t.make N fuel s.data.m_data)]
        rw [hwf.make]
        rfl
      · rw [next, next, hring]
        rfl
      · exact fun hb => h.building (client ▸ hb)
      · exact fun it hit => h.held it (client ▸ hit)
      · cases server.symm.trans hp
  | rest hidle hpulling hring server client =>
      rw [after_server hidle]
      refine ⟨.silent (if_neg fun hp => hpulling hp.1) ?_, h.frame hdata rfl ?_ ?_ ?_
        fun hp => absurd hp server⟩
      · rw [State.waiting, State.waiting, if_neg server, if_neg hpulling]
      · rw [next, next, hring]
      · exact fun hb => h.building (client ▸ hb)
      · exact fun it hit => h.held it (client ▸ hit)

/-- **One step**: it shows what a mailbox of calls shows. -/
theorem step_mailbox {a : Act} (h : Inv N fuel s) (ho : Orderly N fuel s a)
    (hs : step N s a = some s') : Matched N fuel s a s' ∧ Inv N fuel s' := by
  obtain ⟨b, hb, hs⟩ := Option.bind_eq_some_iff.mp hs
  obtain ⟨data, hstep, rfl⟩ := Option.map_eq_some_iff.mp hs
  have hdata : Delivery.Inv N data := (Delivery.step_mailbox h.data (ho.sound b hb) hstep).2
  cases a with
  | call c =>
      cases hb
      obtain rfl := step_begin hstep
      have hok : ∀ d ∈ (some c).toList ++ s.calls, d.Ok fuel := by
        intro d hd
        rcases List.mem_cons.mp hd with rfl | hd
        · exact ho.call d rfl
        · exact h.ok d (List.mem_append_right _ hd)
      refine ⟨.silent rfl rfl, hdata, hok, fun _ => ⟨c, rfl, rfl⟩, fun it hit => ?_, h.commands,
        h.headers, fun hserver => ?_⟩
      · cases hit
      · obtain ⟨t, a, ht, hwf⟩ := h.turn hserver
        exact ⟨t, a, ht, hwf.frame rfl rfl rfl⟩
  | send =>
      obtain ⟨p, hp, rfl⟩ := Option.map_eq_some_iff.mp hb
      obtain ⟨hbuilding, rfl⟩ := step_send hstep
      obtain ⟨c, hsending, hleft⟩ := h.building hbuilding
      refine ⟨.silent rfl rfl, hdata, h.ok, fun hb => ?_, fun it _ => ⟨c, hsending, ?_⟩, h.commands,
        h.headers, fun hserver => ?_⟩
      · cases hb
      · rw [← hleft, ← List.cons_head?_tail hp]
        rfl
      · obtain ⟨t, a, ht, hwf⟩ := h.turn hserver
        exact ⟨t, a, ht, hwf.frame rfl rfl rfl⟩
  | done =>
      have hleft : s.left = [] := by
        by_contra hne
        rw [Act.data, if_neg hne] at hb
        cases hb
      rw [Act.data, if_pos hleft] at hb
      cases hb
      obtain ⟨hbuilding, rfl⟩ := step_done hstep
      exact h.done hleft hbuilding hdata rfl
  | client =>
      cases hb
      exact h.client (ho.sound _ rfl) hdata hstep
  | wake =>
      cases hb
      obtain ⟨sync, hsync, heff⟩ := Option.bind_eq_some_iff.mp hstep
      cases heff
      have hw := Delivery.within_wake hsync
      exact ⟨.silent rfl (waiting_within hw), h.within hdata hw⟩
  | server =>
      cases hb
      exact h.server hdata hstep

/-! ### Runs -/

/-- **Remote calls.**  In a run whose steps are `Orderly`, whatever their order, the server makes
the calls that the client has sent, each once, in their order, with the client's arguments and on
its handle, and ends in step with it; and it would, whenever during its turn it looked at the
ring. -/
theorem remote_calls (N : RingSize) (fuel : Nat) (m_data : Memory) {acts : List Act} {s : State}
    (ho : Along (step N) (Orderly N fuel) (start m_data) acts)
    (hr : run (step N) (start m_data) acts = some s) :
    Mailbox.sent (trace (step N) (obs N fuel) (start m_data) acts) =
        Mailbox.received (trace (step N) (obs N fuel) (start m_data) acts) ++ s.mail ∧
      (s.data.sync.server = .pulling →
        ∃ t, s.turn = some t ∧ t.make N fuel s.data.m_data = t.of.made) := by
  obtain ⟨q, ⟨h, rfl⟩, hsent⟩ := Mailbox.delivers
    (R := fun s q => Inv N fuel s ∧ q = s.mail)
    (fun s q a s' hR hC hs => by
      obtain ⟨h, rfl⟩ := hR
      obtain ⟨⟨bs, hrun, htrace⟩, h'⟩ := step_mailbox h hC hs
      exact ⟨bs, s'.mail, hrun, htrace, h', rfl⟩)
    ⟨inv_start N fuel m_data, rfl⟩ ho hr
  refine ⟨hsent, fun hserver => ?_⟩
  obtain ⟨t, a, ht, hwf⟩ := h.turn hserver
  exact ⟨t, ht, hwf.make⟩

/-- A call of `SetFVF` on the device with the handle 3, sent and processed. -/
def setFVF : List Act :=
  [.call ⟨.device (.SetFVF 7), 3⟩, .send, .client, .client, .client, .client, .done, .server,
    .server, .server]

theorem remote_calls_setFVF : ∃ s,
    run (step SyncDataQueue.small) (start fun _ => 0) setFVF = some s ∧
    Mailbox.sent (trace (step SyncDataQueue.small) (obs SyncDataQueue.small 1) (start fun _ => 0)
        setFVF) =
      Mailbox.received (trace (step SyncDataQueue.small) (obs SyncDataQueue.small 1)
        (start fun _ => 0) setFVF) ++ s.mail ∧
    Mailbox.received (trace (step SyncDataQueue.small) (obs SyncDataQueue.small 1)
      (start fun _ => 0) setFVF) = [some (.device (.SetFVF 7), 3, true)] := by
  have h : run (step SyncDataQueue.small) (start fun _ => 0) setFVF = some _ := rfl
  refine ⟨_, h, (remote_calls SyncDataQueue.small 1 _ ?_ h).1, rfl⟩
  have hsound : ∀ {s : State} {a : Act} {b : Delivery.Act}, a.data s = some b →
      SyncDataQueue.Sound SyncDataQueue.small s.data.sync b.sync →
      (∀ c, a = .call c → c.Ok 1) → Orderly SyncDataQueue.small 1 s a := by
    intro s a b hb hs hc
    refine ⟨fun b' hb' => ?_, hc⟩
    rw [hb] at hb'
    cases hb'
    exact hs
  refine ⟨hsound rfl trivial fun c hc => ?_, fun s₁ h₁ => ?_⟩
  · cases hc
    exact ⟨trivial, Nat.zero_lt_one⟩
  cases h₁
  refine ⟨hsound rfl trivial fun _ => Act.noConfusion, fun s₂ h₂ => ?_⟩
  cases h₂
  refine ⟨hsound rfl ⟨nofun, nofun⟩ fun _ => Act.noConfusion, fun s₃ h₃ => ?_⟩
  cases h₃
  refine ⟨hsound rfl ⟨nofun, nofun⟩ fun _ => Act.noConfusion, fun s₄ h₄ => ?_⟩
  cases h₄
  refine ⟨hsound rfl ⟨fun it hc _ => ?_, nofun⟩ fun _ => Act.noConfusion, fun s₅ h₅ => ?_⟩
  · rcases hc with hc | hc <;> cases hc
    exact Nat.succ_le_succ (Nat.zero_le 3)
  cases h₅
  refine ⟨hsound rfl ⟨nofun, fun it hc => ?_⟩ fun _ => Act.noConfusion, fun s₆ h₆ => ?_⟩
  · cases hc
    exact ⟨by decide, nofun⟩
  cases h₆
  refine ⟨hsound rfl trivial fun _ => Act.noConfusion, fun s₇ h₇ => ?_⟩
  cases h₇
  refine ⟨hsound rfl nofun fun _ => Act.noConfusion, fun s₈ h₈ => ?_⟩
  cases h₈
  refine ⟨hsound rfl nofun fun _ => Act.noConfusion, fun s₉ h₉ => ?_⟩
  cases h₉
  exact ⟨hsound rfl nofun fun _ => Act.noConfusion, fun _ _ => trivial⟩

end RemixBridge.RemoteCalls
