import RemixBridge.Channel.NoOverwrite

/-!
# Channel — OverwriteStall

The client's stall with its timeouts (`handleOverwriteCondition`, `util_bridgecommand.cpp`) against
the server's check after each command (`main.cpp`).  A wait that finds no permit times out; after
`maxRetries` more of them the client takes its request back and goes on.

* `overwriteStall_step`: what a step keeps, of a run that is `Orderly`.
* `overwrite_stall`: in such a run every request is pending, every wake-up comes, and no wait ends
  early.
* `stale_release`: a release that comes after the client gave up ends its next wait.
-/

namespace RemixBridge.OverwriteStall
open Runs DataRing SyncDataQueue

/-- The channel, and the `numRetries` of the client's stall. -/
structure State where
  sync : SyncDataQueue.State
  numRetries : Nat

/-- A step of the channel, or a wait of the client that times out. -/
inductive Act where
  | sync (a : SyncDataQueue.Act)
  | timeout
  deriving DecidableEq, Repr

/-- `numRetries` after a step of the channel: a stall starts with none. -/
def retriesAfter (client : ClientPC) (numRetries : Nat) : SyncDataQueue.Act → Nat
  | .client =>
      match client with
      | .stall _ _ => 0
      | _          => numRetries
  | _ => numRetries

def step (N : RingSize) (maxRetries : Nat) (s : State) : Act → Option State
  | .sync a =>
      (SyncDataQueue.step N s.sync a).map fun t =>
        { sync := t, numRetries := retriesAfter s.sync.client s.numRetries a }
  | .timeout =>
      match s.sync.client with
      | .waiting it second =>
          if s.sync.dataSemaphore = 0 then
            some
              { sync :=
                  { s.sync with
                    client :=
                      if s.numRetries < maxRetries then .waiting it second
                      else .clearPos it second }
                numRetries := s.numRetries + 1 }
          else none
      | _ => none

def start : State where
  sync := SyncDataQueue.start
  numRetries := 0

/-- What is asked of the stall, in every state. -/
structure Answered (s : State) : Prop where
  /-- The request of a client that waits is not taken for none. -/
  pending : ∀ it second, s.sync.client = .waiting it second → s.sync.dataSemaphore = 0 →
    s.sync.clientDataExpectedPos ≠ -1
  /-- A client that waits has its permit once the server has no more to do. -/
  woken : ∀ it second, s.sync.client = .waiting it second → s.sync.server = .idle →
    s.sync.ring.commands = [] → 0 < s.sync.dataSemaphore
  /-- A wait that can end finds the server at the command's start or past it. -/
  passed : ∀ it second, s.sync.client = .waiting it second → 0 < s.sync.dataSemaphore →
    s.sync.ring.sAbs ≤ s.sync.ring.fAbs

/-! ### What a run needs -/

/-- The server is between its check of the request word and the end of its answer. -/
def Looks (pc : ServerPC) : Prop := pc.answers = true ∨ pc = .clearing

/-- The client gave up, and has not yet taken its request back. -/
def State.GivingUp (maxRetries : Nat) (s : State) : Prop :=
  maxRetries < s.numRetries ∧ ∃ it second, s.sync.client = .clearPos it second

/-- What a step needs.  No object is as long as the ring.  A request is published for a start other
than word 0, while the server clears no other request, and before its last check.  The server that
looks at `serverResetPosRequired` finds it set while it has yet to come to the start, and clear when
it has.  The client gives up, and takes its request back, while the server does not look at it. -/
def Orderly (N : RingSize) (maxRetries : Nat) (s : State) : Act → Prop
  | .sync .client => ∀ it second, s.sync.client = .stall it second →
      s.sync.ring.s_curBatchStartPos ≠ 0 ∧ s.sync.server ≠ .clearing ∧
        (s.sync.server = .checking ∨ s.sync.ring.fAbs < s.sync.ring.sAbs)
  | .sync .server =>
      (s.sync.server = .flagTest →
        (s.sync.serverResetPosRequired = true ↔ s.sync.ring.fAbs < s.sync.ring.sAbs)) ∧
      (s.GivingUp maxRetries → s.sync.server ≠ .checking)
  | .sync a => SendsFit N a
  | .timeout => s.numRetries < maxRetries ∨ ¬ Looks s.sync.server

/-! ### The invariant -/

/-- What a client that waits can count on. -/
structure Awaited (maxRetries : Nat) (s : State) : Prop where
  retries : s.sync.client.waits = true → s.numRetries ≤ maxRetries
  pending : s.sync.client.waits = true → s.sync.dataSemaphore = 0 →
    s.sync.clientDataExpectedPos ≠ -1
  cleared : s.sync.client.waits = true → s.sync.server = .clearing → 0 < s.sync.dataSemaphore
  ahead : s.sync.client.waits = true → s.sync.dataSemaphore = 0 →
    s.sync.server = .checking ∨ s.sync.server.answers = true ∨
      s.sync.ring.fAbs < s.sync.ring.sAbs

/-- What holds while the client takes the request of a stall back that it gave up. -/
structure TakingBack (maxRetries : Nat) (s : State) : Prop where
  givingUp : s.GivingUp maxRetries
  unseen : ¬ Looks s.sync.server
  semaphore : s.sync.dataSemaphore = 0

structure Inv (N : RingSize) (maxRetries : Nat) (s : State) : Prop where
  tracked : Tracked N s.sync
  current : s.sync.server ≠ .pulling → s.sync.ring.fAbs = s.sync.ring.rAbs
  unpublished : s.sync.ring.serverDataPos = -1 → s.sync.ring.fAbs = 0
  stall : (Handshake s.sync ∧ Awaited maxRetries s) ∨ TakingBack maxRetries s

theorem Awaited.of_not_waits {maxRetries : Nat} {s : State} (h : s.sync.client.waits = false) :
    Awaited maxRetries s where
  retries hw := absurd hw (by simp [h])
  pending hw := absurd hw (by simp [h])
  cleared hw := absurd hw (by simp [h])
  ahead hw := absurd hw (by simp [h])

theorem inv_start (N : RingSize) (maxRetries : Nat) : Inv N maxRetries start where
  tracked := tracked_start N
  current _ := rfl
  unpublished _ := rfl
  stall := .inl ⟨handshake_start, .of_not_waits rfl⟩

/-! ### The steps -/

/-- A server that is not pulling has published its position. -/
theorem current_step {N : RingSize} {s s' : SyncDataQueue.State} {a : SyncDataQueue.Act}
    (h : s.server ≠ .pulling → s.ring.fAbs = s.ring.rAbs)
    (hs : SyncDataQueue.step N s a = some s') :
    s'.server ≠ .pulling → s'.ring.fAbs = s'.ring.rAbs := by
  cases move_of_step hs with
  | popHeader => exact fun hne => absurd rfl hne
  | pull hsrv => exact fun hne => absurd hsrv hne
  | publish => exact fun _ => rfl
  | check hsrv | compare hsrv | flagTest hsrv | release hsrv | clear hsrv =>
      exact fun _ => h (by rw [hsrv]; nofun)
  | skip hsrv =>
      refine fun _ => h ?_
      rcases hsrv with ⟨hs, -⟩ | ⟨hs, -⟩ | ⟨hs, -⟩ <;> (rw [hs]; nofun)
  | _ => exact h

theorem unpublished_step {N : RingSize} {s s' : SyncDataQueue.State} {a : SyncDataQueue.Act}
    (h : s.ring.serverDataPos = -1 → s.ring.fAbs = 0)
    (hs : SyncDataQueue.step N s a = some s') :
    s'.ring.serverDataPos = -1 → s'.ring.fAbs = 0 := by
  cases move_of_step hs with
  | publish =>
      intro hnone
      have hpos : (s.ring.readPos : Int) = -1 := hnone
      omega
  | _ => exact h

theorem start_of_waits {N : RingSize} {s : SyncDataQueue.State} (h : Tracked N s)
    (hw : s.client.waits = true) : s.ring.s_curBatchStartPos = (s.ring.sAbs % N.size : Nat) := by
  refine h.ring.start.resolve_left (h.isOpen rfl fun hidle => ?_)
  rw [hidle] at hw
  cases hw

/-- The server that has not passed the request has yet to come to the start. -/
theorem lt_of_not_passed {N : RingSize} {s : SyncDataQueue.State} (h : Tracked N s)
    (hnone : s.ring.serverDataPos = -1 → s.ring.fAbs = 0) (hh : Handshake s)
    (hw : s.client.waits = true) (he : s.clientDataExpectedPos ≠ -1)
    (hle : s.ring.serverDataPos ≤ s.clientDataExpectedPos) : s.ring.fAbs < s.ring.sAbs := by
  have hstart := start_of_waits h hw
  have hreq := (hh.request he).1
  have ho : s.ring.s_curBatchStartPos ≠ -1 := by omega
  refine lt_of_le_of_ne (h.ring.fAbs_le ho) fun heq => ?_
  rcases h.ring.server with hpos | hpos
  · rw [← heq, hnone hpos, Nat.zero_mod] at hstart
    omega
  · rw [heq] at hpos
    omega

theorem awaited_step {N : RingSize} {maxRetries : Nat} {s : State} {t : SyncDataQueue.State}
    {a : SyncDataQueue.Act} (h : Inv N maxRetries s) (hh : Handshake s.sync)
    (hw : Awaited maxRetries s) (ho : Orderly N maxRetries s (.sync a))
    (hs : SyncDataQueue.step N s.sync a = some t) :
    Awaited maxRetries ⟨t, retriesAfter s.sync.client s.numRetries a⟩ := by
  cases move_of_step hs with
  | begin | send | done | age | refresh | doubleOverflow | rollover | onLap | setFlag | pass
  | toReload | reload | toStall | wake | clearPos | write => exact .of_not_waits rfl
  | @clearFlag it second =>
      refine .of_not_waits ?_
      cases second <;> rfl
  | @exit it second hc | @request it second hc =>
      obtain ⟨hzero, hclr, hahead⟩ := ho it second hc
      refine ⟨fun _ => ?_, fun _ _ => ?_, fun _ hsrv => absurd hsrv hclr, fun _ _ => ?_⟩
      · show retriesAfter s.sync.client s.numRetries .client ≤ maxRetries
        rw [hc]
        exact Nat.zero_le _
      · show s.sync.ring.s_curBatchStartPos - 1 ≠ -1
        omega
      · rcases hahead with hsrv | hlt
        · exact .inl hsrv
        · exact .inr (.inr hlt)
  | popHeader hsrv hq =>
      refine ⟨hw.retries, hw.pending, nofun, fun hwait hsem => .inr (.inr ?_)⟩
      rcases hw.ahead hwait hsem with hs | hs | hlt
      · rw [hsrv] at hs
        cases hs
      · rw [hsrv] at hs
        cases hs
      · exact hlt
  | pull hsrv hq =>
      refine ⟨hw.retries, hw.pending, fun _ hs => ?_, fun hwait hsem => .inr (.inr ?_)⟩
      · have hsrv' : s.sync.server = .clearing := hs
        rw [hsrv] at hsrv'
        cases hsrv'
      rcases hw.ahead hwait hsem with hs | hs | hlt
      · rw [hsrv] at hs
        cases hs
      · rw [hsrv] at hs
        cases hs
      · exact hlt
  | publish hsrv hq => exact ⟨hw.retries, hw.pending, nofun, fun _ _ => .inl rfl⟩
  | skip hsrv =>
      refine ⟨hw.retries, hw.pending, nofun, fun hwait hsem => .inr (.inr ?_)⟩
      have hwait' : s.sync.client.waits = true := hwait
      have he : s.sync.clientDataExpectedPos ≠ -1 := hw.pending hwait hsem
      rcases hsrv with ⟨-, hnone⟩ | ⟨-, hle⟩ | ⟨hflag, hset⟩
      · exact absurd hnone he
      · have hlt := lt_of_not_passed h.tracked h.unpublished hh hwait' he hle
        exact hlt
      · exact (ho.1 hflag).mp hset
  | check hsrv he => exact ⟨hw.retries, hw.pending, nofun, fun _ _ => .inr (.inl rfl)⟩
  | compare hsrv he => exact ⟨hw.retries, hw.pending, nofun, fun _ _ => .inr (.inl rfl)⟩
  | flagTest hsrv hf => exact ⟨hw.retries, hw.pending, nofun, fun _ _ => .inr (.inl rfl)⟩
  | release hsrv =>
      have hpos : 0 < min (s.sync.dataSemaphore + 1) 1 := Nat.lt_min.mpr ⟨Nat.succ_pos _, one_pos⟩
      exact ⟨hw.retries, fun _ hsem => absurd hsem hpos.ne', fun _ _ => hpos,
        fun _ hsem => absurd hsem hpos.ne'⟩
  | clear hsrv =>
      exact ⟨hw.retries, fun hwait hsem => absurd hsem (hw.cleared hwait hsrv).ne', nofun,
        fun hwait hsem => absurd hsem (hw.cleared hwait hsrv).ne'⟩

/-- The client takes the request back, and then none is out. -/
theorem takingBack_step {N : RingSize} {maxRetries : Nat} {s : State} {t : SyncDataQueue.State}
    {a : SyncDataQueue.Act} (h : Inv N maxRetries s) (hb : TakingBack maxRetries s)
    (ho : Orderly N maxRetries s (.sync a)) (hs : SyncDataQueue.step N s.sync a = some t) :
    (Handshake t ∧ Awaited maxRetries ⟨t, retriesAfter s.sync.client s.numRetries a⟩) ∨
      TakingBack maxRetries ⟨t, retriesAfter s.sync.client s.numRetries a⟩ := by
  obtain ⟨hgave, it, second, hcl⟩ := hb.givingUp
  have hpc : ∀ {pc : ClientPC}, s.sync.client = pc → pc = .clearPos it second :=
    fun hc => hc.symm.trans hcl
  have hretries : ∀ b, retriesAfter s.sync.client s.numRetries b = s.numRetries := by
    intro b
    rw [hcl]
    cases b <;> rfl
  have hquiet : s.sync.server.answers = false :=
    Bool.eq_false_iff.mpr fun ha => hb.unseen (.inl ha)
  have hstay : ∀ {t : SyncDataQueue.State}, t.client = s.sync.client → ¬ Looks t.server →
      t.dataSemaphore = s.sync.dataSemaphore → TakingBack maxRetries ⟨t, s.numRetries⟩ :=
    fun hc hno hsem => ⟨⟨hgave, it, second, hc.trans hcl⟩, hno, hsem.trans hb.semaphore⟩
  rw [hretries]
  cases move_of_step hs with
  | begin hc | send hc | done hc | age hc | refresh hc | doubleOverflow hc | rollover hc | onLap hc
  | setFlag hc | toReload hc | reload hc | toStall hc | exit hc | request hc | wake hc _
  | clearFlag hc | write hc => cases hpc hc
  | pass hc _ => rcases hc with hc | hc <;> cases hpc hc
  | clearPos hc =>
      exact .inl ⟨Quiet.handshake ⟨h.tracked.pulling, rfl, hquiet, hb.semaphore⟩,
        .of_not_waits rfl⟩
  | popHeader => exact .inr (hstay rfl (by rintro (h | h) <;> cases h) rfl)
  | pull => exact .inr (hstay rfl hb.unseen rfl)
  | publish => exact .inr (hstay rfl (by rintro (h | h) <;> cases h) rfl)
  | skip => exact .inr (hstay rfl (by rintro (h | h) <;> cases h) rfl)
  | check hsrv _ => exact absurd hsrv (ho.2 hb.givingUp)
  | compare hsrv _ | flagTest hsrv _ | release hsrv =>
      exact absurd (.inl (by rw [hsrv]; rfl)) hb.unseen
  | clear hsrv => exact absurd (.inr hsrv) hb.unseen

theorem sync_step {N : RingSize} {maxRetries : Nat} {s : State} {t : SyncDataQueue.State}
    {a : SyncDataQueue.Act} (h : Inv N maxRetries s) (ho : Orderly N maxRetries s (.sync a))
    (hs : SyncDataQueue.step N s.sync a = some t) :
    Inv N maxRetries ⟨t, retriesAfter s.sync.client s.numRetries a⟩ where
  tracked := by
    refine tracked_step h.tracked ?_ hs
    cases a with
    | send it => exact ho
    | _ => trivial
  current := current_step h.current hs
  unpublished := unpublished_step h.unpublished hs
  stall := by
    rcases h.stall with ⟨hh, hw⟩ | hb
    · refine .inl ⟨handshake_step hh h.tracked.ring.finished ?_ hs, awaited_step h hh hw ho hs⟩
      rintro rfl hsrv hclear
      refine Nat.le_of_not_lt fun hlt => ?_
      rw [(ho.1 hsrv).mpr hlt] at hclear
      cases hclear
    · exact takingBack_step h hb ho hs

/-- A wait that times out: the client waits again, or takes its request back. -/
theorem timeout_step {N : RingSize} {maxRetries : Nat} {s s' : State} (h : Inv N maxRetries s)
    (ho : Orderly N maxRetries s .timeout) (hs : step N maxRetries s .timeout = some s') :
    Inv N maxRetries s' := by
  simp only [step] at hs
  split at hs
  case h_2 => cases hs
  case h_1 it second hc =>
    split at hs
    case isFalse => cases hs
    case isTrue hsem =>
      obtain ⟨hh, hw⟩ | hb := h.stall
      · by_cases hmore : s.numRetries < maxRetries
        · have hsame : { s.sync with client := .waiting it second } = s.sync := by rw [← hc]
          rw [if_pos hmore, hsame] at hs
          cases hs
          exact ⟨h.tracked, h.current, h.unpublished,
            .inl ⟨hh, fun _ => hmore, hw.pending, hw.cleared, hw.ahead⟩⟩
        · rw [if_neg hmore] at hs
          cases hs
          refine ⟨?_, h.current, h.unpublished, .inr ⟨⟨?_, it, second, rfl⟩, ?_, hsem⟩⟩
          · refine h.tracked.inPush (congrArg ClientPC.held hc) nofun ?_ rfl rfl h.tracked.cached
            rintro _ ⟨⟩
            rfl
          · exact Nat.lt_succ_of_le (Nat.le_of_not_lt hmore)
          · exact ho.resolve_left hmore
      · obtain ⟨-, _, _, hcl⟩ := hb.givingUp
        rw [hc] at hcl
        cases hcl

theorem overwriteStall_step {N : RingSize} {maxRetries : Nat} {s s' : State} {a : Act}
    (h : Inv N maxRetries s) (ho : Orderly N maxRetries s a)
    (hs : step N maxRetries s a = some s') : Inv N maxRetries s' := by
  cases a with
  | timeout => exact timeout_step h ho hs
  | sync a =>
      obtain ⟨t, ht, rfl⟩ := Option.map_eq_some_iff.mp hs
      exact sync_step h ho ht

/-! ### The answers -/

/-- A server at rest has come to the start of the open command. -/
theorem at_start_of_rest {N : RingSize} {maxRetries : Nat} {s : State} (h : Inv N maxRetries s)
    (ho : s.sync.ring.s_curBatchStartPos ≠ -1) (hsrv : s.sync.server = .idle)
    (hq : s.sync.ring.commands = []) : s.sync.ring.fAbs = s.sync.ring.sAbs := by
  have hne : s.sync.server ≠ .pulling := by rw [hsrv]; nofun
  have hpull : s.sync.ring.pulling = [] := h.tracked.pulling hne
  have hpend : s.sync.ring.pending = [] := by simp [Ring.pending, hpull, hq]
  have hbase : s.sync.ring.base = s.sync.ring.sAbs := if_neg ho
  have hend := h.tracked.ring.pending
  rw [hpend, hbase] at hend
  exact (h.current hne).trans hend

theorem answered_of_inv {N : RingSize} {maxRetries : Nat} {s : State} (h : Inv N maxRetries s) :
    Answered s := by
  have hstall : ∀ {it second}, s.sync.client = .waiting it second →
      Handshake s.sync ∧ Awaited maxRetries s := by
    intro it second hc
    refine h.stall.resolve_right fun hb => ?_
    obtain ⟨-, _, _, hcl⟩ := hb.givingUp
    rw [hc] at hcl
    cases hcl
  have hwaits : ∀ {it second}, s.sync.client = .waiting it second →
      s.sync.client.waits = true := by
    intro it second hc
    rw [hc]
    rfl
  constructor
  case pending => exact fun it second hc hsem => (hstall hc).2.pending (hwaits hc) hsem
  case woken =>
    intro it second hc hsrv hq
    by_contra hsem
    have hrest := at_start_of_rest h (h.tracked.isOpen hc nofun) hsrv hq
    rcases (hstall hc).2.ahead (hwaits hc) (Nat.eq_zero_of_not_pos hsem) with hs | hs | hlt
    · rw [hsrv] at hs
      cases hs
    · rw [hsrv] at hs
      cases hs
    · exact hlt.ne hrest
  case passed => exact fun it second hc hsem => ((hstall hc).1.semaphore hsem).2

/-- **Every stall is answered.**  In a run whose steps are `Orderly`, in every state reached, a
request that is out is pending, the client has its permit when the server is done, and a wait that
can end finds the server past the request. -/
theorem overwrite_stall (N : RingSize) (maxRetries : Nat) {acts : List Act} {s : State}
    (horderly : Along (step N maxRetries) (Orderly N maxRetries) start acts)
    (hr : run (step N maxRetries) start acts = some s) : Answered s :=
  answered_of_inv
    (run_inv_along (fun _ _ _ => overwriteStall_step) (inv_start N maxRetries) horderly hr)

/-- Two commands, the second over the end of the ring, and a third that is stalled there. -/
def stalled : List SyncDataQueue.Act :=
  ([.begin] : List SyncDataQueue.Act) ++ push (.many 3) ++
    ([.done, .begin] : List SyncDataQueue.Act) ++ push (.many 2) ++
    ([.client, .done, .begin, .send (.many 4), .client, .client, .client] :
      List SyncDataQueue.Act)

theorem overwrite_stall_answered : ∃ s, run (step small 1) start
    (stalled.map Act.sync ++ [Act.timeout] ++ List.replicate 16 (Act.sync .server)) = some s ∧
      Answered s ∧ 0 < s.sync.dataSemaphore := by
  have h : run (step small 1) start
    (stalled.map Act.sync ++ [Act.timeout] ++ List.replicate 16 (Act.sync .server)) = some _ := rfl
  refine ⟨_, h, overwrite_stall small 1 ?_ h, by decide⟩
  iterate 37 (refine And.intro ?_ (fun s hs => ?_); rotate_left; cases hs)
  -- What the steps ask for: of a send, of the request, of the timeout, of the server's checks.
  all_goals first
    | trivial
    | (rintro _ _ ⟨⟩; done)
    | (rintro p hp size rfl; cases (List.mem_replicate.mp hp).2)
    | (rintro _ _ ⟨⟩; exact ⟨by decide, nofun, .inr (by decide)⟩)
    | exact .inl (by decide)
    | (refine ⟨fun hs => ?_, ?_⟩
       · cases hs
       · rintro ⟨-, _, _, ⟨⟩⟩)
    | (refine ⟨fun _ => by decide, ?_⟩
       rintro ⟨-, _, _, ⟨⟩⟩)

/-- **A late release.**  The server checks the request, the client gives up and takes it back, and
then the server releases: the wait of the next stall ends at once, a lap early. -/
theorem stale_release : ¬ ∀ (N : RingSize) (maxRetries : Nat) (acts : List Act) (s : State),
    run (step N maxRetries) start acts = some s → Answered s := by
  intro hclaim
  have h : run (step small 0) start
      ((stalled ++ List.replicate 15 SyncDataQueue.Act.server).map Act.sync ++ [Act.timeout] ++
        ([.server, .server, .client, .client, .client, .client, .client, .done, .begin,
          .send (.many 4), .client, .client, .client] : List SyncDataQueue.Act).map Act.sync) =
    some _ := rfl
  have hpassed := (hclaim small 0 _ _ h).passed (.many 4) false rfl (by decide)
  exact absurd hpassed (by decide)

end RemixBridge.OverwriteStall
