import RemixBridge.Channel.SyncDataQueue

/-!
# Channel — SyncSteps

The transitions of the data ring's protocol, and what every one of them keeps, whatever the client
knows and whatever was lost.

* `move_of_step`: the transitions, each with its guard.
* `Placed`: the indices of the ring are its absolute positions.
* `tracked_step`: what every step keeps.
-/

namespace RemixBridge.SyncDataQueue
open Runs DataRing

/-! ### What a step can do -/

/-- The transitions of `step`, each with its guard. -/
inductive Move (N : RingSize) (s : State) : Act → State → Prop where
  | begin (hc : s.client = .idle) :
      Move N s .begin { s with client := .building, ring := s.ring.begin }
  | send {it : Item} (hc : s.client = .building) : Move N s (.send it) { s with client := .item it }
  | done (hc : s.client = .building) : Move N s .done { s with client := .idle, ring := s.ring.done }
  | age {it : Item} (hc : s.client = .item it) :
      Move N s .client
        { s with client := .predict it, s_cachedServerPosAge := s.s_cachedServerPosAge + 1 }
  | refresh {it : Item} (hc : s.client = .item it) :
      Move N s .client { s.refresh with client := .predict it }
  | doubleOverflow {it : Item} (hc : s.client = .predict it) :
      Move N s .client { s with client := .stall it false }
  | rollover {it : Item} (hc : s.client = .predict it) :
      Move N s .client { s with client := .setFlag it false }
  | onLap {it : Item} (hc : s.client = .predict it) :
      Move N s .client { s with client := .cachedTest it false }
  | setFlag {it : Item} {stalled : Bool} (hc : s.client = .setFlag it stalled) :
      Move N s .client
        { s with client := .cachedTest it stalled, serverResetPosRequired := true }
  | pass {it : Item} {stalled : Bool}
      (hc : s.client = .cachedTest it stalled ∨ s.client = .liveTest it stalled)
      (ht : s.overwrites N it = false) : Move N s .client { s with client := .write it }
  | toReload {it : Item} {stalled : Bool} (hc : s.client = .cachedTest it stalled) :
      Move N s .client { s with client := .reload it stalled }
  | reload {it : Item} {stalled : Bool} (hc : s.client = .reload it stalled) :
      Move N s .client { s.refresh with client := .liveTest it stalled }
  | toStall {it : Item} {stalled : Bool} (hc : s.client = .liveTest it stalled) :
      Move N s .client { s with client := .stall it true }
  | exit {it : Item} {second : Bool} (hc : s.client = .stall it second) :
      Move N s .client
        { s with client := .exited, clientDataExpectedPos := s.ring.s_curBatchStartPos - 1 }
  | request {it : Item} {second : Bool} (hc : s.client = .stall it second) :
      Move N s .client
        { s with client := .waiting it second
                 clientDataExpectedPos := s.ring.s_curBatchStartPos - 1 }
  | wake {it : Item} {second : Bool} (hc : s.client = .waiting it second)
      (hsem : 0 < s.dataSemaphore) :
      Move N s .wake
        { s with client := .clearPos it second, dataSemaphore := s.dataSemaphore - 1 }
  | clearPos {it : Item} {second : Bool} (hc : s.client = .clearPos it second) :
      Move N s .client { s with client := .clearFlag it second, clientDataExpectedPos := -1 }
  | clearFlag {it : Item} {second : Bool} (hc : s.client = .clearFlag it second) :
      Move N s .client
        { s with client := if second then .write it else .setFlag it true
                 serverResetPosRequired := false }
  | write {it : Item} (hc : s.client = .write it) :
      Move N s .client { s with client := .building, ring := s.ring.push N it }
  | popHeader {items : List Item} {rest : List (List Item)} (hs : s.server = .idle)
      (hq : s.ring.commands = items :: rest) :
      Move N s .server { s with server := .pulling, ring := s.ring.popHeader items rest }
  | pull {p : Pull} {rest : List Pull} {b : Bool} (hs : s.server = .pulling)
      (hq : s.ring.pulling = p :: rest) :
      Move N s .server { s with ring := s.ring.pull N p rest, serverResetPosRequired := b }
  | publish (hs : s.server = .pulling) (hq : s.ring.pulling = []) :
      Move N s .server { s with server := .checking, ring := s.ring.publish }
  | skip (hs : (s.server = .checking ∧ s.clientDataExpectedPos = -1) ∨
        (s.server = .comparing ∧ s.ring.serverDataPos ≤ s.clientDataExpectedPos) ∨
        (s.server = .flagTest ∧ s.serverResetPosRequired = true)) :
      Move N s .server { s with server := .idle }
  | check (hs : s.server = .checking) (he : s.clientDataExpectedPos ≠ -1) :
      Move N s .server { s with server := .comparing }
  | compare (hs : s.server = .comparing) (he : s.clientDataExpectedPos < s.ring.serverDataPos) :
      Move N s .server { s with server := .flagTest }
  | flagTest (hs : s.server = .flagTest) (hf : s.serverResetPosRequired = false) :
      Move N s .server { s with server := .releasing }
  | release (hs : s.server = .releasing) :
      Move N s .server { s with server := .clearing, dataSemaphore := min (s.dataSemaphore + 1) 1 }
  | clear (hs : s.server = .clearing) :
      Move N s .server { s with server := .idle, clientDataExpectedPos := -1 }

theorem move_of_clientStep {N : RingSize} {s s' : State} (hs : s.clientStep N = some s') :
    Move N s .client s' := by
  unfold State.clientStep at hs
  split at hs
  case h_1 hc =>
    split at hs <;> cases hs
    · exact .refresh hc
    · exact .age hc
  case h_2 hc =>
    split at hs
    · split at hs <;> cases hs
      · exact .doubleOverflow hc
      · exact .rollover hc
    · cases hs
      exact .onLap hc
  case h_3 hc =>
    cases hs
    exact .setFlag hc
  case h_4 hc =>
    split at hs <;> cases hs
    · exact .toReload hc
    · exact .pass (.inl hc) (Bool.eq_false_iff.mpr ‹_›)
  case h_5 hc =>
    cases hs
    exact .reload hc
  case h_6 hc =>
    split at hs <;> cases hs
    · exact .toStall hc
    · exact .pass (.inr hc) (Bool.eq_false_iff.mpr ‹_›)
  case h_7 hc =>
    cases hs
    split
    · exact .exit hc
    · exact .request hc
  case h_8 hc =>
    cases hs
    exact .clearPos hc
  case h_9 hc =>
    cases hs
    exact .clearFlag hc
  case h_10 hc =>
    cases hs
    exact .write hc
  case h_11 => cases hs

theorem move_of_serverStep {N : RingSize} {s s' : State} (hs : s.serverStep N = some s') :
    Move N s .server s' := by
  unfold State.serverStep at hs
  split at hs
  case h_1 hsrv =>
    split at hs <;> cases hs
    exact .popHeader hsrv ‹_›
  case h_2 hsrv =>
    split at hs <;> cases hs
    · exact .pull hsrv ‹_›
    · exact .publish hsrv ‹_›
  case h_3 hsrv =>
    cases hs
    split
    · exact .check hsrv ‹_›
    · exact .skip (.inl ⟨hsrv, not_not.mp ‹_›⟩)
  case h_4 hsrv =>
    cases hs
    split
    · exact .compare hsrv ‹_›
    · exact .skip (.inr (.inl ⟨hsrv, not_lt.mp ‹_›⟩))
  case h_5 hsrv =>
    cases hs
    split
    · exact .skip (.inr (.inr ⟨hsrv, ‹_›⟩))
    · exact .flagTest hsrv (Bool.eq_false_iff.mpr ‹_›)
  case h_6 hsrv =>
    cases hs
    exact .release hsrv
  case h_7 hsrv =>
    cases hs
    exact .clear hsrv

theorem move_of_step {N : RingSize} {s s' : State} {a : Act} (hs : step N s a = some s') :
    Move N s a s' := by
  cases a with
  | client => exact move_of_clientStep hs
  | server => exact move_of_serverStep hs
  | begin =>
      simp only [step] at hs
      split at hs <;> cases hs
      exact .begin ‹_›
  | send it =>
      simp only [step] at hs
      split at hs <;> cases hs
      exact .send ‹_›
  | done =>
      simp only [step] at hs
      split at hs <;> cases hs
      exact .done ‹_›
  | wake =>
      simp only [step] at hs
      split at hs
      · split at hs <;> cases hs
        exact .wake ‹_› ‹_›
      · cases hs

/-! ### The positions of the ring -/

/-- The object is shorter than the ring. -/
def Fits (N : RingSize) (p : Pull) : Prop := ∀ size, p = .obj size → chunkSize size < N.size

instance decidableFits (N : RingSize) : (p : Pull) → Decidable (Fits N p)
  | .word     => .isTrue nofun
  | .obj size => decidable_of_iff (chunkSize size < N.size)
      ⟨fun hlt _ heq => Pull.obj.inj heq ▸ hlt, fun h => h size rfl⟩

/-- What the server has yet to pull of finished commands. -/
def Ring.pending (r : Ring) : List Pull :=
  r.pulling ++ r.commands.flatMap fun items => items.flatMap Item.pulls

/-- Where the pending pulls end. -/
def Ring.base (r : Ring) : Nat := if r.s_curBatchStartPos = -1 then r.cAbs else r.sAbs

/-- The indices of the ring are its absolute positions, and what is pending leads from one to the
next. -/
structure Placed (N : RingSize) (r : Ring) : Prop where
  m_pos : r.m_pos = r.cAbs % N.size
  start : r.s_curBatchStartPos = -1 ∨ r.s_curBatchStartPos = (r.sAbs % N.size : Nat)
  pending : pullsAbs N.size r.rAbs r.pending = r.base
  cur : r.s_curBatchStartPos ≠ -1 → pullsAbs N.size r.sAbs (r.cur.flatMap Item.pulls) = r.cAbs
  fits : ∀ p ∈ r.pending ++ r.cur.flatMap Item.pulls, Fits N p
  readPos : r.readPos = r.rAbs % N.size
  server : r.serverDataPos = -1 ∨ r.serverDataPos = (r.fAbs % N.size : Nat)
  finished : r.fAbs ≤ r.rAbs

theorem Placed.fAbs_le_base {N : RingSize} {r : Ring} (h : Placed N r) : r.fAbs ≤ r.base := by
  rw [← h.pending]
  exact h.finished.trans (le_pullsAbs N.pos _ _)

theorem Placed.sAbs_le {N : RingSize} {r : Ring} (h : Placed N r)
    (ho : r.s_curBatchStartPos ≠ -1) : r.sAbs ≤ r.cAbs := by
  rw [← h.cur ho]
  exact le_pullsAbs N.pos _ _

theorem Placed.fAbs_le {N : RingSize} {r : Ring} (h : Placed N r)
    (ho : r.s_curBatchStartPos ≠ -1) : r.fAbs ≤ r.sAbs := by
  have hbase : r.base = r.sAbs := if_neg ho
  rw [← hbase]
  exact h.fAbs_le_base

theorem placed_start (N : RingSize) : Placed N start.ring where
  m_pos := (Nat.zero_mod _).symm
  start := .inl rfl
  pending := rfl
  cur h := absurd rfl h
  fits := nofun
  readPos := (Nat.zero_mod _).symm
  server := .inl rfl
  finished := Nat.le_refl 0

theorem Placed.begin {N : RingSize} {r : Ring} (h : Placed N r)
    (hidle : r.s_curBatchStartPos = -1) : Placed N r.begin := by
  have hbase : r.base = r.cAbs := if_pos hidle
  have hopen : (r.m_pos : Int) ≠ -1 := by omega
  exact
    { h with
      start := .inr (congrArg Nat.cast h.m_pos)
      pending := h.pending.trans (hbase.trans (if_neg hopen).symm)
      cur := fun _ => rfl
      fits := fun p hp => h.fits p (List.mem_append_left _
        ((List.mem_append.mp hp).resolve_right List.not_mem_nil)) }

theorem Placed.done {N : RingSize} {r : Ring} (h : Placed N r)
    (ho : r.s_curBatchStartPos ≠ -1) : Placed N r.done := by
  have hbase : r.base = r.sAbs := if_neg ho
  have hpend : r.done.pending = r.pending ++ r.cur.flatMap Item.pulls := by
    simp [Ring.pending, Ring.done]
  refine
    { h with
      start := .inl rfl
      pending := ?_
      cur := fun hne => absurd rfl hne
      fits := fun p hp => ?_ }
  · rw [hpend, pullsAbs_append]
    show pullsAbs N.size (pullsAbs N.size r.rAbs r.pending) _ = r.cAbs
    rw [h.pending, hbase, h.cur ho]
  · rw [hpend] at hp
    rcases List.mem_append.mp hp with hp | hp
    · exact h.fits p hp
    · exact h.fits p (List.mem_append_right _ hp)

theorem Placed.popHeader {N : RingSize} {r : Ring} (h : Placed N r) {items : List Item}
    {rest : List (List Item)} (hq : r.commands = items :: rest) (hp : r.pulling = []) :
    Placed N (r.popHeader items rest) := by
  have hpend : (r.popHeader items rest).pending = r.pending := by
    simp [Ring.pending, Ring.popHeader, hq, hp]
  exact
    { h with
      pending := (congrArg _ hpend).trans h.pending
      fits := fun p hmem => h.fits p (by rwa [hpend] at hmem) }

theorem Placed.pull {N : RingSize} {r : Ring} (h : Placed N r) {p : Pull} {rest : List Pull}
    (hq : r.pulling = p :: rest) : Placed N (r.pull N p rest) := by
  have hpend : r.pending = p :: (r.pull N p rest).pending := by
    simp [Ring.pending, Ring.pull, hq]
  have hfit : Fits N p := h.fits p (by rw [hpend]; exact List.mem_cons_self)
  have hlt : r.rAbs < pullAbs N.size r.rAbs p := lt_pullAbs N.pos _ _
  refine
    { h with
      pending := ?_
      fits := fun q hmem => h.fits q (by rw [hpend]; exact List.mem_cons_of_mem _ hmem)
      readPos := ?_
      finished := h.finished.trans hlt.le }
  · have := h.pending
    rw [hpend] at this
    exact this
  · show pullPos N.size r.readPos p = _
    rw [h.readPos]
    exact pullPos_mod N.pos _ hfit

theorem Placed.publish {N : RingSize} {r : Ring} (h : Placed N r) : Placed N r.publish :=
  { h with
    server := .inr (congrArg Nat.cast h.readPos)
    finished := Nat.le_refl _ }

theorem fits_blob {N : RingSize} {it : Item} (hfit : ∀ p ∈ it.pulls, Fits N p) :
    ∀ size, it = .blob size → chunkSize size < N.size := by
  rintro size rfl
  exact hfit (.obj size) List.mem_cons_self size rfl

theorem Placed.push {N : RingSize} {r : Ring} (h : Placed N r) {it : Item}
    (ho : r.s_curBatchStartPos ≠ -1) (hfit : ∀ p ∈ it.pulls, Fits N p) :
    Placed N (r.push N it) := by
  have hcur : ((r.push N it).cur.flatMap Item.pulls) = r.cur.flatMap Item.pulls ++ it.pulls := by
    simp [Ring.push]
  have hbase : (r.push N it).base = r.base := by
    rw [Ring.base, Ring.base, if_neg ho]
    exact if_neg ho
  refine
    { h with
      m_pos := ?_
      pending := h.pending.trans hbase.symm
      cur := fun _ => ?_
      fits := fun p hp => ?_ }
  · show it.pushPos N.size r.m_pos = _
    rw [h.m_pos]
    exact Item.pushPos_mod N.pos _ it (fits_blob hfit)
  · rw [hcur, pullsAbs_append]
    show pullsAbs N.size (pullsAbs N.size r.sAbs _) it.pulls = _
    rw [h.cur ho]
    rfl
  · rw [hcur, ← List.append_assoc] at hp
    rcases List.mem_append.mp hp with hp | hp
    · exact h.fits p hp
    · exact hfit p hp

/-! ### The copy of the server's position -/

/-- The copy of the server's position is of a finished command. -/
def State.Cached (N : RingSize) (s : State) : Prop :=
  (s.s_cachedServerPos = -1 ∧ s.cachedAbs = none) ∨
    ∃ Q, s.cachedAbs = some Q ∧ s.s_cachedServerPos = (Q % N.size : Nat) ∧ Q ≤ s.ring.fAbs

/-- A fresh copy of the server's position. -/
theorem cached_refresh {N : RingSize} {s : State} (h : Placed N s.ring) : s.refresh.Cached N := by
  unfold State.refresh State.Cached
  by_cases hpos : s.ring.serverDataPos = -1
  · exact .inl ⟨hpos, if_pos hpos⟩
  · exact .inr ⟨_, if_neg hpos, h.server.resolve_left hpos, Nat.le_refl _⟩

theorem State.Cached.frame {N : RingSize} {s s' : State} (h : s.Cached N)
    (hF : s.ring.fAbs ≤ s'.ring.fAbs) (hpos : s'.s_cachedServerPos = s.s_cachedServerPos)
    (hQ : s'.cachedAbs = s.cachedAbs) : s'.Cached N := by
  obtain ⟨hnone, hQnone⟩ | ⟨Q, hsome, hmod, hle⟩ := h
  · exact .inl ⟨hpos.trans hnone, hQ.trans hQnone⟩
  · exact .inr ⟨Q, hQ.trans hsome, hpos.trans hmod, hle.trans hF⟩

/-! ### What every step keeps -/

/-- The item of the push the client is in. -/
def ClientPC.held : ClientPC → Option Item
  | .idle | .building | .exited => none
  | .item it | .predict it | .write it => some it
  | .setFlag it _ | .cachedTest it _ | .reload it _ | .liveTest it _ => some it
  | .stall it _ | .waiting it _ | .clearPos it _ | .clearFlag it _ => some it

structure Tracked (N : RingSize) (s : State) : Prop where
  ring : Placed N s.ring
  idle : s.client = .idle ↔ s.ring.s_curBatchStartPos = -1
  held : ∀ it, s.client.held = some it → ∀ p ∈ it.pulls, Fits N p
  pulling : s.server ≠ .pulling → s.ring.pulling = []
  cached : s.Cached N

theorem tracked_start (N : RingSize) : Tracked N start where
  ring := placed_start N
  idle := iff_of_true rfl rfl
  held := nofun
  pulling _ := rfl
  cached := .inl ⟨rfl, rfl⟩

theorem Tracked.isOpen {N : RingSize} {s : State} (h : Tracked N s) {pc : ClientPC}
    (hc : s.client = pc) (hpc : pc ≠ .idle) : s.ring.s_curBatchStartPos ≠ -1 := by
  intro hs
  exact hpc (hc.symm.trans (h.idle.mpr hs))

/-- A step of the client within a push. -/
theorem Tracked.inPush {N : RingSize} {s s' : State} (h : Tracked N s) {it : Item}
    (hheld : s.client.held = some it) (hpc : s'.client ≠ .idle)
    (hheld' : ∀ it', s'.client.held = some it' → it' = it) (hring : s'.ring = s.ring)
    (hserver : s'.server = s.server) (hcached : s'.Cached N) : Tracked N s' where
  ring := hring ▸ h.ring
  idle := by
    refine iff_of_false hpc ?_
    rw [hring]
    refine h.isOpen rfl fun hidle => ?_
    rw [hidle] at hheld
    cases hheld
  held it' h' := by
    rw [hheld' it' h']
    exact h.held it hheld
  pulling := by
    rw [hserver, hring]
    exact h.pulling
  cached := hcached

/-- A step of the server. -/
theorem Tracked.onServer {N : RingSize} {s s' : State} (h : Tracked N s) (hring : Placed N s'.ring)
    (hc : s'.client = s.client) (hcur : s'.ring.s_curBatchStartPos = s.ring.s_curBatchStartPos)
    (hF : s.ring.fAbs ≤ s'.ring.fAbs) (hpos : s'.s_cachedServerPos = s.s_cachedServerPos)
    (hQ : s'.cachedAbs = s.cachedAbs) (hpull : s'.server ≠ .pulling → s'.ring.pulling = []) :
    Tracked N s' where
  ring := hring
  idle := by
    rw [hc, hcur]
    exact h.idle
  held := by
    rw [hc]
    exact h.held
  pulling := hpull
  cached := h.cached.frame hF hpos hQ

/-- What a step needs: the client sends no object as long as the ring. -/
def SendsFit (N : RingSize) : Act → Prop
  | .send it => ∀ p ∈ it.pulls, Fits N p
  | _        => True

instance decidableSendsFit (N : RingSize) : (a : Act) → Decidable (SendsFit N a)
  | .send it => inferInstanceAs (Decidable (∀ p ∈ it.pulls, Fits N p))
  | .begin | .done | .client | .wake | .server => .isTrue trivial

theorem tracked_step {N : RingSize} {s s' : State} {a : Act} (h : Tracked N s) (ha : SendsFit N a)
    (hs : step N s a = some s') : Tracked N s' := by
  cases move_of_step hs with
  | begin hc =>
      have hopen : s.ring.begin.s_curBatchStartPos ≠ -1 := by
        show (s.ring.m_pos : Int) ≠ -1
        omega
      exact ⟨h.ring.begin (h.idle.mp hc), iff_of_false nofun hopen, nofun, h.pulling, h.cached⟩
  | send hc =>
      refine ⟨h.ring, iff_of_false nofun (h.isOpen hc nofun), ?_, h.pulling, h.cached⟩
      rintro it ⟨⟩
      exact ha
  | done hc =>
      exact ⟨h.ring.done (h.isOpen hc nofun), iff_of_true rfl rfl, nofun, h.pulling, h.cached⟩
  | @write it hc =>
      have hopen := h.isOpen hc nofun
      have hopen' : (s.ring.push N it).s_curBatchStartPos ≠ -1 := hopen
      have hfit := h.held it (congrArg ClientPC.held hc)
      exact ⟨h.ring.push hopen hfit, iff_of_false nofun hopen', nofun, h.pulling, h.cached⟩
  | refresh hc | reload hc =>
      refine h.inPush (congrArg ClientPC.held hc) nofun ?_ rfl rfl (cached_refresh h.ring)
      rintro _ ⟨⟩
      rfl
  | age hc | doubleOverflow hc | rollover hc | onLap hc | setFlag hc | toReload hc | toStall hc
  | request hc | wake hc _ | clearPos hc =>
      refine h.inPush (congrArg ClientPC.held hc) nofun ?_ rfl rfl h.cached
      rintro _ ⟨⟩
      rfl
  | exit hc => exact h.inPush (congrArg ClientPC.held hc) nofun nofun rfl rfl h.cached
  | @pass it stalled hc _ =>
      have hheld : s.client.held = some it := by rcases hc with hc | hc <;> (rw [hc]; rfl)
      refine h.inPush hheld nofun ?_ rfl rfl h.cached
      rintro _ ⟨⟩
      rfl
  | @clearFlag it second hc =>
      refine h.inPush (congrArg ClientPC.held hc) ?_ ?_ rfl rfl h.cached
      · cases second <;> nofun
      · cases second <;> (rintro _ ⟨⟩; rfl)
  | popHeader hsrv hq =>
      have hempty : s.ring.pulling = [] := h.pulling (by rw [hsrv]; nofun)
      exact h.onServer (h.ring.popHeader hq hempty) rfl rfl (Nat.le_refl _) rfl rfl
        fun hne => absurd rfl hne
  | pull hsrv hq =>
      exact h.onServer (h.ring.pull hq) rfl rfl (Nat.le_refl _) rfl rfl
        fun hne => absurd hsrv hne
  | publish _ hq => exact h.onServer h.ring.publish rfl rfl h.ring.finished rfl rfl fun _ => hq
  | skip hsrv =>
      have hpull : s.server ≠ .pulling := by
        rcases hsrv with ⟨hs, -⟩ | ⟨hs, -⟩ | ⟨hs, -⟩ <;> (rw [hs]; nofun)
      exact h.onServer h.ring rfl rfl (Nat.le_refl _) rfl rfl fun _ => h.pulling hpull
  | check hsrv _ | compare hsrv _ | flagTest hsrv _ | release hsrv | clear hsrv =>
      exact h.onServer h.ring rfl rfl (Nat.le_refl _) rfl rfl
        fun _ => h.pulling (by rw [hsrv]; nofun)

end RemixBridge.SyncDataQueue
