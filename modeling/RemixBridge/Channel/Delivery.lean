import RemixBridge.Support.Mailbox
import RemixBridge.Channel.NoOverwrite
import RemixBridge.Channel.RoundTrip

/-!
# Channel — Delivery

The data ring with its contents, under the steps of both processes: what the client's senders store,
what the server's pulls read, and the protocol of `SyncDataQueue` that lets the client go round.
The server's program pulls a word for a word and an object for an object (`WireAgreement`); where
its pull leaves it depends on the size word that it reads.

* `Inv`: the memory holds what has been pushed and not been pulled.
* `step_mailbox`: a step is one of a mailbox of whole commands, or none.
* `delivery`: each command arrives as it was sent, in its turn.
-/

namespace RemixBridge.Delivery
open Runs DataRing
open SyncDataQueue (Ring ClientPC ServerPC)

/-- The protocol's state and the contents.  `pushing` is the argument of the client's sender, `cur`
what was pushed of the open command, `commands` the finished commands, `pulling` what the server's
program has yet to pull of its command, and `pulled` what it has pulled. -/
structure State where
  sync : SyncDataQueue.State
  m_data : Memory
  pushing : Push
  cur : List Push
  commands : List (List Push)
  pulling : List Datum
  pulled : List Pulled

inductive Act where
  | begin
  | send (p : Push)
  | done
  | client
  | wake
  | server
  deriving DecidableEq

/-- The step of the protocol. -/
def Act.sync : Act → SyncDataQueue.Act
  | .begin  => .begin
  | .send p => .send p.item
  | .done   => .done
  | .client => .client
  | .wake   => .wake
  | .server => .server

/-- The pull of the server's program. -/
def readerOp : Datum → ReaderOp
  | .word _ => .pull
  | .obj _  => .pullObj

/-- The next access of the server: a pull gives what lies at its position and leaves it where that
says. -/
def State.serve (N : RingSize) (s : State) (sync : SyncDataQueue.State) : Option State :=
  match s.sync.server, s.commands, s.pulling with
  | .idle, ps :: rest, _ =>
      some { s with sync := sync, commands := rest, pulling := dataOf ps, pulled := [] }
  | .pulling, _, d :: ds =>
      (pullOp N.size s.m_data s.sync.ring.readPos (readerOp d)).map fun r =>
        { s with
          sync := { sync with
            ring := { sync.ring with readPos := r.2 }
            serverResetPosRequired :=
              s.sync.serverResetPosRequired && !decide (r.2 < s.sync.ring.readPos) }
          pulling := ds
          pulled := s.pulled ++ [r.1] }
  | _, _, _ => some { s with sync := sync }

/-- What the step does besides the protocol's. -/
def State.effect (N : RingSize) (s : State) (sync : SyncDataQueue.State) : Act → Option State
  | .begin  => some { s with sync := sync, cur := [] }
  | .send p => some { s with sync := sync, pushing := p }
  | .done   => some { s with sync := sync, commands := s.commands ++ [s.cur] }
  | .client =>
      match s.sync.client with
      | .write _ =>
          some { s with
            sync := sync
            m_data := s.pushing.store N.size s.m_data s.sync.ring.m_pos
            cur := s.cur ++ [s.pushing] }
      | _ => some { s with sync := sync }
  | .wake   => some { s with sync := sync }
  | .server => s.serve N sync

def step (N : RingSize) (s : State) (a : Act) : Option State :=
  (SyncDataQueue.step N s.sync a.sync).bind fun sync => s.effect N sync a

def start (m_data : Memory) : State where
  sync := SyncDataQueue.start
  m_data := m_data
  pushing := .word 0
  cur := []
  commands := []
  pulling := []
  pulled := []

/-- What the pulls of a command give. -/
def message (ps : List Push) : List Pulled := (dataOf ps).map Datum.pulled

/-- A finished command is a message put, and one that the server has come to the end of a message
taken. -/
def obs (s : State) : Act → List (Mailbox.Event (List Pulled))
  | .done => if s.sync.client = .building then [.put (message s.cur)] else []
  | .server => if s.sync.server = .pulling ∧ s.pulling = [] then [.taken s.pulled] else []
  | _ => []

/-! ### The memory -/

theorem pulls_item (p : Push) : p.item.pulls = p.data.map Datum.pull := by
  cases p with
  | word w => rfl
  | many ws =>
      show List.replicate ws.length .word = (ws.map Datum.word).map Datum.pull
      rw [List.map_map, ← List.map_const']
      rfl
  | obj bytes => rfl

theorem pulls_items (ps : List Push) :
    (ps.map Push.item).flatMap Item.pulls = (dataOf ps).map Datum.pull := by
  rw [dataOf, List.map_flatMap, List.flatMap_map]
  exact List.flatMap_congr fun p _ => pulls_item p

section Memory

variable {m_size : Nat} (hn : 0 < m_size)
include hn

/-- What lies between two positions stays there as long as their words do. -/
theorem holds_congr {mem mem' : Memory} {ds : List Datum} {a e : Nat}
    (hfit : ∀ size, Pull.obj size ∈ ds.map Datum.pull → chunkSize size < m_size)
    (hmem : ∀ x i, a ≤ x → x < pullsAbs m_size a (ds.map Datum.pull) → i / 4 = x % m_size →
      mem' i = mem i)
    (h : Holds m_size mem (a % m_size) ds e) : Holds m_size mem' (a % m_size) ds e := by
  induction ds generalizing a with
  | nil => exact h
  | cons d ds ih =>
      have hd : ∀ size, d.pull = .obj size → chunkSize size < m_size :=
        fun size hs => hfit size (hs ▸ List.mem_cons_self)
      have hlt : a < pullAbs m_size a d.pull := lt_pullAbs hn a _
      have hle : pullAbs m_size a d.pull ≤
          pullsAbs m_size (pullAbs m_size a d.pull) (ds.map Datum.pull) := le_pullsAbs hn _ _
      have hmem₁ : ∀ x i, a ≤ x → x < pullAbs m_size a d.pull → i / 4 = x % m_size →
          mem' i = mem i := fun x i hax hxb => hmem x i hax (hxb.trans_le hle)
      have hmem₂ : ∀ x i, pullAbs m_size a d.pull ≤ x →
          x < pullsAbs m_size (pullAbs m_size a d.pull) (ds.map Datum.pull) → i / 4 = x % m_size →
            mem' i = mem i := fun x i hax => hmem x i (hlt.le.trans hax)
      refine ⟨Datum.at_congr (fun i hi => ?_) h.1, ?_⟩
      · obtain ⟨x, hx, hax, hxb⟩ := Datum.words_mod hn hd a hi
        exact hmem₁ x i hax hxb hx
      · have hrest := h.2
        rw [pullPos_mod hn a hd] at hrest ⊢
        exact ih (fun size hs => hfit size (List.mem_cons_of_mem _ hs)) hmem₂ hrest

/-- A push leaves the words of the lap before it. -/
theorem store_frame_push {p : Push}
    (hfit : ∀ bytes, p = .obj bytes → chunkSize bytes.length < m_size) (mem : Memory)
    {a x i : Nat} (hx : x < a) (hlap : p.item.pushAbs m_size a ≤ x + m_size)
    (hi : i / 4 = x % m_size) : p.store m_size mem (a % m_size) i = mem i := by
  have hdata := store_data hn mem a [p] fun bytes hb => hfit bytes (List.mem_singleton.mp hb).symm
  have hpush : (store m_size mem (a % m_size) [p]).1 = p.store m_size mem (a % m_size) := rfl
  rw [← hpush, hdata]
  have hlist : [p].flatMap Push.data = p.data := List.flatMap_singleton ..
  rw [hlist]
  refine store_frame hn (fun size hs => ?_) mem hx ?_ hi
  · cases p with
    | word w => cases List.mem_singleton.mp hs
    | many ws =>
        obtain ⟨d, hd, hpull⟩ := List.mem_map.mp hs
        obtain ⟨w, -, rfl⟩ := List.mem_map.mp hd
        cases hpull
    | obj bytes =>
        cases List.mem_singleton.mp hs
        exact hfit bytes rfl
  · rw [← Push.pushAbs_data]
    exact hlap

end Memory

/-! ### The invariant -/

/-- What was pushed of the open command. -/
def State.opened (s : State) : List Datum :=
  if s.sync.ring.s_curBatchStartPos = -1 then [] else dataOf s.cur

/-- What was pushed and has not been pulled. -/
def State.pending (s : State) : List Datum := s.pulling ++ s.commands.flatMap dataOf ++ s.opened

structure Inv (N : RingSize) (s : State) : Prop where
  sync : SyncDataQueue.Inv N s.sync
  cur : s.sync.ring.cur = s.cur.map Push.item
  commands : s.sync.ring.commands = s.commands.map fun ps => ps.map Push.item
  pulling : s.sync.ring.pulling = s.pulling.map Datum.pull
  pushing : ∀ it, s.sync.client.held = some it → it = s.pushing.item
  holds : Holds N.size s.m_data (s.sync.ring.rAbs % N.size) s.pending
    (s.sync.ring.cAbs % N.size)

/-- The messages that wait: the one that the server is in, and the finished ones. -/
def State.mail (s : State) : List (List Pulled) :=
  (if s.sync.server = .pulling then [s.pulled ++ s.pulling.map Datum.pulled] else []) ++
    s.commands.map message

theorem inv_start (N : RingSize) (m_data : Memory) : Inv N (start m_data) where
  sync := SyncDataQueue.inv_start N
  cur := rfl
  commands := rfl
  pulling := rfl
  pushing := nofun
  holds := rfl

variable {N : RingSize} {s s' : State} {sync : SyncDataQueue.State}

/-- The pulls of what is pending are those of the ring. -/
theorem Inv.pulls (h : Inv N s) : s.pending.map Datum.pull = s.sync.ring.pending ++
    if s.sync.ring.s_curBatchStartPos = -1 then [] else s.sync.ring.cur.flatMap Item.pulls := by
  have hcommands : (s.commands.flatMap dataOf).map Datum.pull =
      s.sync.ring.commands.flatMap fun items => items.flatMap Item.pulls := by
    rw [h.commands, List.map_flatMap, List.flatMap_map]
    exact List.flatMap_congr fun ps _ => (pulls_items ps).symm
  have hopened : s.opened.map Datum.pull = if s.sync.ring.s_curBatchStartPos = -1 then [] else
      s.sync.ring.cur.flatMap Item.pulls := by
    unfold State.opened
    split
    · rfl
    · rw [h.cur, pulls_items]
  rw [State.pending, List.map_append, List.map_append, hcommands, hopened, ← h.pulling]
  rfl

/-- They end where the writer is. -/
theorem Inv.ends (h : Inv N s) :
    pullsAbs N.size s.sync.ring.rAbs (s.pending.map Datum.pull) = s.sync.ring.cAbs := by
  have hring := h.sync.ring
  rw [h.pulls, pullsAbs_append, hring.pending]
  unfold Ring.base
  split
  · rfl
  · exact hring.cur ‹_›

theorem Inv.fits (h : Inv N s) :
    ∀ size, Pull.obj size ∈ s.pending.map Datum.pull → chunkSize size < N.size := by
  intro size hs
  rw [h.pulls] at hs
  refine h.sync.ring.fits (.obj size) ?_ size rfl
  rcases List.mem_append.mp hs with hs | hs
  · exact List.mem_append_left _ hs
  · split at hs
    · cases hs
    · exact List.mem_append_right _ hs

theorem Inv.pulling_nil (h : Inv N s) (hserver : s.sync.server ≠ .pulling) : s.pulling = [] := by
  have hpulling := h.pulling
  rw [h.sync.handshake.pulling hserver] at hpulling
  exact List.map_eq_nil_iff.mp hpulling.symm

/-- The front command lies from where the server is. -/
theorem Inv.front (h : Inv N s) (hserver : s.sync.server ≠ .pulling) {ps : List Push}
    {cs : List (List Push)} (hcs : s.commands = ps :: cs) :
    FitsLap N.size s.sync.ring.rAbs ps ∧
      pullsAbs N.size s.sync.ring.rAbs ((dataOf ps).map Datum.pull) ≤ s.sync.ring.cAbs ∧
      Holds N.size s.m_data (s.sync.ring.rAbs % N.size) (dataOf ps)
        (pullsAbs N.size s.sync.ring.rAbs ((dataOf ps).map Datum.pull) % N.size) := by
  have hring := h.sync.ring
  have hpending : s.pending = dataOf ps ++ (cs.flatMap dataOf ++ s.opened) := by
    rw [State.pending, h.pulling_nil hserver, hcs, List.nil_append, List.flatMap_cons,
      List.append_assoc]
  have hwritten : pullsAbs N.size s.sync.ring.rAbs ((dataOf ps).map Datum.pull) ≤
      s.sync.ring.cAbs := by
    rw [← h.ends, hpending, List.map_append, pullsAbs_append]
    exact le_pullsAbs N.pos _ _
  have hchunk : ∀ size, Pull.obj size ∈ (dataOf ps).map Datum.pull →
      chunkSize size < N.size := by
    intro size hs
    refine h.fits size ?_
    rw [hpending, List.map_append]
    exact List.mem_append_left _ hs
  refine ⟨⟨fun bytes hb => ?_, ?_⟩, hwritten, ?_⟩
  · have hlt := hchunk bytes.length (List.mem_map.mpr
      ⟨.obj bytes, List.mem_flatMap.mpr ⟨_, hb, List.mem_singleton.mpr rfl⟩, rfl⟩)
    have hword := N.lt_word
    refine ⟨hlt, ?_⟩
    unfold chunkSize at hlt
    omega
  · exact hwritten.trans (hring.lap.trans (Nat.add_le_add_right hring.finished _))
  · have hall := h.holds
    rw [hpending] at hall
    obtain ⟨m, hfirst, -⟩ := holds_append.mp hall
    have hm := hfirst.end_eq
    rw [foldl_pullPos_mod N.pos _ hchunk] at hm
    rw [hm] at hfirst
    exact hfirst

/-- Where only the client or the server goes on within a call, the contents stay. -/
theorem Inv.frame (h : Inv N s) (hsync : SyncDataQueue.Inv N sync) (hring : sync.ring = s.sync.ring)
    (hheld : ∀ it, sync.client.held = some it → s.sync.client.held = some it) :
    Inv N { s with sync := sync } where
  sync := hsync
  cur := by rw [hring]; exact h.cur
  commands := by rw [hring]; exact h.commands
  pulling := by rw [hring]; exact h.pulling
  pushing it hit := h.pushing it (hheld it hit)
  holds := by
    have hholds := h.holds
    unfold State.pending State.opened at hholds ⊢
    rw [hring]
    exact hholds

/-- An object that is pushed is shorter than the ring. -/
theorem Inv.pushing_fits (h : Inv N s) {it : Item} (hc : s.sync.client = .write it)
    (hf : SyncDataQueue.FitsRing N s.sync.ring it) {bytes : List Byte}
    (hbytes : s.pushing = .obj bytes) : chunkSize bytes.length < N.size := by
  have hit : it = s.pushing.item := h.pushing it (congrArg ClientPC.held hc)
  refine hf.fits h.sync.ring (h.sync.client.isOpen hc nofun) (.obj bytes.length) ?_ bytes.length rfl
  rw [hit, hbytes]
  exact List.mem_cons_self

/-- A push leaves the words that were written and that the server has not finished with. -/
theorem Inv.store_frame (h : Inv N s) {it : Item} (hc : s.sync.client = .write it)
    (hf : SyncDataQueue.FitsRing N s.sync.ring it) {x i : Nat} (hfinished : s.sync.ring.fAbs ≤ x)
    (hx : x < s.sync.ring.cAbs) (hi : i / 4 = x % N.size) :
    s.pushing.store N.size s.m_data s.sync.ring.m_pos i = s.m_data i := by
  have hit : it = s.pushing.item := h.pushing it (congrArg ClientPC.held hc)
  have hroom : s.pushing.item.pushAbs N.size s.sync.ring.cAbs ≤ s.sync.ring.fAbs + N.size :=
    hit ▸ h.sync.client.write it hc hf
  rw [h.sync.ring.m_pos]
  -- they are a lap away from those that are written
  exact store_frame_push N.pos (fun bytes hb => h.pushing_fits hc hf hb) _ hx (by omega) hi

/-- The client's push. -/
theorem Inv.push (h : Inv N s) {it : Item} (hc : s.sync.client = .write it)
    (hf : SyncDataQueue.FitsRing N s.sync.ring it)
    (hsync : SyncDataQueue.Inv N
      { s.sync with client := .building, ring := s.sync.ring.push N it }) :
    Inv N { s with
      sync := { s.sync with client := .building, ring := s.sync.ring.push N it }
      m_data := s.pushing.store N.size s.m_data s.sync.ring.m_pos
      cur := s.cur ++ [s.pushing] } := by
  have hring := h.sync.ring
  have hopen : s.sync.ring.s_curBatchStartPos ≠ -1 := h.sync.client.isOpen hc nofun
  have hit : it = s.pushing.item := h.pushing it (congrArg ClientPC.held hc)
  have hroom : s.pushing.item.pushAbs N.size s.sync.ring.cAbs ≤ s.sync.ring.fAbs + N.size :=
    hit ▸ h.sync.client.write it hc hf
  have hfinished : s.sync.ring.fAbs ≤ s.sync.ring.rAbs := hring.finished
  have hends := h.ends
  have hstart : s.sync.ring.rAbs ≤ s.sync.ring.cAbs := by
    rw [← hends]
    exact le_pullsAbs N.pos _ _
  have hobj : ∀ bytes, s.pushing = .obj bytes →
      chunkSize bytes.length < N.size ∧ bytes.length < 2 ^ 32 := by
    intro bytes hbytes
    have hfits := h.pushing_fits hc hf hbytes
    have hword := N.lt_word
    refine ⟨hfits, ?_⟩
    unfold chunkSize at hfits
    omega
  have hpushPos : s.pushing.item.pushPos N.size (s.sync.ring.cAbs % N.size) =
      s.pushing.item.pushAbs N.size s.sync.ring.cAbs % N.size := by
    refine Item.pushPos_mod N.pos _ _ fun size hs => ?_
    rw [← hit] at hs
    exact hf.fits hring hopen (.obj size) (by rw [hs]; exact List.mem_cons_self) size rfl
  have hpending : s.pulling ++ s.commands.flatMap dataOf ++
      (if s.sync.ring.s_curBatchStartPos = -1 then [] else dataOf (s.cur ++ [s.pushing])) =
        s.pending ++ dataOf [s.pushing] := by
    rw [State.pending, State.opened, if_neg hopen, if_neg hopen, dataOf_append, List.append_assoc]
    simp only [List.append_assoc]
  refine ⟨hsync, ?_, h.commands, h.pulling, nofun, ?_⟩
  · show s.sync.ring.cur ++ [it] = _
    rw [h.cur, List.map_append, hit]
    rfl
  · show Holds N.size (s.pushing.store N.size s.m_data s.sync.ring.m_pos)
      (s.sync.ring.rAbs % N.size) (s.pulling ++ s.commands.flatMap dataOf ++
        (if s.sync.ring.s_curBatchStartPos = -1 then [] else dataOf (s.cur ++ [s.pushing])))
      (it.pushAbs N.size s.sync.ring.cAbs % N.size)
    rw [hpending]
    have hold : Holds N.size (s.pushing.store N.size s.m_data s.sync.ring.m_pos)
        (s.sync.ring.rAbs % N.size) s.pending (s.sync.ring.cAbs % N.size) := by
      refine holds_congr N.pos h.fits (fun x i hx hxe hi => ?_) h.holds
      rw [hends] at hxe
      exact h.store_frame hc hf (hfinished.trans hx) hxe hi
    rw [hring.m_pos] at hold ⊢
    have hlap : FitsLap N.size s.sync.ring.cAbs [s.pushing] := by
      refine ⟨fun bytes hb => hobj bytes (List.mem_singleton.mp hb).symm, ?_⟩
      have hdata : dataOf [s.pushing] = s.pushing.data := List.flatMap_singleton ..
      rw [hdata, ← Push.pushAbs_data]
      omega
    have hnew := holds_store N.pos s.m_data hlap
    refine holds_append.mpr ⟨_, hold, ?_⟩
    have hend : (store N.size s.m_data (s.sync.ring.cAbs % N.size) [s.pushing]).2 =
        it.pushAbs N.size s.sync.ring.cAbs % N.size := by
      rw [hit, ← hpushPos]
      rfl
    rw [hend] at hnew
    exact hnew

/-- The server's pull reads what was pushed, and leaves it where the next datum is. -/
theorem Inv.pull (h : Inv N s) {d : Datum} {ds : List Datum} (hp : s.pulling = d :: ds) :
    pullOp N.size s.m_data s.sync.ring.readPos (readerOp d) =
        some (d.pulled, pullPos N.size s.sync.ring.readPos d.pull) ∧
      Holds N.size s.m_data (pullAbs N.size s.sync.ring.rAbs d.pull % N.size)
        (ds ++ s.commands.flatMap dataOf ++ s.opened) (s.sync.ring.cAbs % N.size) := by
  have hpending : s.pending = d :: (ds ++ s.commands.flatMap dataOf ++ s.opened) := by
    rw [State.pending, hp, List.cons_append, List.cons_append]
  have hfits := h.fits
  have hholds := h.holds
  rw [hpending] at hfits hholds
  have hd : ∀ size, d.pull = .obj size → chunkSize size < N.size :=
    fun size hs => hfits size (hs ▸ List.mem_cons_self)
  have hmatches : (readerOp d).Matches d := by
    cases d <;> trivial
  refine ⟨?_, ?_⟩
  · rw [h.sync.ring.readPos]
    exact pullOp_at hmatches hholds.1 fun size hs => (hd size hs).le
  · have hrest := hholds.2
    rwa [pullPos_mod N.pos _ hd] at hrest

/-! ### What a step does -/

/-- The client goes on within a push. -/
structure Within (s sync : SyncDataQueue.State) : Prop where
  ring : sync.ring = s.ring
  server : sync.server = s.server
  client : sync.client ≠ .building
  held : ∀ it, sync.client.held = some it → s.client.held = some it

theorem within_wake {s sync : SyncDataQueue.State}
    (hs : SyncDataQueue.step N s .wake = some sync) : Within s sync := by
  cases SyncDataQueue.move_of_step hs with
  | wake hc =>
      refine ⟨rfl, rfl, nofun, fun it hit => ?_⟩
      rw [hc]
      exact hit

theorem within_client {s sync : SyncDataQueue.State}
    (hs : SyncDataQueue.step N s .client = some sync) (hc : ∀ it, s.client ≠ .write it) :
    Within s sync := by
  cases SyncDataQueue.move_of_step hs with
  | write hw => exact absurd hw (hc _)
  | age hc | refresh hc | doubleOverflow hc | rollover hc | onLap hc | setFlag hc | toReload hc
  | reload hc | toStall hc | request hc | clearPos hc =>
      refine ⟨rfl, rfl, nofun, fun it hit => ?_⟩
      rw [hc]
      exact hit
  | exit hc => exact ⟨rfl, rfl, nofun, nofun⟩
  | pass hc =>
      refine ⟨rfl, rfl, nofun, fun it hit => ?_⟩
      rcases hc with hc | hc <;> (rw [hc]; exact hit)
  | @clearFlag it second hc =>
      refine ⟨rfl, rfl, ?_, fun it hit => ?_⟩
      · cases second <;> nofun
      · rw [hc]
        cases second <;> exact hit

/-- The client pushes, or goes on within a push. -/
theorem client_cases (hs : SyncDataQueue.step N s.sync .client = some sync)
    (heff : s.effect N sync .client = some s') :
    (∃ it, s.sync.client = .write it ∧
      sync = { s.sync with client := .building, ring := s.sync.ring.push N it } ∧
      s' = { s with
        sync := sync
        m_data := s.pushing.store N.size s.m_data s.sync.ring.m_pos
        cur := s.cur ++ [s.pushing] }) ∨
    s' = { s with sync := sync } ∧ Within s.sync sync := by
  by_cases hw : ∃ it, s.sync.client = .write it
  · obtain ⟨it, hit⟩ := hw
    have hstep : s.sync.clientStep N = some sync := hs
    simp only [SyncDataQueue.State.clientStep, hit, Option.some.injEq] at hstep
    unfold State.effect at heff
    rw [hit] at heff
    cases heff
    exact .inl ⟨it, hit, hstep.symm, rfl⟩
  · have hnot : ∀ it, s.sync.client ≠ .write it := fun it hit => hw ⟨it, hit⟩
    have heq : s.effect N sync .client = some { s with sync := sync } := by
      simp only [State.effect]
    rw [heq] at heff
    cases heff
    exact .inr ⟨rfl, within_client hs hnot⟩

/-- The server takes a header, pulls a datum, comes to the end of its command, or answers a
stall. -/
inductive Serves (N : RingSize) (s : State) (sync : SyncDataQueue.State) : State → Prop where
  | take {ps : List Push} {cs : List (List Push)} (hserver : s.sync.server = .idle)
      (hcs : s.commands = ps :: cs)
      (hring : sync.ring =
        s.sync.ring.popHeader (ps.map Push.item) (cs.map fun ps => ps.map Push.item))
      (server : sync.server = .pulling) (client : sync.client = s.sync.client) :
      Serves N s sync { s with sync := sync, commands := cs, pulling := dataOf ps, pulled := [] }
  | pull {d : Datum} {ds : List Datum} (hserver : s.sync.server = .pulling)
      (hds : s.pulling = d :: ds)
      (hring : sync.ring = s.sync.ring.pull N d.pull (ds.map Datum.pull))
      (server : sync.server = .pulling) (client : sync.client = s.sync.client) :
      Serves N s sync { s with sync := sync, pulling := ds, pulled := s.pulled ++ [d.pulled] }
  | publish (hserver : s.sync.server = .pulling) (hnone : s.pulling = [])
      (hring : sync.ring = s.sync.ring.publish) (server : sync.server = .checking)
      (client : sync.client = s.sync.client) : Serves N s sync { s with sync := sync }
  | rest (hidle : s.sync.server ≠ .idle) (hpulling : s.sync.server ≠ .pulling)
      (hring : sync.ring = s.sync.ring) (server : sync.server ≠ .pulling)
      (client : sync.client = s.sync.client) : Serves N s sync { s with sync := sync }

theorem serve_silent (hidle : s.sync.server ≠ .idle)
    (hpulling : s.sync.server = .pulling → s.pulling = []) :
    s.serve N sync = some { s with sync := sync } := by
  unfold State.serve
  split
  · exact absurd ‹_› hidle
  · next hs hp => exact absurd ((hpulling hs).symm.trans hp) nofun
  · rfl

theorem server_cases (h : Inv N s) (hs : s.sync.serverStep N = some sync)
    (heff : s.serve N sync = some s') : Serves N s sync s' := by
  cases hsrv : s.sync.server with
  | idle =>
      cases hcs : s.commands with
      | nil =>
          have hcommands := h.commands
          rw [hcs] at hcommands
          simp only [SyncDataQueue.State.serverStep, hsrv, hcommands, List.map_nil] at hs
          cases hs
      | cons ps cs =>
          have hcommands := h.commands
          rw [hcs] at hcommands
          simp only [SyncDataQueue.State.serverStep, hsrv, hcommands, List.map_cons] at hs
          simp only [State.serve, hsrv, hcs] at heff
          cases hs
          cases heff
          exact .take hsrv hcs rfl rfl rfl
  | pulling =>
      cases hds : s.pulling with
      | nil =>
          have hpulling := h.pulling
          rw [hds] at hpulling
          simp only [SyncDataQueue.State.serverStep, hsrv, hpulling, List.map_nil] at hs
          rw [serve_silent (by rw [hsrv]; nofun) fun _ => hds] at heff
          cases hs
          cases heff
          exact .publish hsrv hds rfl rfl rfl
      | cons d ds =>
          have hpulling := h.pulling
          rw [hds] at hpulling
          simp only [SyncDataQueue.State.serverStep, hsrv, hpulling, List.map_cons] at hs
          simp only [State.serve, hsrv, hds, (h.pull hds).1, Option.map_some] at heff
          cases hs
          cases heff
          exact .pull hsrv hds rfl rfl rfl
  | _ =>
      rw [serve_silent (by rw [hsrv]; nofun) (by rw [hsrv]; nofun)] at heff
      simp only [SyncDataQueue.State.serverStep, hsrv] at hs
      cases hs
      cases heff
      refine .rest (by rw [hsrv]; nofun) (by rw [hsrv]; nofun) rfl ?_ rfl
      first
      | (show ite _ _ _ ≠ _; split <;> nofun)
      | nofun

/-! ### A step -/

/-- The step shows what a mailbox shows that goes from the one state's messages to the other's. -/
def Matched (s : State) (a : Act) (s' : State) : Prop :=
  ∃ bs, run Mailbox.step s.mail bs = some s'.mail ∧
    trace Mailbox.step Mailbox.obs s.mail bs = obs s a

/-- A step that neither finishes a command nor takes one shows nothing. -/
theorem Matched.silent {a : Act} (hobs : obs s a = []) (hmail : s'.mail = s.mail) :
    Matched s a s' :=
  ⟨[], congrArg some hmail.symm, hobs.symm⟩

/-- Where the server goes on and no message is taken, the messages stay. -/
theorem mail_frame (hserver : sync.server = s.sync.server ∨
    (sync.server ≠ .pulling ∧ s.sync.server ≠ .pulling)) :
    { s with sync := sync }.mail = s.mail := by
  unfold State.mail
  rcases hserver with hsame | ⟨hnew, hold⟩
  · rw [hsame]
  · rw [if_neg hnew, if_neg hold]

/-- The steps of the client. -/
theorem Inv.client (h : Inv N s) (hsync : SyncDataQueue.Inv N sync)
    (hsound : SyncDataQueue.Sound N s.sync .client)
    (hs : SyncDataQueue.step N s.sync .client = some sync)
    (heff : s.effect N sync .client = some s') : Matched s .client s' ∧ Inv N s' := by
  rcases client_cases hs heff with ⟨it, hc, rfl, rfl⟩ | ⟨rfl, hw⟩
  · exact ⟨.silent rfl rfl, h.push hc (hsound.2 it hc) hsync⟩
  · exact ⟨.silent rfl (mail_frame (.inl hw.server)), h.frame hsync hw.ring hw.held⟩

/-- The server takes the next command. -/
theorem Inv.popHeader (h : Inv N s) {ps : List Push} {cs : List (List Push)}
    (hidle : s.sync.server = .idle) (hcs : s.commands = ps :: cs)
    (hring : sync.ring =
      s.sync.ring.popHeader (ps.map Push.item) (cs.map fun ps => ps.map Push.item))
    (hsync : SyncDataQueue.Inv N sync) (hserver : sync.server = .pulling)
    (hclient : sync.client = s.sync.client) :
    Matched s .server { s with sync := sync, commands := cs, pulling := dataOf ps, pulled := [] } ∧
      Inv N { s with sync := sync, commands := cs, pulling := dataOf ps, pulled := [] } := by
  have hnot : s.sync.server ≠ .pulling := by
    rw [hidle]
    nofun
  have hnone : s.pulling = [] := h.pulling_nil hnot
  refine ⟨.silent (if_neg fun hp => hnot hp.1) ?_, ?_⟩
  · rw [State.mail, State.mail, if_pos hserver, if_neg hnot, hcs]
    rfl
  · exact {
      sync := hsync
      cur := by rw [hring]; exact h.cur
      commands := by rw [hring]; rfl
      pulling := by rw [hring]; exact pulls_items ps
      pushing := fun it hit => h.pushing it (by rw [← hclient]; exact hit)
      holds := by
        have hholds := h.holds
        have hpending : s.pending = dataOf ps ++ cs.flatMap dataOf ++ s.opened := by
          rw [State.pending, hnone, hcs, List.nil_append, List.flatMap_cons]
        rw [hpending] at hholds
        unfold State.pending State.opened
        rw [hring]
        exact hholds }

/-- The server pulls the next datum. -/
theorem Inv.pulled (h : Inv N s) {d : Datum} {ds : List Datum} (hpulling : s.sync.server = .pulling)
    (hds : s.pulling = d :: ds) (hring : sync.ring = s.sync.ring.pull N d.pull (ds.map Datum.pull))
    (hsync : SyncDataQueue.Inv N sync) (hserver : sync.server = .pulling)
    (hclient : sync.client = s.sync.client) :
    Matched s .server { s with sync := sync, pulling := ds, pulled := s.pulled ++ [d.pulled] } ∧
      Inv N { s with sync := sync, pulling := ds, pulled := s.pulled ++ [d.pulled] } := by
  refine ⟨.silent (if_neg fun hp => ?_) ?_, ?_⟩
  · cases hds.symm.trans hp.2
  · rw [State.mail, State.mail, if_pos hserver, if_pos hpulling, hds]
    simp only [List.map_cons, List.append_assoc, List.singleton_append]
  · exact {
      sync := hsync
      cur := by rw [hring]; exact h.cur
      commands := by rw [hring]; exact h.commands
      pulling := by rw [hring]; rfl
      pushing := fun it hit => h.pushing it (by rw [← hclient]; exact hit)
      holds := by
        have hholds := (h.pull hds).2
        unfold State.pending State.opened at *
        rw [hring]
        exact hholds }

/-- The server has come to the end of its command. -/
theorem Inv.publish (h : Inv N s) (hpulling : s.sync.server = .pulling) (hnone : s.pulling = [])
    (hring : sync.ring = s.sync.ring.publish) (hsync : SyncDataQueue.Inv N sync)
    (hserver : sync.server = .checking) (hclient : sync.client = s.sync.client) :
    Matched s .server { s with sync := sync } ∧ Inv N { s with sync := sync } := by
  refine ⟨⟨[.take], ?_, ?_⟩, ?_⟩
  · rw [State.mail, State.mail, if_pos hpulling, hserver]
    rfl
  · rw [State.mail, if_pos hpulling, hnone, List.map_nil, List.append_nil]
    exact (if_pos ⟨hpulling, hnone⟩).symm
  · exact {
      sync := hsync
      cur := by rw [hring]; exact h.cur
      commands := by rw [hring]; exact h.commands
      pulling := by rw [hring]; exact h.pulling
      pushing := fun it hit => h.pushing it (by rw [← hclient]; exact hit)
      holds := by
        have hholds := h.holds
        unfold State.pending State.opened at *
        rw [hring]
        exact hholds }

/-- The steps of the server. -/
theorem Inv.server (h : Inv N s) (hsync : SyncDataQueue.Inv N sync)
    (hs : s.sync.serverStep N = some sync) (heff : s.serve N sync = some s') :
    Matched s .server s' ∧ Inv N s' := by
  cases server_cases h hs heff with
  | take hserver hcs hring server client =>
      exact h.popHeader hserver hcs hring hsync server client
  | pull hserver hds hring server client => exact h.pulled hserver hds hring hsync server client
  | publish hserver hnone hring server client =>
      exact h.publish hserver hnone hring hsync server client
  | rest hidle hpulling hring server client =>
      refine ⟨.silent (if_neg fun hp => hpulling hp.1) (mail_frame (.inr ⟨server, hpulling⟩)),
        h.frame hsync hring fun it hit => ?_⟩
      rw [← client]
      exact hit

/-- The client opens a command. -/
theorem Inv.begin (h : Inv N s) (hidle : s.sync.client = .idle)
    (hsync : SyncDataQueue.Inv N
      { s.sync with client := .building, ring := s.sync.ring.begin }) :
    Inv N { s with
      sync := { s.sync with client := .building, ring := s.sync.ring.begin }, cur := [] } where
  sync := hsync
  cur := rfl
  commands := h.commands
  pulling := h.pulling
  pushing := nofun
  holds := by
    have hholds := h.holds
    have hopen : s.sync.ring.begin.s_curBatchStartPos ≠ -1 := by
      show (s.sync.ring.m_pos : Int) ≠ -1
      omega
    unfold State.pending State.opened at *
    rw [if_pos (h.sync.client.idle.mp hidle)] at hholds
    rw [if_neg hopen]
    exact hholds

/-- The client closes it. -/
theorem Inv.done (h : Inv N s) (hbuilding : s.sync.client = .building)
    (hsync : SyncDataQueue.Inv N { s.sync with client := .idle, ring := s.sync.ring.done }) :
    Inv N { s with
      sync := { s.sync with client := .idle, ring := s.sync.ring.done }
      commands := s.commands ++ [s.cur] } where
  sync := hsync
  cur := h.cur
  commands := by
    show s.sync.ring.commands ++ [s.sync.ring.cur] = _
    rw [h.commands, h.cur, List.map_append]
    rfl
  pulling := h.pulling
  pushing := nofun
  holds := by
    have hholds := h.holds
    have hclosed : s.sync.ring.done.s_curBatchStartPos = -1 := rfl
    unfold State.pending State.opened at *
    rw [if_neg (h.sync.client.isOpen hbuilding nofun)] at hholds
    rw [if_pos hclosed, List.flatMap_append, List.flatMap_singleton, List.append_nil,
      ← List.append_assoc]
    exact hholds

/-- **One step**: it shows what a mailbox of commands shows, and the memory goes on holding what
has been pushed and not been pulled. -/
theorem step_mailbox {a : Act} (h : Inv N s) (hsound : SyncDataQueue.Sound N s.sync a.sync)
    (hs : step N s a = some s') : Matched s a s' ∧ Inv N s' := by
  obtain ⟨sync, hsync, heff⟩ := Option.bind_eq_some_iff.mp hs
  have hinv : SyncDataQueue.Inv N sync := SyncDataQueue.inv_step h.sync hsound hsync
  cases a with
  | begin =>
      cases heff
      cases SyncDataQueue.move_of_step hsync with
      | begin hidle => exact ⟨.silent rfl rfl, h.begin hidle hinv⟩
  | send p =>
      cases heff
      cases SyncDataQueue.move_of_step hsync with
      | send hbuilding =>
          refine ⟨.silent rfl rfl, ?_⟩
          have hpushing : ∀ it, (ClientPC.item p.item).held = some it → it = p.item :=
            fun it hit => (Option.some.inj hit).symm
          exact ⟨hinv, h.cur, h.commands, h.pulling, hpushing, h.holds⟩
  | done =>
      cases heff
      cases SyncDataQueue.move_of_step hsync with
      | done hbuilding =>
          refine ⟨⟨[.put (message s.cur)], ?_, ?_⟩, h.done hbuilding hinv⟩
          · simp only [run_cons, run_nil, Mailbox.step, State.mail, List.map_append, List.map_cons,
              List.map_nil, List.append_assoc, Option.some.injEq, exists_eq_left']
          · exact (if_pos hbuilding).symm
  | client => exact h.client hinv hsound hsync heff
  | wake =>
      cases heff
      have hw := within_wake hsync
      exact ⟨.silent rfl (mail_frame (.inl hw.server)), h.frame hinv hw.ring hw.held⟩
  | server => exact h.server hinv hsync heff

/-! ### Runs -/

/-- **Delivery.**  In a run whose steps meet `SyncDataQueue.Sound`, whatever the steps' order, the
server pulls the commands that were sent, each with the words and objects it was sent with, in
their order, none lost and none twice, and what it has yet to pull is still in the ring. -/
theorem delivery (N : RingSize) (m_data : Memory) {acts : List Act} {s : State}
    (hsound : Along (step N) (fun s a => SyncDataQueue.Sound N s.sync a.sync) (start m_data) acts)
    (hr : run (step N) (start m_data) acts = some s) :
    Mailbox.sent (trace (step N) obs (start m_data) acts) =
        Mailbox.received (trace (step N) obs (start m_data) acts) ++ s.mail ∧
      Holds N.size s.m_data s.sync.ring.readPos s.pending s.sync.ring.m_pos := by
  obtain ⟨q, ⟨h, rfl⟩, hsent⟩ := Mailbox.delivers
    (R := fun s q => Inv N s ∧ q = s.mail)
    (fun s q a s' hR hC hs => by
      obtain ⟨h, rfl⟩ := hR
      obtain ⟨⟨bs, hrun, htrace⟩, h'⟩ := step_mailbox h hC hs
      exact ⟨bs, s'.mail, hrun, htrace, h', rfl⟩)
    ⟨inv_start N m_data, rfl⟩ hsound hr
  refine ⟨hsent, ?_⟩
  rw [h.sync.ring.readPos, h.sync.ring.m_pos]
  exact h.holds

/-- `count` words, each pushed by itself. -/
def wordsFrom (first count : Nat) : List Push :=
  (List.range' first count).map fun k => .word (BitVec.ofNat 32 k)

/-- 63 words in three commands; a word, an array over the start of the ring, and an object. -/
def letters : List (List Push) :=
  [wordsFrom 0 20, wordsFrom 20 20, wordsFrom 40 23,
    [.word 63, .many ((List.range' 64 41).map (BitVec.ofNat 32)), .obj [0xAB, 0xCD, 0xEF]]]

def push (p : Push) : List Act := [.send p, .client, .client, .client, .client]

/-- The run of `SyncDataQueue.goesRound` with them: the array waits for the third command to be
processed, and the object finds the copy of the position too old. -/
def delivering : List Act :=
  (letters.take 3).flatMap (fun ps => [.begin] ++ ps.flatMap push ++ [.done]) ++
    List.replicate 23 .server ++ [.begin] ++ push (.word 63) ++ List.replicate 23 .server ++
    [.send (.many ((List.range' 64 41).map (BitVec.ofNat 32)))] ++ List.replicate 6 .client ++
    List.replicate 30 .server ++ [.wake] ++ List.replicate 3 .client ++
    push (.obj [0xAB, 0xCD, 0xEF]) ++ List.replicate 2 .client ++ [.done] ++
    List.replicate 46 .server

/-- Four commands, round the ring with a stall. -/
theorem delivery_round : ∃ s,
    run (step SyncDataQueue.ring64) (start fun _ => 0) delivering = some s ∧
    Mailbox.received (trace (step SyncDataQueue.ring64) obs (start fun _ => 0) delivering) =
      letters.map message ∧
    Mailbox.sent (trace (step SyncDataQueue.ring64) obs (start fun _ => 0) delivering) =
      Mailbox.received (trace (step SyncDataQueue.ring64) obs (start fun _ => 0) delivering) ++
        s.mail := by
  have hrun : (run (step SyncDataQueue.ring64) (start fun _ => 0) delivering).isSome := by
    decide +kernel
  obtain ⟨s, h⟩ := Option.isSome_iff_exists.mp hrun
  exact ⟨s, h, by decide +kernel, (delivery SyncDataQueue.ring64 _ (by decide +kernel) h).1⟩

end RemixBridge.Delivery
