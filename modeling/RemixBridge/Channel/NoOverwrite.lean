import RemixBridge.Channel.StallHandshake

/-!
# Channel — NoOverwrite

When no word of an unfinished command is overwritten.  The invariant relates the absolute positions
of the ring (`RingInv`), what the client knows when it stands past a test (`ClientInv`), and the
stall's handshake with the server (`Handshake`).

* `no_overwrite`: no word is overwritten in a run whose steps meet `Sound`.
* `overwrite`: without it one is.
-/

namespace RemixBridge.SyncDataQueue
open Runs DataRing

/-! ### The positions of the ring -/

/-- Every word is below `bound` and in its place, and none was lost. -/
structure Owned (N : RingSize) (bound : Nat) (ws : Words) : Prop where
  at_mod : ∀ i x, ws.owner i = some x → i = x % N.size ∧ x < bound
  kept : ws.overwritten = false

theorem Owned.mono {N : RingSize} {a b : Nat} {ws : Words} (h : Owned N a ws) (hab : a ≤ b) :
    Owned N b ws :=
  ⟨fun i x hx => ⟨(h.at_mod i x hx).1, (h.at_mod i x hx).2.trans_le hab⟩, h.kept⟩

/-- A word written within a lap of the finished commands: its last owner is a lap behind. -/
theorem Owned.write {N : RingSize} {fAbs a x : Nat} {ws : Words} (h : Owned N a ws) (hax : a ≤ x)
    (hlap : x < fAbs + N.size) : Owned N (x + 1) (ws.write fAbs (x % N.size, x)) where
  at_mod i y hy := by
    have hy' : Function.update ws.owner (x % N.size) (some x) i = some y := hy
    by_cases hi : i = x % N.size
    · subst hi
      rw [Function.update_self] at hy'
      cases hy'
      exact ⟨rfl, Nat.lt_succ_self x⟩
    · rw [Function.update_of_ne hi] at hy'
      obtain ⟨hmod, hlt⟩ := h.at_mod i y hy'
      exact ⟨hmod, by omega⟩
  kept := by
    have hold : ∀ y, ws.owner (x % N.size) = some y → y < fAbs := by
      intro y hy
      obtain ⟨hmod, hlt⟩ := h.at_mod _ y hy
      by_contra hge
      have heq : y = x := (Ring.mod_eq_iff (n := N.size) (by omega) (by omega)).mp hmod.symm
      omega
    show (ws.overwritten || _) = false
    rw [h.kept, Bool.false_or]
    cases howner : ws.owner (x % N.size) with
    | none => rfl
    | some y => exact decide_eq_false (Nat.not_le_of_lt (hold y howner))

/-- Words written in order within a lap of the finished commands lose none. -/
theorem Owned.writes {N : RingSize} {fAbs a b : Nat} (hlap : b ≤ fAbs + N.size) {xs : List Nat}
    (hsorted : xs.Pairwise (· < ·)) (hxs : ∀ x ∈ xs, a ≤ x ∧ x < b) {ws : Words} (hab : a ≤ b)
    (h : Owned N a ws) :
    Owned N b (((xs.map (· % N.size)).zip xs).foldl (Words.write fAbs) ws) := by
  induction xs generalizing a ws with
  | nil => exact h.mono hab
  | cons x xs ih =>
      obtain ⟨hax, hxb⟩ := hxs x List.mem_cons_self
      obtain ⟨hx, hsorted⟩ := List.pairwise_cons.mp hsorted
      exact ih hsorted (fun y hy => ⟨hx y hy, (hxs y (List.mem_cons_of_mem _ hy)).2⟩) hxb
        (h.write hax (hxb.trans_le hlap))

/-- The writer is at most a lap ahead of the finished commands, and no word was lost. -/
structure RingInv (N : RingSize) (r : Ring) : Prop extends Placed N r where
  lap : r.cAbs ≤ r.fAbs + N.size
  owned : Owned N r.cAbs r.words

theorem ringInv_start (N : RingSize) : RingInv N start.ring :=
  { placed_start N with
    lap := Nat.zero_le _
    owned := ⟨nofun, rfl⟩ }

theorem RingInv.begin {N : RingSize} {r : Ring} (h : RingInv N r)
    (hidle : r.s_curBatchStartPos = -1) : RingInv N r.begin :=
  { h.toPlaced.begin hidle with
    lap := h.lap
    owned := h.owned }

theorem RingInv.done {N : RingSize} {r : Ring} (h : RingInv N r)
    (ho : r.s_curBatchStartPos ≠ -1) : RingInv N r.done :=
  { h.toPlaced.done ho with
    lap := h.lap
    owned := h.owned }

theorem RingInv.popHeader {N : RingSize} {r : Ring} (h : RingInv N r) {items : List Item}
    {rest : List (List Item)} (hq : r.commands = items :: rest) (hp : r.pulling = []) :
    RingInv N (r.popHeader items rest) :=
  { h.toPlaced.popHeader hq hp with
    lap := h.lap
    owned := h.owned }

theorem RingInv.pull {N : RingSize} {r : Ring} (h : RingInv N r) {p : Pull} {rest : List Pull}
    (hq : r.pulling = p :: rest) : RingInv N (r.pull N p rest) :=
  { h.toPlaced.pull hq with
    lap := h.lap
    owned := h.owned }

theorem RingInv.publish {N : RingSize} {r : Ring} (h : RingInv N r) : RingInv N r.publish :=
  { h.toPlaced.publish with
    lap := h.lap.trans (Nat.add_le_add_right h.finished _)
    owned := h.owned }

theorem RingInv.push {N : RingSize} {r : Ring} (h : RingInv N r) {it : Item}
    (ho : r.s_curBatchStartPos ≠ -1) (hfit : ∀ p ∈ it.pulls, Fits N p)
    (hroom : it.pushAbs N.size r.cAbs ≤ r.fAbs + N.size) : RingInv N (r.push N it) := by
  refine { h.toPlaced.push ho hfit with lap := hroom, owned := ?_ }
  show Owned N (it.pushAbs N.size r.cAbs) _
  rw [Ring.push, h.m_pos, Item.words_mod N.pos _ it (fits_blob hfit)]
  exact h.owned.writes hroom (it.absWords_pairwise N.pos _)
    (fun x hx => it.absWords_bounds N.pos _ hx) (le_pullsAbs N.pos _ _)

/-! ### What a push needs -/

/-- The item, with its rollover gap, ends within a lap of the command's start, and is not a sized
object that would just fill the end. -/
def FitsRing (N : RingSize) (r : Ring) (it : Item) : Prop :=
  predictedAbs N r.cAbs it < r.sAbs + N.size ∧ ¬ FillsEnd N r.m_pos it

/-- The position that is compared says enough: none was published and the item ends on the first
lap, or it is at most a lap old and, if it is of the lap before the command's, the item stays on
the command's lap and `serverResetPosRequired` is set when the indices are equal. -/
def State.Comparable (N : RingSize) (s : State) (it : Item) : Prop :=
  match s.cachedAbs with
  | none   => it.pushAbs N.size s.ring.cAbs ≤ N.size
  | some Q => s.ring.sAbs ≤ Q + N.size ∧
      (Q / N.size < s.ring.sAbs / N.size →
        predictedAbs N s.ring.cAbs it / N.size = s.ring.sAbs / N.size ∧
        (s.ring.sAbs % N.size = Q % N.size → s.serverResetPosRequired = true))

/-- What a step needs: the overwrite test of a call that has not stalled passes on a comparable
position only, an item that is written fits, and the server that answers a stall finds
`serverResetPosRequired` set while it is a lap behind the command. -/
def Sound (N : RingSize) (s : State) : Act → Prop
  | .client =>
      (∀ it, s.client = .cachedTest it false ∨ s.client = .liveTest it false →
        s.overwrites N it = false → s.Comparable N it) ∧
      ∀ it, s.client = .write it → FitsRing N s.ring it
  | .server => s.server = .flagTest → s.ring.fAbs / N.size < s.ring.sAbs / N.size →
      s.serverResetPosRequired = true
  | _ => True

section decidable

variable {N : RingSize}

instance decidableFillsEnd (m_pos : Nat) : (it : Item) → Decidable (FillsEnd N m_pos it)
  | .blob _                   => inferInstanceAs (Decidable (_ ∧ _))
  | .scalar | .many _ | .null => .isFalse id

instance (r : Ring) (it : Item) : Decidable (FitsRing N r it) := inferInstanceAs (Decidable (_ ∧ _))

instance (s : State) (it : Item) : Decidable (s.Comparable N it) := by
  unfold State.Comparable
  split <;> infer_instance

/-- The item of a test of a call that has not stalled. -/
def ClientPC.tested : ClientPC → Option Item
  | .cachedTest it false | .liveTest it false => some it
  | _ => none

theorem ClientPC.mem_tested {pc : ClientPC} {it : Item} :
    it ∈ pc.tested ↔ pc = .cachedTest it false ∨ pc = .liveTest it false := by
  unfold tested
  split <;> simp_all [eq_comm]

def ClientPC.writes : ClientPC → Option Item
  | .write it => some it
  | _         => none

theorem ClientPC.mem_writes {pc : ClientPC} {it : Item} : it ∈ pc.writes ↔ pc = .write it := by
  cases pc <;> simp [writes, eq_comm]

instance (s : State) (a : Act) : Decidable (Sound N s a) :=
  match a with
  | .client =>
      decidable_of_iff ((∀ it ∈ s.client.tested, s.overwrites N it = false → s.Comparable N it) ∧
          ∀ it ∈ s.client.writes, FitsRing N s.ring it)
        (by simp only [Sound, ClientPC.mem_tested, ClientPC.mem_writes])
  | .server => inferInstanceAs (Decidable (_ → _ → _))
  | .begin | .send _ | .done | .wake => .isTrue trivial

end decidable

/-- An item that fits ends within a lap of the finished commands. -/
def Room (N : RingSize) (r : Ring) (it : Item) : Prop :=
  FitsRing N r it → it.pushAbs N.size r.cAbs ≤ r.fAbs + N.size

theorem FitsRing.pushAbs_le {N : RingSize} {r : Ring} {it : Item} (h : RingInv N r)
    (ho : r.s_curBatchStartPos ≠ -1) (hf : FitsRing N r it) :
    it.pushAbs N.size r.cAbs ≤ predictedAbs N r.cAbs it + 1 := by
  have hle : r.sAbs ≤ r.cAbs := h.sAbs_le ho
  have hend : ¬ FillsEnd N (r.cAbs % N.size) it := h.m_pos ▸ hf.2
  exact SyncDataQueue.pushAbs_le N r.cAbs it hend
    (hf.1.trans_le (Nat.add_le_add_right hle _))

/-- An item that fits the ring is shorter than it. -/
theorem FitsRing.fits {N : RingSize} {r : Ring} {it : Item} (h : RingInv N r)
    (ho : r.s_curBatchStartPos ≠ -1) (hf : FitsRing N r it) : ∀ p ∈ it.pulls, Fits N p := by
  have hend : it.pushAbs N.size r.cAbs ≤ r.sAbs + N.size := (hf.pushAbs_le h ho).trans hf.1
  have hle : r.sAbs ≤ r.cAbs := h.sAbs_le ho
  rintro p hp size rfl
  cases it with
  | scalar => cases List.mem_singleton.mp hp
  | many count => cases (List.mem_replicate.mp hp).2
  | null =>
      cases List.mem_singleton.mp hp
      exact N.pos
  | blob _ =>
      cases List.mem_singleton.mp hp
      have hstart : r.cAbs + 1 ≤ objStart N.size (r.cAbs + 1) size := le_objStart N.pos _ _
      have hpush : (Item.blob size).pushAbs N.size r.cAbs =
        objStart N.size (r.cAbs + 1) size + chunkSize size := rfl
      omega

/-- Once the server has come to the command's start, what fits has room. -/
theorem room_of_synced {N : RingSize} {r : Ring} {it : Item} (h : RingInv N r)
    (ho : r.s_curBatchStartPos ≠ -1) (hs : r.sAbs ≤ r.fAbs) : Room N r it := by
  intro hf
  have hend := hf.pushAbs_le h ho
  have hfit := hf.1
  omega

/-- A test that passes on a copy `Q` of the server's position finds the item within a lap of it. -/
theorem predictedAbs_lt {N : RingSize} {r : Ring} {it : Item} {resetRequired : Bool} {Q : Nat}
    (h : Placed N r) (ho : r.s_curBatchStartPos ≠ -1) (hQ : Q ≤ r.fAbs)
    (hfit : predictedAbs N r.cAbs it < r.sAbs + N.size) (hlapQ : r.sAbs ≤ Q + N.size)
    (hlap : Q / N.size < r.sAbs / N.size →
      predictedAbs N r.cAbs it / N.size = r.sAbs / N.size ∧
        (r.sAbs % N.size = Q % N.size → resetRequired = true))
    (ht : wouldOverwrite r.s_curBatchStartPos (expectedPos N r.m_pos it) (Q % N.size : Nat)
      resetRequired = false) : predictedAbs N r.cAbs it < Q + N.size := by
  have hQS : Q ≤ r.sAbs := hQ.trans (h.fAbs_le ho)
  have hSC : r.sAbs ≤ r.cAbs := h.sAbs_le ho
  have hSP : r.sAbs ≤ predictedAbs N r.cAbs it := hSC.trans (le_predictedAbs N _ it)
  have hfitC : predictedAbs N r.cAbs it < r.cAbs + N.size :=
    hfit.trans_le (Nat.add_le_add_right hSC _)
  rw [h.start.resolve_left ho, h.m_pos, expectedPos_eq N _ it hfitC] at ht
  exact room_of_not_wouldOverwrite N hQS hlapQ hSP hfit hlap ht

/-- A test that passes on a comparable position leaves room. -/
theorem room_of_comparable {N : RingSize} {s : State} {it : Item} (h : RingInv N s.ring)
    (ho : s.ring.s_curBatchStartPos ≠ -1) (hcached : s.Cached N) (hc : s.Comparable N it)
    (ht : s.overwrites N it = false) : Room N s.ring it := by
  intro hf
  unfold State.Comparable at hc
  obtain ⟨-, hnone⟩ | ⟨Q, hsome, hpos, hQ⟩ := hcached
  · rw [hnone] at hc
    exact hc.trans (Nat.le_add_left _ _)
  · rw [hsome] at hc
    obtain ⟨hlapQ, hlap⟩ := hc
    rw [State.overwrites, hpos] at ht
    have hroom := predictedAbs_lt h.toPlaced ho hQ hf.1 hlapQ hlap ht
    have hend := hf.pushAbs_le h ho
    omega

/-! ### What the client knows -/

/-- The client has been let go by a stall of this call. -/
def ClientPC.synced : ClientPC → Bool
  | .setFlag _ stalled    => stalled
  | .cachedTest _ stalled => stalled
  | .reload _ stalled     => stalled
  | .liveTest _ stalled   => stalled
  | .clearPos _ _         => true
  | .clearFlag _ _        => true
  | _                     => false

structure ClientInv (N : RingSize) (s : State) : Prop where
  idle : s.client = .idle ↔ s.ring.s_curBatchStartPos = -1
  synced : s.client.synced = true → s.ring.sAbs ≤ s.ring.fAbs
  write : ∀ it, s.client = .write it → Room N s.ring it
  cached : s.Cached N

theorem ClientInv.isOpen {N : RingSize} {s : State} (h : ClientInv N s) {pc : ClientPC}
    (hc : s.client = pc) (hpc : pc ≠ .idle) : s.ring.s_curBatchStartPos ≠ -1 := by
  intro hs
  exact hpc (hc.symm.trans (h.idle.mpr hs))

/-- What the client knows stays true while the server goes on. -/
theorem ClientInv.frame {N : RingSize} {s s' : State} (h : ClientInv N s)
    (hc : s'.client = s.client) (hcur : s'.ring.s_curBatchStartPos = s.ring.s_curBatchStartPos)
    (hm : s'.ring.m_pos = s.ring.m_pos) (hC : s'.ring.cAbs = s.ring.cAbs)
    (hS : s'.ring.sAbs = s.ring.sAbs) (hF : s.ring.fAbs ≤ s'.ring.fAbs)
    (hpos : s'.s_cachedServerPos = s.s_cachedServerPos) (hQ : s'.cachedAbs = s.cachedAbs) :
    ClientInv N s' where
  idle := by rw [hc, hcur]; exact h.idle
  synced hs := by
    rw [hc] at hs
    rw [hS]
    exact (h.synced hs).trans hF
  write it hw hf := by
    rw [FitsRing, hC, hS, hm] at hf
    rw [hC]
    exact (h.write it (hc.symm.trans hw) hf).trans (Nat.add_le_add_right hF _)
  cached := h.cached.frame hF hpos hQ

/-! ### The invariant -/

structure Inv (N : RingSize) (s : State) : Prop where
  ring : RingInv N s.ring
  client : ClientInv N s
  handshake : Handshake s

theorem inv_start (N : RingSize) : Inv N start where
  ring := ringInv_start N
  client := ⟨iff_of_true rfl rfl, nofun, nofun, .inl ⟨rfl, rfl⟩⟩
  handshake := handshake_start

/-- The answer to a request finds the server at the command's start or past it. -/
theorem sAbs_le_of_flagTest {N : RingSize} {s : State} (h : Inv N s) (hs : s.server = .flagTest)
    (hlap : s.ring.sAbs / N.size ≤ s.ring.fAbs / N.size) : s.ring.sAbs ≤ s.ring.fAbs := by
  obtain ⟨he, -, hw⟩ := h.handshake.answers (by rw [hs]; rfl)
  have hreq := (h.handshake.request he).1
  have hbelow := h.handshake.below hs
  have ho : s.ring.s_curBatchStartPos ≠ -1 := by
    intro hidle
    rw [h.client.idle.mpr hidle] at hw
    cases hw
  have hstart := h.ring.start.resolve_left ho
  have hserver : s.ring.serverDataPos = (s.ring.fAbs % N.size : Nat) := by
    refine h.ring.server.resolve_left fun hnone => ?_
    omega
  have hmod : s.ring.sAbs % N.size ≤ s.ring.fAbs % N.size := by omega
  rw [← Nat.div_add_mod s.ring.sAbs N.size, ← Nat.div_add_mod s.ring.fAbs N.size]
  exact Nat.add_le_add (Nat.mul_le_mul_left _ hlap) hmod

/-- With `Sound`, the server releases only when it has come to the command's start. -/
theorem release_of_sound {N : RingSize} {s : State} {a : Act} (h : Inv N s) (hsound : Sound N s a)
    (ha : a = .server) (hs : s.server = .flagTest) (hf : s.serverResetPosRequired = false) :
    s.ring.sAbs ≤ s.ring.fAbs := by
  subst ha
  refine sAbs_le_of_flagTest h hs ?_
  by_contra hlt
  have hset := hsound hs (Nat.lt_of_not_le hlt)
  rw [hf] at hset
  cases hset

/-- A step of the client within a push that passes no test. -/
theorem clientInv_inPush {N : RingSize} {s s' : State}
    (ho : s.ring.s_curBatchStartPos ≠ -1) (hpc : s'.client ≠ .idle) (hring : s'.ring = s.ring)
    (hsync : s'.client.synced = true → s.ring.sAbs ≤ s.ring.fAbs)
    (hwrite : ∀ it, s'.client = .write it → Room N s.ring it) (hcached : s'.Cached N) :
    ClientInv N s' where
  idle := iff_of_false hpc (by rw [hring]; exact ho)
  synced := by
    rw [hring]
    exact hsync
  write := by
    rw [hring]
    exact hwrite
  cached := hcached

theorem ringInv_step {N : RingSize} {s s' : State} {a : Act} (h : Inv N s) (hsound : Sound N s a)
    (hs : step N s a = some s') : RingInv N s'.ring := by
  cases move_of_step hs with
  | begin hc => exact h.ring.begin (h.client.idle.mp hc)
  | done hc => exact h.ring.done (h.client.isOpen hc nofun)
  | @write it hc =>
      have hopen := h.client.isOpen hc nofun
      have hf : FitsRing N s.ring it := hsound.2 it hc
      exact h.ring.push hopen (hf.fits h.ring hopen) (h.client.write _ hc hf)
  | popHeader hsrv hq => exact h.ring.popHeader hq (h.handshake.pulling (by rw [hsrv]; nofun))
  | pull hsrv hq => exact h.ring.pull hq
  | publish hsrv hq => exact h.ring.publish
  | _ => exact h.ring

theorem clientInv_step {N : RingSize} {s s' : State} {a : Act} (h : Inv N s) (hsound : Sound N s a)
    (hs : step N s a = some s') : ClientInv N s' := by
  cases move_of_step hs with
  | begin hc =>
      have hopen : s.ring.begin.s_curBatchStartPos ≠ -1 := by
        show (s.ring.m_pos : Int) ≠ -1
        omega
      exact ⟨iff_of_false nofun hopen, nofun, nofun, h.client.cached⟩
  | done hc => exact ⟨iff_of_true rfl rfl, nofun, nofun, h.client.cached⟩
  | @write it hc =>
      have hopen : (s.ring.push N it).s_curBatchStartPos ≠ -1 := h.client.isOpen hc nofun
      exact ⟨iff_of_false nofun hopen, nofun, nofun, h.client.cached⟩
  | send hc | age hc | doubleOverflow hc | rollover hc | onLap hc | toStall hc | exit hc
  | request hc =>
      exact clientInv_inPush (h.client.isOpen hc nofun) nofun rfl nofun nofun h.client.cached
  | refresh hc =>
      exact clientInv_inPush (h.client.isOpen hc nofun) nofun rfl nofun nofun
        (cached_refresh h.ring.toPlaced)
  | setFlag hc | toReload hc =>
      refine clientInv_inPush (h.client.isOpen hc nofun) nofun rfl (fun hsync => h.client.synced ?_)
        nofun h.client.cached
      rw [hc]
      exact hsync
  | reload hc =>
      refine clientInv_inPush (h.client.isOpen hc nofun) nofun rfl (fun hsync => h.client.synced ?_)
        nofun (cached_refresh h.ring.toPlaced)
      rw [hc]
      exact hsync
  | @pass it stalled hc ht =>
      have hopen : s.ring.s_curBatchStartPos ≠ -1 := by
        rcases hc with hc | hc <;> exact h.client.isOpen hc nofun
      have hroom : Room N s.ring it := by
        cases stalled with
        | true =>
            refine room_of_synced h.ring hopen (h.client.synced ?_)
            rcases hc with hc | hc <;> (rw [hc]; rfl)
        | false => exact room_of_comparable h.ring hopen h.client.cached (hsound.1 it hc ht) ht
      refine clientInv_inPush hopen nofun rfl nofun ?_ h.client.cached
      rintro _ ⟨⟩
      exact hroom
  | wake hc hsem =>
      exact clientInv_inPush (h.client.isOpen hc nofun) nofun rfl
        (fun _ => (h.handshake.semaphore hsem).2) nofun h.client.cached
  | clearPos hc =>
      exact clientInv_inPush (h.client.isOpen hc nofun) nofun rfl
        (fun _ => h.client.synced (by rw [hc]; rfl)) nofun h.client.cached
  | @clearFlag it second hc =>
      have hopen := h.client.isOpen hc nofun
      have hsync : s.ring.sAbs ≤ s.ring.fAbs := h.client.synced (by rw [hc]; rfl)
      refine clientInv_inPush hopen ?_ rfl (fun _ => hsync)
        (fun it _ => room_of_synced h.ring hopen hsync) h.client.cached
      cases second <;> nofun
  | publish =>
      exact h.client.frame rfl rfl rfl rfl rfl h.ring.finished rfl rfl
  | _ => exact h.client.frame rfl rfl rfl rfl rfl (Nat.le_refl _) rfl rfl

theorem inv_step {N : RingSize} {s s' : State} {a : Act} (h : Inv N s) (hsound : Sound N s a)
    (hs : step N s a = some s') : Inv N s' where
  ring := ringInv_step h hsound hs
  client := clientInv_step h hsound hs
  handshake := handshake_step h.handshake h.ring.finished (release_of_sound h hsound) hs

/-- **No overwrite.**  In a run whose steps meet `Sound`, no word of an unfinished command is
overwritten. -/
theorem no_overwrite (N : RingSize) {acts : List Act} {s : State}
    (hsound : Along (step N) (Sound N) start acts) (hr : run (step N) start acts = some s) :
    s.ring.words.overwritten = false := by
  have h : Inv N s := run_inv_along (fun _ _ _ => inv_step) (inv_start N) hsound hr
  exact h.ring.owned.kept

/-- A ring of four words. -/
def small : RingSize := ⟨4, by decide, by decide⟩

/-- The client's accesses for an item that is not stalled. -/
def push (it : Item) : List Act := [.send it, .client, .client, .client, .client]

/-- A ring of 64 words. -/
def ring64 : RingSize := ⟨64, by decide, by decide⟩

/-- Three commands of 63 words in all, of which the server processes the first.  With the 64th push,
of the last word, the client copies that position.  The server processes the second command; then
the client comes to its test for 41 words, from the start of the ring. -/
def comesRound : List Act :=
  [20, 20, 23].flatMap (fun n => [.begin] ++ (List.replicate n (push .scalar)).flatten ++ [.done]) ++
    List.replicate 23 .server ++ [.begin] ++ push .scalar ++ List.replicate 23 .server ++
    [.send (.many 41), .client, .client]

/-- The live test asks for a stall; the server processes the third command and answers it; the words
are written, and the server comes to their end. -/
def goesRound : List Act :=
  comesRound ++ List.replicate 4 .client ++ List.replicate 30 .server ++ [.wake] ++
    List.replicate 3 .client ++ [.done] ++ List.replicate 45 .server

/-- Round the ring, with a stall. -/
theorem no_overwrite_round : ∃ s, run (step ring64) start goesRound = some s ∧
    s.ring.cAbs = 105 ∧ s.ring.fAbs = 105 ∧ s.ring.words.overwritten = false := by
  have hrun : (run (step ring64) start goesRound).map (fun s => (s.ring.cAbs, s.ring.fAbs)) =
      some (105, 105) := by decide +kernel
  obtain ⟨s, h, hpos⟩ := Option.map_eq_some_iff.mp hrun
  obtain ⟨hcAbs, hfAbs⟩ := Prod.mk.inj hpos
  exact ⟨s, h, hcAbs, hfAbs, no_overwrite ring64 (by decide +kernel) h⟩

/-- **Nothing published, nothing compared.**  Before the server's position is first copied the test
never holds, so a second command that comes round overwrites the first, still unread. -/
theorem overwrite : ¬ ∀ (N : RingSize) (acts : List Act) (s : State),
    run (step N) start acts = some s → s.ring.words.overwritten = false := by
  intro hclaim
  have h : run (step small) start
      ([Act.begin] ++ push (.many 2) ++ [Act.done, Act.begin] ++ push (.many 2) ++ push .scalar) =
    some _ := rfl
  have hkept := hclaim small _ _ h
  exact absurd hkept (by decide)

end RemixBridge.SyncDataQueue
