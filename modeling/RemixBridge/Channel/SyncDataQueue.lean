import RemixBridge.Support.Runs
import RemixBridge.Channel.DataRing

/-!
# Channel — SyncDataQueue

What keeps the client from overwriting the data ring (`Bridge::syncDataQueue`,
`util_bridgecommand.cpp`): before each push the client predicts where the push will end and
compares that with the position the server has published, or with its own copy of it; a stall
publishes a request and waits for the server's semaphore (`main.cpp`, after each command).

Each step is one access to the words both processes share, with the local code around it.  A push
writes its words in one step: the server only ever frees words, so that is the hardest case.  The
server pulls what the client pushed, item by item.  `cAbs`, `sAbs`, `rAbs`, `fAbs` and `cachedAbs`
are history: the absolute positions of the writer, of the open command's start, of the reader, of
the end of the last finished command, and of the copy the client holds.

* `expectedPos_eq`, `pushAbs_le`: what the prediction is worth.
* `room_of_not_wouldOverwrite`: what the overwrite test is worth.
-/

namespace RemixBridge.SyncDataQueue
open Runs DataRing

/-- What the client wrote to each word last, by its absolute position, and whether a word of an
unfinished command was lost. -/
structure Words where
  owner : Nat → Option Nat
  overwritten : Bool

/-- The ring as both processes use it, and the history. -/
structure Ring where
  m_pos : Nat
  s_curBatchStartPos : Int
  cur : List Item
  commands : List (List Item)
  pulling : List Pull
  readPos : Nat
  serverDataPos : Int
  cAbs : Nat
  sAbs : Nat
  rAbs : Nat
  fAbs : Nat
  words : Words

/-- Where the client is in a command.  `stalled` and `second` say whether this call of
`syncDataQueue` has already stalled, and which of its two stalls this is. -/
inductive ClientPC where
  | idle
  | building
  | item (it : Item)
  | predict (it : Item)
  | setFlag (it : Item) (stalled : Bool)
  | cachedTest (it : Item) (stalled : Bool)
  | reload (it : Item) (stalled : Bool)
  | liveTest (it : Item) (stalled : Bool)
  | stall (it : Item) (second : Bool)
  | waiting (it : Item) (second : Bool)
  | clearPos (it : Item) (second : Bool)
  | clearFlag (it : Item) (second : Bool)
  | write (it : Item)
  | exited
  deriving DecidableEq, Repr

/-- Where the server is in a command. -/
inductive ServerPC where
  | idle
  | pulling
  | checking
  | comparing
  | flagTest
  | releasing
  | clearing
  deriving DecidableEq, Repr

structure State where
  ring : Ring
  client : ClientPC
  server : ServerPC
  clientDataExpectedPos : Int
  serverResetPosRequired : Bool
  dataSemaphore : Nat
  s_cachedServerPos : Int
  s_cachedServerPosAge : Nat
  cachedAbs : Option Nat

/-- The steps: a `Command`'s constructor, a call of one of its senders, its destructor, the next
access of the client, the end of its wait, and the next access of the server. -/
inductive Act where
  | begin
  | send (it : Item)
  | done
  | client
  | wake
  | server
  deriving DecidableEq, Repr

/-! ### The prediction and the test -/

/-- `memUsed`, as the sender computes it. -/
def memUsed : Item → Nat
  | .scalar     => 1
  | .many count => count
  | .null       => 1
  | .blob size  => chunkSize size + 1

/-- `posResetOnLastIndex`, as the sender passes it. -/
def posReset : Item → Bool
  | .scalar | .many _ => false
  | .null | .blob _   => true

/-- `((expectedMemUsage != 0) ? expectedMemUsage : 1) - 1`. -/
def memAhead (it : Item) : Nat := (if memUsed it ≠ 0 then memUsed it else 1) - 1

/-- The item is predicted to pass the end of the ring. -/
def passesEnd (N : RingSize) (m_pos : Nat) (it : Item) : Bool :=
  decide (m_pos + memAhead it ≥ N.size)

/-- `expectedClientDataPos`, after the end-of-ring branch. -/
def expectedPos (N : RingSize) (m_pos : Nat) (it : Item) : Nat :=
  if passesEnd N m_pos it then
    if posReset it then memUsed it - 1 else m_pos + memAhead it - N.size
  else m_pos + memAhead it

/-- The conversion of a position to `size_t` in a comparison. -/
def toSizeT (pos : Int) : Nat := (pos % 2 ^ 32).toNat

/-- `wouldOverwrite`. -/
def wouldOverwrite (start : Int) (expected : Nat) (sc : Int) (resetRequired : Bool) : Bool :=
  decide (toSizeT sc ≤ expected) &&
    (decide (start < sc) || (decide (sc < start) && decide (expected < toSizeT start)) ||
      (decide (start ≤ sc) && resetRequired))

/-- The check that the command can fit the ring at all, made in a stall. -/
def neverFits (N : RingSize) (m_pos : Nat) (start : Int) (it : Item) : Bool :=
  decide (memUsed it + (if toSizeT start ≤ m_pos then m_pos - toSizeT start
    else m_pos + N.size - toSizeT start) > N.size)

/-! ### The operations on the ring -/

/-- One word written, with the commands finished up to `fAbs`. -/
def Words.write (fAbs : Nat) (ws : Words) (w : Nat × Nat) : Words where
  owner := Function.update ws.owner w.1 (some w.2)
  overwritten := ws.overwritten || (ws.owner w.1).any fun x => decide (fAbs ≤ x)

/-- The push of an item. -/
def Ring.push (N : RingSize) (r : Ring) (it : Item) : Ring :=
  { r with
    m_pos := it.pushPos N.size r.m_pos
    cAbs := it.pushAbs N.size r.cAbs
    cur := r.cur ++ [it]
    words := ((it.words N.size r.m_pos).zip (it.absWords N.size r.cAbs)).foldl
      (Words.write r.fAbs) r.words }

/-- The constructor of a `Command`. -/
def Ring.begin (r : Ring) : Ring :=
  { r with s_curBatchStartPos := r.m_pos, sAbs := r.cAbs, cur := [] }

/-- The destructor of a `Command`, which pushes the header. -/
def Ring.done (r : Ring) : Ring :=
  { r with s_curBatchStartPos := -1, commands := r.commands ++ [r.cur] }

/-- The server takes the next header. -/
def Ring.popHeader (r : Ring) (items : List Item) (rest : List (List Item)) : Ring :=
  { r with commands := rest, pulling := items.flatMap Item.pulls }

/-- The server's next pull. -/
def Ring.pull (N : RingSize) (r : Ring) (p : Pull) (rest : List Pull) : Ring :=
  { r with
    readPos := pullPos N.size r.readPos p
    rAbs := pullAbs N.size r.rAbs p
    pulling := rest }

/-- The server publishes its position: the command is finished. -/
def Ring.publish (r : Ring) : Ring :=
  { r with serverDataPos := r.readPos, fAbs := r.rAbs }

/-! ### The steps -/

/-- `wouldOverwrite(serverCount)`; `serverCount` is the cached position in both places. -/
def State.overwrites (N : RingSize) (s : State) (it : Item) : Bool :=
  wouldOverwrite s.ring.s_curBatchStartPos (expectedPos N s.ring.m_pos it) s.s_cachedServerPos
    s.serverResetPosRequired

/-- `s_cachedServerPos = (int) *serverDataPos`. -/
def State.refresh (s : State) : State :=
  { s with
    s_cachedServerPos := s.ring.serverDataPos
    s_cachedServerPosAge := 0
    cachedAbs := if s.ring.serverDataPos = -1 then none else some s.ring.fAbs }

/-- The next access of the client. -/
def State.clientStep (N : RingSize) (s : State) : Option State :=
  match s.client with
  | .item it =>
      if s.s_cachedServerPosAge + 1 ≥ 64 then some { s.refresh with client := .predict it }
      else
        some { s with client := .predict it, s_cachedServerPosAge := s.s_cachedServerPosAge + 1 }
  | .predict it =>
      if passesEnd N s.ring.m_pos it then
        if s.serverResetPosRequired then some { s with client := .stall it false }
        else some { s with client := .setFlag it false }
      else some { s with client := .cachedTest it false }
  | .setFlag it stalled =>
      some { s with client := .cachedTest it stalled, serverResetPosRequired := true }
  | .cachedTest it stalled =>
      if s.overwrites N it then some { s with client := .reload it stalled }
      else some { s with client := .write it }
  | .reload it stalled => some { s.refresh with client := .liveTest it stalled }
  | .liveTest it _ =>
      if s.overwrites N it then some { s with client := .stall it true }
      else some { s with client := .write it }
  | .stall it second =>
      some { s with
        client :=
          if neverFits N s.ring.m_pos s.ring.s_curBatchStartPos it then .exited
          else .waiting it second
        clientDataExpectedPos := s.ring.s_curBatchStartPos - 1 }
  | .clearPos it second =>
      some { s with client := .clearFlag it second, clientDataExpectedPos := -1 }
  | .clearFlag it second =>
      some { s with
        client := if second then .write it else .setFlag it true
        serverResetPosRequired := false }
  | .write it => some { s with client := .building, ring := s.ring.push N it }
  | _ => none

/-- The next access of the server. -/
def State.serverStep (N : RingSize) (s : State) : Option State :=
  match s.server with
  | .idle =>
      match s.ring.commands with
      | items :: rest =>
          some { s with server := .pulling, ring := s.ring.popHeader items rest }
      | [] => none
  | .pulling =>
      match s.ring.pulling with
      | p :: rest =>
          some { s with
            ring := s.ring.pull N p rest
            serverResetPosRequired := s.serverResetPosRequired &&
              !decide (pullPos N.size s.ring.readPos p < s.ring.readPos) }
      | [] => some { s with server := .checking, ring := s.ring.publish }
  | .checking =>
      some { s with server := if s.clientDataExpectedPos ≠ -1 then .comparing else .idle }
  | .comparing =>
      some { s with
        server := if s.ring.serverDataPos > s.clientDataExpectedPos then .flagTest else .idle }
  | .flagTest =>
      some { s with server := if s.serverResetPosRequired then .idle else .releasing }
  | .releasing =>
      some { s with server := .clearing, dataSemaphore := min (s.dataSemaphore + 1) 1 }
  | .clearing => some { s with server := .idle, clientDataExpectedPos := -1 }

def step (N : RingSize) (s : State) : Act → Option State
  | .begin =>
      match s.client with
      | .idle => some { s with client := .building, ring := s.ring.begin }
      | _     => none
  | .send it =>
      match s.client with
      | .building => some { s with client := .item it }
      | _         => none
  | .done =>
      match s.client with
      | .building => some { s with client := .idle, ring := s.ring.done }
      | _         => none
  | .client => s.clientStep N
  | .wake =>
      match s.client with
      | .waiting it second =>
          if s.dataSemaphore > 0 then
            some { s with client := .clearPos it second, dataSemaphore := s.dataSemaphore - 1 }
          else none
      | _ => none
  | .server => s.serverStep N

/-- The channel as its constructor leaves it. -/
def start : State where
  ring :=
    { m_pos := 0, s_curBatchStartPos := -1, cur := [], commands := [], pulling := []
      readPos := 0, serverDataPos := -1, cAbs := 0, sAbs := 0, rAbs := 0, fAbs := 0
      words := ⟨fun _ => none, false⟩ }
  client := .idle
  server := .idle
  clientDataExpectedPos := -1
  serverResetPosRequired := false
  dataSemaphore := 0
  s_cachedServerPos := -1
  s_cachedServerPosAge := 0
  cachedAbs := none

/-! ### What the prediction and the test are worth -/

/-- The absolute position of the last word an item is predicted to take. -/
def predictedAbs (N : RingSize) (a : Nat) (it : Item) : Nat :=
  if passesEnd N (a % N.size) it && posReset it then
    N.size * (a / N.size + 1) + (memUsed it - 1)
  else a + memAhead it

/-- A sized object that would end on the last word: the ring rolls it over, the prediction does
not. -/
def FillsEnd (N : RingSize) (m_pos : Nat) : Item → Prop
  | .blob size => 0 < chunkSize size ∧ m_pos + 1 + chunkSize size = N.size
  | _          => False

theorem toSizeT_natCast {n : Nat} (h : n < 2 ^ 32) : toSizeT (n : Int) = n := by
  unfold toSizeT
  omega

theorem mod_lt_word (N : RingSize) (x : Nat) : x % N.size < 2 ^ 32 :=
  (Nat.mod_lt x N.pos).trans (by have := N.lt_word; omega)

/-- The test with the positions as they are. -/
theorem wouldOverwrite_iff {start expected sc : Nat} {resetRequired : Bool} (hs : start < 2 ^ 32)
    (hsc : sc < 2 ^ 32) :
    wouldOverwrite start expected sc resetRequired = true ↔
      sc ≤ expected ∧ (start < sc ∨ (sc < start ∧ expected < start) ∨
        (start ≤ sc ∧ resetRequired = true)) := by
  simp [wouldOverwrite, toSizeT_natCast hs, toSizeT_natCast hsc, or_assoc]

theorem le_predictedAbs (N : RingSize) (a : Nat) (it : Item) : a ≤ predictedAbs N a it := by
  unfold predictedAbs
  split
  · exact Nat.le_add_right_of_le (Nat.lt_mul_div_succ a N.pos).le
  · exact Nat.le_add_right a _

/-- The predicted index is the remainder of the predicted absolute position. -/
theorem expectedPos_eq (N : RingSize) (a : Nat) (it : Item)
    (hfit : predictedAbs N a it < a + N.size) :
    expectedPos N (a % N.size) it = predictedAbs N a it % N.size := by
  have hmod : a % N.size < N.size := Nat.mod_lt a N.pos
  have hdiv : N.size * (a / N.size) + a % N.size = a := Nat.div_add_mod a N.size
  unfold expectedPos predictedAbs at *
  by_cases hpass : passesEnd N (a % N.size) it = true
  · have hahead : a % N.size + memAhead it ≥ N.size := of_decide_eq_true hpass
    by_cases hreset : posReset it = true
    · simp only [hpass, hreset, Bool.and_self, if_true] at hfit ⊢
      rw [Nat.mul_add_mod, Nat.mod_eq_of_lt]
      rw [Nat.mul_succ] at hfit
      omega
    · simp only [hpass, hreset, Bool.and_false, if_true, if_false, Bool.false_eq_true] at hfit ⊢
      exact (Ring.add_mod_of_le hahead (by omega)).symm
  · simp only [hpass, Bool.false_and, if_false, Bool.false_eq_true] at hfit ⊢
    have hahead : ¬ a % N.size + memAhead it ≥ N.size := fun h => hpass (decide_eq_true h)
    exact (Ring.add_mod_of_lt (by omega)).symm

/-- An item that does not just fill the end stays within its prediction. -/
theorem pushAbs_le (N : RingSize) (a : Nat) (it : Item) (hend : ¬ FillsEnd N (a % N.size) it)
    (hfit : predictedAbs N a it < a + N.size) :
    it.pushAbs N.size a ≤ predictedAbs N a it + 1 := by
  have hmod : a % N.size < N.size := Nat.mod_lt a N.pos
  have hdiv : N.size * (a / N.size) + a % N.size = a := Nat.div_add_mod a N.size
  cases it with
  | scalar => exact Nat.succ_le_succ (le_predictedAbs N a .scalar)
  | null =>
      have hstart : objStart N.size (a + 1) 0 = a + 1 :=
        if_neg (Nat.not_le_of_lt (Nat.mod_lt (a + 1) N.pos))
      have hpush : Item.null.pushAbs N.size a = objStart N.size (a + 1) 0 + 0 := rfl
      rw [hpush, hstart]
      exact Nat.succ_le_succ (le_predictedAbs N a .null)
  | many count =>
      rw [Item.pushAbs, Item.pulls, pullsAbs_replicate_word]
      have hahead : count ≤ memAhead (.many count) + 1 := by
        show count ≤ (if count ≠ 0 then count else 1) - 1 + 1
        split <;> omega
      simp only [predictedAbs, posReset, Bool.and_false, if_false, Bool.false_eq_true]
      omega
  | blob size =>
      have hpush : (Item.blob size).pushAbs N.size a =
        objStart N.size (a + 1) size + chunkSize size := rfl
      have hnext : N.size * ((a + 1) / N.size) + (a + 1) % N.size = a + 1 :=
        Nat.div_add_mod (a + 1) N.size
      have hahead : memAhead (.blob size) = chunkSize size := rfl
      rw [hpush]
      unfold predictedAbs passesEnd objStart at *
      simp only [hahead, memUsed, posReset, Bool.and_true, decide_eq_true_eq, Nat.add_sub_cancel,
        Nat.mul_succ] at hfit ⊢
      unfold FillsEnd at hend
      rcases Nat.lt_or_ge (a % N.size + 1) N.size with hin | hlast
      · have hm : (a + 1) % N.size = a % N.size + 1 := Ring.add_mod_of_lt hin
        split at hfit <;> split <;> omega
      · have hm : (a + 1) % N.size = a % N.size + 1 - N.size :=
          Ring.add_mod_of_le hlast (by omega)
        split at hfit <;> split <;> omega

/-- **What the overwrite test is worth.**  Let `Q` be the absolute position behind the one that is
compared.  If the command started at most a lap after it, and, where it started on the next lap,
the item stays on that lap and the flag is set when the two indices are equal, then a push that
the test lets pass ends within a lap of `Q`. -/
theorem room_of_not_wouldOverwrite (N : RingSize) {Q S P : Nat} {resetRequired : Bool}
    (hQS : Q ≤ S) (hSQ : S ≤ Q + N.size) (hSP : S ≤ P) (hfit : P < S + N.size)
    (hlap : Q / N.size < S / N.size → P / N.size = S / N.size ∧
      (S % N.size = Q % N.size → resetRequired = true))
    (ht : wouldOverwrite ((S % N.size : Nat) : Int) (P % N.size) ((Q % N.size : Nat) : Int)
      resetRequired = false) : P < Q + N.size := by
  have hq : N.size * (Q / N.size) + Q % N.size = Q := Nat.div_add_mod Q N.size
  have hs : N.size * (S / N.size) + S % N.size = S := Nat.div_add_mod S N.size
  have hp : N.size * (P / N.size) + P % N.size = P := Nat.div_add_mod P N.size
  have hqn : Q % N.size < N.size := Nat.mod_lt Q N.pos
  have hsn : S % N.size < N.size := Nat.mod_lt S N.pos
  have hpn : P % N.size < N.size := Nat.mod_lt P N.pos
  have ht' : Q % N.size ≤ P % N.size → ¬ S % N.size < Q % N.size ∧
      ¬ (Q % N.size < S % N.size ∧ P % N.size < S % N.size) ∧
      ¬ (S % N.size ≤ Q % N.size ∧ resetRequired = true) := by
    intro hle
    rw [Bool.eq_false_iff, ne_eq, wouldOverwrite_iff (mod_lt_word N S) (mod_lt_word N Q)] at ht
    exact ⟨fun hb => ht ⟨hle, .inl hb⟩, fun hr => ht ⟨hle, .inr (.inl hr)⟩,
      fun ha => ht ⟨hle, .inr (.inr ha)⟩⟩
  rcases Nat.lt_or_ge (Q / N.size) (S / N.size) with hlt | hge
  · -- The command starts on the next lap.
    have hS : S / N.size = Q / N.size + 1 := Ring.div_eq_succ N.pos hlt hSQ
    obtain ⟨hP, hflag⟩ := hlap hlt
    rw [hP, hS, Nat.mul_succ] at hp
    rw [hS, Nat.mul_succ] at hs
    rcases Nat.lt_or_ge (P % N.size) (Q % N.size) with hpq | hpq
    · omega
    · obtain ⟨h₁, -, h₃⟩ := ht' hpq
      exact absurd ⟨by omega, hflag (by omega)⟩ h₃
  · have hS : S / N.size = Q / N.size := Nat.le_antisymm hge (Nat.div_le_div_right hQS)
    rw [hS] at hs
    have hPS : P / N.size = Q / N.size ∨ P / N.size = Q / N.size + 1 := by
      rw [← hS]
      rcases Nat.lt_or_ge (S / N.size) (P / N.size) with hroll | hstay
      · exact .inr (Ring.div_eq_succ N.pos hroll hfit.le)
      · exact .inl (Nat.le_antisymm hstay (Nat.div_le_div_right hSP))
    rcases hPS with hP | hP
    · rw [hP] at hp
      omega
    · -- The push rolls over, below the command's start.
      rw [hP, Nat.mul_succ] at hp
      rcases Nat.lt_or_ge (P % N.size) (Q % N.size) with hpq | hpq
      · omega
      · obtain ⟨h₁, h₂, -⟩ := ht' hpq
        omega

end RemixBridge.SyncDataQueue
