import RemixBridge.Buffer.ReservedLock
import Mathlib.Data.List.ReduceOption

/-!
# Buffer — ReservedIntegrity

The bytes of reserved data between a lock and the server's processing of its unlock: nothing in the
ring's protocol keeps the words of the blob, which the server has taken off the ring with the lock's
command, and they stay as long as no push takes one of them.

* `Intact.write`, `Intact.frame`: what the application and the client's pushes keep.
* `reserved_bytes_arrive`: what the server copies is what the application has written.
-/

namespace RemixBridge.ReservedLock
open Runs DataRing Ownership
open Buffer (unlockSize unlockSize_toNat)

variable (cfg : Config)

/-! ### Regions -/

/-- A byte of what a lock hands out. -/
def LockInfo.Holds (l : LockInfo) (b : Nat) : Prop :=
  l.pbData ≤ b ∧ b < l.pbData + dataSize cfg l.sizeToLock

/-- An unlock without a size is of a lock that starts inside the buffer. -/
def Sized (offset size : Word) : Prop := size ≠ 0 ∨ offset.toNat ≤ cfg.size.toNat

/-- What the application has written is in the memory of the regions, which are apart. -/
structure Intact (memory : Nat → Byte) (ls : List LockInfo) : Prop where
  held : ∀ l ∈ ls, ∀ i v, l.wrote i = some v →
    i < dataSize cfg l.sizeToLock ∧ memory (l.pbData + i) = v
  apart : ls.Pairwise fun l l' => ∀ b, l.Holds cfg b → ¬ l'.Holds cfg b
  aligned : ∀ l ∈ ls, 4 ∣ l.pbData
  sized : ∀ l ∈ ls, Sized cfg l.offsetToLock l.sizeToLock

variable {cfg} {memory memory' : Nat → Byte} {ls ls' : List LockInfo} {l : LockInfo}

theorem Intact.sublist (h : Intact cfg memory ls) (hsub : ls'.Sublist ls) :
    Intact cfg memory ls' where
  held := fun l hl => h.held l (hsub.subset hl)
  apart := h.apart.sublist hsub
  aligned := fun l hl => h.aligned l (hsub.subset hl)
  sized := fun l hl => h.sized l (hsub.subset hl)

/-- Memory outside the regions may change. -/
theorem Intact.frame (h : Intact cfg memory ls)
    (hsame : ∀ l ∈ ls, ∀ b, l.Holds cfg b → memory' b = memory b) : Intact cfg memory' ls :=
  { h with
    held := fun l hl i v hv => by
      obtain ⟨hi, hmem⟩ := h.held l hl i v hv
      refine ⟨hi, (hsame l hl _ ⟨Nat.le_add_right _ _, ?_⟩).trans hmem⟩
      exact Nat.add_lt_add_left hi _ }

/-- A new region, in which nothing is written yet. -/
theorem Intact.snoc (h : Intact cfg memory ls) (hnew : ∀ i, l.wrote i = none)
    (hapart : ∀ l' ∈ ls, ∀ b, l'.Holds cfg b → ¬ l.Holds cfg b) (haligned : 4 ∣ l.pbData)
    (hsized : Sized cfg l.offsetToLock l.sizeToLock) : Intact cfg memory (ls ++ [l]) where
  held := by
    intro l' hl' i v hv
    rcases List.mem_append.mp hl' with hl' | hl'
    · exact h.held l' hl' i v hv
    · rw [List.mem_singleton.mp hl', hnew i] at hv
      cases hv
  apart := by
    refine List.pairwise_append.mpr ⟨h.apart, List.pairwise_singleton _ l, fun l' hl' l'' hl'' => ?_⟩
    rw [List.mem_singleton.mp hl'']
    exact hapart l' hl'
  aligned := by
    intro l' hl'
    rcases List.mem_append.mp hl' with hl' | hl'
    · exact h.aligned l' hl'
    · rwa [List.mem_singleton.mp hl']
  sized := by
    intro l' hl'
    rcases List.mem_append.mp hl' with hl' | hl'
    · exact h.sized l' hl'
    · rwa [List.mem_singleton.mp hl']

/-- Another region than one of those in a list is apart from it. -/
theorem Intact.other {before after : List LockInfo} (h : Intact cfg memory (before ++ l :: after))
    {l' : LockInfo} (hl' : l' ∈ before ∨ l' ∈ after) :
    l' ∈ before ++ l :: after ∧ ∀ b, l'.Holds cfg b → ¬ l.Holds cfg b := by
  obtain ⟨-, hcons, hcross⟩ := List.pairwise_append.mp h.apart
  obtain ⟨hafter, -⟩ := List.pairwise_cons.mp hcons
  rcases hl' with hl' | hl'
  · exact ⟨List.mem_append_left _ hl', hcross l' hl' l List.mem_cons_self⟩
  · exact ⟨List.mem_append_right _ (List.mem_cons_of_mem l hl'),
      fun b hb hb' => hafter l' hl' b hb' hb⟩

/-- **A write.**  The application writes to one of the regions. -/
theorem Intact.write {before after : List LockInfo} {i : Nat}
    (h : Intact cfg memory (before ++ l :: after)) (hi : i < dataSize cfg l.sizeToLock)
    (value : Byte) :
    Intact cfg (Function.update memory (l.pbData + i) value)
      (before ++ l.write i value :: after) := by
  have hl : l ∈ before ++ l :: after := List.mem_append_right _ List.mem_cons_self
  have hholds : l.Holds cfg (l.pbData + i) := ⟨Nat.le_add_right _ _, Nat.add_lt_add_left hi _⟩
  have hcases : ∀ l' ∈ before ++ l.write i value :: after,
      l' = l.write i value ∨ l' ∈ before ∨ l' ∈ after := by
    intro l' hl'
    rcases List.mem_append.mp hl' with hl' | hl'
    · exact .inr (.inl hl')
    · exact (List.mem_cons.mp hl').imp_right .inr
  refine ⟨fun l' hl' j v hv => ?_, ?_, fun l' hl' => ?_, fun l' hl' => ?_⟩
  · rcases hcases l' hl' with rfl | hl'
    · have hv' : Function.update l.wrote i (some value) j = some v := hv
      rcases eq_or_ne j i with rfl | hji
      · rw [Function.update_self, Option.some_inj] at hv'
        exact ⟨hi, (Function.update_self ..).trans hv'⟩
      · rw [Function.update_of_ne hji] at hv'
        obtain ⟨hj, hread⟩ := h.held l hl j v hv'
        have hne : l.pbData + j ≠ l.pbData + i := fun heq => hji (Nat.add_left_cancel heq)
        exact ⟨hj, (Function.update_of_ne hne _ _).trans hread⟩
    · obtain ⟨hmem, hapart⟩ := h.other hl'
      obtain ⟨hj, hread⟩ := h.held l' hmem j v hv
      have hne : l'.pbData + j ≠ l.pbData + i := fun heq =>
        hapart _ ⟨Nat.le_add_right _ _, Nat.add_lt_add_left hj _⟩ (heq ▸ hholds)
      exact ⟨hj, (Function.update_of_ne hne _ _).trans hread⟩
  · obtain ⟨hbefore, hcons, hcross⟩ := List.pairwise_append.mp h.apart
    refine List.pairwise_append.mpr ⟨hbefore, List.pairwise_cons.mpr (List.pairwise_cons.mp hcons),
      fun l' hl' l'' hl'' => ?_⟩
    rcases List.mem_cons.mp hl'' with rfl | hl''
    · exact hcross l' hl' l List.mem_cons_self
    · exact hcross l' hl' l'' (List.mem_cons_of_mem l hl'')
  · rcases hcases l' hl' with rfl | hl'
    · exact h.aligned l hl
    · exact h.aligned l' (h.other hl').1
  · rcases hcases l' hl' with rfl | hl'
    · exact h.sized l hl
    · exact h.sized l' (h.other hl').1

/-! ### The blob of a lock -/

theorem align_spec (v : Nat) :
    v ≤ align v kSIMDAlign ∧ align v kSIMDAlign ≤ v + 15 ∧ 16 ∣ align v kSIMDAlign := by
  rw [align, kSIMDAlign]
  refine ⟨?_, ?_, Nat.dvd_mul_left 16 _⟩ <;> omega

/-- What a lock hands out is behind the first word of its blob, within the blob. -/
theorem reserve_bounds (cfg : Config) (offset size flags : Word) (pos : Nat) :
    4 * pos + 4 ≤ (reserve cfg offset size flags pos).pbData ∧
      (reserve cfg offset size flags pos).pbData ≤ 4 * pos + 19 ∧
      4 ∣ (reserve cfg offset size flags pos).pbData := by
  obtain ⟨hle, hlt, hdvd⟩ := align_spec (cfg.base + 4 * pos + 4)
  have hbase := cfg.four_dvd_base
  rw [reserve]
  simp only
  omega

/-- The bytes that a lock hands out are in the words of its blob. -/
theorem reserve_holds {offset size flags : Word} {pos b : Nat}
    (hb : (reserve cfg offset size flags pos).Holds cfg b) :
    pos ≤ b / 4 ∧ b / 4 < pos + chunkSize (blobSize cfg size) := by
  obtain ⟨hfirst, hlast, -⟩ := reserve_bounds cfg offset size flags pos
  obtain ⟨hle, hlt⟩ := hb
  have hsize : (reserve cfg offset size flags pos).sizeToLock = size := rfl
  rw [hsize] at hlt
  rw [chunkSize, blobSize, kSIMDAlign]
  omega

/-- The words of a blob that starts with `pos`. -/
theorem blob_words {size m_pos w : Nat} {N : RingSize}
    (hle : ensureSpace N.size (pop N.size m_pos) size ≤ w)
    (hlt : w < ensureSpace N.size (pop N.size m_pos) size + chunkSize size) :
    w ∈ (Item.blob size).words N.size m_pos := by
  refine List.mem_cons_of_mem _ (List.mem_map.mpr
    ⟨w - ensureSpace N.size (pop N.size m_pos) size, List.mem_range.mpr ?_, ?_⟩) <;> omega

theorem writeBytes_of_not_mem {ptr b : Nat} {bytes : List Byte}
    (hb : b < ptr ∨ ptr + bytes.length ≤ b) : writeBytes memory ptr bytes b = memory b := by
  rw [writeBytes]
  split
  · next hle =>
      have hlen : bytes.length ≤ b - ptr := by omega
      rw [List.getElem?_eq_none hlen, Option.getD_none]
  · rfl

/-! ### The condition -/

/-- The unlocks on their way to the server. -/
def State.sent (s : State) : List Unlock := s.processing.toList ++ s.unlocks.reduceOption

def Operation.unlocked : Option Operation → List LockInfo
  | some (.unlocking l) => [l]
  | _ => []

def Operation.reserved : Option Operation → List LockInfo
  | some (.locked l) => [l]
  | _ => []

/-- The locks whose unlock the server has not processed, in their order. -/
def State.outstanding (s : State) : List LockInfo :=
  s.sent.map (·.lockInfo) ++ (Operation.unlocked s.operation ++
    (s.m_lockInfos ++ Operation.reserved s.operation))

/-- The item that the client's next access pushes. -/
def pushed : SyncDataQueue.ClientPC → Option Item
  | .write it => some it
  | _ => none

variable (cfg) in
/-- An unlock without a size is of a lock that starts inside the buffer, and no push takes a word of
what a lock has handed out before the server has processed its unlock. -/
def Keeps (s : State) : Action → Prop
  | .lock offset size _ => Sized cfg offset size
  | .client _ =>
      ∀ it ∈ pushed s.channel.client, ∀ l ∈ s.outstanding, ∀ i < dataSize cfg l.sizeToLock,
        (l.pbData + i) / 4 ∉ it.words cfg.ring.size s.channel.ring.m_pos
  | _ => True

instance (s : State) : (a : Action) → Decidable (Keeps cfg s a)
  | .lock offset size _ =>
      inferInstanceAs (Decidable (size ≠ 0 ∨ offset.toNat ≤ cfg.size.toNat))
  | .client _ => inferInstanceAs (Decidable (∀ it ∈ pushed s.channel.client, _))
  | .begin | .send _ | .done | .unlock | .proceed | .wake | .server | .write _ _ _ =>
      inferInstanceAs (Decidable True)

variable (cfg) in
/-- What was copied is of the locked range, and is what the application had written there. -/
def Copy.Exact (c : Copy) : Prop :=
  ∀ i < c.size.toNat, i < dataSize cfg c.lockInfo.sizeToLock ∧
    ∀ v, c.lockInfo.wrote i = some v → c.bytes i = v

variable (cfg) in
structure Faithful (s : State) : Prop where
  intact : Intact cfg s.memory s.outstanding
  sent : ∀ u ∈ s.sent, u = unlockOf cfg u.lockInfo
  locking : ∀ offset size flags, s.operation = some (.locking offset size flags) →
    Sized cfg offset size ∧
      ∀ it, s.channel.client.held = some it → it = .blob (blobSize cfg size)
  copied : ∀ c ∈ s.copied, c.Exact cfg

variable {s s' : State} {c : SyncDataQueue.State}

/-- The size of an unlock is at most what the lock reserved. -/
theorem unlockSize_le {l : LockInfo} (h : Sized cfg l.offsetToLock l.sizeToLock) :
    (unlockSize cfg.size l.offsetToLock l.sizeToLock).toNat ≤ dataSize cfg l.sizeToLock := by
  rw [dataSize]
  by_cases hzero : l.sizeToLock = 0
  · have hoffset : l.offsetToLock.toNat ≤ cfg.size.toNat := h.resolve_left fun hne => hne hzero
    rw [unlockSize_toNat hoffset, if_pos hzero, if_pos hzero]
    exact Nat.sub_le _ _
  · rw [unlockSize, if_neg hzero, if_neg hzero]
    split
    · next hlt => exact (BitVec.lt_def.mp hlt).le
    · exact Nat.le_refl _

/-- **The copy.**  The server copies what the application has written. -/
theorem Faithful.copy_exact (h : Faithful cfg s) {u : Unlock} (hu : u ∈ s.sent) :
    (copy s.memory u).Exact cfg := by
  have hl : u.lockInfo ∈ s.outstanding := List.mem_append_left _ (List.mem_map_of_mem hu)
  have hof := h.sent u hu
  have hsize : u.size = unlockSize cfg.size u.lockInfo.offsetToLock u.lockInfo.sizeToLock :=
    congrArg Unlock.size hof
  have hdata : u.dataOffset = u.lockInfo.pbData / 4 := congrArg Unlock.dataOffset hof
  have hptr : 4 * u.dataOffset = u.lockInfo.pbData := by
    rw [hdata]
    exact Nat.mul_div_cancel' (h.intact.aligned _ hl)
  intro i hi
  have hi' : i < u.size.toNat := hi
  rw [hsize] at hi'
  refine ⟨hi'.trans_le (unlockSize_le (h.intact.sized _ hl)), fun v hv => ?_⟩
  obtain ⟨-, hread⟩ := h.intact.held _ hl i v hv
  show s.memory (4 * u.dataOffset + i) = v
  rw [hptr]
  exact hread

/-! ### The channel -/

/-- A step other than a send goes on with the item it has, if with any. -/
theorem held_of_step {c c' : SyncDataQueue.State} {a : SyncDataQueue.Act} {N : RingSize}
    (hstep : SyncDataQueue.step N c a = some c') (ha : ∀ it, a ≠ .send it) (it : Item)
    (hit : c'.client.held = some it) : c.client.held = some it := by
  cases SyncDataQueue.move_of_step hstep with
  | send => exact absurd rfl (ha _)
  | pass hc => rcases hc with hc | hc <;> (rw [hc]; exact hit)
  | @clearFlag _ second hc =>
      rw [hc]
      cases second <;> exact hit
  | begin hc | done hc | exit hc | write hc => cases hit
  | age hc | refresh hc | doubleOverflow hc | rollover hc | onLap hc | setFlag hc | toReload hc
  | reload hc | toStall hc | request hc | wake hc _ | clearPos hc =>
      rw [hc]
      exact hit
  | popHeader | pull | publish | skip | check | compare | flagTest | release | clear => exact hit

/-! ### Steps -/

/-- The channel goes on, and a lock with its blob. -/
theorem Faithful.goOn (h : Faithful cfg s)
    (hheld : ∀ it, c.client.held = some it → s.channel.client.held = some it) :
    Faithful cfg { s with channel := c } :=
  { h with
    locking := fun offset size flags hop => by
      obtain ⟨hsized, hblob⟩ := h.locking offset size flags hop
      exact ⟨hsized, fun it hit => hblob it (hheld it hit)⟩ }

/-- The client is in no lock. -/
theorem Faithful.idle (h : Faithful cfg s) (hop : s.operation = none) :
    Faithful cfg { s with channel := c } :=
  { h with
    locking := fun offset size flags hop' => by
      rw [hop] at hop'
      cases hop' }

/-- **Lock**, up to its blob. -/
theorem Faithful.lock (h : Faithful cfg s) (hop : s.operation = none) {offset size flags : Word}
    (hsized : Sized cfg offset size)
    (hc : beginWith cfg s.channel (.blob (blobSize cfg size)) = some c) :
    Faithful cfg { s with channel := c, operation := some (.locking offset size flags) } := by
  obtain ⟨c', -, hsend⟩ := Option.bind_eq_some_iff.mp hc
  have hclient : c.client = .item (.blob (blobSize cfg size)) := by
    cases SyncDataQueue.move_of_step hsend
    rfl
  refine { h with intact := ?_, locking := fun offset' size' flags' hop' => ?_ }
  · have hout := h.intact
    rw [State.outstanding, hop] at hout
    exact hout
  · cases hop'
    refine ⟨hsized, fun it hit => ?_⟩
    rw [hclient] at hit
    cases hit
    rfl

/-- A lock is unlocked: nothing is left of it when it is read only. -/
theorem Faithful.readOnly (h : Faithful cfg s) (hop : s.operation = none) {l : LockInfo}
    {rest : List LockInfo} (hq : s.m_lockInfos = l :: rest) :
    Faithful cfg { s with m_lockInfos := rest } := by
  refine { h with intact := h.intact.sublist ?_ }
  rw [State.outstanding, State.outstanding, hop, hq]
  exact (((List.sublist_cons_self l rest).append_right _).append_left _).append_left _

/-- **Unlock**, up to its first item. -/
theorem Faithful.unlock (h : Faithful cfg s) (hop : s.operation = none) {l : LockInfo}
    {rest : List LockInfo} (hq : s.m_lockInfos = l :: rest) :
    Faithful cfg
      { s with channel := c, m_lockInfos := rest, operation := some (.unlocking l) } := by
  refine { h with intact := ?_, locking := fun _ _ _ hop' => by cases hop' }
  have hout := h.intact
  rw [State.outstanding, hop, hq] at hout
  exact hout

/-- The command of a lock is sent. -/
theorem Faithful.lock_done (h : Faithful cfg s) {l : LockInfo}
    (hop : s.operation = some (.locked l)) :
    Faithful cfg
      { s with
        channel := c
        operation := none
        m_lockInfos := s.m_lockInfos ++ [l]
        unlocks := s.unlocks ++ [none] } := by
  have hsent : s.processing.toList ++ (s.unlocks ++ [none]).reduceOption = s.sent := by
    rw [List.reduceOption_append]
    exact congrArg _ (List.append_nil _)
  refine ⟨?_, fun u hu => h.sent u (hsent ▸ hu), (fun _ _ _ hop' => by cases hop'), h.copied⟩
  have hout := h.intact
  rw [State.outstanding, hop] at hout
  rw [State.outstanding, State.sent, hsent]
  simpa only [Operation.unlocked, Operation.reserved, List.nil_append, List.append_nil] using hout

/-- The command of an unlock is sent. -/
theorem Faithful.unlock_done (h : Faithful cfg s) {l : LockInfo}
    (hop : s.operation = some (.unlocking l)) :
    Faithful cfg
      { s with
        channel := c
        operation := none
        unlocks := s.unlocks ++ [some (unlockOf cfg l)] } := by
  have hsent : s.processing.toList ++ (s.unlocks ++ [some (unlockOf cfg l)]).reduceOption =
      s.sent ++ [unlockOf cfg l] := by
    rw [List.reduceOption_append, ← List.append_assoc]
    rfl
  refine ⟨?_, fun u hu => ?_, (fun _ _ _ hop' => by cases hop'), h.copied⟩
  · have hout := h.intact
    rw [State.outstanding, hop] at hout
    rw [State.outstanding, State.sent, hsent, List.map_append, List.append_assoc]
    exact hout
  · rw [State.sent, hsent] at hu
    rcases List.mem_append.mp hu with hu | hu
    · exact h.sent u hu
    · rw [List.mem_singleton.mp hu]
      rfl

/-- The command of something else is sent. -/
theorem Faithful.done (h : Faithful cfg s) (hop : s.operation = none) :
    Faithful cfg { s with channel := c, unlocks := s.unlocks ++ [none] } := by
  have hsent : s.processing.toList ++ (s.unlocks ++ [none]).reduceOption = s.sent := by
    rw [List.reduceOption_append]
    exact congrArg _ (List.append_nil _)
  refine ⟨?_, fun u hu => h.sent u (hsent ▸ hu), fun _ _ _ hop' => ?_, h.copied⟩
  · rw [State.outstanding, State.sent, hsent]
    exact h.intact
  · rw [hop] at hop'
    cases hop'

/-- A push that the condition lets pass takes no word of a region. -/
theorem Keeps.free {data : Nat → Byte} (h : Keeps cfg s (.client data)) {it : Item}
    (hclient : s.channel.client = .write it) {l : LockInfo} (hl : l ∈ s.outstanding) {b : Nat}
    (hb : l.Holds cfg b) : b / 4 ∉ it.words cfg.ring.size s.channel.ring.m_pos := by
  have hpushed : it ∈ pushed s.channel.client := by
    rw [hclient]
    rfl
  obtain ⟨hle, hlt⟩ := hb
  have hfree := h it hpushed l hl (b - l.pbData) (by omega)
  rwa [Nat.add_sub_cancel' hle] at hfree

/-- Memory that no push of an item touches. -/
theorem push_of_not_mem {it : Item} {data : Nat → Byte} {b : Nat}
    (hb : b / 4 ∉ it.words cfg.ring.size s.channel.ring.m_pos) :
    s.push cfg it data b = s.memory b := if_neg hb

/-- The push of the blob of a lock. -/
theorem Faithful.reserve (h : Faithful cfg s) {offset size flags : Word} {data : Nat → Byte}
    (hop : s.operation = some (.locking offset size flags))
    (hclient : s.channel.client = .write (.blob (blobSize cfg size)))
    (hkeeps : Keeps cfg s (.client data)) :
    let pos := ensureSpace cfg.ring.size (pop cfg.ring.size s.channel.ring.m_pos)
      (blobSize cfg size)
    let l := ReservedLock.reserve cfg offset size flags pos
    Faithful cfg
      { s with
        channel := c
        memory := writeBytes (s.push cfg (.blob (blobSize cfg size)) data) l.checkPtr
          kLockCheckValue
        operation := some (.locked l) } := by
  intro pos l
  obtain ⟨hsized, -⟩ := h.locking offset size flags hop
  have hwords : ∀ w, pos ≤ w → w < pos + chunkSize (blobSize cfg size) →
      w ∈ (Item.blob (blobSize cfg size)).words cfg.ring.size s.channel.ring.m_pos :=
    fun w hle hlt => blob_words hle hlt
  have hout : s.outstanding = s.sent.map (·.lockInfo) ++ s.m_lockInfos := by
    rw [State.outstanding, hop]
    simp only [Operation.unlocked, Operation.reserved, List.nil_append, List.append_nil]
  have hsame : ∀ l' ∈ s.outstanding, ∀ b, l'.Holds cfg b →
      writeBytes (s.push cfg (.blob (blobSize cfg size)) data) l.checkPtr kLockCheckValue b =
        s.memory b := by
    intro l' hl' b hb
    have hword := hkeeps.free hclient hl' hb
    have hfront : b / 4 ≠ pos := by
      intro heq
      refine hword (hwords _ heq.ge ?_)
      rw [heq, chunkSize, blobSize, kSIMDAlign]
      omega
    have hcheck : l.checkPtr = 4 * pos := rfl
    have hlength : kLockCheckValue.length = 4 := rfl
    rw [writeBytes_of_not_mem (by omega), push_of_not_mem hword]
  refine ⟨?_, h.sent, (fun _ _ _ hop' => by cases hop'), h.copied⟩
  have hnew := (h.intact.frame hsame).snoc (l := l) (fun _ => rfl) (fun l' hl' b hb hb' => ?_)
    (reserve_bounds cfg offset size flags pos).2.2 hsized
  · rw [hout, List.append_assoc] at hnew
    exact hnew
  · obtain ⟨hle, hlt⟩ := reserve_holds hb'
    exact hkeeps.free hclient hl' hb (hwords _ hle hlt)

/-- **A push**: it does not take the words of what a lock has handed out, and what a lock hands out
is in the words of its own push. -/
theorem Faithful.access (h : Faithful cfg s) {data : Nat → Byte} (hkeeps : Keeps cfg s (.client data))
    (hstep : SyncDataQueue.step cfg.ring s.channel .client = some c) :
    Faithful cfg (s.access cfg c data) := by
  have hheld := held_of_step hstep (by simp)
  rw [State.access]
  split
  · next it hclient =>
      have hit : s.channel.client.held = some it := by rw [hclient]; rfl
      dsimp only
      split
      · next offset size flags hop =>
          obtain rfl := (h.locking offset size flags hop).2 it hit
          exact h.reserve hop hclient hkeeps
      · have hmemory : Faithful cfg { s with memory := s.push cfg it data } :=
          { h with
            intact := h.intact.frame fun l hl b hb => push_of_not_mem (hkeeps.free hclient hl hb) }
        exact hmemory.goOn hheld
  · exact h.goOn hheld

/-- The rest of a lock or an unlock. -/
theorem Faithful.proceed (h : Faithful cfg s) (hstep : s.proceed cfg = some s') :
    Faithful cfg s' := by
  rw [State.proceed] at hstep
  split at hstep
  · next l hop =>
      obtain ⟨c, -, rfl⟩ := Option.map_eq_some_iff.mp hstep
      exact h.lock_done hop
  · next l hop =>
      split at hstep
      · obtain ⟨c, -, rfl⟩ := Option.map_eq_some_iff.mp hstep
        refine { h with locking := fun _ _ _ hop' => ?_ }
        rw [hop] at hop'
        cases hop'
      · obtain ⟨c, -, rfl⟩ := Option.map_eq_some_iff.mp hstep
        exact h.unlock_done hop
  · cases hstep

/-- The server is done with some of the unlocks. -/
theorem Faithful.shrink (h : Faithful cfg s) {processing : Option Unlock}
    {unlocks : List (Option Unlock)} {copied : List Copy}
    (hheld : ∀ it, c.client.held = some it → s.channel.client.held = some it)
    (hsent : (processing.toList ++ unlocks.reduceOption).Sublist s.sent)
    (hcopied : ∀ c ∈ copied, c.Exact cfg) :
    Faithful cfg
      { s with
        channel := c, processing := processing, unlocks := unlocks, copied := copied } where
  intact := h.intact.sublist ((hsent.map _).append_right _)
  sent := fun u hu => h.sent u (hsent.subset hu)
  locking := (h.goOn hheld).locking
  copied := hcopied

theorem reduceOption_head (us : List (Option Unlock)) :
    us.head?.join.toList ++ us.tail.reduceOption = us.reduceOption := by
  cases us with
  | nil => rfl
  | cons u us => cases u <;> rfl

/-- **The server**: it takes the header of an unlock, and copies when it has pulled its data. -/
theorem Faithful.serve (h : Faithful cfg s)
    (hstep : SyncDataQueue.step cfg.ring s.channel .server = some c) : Faithful cfg (s.serve c) := by
  have hheld := held_of_step hstep (by simp)
  rw [State.serve]
  split
  · refine h.shrink hheld ?_ h.copied
    rw [reduceOption_head]
    exact List.sublist_append_right _ _
  · split
    · refine h.shrink hheld (List.sublist_append_right _ _) fun c' hc' => ?_
      rcases List.mem_append.mp hc' with hc' | hc'
      · exact h.copied c' hc'
      · obtain ⟨u, hu, rfl⟩ := Option.map_eq_some_iff.mp (Option.mem_toList.mp hc')
        exact h.copy_exact (List.mem_append_left _ (Option.mem_toList.mpr hu))
    · exact h.goOn hheld
  · exact h.goOn hheld

/-- **The application** writes to a range that it has locked. -/
theorem Faithful.write (h : Faithful cfg s) {k i : Nat} {value : Byte} {l : LockInfo}
    (hl : s.m_lockInfos[k]? = some l) (hi : i < dataSize cfg l.sizeToLock) :
    Faithful cfg
      { s with
        memory := Function.update s.memory (l.pbData + i) value
        m_lockInfos := s.m_lockInfos.set k (l.write i value) } := by
  obtain ⟨hk, hget⟩ := List.getElem?_eq_some_iff.mp hl
  have hold : s.m_lockInfos = s.m_lockInfos.take k ++ l :: s.m_lockInfos.drop (k + 1) := by
    rw [← hget, List.cons_getElem_drop_succ, List.take_append_drop]
  have hnew : s.m_lockInfos.set k (l.write i value) =
      s.m_lockInfos.take k ++ l.write i value :: s.m_lockInfos.drop (k + 1) :=
    List.set_eq_take_append_cons_drop .. |>.trans (if_pos hk)
  refine { h with intact := ?_ }
  have hout := h.intact
  rw [State.outstanding, hold] at hout
  rw [State.outstanding, hnew]
  have happend (m : LockInfo) : ∀ before before' after after' : List LockInfo,
      before ++ (before' ++ ((after ++ m :: after') ++ Operation.reserved s.operation)) =
        (before ++ before' ++ after) ++ m :: (after' ++ Operation.reserved s.operation) := by
    simp
  rw [happend] at hout ⊢
  exact hout.write hi value

/-- **The step lemma.** -/
theorem Faithful.step (h : Faithful cfg s) {a : Action} (hkeeps : Keeps cfg s a)
    (hstep : step cfg s a = some s') : Faithful cfg s' := by
  cases a with
  | begin =>
      obtain ⟨hop, hc⟩ := Option.ite_none_right_eq_some.mp hstep
      obtain ⟨c, -, rfl⟩ := Option.map_eq_some_iff.mp hc
      exact h.idle (Option.isNone_iff_eq_none.mp hop)
  | send it =>
      obtain ⟨hop, hc⟩ := Option.ite_none_right_eq_some.mp hstep
      obtain ⟨c, -, rfl⟩ := Option.map_eq_some_iff.mp hc
      exact h.idle (Option.isNone_iff_eq_none.mp hop)
  | done =>
      obtain ⟨hop, hc⟩ := Option.ite_none_right_eq_some.mp hstep
      obtain ⟨c, -, rfl⟩ := Option.map_eq_some_iff.mp hc
      exact h.done (Option.isNone_iff_eq_none.mp hop)
  | lock offset size flags =>
      obtain ⟨hop, hc⟩ := Option.ite_none_right_eq_some.mp hstep
      obtain ⟨c, hbegin, rfl⟩ := Option.map_eq_some_iff.mp hc
      exact h.lock (Option.isNone_iff_eq_none.mp hop) hkeeps hbegin
  | unlock =>
      obtain ⟨hop, hu⟩ := Option.ite_none_right_eq_some.mp hstep
      have hnone := Option.isNone_iff_eq_none.mp hop
      cases hq : s.m_lockInfos with
      | nil =>
          rw [hq] at hu
          cases hu
          exact h
      | cons l rest =>
          rw [hq] at hu
          dsimp only at hu
          split at hu
          · cases hu
            exact h.readOnly hnone hq
          · split at hu
            · obtain ⟨c, -, rfl⟩ := Option.map_eq_some_iff.mp hu
              exact h.unlock hnone hq
            · cases hu
              rw [← hq]
              exact h.idle hnone
  | proceed => exact h.proceed hstep
  | client data =>
      obtain ⟨c, hc, rfl⟩ := Option.map_eq_some_iff.mp hstep
      exact h.access hkeeps hc
  | wake =>
      obtain ⟨c, hc, rfl⟩ := Option.map_eq_some_iff.mp hstep
      exact h.goOn (held_of_step hc (by simp))
  | server =>
      obtain ⟨c, hc, rfl⟩ := Option.map_eq_some_iff.mp hstep
      exact h.serve hc
  | write k i value =>
      obtain ⟨l, hl, hw⟩ := Option.bind_eq_some_iff.mp hstep
      split at hw
      · next hi =>
          cases hw
          exact h.write hl hi
      · cases hw

/-- A ring of 16 words, and a buffer of four bytes that is locked as a whole; the server processes
the lock's command before the application writes. -/
def small : Config := ⟨⟨16, by decide, by decide⟩, 8, by decide, 4⟩

def zeros : Nat → Byte := fun _ => 0

def pushing (n : Nat) : List Action := List.replicate n (.client zeros)

end RemixBridge.ReservedLock
