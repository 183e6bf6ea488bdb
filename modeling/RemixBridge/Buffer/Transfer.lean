import RemixBridge.Buffer.LockableBuffer
import RemixBridge.Support.LastWrite

/-!
# Buffer — Transfer

What the server's buffer holds when it has processed the unlocks: for each byte the commands in
flight and the queued locks are writes still to come, and the last of them has the value that the
application leaves there.

* `Faithful.step`: what a step keeps.
* `unlocks_transfer`: ranges inside the buffer, and the application's bytes on the server.
-/

namespace RemixBridge.Buffer
open Runs Ownership LastWrite
open SharedHeap (kInvalidId)
open DataRing (Byte)

variable (cfg : Config)

/-! ### The condition -/

/-- A byte that the unlock of a lock will send. -/
def LockInfo.Covers (l : LockInfo) (x : Nat) : Prop :=
  if cfg.m_sendWhole then x < cfg.size.toNat else l.Locks cfg x

instance (l : LockInfo) (x : Nat) : Decidable (l.Covers cfg x) :=
  inferInstanceAs (Decidable (if cfg.m_sendWhole then x < cfg.size.toNat else l.Locks cfg x))

/-- A lock starts inside the buffer, and the application writes to a byte before the unlock that
sends it.  A buffer that is sent whole is not exchanged for one whose bytes nobody has written. -/
def Keeps (s : State) : Action → Prop
  | .lock offset _ flags answer =>
      (cfg.m_sendWhole ∨ offset.toNat ≤ cfg.size.toNat) ∧
        (cfg.m_sendWhole → cfg.m_bUseSharedHeap → discards flags → s.m_bufferId ≠ kInvalidId →
          flags &&& D3DLOCK_READONLY = 0 ∧ answer ≠ kInvalidId)
  | .unlock => True
  | .write id x _ =>
      ∃ l ∈ s.m_lockInfos, ¬ l.isReadOnly ∧ l.bufferId = id ∧ l.Covers cfg x
  | .process _ => True

/-! ### Ranges -/

/-- A lock that starts inside the buffer, or whose buffer is sent whole. -/
def LockInfo.Inside (l : LockInfo) : Prop :=
  cfg.m_sendWhole ∨ l.offsetToLock.toNat ≤ cfg.size.toNat

def Range.Inside (r : Range) : Prop := r.past ≤ cfg.size.toNat

variable {cfg} {l : LockInfo} {s s' : State} {x : Nat}

theorem LockInfo.Locks.covers (h : l.Locks cfg x) : l.Covers cfg x := by
  rw [LockInfo.Covers]
  split
  · exact h.2.1
  · exact h

theorem unlockCommand_range (s : State) : (unlockCommand cfg s l).1.range =
    if cfg.m_sendWhole then ⟨0, cfg.size.toNat⟩
    else
      ⟨l.offsetToLock.toNat,
        l.offsetToLock.toNat + (unlockSize cfg.size l.offsetToLock l.sizeToLock).toNat⟩ := by
  cases hs : cfg.m_bUseSharedHeap <;> cases hw : cfg.m_sendWhole <;>
    simp [unlockCommand, Command.range, hs, hw]

theorem unlockCommand_flags (s : State) : (unlockCommand cfg s l).1.flags = l.flags := by
  cases hs : cfg.m_bUseSharedHeap <;> simp [unlockCommand, hs]

theorem unlockCommand_inside (h : l.Inside cfg) (s : State) :
    (unlockCommand cfg s l).1.range.Inside cfg := by
  rw [unlockCommand_range, Range.Inside]
  split
  · exact Nat.le_refl _
  · next hw =>
      have hoffset := h.resolve_left hw
      rw [unlockSize_toNat hoffset]
      split <;> simp only <;> omega

/-- The bytes sent are those that the lock covers. -/
theorem unlockCommand_writes (h : l.Inside cfg) (s : State) :
    (unlockCommand cfg s l).1.Writes x ↔ l.Covers cfg x := by
  rw [Command.Writes, unlockCommand_range, LockInfo.Covers]
  split
  · simp
  · next hw =>
      have hoffset := h.resolve_left hw
      rw [unlockSize_toNat hoffset, LockInfo.Locks]
      split
      · next hzero =>
          simp only [hzero, true_or, and_true]
          omega
      · next hsize =>
          simp only [hsize, false_or]
          omega

/-- The client reads its shadow where the server is to write. -/
theorem unlockCommand_reads (s : State) (hp : l.pbData = l.offsetToLock.toNat) :
    ∀ r ∈ (unlockCommand cfg s l).2, r = (unlockCommand cfg s l).1.range := by
  cases hs : cfg.m_bUseSharedHeap <;> cases hw : cfg.m_sendWhole <;>
    simp [unlockCommand, Command.range, hs, hw, hp]

theorem read_getD (s : State) (ptr : Nat) (size : Word) {i : Nat} (hi : i < size.toNat) :
    (s.read ptr size)[i]?.getD 0#8 = s.memory kInvalidId (ptr + i) := by
  rw [State.read, List.getElem?_map, List.getElem?_range hi]
  rfl

/-! ### Writes to come -/

/-- What a byte of the server's buffer is to be. -/
inductive Value
  | byte (v : Byte)
  | memory (id : AllocId)
  | undefined

def Command.value (c : Command) (x : Nat) : Value :=
  match c.source with
  | .data bytes => .byte (bytes.getD (x - c.offset.toNat) 0)
  | .sharedHeap allocId => .memory allocId

/-- What the processing of a command does to a byte. -/
def Command.touch (x : Nat) (c : Command) : Option Value :=
  if c.Writes x then some (c.value x) else if discards c.flags then some .undefined else none

variable (cfg) in
/-- What the unlock of a lock will come to. -/
def LockInfo.touch (x : Nat) (l : LockInfo) : Option Value :=
  if l.isReadOnly then none
  else
    if l.Covers cfg x then some (.memory l.bufferId)
    else if discards l.flags then some .undefined else none

variable (cfg) in
/-- A byte of the server's buffer, after all commands and all unlocks to come. -/
def State.plan (s : State) (x : Nat) : Value :=
  after (.byte (s.server x)) (s.commands.map (Command.touch x) ++ s.m_lockInfos.map (LockInfo.touch cfg x))

/-- The value that the application leaves at `x` in the memory `id`, there or already read. -/
def Value.Is (v : Value) (memory : AllocId → Nat → Byte) (id : AllocId) (x : Nat) : Prop :=
  v = .memory id ∨ v = .byte (memory id x)

/-- What a command has for a byte is what the server writes there. -/
theorem Value.Is.written {c : Command} {memory : AllocId → Nat → Byte} {id : AllocId}
    (h : (c.value x).Is memory id x) : (Value.byte (c.byte memory x)).Is memory id x := by
  rw [Command.value] at h
  rw [Command.byte]
  cases hsrc : c.source with
  | data bytes =>
      rw [hsrc] at h
      exact h
  | sharedHeap allocId =>
      rw [hsrc] at h
      rcases h with h | h
      · exact .inr (congrArg (fun a => Value.byte (memory a x)) (Value.memory.inj h))
      · cases h

/-- A step that changes one write to come. -/
theorem after_change {start start' : Value} {ws : List (Option Value)}
    {memory : AllocId → Nat → Byte} {id : AllocId}
    (h : (after start ws).Is memory id x)
    (hstart : start.Is memory id x → start'.Is memory id x) : (after start' ws).Is memory id x := by
  rcases after_cases ws with hkeeps | hhides
  · rw [hkeeps] at h ⊢
    exact hstart h
  · rwa [hhides start' start]

variable (cfg) in
/-- Ranges are inside the buffer, and what is planned for a byte that the application has left is
what it has left. -/
structure Faithful (s : State) : Prop where
  inside : ∀ l ∈ s.m_lockInfos, l.Inside cfg
  shadow : cfg.m_bUseSharedHeap = false →
    s.m_bufferId = kInvalidId ∧
      ∀ l ∈ s.m_lockInfos, l.pbData = l.offsetToLock.toNat ∧ l.bufferId = kInvalidId
  sent : ∀ c ∈ s.sent, c.range.Inside cfg
  commands : ∀ c ∈ s.commands, c.range.Inside cfg
  touched : ∀ r ∈ s.touched, r.Inside cfg
  plan : ∀ x id, s.left x = some id → (s.plan cfg x).Is s.memory id x
  whole : cfg.m_sendWhole → ∀ x id, s.left x = some id →
    id = s.m_bufferId ∧ (cfg.m_bUseSharedHeap → id ≠ kInvalidId)

theorem faithful_init (memory : AllocId → Nat → Byte) (server : Nat → Byte) :
    Faithful cfg (init memory server) where
  inside := fun _ h => absurd h List.not_mem_nil
  shadow := fun _ => ⟨rfl, fun _ h => absurd h List.not_mem_nil⟩
  sent := fun _ h => absurd h List.not_mem_nil
  commands := fun _ h => absurd h List.not_mem_nil
  touched := fun _ h => absurd h List.not_mem_nil
  plan := fun _ _ h => by cases h
  whole := fun _ _ _ h => by cases h

/-! ### Lock -/

theorem plan_push (s : State) (l : LockInfo) (x : Nat) :
    (s.push cfg l).plan cfg x = (l.touch cfg x).getD (s.plan cfg x) := by
  rw [State.plan, State.plan, State.push, List.map_append, ← List.append_assoc, after_append]
  rfl

/-- After a lock, the application has left a byte where the lock has it, or where it was. -/
theorem left_push {id : AllocId} (hleft : (s.push cfg l).left x = some id) :
    ¬ l.isReadOnly ∧ l.Locks cfg x ∧ id = l.bufferId ∨
      (l.isReadOnly ∨ ¬ l.Locks cfg x ∧ ¬ discards l.flags) ∧ s.left x = some id := by
  rw [State.push, leave] at hleft
  by_cases hread : l.isReadOnly
  · rw [if_pos hread] at hleft
    exact .inr ⟨.inl hread, hleft⟩
  · simp only [if_neg hread] at hleft
    by_cases hlocks : l.Locks cfg x
    · rw [if_pos hlocks, Option.some_inj] at hleft
      exact .inl ⟨hread, hlocks, hleft.symm⟩
    · rw [if_neg hlocks] at hleft
      by_cases hdiscards : discards l.flags
      · rw [if_pos hdiscards] at hleft
        cases hleft
      · rw [if_neg hdiscards] at hleft
        exact .inr ⟨.inr ⟨hlocks, hdiscards⟩, hleft⟩

/-- The memory a buffer that is sent whole is in does not change under what has been left. -/
def SameMemory (cfg : Config) (s : State) (l : LockInfo) : Prop :=
  cfg.m_sendWhole → l.bufferId = s.m_bufferId ∨ (∀ x, s.left x = none) ∨
    discards l.flags ∧ ¬ l.isReadOnly

theorem Faithful.same (h : Faithful cfg s) (hsame : SameMemory cfg s l) (hw : cfg.m_sendWhole)
    {id : AllocId} (hleft : s.left x = some id)
    (hkeeps : l.isReadOnly ∨ ¬ l.Locks cfg x ∧ ¬ discards l.flags) : id = l.bufferId := by
  obtain ⟨hid, -⟩ := h.whole hw x id hleft
  rcases hsame hw with heq | hnone | ⟨hdiscards, hwrites⟩
  · exact hid.trans heq.symm
  · rw [hnone x] at hleft
    cases hleft
  · rcases hkeeps with hread | ⟨-, hno⟩
    · exact absurd hread hwrites
    · exact absurd hdiscards hno

/-- A lock is pushed that starts inside the buffer. -/
theorem Faithful.push (h : Faithful cfg s) (hinside : l.Inside cfg)
    (hshadow : cfg.m_bUseSharedHeap = false →
      l.pbData = l.offsetToLock.toNat ∧ l.bufferId = kInvalidId)
    (hvalid : cfg.m_bUseSharedHeap → l.bufferId ≠ kInvalidId) (hsame : SameMemory cfg s l) :
    Faithful cfg (s.push cfg l) where
  inside := by
    intro l' hl'
    rcases List.mem_append.mp hl' with hl' | hl'
    · exact h.inside l' hl'
    · rwa [List.mem_singleton.mp hl']
  shadow := by
    intro hs
    refine ⟨(hshadow hs).2, fun l' hl' => ?_⟩
    rcases List.mem_append.mp hl' with hl' | hl'
    · exact (h.shadow hs).2 l' hl'
    · rw [List.mem_singleton.mp hl']
      exact hshadow hs
  sent := h.sent
  commands := h.commands
  touched := h.touched
  plan := by
    intro x id hleft
    rw [plan_push, LockInfo.touch]
    rcases left_push hleft with ⟨hwrites, hlocks, rfl⟩ | ⟨hkeeps, hleft⟩
    · rw [if_neg hwrites, if_pos hlocks.covers]
      exact .inl rfl
    · by_cases hread : l.isReadOnly
      · rw [if_pos hread]
        exact h.plan x id hleft
      · obtain ⟨hlocks, hdiscards⟩ := hkeeps.resolve_left hread
        rw [if_neg hread, if_neg hdiscards]
        by_cases hw : cfg.m_sendWhole
        · -- The whole buffer is sent, from the memory that the byte was left in.
          obtain rfl := h.same hsame hw hleft hkeeps
          split
          · exact .inl rfl
          · exact h.plan x _ hleft
        · have hcovers : ¬ l.Covers cfg x := by
            rw [LockInfo.Covers, if_neg hw]
            exact hlocks
          rw [if_neg hcovers]
          exact h.plan x id hleft
  whole := by
    intro hw x id hleft
    rcases left_push hleft with ⟨-, -, rfl⟩ | ⟨hkeeps, hleft⟩
    · exact ⟨rfl, hvalid⟩
    · exact ⟨h.same hsame hw hleft hkeeps, (h.whole hw x id hleft).2⟩

theorem Faithful.none_left (h : Faithful cfg s) (hw : cfg.m_sendWhole)
    (hs : cfg.m_bUseSharedHeap) (hid : s.m_bufferId = kInvalidId) (x : Nat) : s.left x = none := by
  refine Option.eq_none_iff_forall_ne_some.mpr fun id hleft => ?_
  obtain ⟨rfl, hvalid⟩ := h.whole hw x id hleft
  exact hvalid hs hid

/-- **Lock.** -/
theorem Faithful.lock (h : Faithful cfg s) {offset size flags : Word} {answer : AllocId}
    (hkeeps : Keeps cfg s (.lock offset size flags answer)) :
    Faithful cfg (lock cfg s offset size flags answer) := by
  obtain ⟨hinside, hwhole⟩ := hkeeps
  rw [Buffer.lock]
  cases hs : cfg.m_bUseSharedHeap with
  | false =>
      refine h.push hinside (fun _ => ⟨rfl, rfl⟩)
        (fun hs' => Bool.noConfusion (hs.symm.trans hs')) ?_
      exact fun _ => .inl (h.shadow hs).1.symm
  | true =>
      have hshared (hs' : cfg.m_bUseSharedHeap = false) : False :=
        Bool.noConfusion (hs.symm.trans hs')
      by_cases halloc : discards flags ∨ s.m_bufferId = kInvalidId
      · simp only [if_pos halloc, if_true]
        by_cases hfail : answer = kInvalidId
        · rw [if_pos hfail]
          refine { h with shadow := fun hs' => (hshared hs').elim, whole := fun hw x id hleft => ?_ }
          have hvalid : s.m_bufferId ≠ kInvalidId := fun hid => by
            rw [h.none_left hw hs hid x] at hleft
            cases hleft
          exact absurd hfail (hwhole hw hs (halloc.resolve_right hvalid) hvalid).2
        · rw [if_neg hfail]
          refine h.push hinside (fun hs' => (hshared hs').elim) (fun _ => hfail) fun hw => ?_
          by_cases hid : s.m_bufferId = kInvalidId
          · exact .inr (.inl (h.none_left hw hs hid))
          · have hdiscards := halloc.resolve_right hid
            exact .inr (.inr ⟨hdiscards, fun hr => hr (hwhole hw hs hdiscards hid).1⟩)
      · obtain ⟨-, hid⟩ := not_or.mp halloc
        simp only [if_neg halloc, if_true, if_neg hid]
        exact h.push hinside (fun hs' => (hshared hs').elim) (fun _ => hid) fun _ => .inl rfl

/-! ### Unlock -/

/-- What a command has for a byte: its memory, or what was read of the shadow. -/
theorem unlockCommand_value (s : State)
    (hshadow : cfg.m_bUseSharedHeap = false →
      l.pbData = l.offsetToLock.toNat ∧ l.bufferId = kInvalidId)
    (hx : (unlockCommand cfg s l).1.Writes x) :
    (unlockCommand cfg s l).1.value x =
      if cfg.m_bUseSharedHeap then .memory l.bufferId else .byte (s.memory l.bufferId x) := by
  rw [Command.Writes, unlockCommand_range] at hx
  cases hs : cfg.m_bUseSharedHeap with
  | true => simp [unlockCommand, hs, Command.value]
  | false =>
      obtain ⟨hptr, hid⟩ := hshadow hs
      cases hw : cfg.m_sendWhole with
      | true =>
          rw [hw, if_pos rfl] at hx
          simp [unlockCommand, hs, hw, Command.value, hid, read_getD _ _ _ hx.2]
      | false =>
          rw [hw, if_neg Bool.false_ne_true] at hx
          obtain ⟨hfirst, hpast⟩ := hx
          have hi : x - l.offsetToLock.toNat <
              (unlockSize cfg.size l.offsetToLock l.sizeToLock).toNat := by
            simp only at hfirst hpast
            omega
          have hx' : l.offsetToLock.toNat + (x - l.offsetToLock.toNat) = x :=
            Nat.add_sub_cancel' hfirst
          simp [unlockCommand, hs, hw, Command.value, hid, hptr, read_getD _ _ _ hi, hx']

/-- The command that is sent for a lock does to a byte what was to come of the lock. -/
theorem touch_unlockCommand (hinside : l.Inside cfg) (hwrites : ¬ l.isReadOnly)
    (hshadow : cfg.m_bUseSharedHeap = false →
      l.pbData = l.offsetToLock.toNat ∧ l.bufferId = kInvalidId) {v : Value} {id : AllocId}
    (h : ((l.touch cfg x).getD v).Is s.memory id x) :
    (((unlockCommand cfg s l).1.touch x).getD v).Is s.memory id x := by
  rw [LockInfo.touch, if_neg hwrites] at h
  rw [Command.touch, unlockCommand_flags]
  by_cases hcovers : l.Covers cfg x
  · have hx := (unlockCommand_writes hinside s).mpr hcovers
    rw [if_pos hx, unlockCommand_value s hshadow hx]
    rw [if_pos hcovers] at h
    split
    · exact h
    · rcases h with h | h
      · exact .inr (congrArg (fun id => Value.byte (s.memory id x)) (Value.memory.inj h))
      · cases h
  · have hx : ¬ (unlockCommand cfg s l).1.Writes x :=
      fun hx => hcovers ((unlockCommand_writes hinside s).mp hx)
    rw [if_neg hx]
    rwa [if_neg hcovers] at h

/-- **Unlock.**  What was to be sent is sent: the bytes of the shadow as they are, or the id. -/
theorem Faithful.unlock (h : Faithful cfg s) : Faithful cfg (unlock cfg s) := by
  rw [Buffer.unlock]
  cases hq : s.m_lockInfos with
  | nil => exact h
  | cons l rest =>
      have hfirst : l ∈ s.m_lockInfos := hq ▸ List.mem_cons_self
      have hrest : ∀ l' ∈ rest, l' ∈ s.m_lockInfos := fun l' hl' => hq ▸ List.mem_cons_of_mem l hl'
      have hinside := h.inside l hfirst
      have hshadow := fun hs => (h.shadow hs).2 l hfirst
      by_cases hread : l.isReadOnly
      · simp only [if_pos hread]
        refine { h with
          inside := fun l' hl' => h.inside l' (hrest l' hl')
          shadow := fun hs => ⟨(h.shadow hs).1, fun l' hl' => (h.shadow hs).2 l' (hrest l' hl')⟩
          plan := fun x id hleft => ?_ }
        have hplan := h.plan x id hleft
        rw [State.plan, hq, List.map_cons, after_append, after_cons, LockInfo.touch,
          if_pos hread] at hplan
        rw [State.plan, after_append]
        exact hplan
      · simp only [if_neg hread]
        have hrange := unlockCommand_inside hinside s
        refine
          { inside := fun l' hl' => h.inside l' (hrest l' hl')
            shadow := fun hs => ⟨(h.shadow hs).1, fun l' hl' => (h.shadow hs).2 l' (hrest l' hl')⟩
            sent := fun c hc => ?_
            commands := fun c hc => ?_
            touched := fun r hr => ?_
            plan := fun x id hleft => ?_
            whole := h.whole }
        · rcases List.mem_append.mp hc with hc | hc
          · exact h.sent c hc
          · rwa [List.mem_singleton.mp hc]
        · rcases List.mem_append.mp hc with hc | hc
          · exact h.commands c hc
          · rwa [List.mem_singleton.mp hc]
        · rcases List.mem_append.mp hr with hr | hr
          · exact h.touched r hr
          · cases hs : cfg.m_bUseSharedHeap with
            | false => rwa [unlockCommand_reads s (hshadow hs).1 r hr]
            | true => simp [unlockCommand, hs] at hr
        · have hplan := h.plan x id hleft
          rw [State.plan, hq, List.map_cons, after_append, after_cons] at hplan
          rw [State.plan, State.send, List.map_append, after_append, after_append]
          exact after_change hplan fun hv => touch_unlockCommand hinside hread hshadow hv

/-! ### The application and the server -/

/-- A byte that a queued lock sends is planned to be what a lock has in its memory, or unknown. -/
theorem plan_of_queued (hl : l ∈ s.m_lockInfos) (hwrites : ¬ l.isReadOnly)
    (hcovers : l.Covers cfg x) : ∀ b, s.plan cfg x ≠ .byte b := by
  rw [State.plan, after_append]
  refine after_mem (P := fun v => ∀ b, v ≠ Value.byte b) ?_ ⟨.memory l.bufferId, ?_⟩ _
  · intro u hu b
    obtain ⟨l', -, hu⟩ := List.mem_map.mp hu
    rw [LockInfo.touch] at hu
    split at hu
    · cases hu
    · split at hu
      · cases hu
        exact nofun
      · split at hu <;> cases hu
        exact nofun
  · refine List.mem_map.mpr ⟨l, hl, ?_⟩
    rw [LockInfo.touch, if_neg hwrites, if_pos hcovers]

/-- **A write.** -/
theorem Faithful.write (h : Faithful cfg s) {id : AllocId} {y : Nat} (value : Byte)
    (hkeeps : Keeps cfg s (.write id y value)) :
    Faithful cfg { s with
      memory := Function.update s.memory id (Function.update (s.memory id) y value) } := by
  refine { h with plan := fun x id' hleft => ?_ }
  obtain ⟨l, hl, hwrites, -, hcovers⟩ := hkeeps
  rcases h.plan x id' hleft with hplan | hplan
  · exact .inl hplan
  · refine .inr ?_
    have hne : x ≠ y := fun hxy => plan_of_queued hl hwrites (hxy ▸ hcovers) _ hplan
    have hbyte : Function.update s.memory id (Function.update (s.memory id) y value) id' x =
        s.memory id' x := by
      by_cases hid : id' = id
      · rw [hid, Function.update_self, Function.update_of_ne hne]
      · rw [Function.update_of_ne hid]
    exact hplan.trans (congrArg Value.byte hbyte.symm)

/-- **The server.** -/
theorem Faithful.process (h : Faithful cfg s) {c : Command} {rest : List Command}
    (hq : s.commands = c :: rest) (undefined : Nat → Byte) :
    Faithful cfg (process { s with commands := rest } c undefined) := by
  have hc : c ∈ s.commands := hq ▸ List.mem_cons_self
  refine { h with
    commands := fun c' hc' => h.commands c' (hq ▸ List.mem_cons_of_mem c hc')
    touched := fun r hr => ?_
    plan := fun x id hleft => ?_ }
  · rcases List.mem_append.mp hr with hr | hr
    · exact h.touched r hr
    · have hr' : r = c.range := by
        cases hsrc : c.source <;> simpa [hsrc] using hr
      exact hr' ▸ h.commands c hc
  · have hplan := h.plan x id hleft
    rw [State.plan, hq, List.map_cons, List.cons_append, after_cons] at hplan
    refine after_change hplan fun hv => ?_
    rw [Command.touch] at hv
    show (Value.byte (if c.Writes x then c.byte s.memory x
      else (if discards c.flags then undefined else s.server) x)).Is s.memory id x
    by_cases hwrites : c.Writes x
    · rw [if_pos hwrites] at hv ⊢
      exact hv.written
    · rw [if_neg hwrites] at hv ⊢
      by_cases hdiscards : discards c.flags
      · rw [if_pos hdiscards] at hv
        rcases hv with hv | hv <;> cases hv
      · rw [if_neg hdiscards] at hv ⊢
        exact hv

/-! ### Runs -/

/-- **The step lemma.** -/
theorem Faithful.step (h : Faithful cfg s) {a : Action} (hkeeps : Keeps cfg s a)
    (hstep : step cfg s a = some s') : Faithful cfg s' := by
  cases a with
  | lock offset size flags answer =>
      cases hstep
      exact h.lock hkeeps
  | unlock =>
      cases hstep
      exact h.unlock
  | write id x value =>
      cases hstep
      exact h.write value hkeeps
  | process undefined =>
      cases hq : s.commands with
      | nil => simp [Buffer.step, hq] at hstep
      | cons c rest =>
          rw [Buffer.step, hq] at hstep
          cases hstep
          exact h.process hq undefined

/-- Every lock that is not read only has been unlocked, and every unlock processed. -/
def State.Settled (s : State) : Prop := s.commands = [] ∧ ∀ l ∈ s.m_lockInfos, l.isReadOnly

theorem Faithful.settled (h : Faithful cfg s) (hs : s.Settled) {id : AllocId}
    (hleft : s.left x = some id) : s.server x = s.memory id x := by
  obtain ⟨hcommands, hqueue⟩ := hs
  have hplan := h.plan x id hleft
  have hnone : ∀ u, some u ∉ s.m_lockInfos.map (LockInfo.touch cfg x) := by
    intro u hu
    obtain ⟨l, hl, hu⟩ := List.mem_map.mp hu
    rw [LockInfo.touch, if_pos (hqueue l hl)] at hu
    cases hu
  rw [State.plan, hcommands, List.map_nil, List.nil_append, after_untouched hnone] at hplan
  rcases hplan with hplan | hplan
  · cases hplan
  · exact Value.byte.inj hplan

/-- **Transfer.**  In a run whose locks start inside the buffer, and in which the application writes
to what it has locked before the code unlocks it, every range that is sent, read or written is
inside the buffer, and when all is unlocked and processed the server has what the application has
left in the locked ranges. -/
theorem unlocks_transfer (cfg : Config) (memory : AllocId → Nat → Byte) (server : Nat → Byte)
    (as : List Action) (hkeeps : Along (step cfg) (Keeps cfg) (init memory server) as)
    (hr : run (step cfg) (init memory server) as = some s) :
    (∀ c ∈ s.sent, c.range.Inside cfg) ∧ (∀ r ∈ s.touched, r.Inside cfg) ∧
      (s.Settled → ∀ x id, s.left x = some id → s.server x = s.memory id x) := by
  have h : Faithful cfg s := run_inv_along (fun _ _ _ h => h.step) (faithful_init memory server)
    hkeeps hr
  exact ⟨h.sent, h.touched, fun hs x id => h.settled hs⟩

instance (s : State) : (a : Action) → Decidable (Keeps cfg s a)
  | .lock _ _ _ _ => inferInstanceAs (Decidable (_ ∧ (_ → _ → _ → _ → _ ∧ _)))
  | .write _ _ _ => inferInstanceAs (Decidable (∃ l ∈ s.m_lockInfos, _ ∧ _ ∧ _))
  | .unlock | .process _ => inferInstanceAs (Decidable True)

/-- Two locks of a buffer in the shared heap, held at once; the second one discards it.  Both are
written to, the server processes the first unlock before the second, and a lock that only reads is
held to the end. -/
def overlapping : List Action :=
  [.lock 0 8 0 5, .write 5 1 7, .lock 2 4 D3DLOCK_DISCARD 6, .write 6 3 9, .unlock,
    .process fun _ => 0xEE, .lock 0 2 D3DLOCK_READONLY 9, .write 6 4 8, .unlock,
    .process fun _ => 0xEE]

theorem unlocks_transfer_overlapping :
    ∃ s, run (step ⟨8, true, false⟩) (init (fun _ _ => 0) fun _ => 1) overlapping = some s ∧
      (∀ x ∈ [2, 3, 4, 5], s.server x = s.memory 6 x) ∧
      [2, 3, 4, 5].map s.server = [0, 9, 8, 0] := by
  have hr : run (step ⟨8, true, false⟩) (init (fun _ _ => 0) fun _ => 1) overlapping =
      some _ := rfl
  have htransfer := unlocks_transfer _ _ _ _ (by decide) hr
  refine ⟨_, hr, fun x hx => htransfer.2.2 ⟨rfl, by decide⟩ x 6 ?_, by decide⟩
  revert x
  decide

/-- A lock of the byte after the next to last one of a buffer is accepted, and its unlock sends that
byte. -/
theorem past_the_end_is_sent :
    ∃ s, run (step ⟨8, false, false⟩) (init (fun _ _ => 0) fun _ => 0)
        [.lock 9 1 0 kInvalidId, .unlock] = some s ∧
      ¬ ∀ c ∈ s.sent, c.range.Inside ⟨8, false, false⟩ := by
  refine ⟨_, rfl, fun h => ?_⟩
  have hinside := h ⟨9, 1, 0, .data [0]⟩ List.mem_cons_self
  exact absurd (show 10 ≤ 8 from hinside) (by decide)

/-- Of two locks the first one's range is sent first, and what is written there after that is not
sent. -/
example :
    (run (step ⟨8, false, false⟩) (init (fun _ _ => 0) fun _ => 0)
        [.lock 0 4 0 kInvalidId, .lock 4 4 0 kInvalidId, .unlock, .write kInvalidId 0 1, .unlock,
          .process fun _ => 0, .process fun _ => 0]).map
      (fun s => (s.commands.length, s.m_lockInfos.length, s.left 0, s.memory kInvalidId 0,
        s.server 0)) = some (0, 0, some kInvalidId, 1, 0) := rfl

end RemixBridge.Buffer
