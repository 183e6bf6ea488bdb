import RemixBridge.Device.StateBatch
import RemixBridge.Support.RecursiveLock
import Mathlib.Data.Fintype.Basic

/-!
# Device — PendingFlush

Threads that append records to the batch of a device while others construct commands, access by
access.  An append holds the mutex of the device bridge's channel, if the device synchronises; the
constructor of a command flushes a pending batch under the mutex of the channel of its own bridge.

* `inv_step`: while commands of the module bridge flush with nobody else in the batch, one thread is
  in it at a time, under the device bridge's mutex or for such a command.
* `flush_loses_nothing`: then every record is sent once, whole and in its order.
* `flush_tears`: a command of the module bridge that flushes in the middle of an append.
-/

namespace RemixBridge.PendingFlush
open Runs RecursiveLock StateRecord Batching

inductive Bridge where
  | Module
  | Device
  deriving DecidableEq, Repr

/-- What a thread sets out to do. -/
inductive Op where
  | append (c : Setter)
  | command (bridge : Bridge)

/-- Who called `flushStateBatch`. -/
inductive Caller where
  | append (c : Setter)
  | ctor (bridge : Bridge)

/-- The words of a record that `batchCmd` and `batchConst` store one by one, and those that
`memcpy` copies. -/
def pushed : Setter → List Word
  | .SetVertexShaderConstantF c =>
      [word0 D3D9Command.IDirect3DDevice9Ex_SetVertexShaderConstantF.toNat c.args.length,
        c.StartRegister, BitVec.ofNat 32 c.Vector4fCount]
  | .SetPixelShaderConstantF c =>
      [word0 D3D9Command.IDirect3DDevice9Ex_SetPixelShaderConstantF.toNat c.args.length,
        c.StartRegister, BitVec.ofNat 32 c.Vector4fCount]
  | c => c.record

def copied : Setter → List Word
  | .SetVertexShaderConstantF c | .SetPixelShaderConstantF c => c.pConstantData
  | _ => []

theorem pushed_copied (c : Setter) : pushed c ++ copied c = c.record := by
  cases c <;> rfl

/-! ### The accesses -/

/-- The next access of a thread. -/
inductive Pc where
  | idle
  -- `BRIDGE_DEVICE_LOCKGUARD`, `batchCmd` and `batchConst`
  | lockAppend (c : Setter)
  | room (c : Setter)
  | push (c : Setter) (words : List Word)
  | storeLen (c : Setter) (w : Word) (words : List Word) (len : Nat)
  | storeWord (c : Setter) (w : Word) (words : List Word) (len : Nat)
  | copy (c : Setter) (dst : Nat) (words : List Word)
  | addLen (c : Setter) (len : Nat)
  | pend (c : Setter)
  | unlockAppend
  -- the constructor of a command
  | readPending (bridge : Bridge)
  | lockFlush (bridge : Bridge)
  | testPending (bridge : Bridge)
  | clearPending (bridge : Bridge)
  | unlockFlush (bridge : Bridge)
  | lockCommand (bridge : Bridge)
  | unlockCommand (bridge : Bridge)
  -- `flushStateBatch`
  | flush (k : Caller)
  | flushNone (k : Caller)
  | flushWords (k : Caller)
  | flushLen (k : Caller) (words : Nat)
  | flushPending (k : Caller) (words : Nat)
  | flushLock (k : Caller) (words : Nat)
  | send (k : Caller) (words : Nat) (out : List Word)
  | flushUnlock (k : Caller)

/-- Where `flushStateBatch` returns to. -/
def Caller.pc : Caller → Pc
  | .append c    => .push c (pushed c)
  | .ctor bridge => .unlockFlush bridge

/-- The batch, the flag, the words of the batches that were sent, and the records appended, in the
order in which their appends ended. -/
structure Memory where
  m_batchBuf : Nat → Word
  m_batchLen : Nat
  g_stateBatchPending : Bool
  sent : List (List Word)
  appended : List Setter

structure State (θ : Type*) where
  mem : Memory
  m_mutex : Bridge → Lock θ
  pc : θ → Pc

inductive Act (θ : Type*) where
  | start (t : θ) (op : Op)
  | tick (t : θ)

def Op.pc : Op → Pc
  | .append c       => .lockAppend c
  | .command bridge => .readPending bridge

section step

variable {θ : Type*} [DecidableEq θ]

/-- The state after `t` left `m` in the memory. -/
def State.put (s : State θ) (t : θ) (p : Pc) (m : Memory) : State θ :=
  { s with mem := m, pc := Function.update s.pc t p }

def State.go (s : State θ) (t : θ) (p : Pc) : State θ := s.put t p s.mem

def State.lock (s : State θ) (bridge : Bridge) (t : θ) (p : Pc) : Option (State θ) :=
  ((s.m_mutex bridge).acquire t).map fun l =>
    { s with m_mutex := Function.update s.m_mutex bridge l, pc := Function.update s.pc t p }

def State.unlock (s : State θ) (bridge : Bridge) (t : θ) (p : Pc) : State θ :=
  { s with m_mutex := Function.update s.m_mutex bridge (s.m_mutex bridge).release
           pc := Function.update s.pc t p }

/-- `lockImpl` and `unlockImpl`. -/
def State.lockImpl (EnableSync : Bool) (s : State θ) (t : θ) (p : Pc) : Option (State θ) :=
  if EnableSync then s.lock .Device t p else some (s.go t p)

def State.unlockImpl (EnableSync : Bool) (s : State θ) (t : θ) (p : Pc) : State θ :=
  if EnableSync then s.unlock .Device t p else s.go t p

/-- One access. -/
def tick (EnableSync : Bool) (s : State θ) (t : θ) : Option (State θ) :=
  let m := s.mem
  match s.pc t with
  | .idle => none
  | .lockAppend c => s.lockImpl EnableSync t (.room c)
  | .room c => some <| s.go t <|
      -- the guard of `batchConst`
      if copied c ≠ [] ∧ c.args.length + 1 > kBatchWords then .unlockAppend
      else if m.m_batchLen + 1 + c.args.length > kBatchWords then .flush (.append c)
      else .push c (pushed c)
  | .push c (w :: ws) => some (s.go t (.storeLen c w ws m.m_batchLen))
  | .push c [] => some <| s.go t <|
      if copied c = [] then .pend c else .copy c m.m_batchLen (copied c)
  | .storeLen c w ws len => some (s.put t (.storeWord c w ws len) { m with m_batchLen := len + 1 })
  | .storeWord c w ws len => some (s.put t (.push c ws)
      { m with m_batchBuf := Function.update m.m_batchBuf len w })
  | .copy c dst (w :: ws) => some (s.put t (.copy c (dst + 1) ws)
      { m with m_batchBuf := Function.update m.m_batchBuf dst w })
  | .copy c _ [] => some (s.go t (.addLen c m.m_batchLen))
  | .addLen c len => some (s.put t (.pend c) { m with m_batchLen := len + (copied c).length })
  | .pend c => some (s.put t .unlockAppend
      { m with g_stateBatchPending := true, appended := m.appended ++ [c] })
  | .unlockAppend => some (s.unlockImpl EnableSync t .idle)
  | .readPending bridge => some <| s.go t <|
      if m.g_stateBatchPending then .lockFlush bridge else .lockCommand bridge
  | .lockFlush bridge => s.lock bridge t (.testPending bridge)
  | .testPending bridge => some <| s.go t <|
      if m.g_stateBatchPending then .clearPending bridge else .unlockFlush bridge
  | .clearPending bridge => some (s.put t (.flush (.ctor bridge))
      { m with g_stateBatchPending := false })
  | .unlockFlush bridge => some (s.unlock bridge t (.lockCommand bridge))
  | .lockCommand bridge => s.lock bridge t (.unlockCommand bridge)
  | .unlockCommand bridge => some (s.unlock bridge t .idle)
  | .flush k => some (s.go t (if m.m_batchLen = 0 then .flushNone k else .flushWords k))
  | .flushNone k => some (s.put t k.pc { m with g_stateBatchPending := false })
  | .flushWords k => some (s.go t (.flushLen k m.m_batchLen))
  | .flushLen k words => some (s.put t (.flushPending k words) { m with m_batchLen := 0 })
  | .flushPending k words => some (s.put t (.flushLock k words)
      { m with g_stateBatchPending := false })
  -- the `StateBatch` command
  | .flushLock k words => s.lock .Device t (.send k words [])
  | .send k words out =>
      if out.length < words then some (s.go t (.send k words (out ++ [m.m_batchBuf out.length])))
      else some (s.put t (.flushUnlock k) { m with sent := m.sent ++ [out] })
  | .flushUnlock k => some (s.unlock .Device t k.pc)

def step (EnableSync : Bool) (s : State θ) : Act θ → Option (State θ)
  | .start t op => match s.pc t with
      | .idle => some (s.go t op.pc)
      | _     => none
  | .tick t => tick EnableSync s t

end step

def start (θ : Type*) : State θ :=
  ⟨⟨fun _ => 0, 0, false, [], []⟩, fun _ => .free, fun _ => .idle⟩

/-! ### Who is in the batch -/

def Bridge.holds : Bridge → Nat
  | .Device => 1
  | .Module => 0

def Caller.holds : Caller → Nat
  | .append _    => 1
  | .ctor bridge => bridge.holds

/-- How often a synchronised thread holds the mutex of the device bridge. -/
def Pc.holds : Pc → Nat
  | .idle | .lockAppend _ | .readPending _ | .lockFlush _ | .lockCommand _ => 0
  | .room _ | .push _ _ | .storeLen _ _ _ _ | .storeWord _ _ _ _ | .copy _ _ _ | .addLen _ _
  | .pend _ | .unlockAppend => 1
  | .testPending bridge | .clearPending bridge | .unlockFlush bridge | .unlockCommand bridge =>
      bridge.holds
  | .flush k | .flushNone k | .flushWords k | .flushLen k _ | .flushPending k _
  | .flushLock k _ => k.holds
  | .send k _ _ | .flushUnlock k => k.holds + 1

/-- Whether a thread is between the lock and the unlock of an append or of a constructor's flush. A
command of the module bridge is in its flush once it has found a batch pending. -/
def Pc.inBatch : Pc → Bool
  | .idle | .lockAppend _ | .readPending _ | .lockFlush _ | .lockCommand _ | .unlockCommand _ => false
  | .testPending bridge | .unlockFlush bridge => bridge = .Device
  | .room _ | .push _ _ | .storeLen _ _ _ _ | .storeWord _ _ _ _ | .copy _ _ _ | .addLen _ _
  | .pend _ | .unlockAppend | .clearPending _ | .flush _ | .flushNone _ | .flushWords _
  | .flushLen _ _ | .flushPending _ _ | .flushLock _ _ | .send _ _ _ | .flushUnlock _ => true

/-- Whether it is in the flush of a command of the module bridge. -/
def Pc.forModule : Pc → Bool
  | .clearPending .Module | .flush (.ctor .Module) | .flushNone (.ctor .Module)
  | .flushWords (.ctor .Module) | .flushLen (.ctor .Module) _ | .flushPending (.ctor .Module) _
  | .flushLock (.ctor .Module) _ | .send (.ctor .Module) _ _ | .flushUnlock (.ctor .Module) => true
  | _ => false

/-- Without the mutex of the device bridge only such a flush is in the batch. -/
theorem outside_of_holds {p : Pc} (h0 : p.holds = 0) (hm : p.forModule = false) :
    p.inBatch = false := by
  have hcaller {k : Caller} (hk : k.holds = 0) : k = .ctor .Module := by
    cases k with
    | append c => cases hk
    | ctor bridge =>
        cases bridge with
        | Device => cases hk
        | Module => rfl
  cases p with
  | idle | lockAppend | readPending | lockFlush | lockCommand | unlockCommand => rfl
  | room | push | storeLen | storeWord | copy | addLen | pend | unlockAppend => cases h0
  | testPending bridge | unlockFlush bridge =>
      cases bridge with
      | Device => cases h0
      | Module => rfl
  | clearPending bridge =>
      cases bridge with
      | Device => cases h0
      | Module => cases hm
  | flush k | flushNone k | flushWords k | flushLen k words | flushPending k words
  | flushLock k words =>
      cases hcaller h0
      cases hm
  | send k words out | flushUnlock k => cases h0

theorem Caller.holds_pc (k : Caller) : k.pc.holds = k.holds := by
  cases k <;> rfl

/-! ### What the batch holds -/

/-- The first words of the buffer. -/
def Memory.words (m : Memory) (n : Nat) : List Word := (List.range n).map m.m_batchBuf

/-- The records of a list. -/
def records (cs : List Setter) : List Word := cs.flatMap Setter.record

theorem records_append (bs cs : List Setter) : records (bs ++ cs) = records bs ++ records cs :=
  List.flatMap_append

/-- Each batch that was sent carries the records of one of `gs`, and `bs` are the others. -/
structure Kept (sent : List (List Word)) (appended : List Setter) (gs : List (List Setter))
    (bs : List Setter) : Prop where
  sent : sent = gs.map records
  appended : gs.flatten ++ bs = appended

/-- The others are the first `n` words of the buffer. -/
def Holds (m : Memory) (n : Nat) : Prop :=
  ∃ gs bs, Kept m.sent m.appended gs bs ∧ m.words n = records bs

/-- And flagged as pending. -/
def Settled (m : Memory) : Prop :=
  ∃ gs bs, Kept m.sent m.appended gs bs ∧ m.words m.m_batchLen = records bs ∧
    (bs ≠ [] → m.g_stateBatchPending = true)

/-- There are none. -/
def Flushed (m : Memory) : Prop := ∃ gs, Kept m.sent m.appended gs [] ∧ m.m_batchLen = 0

/-- The first `n` words and `ws` are the others and the record of `c`. -/
def Partial (m : Memory) (c : Setter) (n : Nat) (ws : List Word) : Prop :=
  ∃ gs bs, Kept m.sent m.appended gs bs ∧ m.words n ++ ws = records (bs ++ [c])

/-- What a thread knows of the batch at its next access. -/
def Local (m : Memory) : Pc → Prop
  | .idle | .lockAppend _ | .readPending _ | .lockFlush _ | .lockCommand _ | .unlockCommand _ => True
  | .testPending .Module | .unlockFlush .Module => True
  | .room _ | .unlockAppend | .testPending .Device => Settled m
  | .unlockFlush .Device => Flushed m
  | .push c ws => Partial m c m.m_batchLen (ws ++ copied c)
  | .storeLen c w ws len =>
      m.m_batchLen = len ∧ Partial m c len (w :: (ws ++ copied c))
  | .storeWord c w ws len =>
      m.m_batchLen = len + 1 ∧ Partial m c len (w :: (ws ++ copied c))
  | .copy c dst ws => Partial m c dst ws ∧ dst + ws.length = m.m_batchLen + (copied c).length
  | .addLen c len => Partial m c (len + (copied c).length) []
  | .pend c => Partial m c m.m_batchLen []
  | .clearPending _ | .flush _ | .flushWords _ => Holds m m.m_batchLen
  | .flushNone _ | .flushUnlock _ => Flushed m
  | .flushLen _ words => Holds m words
  | .flushPending _ words | .flushLock _ words => m.m_batchLen = 0 ∧ Holds m words
  | .send _ words out => m.m_batchLen = 0 ∧ Holds m words ∧
      out = m.words out.length ∧ out.length ≤ words

/-- A thread that is not in the batch knows nothing of it. -/
theorem local_outside {p : Pc} {m : Memory} (hp : p.inBatch = false) : Local m p := by
  cases p with
  | testPending bridge | unlockFlush bridge =>
      cases bridge with
      | Device => cases hp
      | Module => trivial
  | idle | lockAppend | readPending | lockFlush | lockCommand | unlockCommand => trivial
  | _ => cases hp

/-! ### What an access does to it -/

section memory

variable {m : Memory} {c : Setter} {n : Nat} {ws : List Word}

theorem length_words (m : Memory) (n : Nat) : (m.words n).length = n := by
  simp [Memory.words]

theorem words_succ (m : Memory) (n : Nat) : m.words (n + 1) = m.words n ++ [m.m_batchBuf n] := by
  simp [Memory.words, List.range_succ]

/-- A word stored past the first `n` leaves them. -/
theorem words_store (m : Memory) (n : Nat) (w : Word) :
    Memory.words { m with m_batchBuf := Function.update m.m_batchBuf n w } (n + 1) =
      m.words n ++ [w] := by
  have hfirst : Memory.words { m with m_batchBuf := Function.update m.m_batchBuf n w } n =
      m.words n := by
    refine List.map_congr_left fun i hi => ?_
    have hne : i ≠ n := (List.mem_range.mp hi).ne
    exact Function.update_of_ne hne w m.m_batchBuf
  rw [words_succ, hfirst]
  simp

theorem Settled.holds (h : Settled m) : Holds m m.m_batchLen := by
  obtain ⟨gs, bs, hk, hw, -⟩ := h
  exact ⟨gs, bs, hk, hw⟩

theorem Flushed.settled (h : Flushed m) : Settled m := by
  obtain ⟨gs, hk, h0⟩ := h
  exact ⟨gs, [], hk, by rw [h0]; rfl, fun hne => absurd rfl hne⟩

/-- An empty buffer holds no record. -/
theorem Holds.flushed (h : Holds m m.m_batchLen) (h0 : m.m_batchLen = 0) : Flushed m := by
  obtain ⟨gs, bs, hk, hw⟩ := h
  rw [h0] at hw
  obtain rfl : bs = [] := flatMap_record_eq_nil hw.symm
  exact ⟨gs, hk, h0⟩

/-- What is not flagged is not there. -/
theorem Settled.flushed (h : Settled m) (hp : m.g_stateBatchPending = false) : Flushed m := by
  obtain ⟨gs, bs, hk, hw, hpending⟩ := h
  have hbs : bs = [] := by
    by_contra hne
    rw [hpending hne] at hp
    cases hp
  subst hbs
  refine ⟨gs, hk, ?_⟩
  rw [← length_words m m.m_batchLen, hw]
  rfl

theorem Holds.begins (h : Holds m n) (c : Setter) : Partial m c n (pushed c ++ copied c) := by
  obtain ⟨gs, bs, hk, hw⟩ := h
  refine ⟨gs, bs, hk, ?_⟩
  rw [hw, pushed_copied, records_append]
  simp [records]

/-- The caller of a flush finds the batch empty. -/
theorem Flushed.caller (h : Flushed m) (k : Caller) : Local m k.pc := by
  cases k with
  | append c => exact h.settled.holds.begins c
  | ctor bridge =>
      cases bridge with
      | Device => exact h
      | Module => trivial

theorem Partial.store {w : Word} (h : Partial m c n (w :: ws)) :
    Partial { m with m_batchBuf := Function.update m.m_batchBuf n w } c (n + 1) ws := by
  obtain ⟨gs, bs, hk, hw⟩ := h
  refine ⟨gs, bs, ⟨hk.sent, hk.appended⟩, ?_⟩
  rw [words_store, List.append_assoc]
  exact hw

/-- The end of an append. -/
theorem Partial.pend (h : Partial m c m.m_batchLen []) :
    Settled { m with g_stateBatchPending := true, appended := m.appended ++ [c] } := by
  obtain ⟨gs, bs, hk, hw⟩ := h
  refine ⟨gs, bs ++ [c], ⟨hk.sent, ?_⟩, ?_, fun _ => rfl⟩
  · rw [← hk.appended, List.append_assoc]
  · rw [← hw, List.append_nil]
    rfl

/-- The end of a `StateBatch` command. -/
theorem Holds.send (h : Holds m n) (h0 : m.m_batchLen = 0) :
    Flushed { m with sent := m.sent ++ [m.words n] } := by
  obtain ⟨gs, bs, hk, hw⟩ := h
  refine ⟨gs ++ [bs], ⟨?_, ?_⟩, h0⟩
  · rw [hk.sent, hw, List.map_append]
    rfl
  · rw [← hk.appended, List.flatten_append]
    simp

end memory

/-! ### The owner's batch -/

variable {θ : Type*}

/-- The mutex counts its holders; one thread is in the batch at a time and knows what the batch
holds, and without any the batch is settled. -/
structure Inv (s : State θ) : Prop where
  mutex : Held (s.m_mutex .Device) fun t => (s.pc t).holds
  alone : ∀ t, (s.pc t).inBatch = true → ∀ u, u ≠ t → (s.pc u).inBatch = false
  known : ∀ t, Local s.mem (s.pc t)
  free : (∀ t, (s.pc t).inBatch = false) → Settled s.mem

theorem inv_start : Inv (start θ) where
  mutex := held_free
  alone := nofun
  known _ := trivial
  free _ := ⟨[], [], ⟨rfl, rfl⟩, rfl, fun h => absurd rfl h⟩

variable [DecidableEq θ] {s s' : State θ} {t : θ} {p : Pc} {m : Memory}
  {m_mutex : Bridge → Lock θ}

theorem holds_update (pc : θ → Pc) (t : θ) (p : Pc) :
    (fun u => (Function.update pc t p u).holds) =
      Function.update (fun u => (pc u).holds) t p.holds := by
  funext u
  by_cases hu : u = t
  · subst hu
    simp
  · simp [hu]

theorem known_update {pc : θ → Pc} (hp : Local m p) (hothers : ∀ u, u ≠ t → Local m (pc u))
    (u : θ) : Local m (Function.update pc t p u) := by
  by_cases hu : u = t
  · subst hu
    rwa [Function.update_self]
  · rw [Function.update_of_ne hu]
    exact hothers u hu

theorem Inv.mutex_same (hI : Inv s) (hp : p.holds = (s.pc t).holds) :
    Held (s.m_mutex .Device) fun u => (Function.update s.pc t p u).holds := by
  rw [holds_update, hp, Function.update_eq_self_iff.mpr rfl]
  exact hI.mutex

theorem Inv.mutex_release (hI : Inv s) (hp : p.holds + 1 = (s.pc t).holds) :
    Held (s.m_mutex .Device).release fun u => (Function.update s.pc t p u).holds := by
  have hrelease := hI.mutex.release (t := t) (by omega)
  rw [← hp, Nat.add_sub_cancel] at hrelease
  rwa [holds_update]

/-- An access with nobody else in the batch: inside it, or by a thread that enters or leaves it. -/
theorem inv_inside
    (hmutex : Held (m_mutex .Device) fun u => (Function.update s.pc t p u).holds)
    (hout : ∀ u, u ≠ t → (s.pc u).inBatch = false) (hl : Local m p)
    (hs : p.inBatch = false → Settled m) : Inv ⟨m, m_mutex, Function.update s.pc t p⟩ := by
  have hothers (u : θ) (hu : u ≠ t) : (Function.update s.pc t p u).inBatch = false := by
    rw [Function.update_of_ne hu]
    exact hout u hu
  refine ⟨hmutex, fun v hv u hu => ?_, known_update hl fun u hu => local_outside (hout u hu),
    fun hnone => hs ?_⟩
  · by_cases hvt : v = t
    · subst hvt
      exact hothers u hu
    · rw [hothers v hvt] at hv
      cases hv
  · have hself : (Function.update s.pc t p t).inBatch = false := hnone t
    rwa [Function.update_self] at hself

/-- An access of a thread that stays out of the batch. -/
theorem Inv.outside (hI : Inv s)
    (hmutex : Held (m_mutex .Device) fun u => (Function.update s.pc t p u).holds)
    (ht : (s.pc t).inBatch = false) (hp : p.inBatch = false) :
    Inv ⟨s.mem, m_mutex, Function.update s.pc t p⟩ := by
  have hsame (u : θ) : (Function.update s.pc t p u).inBatch = (s.pc u).inBatch := by
    by_cases hu : u = t
    · subst hu
      rw [Function.update_self, hp, ht]
    · rw [Function.update_of_ne hu]
  refine ⟨hmutex, fun v hv u hu => ?_, known_update (local_outside hp) fun u _ => hI.known u,
    fun hnone => hI.free fun u => ?_⟩
  · rw [hsame] at hv ⊢
    exact hI.alone v hv u hu
  · rw [← hsame]
    exact hnone u

/-- Who gets the mutex of the device bridge finds nobody in the batch but a command of the module
bridge. -/
theorem Inv.outside_of_acquire (hI : Inv s) (h0 : (s.pc t).holds = 0) {l : Lock θ}
    (h : (s.m_mutex .Device).acquire t = some l) (hm : ∀ u, (s.pc u).forModule = false) (u : θ) :
    (s.pc u).inBatch = false := by
  refine outside_of_holds ?_ (hm u)
  by_contra hpos
  have howner := (hI.mutex.owner u).mp (Nat.pos_of_ne_zero hpos)
  by_cases hut : u = t
  · subst hut
    exact hpos h0
  · simp [Lock.acquire, howner, hut] at h

/-- A thread gets the mutex and enters the batch. -/
theorem Inv.enter (hI : Inv s) (h : s.lock .Device t p = some s') (h0 : (s.pc t).holds = 0)
    (hp : p.holds = 1) (hm : ∀ u, (s.pc u).forModule = false) (hl : Settled s.mem → Local s.mem p)
    (hin : p.inBatch = true) : Inv s' := by
  obtain ⟨l, hacq, rfl⟩ := Option.map_eq_some_iff.mp h
  have hout := hI.outside_of_acquire h0 hacq hm
  refine inv_inside ?_ (fun u _ => hout u) (hl (hI.free hout)) fun hnot => ?_
  · rw [holds_update, Function.update_self, hp, ← Nat.zero_add 1, ← h0]
    exact hI.mutex.acquire hacq
  · rw [hin] at hnot
    cases hnot

/-- It gets the mutex in the batch. -/
theorem Inv.lock_inside (hI : Inv s) (h : s.lock .Device t p = some s')
    (hp : p.holds = (s.pc t).holds + 1) (ht : (s.pc t).inBatch = true) (hl : Local s.mem p)
    (hin : p.inBatch = true) : Inv s' := by
  obtain ⟨l, hacq, rfl⟩ := Option.map_eq_some_iff.mp h
  refine inv_inside ?_ (hI.alone t ht) hl fun hnot => ?_
  · rw [holds_update, Function.update_self, hp]
    exact hI.mutex.acquire hacq
  · rw [hin] at hnot
    cases hnot

/-- Or out of it. -/
theorem Inv.lock_outside (hI : Inv s) (h : s.lock .Device t p = some s')
    (hp : p.holds = (s.pc t).holds + 1) (ht : (s.pc t).inBatch = false)
    (hout : p.inBatch = false) : Inv s' := by
  obtain ⟨l, hacq, rfl⟩ := Option.map_eq_some_iff.mp h
  refine hI.outside ?_ ht hout
  rw [holds_update, Function.update_self, hp]
  exact hI.mutex.acquire hacq

/-- The other mutex guards nothing of the batch. -/
theorem Inv.other (hI : Inv s) (l : Lock θ) (hp : p.holds = (s.pc t).holds)
    (ht : (s.pc t).inBatch = false) (hout : p.inBatch = false) :
    Inv { s with m_mutex := Function.update s.m_mutex .Module l
                 pc := Function.update s.pc t p } := by
  have hne : Bridge.Device ≠ .Module := nofun
  refine hI.outside ?_ ht hout
  rw [Function.update_of_ne hne]
  exact hI.mutex_same hp

/-! ### Runs -/

/-- A command of the module bridge comes to flush a batch with nobody else in it, and nobody comes
to the batch during such a flush. -/
def FlushesAlone (s : State θ) : Act θ → Prop
  | .tick t => match s.pc t with
      | .testPending .Module =>
          s.mem.g_stateBatchPending = true → ∀ u, u ≠ t → (s.pc u).inBatch = false
      | .lockAppend _ | .lockFlush .Device => ∀ u, (s.pc u).forModule = false
      | _ => True
  | _ => True

instance [Fintype θ] (s : State θ) (a : Act θ) : Decidable (FlushesAlone s a) := by
  unfold FlushesAlone
  split
  · split <;> infer_instance
  · infer_instance

/-- **The access lemma.** -/
theorem inv_tick (hI : Inv s) (hC : FlushesAlone s (.tick t)) (h : tick true s t = some s') :
    Inv s' := by
  have hl := hI.known t
  have halone := hI.alone t
  have hstays {p : Pc} {m : Memory} (h : some (s.put t p m) = some s')
      (hin : (s.pc t).inBatch = true) (hp : p.holds = (s.pc t).holds) (hl : Local m p)
      (hs : p.inBatch = false → Settled m) : Inv s' := by
    cases h
    exact inv_inside (hI.mutex_same hp) (halone hin) hl hs
  have hgo {p : Pc} (h : some (s.go t p) = some s') (hp : p.holds = (s.pc t).holds)
      (ht : (s.pc t).inBatch = false) (hout : p.inBatch = false) : Inv s' := by
    cases h
    exact hI.outside (hI.mutex_same hp) ht hout
  simp only [FlushesAlone] at hC
  unfold tick at h
  generalize hpc : s.pc t = q at h hl halone hstays hgo hC
  cases q with
  | idle => cases h
  | lockAppend c => exact hI.enter h (by rw [hpc]; rfl) rfl hC id rfl
  | room c =>
      dsimp only at h
      split at h
      · exact hstays h rfl rfl hl nofun
      · split at h
        · exact hstays h rfl rfl (Settled.holds hl) nofun
        · exact hstays h rfl rfl ((Settled.holds hl).begins c) nofun
  | push c ws =>
      cases ws with
      | cons w ws => exact hstays h rfl rfl ⟨rfl, hl⟩ nofun
      | nil =>
          dsimp only at h
          split at h
          · rename_i hnone
            refine hstays h rfl rfl ?_ nofun
            rwa [Local, hnone] at hl
          · exact hstays h rfl rfl ⟨hl, rfl⟩ nofun
  | storeLen c w ws len =>
      obtain ⟨hlen, hpart⟩ := hl
      exact hstays h rfl rfl ⟨rfl, hpart⟩ nofun
  | storeWord c w ws len =>
      obtain ⟨hlen, hpart⟩ := hl
      refine hstays h rfl rfl ?_ nofun
      rw [Local]
      dsimp only
      rw [hlen]
      exact hpart.store
  | copy c dst ws =>
      obtain ⟨hpart, hdst⟩ := hl
      cases ws with
      | cons w ws =>
          refine hstays h rfl rfl ⟨hpart.store, ?_⟩ nofun
          rw [← hdst, List.length_cons]
          omega
      | nil =>
          refine hstays h rfl rfl ?_ nofun
          rw [Local, ← hdst]
          exact hpart
  | addLen c len => exact hstays h rfl rfl hl nofun
  | pend c => exact hstays h rfl rfl hl.pend nofun
  | unlockAppend =>
      cases h
      refine inv_inside ?_ (halone rfl) trivial fun _ => hl
      rw [Function.update_self]
      exact hI.mutex_release (by rw [hpc]; rfl)
  | readPending bridge =>
      dsimp only at h
      split at h
      · exact hgo h rfl rfl rfl
      · exact hgo h rfl rfl rfl
  | lockFlush bridge =>
      cases bridge with
      | Device => exact hI.enter h (by rw [hpc]; rfl) rfl hC id rfl
      | Module =>
          obtain ⟨l, -, rfl⟩ := Option.map_eq_some_iff.mp h
          exact hI.other l (by rw [hpc]; rfl) (by rw [hpc]; rfl) rfl
  | testPending bridge =>
      dsimp only at h
      split at h
      · rename_i hp
        cases bridge with
        | Device => exact hstays h rfl rfl (Settled.holds hl) nofun
        | Module =>
            cases h
            have hout := hC hp
            have hnone (u : θ) : (s.pc u).inBatch = false := by
              by_cases hu : u = t
              · rw [hu, hpc]
                rfl
              · exact hout u hu
            exact inv_inside (hI.mutex_same (by rw [hpc]; rfl)) hout (hI.free hnone).holds nofun
      · rename_i hp
        cases bridge with
        | Device => exact hstays h rfl rfl (Settled.flushed hl (Bool.eq_false_iff.mpr hp)) nofun
        | Module => exact hgo h rfl rfl rfl
  | clearPending bridge => exact hstays h rfl rfl hl nofun
  | unlockFlush bridge =>
      cases h
      cases bridge with
      | Device =>
          refine inv_inside ?_ (halone rfl) trivial fun _ => Flushed.settled hl
          rw [Function.update_self]
          exact hI.mutex_release (by rw [hpc]; rfl)
      | Module => exact hI.other _ (by rw [hpc]; rfl) (by rw [hpc]; rfl) rfl
  | lockCommand bridge =>
      cases bridge with
      | Device => exact hI.lock_outside h (by rw [hpc]; rfl) (by rw [hpc]; rfl) rfl
      | Module =>
          obtain ⟨l, -, rfl⟩ := Option.map_eq_some_iff.mp h
          exact hI.other l (by rw [hpc]; rfl) (by rw [hpc]; rfl) rfl
  | unlockCommand bridge =>
      cases h
      cases bridge with
      | Device =>
          refine hI.outside ?_ (by rw [hpc]; rfl) rfl
          rw [Function.update_self]
          exact hI.mutex_release (by rw [hpc]; rfl)
      | Module => exact hI.other _ (by rw [hpc]; rfl) (by rw [hpc]; rfl) rfl
  | flush k =>
      dsimp only at h
      split at h
      · exact hstays h rfl rfl (Holds.flushed hl ‹_›) nofun
      · exact hstays h rfl rfl hl nofun
  | flushNone k =>
      have hf : Flushed { s.mem with g_stateBatchPending := false } := hl
      exact hstays h rfl k.holds_pc (hf.caller k) fun _ => hf.settled
  | flushWords k => exact hstays h rfl rfl hl nofun
  | flushLen k words => exact hstays h rfl rfl ⟨rfl, hl⟩ nofun
  | flushPending k words => exact hstays h rfl rfl hl nofun
  | flushLock k words =>
      obtain ⟨h0, hh⟩ := hl
      exact hI.lock_inside h (by rw [hpc]; rfl) (by rw [hpc]; rfl)
        ⟨h0, hh, rfl, Nat.zero_le _⟩ rfl
  | send k words out =>
      obtain ⟨h0, hh, hout, hle⟩ := hl
      dsimp only at h
      split at h
      · rename_i hlt
        refine hstays h rfl rfl ⟨h0, hh, ?_, ?_⟩ nofun
        · rw [List.length_append, List.length_singleton, words_succ, ← hout]
        · rw [List.length_append]
          exact hlt
      · rename_i hge
        have hlen : out.length = words := Nat.le_antisymm hle (Nat.not_lt.mp hge)
        have hflush := hh.send h0
        rw [← hlen, ← hout] at hflush
        exact hstays h rfl rfl hflush nofun
  | flushUnlock k =>
      cases h
      refine inv_inside ?_ (halone rfl) (Flushed.caller hl k) fun _ => Flushed.settled hl
      rw [Function.update_self]
      refine hI.mutex_release ?_
      rw [hpc, k.holds_pc]
      rfl

theorem inv_step {a : Act θ} (hI : Inv s) (hC : FlushesAlone s a) (h : step true s a = some s') :
    Inv s' := by
  cases a with
  | start t op =>
      simp only [step] at h
      split at h
      · rename_i hpc
        cases h
        refine hI.outside (hI.mutex_same ?_) (by rw [hpc]; rfl) (by cases op <;> rfl)
        rw [hpc]
        cases op <;> rfl
      · cases h
  | tick t => exact inv_tick hI hC h

/-- In every state some records were sent, batch by batch, and the others were appended after. -/
theorem local_kept (h : Local m p) (hp : p.inBatch = true) :
    ∃ gs bs, Kept m.sent m.appended gs bs := by
  have hS : Settled m → ∃ gs bs, Kept m.sent m.appended gs bs :=
    fun ⟨gs, bs, hk, _⟩ => ⟨gs, bs, hk⟩
  have hH {n : Nat} : Holds m n → ∃ gs bs, Kept m.sent m.appended gs bs :=
    fun ⟨gs, bs, hk, _⟩ => ⟨gs, bs, hk⟩
  have hP {c : Setter} {n : Nat} {ws : List Word} :
      Partial m c n ws → ∃ gs bs, Kept m.sent m.appended gs bs :=
    fun ⟨gs, bs, hk, _⟩ => ⟨gs, bs, hk⟩
  have hF : Flushed m → ∃ gs bs, Kept m.sent m.appended gs bs := fun h => hS h.settled
  cases p with
  | idle | lockAppend | readPending | lockFlush | lockCommand | unlockCommand => cases hp
  | testPending bridge =>
      cases bridge with
      | Module => cases hp
      | Device => exact hS h
  | unlockFlush bridge =>
      cases bridge with
      | Module => cases hp
      | Device => exact hF h
  | room | unlockAppend => exact hS h
  | clearPending | flush | flushWords | flushLen => exact hH h
  | flushPending | flushLock => exact hH h.2
  | send => exact hH h.2.1
  | flushNone | flushUnlock => exact hF h
  | push | addLen | pend => exact hP h
  | storeLen | storeWord => exact hP h.2
  | copy => exact hP h.1

/-- No record is lost, split or sent twice. -/
structure Lossless (s : State θ) : Prop where
  /-- The batches that were sent carry whole records, each once and in the order of the appends. -/
  sent : ∃ gs bs, Kept s.mem.sent s.mem.appended gs bs
  /-- With no thread in the batch the others are in it, to be flushed by the next command. -/
  waiting : (∀ t, (s.pc t).inBatch = false) → Settled s.mem
  /-- A constructor that has dealt with the batch leaves none. -/
  flushed : ∀ t, s.pc t = .unlockFlush .Device → Flushed s.mem

omit [DecidableEq θ] in
theorem Inv.lossless (hI : Inv s) : Lossless s where
  sent := by
    by_cases hnone : ∀ t, (s.pc t).inBatch = false
    · obtain ⟨gs, bs, hk, -⟩ := hI.free hnone
      exact ⟨gs, bs, hk⟩
    · obtain ⟨t, ht⟩ := not_forall.mp hnone
      exact local_kept (hI.known t) (Bool.eq_true_of_not_eq_false ht)
  waiting := hI.free
  flushed := by
    intro t ht
    have hl := hI.known t
    rw [ht] at hl
    exact hl

/-- **The flush loses nothing.**  On a device that synchronises, in every run of threads that append
and construct commands of either bridge in which the flushes of the module bridge's commands find
and keep the batch to themselves. -/
theorem flush_loses_nothing {as : List (Act θ)} (hC : Along (step true) FlushesAlone (start θ) as)
    (hr : run (step true) (start θ) as = some s) : Lossless s :=
  (run_inv_along (fun _ _ _ hI hC h => inv_step hI hC h) inv_start hC hr).lossless

/-- A record that a command of the module bridge flushes.  A second one pends when another command
of that bridge reads the flag and is flushed by a command of the device bridge, so that the first
finds nothing pending under its mutex.  A third one is in the middle of its append. -/
def flushing : List (Act Bool) :=
  [Act.start false (.append (.SetRenderState 7 1))] ++ List.replicate 14 (Act.tick false) ++
    [Act.start true (.command .Module)] ++ List.replicate 17 (Act.tick true) ++
    [Act.start false (.append (.SetRenderState 8 2))] ++ List.replicate 14 (Act.tick false) ++
    [Act.start true (.command .Module), Act.tick true] ++
    [Act.start false (.command .Device)] ++ List.replicate 17 (Act.tick false) ++
    [Act.tick true, Act.tick true] ++
    [Act.start false (.append (.SetIndices 1))] ++ List.replicate 5 (Act.tick false) ++
    List.replicate 3 (Act.tick true)

theorem flush_loses_nothing_module : ∃ s, run (step true) (start Bool) flushing = some s ∧
    s.mem.sent = [(Setter.SetRenderState 7 1).record, (Setter.SetRenderState 8 2).record] ∧
    Lossless s := by
  have hrun : (run (step true) (start Bool) flushing).map (fun s => s.mem.sent) =
      some [(Setter.SetRenderState 7 1).record, (Setter.SetRenderState 8 2).record] := rfl
  obtain ⟨s, hs, hsent⟩ := Option.map_eq_some_iff.mp hrun
  exact ⟨s, hs, hsent, flush_loses_nothing (by decide +kernel) hs⟩

/-- Four words are not the records of three words each. -/
theorem torn_not_kept (bs : List Setter) (gs : List (List Setter)) : ¬ Kept
    [[8, 2, 1, word0 D3D9Command.IDirect3DDevice9Ex_SetRenderState.toNat 2]]
    [.SetRenderState 7 1, .SetRenderState 8 2] gs bs := by
  rintro ⟨hs, ha⟩
  obtain ⟨g, rfl, hg⟩ := List.map_eq_singleton_iff.mp hs.symm
  rcases g with _ | ⟨a, _ | ⟨b, g⟩⟩
  · cases hg
  · obtain ⟨rfl, -⟩ := List.cons.inj ha
    exact absurd (congrArg List.length hg) (by decide)
  · obtain ⟨h₁, h₂, h₃, -⟩ :
        a = .SetRenderState 7 1 ∧ b = .SetRenderState 8 2 ∧ g = [] ∧ bs = [] := by
      simpa using ha
    rw [h₁, h₂, h₃] at hg
    exact absurd (congrArg List.length hg) (by decide)

/-- A record is appended; of a second one the first word; a command of the module bridge takes the
batch; the append goes on; the command sends what it took. -/
def tearing : List (Act Bool) :=
  [Act.start false (.append (.SetRenderState 7 1))] ++ List.replicate 14 (Act.tick false) ++
    [Act.start false (.append (.SetRenderState 8 2))] ++ List.replicate 5 (Act.tick false) ++
    [Act.start true (.command .Module)] ++ List.replicate 8 (Act.tick true) ++
    List.replicate 9 (Act.tick false) ++ List.replicate 7 (Act.tick true)

/-- **A flush in the middle of an append.**  What is sent are the arguments of the second record
over the start of the first. -/
theorem flush_tears : ∃ s, run (step true) (start Bool) tearing = some s ∧
    s.mem.appended = [.SetRenderState 7 1, .SetRenderState 8 2] ∧
    s.mem.sent = [[8, 2, 1, word0 D3D9Command.IDirect3DDevice9Ex_SetRenderState.toNat 2]] ∧
    ¬ Lossless s := by
  have hrun : (run (step true) (start Bool) tearing).map
      (fun s => (s.mem.appended, s.mem.sent)) =
      some ([.SetRenderState 7 1, .SetRenderState 8 2],
        [[8, 2, 1, word0 D3D9Command.IDirect3DDevice9Ex_SetRenderState.toNat 2]]) := rfl
  obtain ⟨s, hs, hmem⟩ := Option.map_eq_some_iff.mp hrun
  obtain ⟨happended, hsent⟩ := Prod.mk.inj hmem
  refine ⟨s, hs, happended, hsent, fun h => ?_⟩
  obtain ⟨gs, bs, hk⟩ := h.sent
  rw [happended, hsent] at hk
  exact torn_not_kept bs gs hk

end RemixBridge.PendingFlush
