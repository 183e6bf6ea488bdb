import RemixBridge.Support.Runs
import RemixBridge.Support.RecursiveLock
import RemixBridge.Wire.Commands

/-!
# Channel — SrwRecursiveLock

The recursive lock of `util_fastlock.h`: a spinlock, the thread that has it and how often.  The
threads run one atomic step after the other, in any order.

* `Inv.step`: the spinlock has one thread inside, and only that one finds its id in `m_owner`.
* `held_of_idle`: between the calls it is the lock that `RecursiveLock` describes.
* `lock_exclusive`: mutual exclusion, owner and depth, as long as no thread has the lock `2 ^ 32`
  times at once.
-/

namespace RemixBridge.SrwRecursiveLock

open Runs

/-- A thread, by its id; no thread has the id 0. -/
abbrev ThreadId := { id : Word // id ≠ 0 }

/-- Where a thread is in a call: the step that it takes next. -/
inductive Pc where
  /-- Between calls. -/
  | idle
  /-- `lock`: `m_owner == me`. -/
  | lockTest
  /-- `try_lock`: `m_owner == me`. -/
  | tryTest
  /-- `++m_depth`: the load. -/
  | deepen
  /-- `++m_depth`: the store. -/
  | deepenStore (depth : Word)
  /-- `SpinLock::lock`: the exchange. -/
  | exchange
  /-- `SpinLock::lock`: `while (m_flag)`. -/
  | spin
  /-- `SpinLock::try_lock`. -/
  | tryExchange
  /-- `m_owner = me`. -/
  | setOwner
  /-- `m_depth = 1`. -/
  | setDepth
  /-- `--m_depth`: the load. -/
  | lessen
  /-- `--m_depth == 0`: the store and the test. -/
  | lessenStore (depth : Word)
  /-- `m_owner = 0`. -/
  | clearOwner
  /-- `SpinLock::unlock`. -/
  | clearFlag
  deriving DecidableEq

/-- `nesting` counts, for each thread, the calls that took the lock and have returned, without
those whose `unlock` has begun. -/
structure State where
  m_flag : Bool
  m_owner : Word
  m_depth : Word
  pc : ThreadId → Pc
  nesting : ThreadId → Nat

def start : State := ⟨false, 0, 0, fun _ => .idle, fun _ => 0⟩

inductive Act where
  | lock | try_lock | unlock
  /-- The next step of a call that has begun. -/
  | tick
  deriving DecidableEq

def State.goto (s : State) (me : ThreadId) (pc : Pc) : State :=
  { s with pc := Function.update s.pc me pc }

def State.count (s : State) (me : ThreadId) (n : Nat) : State :=
  { s with nesting := Function.update s.nesting me n }

/-- One atomic step of a call of `me`, and where the call goes on. -/
def State.tick (s : State) (me : ThreadId) : Pc → Option State
  | .idle => none
  | .lockTest => some (s.goto me (if s.m_owner = me.val then .deepen else .exchange))
  | .tryTest => some (s.goto me (if s.m_owner = me.val then .deepen else .tryExchange))
  | .deepen => some (s.goto me (.deepenStore s.m_depth))
  | .deepenStore depth =>
      some (({ s with m_depth := depth + 1 }.count me (s.nesting me + 1)).goto me .idle)
  | .exchange =>
      some ({ s with m_flag := true }.goto me (if s.m_flag then .spin else .setOwner))
  | .spin => some (s.goto me (if s.m_flag then .spin else .exchange))
  | .tryExchange =>
      some ({ s with m_flag := true }.goto me (if s.m_flag then .idle else .setOwner))
  | .setOwner => some ({ s with m_owner := me.val }.goto me .setDepth)
  | .setDepth =>
      some (({ s with m_depth := 1 }.count me (s.nesting me + 1)).goto me .idle)
  | .lessen => some (s.goto me (.lessenStore s.m_depth))
  | .lessenStore depth =>
      some ({ s with m_depth := depth - 1 }.goto me (if depth - 1 = 0 then .clearOwner else .idle))
  | .clearOwner => some ({ s with m_owner := 0 }.goto me .clearFlag)
  | .clearFlag => some ({ s with m_flag := false }.goto me .idle)

/-- What a thread does next: an `unlock` needs a hold to give back. -/
def step (s : State) : ThreadId × Act → Option State
  | (me, .lock) => if s.pc me = .idle then some (s.goto me .lockTest) else none
  | (me, .try_lock) => if s.pc me = .idle then some (s.goto me .tryTest) else none
  | (me, .unlock) =>
      if s.pc me = .idle ∧ 0 < s.nesting me then
        some ((s.count me (s.nesting me - 1)).goto me .lessen)
      else none
  | (me, .tick) => s.tick me (s.pc me)

/-! ### Who has the lock -/

/-- How far a thread is in: outside, inside the spinlock on the way in, owner, inside the spinlock
on the way out. -/
inductive Phase where
  | outside | entering | owning | leaving
  deriving DecidableEq

def phase (pc : Pc) (nesting : Nat) : Phase :=
  match pc with
  | .setOwner => .entering
  | .deepen | .deepenStore _ | .setDepth | .lessen | .lessenStore _ | .clearOwner => .owning
  | .clearFlag => .leaving
  | .idle | .lockTest | .tryTest | .exchange | .spin | .tryExchange =>
      if 0 < nesting then .owning else .outside

/-- A thread holds the lock from the step that makes it the owner to the one that ends that. -/
def State.Holds (s : State) (t : ThreadId) : Prop := phase (s.pc t) (s.nesting t) = .owning

instance (s : State) (t : ThreadId) : Decidable (s.Holds t) := inferInstanceAs (Decidable (_ = _))

/-- A bound on the steps that a call of the thread that holds the lock still takes. -/
def Pc.left : Pc → Nat
  | .idle => 0
  | .deepenStore _ | .setDepth | .clearFlag => 1
  | .deepen | .setOwner | .clearOwner => 2
  | .lockTest | .tryTest | .tryExchange | .lessenStore _ => 3
  | .lessen | .exchange => 4
  | .spin => 5

/-- What the stored depth is, seen from a thread at `pc`. -/
def DepthOk (m_depth : Word) (nesting : Nat) : Pc → Prop
  | .idle => 0 < nesting → m_depth.toNat = nesting
  | .lockTest | .tryTest => nesting + 1 < 2 ^ 32 ∧ (0 < nesting → m_depth.toNat = nesting)
  | .deepen => nesting + 1 < 2 ^ 32 ∧ 0 < nesting ∧ m_depth.toNat = nesting
  | .deepenStore depth =>
      nesting + 1 < 2 ^ 32 ∧ 0 < nesting ∧ m_depth.toNat = nesting ∧ depth = m_depth
  | .exchange | .spin | .tryExchange | .setOwner | .setDepth => nesting = 0
  | .lessen => m_depth.toNat = nesting + 1
  | .lessenStore depth => m_depth.toNat = nesting + 1 ∧ depth = m_depth
  | .clearOwner | .clearFlag => nesting = 0

/-- `c` is the thread inside the spinlock, if there is one. -/
structure Inv (s : State) (c : Option ThreadId) : Prop where
  inside : ∀ t, phase (s.pc t) (s.nesting t) ≠ .outside ↔ c = some t
  flag : s.m_flag = c.isSome
  owner : ∀ t, s.m_owner = t.val ↔ s.Holds t
  depth : ∀ t, DepthOk s.m_depth (s.nesting t) (s.pc t)

/-- The other threads are where they were. -/
structure Others (me : ThreadId) (s s' : State) : Prop where
  pc : ∀ t, t ≠ me → s'.pc t = s.pc t
  nesting : ∀ t, t ≠ me → s'.nesting t = s.nesting t

variable {s s' : State} {me t u : ThreadId} {c : Option ThreadId}

theorem phase_idle_pos {n : Nat} (hn : 0 < n) : phase .idle n = .owning := if_pos hn

@[simp] theorem State.goto_pc (s : State) (me : ThreadId) (pc : Pc) : (s.goto me pc).pc me = pc := by
  show Function.update s.pc me pc me = pc
  rw [Function.update_self]

@[simp] theorem State.goto_nesting (s : State) (me : ThreadId) (pc : Pc) :
    (s.goto me pc).nesting = s.nesting := rfl

@[simp] theorem State.count_nesting (s : State) (me : ThreadId) (n : Nat) :
    (s.count me n).nesting me = n := by
  show Function.update s.nesting me n me = n
  rw [Function.update_self]

theorem others_goto {s₁ : State} (pc : Pc) (hpc : s₁.pc = s.pc)
    (hnesting : ∀ t, t ≠ me → s₁.nesting t = s.nesting t) : Others me s (s₁.goto me pc) where
  pc t ht := by
    show Function.update s₁.pc me pc t = s.pc t
    rw [Function.update_of_ne ht, hpc]
  nesting := hnesting

theorem count_of_ne {s₁ : State} {n : Nat} (hnesting : s₁.nesting = s.nesting) :
    ∀ t, t ≠ me → (s₁.count me n).nesting t = s.nesting t := fun t ht => by
  show Function.update s₁.nesting me n t = s.nesting t
  rw [Function.update_of_ne ht, hnesting]

theorem DepthOk.outside {m_depth m_depth' : Word} {nesting : Nat} {pc : Pc}
    (hout : phase pc nesting = .outside) (h : DepthOk m_depth nesting pc) :
    DepthOk m_depth' nesting pc := by
  have hzero : ∀ {P : Prop}, (if 0 < nesting then Phase.owning else .outside) = .outside →
      0 < nesting → P := by
    intro P hif hpos
    rw [if_pos hpos] at hif
    cases hif
  cases pc with
  | idle => exact hzero hout
  | lockTest | tryTest => exact ⟨h.1, hzero hout⟩
  | exchange | spin | tryExchange => exact h
  | deepen | deepenStore depth | setOwner | setDepth | lessen | lessenStore depth | clearOwner
  | clearFlag => cases hout

/-- A step that leaves the lock as it is and its thread as far in as it was. -/
theorem Inv.goOn (h : Inv s c) (ho : Others me s s') (hflag : s'.m_flag = s.m_flag)
    (howner : s'.m_owner = s.m_owner) (hdepth : s'.m_depth = s.m_depth)
    (hphase : phase (s'.pc me) (s'.nesting me) = phase (s.pc me) (s.nesting me))
    (hme : DepthOk s.m_depth (s'.nesting me) (s'.pc me)) : Inv s' c := by
  have hsame : ∀ t, phase (s'.pc t) (s'.nesting t) = phase (s.pc t) (s.nesting t) := by
    intro t
    by_cases ht : t = me
    · rw [ht]
      exact hphase
    · rw [ho.pc t ht, ho.nesting t ht]
  refine ⟨fun t => ?_, hflag.trans h.flag, fun t => ?_, fun t => ?_⟩
  · rw [hsame]
    exact h.inside t
  · rw [howner]
    unfold State.Holds
    rw [hsame]
    exact h.owner t
  · rw [hdepth]
    by_cases ht : t = me
    · rw [ht]
      exact hme
    · rw [ho.pc t ht, ho.nesting t ht]
      exact h.depth t

/-- A step of the thread that is inside, or that comes in where there is none. -/
theorem Inv.change {c' : Option ThreadId} (h : Inv s c) (ho : Others me s s')
    (hc : ∀ t, t ≠ me → c ≠ some t) (hc' : ∀ t, t ≠ me → c' ≠ some t)
    (hflag : s'.m_flag = c'.isSome)
    (hphase : phase (s'.pc me) (s'.nesting me) ≠ .outside ↔ c' = some me)
    (howner : s'.m_owner = me.val ↔ s'.Holds me) (hothers : ∀ t, t ≠ me → s'.m_owner ≠ t.val)
    (hme : DepthOk s'.m_depth (s'.nesting me) (s'.pc me)) : Inv s' c' := by
  have hout : ∀ t, t ≠ me → phase (s.pc t) (s.nesting t) = .outside := fun t ht => by
    by_contra hin
    exact hc t ht ((h.inside t).mp hin)
  have hout' : ∀ t, t ≠ me → phase (s'.pc t) (s'.nesting t) = .outside := fun t ht => by
    rw [ho.pc t ht, ho.nesting t ht]
    exact hout t ht
  refine ⟨fun t => ?_, hflag, fun t => ?_, fun t => ?_⟩
  · by_cases ht : t = me
    · rw [ht]
      exact hphase
    · exact iff_of_false (not_not.mpr (hout' t ht)) (hc' t ht)
  · by_cases ht : t = me
    · rw [ht]
      exact howner
    · refine iff_of_false (hothers t ht) fun hholds => ?_
      cases (hout' t ht).symm.trans hholds
  · by_cases ht : t = me
    · rw [ht]
      exact hme
    · rw [ho.pc t ht, ho.nesting t ht]
      exact (h.depth t).outside (hout t ht)

theorem inv_start : Inv start none where
  inside _ := iff_of_false (not_not.mpr rfl) (Option.some_ne_none _).symm
  flag := rfl
  owner t := iff_of_false (fun h => t.property h.symm) (fun h => by cases h)
  depth _ := fun h => absurd h (Nat.lt_irrefl 0)

/-- A thread that is not outside is the one inside. -/
theorem Inv.eq_some (h : Inv s c) {p : Phase} (hp : phase (s.pc t) (s.nesting t) = p)
    (hne : p ≠ .outside) : c = some t := by
  rw [← hp] at hne
  exact (h.inside t).mp hne

/-! ### What a step keeps -/

/-- What a thread may do: take the lock again, unless it has it `2 ^ 32 - 1` times. -/
def Nests (s : State) : ThreadId × Act → Prop
  | (me, .lock) | (me, .try_lock) => s.nesting me + 1 < 2 ^ 32
  | _ => True

instance (s : State) (a : ThreadId × Act) : Decidable (Nests s a) :=
  match a with
  | (_, .lock) | (_, .try_lock) => inferInstanceAs (Decidable (_ < _))
  | (_, .unlock) | (_, .tick) => inferInstanceAs (Decidable True)

/-- The test whether the thread is the owner, which tells whether it has the lock already. -/
theorem Inv.test (h : Inv s c) {pc other : Pc}
    (hphase : phase (s.pc me) (s.nesting me) = phase .idle (s.nesting me))
    (hme : s.nesting me + 1 < 2 ^ 32 ∧ (0 < s.nesting me → s.m_depth.toNat = s.nesting me))
    (hother : other = .exchange ∨ other = .tryExchange)
    (hpc : pc = if s.m_owner = me.val then .deepen else other) : Inv (s.goto me pc) c := by
  have hholds : s.m_owner = me.val ↔ 0 < s.nesting me := by
    rw [h.owner me, State.Holds, hphase]
    show (if 0 < s.nesting me then Phase.owning else .outside) = .owning ↔ _
    split
    · rename_i hpos
      exact iff_of_true rfl hpos
    · rename_i hzero
      exact iff_of_false (fun h => by cases h) hzero
  refine h.goOn (others_goto _ rfl fun _ _ => rfl) rfl rfl rfl ?_ ?_
  · rw [State.goto_pc, State.goto_nesting, hphase, hpc]
    split
    · rename_i hown
      exact (if_pos (hholds.mp hown)).symm
    · rcases hother with rfl | rfl <;> rfl
  · rw [State.goto_pc, State.goto_nesting, hpc]
    split
    · rename_i hown
      exact ⟨hme.1, hholds.mp hown, hme.2 (hholds.mp hown)⟩
    · rename_i hnot
      have hzero : s.nesting me = 0 := Nat.eq_zero_of_not_pos fun hpos => hnot (hholds.mpr hpos)
      rcases hother with rfl | rfl <;> exact hzero

/-- The exchange: it leaves a flag that is set as it is, and lets the thread in if it is not. -/
theorem Inv.exchanged (h : Inv s c) {pc other : Pc}
    (hphase : phase (s.pc me) (s.nesting me) = phase .idle (s.nesting me))
    (hme : s.nesting me = 0) (hother : other = .spin ∨ other = .idle)
    (hpc : pc = if s.m_flag then other else .setOwner) :
    ∃ c', Inv ({ s with m_flag := true }.goto me pc) c' := by
  have hidle : phase .idle (s.nesting me) = .outside := by
    rw [hme]
    rfl
  rw [hidle] at hphase
  by_cases hflag : s.m_flag = true
  · rw [if_pos hflag] at hpc
    refine ⟨c, h.goOn (others_goto _ rfl fun _ _ => rfl) hflag.symm rfl rfl ?_ ?_⟩
    · rw [State.goto_pc, hphase, hpc]
      rcases hother with rfl | rfl
      · exact hidle
      · exact hidle
    · rw [State.goto_pc, hpc]
      rcases hother with rfl | rfl
      · exact hme
      · exact fun (hpos : 0 < s.nesting me) => absurd hpos (hme ▸ Nat.lt_irrefl 0)
  · have hnone : c = none := by
      rw [h.flag] at hflag
      exact Option.not_isSome_iff_eq_none.mp hflag
    have hothers : ∀ t : ThreadId, s.m_owner ≠ t.val := fun t hown => by
      have hin := h.eq_some ((h.owner t).mp hown) (fun h => by cases h)
      rw [hnone] at hin
      cases hin
    rw [if_neg hflag] at hpc
    refine ⟨some me, h.change (others_goto _ rfl fun _ _ => rfl) (fun t _ hc => ?_)
      (fun t ht hc => ht (Option.some.inj hc).symm) rfl ?_ ?_ (fun t _ => hothers t) ?_⟩
    · rw [hnone] at hc
      cases hc
    · rw [State.goto_pc, hpc]
      exact iff_of_true (fun h => by cases h) rfl
    · refine iff_of_false (hothers me) fun hholds => ?_
      rw [State.Holds, State.goto_pc, hpc] at hholds
      cases hholds
    · rw [State.goto_pc, hpc]
      exact hme

/-- A step of the owner that leaves it the owner. -/
theorem Inv.owning (h : Inv s (some me)) (ho : Others me s s') (hflag : s'.m_flag = s.m_flag)
    (howner : s'.m_owner = me.val) (hphase : phase (s'.pc me) (s'.nesting me) = .owning)
    (hme : DepthOk s'.m_depth (s'.nesting me) (s'.pc me)) : Inv s' (some me) := by
  have hne : ∀ t, t ≠ me → some me ≠ some t := fun t ht hc => ht (Option.some.inj hc).symm
  refine h.change ho hne hne (hflag.trans h.flag) ?_ (iff_of_true howner hphase)
    (fun t ht hown => ht (Subtype.ext (howner.symm.trans hown)).symm) hme
  rw [hphase]
  exact iff_of_true (fun h => by cases h) rfl

theorem Inv.tick (h : Inv s c) (hs : s.tick me (s.pc me) = some s') : ∃ c', Inv s' c' := by
  have hme := h.depth me
  cases hpc : s.pc me <;> rw [hpc] at hs hme
  case idle => cases hs
  case lockTest =>
    cases hs
    exact ⟨c, h.test (by rw [hpc]; rfl) hme (.inl rfl) rfl⟩
  case tryTest =>
    cases hs
    exact ⟨c, h.test (by rw [hpc]; rfl) hme (.inr rfl) rfl⟩
  case deepen =>
    cases hs
    refine ⟨c, h.goOn (others_goto _ rfl fun _ _ => rfl) rfl rfl rfl ?_ ?_⟩
    · rw [State.goto_pc, hpc]
      rfl
    · rw [State.goto_pc]
      exact ⟨hme.1, hme.2.1, hme.2.2, rfl⟩
  case deepenStore depth =>
    cases hs
    obtain ⟨hlt, hpos, hdepth, rfl⟩ := hme
    have howning : phase (s.pc me) (s.nesting me) = .owning := by
      rw [hpc]
      rfl
    obtain rfl := h.eq_some howning (fun h => by cases h)
    refine ⟨some me, h.owning (others_goto _ rfl (count_of_ne rfl)) rfl ((h.owner me).mpr howning)
      ?_ ?_⟩
    · rw [State.goto_pc, State.goto_nesting, State.count_nesting]
      exact phase_idle_pos (Nat.succ_pos _)
    · rw [State.goto_pc, State.goto_nesting, State.count_nesting]
      intro _
      show (s.m_depth + 1).toNat = s.nesting me + 1
      rw [BitVec.toNat_add, hdepth]
      exact Nat.mod_eq_of_lt hlt
  case exchange =>
    cases hs
    exact h.exchanged (by rw [hpc, show s.nesting me = 0 from hme]; rfl) hme (.inl rfl) rfl
  case tryExchange =>
    cases hs
    exact h.exchanged (by rw [hpc, show s.nesting me = 0 from hme]; rfl) hme (.inr rfl) rfl
  case spin =>
    cases hs
    have hzero : s.nesting me = 0 := hme
    refine ⟨c, h.goOn (others_goto _ rfl fun _ _ => rfl) rfl rfl rfl ?_ ?_⟩
    · rw [State.goto_pc, State.goto_nesting, hpc]
      split <;> rfl
    · rw [State.goto_pc]
      split <;> exact hzero
  case setOwner =>
    cases hs
    have hentering : phase (s.pc me) (s.nesting me) = .entering := by
      rw [hpc]
      rfl
    obtain rfl := h.eq_some hentering (fun h => by cases h)
    refine ⟨some me, h.owning (others_goto _ rfl fun _ _ => rfl) rfl rfl ?_ ?_⟩
    · rw [State.goto_pc]
      rfl
    · rw [State.goto_pc]
      exact hme
  case setDepth =>
    cases hs
    have hzero : s.nesting me = 0 := hme
    have howning : phase (s.pc me) (s.nesting me) = .owning := by
      rw [hpc]
      rfl
    obtain rfl := h.eq_some howning (fun h => by cases h)
    refine ⟨some me, h.owning (others_goto _ rfl (count_of_ne rfl)) rfl ((h.owner me).mpr howning)
      ?_ ?_⟩
    · rw [State.goto_pc, State.goto_nesting, State.count_nesting]
      exact phase_idle_pos (Nat.succ_pos _)
    · rw [State.goto_pc, State.goto_nesting, State.count_nesting, hzero]
      exact fun _ => rfl
  case lessen =>
    cases hs
    refine ⟨c, h.goOn (others_goto _ rfl fun _ _ => rfl) rfl rfl rfl ?_ ?_⟩
    · rw [State.goto_pc, hpc]
      rfl
    · rw [State.goto_pc]
      exact ⟨hme, rfl⟩
  case lessenStore depth =>
    cases hs
    obtain ⟨hdepth, rfl⟩ := hme
    have howning : phase (s.pc me) (s.nesting me) = .owning := by
      rw [hpc]
      rfl
    have hless : (s.m_depth - 1).toNat = s.nesting me := by
      have hlt := s.m_depth.isLt
      rw [BitVec.toNat_sub]
      show (2 ^ 32 - 1 + s.m_depth.toNat) % 2 ^ 32 = _
      omega
    have hlast : s.m_depth - 1 = 0 ↔ s.nesting me = 0 := by
      rw [← hless]
      exact BitVec.toNat_inj.symm
    obtain rfl := h.eq_some howning (fun h => by cases h)
    refine ⟨some me, h.owning (others_goto _ rfl fun _ _ => rfl) rfl ((h.owner me).mpr howning)
      ?_ ?_⟩
    · rw [State.goto_pc, State.goto_nesting]
      split
      · rfl
      · rename_i hmore
        exact phase_idle_pos (Nat.pos_of_ne_zero fun hzero => hmore (hlast.mpr hzero))
    · rw [State.goto_pc, State.goto_nesting]
      split
      · rename_i hzero
        exact hlast.mp hzero
      · exact fun _ => hless
  case clearOwner =>
    cases hs
    have howning : phase (s.pc me) (s.nesting me) = .owning := by
      rw [hpc]
      rfl
    obtain rfl := h.eq_some howning (fun h => by cases h)
    have hne : ∀ t, t ≠ me → some me ≠ some t := fun t ht hc => ht (Option.some.inj hc).symm
    refine ⟨some me, h.change (others_goto _ rfl fun _ _ => rfl) hne hne h.flag ?_ ?_
      (fun t _ hown => t.property hown.symm) ?_⟩
    · rw [State.goto_pc]
      exact iff_of_true (fun h => by cases h) rfl
    · refine iff_of_false (fun hown => me.property hown.symm) fun hholds => ?_
      rw [State.Holds, State.goto_pc] at hholds
      cases hholds
    · rw [State.goto_pc]
      exact hme
  case clearFlag =>
    cases hs
    have hzero : s.nesting me = 0 := hme
    have hleaving : phase (s.pc me) (s.nesting me) = .leaving := by
      rw [hpc]
      rfl
    obtain rfl := h.eq_some hleaving (fun h => by cases h)
    have hout : phase .idle (s.nesting me) = .outside := by
      rw [hzero]
      rfl
    have hnobody : ∀ t : ThreadId, s.m_owner ≠ t.val := fun t hown => by
      have hholds := (h.owner t).mp hown
      obtain rfl := Option.some.inj (h.eq_some hholds (fun h => by cases h))
      cases hleaving.symm.trans hholds
    refine ⟨none, h.change (others_goto _ rfl fun _ _ => rfl)
      (fun t ht hc => ht (Option.some.inj hc).symm) (fun t _ hc => by cases hc) rfl ?_ ?_
      (fun t _ => hnobody t) ?_⟩
    · rw [State.goto_pc, State.goto_nesting]
      exact iff_of_false (not_not.mpr hout) (fun h => by cases h)
    · refine iff_of_false (hnobody me) fun hholds => ?_
      rw [State.Holds, State.goto_pc, State.goto_nesting] at hholds
      cases hout.symm.trans hholds
    · rw [State.goto_pc, State.goto_nesting]
      exact fun (hpos : 0 < s.nesting me) => absurd hpos (hzero ▸ Nat.lt_irrefl 0)

theorem Inv.step (h : Inv s c) {a : ThreadId × Act} (ha : Nests s a) (hs : step s a = some s') :
    ∃ c', Inv s' c' := by
  obtain ⟨me, act⟩ := a
  have hme := h.depth me
  cases act with
  | lock =>
      obtain ⟨hidle, hs⟩ := Option.ite_none_right_eq_some.mp hs
      cases hs
      rw [hidle] at hme
      refine ⟨c, h.goOn (others_goto _ rfl fun _ _ => rfl) rfl rfl rfl ?_ ?_⟩
      · rw [State.goto_pc, hidle]
        rfl
      · rw [State.goto_pc]
        exact ⟨ha, hme⟩
  | try_lock =>
      obtain ⟨hidle, hs⟩ := Option.ite_none_right_eq_some.mp hs
      cases hs
      rw [hidle] at hme
      refine ⟨c, h.goOn (others_goto _ rfl fun _ _ => rfl) rfl rfl rfl ?_ ?_⟩
      · rw [State.goto_pc, hidle]
        rfl
      · rw [State.goto_pc]
        exact ⟨ha, hme⟩
  | unlock =>
      obtain ⟨⟨hidle, hpos⟩, hs⟩ := Option.ite_none_right_eq_some.mp hs
      cases hs
      rw [hidle] at hme
      refine ⟨c, h.goOn (others_goto _ rfl (count_of_ne rfl)) rfl rfl rfl ?_ ?_⟩
      · rw [State.goto_pc, hidle]
        exact (if_pos hpos).symm
      · rw [State.goto_pc, State.goto_nesting, State.count_nesting]
        show s.m_depth.toNat = s.nesting me - 1 + 1
        rw [hme hpos]
        omega
  | tick => exact h.tick hs

theorem inv_run {as : List (ThreadId × Act)} (hC : Along step Nests start as)
    (hr : run step start as = some s) : ∃ c, Inv s c :=
  run_inv_along (I := fun s => ∃ c, Inv s c) (fun _ _ _ ⟨_, hi⟩ hC hs => hi.step hC hs)
    ⟨none, inv_start⟩ hC hr

/-! ### What the threads see -/

/-- Every step that the holder takes in a call brings the call closer to its end. -/
theorem Inv.tick_left (h : Inv s c) (hholds : s.Holds me) (hpc : s.pc me ≠ .idle) :
    ∃ s', SrwRecursiveLock.step s (me, .tick) = some s' ∧ (s'.pc me).left < (s.pc me).left := by
  have hown : s.m_owner = me.val := (h.owner me).mpr hholds
  have hme := h.depth me
  have hout : s.nesting me = 0 → ∀ {pc}, phase pc 0 = .outside → s.pc me ≠ pc := by
    intro hzero pc hout hpc'
    rw [State.Holds, hzero, hpc', hout] at hholds
    cases hholds
  show ∃ s', s.tick me (s.pc me) = some s' ∧ _
  cases hpc' : s.pc me <;> rw [hpc'] at hme
  case idle => exact absurd hpc' hpc
  case exchange => exact absurd hpc' (hout hme rfl)
  case spin => exact absurd hpc' (hout hme rfl)
  case tryExchange => exact absurd hpc' (hout hme rfl)
  case setOwner =>
    rw [State.Holds, hpc'] at hholds
    cases hholds
  case clearFlag =>
    rw [State.Holds, hpc'] at hholds
    cases hholds
  case lockTest =>
    refine ⟨_, rfl, ?_⟩
    rw [State.goto_pc, if_pos hown]
    exact Nat.lt_succ_self _
  case tryTest =>
    refine ⟨_, rfl, ?_⟩
    rw [State.goto_pc, if_pos hown]
    exact Nat.lt_succ_self _
  case lessenStore depth =>
    refine ⟨_, rfl, ?_⟩
    rw [State.goto_pc]
    split
    · exact Nat.lt_succ_self 2
    · exact Nat.succ_pos 2
  all_goals
    refine ⟨_, rfl, ?_⟩
    rw [State.goto_pc]
    exact Nat.lt_succ_self _

/-- The lock as it is between the calls. -/
def State.lock (s : State) : RecursiveLock.Lock ThreadId where
  owner := if h : s.m_owner = 0 then none else some ⟨s.m_owner, h⟩
  depth := s.m_depth.toNat

theorem State.lock_owner (s : State) (t : ThreadId) :
    s.lock.owner = some t ↔ s.m_owner = t.val := by
  unfold State.lock
  dsimp only
  split
  · rename_i hzero
    refine iff_of_false (fun h => by cases h) fun hown => ?_
    exact t.property (hown.symm.trans hzero)
  · rw [Option.some_inj, Subtype.ext_iff]

theorem holds_of_idle (hidle : s.pc t = .idle) : s.Holds t ↔ 0 < s.nesting t := by
  rw [State.Holds, hidle]
  constructor
  · intro h
    by_contra hzero
    rw [Nat.eq_zero_of_not_pos hzero] at h
    cases h
  · exact phase_idle_pos

/-- Between the calls the lock and the counts are those of a recursive lock. -/
theorem held_of_idle (h : Inv s c) (hidle : ∀ t, s.pc t = .idle) :
    RecursiveLock.Held s.lock s.nesting where
  owner t := by
    rw [← holds_of_idle (hidle t), State.lock_owner]
    exact (h.owner t).symm
  depth t howner := by
    have hpos : 0 < s.nesting t :=
      (holds_of_idle (hidle t)).mp ((h.owner t).mp ((s.lock_owner t).mp howner))
    have hdepth := h.depth t
    rw [hidle t] at hdepth
    exact (hdepth hpos).symm

/-- **Mutual exclusion, owner and depth**, as long as no thread takes a lock that it has
`2 ^ 32 - 1` times: at most one thread holds the lock, `m_owner` is the id of the thread that does,
between its calls the thread holds it as often as `m_depth` says, and no call of the holder waits
for another thread. -/
theorem lock_exclusive (as : List (ThreadId × Act)) (s : State)
    (hr : run step start as = some s) (hC : Along step Nests start as) :
    (∀ t u, s.Holds t → s.Holds u → t = u) ∧
    (∀ t, s.m_owner = t.val ↔ s.Holds t) ∧
    (∀ t, s.pc t = .idle → (s.Holds t ↔ 0 < s.nesting t) ∧
      (0 < s.nesting t → s.m_depth.toNat = s.nesting t)) ∧
    (∀ t, s.Holds t → s.pc t ≠ .idle →
      ∃ s', step s (t, .tick) = some s' ∧ (s'.pc t).left < (s.pc t).left) := by
  obtain ⟨c, hinv⟩ := inv_run hC hr
  have hone : ∀ t, s.Holds t → c = some t := fun t ht => hinv.eq_some ht (fun h => by cases h)
  refine ⟨fun t u ht hu => ?_, hinv.owner, fun t hidle => ⟨holds_of_idle hidle, ?_⟩,
    fun t ht hpc => hinv.tick_left ht hpc⟩
  · exact Option.some.inj ((hone t ht).symm.trans (hone u hu))
  · have hdepth := hinv.depth t
    rw [hidle] at hdepth
    exact hdepth

def threadA : ThreadId := ⟨1, by decide⟩

def threadB : ThreadId := ⟨2, by decide⟩

/-- Two threads want the lock, and one of them gets it twice. -/
def contended : List (ThreadId × Act) :=
  [(threadA, .lock), (threadB, .lock), (threadA, .tick), (threadB, .tick), (threadA, .tick),
    (threadB, .tick), (threadA, .tick), (threadA, .tick), (threadA, .lock), (threadA, .tick),
    (threadA, .tick), (threadA, .tick)]

theorem lock_exclusive_contended :
    ∃ s, run step start contended = some s ∧
      (∀ t u, s.Holds t → s.Holds u → t = u) ∧
      (∀ t, s.m_owner = t.val ↔ s.Holds t) ∧
      (∀ t, s.pc t = .idle → (s.Holds t ↔ 0 < s.nesting t) ∧
        (0 < s.nesting t → s.m_depth.toNat = s.nesting t)) ∧
      (∀ t, s.Holds t → s.pc t ≠ .idle →
        ∃ s', step s (t, .tick) = some s' ∧ (s'.pc t).left < (s.pc t).left) :=
  ⟨_, rfl, lock_exclusive contended _ rfl (by decide)⟩

/-! ### A lock that is taken too often -/

/-- Thread `me` has the lock `n` times. -/
def taken (me : ThreadId) (n : Nat) : State :=
  ⟨true, me.val, .ofNat 32 n, fun _ => .idle, Function.update (fun _ => 0) me n⟩

theorem run_lock (me : ThreadId) :
    run step start [(me, .lock), (me, .tick), (me, .tick), (me, .tick), (me, .tick)] =
      some (taken me 1) := by
  have hne : ¬ 0#32 = me.val := fun h => me.property h.symm
  simp [run, step, State.tick, State.goto, State.count, start, taken, hne]

theorem run_lock_again (me : ThreadId) (n : Nat) :
    run step (taken me n) [(me, .lock), (me, .tick), (me, .tick), (me, .tick)] =
      some (taken me (n + 1)) := by
  have hdepth : BitVec.ofNat 32 n + 1#32 = .ofNat 32 (n + 1) := (BitVec.ofNat_add n 1).symm
  simp [run, step, State.tick, State.goto, State.count, taken, hdepth]

/-- A thread can have the lock any number of times. -/
theorem run_taken (me : ThreadId) (n : Nat) :
    ∃ as, run step start as = some (taken me (n + 1)) := by
  induction n with
  | zero => exact ⟨_, run_lock me⟩
  | succ n ih =>
      obtain ⟨as, hr⟩ := ih
      exact ⟨_, run_append.mpr ⟨_, hr, run_lock_again me (n + 1)⟩⟩

/-- A thread that has the lock as often as makes the depth 1 again loses it with one `unlock`. -/
theorem run_unlock (me other : ThreadId) (hne : other ≠ me) {n : Nat} (hn : 0 < n)
    (hdepth : BitVec.ofNat 32 n = 1#32) :
    run step (taken me n) [(me, .unlock), (me, .tick), (me, .tick), (me, .tick), (me, .tick),
        (other, .lock), (other, .tick), (other, .tick), (other, .tick), (other, .tick)] =
      some ⟨true, other.val, 1, fun _ => .idle,
        Function.update (Function.update (fun _ => 0) me (n - 1)) other 1⟩ := by
  have hzero : ¬ 0#32 = other.val := fun h => other.property h.symm
  simp [run, step, State.tick, State.goto, State.count, taken, hdepth, hn, hne, hzero]

/-- The depth of a lock that is taken `2 ^ 32 + 1` times is 1: the first `unlock` frees it, and then
two threads hold it. -/
theorem taken_too_often :
    ∃ as s, run step start as = some s ∧ (∀ t, s.pc t = .idle) ∧ s.nesting threadA = 2 ^ 32 ∧
      s.nesting threadB = 1 ∧ s.Holds threadA ∧ s.Holds threadB := by
  obtain ⟨as, hr⟩ := run_taken threadA (2 ^ 32)
  have hne : threadB ≠ threadA := by decide
  have hunlock := run_unlock threadA threadB hne (Nat.succ_pos (2 ^ 32)) rfl
  have hnestingA : Function.update (Function.update (fun _ => 0) threadA (2 ^ 32 + 1 - 1))
      threadB 1 threadA = 2 ^ 32 := by
    rw [Function.update_of_ne hne.symm, Function.update_self]
    rfl
  have hnestingB : Function.update (Function.update (fun _ => 0) threadA (2 ^ 32 + 1 - 1))
      threadB 1 threadB = 1 := Function.update_self ..
  refine ⟨_, _, run_append.mpr ⟨_, hr, hunlock⟩, fun _ => rfl, hnestingA, hnestingB, ?_, ?_⟩
  · rw [holds_of_idle rfl]
    exact hnestingA ▸ Nat.succ_pos _
  · rw [holds_of_idle rfl]
    exact hnestingB ▸ Nat.one_pos

end RemixBridge.SrwRecursiveLock
