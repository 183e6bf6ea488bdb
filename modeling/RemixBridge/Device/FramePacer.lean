import Mathlib.Algebra.Order.Group.Int
import Mathlib.Data.List.Chain

/-!
# Device — FramePacer

The client's frame cap (`d3d9_swapchain.cpp`).  A frame that comes before its deadline is held until
a reading of the clock has reached it; the deadline of the next frame is a period behind the
deadline, or, for a frame that comes late, a period behind its own time.

The sleep before the last readings shows in them only.

* `wait_kept`: what a call makes of the deadline that it finds.
* `pacing`: returns are a period apart where no wait ends behind its deadline; behind one that
  does, the next frame may be short.
-/

namespace RemixBridge.FramePacer

/-- What the pacer is set up with: the frequency of the clock, and a frame cap that is not off. -/
structure Config where
  freq : Int
  freq_pos : 0 < freq
  fps : Nat
  fps_pos : 0 < fps

def Config.period (cfg : Config) : Int := cfg.freq / cfg.fps

theorem Config.period_nonneg (cfg : Config) : 0 ≤ cfg.period :=
  Int.ediv_nonneg cfg.freq_pos.le (Int.natCast_nonneg cfg.fps)

structure Pacer where
  m_init : Bool := false
  m_period : Int := 0
  m_next : Int := 0
  deriving DecidableEq

/-- What a call of `wait` has gone by: its deadline, the clock at its start, the clock when it
returned, and the deadline that it left. -/
structure Frame where
  deadline : Int
  arrival : Int
  returned : Int
  next : Int
  deriving DecidableEq

variable (cfg : Config)

/-- `init`, if it is the first call. -/
def Pacer.init (p : Pacer) (clock : List Int) : Option (Pacer × List Int) :=
  if p.m_init then some (p, clock)
  else
    match clock with
    | [] => none
    | now :: clock =>
        some ({ m_init := true, m_period := cfg.period, m_next := now + cfg.period }, clock)

/-- The loop that ends a wait: the first reading that has reached the target. -/
def spin (target : Int) : List Int → Option (Int × List Int)
  | [] => none
  | now :: clock => if now ≥ target then some (now, clock) else spin target clock

/-- `wait`, with the readings of the clock from its start on; `none` if it has not returned by the
last of them. -/
def Pacer.wait (p : Pacer) (clock : List Int) : Option (Frame × Pacer × List Int) := do
  let (p, clock) ← p.init cfg clock
  match clock with
  | [] => none
  | now :: clock =>
      let target := p.m_next
      if now ≥ target then
        return (⟨target, now, now, now + p.m_period⟩,
          { p with m_next := now + p.m_period }, clock)
      else
        let (returned, clock) ← spin target clock
        return (⟨target, now, returned, target + p.m_period⟩,
          { p with m_next := target + p.m_period }, clock)

/-- The frames of `n` calls, one after the other. -/
def frames : Nat → Pacer → List Int → Option (List Frame × Pacer × List Int)
  | 0, p, clock => some ([], p, clock)
  | n + 1, p, clock => do
      let (f, p, clock) ← p.wait cfg clock
      let (fs, p, clock) ← frames n p clock
      return (f :: fs, p, clock)

/-- A frame that waits returns at its deadline, and not behind it. -/
def Frame.OnTime (f : Frame) : Prop := f.arrival < f.deadline → f.returned = f.deadline

instance (f : Frame) : Decidable f.OnTime := inferInstanceAs (Decidable (_ → _))

/-- A frame that comes late returns at once, and the next one is due a period later. -/
def Frame.Restarts (f : Frame) : Prop :=
  f.deadline ≤ f.arrival → f.returned = f.arrival ∧ f.next = f.arrival + cfg.period

/-- Two returns at least a period apart. -/
def Frame.Spaced (f g : Frame) : Prop := f.returned + cfg.period ≤ g.returned

/-! ### One call -/

variable {cfg : Config} {p p' : Pacer} {clock rest : List Int} {f g : Frame}

theorem le_of_spin {target returned : Int} (h : spin target clock = some (returned, rest)) :
    target ≤ returned ∧ returned ∈ clock := by
  induction clock with
  | nil => cases h
  | cons now clock ih =>
      rw [spin] at h
      split at h
      · rename_i hnow
        cases h
        exact ⟨hnow, List.mem_cons_self⟩
      · obtain ⟨hle, hmem⟩ := ih h
        exact ⟨hle, List.mem_cons_of_mem now hmem⟩

/-- What a call makes of the deadline that it finds. -/
structure Frame.Kept (cfg : Config) (clock : List Int) (f : Frame) (p' : Pacer) : Prop where
  le_returned : f.deadline ≤ f.returned
  returned_mem : f.returned ∈ clock
  late : f.deadline ≤ f.arrival → f.returned = f.arrival ∧ f.next = f.arrival + cfg.period
  waits : f.arrival < f.deadline → f.next = f.deadline + cfg.period
  pacer : p' = ⟨true, cfg.period, f.next⟩

/-- What `init` makes of a pacer, and how it leaves one that has been set up. -/
theorem init_eq {p₁ : Pacer} {clock₁ : List Int} (hp : p.m_init = true → p.m_period = cfg.period)
    (h : p.init cfg clock = some (p₁, clock₁)) :
    p₁ = ⟨true, cfg.period, p₁.m_next⟩ ∧ clock₁ ⊆ clock ∧ (p.m_init = true → p₁ = p) := by
  unfold Pacer.init at h
  split at h
  · rename_i hset
    cases h
    refine ⟨?_, List.Subset.refl _, fun _ => rfl⟩
    rw [← hp hset, ← hset]
  · rename_i hset
    cases clock with
    | nil => cases h
    | cons now clock =>
        cases h
        exact ⟨rfl, List.subset_cons_self now _, fun hset' => absurd hset' hset⟩

theorem wait_kept (hp : p.m_init = true → p.m_period = cfg.period)
    (h : p.wait cfg clock = some (f, p', rest)) :
    f.Kept cfg clock p' ∧ (p.m_init = true → f.deadline = p.m_next) := by
  unfold Pacer.wait at h
  obtain ⟨⟨p₁, clock₁⟩, hinit, h⟩ := Option.bind_eq_some_iff.mp h
  obtain ⟨hp₁, hsub, hkeep⟩ := init_eq hp hinit
  have hperiod : p₁.m_period = cfg.period := congrArg Pacer.m_period hp₁
  have hset : p₁.m_init = true := congrArg Pacer.m_init hp₁
  cases clock₁ with
  | nil => cases h
  | cons now clock₁ =>
      dsimp only at h
      split at h
      · rename_i hnow
        cases h
        refine ⟨⟨hnow, hsub List.mem_cons_self, fun _ => ⟨rfl, by rw [hperiod]⟩,
          fun hlt => absurd hnow (Int.not_le.mpr hlt), by rw [hperiod, hset]⟩, fun hp => ?_⟩
        rw [hkeep hp]
      · rename_i hnow
        obtain ⟨⟨returned, clock₂⟩, hspin, h⟩ := Option.bind_eq_some_iff.mp h
        obtain ⟨hle, hmem⟩ := le_of_spin hspin
        cases h
        refine ⟨⟨hle, hsub (List.mem_cons_of_mem now hmem), fun hle => absurd hle hnow,
          fun _ => by rw [hperiod], by rw [hperiod, hset]⟩, fun hp => ?_⟩
        rw [hkeep hp]

/-- The deadline that a frame leaves is a period behind its return, if the frame was on time. -/
theorem Frame.Kept.onTime_iff (h : f.Kept cfg clock p') :
    f.returned + cfg.period ≤ f.next ↔ f.OnTime := by
  have hle := h.le_returned
  unfold Frame.OnTime
  rcases Int.lt_or_le f.arrival f.deadline with hlt | hlate
  · have hnext := h.waits hlt
    omega
  · obtain ⟨hreturned, hnext⟩ := h.late hlate
    omega

/-! ### Frames in a row -/

theorem frames_succ {n : Nat} {fs : List Frame} :
    frames cfg (n + 1) p clock = some (fs, p', rest) ↔ ∃ f p₁ clock₁ gs,
      p.wait cfg clock = some (f, p₁, clock₁) ∧ frames cfg n p₁ clock₁ = some (gs, p', rest) ∧
        fs = f :: gs := by
  constructor
  · intro h
    obtain ⟨⟨f, p₁, clock₁⟩, hwait, h⟩ := Option.bind_eq_some_iff.mp h
    obtain ⟨⟨gs, p₂, clock₂⟩, hframes, h⟩ := Option.bind_eq_some_iff.mp h
    cases h
    exact ⟨f, p₁, clock₁, gs, hwait, hframes, rfl⟩
  · rintro ⟨f, p₁, clock₁, gs, hwait, hframes, rfl⟩
    rw [frames, hwait]
    show (frames cfg n p₁ clock₁).bind _ = _
    rw [hframes]
    rfl

/-- What calls in a row keep: each leaves the pacer as the next one finds it. -/
structure Row (cfg : Config) (p : Pacer) (fs : List Frame) (p' : Pacer) : Prop where
  first : p.m_init = true → ∀ f ∈ fs.head?, f.deadline = p.m_next ∧ f.deadline ≤ f.returned
  restarts : ∀ f ∈ fs, f.Restarts cfg
  spaced : (∀ f ∈ fs, f.OnTime) → fs.IsChain (Frame.Spaced cfg)
  last : ∀ f ∈ fs.getLast?, (∃ clock, f.Kept cfg clock p')

theorem row_of_frames {n : Nat} {fs : List Frame}
    (hp : p.m_init = true → p.m_period = cfg.period)
    (h : frames cfg n p clock = some (fs, p', rest)) : Row cfg p fs p' := by
  induction n generalizing p clock fs with
  | zero =>
      cases h
      exact ⟨(fun _ _ hf => by cases hf), (fun _ hf => by cases hf), fun _ => .nil,
        (fun _ hf => by cases hf)⟩
  | succ n ih =>
      obtain ⟨f, p₁, clock₁, gs, hwait, hframes, rfl⟩ := frames_succ.mp h
      obtain ⟨hkept, hdeadline⟩ := wait_kept hp hwait
      have hpacer := hkept.pacer
      have hrow := ih (fun _ => congrArg Pacer.m_period hpacer) hframes
      have hset : p₁.m_init = true := congrArg Pacer.m_init hpacer
      have hnext : p₁.m_next = f.next := congrArg Pacer.m_next hpacer
      refine ⟨fun hinit g hg => ?_, fun g hg => ?_, fun hon => ?_, fun g hg => ?_⟩
      · cases hg
        exact ⟨hdeadline hinit, hkept.le_returned⟩
      · rcases List.mem_cons.mp hg with rfl | hg
        · exact hkept.late
        · exact hrow.restarts g hg
      · obtain ⟨hf, hgs⟩ := List.forall_mem_cons.mp hon
        refine List.isChain_cons.mpr ⟨fun g hg => ?_, hrow.spaced hgs⟩
        obtain ⟨hfrom, hle⟩ := hrow.first hset g hg
        have hleft := hkept.onTime_iff.mpr hf
        show f.returned + cfg.period ≤ g.returned
        omega
      · cases gs with
        | nil =>
            cases hg
            cases n with
            | zero =>
                cases hframes
                exact ⟨clock, hkept⟩
            | succ n =>
                obtain ⟨_, _, _, _, _, _, hnil⟩ := frames_succ.mp hframes
                cases hnil
        | cons g' gs =>
            rw [List.getLast?_cons_cons] at hg
            exact hrow.last g hg

/-- A frame on the next reading that the clock can give, after a frame that was not on time. -/
theorem short_frame (hkept : f.Kept cfg clock p') (hperiod : 0 < cfg.period) (hf : ¬ f.OnTime) :
    ∃ g p₁, p'.wait cfg [max f.returned f.next] = some (g, p₁, []) ∧ ¬ f.Spaced cfg g := by
  have hlt : f.next < f.returned + cfg.period := by
    rw [← hkept.onTime_iff] at hf
    omega
  have hlate : max f.returned f.next ≥ f.next := le_max_right _ _
  refine ⟨⟨f.next, max f.returned f.next, max f.returned f.next,
    max f.returned f.next + cfg.period⟩, ⟨true, cfg.period, max f.returned f.next + cfg.period⟩,
    ?_, ?_⟩
  · rw [hkept.pacer]
    exact if_pos hlate
  · show ¬ f.returned + cfg.period ≤ max f.returned f.next
    omega

/-- **A late frame restarts the cadence from its own time, and returns are a period apart** as long
as no wait ends behind its deadline.  Behind a wait that does, the next frame may return less than
a period later. -/
theorem pacing (cfg : Config) (n : Nat) (clock : List Int)
    (fs : List Frame) (p : Pacer) (rest : List Int)
    (h : frames cfg n {} clock = some (fs, p, rest)) :
    (∀ f ∈ fs, f.Restarts cfg) ∧
    ((∀ f ∈ fs, f.OnTime) → fs.IsChain (Frame.Spaced cfg)) ∧
    ∀ f ∈ fs.getLast?,
      (∀ later, (f.returned :: later).Pairwise (· ≤ ·) → ∀ g p' rest',
          p.wait cfg later = some (g, p', rest') → f.Spaced cfg g) ↔
        f.OnTime ∨ cfg.period = 0 := by
  have hrow := row_of_frames (fun hset => Bool.noConfusion hset) h
  refine ⟨hrow.restarts, hrow.spaced, fun f hf => ?_⟩
  obtain ⟨clock', hkept⟩ := hrow.last f hf
  constructor
  · intro hall
    by_contra hnot
    obtain ⟨hlate, hne⟩ := not_or.mp hnot
    have hperiod : 0 < cfg.period := lt_of_le_of_ne cfg.period_nonneg (Ne.symm hne)
    obtain ⟨g, p₁, hwait, hshort⟩ := short_frame hkept hperiod hlate
    have hsorted : [f.returned, max f.returned f.next].Pairwise (· ≤ ·) := by simp
    exact hshort (hall _ hsorted g p₁ [] hwait)
  · intro hon later hlater g p' rest' hwait
    have hset : p.m_init = true := congrArg Pacer.m_init hkept.pacer
    obtain ⟨hg, hdeadline⟩ := wait_kept (fun _ => congrArg Pacer.m_period hkept.pacer) hwait
    have hnext : g.deadline = f.next :=
      (hdeadline hset).trans (congrArg Pacer.m_next hkept.pacer)
    have hle := hg.le_returned
    show f.returned + cfg.period ≤ g.returned
    rcases hon with hon | hzero
    · have hleft := hkept.onTime_iff.mpr hon
      omega
    · have hsince := List.rel_of_pairwise_cons hlater hg.returned_mem
      omega

/-- A clock of 1000 a second and a cap of 10 frames a second. -/
def tenFrames : Config := ⟨1000, by decide, 10, by decide⟩

/-- A frame that waits for its deadline, and one that comes late. -/
theorem pacing_late :
    ∃ fs p rest, frames tenFrames 2 {} [0, 0, 99, 100, 250] = some (fs, p, rest) ∧
      (∀ f ∈ fs, f.Restarts tenFrames) ∧
      ((∀ f ∈ fs, f.OnTime) → fs.IsChain (Frame.Spaced tenFrames)) ∧
      ∀ f ∈ fs.getLast?,
        (∀ later, (f.returned :: later).Pairwise (· ≤ ·) → ∀ g p' rest',
            p.wait tenFrames later = some (g, p', rest') → f.Spaced tenFrames g) ↔
          f.OnTime ∨ tenFrames.period = 0 :=
  ⟨_, _, _, rfl, pacing tenFrames 2 [0, 0, 99, 100, 250] _ _ _ rfl⟩

/-- A wait for 100 that ends at 150, and the next for 200. -/
theorem overshoot_paid_back :
    ∃ f g p, frames tenFrames 2 {} [0, 0, 150, 150, 200] = some ([f, g], p, []) ∧
      [0, 0, 150, 150, 200].Pairwise (· ≤ ·) ∧ ¬ [f, g].IsChain (Frame.Spaced tenFrames) := by
  refine ⟨⟨100, 0, 150, 200⟩, ⟨200, 150, 200, 300⟩, ⟨true, 100, 300⟩, rfl, by decide, ?_⟩
  rw [List.isChain_pair]
  show ¬ (150 + 100 : Int) ≤ 200
  decide

end RemixBridge.FramePacer
