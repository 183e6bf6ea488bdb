import RemixBridge.Channel.AtomicCircularQueue
import RemixBridge.Support.Runs

/-!
# Device — PresentThrottle

The semaphore that the client's `Present` waits on after it has sent its command, and that the
server releases for each `Present` it has processed (`d3d9_swapchain.cpp`, `d3d9_device.cpp`'s
`syncOnPresent`, `util_semaphore.cpp`).  The client creates it with the count 0 before it starts the
server, which opens the one there is.

`missed` and `gaveUp` only count what has happened: the releases that were not made, or not taken at
the full count, and the calls that returned without a release.

* `Balanced`: what is sent and what is processed, by the semaphore's account.
* `throttled_iff`: when a call's result keeps to the throttle.
-/

namespace RemixBridge.PresentThrottle
open Runs

/-- `presentSemaphoreMaxFrames` and `presentSemaphoreEnabled`. -/
structure Options where
  presentSemaphoreMaxFrames : Nat
  presentSemaphoreEnabled : Bool

inductive HResult
  | D3D_OK
  | ERROR_SEM_TIMEOUT
deriving DecidableEq

/-- Where the client is in `Present`. -/
inductive Control
  | idle
  /-- At the top of the loop, before `gbBridgeRunning` is read. -/
  | looping (numRetries maxRetries : Nat)
  /-- In `gpPresent->wait()`. -/
  | waiting (numRetries maxRetries : Nat)
  /-- Behind the loop. -/
  | left (numRetries maxRetries : Nat) (acquired : Bool)
  /-- Behind a `syncOnPresent` that does nothing. -/
  | unsynced
deriving DecidableEq

structure State where
  gbBridgeRunning : Bool
  control : Control
  count : Nat
  /-- The server has presented and not released yet. -/
  releasing : Bool
  sent : Nat
  processed : Nat
  missed : Nat
  gaveUp : Nat
deriving DecidableEq

/-- What either process does next, or the bridge being turned off. -/
inductive Action
  | present (maxRetries : Nat)
  | check
  | wait (result : Result)
  | ret
  | serve
  | release
  | disable
deriving DecidableEq

/-- The calls under way that have no release yet. -/
def Control.pending : Control → Nat
  | .idle => 0
  | .left _ _ true => 0
  | _ => 1

/-- What `WaitForSingleObject` can answer at a count. -/
def Answers (count : Nat) : Result → Bool
  | .Success => 0 < count
  | .Timeout => count = 0
  | .Failure => true

variable (o : Options) (s : State)

/-- `RESULT_FAILURE(gpPresent->wait()) && numRetries++ < maxRetries`, with the next control. -/
def State.waited (numRetries maxRetries : Nat) : Result → State
  | .Success => { s with count := s.count - 1, control := .left numRetries maxRetries true }
  | _ =>
      if numRetries < maxRetries then
        { s with control := .looping ((numRetries + 1) % 2 ^ 32) maxRetries }
      else { s with control := .left ((numRetries + 1) % 2 ^ 32) maxRetries false }

/-- `gpPresent->release()`, where it is called and where not. -/
def State.release : State :=
  if o.presentSemaphoreEnabled ∧ s.count < o.presentSemaphoreMaxFrames then
    { s with releasing := false, count := s.count + 1 }
  else { s with releasing := false, missed := s.missed + 1 }

/-- One step of either process. -/
def step : Action → Option State
  | .present maxRetries =>
      match s.control with
      | .idle =>
          if s.gbBridgeRunning then
            some { s with
              sent := s.sent + 1
              control := if o.presentSemaphoreEnabled then .looping 0 maxRetries else .unsynced }
          else some s
      | _ => none
  | .check =>
      match s.control with
      | .looping numRetries maxRetries =>
          if s.gbBridgeRunning then some { s with control := .waiting numRetries maxRetries }
          else some { s with control := .left numRetries maxRetries false }
      | _ => none
  | .wait result =>
      match s.control with
      | .waiting numRetries maxRetries =>
          if Answers s.count result then some (s.waited numRetries maxRetries result) else none
      | _ => none
  | .ret =>
      match s.control with
      | .left _ _ _ => some { s with control := .idle, gaveUp := s.gaveUp + s.control.pending }
      | .unsynced => some { s with control := .idle, gaveUp := s.gaveUp + s.control.pending }
      | _ => none
  | .serve =>
      if s.processed < s.sent ∧ s.releasing = false then
        some { s with processed := s.processed + 1, releasing := true }
      else none
  | .release => if s.releasing then some (s.release o) else none
  | .disable => some { s with gbBridgeRunning := false }

/-- What a `Present` that ends with the action returns: after `ERROR_OPERATION_ABORTED` of
`syncOnPresent`, too, it is `D3D_OK`. -/
def returned : Action → Option HResult
  | .present _ => if s.gbBridgeRunning then none else some .D3D_OK
  | .ret =>
      match s.control with
      | .left numRetries maxRetries _ =>
          some (if maxRetries ≤ numRetries then .ERROR_SEM_TIMEOUT else .D3D_OK)
      | .unsynced => some .D3D_OK
      | _ => none
  | _ => none

/-- Before the first `Present`. -/
def start : State where
  gbBridgeRunning := true
  control := .idle
  count := 0
  releasing := false
  sent := 0
  processed := 0
  missed := 0
  gaveUp := 0

/-! ### The throttle -/

/-- A `Present` that returns success has at most `presentSemaphoreMaxFrames` before the server, and
one that returns a timeout has not acquired the semaphore. -/
def Throttled (a : Action) : Prop :=
  (returned s a = some .D3D_OK → s.gbBridgeRunning →
      s.sent ≤ s.processed + o.presentSemaphoreMaxFrames) ∧
    (returned s a = some .ERROR_SEM_TIMEOUT → s.control.pending = 1)

/-- What the throttle takes.  Of a call that returns success: the calls that have gone without a
release are no more than the frames allowed, the releases that are still to come or to be taken,
and those that were missed.  Of one out of retries: it has not waited with success. -/
def InTime (a : Action) : Prop :=
  a = .ret →
    match s.control with
    | .left numRetries maxRetries acquired =>
        if maxRetries ≤ numRetries then acquired = false
        else s.gbBridgeRunning →
          s.gaveUp + s.control.pending ≤
            o.presentSemaphoreMaxFrames + s.count + s.releasing.toNat + s.missed
    | .unsynced =>
        s.gbBridgeRunning →
          s.gaveUp + 1 ≤ o.presentSemaphoreMaxFrames + s.count + s.releasing.toNat + s.missed
    | _ => True

/-- The account: every `Present` sent is processed or has no release, and every one processed has
been released to a call, is still to be, or its release was missed. -/
def Balanced : Prop :=
  s.sent + s.count + s.releasing.toNat + s.missed = s.processed + s.gaveUp + s.control.pending

section balance

variable {o : Options} {s s' : State}

theorem Balanced.waited (h : Balanced s) {numRetries maxRetries : Nat} {result : Result}
    (hwaiting : s.control = .waiting numRetries maxRetries) (hanswer : Answers s.count result) :
    Balanced (s.waited numRetries maxRetries result) := by
  have hbal := h
  simp only [Balanced, hwaiting, Control.pending] at hbal
  cases result with
  | Success =>
      have hpos : 0 < s.count := by simpa [Answers] using hanswer
      simp only [Balanced, State.waited, Control.pending]
      omega
  | Timeout =>
      simp only [State.waited]
      split <;> exact hbal
  | Failure =>
      simp only [State.waited]
      split <;> exact hbal

theorem Balanced.release (h : Balanced s) (hreleasing : s.releasing = true) :
    Balanced (s.release o) := by
  have hbal := h
  simp only [Balanced, hreleasing, Bool.toNat_true] at hbal
  unfold State.release
  split
  · simp only [Balanced, Bool.toNat_false]
    omega
  · simp only [Balanced, Bool.toNat_false]
    omega

/-- **Every step.** -/
theorem balanced_step {a : Action} (h : Balanced s) (hs : step o s a = some s') :
    Balanced s' := by
  have hbal := h
  simp only [Balanced] at hbal
  cases a with
  | present maxRetries =>
      simp only [step] at hs
      split at hs
      · next hidle =>
          rw [hidle] at hbal
          split at hs
          · cases hs
            simp only [Balanced]
            split
            · simp only [Control.pending] at hbal ⊢
              omega
            · simp only [Control.pending] at hbal ⊢
              omega
          · cases hs
            exact h
      · cases hs
  | check =>
      simp only [step] at hs
      split at hs
      · next hlooping =>
          rw [hlooping] at hbal
          split at hs
          · cases hs
            exact hbal
          · cases hs
            exact hbal
      · cases hs
  | wait result =>
      simp only [step] at hs
      split at hs
      · next hwaiting =>
          split at hs
          · next hanswer =>
              cases hs
              exact h.waited hwaiting hanswer
          · cases hs
      · cases hs
  | ret =>
      simp only [step] at hs
      split at hs
      · cases hs
        simp only [Balanced, Control.pending.eq_1]
        omega
      · cases hs
        simp only [Balanced, Control.pending.eq_1]
        omega
      · cases hs
  | serve =>
      simp only [step] at hs
      split at hs
      · next hready =>
          cases hs
          rw [hready.2] at hbal
          simp only [Balanced, Bool.toNat_true, Bool.toNat_false] at hbal ⊢
          omega
      · cases hs
  | release =>
      simp only [step] at hs
      split at hs
      · next hreleasing =>
          cases hs
          exact h.release hreleasing
      · cases hs
  | disable =>
      simp only [step] at hs
      cases hs
      exact hbal

/-- With the accounts balanced the throttle is a matter of the releases. -/
theorem Balanced.in_time (h : Balanced s) (a : Action) :
    Throttled o s a ↔ InTime o s a := by
  have hbal := h
  simp only [Balanced] at hbal
  have hnothing (hnone : ∀ hr, returned s a = some hr → hr = .D3D_OK ∧ s.gbBridgeRunning = false)
      (hret : a ≠ .ret) : Throttled o s a ↔ InTime o s a := by
    refine ⟨fun _ heq => absurd heq hret, fun _ => ⟨fun hok hrun => ?_, fun hout => ?_⟩⟩
    · rw [(hnone _ hok).2] at hrun
      cases hrun
    · cases (hnone _ hout).1
  cases a with
  | present maxRetries =>
      refine hnothing (fun hr hres => ?_) nofun
      rw [returned] at hres
      split at hres
      · cases hres
      · next hrun =>
          cases hres
          exact ⟨rfl, Bool.eq_false_iff.mpr hrun⟩
  | ret =>
      cases hcontrol : s.control with
      | left numRetries maxRetries acquired =>
          rw [hcontrol] at hbal
          by_cases hout : maxRetries ≤ numRetries
          · cases acquired <;> simp [Throttled, InTime, returned, hcontrol, hout, Control.pending]
          · simp only [Throttled, InTime, returned, hcontrol, hout, if_false, forall_const]
            constructor
            · rintro ⟨hin, -⟩ hrun
              have hsent := hin hrun
              omega
            · intro hin
              refine ⟨fun hrun => ?_, nofun⟩
              have hgave := hin hrun
              omega
      | unsynced =>
          rw [hcontrol, Control.pending] at hbal
          · simp only [Throttled, InTime, returned, hcontrol, forall_const]
            constructor
            · rintro ⟨hin, -⟩ hrun
              have hsent := hin hrun
              omega
            · intro hin
              refine ⟨fun hrun => ?_, nofun⟩
              have hgave := hin hrun
              omega
          all_goals nofun
      | idle => simp [Throttled, InTime, returned, hcontrol]
      | looping => simp [Throttled, InTime, returned, hcontrol]
      | waiting => simp [Throttled, InTime, returned, hcontrol]
  | check => exact hnothing nofun nofun
  | wait result => exact hnothing nofun nofun
  | serve => exact hnothing nofun nofun
  | release => exact hnothing nofun nofun
  | disable => exact hnothing nofun nofun

end balance

/-- **The throttle.**  In every run, every `Present` keeps to the throttle exactly when each that
returns does so in time. -/
theorem throttled_iff {o : Options} {as : List Action} :
    Along (step o) (Throttled o) start as ↔ Along (step o) (InTime o) start as :=
  along_iff (I := Balanced) (fun _ a h => h.in_time a)
    (fun _ _ _ h _ hs => balanced_step h hs) (show Balanced start from rfl) as

/-- Two calls out of retries, and a third that is let through by the release for the first. -/
def lateReleases : List Action :=
  [.present 1, .check, .wait .Timeout, .check, .wait .Timeout, .ret,
    .present 1, .check, .wait .Timeout, .check, .wait .Timeout, .ret,
    .present 1, .check, .serve, .release, .wait .Success]

/-- A call whose last try succeeds. -/
def lastTry : List Action :=
  [.present 1, .check, .wait .Timeout, .check, .serve, .release, .wait .Success]

/-- With one frame allowed: success with two `Present`s before the server, and a timeout with the
semaphore acquired. -/
theorem throttle_exceeded :
    ¬ Along (step ⟨1, true⟩) (Throttled ⟨1, true⟩) start (lateReleases ++ [.ret]) ∧
      ¬ Along (step ⟨1, true⟩) (Throttled ⟨1, true⟩) start (lastTry ++ [.ret]) := by
  constructor
  · intro hall
    have hlast := ((along_append.mp hall).2 _ rfl).1
    exact absurd (hlast.1 rfl rfl) (by decide)
  · intro hall
    have hlast := ((along_append.mp hall).2 _ rfl).1
    exact absurd (hlast.2 rfl) (by decide)

end RemixBridge.PresentThrottle
