import RemixBridge.Channel.SyncSteps

/-!
# Channel — StallHandshake

The handshake of a stall: the client publishes a request and waits, the server sees it after a
command, releases the semaphore and clears the request.

* `Handshake`: where a request, an answer and a permit can be.
* `handshake_step`: a step keeps it, if the server that finds `serverResetPosRequired` clear has come
  to the command's start.
-/

namespace RemixBridge.SyncDataQueue
open Runs DataRing

/-- The client has published a request and not gone on. -/
def ClientPC.waits : ClientPC → Bool
  | .waiting _ _ => true
  | .exited      => true
  | _            => false

/-- The client has published a request and not taken it back. -/
def ClientPC.stalls : ClientPC → Bool
  | .waiting _ _  => true
  | .clearPos _ _ => true
  | .exited       => true
  | _             => false

/-- The server has seen a request and not yet answered it. -/
def ServerPC.answers : ServerPC → Bool
  | .comparing => true
  | .flagTest  => true
  | .releasing => true
  | _          => false

structure Handshake (s : State) : Prop where
  pulling : s.server ≠ .pulling → s.ring.pulling = []
  request : s.clientDataExpectedPos ≠ -1 →
    s.clientDataExpectedPos = s.ring.s_curBatchStartPos - 1 ∧ s.client.stalls = true
  answers : s.server.answers = true →
    s.clientDataExpectedPos ≠ -1 ∧ s.dataSemaphore = 0 ∧ s.client.waits = true
  below : s.server = .flagTest → s.clientDataExpectedPos < s.ring.serverDataPos
  releasing : s.server = .releasing → s.ring.sAbs ≤ s.ring.fAbs
  clearing : s.clientDataExpectedPos ≠ -1 → s.client.waits = false ∨ 0 < s.dataSemaphore →
    s.server = .clearing
  semaphore : 0 < s.dataSemaphore → s.client.waits = true ∧ s.ring.sAbs ≤ s.ring.fAbs
  le_one : s.dataSemaphore ≤ 1

/-- No request is out, and none was answered. -/
structure Quiet (s : State) : Prop where
  pulling : s.server ≠ .pulling → s.ring.pulling = []
  request : s.clientDataExpectedPos = -1
  answers : s.server.answers = false
  semaphore : s.dataSemaphore = 0

theorem Handshake.quiet {s : State} (h : Handshake s) (hs : s.client.stalls = false) : Quiet s := by
  have hwaits : s.client.waits = false := by
    cases hc : s.client <;> simp_all [ClientPC.stalls, ClientPC.waits]
  refine ⟨h.pulling, ?_, ?_, ?_⟩
  · by_contra he
    exact absurd (h.request he).2 (by simp [hs])
  · by_contra ha
    exact absurd (h.answers (Bool.eq_true_of_not_eq_false ha)).2.2 (by simp [hwaits])
  · by_contra hsem
    exact absurd (h.semaphore (Nat.pos_of_ne_zero hsem)).1 (by simp [hwaits])

theorem Quiet.handshake {s : State} (h : Quiet s) : Handshake s where
  pulling := h.pulling
  request he := absurd h.request he
  answers ha := absurd ha (by simp [h.answers])
  below hs := absurd (h.answers.symm.trans (congrArg ServerPC.answers hs)) nofun
  releasing hs := absurd (h.answers.symm.trans (congrArg ServerPC.answers hs)) nofun
  clearing he := absurd h.request he
  semaphore hsem := absurd h.semaphore hsem.ne'
  le_one := h.semaphore.le.trans (Nat.zero_le 1)

/-- The client publishes a request. -/
theorem Quiet.request_out {s : State} (h : Quiet s) {pc : ClientPC} (hw : pc.waits = true)
    (hst : pc.stalls = true) :
    Handshake
      { s with client := pc, clientDataExpectedPos := s.ring.s_curBatchStartPos - 1 } where
  pulling := h.pulling
  request _ := ⟨rfl, hst⟩
  answers ha := absurd ha (by simp [h.answers])
  below hs := absurd (h.answers.symm.trans (congrArg ServerPC.answers hs)) nofun
  releasing := h.handshake.releasing
  clearing _ hor := by
    rcases hor with hno | hsem
    · exact absurd hw (by simp [hno])
    · exact absurd h.semaphore hsem.ne'
  semaphore hsem := absurd h.semaphore hsem.ne'
  le_one := h.handshake.le_one

/-- A step of the server that neither answers nor clears a request. -/
theorem Handshake.server {s s' : State} (h : Handshake s) (hnot : s.server ≠ .clearing)
    (hc : s'.client = s.client) (he : s'.clientDataExpectedPos = s.clientDataExpectedPos)
    (hsem : s'.dataSemaphore = s.dataSemaphore)
    (hcur : s'.ring.s_curBatchStartPos = s.ring.s_curBatchStartPos)
    (hS : s'.ring.sAbs = s.ring.sAbs) (hF : s.ring.fAbs ≤ s'.ring.fAbs)
    (pulling : s'.server ≠ .pulling → s'.ring.pulling = [])
    (answers : s'.server.answers = true →
      s.clientDataExpectedPos ≠ -1 ∧ s.dataSemaphore = 0 ∧ s.client.waits = true)
    (below : s'.server = .flagTest → s.clientDataExpectedPos < s'.ring.serverDataPos)
    (releasing : s'.server = .releasing → s.ring.sAbs ≤ s'.ring.fAbs) : Handshake s' where
  pulling := pulling
  request := by rw [he, hc, hcur]; exact h.request
  answers := by rw [he, hc, hsem]; exact answers
  below := by rw [he]; exact below
  releasing := by rw [hS]; exact releasing
  clearing := by
    rw [he, hc, hsem]
    exact fun hne hor => absurd (h.clearing hne hor) hnot
  semaphore hpos := by
    rw [hsem] at hpos
    rw [hc, hS]
    exact ⟨(h.semaphore hpos).1, (h.semaphore hpos).2.trans hF⟩
  le_one := hsem.le.trans h.le_one

theorem handshake_start : Handshake start := Quiet.handshake ⟨fun _ => rfl, rfl, rfl, rfl⟩

/-- A step of the client with no request out before or after. -/
theorem Handshake.local {s s' : State} (h : Handshake s) (hs : s.client.stalls = false)
    (hserver : s'.server = s.server) (hpull : s'.ring.pulling = s.ring.pulling)
    (he : s'.clientDataExpectedPos = s.clientDataExpectedPos)
    (hsem : s'.dataSemaphore = s.dataSemaphore) : Handshake s' := by
  have hq : Quiet s := h.quiet hs
  refine Quiet.handshake ⟨?_, he.trans hq.request, ?_, hsem.trans hq.semaphore⟩
  · rw [hserver, hpull]
    exact hq.pulling
  · rw [hserver]
    exact hq.answers

theorem handshake_step {N : RingSize} {s s' : State} {a : Act} (h : Handshake s)
    (hfin : s.ring.fAbs ≤ s.ring.rAbs)
    (hrel : a = .server → s.server = .flagTest → s.serverResetPosRequired = false →
      s.ring.sAbs ≤ s.ring.fAbs)
    (hs : step N s a = some s') : Handshake s' := by
  cases move_of_step hs with
  | begin hc | send hc | done hc | age hc | refresh hc | doubleOverflow hc | rollover hc | onLap hc
  | setFlag hc | toReload hc | reload hc | toStall hc | clearFlag hc | write hc =>
      exact h.local (by rw [hc]; rfl) rfl rfl rfl rfl
  | pass hc ht =>
      refine h.local ?_ rfl rfl rfl rfl
      rcases hc with hc | hc <;> (rw [hc]; rfl)
  | exit hc | request hc => exact (h.quiet (by rw [hc]; rfl)).request_out rfl rfl
  | wake hc hsem =>
      have hone := h.le_one
      have hno : s.server.answers ≠ true := fun ha => hsem.ne' (h.answers ha).2.1
      exact
        { pulling := h.pulling
          request := fun he => ⟨(h.request he).1, rfl⟩
          answers := fun ha => absurd ha hno
          below := fun hsrv => absurd (congrArg ServerPC.answers hsrv) hno
          releasing := fun _ => (h.semaphore hsem).2
          clearing := fun he _ => h.clearing he (.inr hsem)
          semaphore := fun hpos => by dsimp only at hpos; omega
          le_one := by dsimp only; omega }
  | clearPos hc =>
      have hw : s.client.waits ≠ true := by rw [hc]; nofun
      refine Quiet.handshake ⟨h.pulling, rfl, ?_, ?_⟩
      · exact Bool.eq_false_iff.mpr fun ha => hw (h.answers ha).2.2
      · exact Nat.eq_zero_of_not_pos fun hpos => hw (h.semaphore hpos).1
  | popHeader hsrv hq =>
      exact h.server (by rw [hsrv]; nofun) rfl rfl rfl rfl rfl (Nat.le_refl _)
        (fun hne => absurd rfl hne) nofun nofun nofun
  | pull hsrv hq =>
      exact h.server (by rw [hsrv]; nofun) rfl rfl rfl rfl rfl (Nat.le_refl _)
        (fun hne => absurd hsrv hne) h.answers h.below h.releasing
  | publish hsrv hq =>
      exact h.server (by rw [hsrv]; nofun) rfl rfl rfl rfl rfl hfin (fun _ => hq) nofun nofun nofun
  | skip hsrv =>
      have hpull : s.server ≠ .pulling := by
        rcases hsrv with ⟨hs, -⟩ | ⟨hs, -⟩ | ⟨hs, -⟩ <;> (rw [hs]; nofun)
      have hclr : s.server ≠ .clearing := by
        rcases hsrv with ⟨hs, -⟩ | ⟨hs, -⟩ | ⟨hs, -⟩ <;> (rw [hs]; nofun)
      exact h.server hclr rfl rfl rfl rfl rfl (Nat.le_refl _) (fun _ => h.pulling hpull)
        nofun nofun nofun
  | check hsrv he =>
      have hidle : ¬ (s.client.waits = false ∨ 0 < s.dataSemaphore) := by
        intro hor
        have := h.clearing he hor
        rw [hsrv] at this
        cases this
      have hans : s.clientDataExpectedPos ≠ -1 ∧ s.dataSemaphore = 0 ∧ s.client.waits = true :=
        ⟨he, Nat.eq_zero_of_not_pos fun hpos => hidle (.inr hpos),
          Bool.eq_true_of_not_eq_false fun hw => hidle (.inl hw)⟩
      exact h.server (by rw [hsrv]; nofun) rfl rfl rfl rfl rfl (Nat.le_refl _)
        (fun _ => h.pulling (by rw [hsrv]; nofun)) (fun _ => hans) nofun nofun
  | compare hsrv he =>
      have hans := h.answers (by rw [hsrv]; rfl)
      exact h.server (by rw [hsrv]; nofun) rfl rfl rfl rfl rfl (Nat.le_refl _)
        (fun _ => h.pulling (by rw [hsrv]; nofun)) (fun _ => hans) (fun _ => he) nofun
  | flagTest hsrv hf =>
      have hans := h.answers (by rw [hsrv]; rfl)
      exact h.server (by rw [hsrv]; nofun) rfl rfl rfl rfl rfl (Nat.le_refl _)
        (fun _ => h.pulling (by rw [hsrv]; nofun)) (fun _ => hans) nofun
        (fun _ => hrel rfl hsrv hf)
  | release hsrv =>
      obtain ⟨he, hzero, hw⟩ := h.answers (by rw [hsrv]; rfl)
      exact
        { pulling := fun _ => h.pulling (by rw [hsrv]; nofun)
          request := h.request
          answers := nofun
          below := nofun
          releasing := nofun
          clearing := fun _ _ => rfl
          semaphore := fun _ => ⟨hw, h.releasing hsrv⟩
          le_one := Nat.min_le_right _ 1 }
  | clear hsrv =>
      exact
        { pulling := fun _ => h.pulling (by rw [hsrv]; nofun)
          request := fun hne => absurd rfl hne
          answers := nofun
          below := nofun
          releasing := nofun
          clearing := fun hne => absurd rfl hne
          semaphore := h.semaphore
          le_one := h.le_one }

end RemixBridge.SyncDataQueue
