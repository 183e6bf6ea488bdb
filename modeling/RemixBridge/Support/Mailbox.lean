import RemixBridge.Support.Runs

/-!
# Support — Mailbox

A queue of messages between one side that puts and one that takes: what a channel is for that loses
nothing, delivers nothing twice and keeps the order.  A system is such a channel when a mailbox
shows an observer what it shows (`Runs.run_sim_along`).

* `conserved`: what was put is what was taken, and then what still waits.
* `delivers`: so it is of every system that a mailbox matches.
-/

namespace Mailbox
open Runs

variable {α : Type*}

inductive Act (α : Type*) where
  | put (x : α)
  | take

/-- What an observer sees of a channel. -/
inductive Event (α : Type*) where
  | put (x : α)
  | taken (x : α)
  deriving DecidableEq

def step : List α → Act α → Option (List α)
  | q, .put x      => some (q ++ [x])
  | _ :: q, .take  => some q
  | [], .take      => none

def obs : List α → Act α → List (Event α)
  | _, .put x      => [.put x]
  | x :: _, .take  => [.taken x]
  | [], .take      => []

def Event.sent? : Event α → Option α
  | .put x   => some x
  | .taken _ => none

def Event.received? : Event α → Option α
  | .put _   => none
  | .taken x => some x

/-- The messages that were put. -/
def sent (es : List (Event α)) : List α := es.filterMap Event.sent?

/-- The messages that were taken. -/
def received (es : List (Event α)) : List α := es.filterMap Event.received?

@[simp] theorem sent_append (es fs : List (Event α)) : sent (es ++ fs) = sent es ++ sent fs :=
  List.filterMap_append

@[simp] theorem received_append (es fs : List (Event α)) :
    received (es ++ fs) = received es ++ received fs :=
  List.filterMap_append

/-- One action: what waits, and what is put, is what is taken, and what waits then. -/
theorem step_conserved {q q' : List α} {a : Act α} (hs : step q a = some q') :
    q ++ sent (obs q a) = received (obs q a) ++ q' := by
  cases a with
  | put x =>
      cases hs
      rfl
  | take =>
      cases q with
      | nil => cases hs
      | cons x q =>
          cases hs
          exact List.append_nil _

theorem conserved {q q' : List α} {as : List (Act α)} (hr : run step q as = some q') :
    q ++ sent (trace step obs q as) = received (trace step obs q as) ++ q' := by
  induction as generalizing q with
  | nil =>
      cases hr
      exact List.append_nil _
  | cons a as ih =>
      obtain ⟨q₁, h₁, h₂⟩ := run_cons.mp hr
      rw [trace_cons as h₁, sent_append, received_append, ← List.append_assoc, step_conserved h₁,
        List.append_assoc, ih h₂, List.append_assoc]

/-- **A system that a mailbox matches**, under a condition on its steps, has delivered a first part
of what was sent, in order. -/
theorem delivers {σ β : Type*} {step' : σ → β → Option σ} {obs' : σ → β → List (Event α)}
    {C : σ → β → Prop} {R : σ → List α → Prop}
    (hstep : ∀ s q b s', R s q → C s b → step' s b = some s' → ∃ as q', run step q as = some q' ∧
      trace step obs q as = obs' s b ∧ R s' q')
    {s s' : σ} {bs : List β} (h₀ : R s []) (hC : Along step' C s bs)
    (hr : run step' s bs = some s') :
    ∃ q, R s' q ∧ sent (trace step' obs' s bs) = received (trace step' obs' s bs) ++ q := by
  obtain ⟨as, q, hrun, htrace, hR⟩ := run_sim_along hstep h₀ hC hr
  have hconserved := conserved hrun
  rw [htrace, List.nil_append] at hconserved
  exact ⟨q, hR, hconserved⟩

end Mailbox
