import RemixBridge.Support.Runs
import RemixBridge.Wire.StateRecord
import Mathlib.Logic.Function.Basic

/-!
# Device — StateBatch

State batching on the client (`d3d9_device.h`): with `clientStateBatch` on, a device appends its
hot setters to its own buffer, and the constructor of any other command flushes a pending batch
first.  `g_stateBatchPending` and `g_stateBatchFlush` are global, `s_batchDevice` is one for each
of the two instantiations of the device class (`EnableSync`), and a device registers itself at its
first batchable setter.

Setters are those that redundancy elimination lets through; it runs before the choice between a
record and a command and does not depend on it.

* `Sim`: the client with batching against the client without, at the same point of a program.
* `batch_equals_commands`: when the server makes the same calls.
-/

namespace RemixBridge.Batching
open Runs StateRecord

/-- The options that decide `m_batchMode`. -/
structure Options where
  clientStateBatch : Bool
  sendAllServerResponses : Bool

/-- What of a device batching reads and writes; `m_batchBuf` is the part below `m_batchLen`, and
an `m_batchMode` of `-1` is `none`. -/
structure Device where
  m_batchBuf : List Word
  m_batchMode : Option Bool
  m_stateRecording : Bool

/-- A command on the wire; `α` are the commands that are neither a setter nor a batch. -/
inductive Wire (α : Type*) where
  | setter (dev : Nat) (s : Setter)
  | StateBatch (dev : Nat) (words : List Word)
  | other (a : α)

/-- The devices, by their handles, the globals, and the commands sent. -/
structure Client (α : Type*) where
  devices : Nat → Device
  s_batchDevice : Bool → Option Nat
  g_stateBatchPending : Bool
  g_stateBatchFlush : Option Bool
  sent : List (Wire α)

/-- One call of the program; `stateBlock` is `BeginStateBlock` or `EndStateBlock`. -/
inductive Op (α : Type*) where
  | setter (dev : Nat) (s : Setter)
  | other (a : α)
  | stateBlock (dev : Nat) (recording : Bool) (a : α)

def kBatchWords : Nat := 16384

/-- `getSoftwareRegCount` of the float constants. -/
def softwareRegCountVS : Nat := 8192

def softwareRegCountPS : Nat := 224

/-- The range check of `commonGetSetConstants`, in `uint32_t` arithmetic. -/
def accepted : Setter → Bool
  | .SetVertexShaderConstantF c =>
      decide ((c.StartRegister.toNat + c.Vector4fCount) % 2 ^ 32 ≤ softwareRegCountVS)
  | .SetPixelShaderConstantF c  =>
      decide ((c.StartRegister.toNat + c.Vector4fCount) % 2 ^ 32 ≤ softwareRegCountPS)
  | _                           => true

section client

variable {α : Type*}

def Client.setDevice (c : Client α) (dev : Nat) (d : Device) : Client α :=
  { c with devices := Function.update c.devices dev d }

@[simp] theorem Client.setDevice_self (c : Client α) (dev : Nat) (d : Device) :
    (c.setDevice dev d).devices dev = d := Function.update_self ..

@[simp] theorem Client.setDevice_of_ne (c : Client α) {dev e : Nat} (d : Device) (h : e ≠ dev) :
    (c.setDevice dev d).devices e = c.devices e := Function.update_of_ne h ..

/-- `flushStateBatch`. -/
def Client.flushStateBatch (c : Client α) (dev : Nat) : Client α :=
  if (c.devices dev).m_batchBuf = [] then { c with g_stateBatchPending := false }
  else { c.setDevice dev { c.devices dev with m_batchBuf := [] } with
    g_stateBatchPending := false
    sent := c.sent ++ [Wire.StateBatch dev (c.devices dev).m_batchBuf] }

/-- `flushStateBatchStatic`. -/
def Client.flushStateBatchStatic (c : Client α) (EnableSync : Bool) : Client α :=
  match c.s_batchDevice EnableSync with
  | some dev => c.flushStateBatch dev
  | none     => c

/-- The flush in the constructor of a `Command`. -/
def Client.flushPending (c : Client α) : Client α :=
  match c.g_stateBatchPending, c.g_stateBatchFlush with
  | true, some EnableSync => { c with g_stateBatchPending := false }.flushStateBatchStatic EnableSync
  | _, _                  => c

/-- A command other than `StateBatch`. -/
def Client.command (c : Client α) (w : Wire α) : Client α :=
  { c.flushPending with sent := c.flushPending.sent ++ [w] }

/-- `m_batchMode`, once it is decided. -/
def Options.batchMode (o : Options) : Bool := o.clientStateBatch && !o.sendAllServerResponses

/-- The registration in `batchActive`. -/
def Client.register (o : Options) (sync : Nat → Bool) (c : Client α) (dev : Nat) : Client α :=
  match (c.devices dev).m_batchMode with
  | some _ => c
  | none   =>
      let c := c.setDevice dev { c.devices dev with m_batchMode := some o.batchMode }
      if o.batchMode then
        { c with
          s_batchDevice := Function.update c.s_batchDevice (sync dev) (some dev)
          g_stateBatchFlush := some (sync dev) }
      else c

/-- The result of `batchActive`. -/
def Client.active (c : Client α) (dev : Nat) : Bool :=
  (c.devices dev).m_batchMode == some true && !(c.devices dev).m_stateRecording

section register

variable (o : Options) (sync : Nat → Bool) (c : Client α) (dev : Nat)

@[simp] theorem register_sent : (c.register o sync dev).sent = c.sent := by
  unfold Client.register
  split
  · rfl
  · split <;> rfl

@[simp] theorem register_pending :
    (c.register o sync dev).g_stateBatchPending = c.g_stateBatchPending := by
  unfold Client.register
  split
  · rfl
  · split <;> rfl

/-- Registration decides the mode of its device and leaves the rest of every device alone. -/
theorem register_devices (e : Nat) : (c.register o sync dev).devices e =
    if e = dev then { c.devices e with
      m_batchMode := some ((c.devices e).m_batchMode.getD o.batchMode) } else c.devices e := by
  unfold Client.register
  by_cases he : e = dev
  · subst he
    split
    · rename_i b hb
      rw [if_pos rfl, hb, Option.getD_some, ← hb]
    · rename_i hb
      split <;> simp [hb]
  · split
    · simp [he]
    · split <;> simp [he]

@[simp] theorem register_buf (e : Nat) :
    ((c.register o sync dev).devices e).m_batchBuf = (c.devices e).m_batchBuf := by
  rw [register_devices]
  split <;> rfl

@[simp] theorem register_recording (e : Nat) :
    ((c.register o sync dev).devices e).m_stateRecording = (c.devices e).m_stateRecording := by
  rw [register_devices]
  split <;> rfl

theorem register_mode (e : Nat) (h : (c.devices e).m_batchMode ≠ some true)
    (ho : o.batchMode = false) :
    ((c.register o sync dev).devices e).m_batchMode ≠ some true := by
  rw [register_devices]
  split
  · cases hm : (c.devices e).m_batchMode with
    | none => simp [ho]
    | some b =>
        rw [hm] at h
        exact h
  · exact h

/-- The next batchable setter on `dev` goes into its buffer. -/
def Client.batches : Bool :=
  (c.devices dev).m_batchMode.getD o.batchMode && !(c.devices dev).m_stateRecording

theorem active_register : (c.register o sync dev).active dev = c.batches o dev := by
  simp [Client.active, Client.batches, register_devices]

end register

/-- The flush of a buffer that has no room for a setter's record. -/
def Client.makeRoom (c : Client α) (dev : Nat) (s : Setter) : Client α :=
  if (c.devices dev).m_batchBuf.length + 1 + s.args.length > kBatchWords then c.flushStateBatch dev
  else c

/-- `batchCmd`, and `batchConst` past its guard. -/
def Client.batchCmd (c : Client α) (dev : Nat) (s : Setter) : Client α :=
  let c := c.makeRoom dev s
  { c.setDevice dev
      { c.devices dev with m_batchBuf := (c.devices dev).m_batchBuf ++ s.record } with
    g_stateBatchPending := true }

/-- `batchConst`. -/
def Client.batchConst (c : Client α) (dev : Nat) (s : Setter) : Client α :=
  if s.args.length + 1 > kBatchWords then c else c.batchCmd dev s

/-- The batched branch of a setter. -/
def Client.append (c : Client α) (dev : Nat) (s : Setter) : Client α :=
  match s with
  | .SetVertexShaderConstantF _ => c.batchConst dev s
  | .SetPixelShaderConstantF _  => c.batchConst dev s
  | _                           => c.batchCmd dev s

/-- A setter, from `batchActive` on. -/
def Client.setter (o : Options) (sync : Nat → Bool) (c : Client α) (dev : Nat) (s : Setter) :
    Client α :=
  if accepted s then
    if (c.register o sync dev).active dev then (c.register o sync dev).append dev s
    else (c.register o sync dev).command (.setter dev s)
  else c

/-- One call of the program. -/
def Client.call (o : Options) (sync : Nat → Bool) (c : Client α) : Op α → Client α
  | .setter dev s               => c.setter o sync dev s
  | .other a                    => c.command (.other a)
  | .stateBlock dev recording a =>
      let c := c.command (.other a)
      c.setDevice dev { c.devices dev with m_stateRecording := recording }

def start : Client α where
  devices := fun _ => ⟨[], none, false⟩
  s_batchDevice := fun _ => none
  g_stateBatchPending := false
  g_stateBatchFlush := none
  sent := []

/-- The commands that a program's calls send. -/
def commands (o : Options) (sync : Nat → Bool) (ops : List (Op α)) : List (Wire α) :=
  (ops.foldl (Client.call o sync) start).sent

end client

/-! ### The server -/

/-- What the server does, in order. -/
inductive Event (R α : Type*) where
  | call (dev : Nat) (c : Call R)
  | other (a : α)

/-- The server's maps and what it has done. -/
@[ext]
structure Server (R α : Type*) where
  maps : Maps R
  trace : List (Event R α)

section server

variable {R α : Type*} (exec : List (Event R α) → α → Maps R → Maps R)

/-- One command.  What another command does to the maps, `exec` says, from all that came before. -/
def Server.process (S : Server R α) : Wire α → Server R α
  | .setter dev s         => { S with trace := S.trace ++ [Event.call dev (s.call S.maps)] }
  | .StateBatch dev words =>
      { S with trace := S.trace ++ (replay S.maps words).map (.call dev) }
  | .other a              => ⟨exec S.trace a S.maps, S.trace ++ [Event.other a]⟩

/-- All commands a client sent, from the server's start. -/
def serve (S : Server R α) (ws : List (Wire α)) : Server R α := ws.foldl (Server.process exec) S

theorem serve_append (S : Server R α) (ws : List (Wire α)) (w : Wire α) :
    serve exec S (ws ++ [w]) = (serve exec S ws).process exec w := by
  simp [serve]

end server

/-! ### Batching against single commands -/

section sim

variable {R α : Type*} (exec : List (Event R α) → α → Maps R → Maps R) (S : Server R α)

/-- The device that a pending batch is flushed from. -/
def Client.Registered (c : Client α) (dev : Nat) : Prop :=
  ∃ EnableSync, c.g_stateBatchFlush = some EnableSync ∧ c.s_batchDevice EnableSync = some dev

/-- What the server still has to do for the setters in a buffer. -/
def calls (dev : Nat) (S : Server R α) (ss : List Setter) : List (Event R α) :=
  ss.map fun s => .call dev (s.call S.maps)

/-- The client `c` that batches and the client `c₀` that does not, after the same calls: the
server has done for `c` what it has done for `c₀`, but for the setters `ss` in the buffer of `dev`,
and those are flushed next. -/
structure Sim (c c₀ : Client α) (dev : Nat) (ss : List Setter) : Prop where
  maps : (serve exec S c.sent).maps = (serve exec S c₀.sent).maps
  trace : (serve exec S c₀.sent).trace =
    (serve exec S c.sent).trace ++ calls dev (serve exec S c.sent) ss
  buf : (c.devices dev).m_batchBuf = ss.flatMap Setter.record
  small : ∀ s ∈ ss, s.args.length < 2 ^ 16
  rest : ∀ e, e ≠ dev → (c.devices e).m_batchBuf = []
  pending : ss ≠ [] → c.g_stateBatchPending = true ∧ c.Registered dev
  recording : ∀ e, (c.devices e).m_stateRecording = (c₀.devices e).m_stateRecording
  off : c₀.g_stateBatchPending = false
  offMode : ∀ e, (c₀.devices e).m_batchMode ≠ some true

theorem sim_start : Sim exec S start start 0 [] where
  maps := rfl
  trace := (List.append_nil _).symm
  buf := rfl
  small := nofun
  rest := fun _ _ => rfl
  pending := fun h => absurd rfl h
  recording := fun _ => rfl
  off := rfl
  offMode := fun _ => nofun

theorem Client.Registered.unique {c : Client α} {d e : Nat} (hd : c.Registered d)
    (he : c.Registered e) : d = e := by
  obtain ⟨i, h₁, h₂⟩ := hd
  obtain ⟨j, h₃, h₄⟩ := he
  rw [h₁] at h₃
  cases h₃
  rw [h₂] at h₄
  exact Option.some.inj h₄

theorem flatMap_record_eq_nil {ss : List Setter} (h : ss.flatMap Setter.record = []) : ss = [] := by
  cases ss with
  | nil => rfl
  | cons s ss => simp [Setter.record] at h

namespace Sim

variable {exec S} {c c₀ : Client α} {dev : Nat} {ss : List Setter}

/-- With nothing in a buffer, every buffer is empty. -/
theorem empty (h : Sim exec S c c₀ dev []) (e : Nat) : (c.devices e).m_batchBuf = [] := by
  by_cases he : e = dev
  · rw [he]
    exact h.buf
  · exact h.rest e he

theorem eq_nil (h : Sim exec S c c₀ dev ss) (hempty : (c.devices dev).m_batchBuf = []) :
    ss = [] := flatMap_record_eq_nil (h.buf.symm.trans hempty)

theorem move (h : Sim exec S c c₀ dev []) (e : Nat) : Sim exec S c c₀ e [] where
  maps := h.maps
  trace := h.trace
  buf := h.empty e
  small := nofun
  rest := fun e' _ => h.empty e'
  pending := fun hn => absurd rfl hn
  recording := h.recording
  off := h.off
  offMode := h.offMode

theorem serve_batch (h : Sim exec S c c₀ dev ss) :
    serve exec S (c.sent ++ [Wire.StateBatch dev (c.devices dev).m_batchBuf]) =
      ⟨(serve exec S c₀.sent).maps, (serve exec S c₀.sent).trace⟩ := by
  rw [serve_append, Server.process, h.buf, replay_records _ _ h.small, List.map_map, ← h.maps,
    h.trace]
  rfl

/-- Flushing the device that holds the batch makes the server catch up. -/
theorem flushStateBatch (h : Sim exec S c c₀ dev ss) :
    Sim exec S (c.flushStateBatch dev) c₀ dev [] := by
  unfold Client.flushStateBatch
  split
  · obtain rfl := h.eq_nil ‹_›
    exact { h with pending := fun hn => absurd rfl hn }
  · exact
      { maps := congrArg Server.maps h.serve_batch
        trace := by
          rw [h.serve_batch]
          exact (List.append_nil _).symm
        buf := by simp
        small := nofun
        rest := fun e he => by simp [he, h.rest e he]
        pending := fun hn => absurd rfl hn
        recording := fun e => by
          rw [← h.recording e]
          by_cases he : e = dev
          · simp [he]
          · simp [he]
        off := h.off
        offMode := h.offMode }

/-- The flush in the constructor of a command makes the server catch up. -/
theorem flushPending (h : Sim exec S c c₀ dev ss) : Sim exec S c.flushPending c₀ dev [] := by
  unfold Client.flushPending
  by_cases hs : ss = []
  · subst hs
    have h' : Sim exec S { c with g_stateBatchPending := false } c₀ dev [] :=
      { h with pending := fun hn => absurd rfl hn }
    split
    · unfold Client.flushStateBatchStatic
      split
      · exact ((h'.move _).flushStateBatch).move dev
      · exact h'
    · exact h
  · obtain ⟨hp, i, hf, hb⟩ := h.pending hs
    split
    · rename_i j _ hf'
      rw [hf] at hf'
      cases hf'
      simp only [Client.flushStateBatchStatic, hb]
      exact h.flushStateBatch
    · exact absurd hf (by rename_i hno; exact fun hf => hno i hp hf)

/-- With nothing in a buffer, the server has done the same for both. -/
theorem serve_eq (h : Sim exec S c c₀ dev []) : serve exec S c.sent = serve exec S c₀.sent := by
  have ht := h.trace
  rw [calls, List.map_nil, List.append_nil] at ht
  exact Server.ext h.maps ht.symm

theorem flushPending_off (h : Sim exec S c c₀ dev ss) : c₀.flushPending = c₀ := by
  rw [Client.flushPending, h.off]

/-- Every other command finds the same server in both. -/
theorem command (h : Sim exec S c c₀ dev ss) (w : Wire α) :
    Sim exec S (c.command w) (c₀.command w) dev [] := by
  have hf := h.flushPending
  have hS' : serve exec S (c.command w).sent = serve exec S (c₀.command w).sent := by
    rw [Client.command, Client.command, h.flushPending_off, serve_append, serve_append, hf.serve_eq]
  exact
    { maps := congrArg Server.maps hS'
      trace := by
        rw [hS']
        exact (List.append_nil _).symm
      buf := hf.buf
      small := nofun
      rest := hf.rest
      pending := fun hn => absurd rfl hn
      recording := by
        rw [Client.command, Client.command, h.flushPending_off]
        exact hf.recording
      off := by
        rw [Client.command, h.flushPending_off]
        exact h.off
      offMode := by
        rw [Client.command, h.flushPending_off]
        exact h.offMode }

theorem makeRoom (h : Sim exec S c c₀ dev ss) (s : Setter) :
    ∃ ss', Sim exec S (c.makeRoom dev s) c₀ dev ss' := by
  unfold Client.makeRoom
  split
  · exact ⟨[], h.flushStateBatch⟩
  · exact ⟨ss, h⟩

/-- A record in the buffer of the registered device stands for the command that `c₀` sends. -/
theorem push (h : Sim exec S c c₀ dev ss) (hreg : c.Registered dev) (s : Setter)
    (hn : s.args.length < 2 ^ 16) :
    Sim exec S { c.setDevice dev
        { c.devices dev with m_batchBuf := (c.devices dev).m_batchBuf ++ s.record } with
      g_stateBatchPending := true } (c₀.command (.setter dev s)) dev (ss ++ [s]) := by
  have hS : serve exec S (c₀.command (.setter dev s)).sent =
      ⟨(serve exec S c₀.sent).maps, (serve exec S c₀.sent).trace ++
        [.call dev (s.call (serve exec S c₀.sent).maps)]⟩ := by
    rw [Client.command, h.flushPending_off, serve_append, Server.process]
  exact
    { maps := by
        rw [hS]
        exact h.maps
      trace := by
        rw [hS, h.trace, ← h.maps, List.append_assoc]
        rw [calls, calls, List.map_append]
        rfl
      buf := by simp [h.buf]
      small := by
        intro s' hs'
        rcases List.mem_append.mp hs' with hs' | hs'
        · exact h.small s' hs'
        · rwa [List.mem_singleton.mp hs']
      rest := fun e he => by simp [he, h.rest e he]
      pending := fun _ => ⟨rfl, hreg⟩
      recording := fun e => by
        rw [Client.command, h.flushPending_off]
        by_cases he : e = dev
        · simp [he, h.recording]
        · simp [he, h.recording]
      off := by
        rw [Client.command, h.flushPending_off]
        exact h.off
      offMode := by
        rw [Client.command, h.flushPending_off]
        exact h.offMode }

theorem batchCmd (h : Sim exec S c c₀ dev ss) (hreg : c.Registered dev) (s : Setter)
    (hn : s.args.length < 2 ^ 16) :
    ∃ ss', Sim exec S (c.batchCmd dev s) (c₀.command (.setter dev s)) dev ss' := by
  obtain ⟨ss', h'⟩ := h.makeRoom s
  have hreg' : (c.makeRoom dev s).Registered dev := by
    unfold Client.makeRoom Client.flushStateBatch
    split
    · split <;> exact hreg
    · exact hreg
  exact ⟨_, h'.push hreg' s hn⟩

/-- A setter whose record fits the buffer is appended, whichever of the two functions does it. -/
theorem append_eq_batchCmd (c : Client α) (dev : Nat) {s : Setter}
    (hn : s.args.length + 1 ≤ kBatchWords) : c.append dev s = c.batchCmd dev s := by
  cases s <;> first | rfl | exact if_neg (Nat.not_lt.mpr hn)

end Sim

/-! ### Runs -/

variable {exec S}

/-- A call that batching carries through: a float-constant record fits the buffer; a device
registers while no buffer holds a record, and a record is appended on the device that registered
last. -/
def Safe (o : Options) (c : Client α) : Op α → Prop
  | .setter dev s => accepted s = true →
      (o.batchMode = true → (c.devices dev).m_batchMode = none →
        ∀ e, (c.devices e).m_batchBuf = []) ∧
      (c.batches o dev = true → s.args.length + 1 ≤ kBatchWords ∧
        ((c.devices dev).m_batchMode ≠ none → c.Registered dev))
  | _ => True

/-- The first batchable setter of a device makes it the one that is flushed. -/
theorem Client.Registered.of_register {o : Options} (sync : Nat → Bool) {c : Client α} {dev : Nat}
    (ho : o.batchMode = true) (hm : (c.devices dev).m_batchMode = none) :
    (c.register o sync dev).Registered dev := by
  unfold Client.register
  rw [hm]
  simp only [ho, if_true]
  exact ⟨sync dev, rfl, Function.update_self ..⟩

/-- Any other registration leaves the device that is flushed. -/
theorem Client.Registered.register {o : Options} (sync : Nat → Bool) {c : Client α} {d dev : Nat}
    (h : c.Registered d) (hm : o.batchMode = true → (c.devices dev).m_batchMode ≠ none) :
    (c.register o sync dev).Registered d := by
  unfold Client.register
  split
  · exact h
  · rename_i hnone
    have ho : o.batchMode = false := Bool.eq_false_iff.mpr fun ho => hm ho hnone
    simp only [ho, Bool.false_eq_true, if_false]
    exact h

/-- Registration keeps the simulation when no buffer holds a record. -/
theorem Sim.register {o o₀ : Options} (sync : Nat → Bool) (ho₀ : o₀.batchMode = false)
    {c c₀ : Client α} {d : Nat} {ss : List Setter} (h : Sim exec S c c₀ d ss) (dev : Nat)
    (hempty : o.batchMode = true → (c.devices dev).m_batchMode = none →
      ∀ e, (c.devices e).m_batchBuf = []) :
    Sim exec S (c.register o sync dev) (c₀.register o₀ sync dev) d ss where
  maps := by simpa using h.maps
  trace := by simpa using h.trace
  buf := by simpa using h.buf
  small := h.small
  rest := by simpa using h.rest
  pending := by
    intro hn
    obtain ⟨hp, hreg⟩ := h.pending hn
    refine ⟨by simpa using hp, hreg.register sync fun ho hm => hn ?_⟩
    exact h.eq_nil (hempty ho hm d)
  recording := by simpa using h.recording
  off := by simpa using h.off
  offMode := fun e => register_mode o₀ sync c₀ dev e (h.offMode e) ho₀

/-- A device the non-batching client knows is never in batch mode. -/
theorem Sim.active_off {c c₀ : Client α} {d : Nat} {ss : List Setter}
    (h : Sim exec S c c₀ d ss) (dev : Nat) : c₀.active dev = false := by
  have := h.offMode dev
  simp only [Client.active, Bool.and_eq_false_imp, beq_iff_eq]
  exact fun he => absurd he this

/-- The setter's record is appended, or its command is sent, where `c₀` sends the command. -/
theorem Sim.setter {o o₀ : Options} (sync : Nat → Bool) (ho₀ : o₀.batchMode = false)
    {c c₀ : Client α} {d : Nat} {ss : List Setter} (h : Sim exec S c c₀ d ss) (dev : Nat)
    (s : Setter) (hsafe : Safe o c (.setter dev s)) :
    ∃ d' ss', Sim exec S (c.setter o sync dev s) (c₀.setter o₀ sync dev s) d' ss' := by
  unfold Client.setter
  by_cases hacc : accepted s
  swap
  · rw [if_neg hacc, if_neg hacc]
    exact ⟨d, ss, h⟩
  rw [if_pos hacc, if_pos hacc]
  obtain ⟨hnone, hbatch⟩ := hsafe hacc
  have h' := h.register sync ho₀ dev hnone
  rw [if_neg (Bool.eq_false_iff.mp (h'.active_off dev))]
  by_cases hact : (c.register o sync dev).active dev
  swap
  · rw [if_neg hact]
    exact ⟨d, [], h'.command _⟩
  rw [if_pos hact]
  rw [active_register] at hact
  obtain ⟨hfit, hsome⟩ := hbatch hact
  have hreg : (c.register o sync dev).Registered dev := by
    cases hm : (c.devices dev).m_batchMode with
    | none =>
        have ho : o.batchMode = true := by
          rw [Client.batches, hm, Bool.and_eq_true] at hact
          exact hact.1
        exact .of_register sync ho hm
    | some b => exact (hsome (by simp [hm])).register sync fun _ => by simp [hm]
  rw [Sim.append_eq_batchCmd _ _ hfit]
  have hlen : s.args.length < 2 ^ 16 := by
    unfold kBatchWords at hfit
    omega
  by_cases hss : ss = []
  · subst hss
    exact ⟨dev, (h'.move dev).batchCmd hreg s hlen⟩
  · obtain rfl := (h'.pending hss).2.unique hreg
    exact ⟨d, h'.batchCmd hreg s hlen⟩

/-- Starting or ending a state block on a device touches neither its buffer nor its mode. -/
theorem Sim.setRecording {c c₀ : Client α} {d : Nat} (h : Sim exec S c c₀ d []) (dev : Nat)
    (recording : Bool) :
    Sim exec S (c.setDevice dev { c.devices dev with m_stateRecording := recording })
      (c₀.setDevice dev { c₀.devices dev with m_stateRecording := recording }) d [] where
  maps := h.maps
  trace := h.trace
  buf := by
    by_cases hd : d = dev
    · simpa [hd] using h.empty dev
    · simpa [hd] using h.empty d
  small := nofun
  rest := by
    intro e _
    by_cases he : e = dev
    · simpa [he] using h.empty dev
    · simpa [he] using h.empty e
  pending := fun hn => absurd rfl hn
  recording := by
    intro e
    by_cases he : e = dev
    · simp [he]
    · simpa [he] using h.recording e
  off := h.off
  offMode := by
    intro e
    by_cases he : e = dev
    · simpa [he] using h.offMode dev
    · simpa [he] using h.offMode e

/-- **The step lemma.**  A safe call keeps the client with batching and the client without in
step. -/
theorem Sim.call {o o₀ : Options} (sync : Nat → Bool) (ho₀ : o₀.batchMode = false)
    {c c₀ : Client α} {d : Nat} {ss : List Setter} (h : Sim exec S c c₀ d ss) (op : Op α)
    (hsafe : Safe o c op) :
    ∃ d' ss', Sim exec S (c.call o sync op) (c₀.call o₀ sync op) d' ss' := by
  cases op with
  | setter dev s => exact h.setter sync ho₀ dev s hsafe
  | other a => exact ⟨d, [], h.command (.other a)⟩
  | stateBlock dev recording a =>
      have h' := h.command (.other a)
      exact ⟨d, [], h'.setRecording dev recording⟩

/-! ### One device at a time -/

theorem Client.Registered.flushStateBatch {c : Client α} {d : Nat} (h : c.Registered d)
    (dev : Nat) : (c.flushStateBatch dev).Registered d := by
  unfold Client.flushStateBatch
  split <;> exact h

theorem Client.Registered.append {c : Client α} {d : Nat} (h : c.Registered d) (dev : Nat)
    {s : Setter} (hn : s.args.length + 1 ≤ kBatchWords) : (c.append dev s).Registered d := by
  rw [Sim.append_eq_batchCmd c dev hn]
  unfold Client.batchCmd Client.makeRoom
  split
  · exact h.flushStateBatch dev
  · exact h

theorem Client.Registered.command {c : Client α} {d : Nat} (h : c.Registered d) (w : Wire α) :
    (c.command w).Registered d := by
  have hflush : c.flushPending.Registered d := by
    unfold Client.flushPending
    split
    · unfold Client.flushStateBatchStatic
      split
      · exact Client.Registered.flushStateBatch (c := { c with g_stateBatchPending := false }) h _
      · exact h
    · exact h
  exact hflush

section mode

variable (c : Client α) (dev e : Nat)

@[simp] theorem flushStateBatch_mode :
    ((c.flushStateBatch dev).devices e).m_batchMode = (c.devices e).m_batchMode := by
  unfold Client.flushStateBatch
  split
  · rfl
  · by_cases he : e = dev
    · simp [he]
    · simp [he]

@[simp] theorem command_mode (w : Wire α) :
    ((c.command w).devices e).m_batchMode = (c.devices e).m_batchMode := by
  show (c.flushPending.devices e).m_batchMode = _
  unfold Client.flushPending
  split
  · unfold Client.flushStateBatchStatic
    split
    · exact flushStateBatch_mode _ _ e
    · rfl
  · rfl

theorem append_mode {s : Setter} (hn : s.args.length + 1 ≤ kBatchWords) :
    ((c.append dev s).devices e).m_batchMode = (c.devices e).m_batchMode := by
  have hroom : ((c.makeRoom dev s).devices e).m_batchMode = (c.devices e).m_batchMode := by
    unfold Client.makeRoom
    split
    · exact flushStateBatch_mode c dev e
    · rfl
  rw [Sim.append_eq_batchCmd c dev hn, Client.batchCmd, ← hroom]
  by_cases he : e = dev
  · simp [he]
  · simp [he]

/-- A setter that is accepted decides the mode of its device. -/
theorem setter_mode (o : Options) (sync : Nat → Bool) {s : Setter} (hacc : accepted s = true)
    (hn : s.args.length + 1 ≤ kBatchWords) :
    ((c.setter o sync dev s).devices dev).m_batchMode ≠ none := by
  have hregister : ((c.register o sync dev).devices dev).m_batchMode ≠ none := by
    rw [register_devices, if_pos rfl]
    exact Option.some_ne_none _
  unfold Client.setter
  rw [if_pos hacc]
  split
  · rwa [append_mode _ dev dev hn]
  · rwa [command_mode]

end mode

/-- The setters are those of one device, and their records fit the buffer. -/
def Op.Uses (dev : Nat) : Op α → Prop
  | .setter d s => d = dev ∧ s.args.length + 1 ≤ kBatchWords
  | _           => True

/-- A setter of the device that is flushed, or of one that comes to be while no buffer holds a
record. -/
theorem safe_setter {o : Options} {c : Client α} {dev : Nat} {s : Setter}
    (hempty : (c.devices dev).m_batchMode = none → ∀ e, (c.devices e).m_batchBuf = [])
    (hreg : (c.devices dev).m_batchMode ≠ none → c.Registered dev)
    (hn : s.args.length + 1 ≤ kBatchWords) : Safe o c (.setter dev s) :=
  fun _ => ⟨fun _ => hempty, fun _ => ⟨hn, hreg⟩⟩

theorem Client.Registered.setter {o : Options} (sync : Nat → Bool) (ho : o.batchMode = true)
    {c : Client α} {dev : Nat} {s : Setter} (hacc : accepted s = true)
    (hreg : (c.devices dev).m_batchMode ≠ none → c.Registered dev)
    (hn : s.args.length + 1 ≤ kBatchWords) : (c.setter o sync dev s).Registered dev := by
  have hregister : (c.register o sync dev).Registered dev := by
    by_cases hm : (c.devices dev).m_batchMode = none
    · exact .of_register sync ho hm
    · exact (hreg hm).register sync fun _ => hm
  unfold Client.setter
  rw [if_pos hacc]
  split
  · exact hregister.append dev hn
  · exact hregister.command _

/-- **One device.**  A program of one device whose records fit the buffer is safe, if no other
device's record is in a buffer when it begins. -/
theorem safe_of_uses {o o₀ : Options} (sync : Nat → Bool) (ho : o.batchMode = true)
    (ho₀ : o₀.batchMode = false) {dev : Nat} {ops : List (Op α)} (huses : ∀ op ∈ ops, op.Uses dev)
    {c c₀ : Client α} {d : Nat} {ss : List Setter} (h : Sim exec S c c₀ d ss)
    (hnone : (c.devices dev).m_batchMode = none → ss = [])
    (hreg : (c.devices dev).m_batchMode ≠ none → c.Registered dev) :
    Along (fun c op => some (c.call o sync op)) (Safe o) c ops := by
  induction ops generalizing c c₀ d ss with
  | nil => trivial
  | cons op ops ih =>
      have hrest : ∀ op ∈ ops, op.Uses dev := fun op hop => huses op (List.mem_cons_of_mem _ hop)
      have hempty : (c.devices dev).m_batchMode = none → ∀ e, (c.devices e).m_batchBuf = [] := by
        intro hm e
        have hss := hnone hm
        subst hss
        exact h.empty e
      cases op with
      | setter d' s =>
          obtain ⟨rfl, hn⟩ := huses _ List.mem_cons_self
          have hsafe : Safe o c (.setter d' s) := safe_setter hempty hreg hn
          refine ⟨hsafe, fun c' hc' => ?_⟩
          cases hc'
          by_cases hacc : accepted s = true
          · obtain ⟨d₁, ss₁, h₁⟩ := h.setter sync ho₀ d' s hsafe
            exact ih hrest h₁ (fun hm => absurd hm (setter_mode c d' o sync hacc hn))
              fun _ => .setter sync ho hacc hreg hn
          · have hsame : c.call o sync (.setter d' s) = c := if_neg hacc
            rw [hsame]
            exact ih hrest h hnone hreg
      | other a =>
          refine ⟨trivial, fun c' hc' => ?_⟩
          cases hc'
          refine ih hrest (h.command (.other a)) (fun _ => rfl) fun hm => ?_
          rw [Client.call, command_mode] at hm
          exact (hreg hm).command _
      | stateBlock d' recording a =>
          refine ⟨trivial, fun c' hc' => ?_⟩
          cases hc'
          refine ih hrest ((h.command (.other a)).setRecording d' recording) (fun _ => rfl)
            fun hm => ?_
          have hmode : (c.devices dev).m_batchMode ≠ none := by
            by_cases he : dev = d'
            · simpa [Client.call, he] using hm
            · simpa [Client.call, he] using hm
          exact (hreg hmode).command (.other a)

/-- **Batching makes the same calls.**  After every program whose calls are all safe, the next
command of any other kind leaves the server with the same maps and the same calls made in the same
order, whether `clientStateBatch` is on or off. -/
theorem batch_equals_commands (sendAll : Bool) (sync : Nat → Bool) (ops : List (Op α)) (a : α)
    (exec : List (Event R α) → α → Maps R → Maps R) (S : Server R α)
    (hsafe : Along (fun c op => some (c.call ⟨true, sendAll⟩ sync op)) (Safe ⟨true, sendAll⟩)
      start ops) :
    serve exec S (commands ⟨true, sendAll⟩ sync (ops ++ [Op.other a])) =
      serve exec S (commands ⟨false, sendAll⟩ sync (ops ++ [Op.other a])) := by
  obtain ⟨d, ss, h⟩ := foldl_sim_along
    (R := fun c c₀ : Client α => ∃ d ss, Sim exec S c c₀ d ss)
    (fun _ _ op ⟨_, _, h⟩ hop =>
      h.call sync (show Options.batchMode ⟨false, sendAll⟩ = false from rfl) op hop)
    ⟨0, [], sim_start exec S⟩ hsafe
  rw [commands, commands, List.foldl_append, List.foldl_append]
  exact (h.command (.other a)).serve_eq

/-- A server that has no objects yet. -/
def noObjects : Server Nat Unit where
  maps := ⟨fun _ => none, fun _ => none, fun _ => none, fun _ => none⟩
  trace := []

/-- So many registers, from the first. -/
def registers (count : Nat) (fits : 16 * count < 2 ^ 32) : Constants where
  StartRegister := 0
  Vector4fCount := count
  pConstantData := List.replicate (4 * count) 1
  length_eq := List.length_replicate
  fits := fits

/-- Two setters of a device and a draw; then four of another one, of which the third finds the
buffer full. -/
def twoDevices : List (Op Unit) :=
  [.setter 1 (.SetRenderState 7 1), .setter 1 (.SetTexture 0 5), .other ()] ++
    [.setter 0 (.SetSamplerState 0 1 2),
      .setter 0 (.SetVertexShaderConstantF (registers 4000 (by decide))),
      .setter 0 (.SetVertexShaderConstantF (registers 100 (by decide))), .setter 0 (.SetIndices 3)]

/-- Three batches and two draws, and the eight commands that they stand for. -/
theorem batch_equals_commands_devices :
    (commands ⟨true, false⟩ (fun _ => true) (twoDevices ++ [Op.other ()])).length = 5 ∧
    (commands ⟨false, false⟩ (fun _ => true) (twoDevices ++ [Op.other ()])).length = 8 ∧
    serve (fun _ _ m => m) noObjects
        (commands ⟨true, false⟩ (fun _ => true) (twoDevices ++ [Op.other ()])) =
      serve (fun _ _ m => m) noObjects
        (commands ⟨false, false⟩ (fun _ => true) (twoDevices ++ [Op.other ()])) := by
  have hlong {count : Nat} (fits : 16 * count < 2 ^ 32) (hcount : count ≤ 4000) :
      (Setter.SetVertexShaderConstantF (registers count fits)).args.length + 1 ≤ kBatchWords := by
    have hargs : (Setter.SetVertexShaderConstantF (registers count fits)).args.length =
        2 + 4 * count := by
      simp only [Setter.args, Constants.args, registers, List.length_cons, List.length_replicate]
      omega
    rw [hargs, kBatchWords]
    omega
  have hfirst : ∀ op ∈ [Op.setter 1 (.SetRenderState 7 1), .setter 1 (.SetTexture 0 5),
      .other ()], op.Uses 1 := by
    simp [Op.Uses, Setter.args, kBatchWords]
  have hsecond : ∀ op ∈ ([.setter 0 (.SetSamplerState 0 1 2),
      .setter 0 (.SetVertexShaderConstantF (registers 4000 (by decide))),
      .setter 0 (.SetVertexShaderConstantF (registers 100 (by decide))),
      .setter 0 (.SetIndices 3)] : List (Op Unit)), op.Uses 0 := by
    simp only [List.forall_mem_cons, List.not_mem_nil, Op.Uses, true_and]
    exact ⟨by decide, hlong _ (by decide), hlong _ (by decide), by decide, nofun⟩
  have hstart : Sim (fun _ _ m => m) noObjects start start 0 [] := sim_start _ _
  have hsafe : Along (fun c op => some (c.call ⟨true, false⟩ (fun _ => true) op))
      (Safe ⟨true, false⟩) start [Op.setter 1 (.SetRenderState 7 1), .setter 1 (.SetTexture 0 5),
        .other ()] :=
    safe_of_uses _ rfl (show Options.batchMode ⟨false, false⟩ = false from rfl) hfirst hstart
      (fun _ => rfl) fun hm => absurd rfl hm
  refine ⟨by decide +kernel, rfl, batch_equals_commands false (fun _ => true) twoDevices () _ _
    (along_append.mpr ⟨hsafe, fun s hs => ?_⟩)⟩
  cases hs
  -- the draw leaves no record in a buffer
  obtain ⟨d₁, ss₁, h₁⟩ := hstart.call (fun _ => true)
    (show Options.batchMode ⟨false, false⟩ = false from rfl) _ hsafe.1
  obtain ⟨d₂, ss₂, h₂⟩ := h₁.call (fun _ => true)
    (show Options.batchMode ⟨false, false⟩ = false from rfl) _ (hsafe.2 _ rfl).1
  exact safe_of_uses _ rfl (show Options.batchMode ⟨false, false⟩ = false from rfl) hsecond
    (h₂.command (.other ())) (fun _ => rfl) fun hm => absurd rfl hm

/-- A command flushes the registered device only: what another device has appended stays. -/
theorem command_keeps_unregistered {c : Client α} {dev : Nat} (h : ¬ c.Registered dev)
    (w : Wire α) : ((c.command w).devices dev).m_batchBuf = (c.devices dev).m_batchBuf := by
  show (c.flushPending.devices dev).m_batchBuf = _
  unfold Client.flushPending
  split
  · rename_i i _ hf
    unfold Client.flushStateBatchStatic
    split
    · rename_i e he
      have hne : dev ≠ e := by
        rintro rfl
        exact h ⟨i, hf, he⟩
      unfold Client.flushStateBatch
      split
      · rfl
      · simp [hne]
    · rfl
  · rfl

/-- `batchConst` drops a set that no buffer could hold: it is neither appended nor sent. -/
theorem setter_dropped {o : Options} (sync : Nat → Bool) {c : Client α} {dev : Nat}
    {k : Constants} (hacc : accepted (.SetVertexShaderConstantF k) = true)
    (hbatch : c.batches o dev = true) (hlong : 3 + 4 * k.Vector4fCount > kBatchWords) :
    c.setter o sync dev (.SetVertexShaderConstantF k) = c.register o sync dev := by
  have hlen : (Setter.SetVertexShaderConstantF k).args.length + 1 > kBatchWords := by
    simp only [Setter.args, Constants.args, List.length_cons, k.length_eq]
    omega
  rw [Client.setter, if_pos hacc, active_register, if_pos hbatch]
  exact if_pos hlen

/-- 4096 registers, from the first. -/
def manyRegisters : Constants where
  StartRegister := 0
  Vector4fCount := 4096
  pConstantData := List.replicate (4 * 4096) 1
  length_eq := List.length_replicate
  fits := by decide

/-- **A long constant set is lost.**  The setter accepts 4096 registers; no record of theirs fits
the buffer, and no command is sent in its place. -/
theorem batch_ne_commands :
    ¬ ∀ (sendAll : Bool) (sync : Nat → Bool) (ops : List (Op Unit)) (a : Unit)
      (exec : List (Event Nat Unit) → Unit → Maps Nat → Maps Nat) (S : Server Nat Unit),
      serve exec S (commands ⟨true, sendAll⟩ sync (ops ++ [Op.other a])) =
        serve exec S (commands ⟨false, sendAll⟩ sync (ops ++ [Op.other a])) := by
  intro h
  have hon : commands ⟨true, false⟩ (fun _ => true)
      ([Op.setter 0 (.SetVertexShaderConstantF manyRegisters)] ++ [Op.other ()]) = [.other ()] := by
    rw [commands, List.singleton_append, List.foldl_cons, Client.call,
      setter_dropped _ rfl rfl (by decide)]
    rfl
  have hoff : commands ⟨false, false⟩ (fun _ => true)
      ([Op.setter 0 (.SetVertexShaderConstantF manyRegisters)] ++ [Op.other ()]) =
      [.setter 0 (.SetVertexShaderConstantF manyRegisters), .other ()] := rfl
  have h' := h false (fun _ => true) [.setter 0 (.SetVertexShaderConstantF manyRegisters)] ()
    (fun _ _ m => m) noObjects
  rw [hon, hoff] at h'
  exact absurd (congrArg (fun S => S.trace.length) h') (by decide)

end sim

end RemixBridge.Batching
