import RemixBridge.Device.Cells
import RemixBridge.Device.StateBatch
import RemixBridge.Support.Runs

/-!
# Device — ConcurrentSetters

Threads that call the setters of one device, section by section.  Some setters write the shadow and
send under one guard (`guard stays open`); the others write it in one section and send in a later
one, and another thread can come between.

* `coherent_turn`: the shadow holds what was sent and what is still to be sent, in the order of the
  writes, while the calls are sent in that order.
* `setters_coherent`: then, with nothing left to send, it holds the last values sent.
* `setters_incoherent`: two threads that set one register and send in the other order.
-/

namespace RemixBridge.Device
open Loops Runs

/-! ### Sections -/

/-- What the section after the one that writes does: choose between the batch and a command
(`SetTextureStageState`), only look whether the batch is active (the float constants), or send the
command. -/
inductive Stage where
  | batchOrCommand
  | batchConst
  | command
  deriving DecidableEq, Repr

/-- Whether a setter sends under the guard it writes under. -/
def Setter.guardStaysOpen : Setter → Bool
  | SetRenderState .. | SetTexture .. | SetSamplerState .. | SetVertexDeclaration ..
  | SetVertexShader .. | SetPixelShader .. | SetStreamSource .. | SetStreamSourceFreq ..
  | SetIndices .. => true
  | _ => false

def Setter.stage : Setter → Stage
  | SetTextureStageState .. => .batchOrCommand
  | SetVertexShaderConstantF .. | SetPixelShaderConstantF .. => .batchConst
  | _ => .command

/-- The words of a setter's record, in the arithmetic of `batchConst` for the constants. -/
def Setter.words : Setter → Nat
  | SetVertexShaderConstantF _ _ count | SetPixelShaderConstantF _ _ count =>
      (2 + 4 * count.toNat) % 2 ^ 32 + 1
  | SetRenderState .. | SetTexture .. | SetStreamSourceFreq .. => 3
  | SetTextureStageState .. | SetSamplerState .. => 4
  | SetStreamSource .. => 5
  | _ => 2

/-- A call of a thread between two of its sections. -/
structure Halfway (θ : Type*) where
  thread : θ
  call : Setter
  stage : Stage

/-- The device, its batch, what was sent of the setters, and the calls between two sections in the
order in which they wrote the shadow. -/
structure Client (θ : Type*) where
  device : LssDevice
  m_batchBuf : List Setter
  sent : List Setter
  between : List (Halfway θ)

section client

variable {θ : Type*}

def Client.flushStateBatch (s : Client θ) : Client θ :=
  { s with m_batchBuf := [], sent := s.sent ++ s.m_batchBuf }

/-- A command, whose constructor flushes the batch. -/
def Client.command (s : Client θ) (c : Setter) : Client θ :=
  { s.flushStateBatch with sent := s.flushStateBatch.sent ++ [c] }

/-- `batchCmd`. -/
def Client.batchCmd (s : Client θ) (c : Setter) : Client θ :=
  let s := if (s.m_batchBuf.map Setter.words).sum + c.words > Batching.kBatchWords then
    s.flushStateBatch else s
  { s with m_batchBuf := s.m_batchBuf ++ [c] }

def Client.batchConst (s : Client θ) (c : Setter) : Client θ :=
  if c.words > Batching.kBatchWords then s else s.batchCmd c

/-- `batchActive`; `batch` is the option. -/
def Client.batchActive (batch : Bool) (s : Client θ) : Bool :=
  batch && s.device.mStateRecording.isNone

def Client.batchOrCommand (batch : Bool) (s : Client θ) (c : Setter) : Client θ :=
  if s.batchActive batch then s.batchCmd c else s.command c

/-- What is left of a call after the section that wrote. -/
def Client.afterWrite (batch : Bool) (s : Client θ) (t : θ) (c : Setter) : Client θ :=
  if c.multiplies then s
  else if c.guardStaysOpen then s.batchOrCommand batch c
  else { s with between := s.between ++ [⟨t, c, c.stage⟩] }

/-- The next section of a call. -/
def Client.nextSection (batch : Bool) (s : Client θ) (h : Halfway θ)
    (before after : List (Halfway θ)) : Client θ :=
  match h.stage with
  | .batchOrCommand => { s with between := before ++ after }.batchOrCommand batch h.call
  | .batchConst     =>
      if s.batchActive batch then { s with between := before ++ after }.batchConst h.call
      else { s with between := before ++ { h with stage := .command } :: after }
  | .command        => { s with between := before ++ after }.command h.call

end client

/-- A section of a thread's call, or the flush of the batch by another command. -/
inductive Turn (θ : Type*) where
  | call (t : θ) (c : Setter)
  | resume (t : θ)
  | flush

section runs

variable {θ : Type*} [DecidableEq θ]

/-- The calls that wrote before the thread's. -/
def Client.before (s : Client θ) (t : θ) : List (Halfway θ) :=
  s.between.takeWhile (·.thread ≠ t)

def turn (batch elim : Bool) (mul : D3DMATRIX → D3DMATRIX → D3DMATRIX) (s : Client θ) :
    Turn θ → Option (Client θ)
  | .call t c =>
      if s.between.any (·.thread = t) then none
      else (c.call elim mul s.device).map fun r =>
        if r.1 = .written then { s with device := r.2 }.afterWrite batch t c
        else { s with device := r.2 }
  | .resume t =>
      match s.between.dropWhile (·.thread ≠ t) with
      | []         => none
      | h :: after => some (s.nextSection batch h (s.before t) after)
  | .flush => some s.flushStateBatch

/-- The values that the stream carries. -/
def stream (cs : List Setter) : List Value := cs.flatMap Setter.values

/-- What keeps the shadow and the stream together: no setter whose command is missing or does not
fit the shadow, and no command sent before one that carries a value for the same cell and whose
value the shadow had before. -/
def InOrder (batch : Bool) (s : Client θ) : Turn θ → Prop
  | .call _ c =>
      s.device.mStateRecording = none ∧ c.multiplies = false ∧ c.InRegisters
  | .resume t =>
      ∀ h ∈ (s.between.dropWhile (·.thread ≠ t)).head?,
        h.stage = .batchConst ∧ s.batchActive batch = false ∨
          ∀ e ∈ s.before t, Apart e.call.values h.call.values
  | .flush => True

/-- A client of which no call is under way. -/
def Client.idle (d : LssDevice) : Client θ := ⟨d, [], [], []⟩

end runs

/-! ### What the setters send under their guard is theirs -/

/-- A cell of the setters that send under the guard they write under. -/
def Cell.guarded : Cell → Bool
  | .entry (.renderStates _) | .entry (.textures _) | .entry (.textureTypes _)
  | .entry (.samplerStates _ _) | .entry .vertexDecl | .entry .vertexShader
  | .entry .pixelShader | .entry (.streams _) | .entry (.streamOffsets _)
  | .entry (.streamStrides _) | .entry (.streamFreqs _) | .entry .indices => true
  | _ => false

theorem forall_getD {α : Type} {o : Option α} {g : α → List Value} {P : Value → Prop}
    (h : ∀ a, ∀ w ∈ g a, P w) : ∀ w ∈ (o.map g).getD [], P w := by
  cases o with
  | none => exact List.forall_mem_nil _
  | some a => exact h a

theorem forall_registerValues {n : Nat} {startRegister count : Word}
    {value : Fin n → Nat → Value} {P : Value → Prop} (h : ∀ r i, P (value r i)) :
    ∀ w ∈ registerValues startRegister count value, P w := by
  intro w hw
  obtain ⟨i, -, hi⟩ := List.mem_filterMap.mp hw
  obtain ⟨r, -, rfl⟩ := Option.map_eq_some_iff.mp hi
  exact h r i

theorem values_guarded (c : Setter) : ∀ w ∈ c.values, w.1.guarded = c.guardStaysOpen := by
  cases c with
  | MultiplyTransform | SetFVF => exact List.forall_mem_nil _
  | SetTransform type m =>
      cases m with
      | none => exact List.forall_mem_nil _
      | some m => exact forall_getD fun i => List.forall_mem_singleton.mpr rfl
  | SetViewport v | SetMaterial v | SetScissorRect v =>
      cases v with
      | none => exact List.forall_mem_nil _
      | some v => exact List.forall_mem_singleton.mpr rfl
  | SetLight key l =>
      cases l with
      | none => exact List.forall_mem_nil _
      | some l => exact List.forall_mem_singleton.mpr rfl
  | SetClipPlane idx p =>
      cases p with
      | none => exact List.forall_mem_nil _
      | some p =>
          refine forall_getD fun i w hw => ?_
          obtain ⟨j, -, rfl⟩ := List.mem_map.mp hw
          rfl
  | SetTexture stage t =>
      exact forall_getD fun i =>
        List.forall_mem_cons.mpr ⟨rfl, List.forall_mem_singleton.mpr rfl⟩
  | SetTextureStageState stage type value =>
      rw [Setter.values]
      cases TexStageStateTypeToIdx type with
      | none => exact List.forall_mem_nil _
      | some j => exact forall_getD fun i => List.forall_mem_singleton.mpr rfl
  | SetSamplerState sampler type value =>
      rw [Setter.values]
      cases index kMaxStageSamplerStateTypes (type - 1) with
      | none => exact List.forall_mem_nil _
      | some j => exact forall_getD fun i => List.forall_mem_singleton.mpr rfl
  | SetStreamSource n vb offset stride =>
      refine forall_getD fun i => List.forall_mem_cons.mpr ⟨rfl, ?_⟩
      cases vb with
      | none => exact List.forall_mem_nil _
      | some vb => exact List.forall_mem_cons.mpr ⟨rfl, List.forall_mem_singleton.mpr rfl⟩
  | SetRenderState | SetRenderTarget | SetStreamSourceFreq =>
      exact forall_getD fun i => List.forall_mem_singleton.mpr rfl
  | LightEnable | SetDepthStencilSurface | SetVertexDeclaration | SetVertexShader
  | SetPixelShader | SetIndices => exact List.forall_mem_singleton.mpr rfl
  | SetVertexShaderConstantF start data n | SetVertexShaderConstantI start data n
  | SetPixelShaderConstantF start data n | SetPixelShaderConstantI start data n
  | SetVertexShaderConstantB start data n | SetPixelShaderConstantB start data n =>
      cases data with
      | none => exact List.forall_mem_nil _
      | some data => exact forall_registerValues fun r i => rfl

theorem apart_of_guard {c e : Setter} (hc : c.guardStaysOpen = true)
    (he : e.guardStaysOpen = false) : Apart e.values c.values := by
  intro w hw w' hw' h
  have hwe := values_guarded e w hw
  have hwc := values_guarded c w' hw'
  rw [h, hwc, hc, he] at hwe
  cases hwe

/-! ### What a section adds to the stream -/

section stream

variable {θ : Type*}

/-- Everything sent or in the batch. -/
def Client.total (s : Client θ) : List Setter := s.sent ++ s.m_batchBuf

theorem total_command (s : Client θ) (c : Setter) : (s.command c).total = s.total ++ [c] := by
  simp [Client.total, Client.command, Client.flushStateBatch]

theorem total_flushStateBatch (s : Client θ) : s.flushStateBatch.total = s.total := by
  simp [Client.total, Client.flushStateBatch]

theorem total_batchCmd (s : Client θ) (c : Setter) : (s.batchCmd c).total = s.total ++ [c] := by
  unfold Client.batchCmd
  split <;> simp [Client.total, Client.flushStateBatch]

theorem total_batchOrCommand (batch : Bool) (s : Client θ) (c : Setter) :
    (s.batchOrCommand batch c).total = s.total ++ [c] := by
  unfold Client.batchOrCommand
  split
  · exact total_batchCmd s c
  · exact total_command s c

@[simp] theorem between_batchCmd (s : Client θ) (c : Setter) :
    (s.batchCmd c).between = s.between := by
  unfold Client.batchCmd
  split <;> rfl

@[simp] theorem device_batchCmd (s : Client θ) (c : Setter) :
    (s.batchCmd c).device = s.device := by
  unfold Client.batchCmd
  split <;> rfl

@[simp] theorem between_batchOrCommand (batch : Bool) (s : Client θ) (c : Setter) :
    (s.batchOrCommand batch c).between = s.between := by
  unfold Client.batchOrCommand
  split
  · exact between_batchCmd s c
  · rfl

@[simp] theorem device_batchOrCommand (batch : Bool) (s : Client θ) (c : Setter) :
    (s.batchOrCommand batch c).device = s.device := by
  unfold Client.batchOrCommand
  split
  · exact device_batchCmd s c
  · rfl

theorem write_stream_append (m : (c : Cell) → c.Val) (cs cs' : List Setter) :
    write m (stream (cs ++ cs')) = write (write m (stream cs)) (stream cs') := by
  rw [stream, List.flatMap_append, write_append]
  rfl

theorem write_stream_singleton (m : (c : Cell) → c.Val) (c : Setter) :
    write m (stream [c]) = write m c.values := by simp [stream]

/-- A setter can go before others that it shares no cell with. -/
theorem write_stream_swap (m : (c : Cell) → c.Val) (cs : List Setter) (c : Setter)
    {bs : List Setter} (cs' : List Setter) (h : ∀ e ∈ bs, Apart e.values c.values) :
    write m (stream (cs ++ c :: (bs ++ cs'))) = write m (stream (cs ++ (bs ++ c :: cs'))) := by
  have hap : Apart (stream bs) (stream [c]) := by
    intro w hw w' hw'
    obtain ⟨e, he, hwe⟩ := List.mem_flatMap.mp hw
    obtain ⟨e', he', hwe'⟩ := List.mem_flatMap.mp hw'
    rw [List.mem_singleton.mp he'] at hwe'
    exact h e he w hwe w' hwe'
  have hl : cs ++ c :: (bs ++ cs') = cs ++ ([c] ++ (bs ++ cs')) := rfl
  have hr : bs ++ c :: cs' = bs ++ ([c] ++ cs') := rfl
  rw [hl, hr]
  simp only [write_stream_append]
  rw [write_comm _ hap]

end stream

/-! ### A record of constants fits the batch -/

theorem count_le_regCountHardware {n regCountHardware : Nat} {slot : Fin n → Slot}
    {val : ∀ i, Vec4 → (slot i).Val} {f : Fin n → Flag} {eliminates : Bool} {d : LssDevice}
    {startRegister count : Word} {data : List Vec4} {r : Section × LssDevice}
    (hin : InRegisters n regCountHardware startRegister count)
    (h : setVec4s n regCountHardware slot val f eliminates d startRegister (some data) count =
      some r) (hr : r.1 = .written) : count.toNat ≤ regCountHardware := by
  by_cases h0 : count = 0
  · subst h0
    exact Nat.zero_le _
  · by_cases hgt : startRegister + count > BitVec.ofNat 32 n
    · have hnone : commonGetSetConstants (BitVec.ofNat 32 regCountHardware) (BitVec.ofNat 32 n)
          startRegister count = none := if_pos hgt
      unfold setVec4s setShaderConstants at h
      rw [hnone] at h
      cases h
      cases hr
    · exact le_trans (Nat.le_add_left _ _) (hin h0 (BitVec.not_lt.mp hgt))

theorem words_le {elim : Bool} {mul : D3DMATRIX → D3DMATRIX → D3DMATRIX} {d : LssDevice}
    {c : Setter} {r : Section × LssDevice} (hin : c.InRegisters)
    (h : c.call elim mul d = some r) (hr : r.1 = .written) : c.words ≤ Batching.kBatchWords := by
  have hsmall (count : Word) (n : Nat) (hn : n ≤ 256) (hc : count.toNat ≤ n) :
      (2 + 4 * count.toNat) % 2 ^ 32 + 1 ≤ Batching.kBatchWords := by
    unfold Batching.kBatchWords
    omega
  cases c with
  | SetVertexShaderConstantF start data n =>
      cases data with
      | none =>
          cases h
          cases hr
      | some data =>
          rw [Setter.call, Device.SetVertexShaderConstantF] at h
          exact hsmall n _ (by decide) (count_le_regCountHardware hin h hr)
  | SetPixelShaderConstantF start data n =>
      cases data with
      | none =>
          cases h
          cases hr
      | some data =>
          rw [Setter.call, Device.SetPixelShaderConstantF] at h
          exact hsmall n _ (by decide) (count_le_regCountHardware hin h hr)
  | _ => exact Nat.le_of_ble_eq_true rfl

/-! ### Runs -/

section coherence

variable {θ : Type*} {batch elim : Bool} {mul : D3DMATRIX → D3DMATRIX → D3DMATRIX}
  {m₀ : (c : Cell) → c.Val} {s s' : Client θ}

/-- The shadow holds what was sent and what the calls under way are still to send. -/
structure Coherent (m₀ : (c : Cell) → c.Val) (s : Client θ) : Prop where
  cells : s.device.mState.cells = write m₀ (stream (s.total ++ s.between.map Halfway.call))
  guarded : ∀ h ∈ s.between, h.call.guardStaysOpen = false
  fits : ∀ h ∈ s.between, h.stage = .batchConst → h.call.words ≤ Batching.kBatchWords

theorem coherent_idle (d : LssDevice) : Coherent d.mState.cells (Client.idle (θ := θ) d) :=
  ⟨rfl, nofun, nofun⟩

theorem coherent_call {t : θ} {c : Setter} {r : Section × LssDevice} (hI : Coherent m₀ s)
    (hd : s.device.mStateRecording = none) (hm : c.multiplies = false) (hin : c.InRegisters)
    (h : c.call elim mul s.device = some r) :
    Coherent m₀ (if r.1 = .written then { s with device := r.2 }.afterWrite batch t c
      else { s with device := r.2 }) := by
  have hw := writes_call hd hm hin h
  by_cases hr : r.1 = .written
  · rw [if_pos hr]
    unfold Client.afterWrite
    rw [hm, if_neg Bool.false_ne_true]
    have hcells : r.2.mState.cells =
        write m₀ (stream (s.total ++ s.between.map Halfway.call ++ [c])) := by
      rw [hw.written hr, hI.cells, write_stream_append m₀ _ [c], write_stream_singleton]
    by_cases hg : c.guardStaysOpen = true
    · rw [if_pos hg]
      refine ⟨?_, ?_, ?_⟩
      · -- the setter goes before all that is still to be sent
        have hap : ∀ e ∈ s.between.map Halfway.call, Apart e.values c.values := by
          intro e he
          obtain ⟨h, hh, rfl⟩ := List.mem_map.mp he
          exact apart_of_guard hg (hI.guarded h hh)
        have hswap := write_stream_swap m₀ s.total c [] hap
        rw [total_batchOrCommand, between_batchOrCommand, device_batchOrCommand]
        dsimp only
        rw [hcells, List.append_assoc, ← hswap, List.append_nil]
        simp [Client.total]
      · rw [between_batchOrCommand]
        exact hI.guarded
      · rw [between_batchOrCommand]
        exact hI.fits
    · rw [if_neg hg]
      refine ⟨?_, ?_, ?_⟩
      · simp only [List.map_append, List.map_cons, List.map_nil, ← List.append_assoc]
        exact hcells
      · intro e he
        rcases List.mem_append.mp he with he | he
        · exact hI.guarded e he
        · obtain rfl := List.mem_singleton.mp he
          simpa using hg
      · intro e he
        rcases List.mem_append.mp he with he | he
        · exact hI.fits e he
        · obtain rfl := List.mem_singleton.mp he
          exact fun _ => words_le hin h hr
  · rw [if_neg hr]
    refine ⟨?_, hI.guarded, hI.fits⟩
    rw [hw.other hr]
    exact hI.cells

/-- Sending a call that shares no cell with those that wrote before it. -/
theorem coherent_send {h : Halfway θ} {before after : List (Halfway θ)} (hI : Coherent m₀ s)
    (hs : s.between = before ++ h :: after)
    (hap : ∀ e ∈ before, Apart e.call.values h.call.values)
    (hd : s'.device = s.device) (hb : s'.between = before ++ after)
    (ht : s'.total = s.total ++ [h.call]) : Coherent m₀ s' := by
  have hsub : ∀ e ∈ s'.between, e ∈ s.between := by
    intro e he
    rw [hb] at he
    rw [hs]
    rcases List.mem_append.mp he with he | he
    · exact List.mem_append_left _ he
    · exact List.mem_append_right _ (List.mem_cons_of_mem h he)
  refine ⟨?_, fun e he => hI.guarded e (hsub e he), fun e he => hI.fits e (hsub e he)⟩
  have hap' : ∀ e ∈ before.map Halfway.call, Apart e.values h.call.values := by
    intro e he
    obtain ⟨b, hb, rfl⟩ := List.mem_map.mp he
    exact hap b hb
  have hswap := write_stream_swap m₀ s.total h.call (after.map Halfway.call) hap'
  rw [hd, hI.cells, hs, hb, ht, List.map_append, List.map_cons, List.map_append,
    List.append_assoc]
  exact hswap.symm

/-- The step to the section that sends. -/
theorem coherent_test {h : Halfway θ} {before after : List (Halfway θ)} (hI : Coherent m₀ s)
    (hs : s.between = before ++ h :: after) :
    Coherent m₀ { s with between := before ++ { h with stage := .command } :: after } := by
  have hmap : (before ++ { h with stage := .command } :: after).map Halfway.call =
      s.between.map Halfway.call := by
    rw [hs]
    simp
  refine ⟨?_, ?_, ?_⟩
  · rw [hmap]
    exact hI.cells
  · intro e he
    rcases List.mem_append.mp he with he | he
    · exact hI.guarded e (hs ▸ List.mem_append_left _ he)
    · rcases List.mem_cons.mp he with rfl | he
      · exact hI.guarded h (hs ▸ List.mem_append_right _ List.mem_cons_self)
      · exact hI.guarded e (hs ▸ List.mem_append_right _ (List.mem_cons_of_mem h he))
  · intro e he
    rcases List.mem_append.mp he with he | he
    · exact hI.fits e (hs ▸ List.mem_append_left _ he)
    · rcases List.mem_cons.mp he with rfl | he
      · exact nofun
      · exact hI.fits e (hs ▸ List.mem_append_right _ (List.mem_cons_of_mem h he))

/-- **The step lemma.** -/
theorem coherent_turn [DecidableEq θ] {a : Turn θ} (hI : Coherent m₀ s) (hC : InOrder batch s a)
    (h : turn batch elim mul s a = some s') : Coherent m₀ s' := by
  cases a with
  | call t c =>
      simp only [turn] at h
      split at h
      · cases h
      · obtain ⟨r, hr, rfl⟩ := Option.map_eq_some_iff.mp h
        exact coherent_call hI hC.1 hC.2.1 hC.2.2 hr
  | flush =>
      cases h
      refine ⟨?_, hI.guarded, hI.fits⟩
      rw [total_flushStateBatch]
      exact hI.cells
  | resume t =>
      simp only [turn] at h
      simp only [InOrder] at hC
      split at h
      · cases h
      · rename_i e after he
        cases h
        have hs : s.between = s.before t ++ e :: after := by
          rw [← he]
          exact List.takeWhile_append_dropWhile.symm
        have hsend : e.stage = .batchConst ∧ s.batchActive batch = false ∨
            ∀ b ∈ s.before t, Apart b.call.values e.call.values := by
          refine hC e ?_
          rw [he]
          rfl
        unfold Client.nextSection
        split
        · rename_i hst
          have hap := hsend.resolve_left fun h => by simp [hst] at h
          refine coherent_send hI hs hap ?_ ?_ ?_
          · rw [device_batchOrCommand]
          · rw [between_batchOrCommand]
          · rw [total_batchOrCommand]
            rfl
        · rename_i hst
          split
          · rename_i hact
            have hap := hsend.resolve_left fun h => by simp [hact] at h
            have hfit : ¬ e.call.words > Batching.kBatchWords :=
              not_lt.mpr (hI.fits e (hs ▸ List.mem_append_right _ List.mem_cons_self) hst)
            unfold Client.batchConst
            rw [if_neg hfit]
            refine coherent_send hI hs hap ?_ ?_ ?_
            · rw [device_batchCmd]
            · rw [between_batchCmd]
            · rw [total_batchCmd]
              rfl
          · exact coherent_test hI hs
        · rename_i hst
          have hap := hsend.resolve_left fun h => by simp [hst] at h
          refine coherent_send hI hs hap rfl rfl ?_
          rw [total_command]
          rfl

/-- **Concurrent setters are coherent.**  Whatever the threads call and however their sections come
one after the other, in the order of the writes: when no call is under way and the batch is
flushed, the shadow holds for each cell the last value sent, or what it held first if none was. -/
theorem setters_coherent [DecidableEq θ] {d : LssDevice} {as : List (Turn θ)}
    (hr : run (turn batch elim mul) (.idle d) as = some s)
    (hC : Along (turn batch elim mul) (InOrder batch) (.idle d) as) (hb : s.between = [])
    (hf : s.m_batchBuf = []) (c : Cell) :
    (∀ ws v ws', stream s.sent = ws ++ ⟨c, v⟩ :: ws' → (∀ w ∈ ws', w.1 ≠ c) →
      s.device.mState.cells c = v) ∧
    ((∀ w ∈ stream s.sent, w.1 ≠ c) → s.device.mState.cells c = d.mState.cells c) := by
  have hI : Coherent d.mState.cells s :=
    run_inv_along (fun _ _ _ => coherent_turn) (coherent_idle d) hC hr
  have hcells : s.device.mState.cells = write d.mState.cells (stream s.sent) := by
    rw [hI.cells, hb, Client.total, hf]
    simp
  constructor
  · intro ws v ws' hs hlast
    rw [hcells, hs]
    exact write_last _ ws c v hlast
  · intro hnone
    rw [hcells]
    exact write_unwritten _ hnone

end coherence

/-- A device that nothing was set on. -/
def exampleDevice : LssDevice := ⟨.cleared, none, fun _ => ⟨⟨fun _ => false, [], []⟩, .cleared,
  buildPlan ⟨fun _ => false, [], []⟩⟩⟩

/-- One register of the vertex constants. -/
def setRegister (v : Word) : Setter := .SetVertexShaderConstantF 0 (some [fun _ => v]) 1

/-- Two threads set one register, and send in the order of their writes. -/
theorem setters_coherent_register :
    ∃ s : Client Bool, run (turn true true fun _ m => m) (.idle exampleDevice)
        [.call false (setRegister 1), .call true (setRegister 2), .resume false, .resume true,
          .flush] = some s ∧ s.device.mState.cells (.entry (.vsF 0)) = fun _ => 2 := by
  have hr : run (turn true true fun _ m => m) (.idle exampleDevice)
      [.call false (setRegister 1), .call true (setRegister 2), .resume false, .resume true,
        .flush] = some _ := rfl
  refine ⟨_, hr, ?_⟩
  refine (setters_coherent hr ?_ rfl rfl (.entry (.vsF 0))).1
    [⟨.entry (.vsF 0), fun _ => 1⟩] (fun _ => 2) [] rfl nofun
  refine ⟨⟨rfl, rfl, fun _ _ => by decide⟩, fun s₁ h₁ => ?_⟩
  cases h₁
  refine ⟨⟨rfl, rfl, fun _ _ => by decide⟩, fun s₂ h₂ => ?_⟩
  cases h₂
  refine ⟨fun h hh => .inr fun e he => ?_, fun s₃ h₃ => ?_⟩
  · cases he
  cases h₃
  refine ⟨fun h hh => .inr fun e he => ?_, fun s₄ h₄ => ?_⟩
  · cases he
  cases h₄
  exact ⟨trivial, fun _ _ => trivial⟩

/-- Two threads set one register, and send in the other order. -/
theorem setters_incoherent :
    ∃ s : Client Bool, run (turn true true fun _ m => m) (.idle exampleDevice)
        [.call false (setRegister 1), .call true (setRegister 2), .resume true, .resume false,
          .flush] = some s ∧ s.between = [] ∧ s.m_batchBuf = [] ∧
      stream s.sent = [⟨.entry (.vsF 0), fun _ => 2⟩, ⟨.entry (.vsF 0), fun _ => 1⟩] ∧
      s.device.mState.cells (.entry (.vsF 0)) ≠ fun _ => 1 := by
  refine ⟨_, rfl, rfl, rfl, rfl, fun h => ?_⟩
  have h0 := congrFun h 0
  cases h0

end RemixBridge.Device
