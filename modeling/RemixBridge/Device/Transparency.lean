import RemixBridge.Device.Redundancy

/-!
# Device — Transparency

A device and the runtime that its commands drive on the server, over a run of setters, of calls on
state blocks and of draws.  The runtime records and applies what it is told, and has the side
effects that Direct3D documents: `SetFVF` sets the vertex declaration, `SetRenderTarget` of the
first target the viewport and the scissor rectangle, `LightEnable` a light that was never set, and
the draws from user memory unset the first stream and the indices.  The shadow follows none of them.

* `mirrors_step`: what one call keeps of a shadow and a runtime that agree.
* `elimination_transparent`: where no call has a side effect, the runtime gets to where all calls
  would have brought it, whether redundant ones are eliminated or not.
-/

namespace RemixBridge.Device
open Loops Runs

/-! ### The runtime -/

abbrev Cells := (c : Cell) → c.Val

inductive Draw where
  | DrawPrimitive
  | DrawIndexedPrimitive
  | DrawPrimitiveUP
  | DrawIndexedPrimitiveUP

def Draw.unsets : Draw → List Value
  | .DrawPrimitive | .DrawIndexedPrimitive => []
  | .DrawPrimitiveUP                       => [⟨.entry (.streams 0), none⟩]
  | .DrawIndexedPrimitiveUP => [⟨.entry (.streams 0), none⟩, ⟨.entry .indices, none⟩]

/-- What a runtime is to be asked for: the setters it refuses, the declaration of a vertex format,
the viewport and the scissor rectangle of a whole target, the light that is enabled before it is
set, the cells that a block of a type captures, and the state after `Reset`. -/
structure Runtime where
  refuses : Setter → Bool
  declaration : Word → D3DAutoPtr
  viewport : Nat → D3DVIEWPORT9
  scissorRect : Nat → RECT
  light : D3DLIGHT9
  captured : Word → Cell → Bool
  cells : Cells

/-- The runtime's state: the block that it records, and those it can apply. -/
structure Native where
  cells : Cells
  recording : Option Block
  blocks : Nat → Block

def Block.over (b : Block) (m : Cells) : Cells := fun c => (b c).getD (m c)

def Block.again (b : Block) (m : Cells) : Block := fun c => (b c).map fun _ => m c

/-- The runtime records the setter. -/
def Setter.recorded : Setter → Bool
  | SetRenderTarget _ _ | SetDepthStencilSurface _ => false
  | _ => true

/-- A light that was never set reads as zeros. -/
def Runtime.sideEffects (rt : Runtime) (m : Cells) : Setter → List Value
  | .SetFVF FVF => [⟨.entry .vertexDecl, rt.declaration FVF⟩]
  | .SetRenderTarget idx (some target) =>
      if idx = 0 then
        [⟨.entry .viewport, rt.viewport target⟩, ⟨.entry .scissorRect, rt.scissorRect target⟩]
      else []
  | .LightEnable key _ =>
      if m (.entry (.lights key)) = some (fun _ => 0 : D3DLIGHT9) then
        [⟨.entry (.lights key), some rt.light⟩]
      else []
  | _ => []

section runtime

variable (rt : Runtime) (mul : D3DMATRIX → D3DMATRIX → D3DMATRIX)

/-- What `MultiplyTransform` multiplies. -/
def Native.seen (n : Native) : Cells := (n.recording.getD .empty).over n.cells

def Runtime.set (n : Native) (c : Setter) : Native :=
  if rt.refuses c then n
  else
    let ws := ofRuntime (c.named mul n.seen) ++ rt.sideEffects n.cells c
    match n.recording with
    | none   => { n with cells := write n.cells ws }
    | some b =>
        if c.recorded then { n with recording := some (b.record ws) }
        else { n with cells := write n.cells ws }

/-- A command to the runtime. -/
inductive Command where
  | set (c : Setter)
  | BeginStateBlock
  | EndStateBlock (sb : Nat)
  | CreateStateBlock (type : Word) (sb : Nat)
  | Capture (sb : Nat)
  | Apply (sb : Nat)
  | Destroy (sb : Nat)
  | Reset
  | draw (k : Draw)

/-- While it records, the runtime refuses to capture, to apply and to create a block. -/
def Runtime.exec (n : Native) : Command → Native
  | .set c => rt.set mul n c
  | .BeginStateBlock =>
      if n.recording.isSome then n else { n with recording := some .empty }
  | .EndStateBlock sb =>
      match n.recording with
      | none   => n
      | some b => { n with recording := none, blocks := Function.update n.blocks sb b }
  | .CreateStateBlock type sb =>
      if n.recording.isSome then n
      else { n with blocks := Function.update n.blocks sb fun c =>
        if c.ofRuntime && rt.captured type c then some (n.cells c) else none }
  | .Capture sb =>
      if n.recording.isSome then n
      else { n with blocks := Function.update n.blocks sb ((n.blocks sb).again n.cells) }
  | .Apply sb =>
      if n.recording.isSome then n else { n with cells := (n.blocks sb).over n.cells }
  | .Destroy sb => { n with blocks := Function.update n.blocks sb .empty }
  | .Reset => { n with cells := rt.cells, recording := none }
  | .draw k => { n with cells := write n.cells k.unsets }

/-! ### The client and the server -/

/-- What a call of the application makes the client send. -/
def sent (elim : Bool) (s : App) : Act → List Command
  | .set c =>
      if (c.call elim mul s.device).any (·.1 = .written) && !c.multiplies then [.set c] else []
  | .BeginStateBlock _ _ =>
      if s.device.mStateRecording.isSome then [] else [.BeginStateBlock]
  | .EndStateBlock ppSB =>
      match s.device.mStateRecording with
      | none    => []
      | some sb => if ppSB then [.EndStateBlock sb] else []
  | .CreateStateBlock type ppSB sb _ => if ppSB then [.CreateStateBlock type sb] else []
  | .Capture sb => if s.device.mStateRecording.isSome then [] else [.Capture sb]
  | .Apply sb => [.Apply sb]
  | .ReleaseStateBlock sb => [.Destroy sb]
  | .Reset _ => [.Reset]

structure System where
  client : App
  server : Native

inductive Call where
  | device (a : Act)
  | draw (k : Draw)

def System.step (elim : Bool) (s : System) : Call → Option System
  | .device a =>
      (Device.step elim mul s.client a).map fun client =>
        ⟨client, (sent mul elim s.client a).foldl (rt.exec mul) s.server⟩
  | .draw k => some { s with server := rt.exec mul s.server (.draw k) }

def Native.init (d : LssDevice) : Native := ⟨d.mState.cells, none, fun _ => .empty⟩

def System.init (d : LssDevice) : System := ⟨.init d, .init d⟩

/-! ### The runtime on its own -/

/-- The runtime, called by the application itself; `name` is what it will call the block that is
recorded. -/
structure Direct where
  native : Native
  name : Option Nat

def forwarded (name : Option Nat) : Act → List Command
  | .set c => [.set c]
  | .BeginStateBlock _ _ => [.BeginStateBlock]
  | .EndStateBlock ppSB =>
      match name with
      | none    => []
      | some sb => if ppSB then [.EndStateBlock sb] else []
  | .CreateStateBlock type ppSB sb _ => if ppSB then [.CreateStateBlock type sb] else []
  | .Capture sb => [.Capture sb]
  | .Apply sb => [.Apply sb]
  | .ReleaseStateBlock sb => [.Destroy sb]
  | .Reset _ => [.Reset]

def nameAfter (name : Option Nat) : Act → Option Nat
  | .BeginStateBlock sb _ => name.or (some sb)
  | .EndStateBlock true   => none
  | _                     => name

def Direct.call (p : Direct) : Call → Direct
  | .device a => ⟨(forwarded p.name a).foldl (rt.exec mul) p.native, nameAfter p.name a⟩
  | .draw k   => { p with native := rt.exec mul p.native (.draw k) }

def Direct.init (d : LssDevice) : Direct := ⟨.init d, none⟩

end runtime

/-! ### Calls that the shadow follows -/

/-- A setter that does to the runtime what it says, and that the shadow follows. -/
structure Runtime.Follows (rt : Runtime) (n : Native) (c : Setter) : Prop where
  refuses : rt.refuses c = c.refused
  multiplies : c.multiplies = false
  inRegisters : c.InRegisters
  sideEffects : c.refused = false →
    write n.cells (ofRuntime c.values ++ rt.sideEffects n.cells c) =
      write n.cells (ofRuntime c.values)
  recorded : n.recording.isSome = true → c.refused = false →
    rt.sideEffects n.cells c = [] ∧ c.recorded = c.recordable

/-- A call that the shadow follows: a block is not created or applied while another is recorded, its
flags cover what the runtime captures, `Reset` leaves the runtime's state, and a draw unsets what is
unset. -/
def Followed (rt : Runtime) (p : Direct) : Call → Prop
  | .device (.set c) => rt.Follows p.native c
  | .device (.CreateStateBlock type _ _ _) => p.native.recording = none ∧
      ∀ c : Cell, c.ofRuntime = true →
        rt.captured type c = (StateBlockSetCaptureFlags type .none).covers c
  | .device (.Apply _) => p.native.recording = none
  | .device (.Reset m_state) => p.native.recording = none ∧
      ∀ c : Cell, c.ofRuntime = true → m_state.cells c = rt.cells c
  | .draw k => write p.native.cells k.unsets = p.native.cells
  | _ => True

/-! ### A shadow and a runtime that agree -/

structure Mirrors (s : App) (p : Direct) : Prop where
  inv : Inv s
  cells : ∀ c : Cell, c.ofRuntime = true → s.device.mState.cells c = p.native.cells c
  name : s.device.mStateRecording = p.name
  idle : p.name = none → p.native.recording = none
  recorded : ∀ sb, p.name = some sb → ∃ vs,
    Copies (s.device.blocks sb).mDirtyFlags (s.device.blocks sb).mCaptureState vs ∧
      p.native.recording = some (Block.empty.record (ofRuntime vs))
  held : ∀ sb ∈ s.held, (s.device.blocks sb).content = p.native.blocks sb

theorem mirrors_init (d : LssDevice) : Mirrors (.init d) (.init d) where
  inv := inv_init d
  cells := fun _ _ => rfl
  name := rfl
  idle := fun _ => rfl
  recorded := nofun
  held := nofun

section step

variable {rt : Runtime} {elim : Bool} {mul : D3DMATRIX → D3DMATRIX → D3DMATRIX} {s s' : App}
  {p : Direct}

theorem Mirrors.name_none (h : Mirrors s p) (hn : p.native.recording = none) : p.name = none := by
  cases hname : p.name with
  | none => rfl
  | some sb =>
      obtain ⟨vs, -, hrec⟩ := h.recorded sb hname
      rw [hrec] at hn
      cases hn

theorem Mirrors.recording_isSome (h : Mirrors s p) :
    p.native.recording.isSome = s.device.mStateRecording.isSome := by
  rw [h.name]
  cases hname : p.name with
  | none => rw [h.idle hname]; rfl
  | some sb =>
      obtain ⟨vs, -, hrec⟩ := h.recorded sb hname
      rw [hrec]
      rfl

/-! ### Setters -/

/-- Where nothing is recorded, a setter that the shadow follows writes its values. -/
theorem set_idle {n : Native} {c : Setter} (hn : n.recording = none) (hf : rt.Follows n c)
    (hc : c.refused = false) :
    rt.set mul n c = { n with cells := write n.cells (ofRuntime c.values) } := by
  rw [Runtime.set, hf.refuses, hc, if_neg Bool.false_ne_true, named_of_accepted hc hf.multiplies]
  dsimp only
  rw [hf.sideEffects hc, hn]

/-- And where a block is recorded, it records them. -/
theorem set_recording {n : Native} {c : Setter} {b : Block} (hn : n.recording = some b)
    (hf : rt.Follows n c) (hc : c.refused = false) (hrec : c.recordable = true) :
    rt.set mul n c = { n with recording := some (b.record (ofRuntime c.values)) } := by
  obtain ⟨hside, hsame⟩ := hf.recorded (by rw [hn]; rfl) hc
  rw [Runtime.set, hf.refuses, hc, if_neg Bool.false_ne_true, named_of_accepted hc hf.multiplies,
    hside, List.append_nil, hn]
  exact if_pos (hsame.trans hrec)

theorem set_refused {n : Native} {c : Setter} (hf : rt.Follows n c) (hc : c.refused = true) :
    rt.set mul n c = n := by
  rw [Runtime.set, hf.refuses, hc, if_pos rfl]

theorem write_ofRuntime {m m' : Cells} (vs : List Value)
    (h : ∀ c : Cell, c.ofRuntime = true → m c = m' c) (c : Cell) (hc : c.ofRuntime = true) :
    write m vs c = write m' (ofRuntime vs) c := (write_filter vs hc (h c hc).symm).symm

theorem mem_ofRuntime {vs : List Value} {w : Value} (hw : w ∈ ofRuntime vs) :
    w ∈ vs ∧ w.1.ofRuntime = true := List.mem_filter.mp hw

/-- What the client sends for a setter. -/
theorem sent_set {c : Setter} {x : Section × LssDevice} (hx : c.call elim mul s.device = some x)
    (hm : c.multiplies = false) :
    sent mul elim s (.set c) = if x.1 = .written then [.set c] else [] := by
  simp [sent, hx, hm]

/-- What setters do to the blocks that are held. -/
theorem Mirrors.held_set (h : Mirrors s p) {c : Setter} {x : Section × LssDevice}
    (hx : c.call elim mul s.device = some x) (sb : Nat) (hsb : sb ∈ s.held) :
    (x.2.blocks sb).content = p.native.blocks sb := by
  have hne : s.device.mStateRecording ≠ some sb := fun hr => (h.inv.recorded sb hr).1 hsb
  rw [(sameBlocks_call hx).other sb hne]
  exact h.held sb hsb

/-- What is redundant for the shadow is there in the runtime. -/
theorem Mirrors.present (h : Mirrors s p) {c : Setter} {x : Section × LssDevice}
    (hJ : Judges s.device c x) (hd : s.device.mStateRecording = none) (hx : x.1 = .redundant) :
    write p.native.cells (ofRuntime c.values) = p.native.cells := by
  refine write_present _ fun w hw => ?_
  obtain ⟨hw, hrt⟩ := mem_ofRuntime hw
  rw [← h.cells w.1 hrt]
  exact hJ.present hx hd w hw hrt

/-- A setter that writes nothing, and that leaves the runtime as it is. -/
theorem Mirrors.set_unwritten (h : Mirrors s p) {c : Setter} {x : Section × LssDevice}
    (hf : rt.Follows p.native c) (hx : c.call elim mul s.device = some x) (hname : p.name = none)
    (hx₁ : x.1 ≠ .written) (hset : rt.set mul p.native c = p.native) :
    Mirrors { s with device := x.2 } (p.call rt mul (.device (.set c))) ∧
      (sent mul elim s (.set c)).foldl (rt.exec mul) p.native =
        (p.call rt mul (.device (.set c))).native := by
  have hJ := judges_call hf.inRegisters hx
  have hcall : p.call rt mul (.device (.set c)) = p := by
    show Direct.mk (rt.set mul p.native c) p.name = p
    rw [hset]
  have hrec : x.2.mStateRecording = p.name := (sameBlocks_call hx).recording.trans h.name
  rw [hcall, sent_set hx hf.multiplies, if_neg hx₁]
  refine ⟨⟨inv_set h.inv hx, fun c' hc' => ?_, hrec, h.idle, fun sb hsb => ?_, h.held_set hx⟩, rfl⟩
  · rw [← h.cells c' hc', (hJ.unwritten hx₁).cells]
  · rw [hname] at hsb
    cases hsb

/-- A setter where nothing is recorded. -/
theorem Mirrors.set_idle (h : Mirrors s p) {c : Setter} {x : Section × LssDevice}
    (hf : rt.Follows p.native c) (hx : c.call elim mul s.device = some x) (hname : p.name = none) :
    Mirrors { s with device := x.2 } (p.call rt mul (.device (.set c))) ∧
      (sent mul elim s (.set c)).foldl (rt.exec mul) p.native =
        (p.call rt mul (.device (.set c))).native := by
  have hd : s.device.mStateRecording = none := h.name.trans hname
  have hJ := judges_call hf.inRegisters hx
  have hset (hc : c.refused = false) : rt.set mul p.native c =
      { p.native with cells := write p.native.cells (ofRuntime c.values) } :=
    Device.set_idle (h.idle hname) hf hc
  cases hx₁ : x.1 with
  | rejected =>
      have hc := hJ.rejected.mp hx₁
      exact h.set_unwritten hf hx hname (by rw [hx₁]; nofun) (set_refused hf hc)
  | redundant =>
      have hc : c.refused = false := Bool.eq_false_iff.mpr fun hc => by
        rw [hJ.rejected.mpr hc] at hx₁
        cases hx₁
      have hwrite := h.present hJ hd hx₁
      exact h.set_unwritten hf hx hname (by rw [hx₁]; nofun) (by rw [hset hc, hwrite])
  | written =>
      have hc : c.refused = false := Bool.eq_false_iff.mpr fun hc => by
        rw [hJ.rejected.mpr hc] at hx₁
        cases hx₁
      have hW := writes_call hd hf.multiplies hf.inRegisters hx
      have hcall : p.call rt mul (.device (.set c)) = ⟨rt.set mul p.native c, p.name⟩ := rfl
      have hrec : x.2.mStateRecording = p.name := (sameBlocks_call hx).recording.trans h.name
      rw [hcall, hset hc, sent_set hx hf.multiplies, if_pos hx₁]
      refine ⟨⟨inv_set h.inv hx, fun c' hc' => ?_, hrec, h.idle, fun sb hsb => ?_,
        h.held_set hx⟩, hset hc⟩
      · dsimp only
        rw [← write_ofRuntime c.values h.cells c' hc', hW.written hx₁]
      · rw [hname] at hsb
        cases hsb

/-- The setters that the runtime does not record. -/
theorem unrecorded_call {d : LssDevice} {c : Setter} {x : Section × LssDevice}
    (hc : c.recorded = false) (h : c.call elim mul d = some x) :
    ∃ m : State, x = (.written, { d with mState := m }) ∧
      m.cells = write d.mState.cells c.values := by
  cases c with
  | SetRenderTarget idx t =>
      obtain ⟨i, hi, rfl⟩ := Option.map_eq_some_iff.mp h
      refine ⟨_, rfl, ?_⟩
      rw [cells_plain _ _ rfl, Setter.values, hi]
      rfl
  | SetDepthStencilSurface z =>
      cases h
      exact ⟨_, rfl, cells_plain _ _ rfl⟩
  | _ => cases hc

theorem set_unrecorded {n : Native} {c : Setter} (hf : rt.Follows n c)
    (hn : n.recording.isSome = true) (hc : c.refused = false) (hrec : c.recorded = false) :
    rt.set mul n c = { n with cells := write n.cells (ofRuntime c.values) } := by
  obtain ⟨b, hb⟩ := Option.isSome_iff_exists.mp hn
  rw [Runtime.set, hf.refuses, hc, if_neg Bool.false_ne_true, named_of_accepted hc hf.multiplies,
    (hf.recorded hn hc).1, List.append_nil, hb, hrec]
  rfl

theorem recordable_of_refused {c : Setter} (hc : c.refused = true) : c.recordable = true := by
  cases c with
  | SetVertexDeclaration | SetRenderTarget | SetDepthStencilSurface => cases hc
  | _ => rfl

/-- While a block is recorded, a setter that writes to the device. -/
theorem Mirrors.set_unrecorded (h : Mirrors s p) {c : Setter} {x : Section × LssDevice} {sb : Nat}
    (hf : rt.Follows p.native c) (hx : c.call elim mul s.device = some x)
    (hname : p.name = some sb) (hc : c.recordable = false) :
    Mirrors { s with device := x.2 } (p.call rt mul (.device (.set c))) ∧
      (sent mul elim s (.set c)).foldl (rt.exec mul) p.native =
        (p.call rt mul (.device (.set c))).native := by
  have hsome : p.native.recording.isSome = true := by
    rw [h.recording_isSome, h.name, hname]
    rfl
  have haccepted : c.refused = false :=
    Bool.eq_false_iff.mpr fun href => by rw [recordable_of_refused href] at hc; cases hc
  have hrec : c.recorded = false := (hf.recorded hsome haccepted).2.trans hc
  have hset : rt.set mul p.native c =
      { p.native with cells := write p.native.cells (ofRuntime c.values) } :=
    Device.set_unrecorded hf hsome haccepted hrec
  have hcall : p.call rt mul (.device (.set c)) = ⟨rt.set mul p.native c, p.name⟩ := rfl
  have hheld := h.held_set hx
  have hinv := inv_set h.inv hx
  rw [hcall, hset, sent_set hx hf.multiplies]
  obtain ⟨m, rfl, hm⟩ := unrecorded_call hrec hx
  rw [if_pos rfl]
  refine ⟨⟨hinv, fun c' hc' => ?_, h.name, h.idle, h.recorded, hheld⟩, hset⟩
  dsimp only
  rw [← write_ofRuntime c.values h.cells c' hc', hm]

/-- While a block is recorded, a setter that is recorded. -/
theorem Mirrors.set_recording (h : Mirrors s p) {c : Setter} {x : Section × LssDevice} {sb : Nat}
    (hf : rt.Follows p.native c) (hx : c.call elim mul s.device = some x)
    (hname : p.name = some sb) (hc : c.recordable = true) :
    Mirrors { s with device := x.2 } (p.call rt mul (.device (.set c))) ∧
      (sent mul elim s (.set c)).foldl (rt.exec mul) p.native =
        (p.call rt mul (.device (.set c))).native := by
  have hd : s.device.mStateRecording = some sb := h.name.trans hname
  obtain ⟨vs, hcopies, hn⟩ := h.recorded sb hname
  have hJ := judges_call hf.inRegisters hx
  have hseen : ∀ i, write s.device.mState.cells vs (.entry (.transforms i)) =
      s.device.currentTransform sb i := by
    intro i
    rw [← hcopies s.device.mState, cells_copyFlagged]
    rfl
  have hR : Records sb (c.named mul (write s.device.mState.cells vs)) s.device x.2 :=
    records_call hd hseen hc hf.inRegisters hx
  have hcopies' := hR.copies vs hcopies
  generalize hws : c.named mul (write s.device.mState.cells vs) = ws at hcopies' hR
  have hset : rt.set mul p.native c = { p.native with
      recording := some (Block.empty.record (ofRuntime (vs ++ ws))) } := by
    rw [ofRuntime, List.filter_append, record_append]
    cases href : c.refused with
    | true =>
        rw [named_of_refused href] at hws
        rw [set_refused hf href, ← hws]
        exact congrArg (fun r => { p.native with recording := r }) hn
    | false =>
        rw [named_of_accepted href hf.multiplies] at hws
        rw [Device.set_recording hn hf href hc, hws]
        rfl
  have hcall : p.call rt mul (.device (.set c)) = ⟨rt.set mul p.native c, p.name⟩ := rfl
  have hrec : x.2.mStateRecording = p.name := (sameBlocks_call hx).recording.trans h.name
  rw [hcall, hset, sent_set hx hf.multiplies]
  refine ⟨⟨inv_set h.inv hx, fun c' hc' => ?_, hrec, fun hnone => ?_, fun sb' hsb' => ?_,
    h.held_set hx⟩, ?_⟩
  · rw [← h.cells c' hc', hR.mState]
  · rw [hname] at hnone
    cases hnone
  · obtain rfl : sb = sb' := Option.some.inj (hname.symm.trans hsb')
    exact ⟨_, hcopies', rfl⟩
  · by_cases hx₁ : x.1 = .written
    · rw [if_pos hx₁]
      exact hset
    · -- what is redundant is in the block already
      have hcontent : Block.empty.record (ofRuntime vs) =
          Block.empty.record (ofRuntime (vs ++ ws)) := by
        rw [← content_of_copies hcopies, ← content_of_copies hcopies',
          (hJ.unwritten hx₁).content sb]
      rw [if_neg hx₁, ← hcontent, ← hn]
      rfl

theorem Mirrors.set (h : Mirrors s p) {c : Setter} {x : Section × LssDevice}
    (hf : rt.Follows p.native c) (hx : c.call elim mul s.device = some x) :
    Mirrors { s with device := x.2 } (p.call rt mul (.device (.set c))) ∧
      (sent mul elim s (.set c)).foldl (rt.exec mul) p.native =
        (p.call rt mul (.device (.set c))).native := by
  cases hname : p.name with
  | none => exact h.set_idle hf hx hname
  | some sb =>
      cases hc : c.recordable with
      | true => exact h.set_recording hf hx hname hc
      | false => exact h.set_unrecorded hf hx hname hc

/-! ### State blocks -/

/-- The call captures, applies or releases the block. -/
def Act.isOf (sb : Nat) : Act → Prop
  | .Capture sb' | .Apply sb' | .ReleaseStateBlock sb' => sb' = sb
  | _ => False

/-- The blocks that are held and that a call is not of. -/
theorem Mirrors.held_other (h : Mirrors s p) {a : Act} (hs : Device.step elim mul s a = some s')
    {sb : Nat} (hsb : sb ∈ s.held) (ha : ¬ a.isOf sb) :
    (s'.device.blocks sb).content = p.native.blocks sb := by
  have hrelease : a ≠ .ReleaseStateBlock sb := by
    rintro rfl
    exact ha rfl
  obtain ⟨-, hsame | ⟨rfl, -⟩ | ⟨rfl, -⟩⟩ := held_step h.inv hsb hrelease hs
  · rw [hsame]
    exact h.held sb hsb
  · exact absurd rfl ha
  · exact absurd rfl ha

theorem Mirrors.beginStateBlock (h : Mirrors s p) {sb : Nat} {m_captureState : State}
    (hs : Device.step elim mul s (.BeginStateBlock sb m_captureState) = some s') :
    Mirrors s' (p.call rt mul (.device (.BeginStateBlock sb m_captureState))) ∧
      (sent mul elim s (.BeginStateBlock sb m_captureState)).foldl (rt.exec mul) p.native =
        (p.call rt mul (.device (.BeginStateBlock sb m_captureState))).native := by
  cases hname : p.name with
  | some sb₀ =>
      have hd : s.device.mStateRecording = some sb₀ := h.name.trans hname
      have hsome : p.native.recording.isSome = true := by rw [h.recording_isSome, hd]; rfl
      have hcall : p.call rt mul (.device (.BeginStateBlock sb m_captureState)) = p := by
        show Direct.mk (if p.native.recording.isSome then _ else _) (p.name.or _) = p
        rw [if_pos hsome, hname, Option.some_or, ← hname]
      have hsame : s' = s := by
        simp only [Device.step, hd, Option.isSome_some, if_true] at hs
        exact (Option.some.inj hs).symm
      rw [hcall, hsame, sent, hd]
      exact ⟨h, rfl⟩
  | none =>
      have hd : s.device.mStateRecording = none := h.name.trans hname
      have hn := h.idle hname
      have hcall : p.call rt mul (.device (.BeginStateBlock sb m_captureState)) =
          ⟨{ p.native with recording := some .empty }, some sb⟩ := by
        show Direct.mk (if p.native.recording.isSome then _ else _) (p.name.or _) = _
        rw [hn, hname]
        rfl
      obtain ⟨hrec, hm, hcopies⟩ := begin_empty hd hs
      have hheld : s'.held = s.held := by
        simp only [Device.step, hd, Option.isSome_none, Bool.false_eq_true, if_false] at hs
        split at hs
        · cases hs
          rfl
        · cases hs
      rw [hcall, sent, hd]
      refine ⟨⟨inv_step h.inv hs, fun c hc => ?_, hrec, fun hnone => ?_, fun sb' hsb' => ?_,
        fun sb' hsb' => ?_⟩, ?_⟩
      · rw [hm]
        exact h.cells c hc
      · exact absurd hnone (Option.some_ne_none sb)
      · obtain rfl : sb = sb' := Option.some.inj hsb'
        exact ⟨[], hcopies, rfl⟩
      · rw [hheld] at hsb'
        exact h.held_other hs hsb' id
      · show (if p.native.recording.isSome then _ else _) = _
        rw [hn]
        rfl

theorem Mirrors.endStateBlock (h : Mirrors s p) {ppSB : Bool}
    (hs : Device.step elim mul s (.EndStateBlock ppSB) = some s') :
    Mirrors s' (p.call rt mul (.device (.EndStateBlock ppSB))) ∧
      (sent mul elim s (.EndStateBlock ppSB)).foldl (rt.exec mul) p.native =
        (p.call rt mul (.device (.EndStateBlock ppSB))).native := by
  have hinv := inv_step h.inv hs
  have hother (sb' : Nat) (hsb' : sb' ∈ s.held) := h.held_other hs hsb' id
  obtain ⟨n, name⟩ := p
  have hd : s.device.mStateRecording = name := h.name
  -- nothing happens where nothing is recorded or there is nowhere to return the block
  have hnothing (hcall : Direct.call rt mul ⟨n, name⟩ (.device (.EndStateBlock ppSB)) = ⟨n, name⟩)
      (hsame : some s = some s') (hsent : sent mul elim s (.EndStateBlock ppSB) = []) :
      Mirrors s' (Direct.call rt mul ⟨n, name⟩ (.device (.EndStateBlock ppSB))) ∧
        (sent mul elim s (.EndStateBlock ppSB)).foldl (rt.exec mul) n =
          (Direct.call rt mul ⟨n, name⟩ (.device (.EndStateBlock ppSB))).native := by
    cases hsame
    rw [hcall, hsent]
    exact ⟨h, rfl⟩
  cases name with
  | none =>
      simp only [Device.step, hd] at hs
      refine hnothing (by cases ppSB <;> rfl) hs ?_
      simp only [sent, hd]
  | some sb =>
      cases ppSB with
      | false =>
          simp only [Device.step, hd, Bool.false_eq_true, if_false] at hs
          refine hnothing rfl hs ?_
          simp only [sent, hd, Bool.false_eq_true, if_false]
      | true =>
          obtain ⟨vs, hcopies, hn⟩ := h.recorded sb rfl
          have hexec : rt.exec mul n (.EndStateBlock sb) =
              { n with
                recording := none
                blocks := Function.update n.blocks sb (Block.empty.record (ofRuntime vs)) } := by
            simp only [Runtime.exec, show n.recording = _ from hn]
          have hcall : Direct.call rt mul ⟨n, some sb⟩ (.device (.EndStateBlock true)) =
              ⟨rt.exec mul n (.EndStateBlock sb), none⟩ := rfl
          simp only [Device.step, hd, if_true, Option.some.injEq] at hs
          subst hs
          rw [hcall, hexec, sent, hd]
          refine ⟨⟨hinv, h.cells, rfl, fun _ => rfl, fun sb' hsb' => ?_, fun sb' hsb' => ?_⟩,
            hexec⟩
          · exact absurd hsb'.symm (Option.some_ne_none sb')
          by_cases he : sb' = sb
          · subst he
            have hplan : (s.device.blocks sb').invalidatePlan.content =
                (s.device.blocks sb').content := rfl
            dsimp only
            rw [Function.update_self, ← content_of_copies hcopies, ← hplan]
            simp [LssDevice.putBlock]
          · dsimp only
            rw [Function.update_of_ne he]
            exact hother sb' ((List.mem_cons.mp hsb').resolve_left he)

theorem localCapture_cells (d : LssDevice) (sb : Nat) :
    (d.localCapture sb).mState.cells = d.mState.cells := by
  have hkeep := cells_insertLights (d.blocks sb).mDirtyFlags d.mState
  simpa [LssDevice.localCapture, LssDevice.putBlock, StateBlock.transfer, StateTransfer] using hkeep

/-- What a block holds after a capture. -/
theorem content_localCapture {d : LssDevice} {sb : Nat} (h : (d.blocks sb).Current) {m : Cells}
    (hm : ∀ c : Cell, c.ofRuntime = true → d.mState.cells c = m c) :
    ((d.localCapture sb).blocks sb).content = fun c =>
      if c.ofRuntime && (d.blocks sb).mDirtyFlags.covers c then some (m c) else none := by
  funext c
  rw [StateBlock.content, localCapture_flags, localCapture_captured h, cells_copyFlagged]
  by_cases hc : (c.ofRuntime && (d.blocks sb).mDirtyFlags.covers c) = true
  · obtain ⟨hrt, hcovers⟩ := Bool.and_eq_true_iff.mp hc
    rw [if_pos hc, if_pos hc, if_pos hcovers, hm c hrt]
  · rw [if_neg hc, if_neg hc]

theorem Mirrors.createStateBlock (h : Mirrors s p) {type : Word} {ppSB : Bool} {sb : Nat}
    {m_captureState : State} (hn : p.native.recording = none)
    (hcaptured : ∀ c : Cell, c.ofRuntime = true →
      rt.captured type c = (StateBlockSetCaptureFlags type .none).covers c)
    (hs : Device.step elim mul s (.CreateStateBlock type ppSB sb m_captureState) = some s') :
    Mirrors s' (p.call rt mul (.device (.CreateStateBlock type ppSB sb m_captureState))) ∧
      (sent mul elim s (.CreateStateBlock type ppSB sb m_captureState)).foldl (rt.exec mul)
        p.native =
        (p.call rt mul (.device (.CreateStateBlock type ppSB sb m_captureState))).native := by
  have hinv := inv_step h.inv hs
  have hother (sb' : Nat) (hsb' : sb' ∈ s.held) := h.held_other hs hsb' id
  have hname := h.name_none hn
  cases ppSB with
  | false =>
      simp only [Device.step, Bool.false_eq_true, if_false, Option.some.injEq] at hs
      subst hs
      exact ⟨h, rfl⟩
  | true =>
      simp only [Device.step, if_true] at hs
      split at hs
      · cases hs
        have hexec : rt.exec mul p.native (.CreateStateBlock type sb) =
            { p.native with blocks := Function.update p.native.blocks sb fun c =>
              if c.ofRuntime && rt.captured type c then some (p.native.cells c) else none } := by
          simp only [Runtime.exec, hn, Option.isSome_none, Bool.false_eq_true, if_false]
        have hcall : p.call rt mul (.device (.CreateStateBlock type true sb m_captureState)) =
            ⟨rt.exec mul p.native (.CreateStateBlock type sb), p.name⟩ := rfl
        rw [hcall, hexec]
        refine ⟨⟨hinv, fun c hc => ?_, h.name, h.idle, fun sb' hsb' => ?_, fun sb' hsb' => ?_⟩,
          hexec⟩
        · rw [localCapture_cells]
          exact h.cells c hc
        · rw [hname] at hsb'
          cases hsb'
        · dsimp only
          by_cases he : sb' = sb
          · subst he
            have hflags : ((s.device.created type sb' m_captureState).blocks sb').mDirtyFlags =
                StateBlockSetCaptureFlags type .none := by
              simp [LssDevice.created, LssDevice.putBlock, StateBlock.invalidatePlan]
            rw [Function.update_self, content_localCapture (created_self _ _ _ _) h.cells, hflags]
            funext c
            by_cases hc : c.ofRuntime = true
            · rw [hcaptured c hc]
            · rw [Bool.eq_false_iff.mpr hc, Bool.false_and, Bool.false_and]
          · rw [Function.update_of_ne he]
            exact hother sb' ((List.mem_cons.mp hsb').resolve_left he)
      · cases hs

theorem Mirrors.capture (h : Mirrors s p) {sb : Nat}
    (hs : Device.step elim mul s (.Capture sb) = some s') :
    Mirrors s' (p.call rt mul (.device (.Capture sb))) ∧
      (sent mul elim s (.Capture sb)).foldl (rt.exec mul) p.native =
        (p.call rt mul (.device (.Capture sb))).native := by
  have hinv := inv_step h.inv hs
  have hcall : p.call rt mul (.device (.Capture sb)) =
      ⟨rt.exec mul p.native (.Capture sb), p.name⟩ := rfl
  have hsome := h.recording_isSome
  simp only [Device.step] at hs
  split at hs
  · rename_i hheld
    cases hd : s.device.mStateRecording.isSome with
    | true =>
        rw [hd] at hsome
        have hexec : rt.exec mul p.native (.Capture sb) = p.native := if_pos hsome
        simp only [hd, if_true, Option.some.injEq] at hs
        subst hs
        rw [hcall, hexec, sent, hd]
        exact ⟨h, rfl⟩
    | false =>
        rw [hd] at hsome
        have hexec : rt.exec mul p.native (.Capture sb) = { p.native with
            blocks := Function.update p.native.blocks sb
              ((p.native.blocks sb).again p.native.cells) } :=
          if_neg (Bool.eq_false_iff.mp hsome)
        have hnone : p.name = none := h.name_none (by simpa using hsome)
        simp only [hd, Bool.false_eq_true, if_false, Option.some.injEq] at hs
        subst hs
        rw [hcall, hexec, sent, hd]
        refine ⟨⟨hinv, fun c hc => ?_, h.name, h.idle, fun sb' hsb' => ?_, fun sb' hsb' => ?_⟩,
          hexec⟩
        · rw [localCapture_cells]
          exact h.cells c hc
        · rw [hnone] at hsb'
          cases hsb'
        · dsimp only
          by_cases he : sb' = sb
          · subst he
            rw [Function.update_self, content_localCapture (h.inv.held sb' hheld) h.cells,
              ← h.held sb' hheld]
            funext c
            rw [Block.again, StateBlock.content]
            split <;> rfl
          · rw [Function.update_of_ne he, localCapture_other _ he]
            exact h.held sb' hsb'
  · cases hs

theorem content_apply (d : LssDevice) (sb : Nat) :
    ((d.apply sb).blocks sb).content = (d.blocks sb).content := by
  funext c
  rw [StateBlock.content, apply_flags, apply_captured]
  rfl

theorem Mirrors.apply (h : Mirrors s p) {sb : Nat} (hn : p.native.recording = none)
    (hs : Device.step elim mul s (.Apply sb) = some s') :
    Mirrors s' (p.call rt mul (.device (.Apply sb))) ∧
      (sent mul elim s (.Apply sb)).foldl (rt.exec mul) p.native =
        (p.call rt mul (.device (.Apply sb))).native := by
  have hinv := inv_step h.inv hs
  have hname := h.name_none hn
  have hcall : p.call rt mul (.device (.Apply sb)) =
      ⟨rt.exec mul p.native (.Apply sb), p.name⟩ := rfl
  have hexec : rt.exec mul p.native (.Apply sb) =
      { p.native with cells := (p.native.blocks sb).over p.native.cells } := by
    simp only [Runtime.exec, hn, Option.isSome_none, Bool.false_eq_true, if_false]
  simp only [Device.step] at hs
  split at hs
  · rename_i hheld
    cases hs
    rw [hcall, hexec]
    refine ⟨⟨hinv, fun c hc => ?_, h.name, h.idle, fun sb' hsb' => ?_, fun sb' hsb' => ?_⟩, hexec⟩
    · dsimp only
      rw [apply_mState (h.inv.held sb hheld), cells_copyFlagged, Block.over, ← h.held sb hheld,
        StateBlock.content, hc, Bool.true_and, h.cells c hc]
      split <;> rfl
    · rw [hname] at hsb'
      cases hsb'
    · dsimp only
      by_cases he : sb' = sb
      · subst he
        rw [content_apply]
        exact h.held sb' hsb'
      · rw [apply_other _ he]
        exact h.held sb' hsb'
  · cases hs

theorem Mirrors.releaseStateBlock (h : Mirrors s p) {sb : Nat}
    (hs : Device.step elim mul s (.ReleaseStateBlock sb) = some s') :
    Mirrors s' (p.call rt mul (.device (.ReleaseStateBlock sb))) := by
  have hinv := inv_step h.inv hs
  have hcall : p.call rt mul (.device (.ReleaseStateBlock sb)) = ⟨{ p.native with
      blocks := Function.update p.native.blocks sb .empty }, p.name⟩ := rfl
  simp only [Device.step] at hs
  split at hs
  · cases hs
    rw [hcall]
    refine ⟨hinv, h.cells, h.name, h.idle, h.recorded, fun sb' hsb' => ?_⟩
    obtain ⟨hheld, he⟩ := List.mem_filter.mp hsb'
    dsimp only
    rw [Function.update_of_ne (of_decide_eq_true he)]
    exact h.held sb' hheld
  · cases hs

/-! ### Runs -/

/-- **A call.**  One that the shadow follows keeps it and the runtime in agreement, and brings the
runtime to where the call itself would. -/
theorem mirrors_step (h : Mirrors s p) {a : Act} (hf : Followed rt p (.device a))
    (hs : Device.step elim mul s a = some s') :
    Mirrors s' (p.call rt mul (.device a)) ∧
      (sent mul elim s a).foldl (rt.exec mul) p.native = (p.call rt mul (.device a)).native := by
  cases a with
  | set c =>
      obtain ⟨x, hx, rfl⟩ := Option.map_eq_some_iff.mp hs
      exact h.set hf hx
  | BeginStateBlock sb m_captureState => exact h.beginStateBlock hs
  | EndStateBlock ppSB => exact h.endStateBlock hs
  | CreateStateBlock type ppSB sb m_captureState => exact h.createStateBlock hf.1 hf.2 hs
  | Capture sb => exact h.capture hs
  | Apply sb => exact h.apply hf hs
  | ReleaseStateBlock sb => exact ⟨h.releaseStateBlock hs, rfl⟩
  | Reset m_state =>
      obtain ⟨hn, hcells⟩ := hf
      have hinv := inv_step h.inv hs
      have hname := h.name_none hn
      cases hs
      refine ⟨⟨hinv, hcells, h.name, fun _ => rfl, fun sb hsb => ?_, h.held⟩, rfl⟩
      rw [show (p.call rt mul (.device (.Reset m_state))).name = p.name from rfl, hname] at hsb
      cases hsb

end step

/-- The client mirrors the runtime that the application would call, and the server is there. -/
structure Agrees (S : System) (p : Direct) : Prop where
  server : S.server = p.native
  client : Mirrors S.client p

theorem agrees_step {rt : Runtime} {elim : Bool} {mul : D3DMATRIX → D3DMATRIX → D3DMATRIX}
    {S S' : System} {p : Direct} {a : Call} (h : Agrees S p) (hf : Followed rt p a)
    (hs : S.step rt mul elim a = some S') : Agrees S' (p.call rt mul a) := by
  obtain ⟨client, server⟩ := S
  obtain ⟨rfl, hclient⟩ := h
  cases a with
  | device a =>
      obtain ⟨client', hstep, rfl⟩ := Option.map_eq_some_iff.mp hs
      obtain ⟨hmirrors, hsent⟩ := mirrors_step hclient hf hstep
      exact ⟨hsent, hmirrors⟩
  | draw k =>
      cases hs
      have hsame : p.call rt mul (.draw k) = p := by
        show Direct.mk { p.native with cells := write p.native.cells k.unsets } p.name = p
        rw [show write p.native.cells k.unsets = p.native.cells from hf]
      have hexec : rt.exec mul p.native (.draw k) = p.native := congrArg Direct.native hsame
      rw [hsame]
      exact ⟨hexec, hclient⟩

/-- **Elimination is transparent.**  In every run of calls that the shadow follows, the server's
runtime is where the calls themselves would have brought it, whether redundant setters are
eliminated or not, and the shadow reads as it does. -/
theorem elimination_transparent (rt : Runtime) (mul : D3DMATRIX → D3DMATRIX → D3DMATRIX)
    (d : LssDevice) {as : List Call}
    (hf : Along (fun p a => some (Direct.call rt mul p a)) (Followed rt) (.init d) as)
    (elim : Bool) {S : System} (hr : run (System.step rt mul elim) (.init d) as = some S) :
    S.server = (as.foldl (Direct.call rt mul) (.init d)).native ∧
      ∀ c : Cell, c.ofRuntime = true → S.client.device.mState.cells c = S.server.cells c := by
  have hinit : Agrees (.init d) (.init d) := ⟨rfl, mirrors_init d⟩
  have hstep : ∀ S p a S', Agrees S p → Followed rt p a → System.step rt mul elim S a = some S' →
      Agrees S' (Direct.call rt mul p a) := fun _ _ _ _ h hf hs => agrees_step h hf hs
  have h := run_refines hstep hinit hf hr
  refine ⟨h.server, fun c hc => ?_⟩
  rw [h.server]
  exact h.client.cells c hc

/-- A runtime that refuses and captures what the client does. -/
def sameRuntime : Runtime where
  refuses := Setter.refused
  declaration := fun _ => some 9
  viewport := fun _ _ => 0
  scissorRect := fun _ _ => 0
  light := fun _ => 1
  captured := fun type => (StateBlockSetCaptureFlags type .none).covers
  cells := State.cleared.cells

/-- A render state, recorded and applied, with redundant calls between. -/
theorem elimination_transparent_recorded : ∃ S,
    run (System.step sameRuntime (fun _ m => m) true) (.init recordingDevice)
      [.device (.set (.SetRenderState 7 1)), .device (.BeginStateBlock 1 .cleared),
        .device (.set (.SetRenderState 7 2)), .device (.set (.SetRenderState 7 2)),
        .device (.EndStateBlock true), .device (.set (.SetRenderState 7 1)),
        .device (.Apply 1), .draw .DrawPrimitive] = some S ∧
      S.server.cells (.entry (.renderStates 7)) = (2 : Word) ∧
      S.client.device.mState.cells (.entry (.renderStates 7)) = (2 : Word) := by
  have hfollows (n : Native) (value : Word) : sameRuntime.Follows n (.SetRenderState 7 value) :=
    ⟨rfl, rfl, trivial, fun _ => congrArg _ (List.append_nil _), fun _ _ => ⟨rfl, rfl⟩⟩
  have hr : run (System.step sameRuntime (fun _ m => m) true) (.init recordingDevice)
      [.device (.set (.SetRenderState 7 1)), .device (.BeginStateBlock 1 .cleared),
        .device (.set (.SetRenderState 7 2)), .device (.set (.SetRenderState 7 2)),
        .device (.EndStateBlock true), .device (.set (.SetRenderState 7 1)),
        .device (.Apply 1), .draw .DrawPrimitive] = some _ := rfl
  have h := elimination_transparent sameRuntime (fun _ m => m) recordingDevice ?_ true hr
  · refine ⟨_, hr, ?_, ?_⟩
    · rw [h.1]
      rfl
    · rw [h.2 _ rfl, h.1]
      rfl
  · refine ⟨hfollows _ 1, ?_⟩
    rintro _ ⟨⟩
    refine ⟨trivial, ?_⟩
    rintro _ ⟨⟩
    refine ⟨hfollows _ 2, ?_⟩
    rintro _ ⟨⟩
    refine ⟨hfollows _ 2, ?_⟩
    rintro _ ⟨⟩
    refine ⟨trivial, ?_⟩
    rintro _ ⟨⟩
    refine ⟨hfollows _ 1, ?_⟩
    rintro _ ⟨⟩
    refine ⟨rfl, ?_⟩
    rintro _ ⟨⟩
    exact ⟨rfl, fun _ _ => trivial⟩

/-- A draw from user memory unsets the first stream, and the buffer that was set to it before is not
set again. -/
example : ∃ S S',
    run (System.step sameRuntime (fun _ m => m) true) (.init recordingDevice)
      [.device (.set (.SetStreamSource 0 (some 5) 0 12)), .draw .DrawPrimitiveUP,
        .device (.set (.SetStreamSource 0 (some 5) 0 12))] = some S ∧
    run (System.step sameRuntime (fun _ m => m) false) (.init recordingDevice)
      [.device (.set (.SetStreamSource 0 (some 5) 0 12)), .draw .DrawPrimitiveUP,
        .device (.set (.SetStreamSource 0 (some 5) 0 12))] = some S' ∧
    S.server.cells (.entry (.streams 0)) = none ∧
    S'.server.cells (.entry (.streams 0)) = some 5 :=
  ⟨_, _, rfl, rfl, rfl, rfl⟩

end RemixBridge.Device
