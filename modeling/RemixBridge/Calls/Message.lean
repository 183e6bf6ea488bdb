import RemixBridge.Channel.DataQueue

/-!
# Calls — Message

What a command of the client carries, and what it means that the server takes it off the ring
again: `Delivers`.
-/

namespace RemixBridge

open DataRing

/-- A client's `Command`: the function it names, its flags, and what it pushes. -/
structure Message where
  command : D3D9Command
  data : List Push
  flags : Nat := 0

/-- The structures that calls are given by pointer. -/
inductive CType where
  | float | D3DCOLOR | RECT | POINT | D3DBOX | D3DMATRIX | D3DVIEWPORT9 | D3DMATERIAL9 | D3DLIGHT9
  | D3DGAMMARAMP | D3DDISPLAYMODEEX | D3DDISPLAYMODEFILTER | D3DDISPLAYROTATION
  | D3DSURFACE_DESC | D3DVOLUME_DESC | D3DVERTEXBUFFER_DESC | D3DINDEXBUFFER_DESC

/-- `sizeof`, the same on both sides. -/
def sizeof : CType → Nat
  | .float                => 4
  | .D3DCOLOR             => 4
  | .RECT                 => 16
  | .POINT                => 8
  | .D3DBOX               => 24
  | .D3DMATRIX            => 64
  | .D3DVIEWPORT9         => 24
  | .D3DMATERIAL9         => 68
  | .D3DLIGHT9            => 104
  | .D3DGAMMARAMP         => 1536
  | .D3DDISPLAYMODEEX     => 24
  | .D3DDISPLAYMODEFILTER => 12
  | .D3DDISPLAYROTATION   => 4
  | .D3DSURFACE_DESC      => 32
  | .D3DVOLUME_DESC       => 28
  | .D3DVERTEXBUFFER_DESC => 24
  | .D3DINDEXBUFFER_DESC  => 20

theorem sizeof_mod (t : CType) : sizeof t = sizeof t % 2 ^ 32 := by
  cases t <;> rfl

/-- What a server does for a command and its flags: the program of pulls, if it has one for the
command, which ends with the call the server makes. -/
abbrev Switch (γ : Type) := ∀ m_size, D3D9Command → Nat → Option (PullM m_size γ)

/-- The same switch, with the calls of another type. -/
def Switch.map {γ δ : Type} (g : γ → δ) (process : Switch γ) : Switch δ :=
  fun m_size command flags => (process m_size command flags).map (g <$> ·)

/-- The cases of one switch and, behind them, those of another. -/
def Switch.or {γ : Type} (process other : Switch γ) : Switch γ := fun m_size command flags =>
  (process m_size command flags).or (other m_size command flags)

/-- On every ring that the message fits, from every position and over whatever the ring held, the
server takes what the message pushed and no more, and makes the call `v`. -/
def Delivers {γ : Type} (process : Switch γ) (msg : Message) (v : γ) : Prop :=
  ∀ m_size a mem, 0 < m_size → FitsLap m_size a msg.data →
    ∃ p, process m_size msg.command msg.flags = some p ∧
      p (store m_size mem (a % m_size) msg.data).1 (a % m_size) =
        (v, (store m_size mem (a % m_size) msg.data).2)

theorem Delivers.of_reads {γ : Type} {process : Switch γ} {msg : Message} {v : γ}
    (h : ∀ m_size mem e, ∃ p, process m_size msg.command msg.flags = some p ∧
      Reads mem e p (dataOf msg.data) v) : Delivers process msg v := by
  intro m_size a mem hn hfit
  obtain ⟨p, hp, hreads⟩ := h m_size (store m_size mem (a % m_size) msg.data).1
    (store m_size mem (a % m_size) msg.data).2
  exact ⟨p, hp, hreads.run hn mem hfit⟩

/-- What a server makes of a message is one call. -/
theorem Delivers.unique {γ : Type} {process : Switch γ} {msg : Message} {v w : γ}
    (hobj : ∀ bytes, Push.obj bytes ∈ msg.data → bytes.length < 2 ^ 32)
    (h : Delivers process msg v) (hw : Delivers process msg w) : v = w := by
  have hroom := Nat.lt_succ_self (space msg.data)
  have hfit := FitsLap.of_room hroom hobj
  obtain ⟨p, hp, hv⟩ := h _ _ (fun _ => 0) (Nat.zero_lt_of_lt hroom) hfit
  obtain ⟨q, hq, hw⟩ := hw _ _ (fun _ => 0) (Nat.zero_lt_of_lt hroom) hfit
  cases hp.symm.trans hq
  exact congrArg Prod.fst (hv.symm.trans hw)

/-- A switch that hands the command to another. -/
theorem delivers_map {γ δ : Type} {process : Switch γ} {outer : Switch δ} {msg : Message} {v : γ}
    {g : γ → δ} (hg : Function.Injective g)
    (houter : ∀ m_size, outer m_size msg.command msg.flags =
      (process m_size msg.command msg.flags).map (g <$> ·)) :
    Delivers outer msg (g v) ↔ Delivers process msg v := by
  constructor
  · intro h m_size a mem hn hfit
    obtain ⟨p, hp, hrun⟩ := h m_size a mem hn hfit
    obtain ⟨q, hq, rfl⟩ := Option.map_eq_some_iff.mp ((houter m_size).symm.trans hp)
    have hfst : g (q _ _).1 = g v := congrArg Prod.fst hrun
    have hsnd := congrArg Prod.snd hrun
    exact ⟨q, hq, Prod.ext (hg hfst) hsnd⟩
  · intro h m_size a mem hn hfit
    obtain ⟨q, hq, hrun⟩ := h m_size a mem hn hfit
    refine ⟨g <$> q, by rw [houter, hq]; rfl, ?_⟩
    show (g (q _ _).1, (q _ _).2) = _
    rw [hrun]

end RemixBridge
