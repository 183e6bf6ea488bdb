import RemixBridge.Calls.ModuleCall
import RemixBridge.Calls.ResponsePayload

/-!
# Calls — AdapterQueries

The adapter queries of `Direct3D9Ex_LSS` (`d3d9_module.cpp`): each goes over the module's bridge, to
a call of the server's runtime and back, unless the client refuses it or finds its answer in a
cache.

The caches are keyed by a hash of the arguments alone, and a cached answer is always `S_OK`.

* `exchange_eq`: a round trip comes to what the runtime answers, by way of both rings.
* `Genuine`: what the caches hold is what the runtime has answered.
* `queries_transparent`: a run of queries gets what the runtime would have returned, as long as the
  runtime refuses what the client does, no hash is met twice, and nobody asks for a LUID.
-/

namespace RemixBridge

open DataRing Runs

/-! ### The queries -/

/-- A query, with its arguments.  A pointer to a result is whether it is null. -/
inductive Query where
  | GetAdapterCount
  | GetAdapterIdentifier (Adapter Flags : Word) (pIdentifierNull : Bool)
  | GetAdapterModeCount (Adapter Format : Word)
  | EnumAdapterModes (Adapter Format Mode : Word) (pModeNull : Bool)
  | GetAdapterDisplayMode (Adapter : Word) (pModeNull : Bool)
  | CheckDeviceType (Adapter CheckType DisplayFormat BackBufferFormat Windowed : Word)
  | CheckDeviceFormat (Adapter DeviceType AdapterFormat Usage RType CheckFormat : Word)
  | CheckDeviceMultiSampleType (Adapter DeviceType SurfaceFormat Windowed MultiSampleType : Word)
      (pQualityLevelsNull : Bool)
  | CheckDepthStencilMatch
      (Adapter DeviceType AdapterFormat RenderTargetFormat DepthStencilFormat : Word)
  | CheckDeviceFormatConversion (Adapter DeviceType SourceFormat TargetFormat : Word)
  | GetDeviceCaps (Adapter DeviceType : Word) (pCapsNull : Bool)
  | GetAdapterMonitor (Adapter : Word)
  | GetAdapterModeCountEx (Adapter : Word) (pFilter : Obj (sizeof .D3DDISPLAYMODEFILTER))
  | EnumAdapterModesEx (Adapter : Word) (pFilter : Obj (sizeof .D3DDISPLAYMODEFILTER))
      (Mode : Word) (pModeNull : Bool)
  | GetAdapterDisplayModeEx (Adapter : Word) (pMode : Obj (sizeof .D3DDISPLAYMODEEX))
      (pRotation : Obj (sizeof .D3DDISPLAYROTATION))
  | GetAdapterLUID (Adapter : Word) (pLUIDNull : Bool)

def DataRing.Obj.isNull {size : Nat} (p : Obj size) : Bool := p.bytes.isEmpty

namespace Query

/-- The call that goes to the server. -/
def call : Query → ModuleCall
  | .GetAdapterCount => .GetAdapterCount
  | .GetAdapterIdentifier Adapter Flags _ => .GetAdapterIdentifier Adapter Flags
  | .GetAdapterModeCount Adapter Format => .GetAdapterModeCount Adapter Format
  | .EnumAdapterModes Adapter Format Mode _ => .EnumAdapterModes Adapter Format Mode
  | .GetAdapterDisplayMode Adapter _ => .GetAdapterDisplayMode Adapter
  | .CheckDeviceType Adapter CheckType DisplayFormat BackBufferFormat Windowed =>
      .CheckDeviceType Adapter CheckType DisplayFormat BackBufferFormat Windowed
  | .CheckDeviceFormat Adapter DeviceType AdapterFormat Usage RType CheckFormat =>
      .CheckDeviceFormat Adapter DeviceType AdapterFormat Usage RType CheckFormat
  | .CheckDeviceMultiSampleType Adapter DeviceType SurfaceFormat Windowed MultiSampleType _ =>
      .CheckDeviceMultiSampleType Adapter DeviceType SurfaceFormat Windowed MultiSampleType
  | .CheckDepthStencilMatch Adapter DeviceType AdapterFormat RenderTargetFormat
      DepthStencilFormat =>
      .CheckDepthStencilMatch Adapter DeviceType AdapterFormat RenderTargetFormat
        DepthStencilFormat
  | .CheckDeviceFormatConversion Adapter DeviceType SourceFormat TargetFormat =>
      .CheckDeviceFormatConversion Adapter DeviceType SourceFormat TargetFormat
  | .GetDeviceCaps Adapter DeviceType _ => .GetDeviceCaps Adapter DeviceType
  | .GetAdapterMonitor Adapter => .GetAdapterMonitor Adapter
  | .GetAdapterModeCountEx Adapter pFilter => .GetAdapterModeCountEx Adapter pFilter
  | .EnumAdapterModesEx Adapter pFilter Mode _ => .EnumAdapterModesEx Adapter pFilter Mode
  | .GetAdapterDisplayModeEx Adapter pMode pRotation =>
      .GetAdapterDisplayModeEx Adapter pMode pRotation
  | .GetAdapterLUID Adapter _ => .GetAdapterLUID Adapter

/-- How the client has the answer. -/
def answered : Query → AnsweredCall
  | .GetAdapterCount => .Module_GetAdapterCount
  | .GetAdapterIdentifier _ _ _ => .Module_GetAdapterIdentifier
  | .GetAdapterModeCount _ _ => .Module_GetAdapterModeCount
  | .EnumAdapterModes _ _ _ pModeNull => .Module_EnumAdapterModes pModeNull
  | .GetAdapterDisplayMode _ pModeNull => .Module_GetAdapterDisplayMode pModeNull
  | .CheckDeviceType _ _ _ _ _ => .hresult .CheckDeviceType
  | .CheckDeviceFormat _ _ _ _ _ _ => .hresult .CheckDeviceFormat
  | .CheckDeviceMultiSampleType _ _ _ _ _ pQualityLevelsNull =>
      .Module_CheckDeviceMultiSampleType pQualityLevelsNull
  | .CheckDepthStencilMatch _ _ _ _ _ => .hresult .CheckDepthStencilMatch
  | .CheckDeviceFormatConversion _ _ _ _ => .hresult .CheckDeviceFormatConversion
  | .GetDeviceCaps _ _ _ => .Module_GetDeviceCaps
  | .GetAdapterMonitor _ => .Module_GetAdapterMonitor
  | .GetAdapterModeCountEx _ _ => .Module_GetAdapterModeCountEx
  | .EnumAdapterModesEx _ _ _ _ => .Module_EnumAdapterModesEx
  | .GetAdapterDisplayModeEx _ _ pRotation => .Module_GetAdapterDisplayModeEx pRotation.isNull
  | .GetAdapterLUID _ _ => .Module_GetAdapterLUID

end Query

/-- The query that the server makes of its runtime, with pointers of its own for the results. -/
def ModuleCall.query : ModuleCall → Option Query
  | .Destroy => none
  | .GetAdapterCount => some .GetAdapterCount
  | .GetAdapterIdentifier Adapter Flags => some (.GetAdapterIdentifier Adapter Flags false)
  | .GetAdapterModeCount Adapter Format => some (.GetAdapterModeCount Adapter Format)
  | .EnumAdapterModes Adapter Format Mode => some (.EnumAdapterModes Adapter Format Mode false)
  | .GetAdapterDisplayMode Adapter => some (.GetAdapterDisplayMode Adapter false)
  | .CheckDeviceType Adapter CheckType DisplayFormat BackBufferFormat Windowed =>
      some (.CheckDeviceType Adapter CheckType DisplayFormat BackBufferFormat Windowed)
  | .CheckDeviceFormat Adapter DeviceType AdapterFormat Usage RType CheckFormat =>
      some (.CheckDeviceFormat Adapter DeviceType AdapterFormat Usage RType CheckFormat)
  | .CheckDeviceMultiSampleType Adapter DeviceType SurfaceFormat Windowed MultiSampleType =>
      some (.CheckDeviceMultiSampleType Adapter DeviceType SurfaceFormat Windowed MultiSampleType
        false)
  | .CheckDepthStencilMatch Adapter DeviceType AdapterFormat RenderTargetFormat
      DepthStencilFormat =>
      some (.CheckDepthStencilMatch Adapter DeviceType AdapterFormat RenderTargetFormat
        DepthStencilFormat)
  | .CheckDeviceFormatConversion Adapter DeviceType SourceFormat TargetFormat =>
      some (.CheckDeviceFormatConversion Adapter DeviceType SourceFormat TargetFormat)
  | .GetDeviceCaps Adapter DeviceType => some (.GetDeviceCaps Adapter DeviceType false)
  | .GetAdapterMonitor Adapter => some (.GetAdapterMonitor Adapter)
  | .GetAdapterModeCountEx Adapter pFilter => some (.GetAdapterModeCountEx Adapter pFilter)
  | .EnumAdapterModesEx Adapter pFilter Mode =>
      some (.EnumAdapterModesEx Adapter pFilter Mode false)
  | .GetAdapterDisplayModeEx Adapter pMode pRotation =>
      some (.GetAdapterDisplayModeEx Adapter pMode pRotation)
  | .GetAdapterLUID Adapter => some (.GetAdapterLUID Adapter false)

/-- The same query with the server's pointers. -/
def Query.given : Query → Query
  | .GetAdapterIdentifier Adapter Flags _ => .GetAdapterIdentifier Adapter Flags false
  | .EnumAdapterModes Adapter Format Mode _ => .EnumAdapterModes Adapter Format Mode false
  | .GetAdapterDisplayMode Adapter _ => .GetAdapterDisplayMode Adapter false
  | .CheckDeviceMultiSampleType Adapter DeviceType SurfaceFormat Windowed MultiSampleType _ =>
      .CheckDeviceMultiSampleType Adapter DeviceType SurfaceFormat Windowed MultiSampleType false
  | .GetDeviceCaps Adapter DeviceType _ => .GetDeviceCaps Adapter DeviceType false
  | .EnumAdapterModesEx Adapter pFilter Mode _ => .EnumAdapterModesEx Adapter pFilter Mode false
  | .GetAdapterLUID Adapter _ => .GetAdapterLUID Adapter false
  | q => q

theorem Query.query_call (q : Query) : q.call.query = some q.given := by
  cases q <;> rfl

/-! ### The runtime -/

/-- The server's runtime, which answers a query always alike.  `CheckDeviceMultiSampleType` may leave
its quality levels as they are; the number of its answer is then what the server's variable has. -/
structure Direct3D where
  answer : Query → Runtime
  writesQualityLevels : Query → Bool

/-- A structure that the runtime writes. -/
def Runtime.struct (rt : Runtime) (t : OutType) (pointerNull : Bool) : Returned :=
  ⟨rt.hresult,
    if SUCCEEDED rt.hresult ∧ pointerNull = false then [(rt.out t).bytes.take t.clientSize] else []⟩

/-- What the runtime returns for a query, and writes through its pointers. -/
def Direct3D.direct (d3d : Direct3D) (q : Query) : Returned :=
  let rt := d3d.answer q
  match q with
  | .GetAdapterCount | .GetAdapterModeCount _ _ | .GetAdapterMonitor _
  | .GetAdapterModeCountEx _ _ => ⟨rt.number, []⟩
  | .CheckDeviceType _ _ _ _ _ | .CheckDeviceFormat _ _ _ _ _ _ | .CheckDepthStencilMatch _ _ _ _ _
  | .CheckDeviceFormatConversion _ _ _ _ => ⟨rt.hresult, []⟩
  | .CheckDeviceMultiSampleType _ _ _ _ _ pQualityLevelsNull =>
      ⟨rt.hresult, if pQualityLevelsNull = false ∧ d3d.writesQualityLevels q = true then
        [wordBytes rt.number] else []⟩
  | .GetAdapterIdentifier _ _ pIdentifierNull => rt.struct .D3DADAPTER_IDENTIFIER9 pIdentifierNull
  | .EnumAdapterModes _ _ _ pModeNull => rt.struct .D3DDISPLAYMODE pModeNull
  | .GetAdapterDisplayMode _ pModeNull => rt.struct .D3DDISPLAYMODE pModeNull
  | .GetDeviceCaps _ _ pCapsNull => rt.struct .D3DCAPS9 pCapsNull
  | .EnumAdapterModesEx _ _ _ pModeNull => rt.struct .D3DDISPLAYMODEEX pModeNull
  | .GetAdapterDisplayModeEx _ pMode pRotation =>
      ⟨rt.hresult,
        (rt.struct .D3DDISPLAYMODEEX pMode.isNull).written ++
          (rt.struct .D3DDISPLAYROTATION pRotation.isNull).written⟩
  | .GetAdapterLUID _ pLUIDNull => rt.struct .LUID pLUIDNull

/-! ### The round trip -/

/-- The data rings of the module's bridge, with room for any request and any answer, and what the
server makes of a filter. -/
structure ModuleBridge where
  requestSize : Nat
  responseSize : Nat
  request_room : 64 ≤ requestSize
  response_room : 2048 ≤ responseSize
  m_data : Nat
  ScanLineOrdering : Word

/-- The ring from the client to the server. -/
structure RequestRing where
  mem : Memory
  clientPos : Nat
  serverPos : Nat

structure Rings where
  requests : RequestRing
  responses : ResponseRing

section roundTrip

variable (b : ModuleBridge) (d3d : Direct3D)

/-- The client pushes a request, the server pulls it, asks its runtime and pushes the answer, and the
client pulls that. -/
def exchange (r : Rings) (q : Query) : Rings × Option Returned :=
  let sent := store b.requestSize r.requests.mem r.requests.clientPos q.call.message.data
  match ModuleCall.switch b.m_data b.ScanLineOrdering b.requestSize q.call.message.command
      q.call.message.flags with
  | none => (r, none)
  | some p =>
      let pulled := p sent.1 r.requests.serverPos
      match pulled.1.query with
      | none => (r, none)
      | some made =>
          let rt := d3d.answer made
          (⟨⟨sent.1, sent.2, pulled.2⟩, r.responses.next b.responseSize q.answered rt⟩,
            (r.responses.answer b.responseSize q.answered rt).returned)

end roundTrip

/-- Either side is behind the last message in both rings. -/
structure Rings.InStep (b : ModuleBridge) (r : Rings) : Prop where
  requests : r.requests.clientPos < b.requestSize ∧ r.requests.serverPos = r.requests.clientPos
  responses : r.responses.InStep b.responseSize

/-! ### A message fits from every position -/

/-- The words that a pull may take, where it rolls over. -/
def DataRing.Pull.reach : Pull → Nat
  | .word     => 1
  | .obj size => 1 + 2 * chunkSize size

def reach (ps : List Push) : Nat := ((dataOf ps).map fun d => d.pull.reach).sum

theorem objStart_le {m_size : Nat} (a size : Nat) :
    objStart m_size a size ≤ a + chunkSize size := by
  unfold objStart
  split
  · next hroll =>
      have hdiv := Nat.div_add_mod a m_size
      rw [Nat.mul_add, Nat.mul_one]
      omega
  · exact Nat.le_add_right a _

theorem pullsAbs_le_reach {m_size : Nat} (a : Nat) (ds : List Datum) :
    pullsAbs m_size a (ds.map Datum.pull) ≤ a + (ds.map fun d => d.pull.reach).sum := by
  induction ds generalizing a with
  | nil => exact Nat.le_refl a
  | cons d ds ih =>
      have hpull : pullAbs m_size a d.pull ≤ a + d.pull.reach := by
        cases d with
        | word w => exact Nat.le_refl _
        | obj bytes =>
            have hstart : objStart m_size (a + 1) bytes.length ≤ _ :=
              objStart_le (a + 1) bytes.length
            simp only [Datum.pull, pullAbs, Pull.reach]
            omega
      rw [List.map_cons, List.map_cons, List.sum_cons]
      refine (ih (pullAbs m_size a d.pull)).trans ?_
      omega

theorem DataRing.FitsLap.of_reach {m_size a : Nat} {ps : List Push} (hreach : reach ps ≤ m_size)
    (hobj : ∀ bytes, Push.obj bytes ∈ ps → bytes.length < 2 ^ 32) : FitsLap m_size a ps where
  obj bytes hb := by
    have hmem : 1 + 2 * chunkSize bytes.length ∈ (dataOf ps).map fun d => d.pull.reach :=
      List.mem_map.mpr ⟨.obj bytes, List.mem_flatMap.mpr ⟨_, hb, List.mem_singleton.mpr rfl⟩, rfl⟩
    have hle : 1 + 2 * chunkSize bytes.length ≤ reach ps := List.le_sum_of_mem hmem
    exact ⟨by omega, hobj bytes hb⟩
  lap := (pullsAbs_le_reach a (dataOf ps)).trans (Nat.add_le_add_left hreach a)

theorem reach_cons (p : Push) (ps : List Push) : reach (p :: ps) = reach [p] + reach ps := by
  rw [reach, ← List.singleton_append, dataOf_append, List.map_append, List.sum_append]
  rfl

theorem reach_obj (bytes : List Byte) : reach [.obj bytes] = 1 + 2 * chunkSize bytes.length := rfl

theorem reach_sendObj {size : Nat} (len : Nat) (p : Obj size) :
    reach [sendObj len p] ≤ 1 + 2 * chunkSize size := by
  have hlen : (p.bytes.take len).length ≤ size := by
    rcases p.length with hp | hp
    · rw [hp, List.take_nil]
      exact Nat.zero_le size
    · exact (List.length_take_le' len p.bytes).trans hp.le
  rw [sendObj, reach_obj]
  unfold chunkSize
  omega

theorem reach_request (q : Query) : reach q.call.message.data ≤ 64 := by
  cases q
  case GetAdapterModeCountEx Adapter pFilter =>
    have hfilter := reach_sendObj (sizeof .D3DDISPLAYMODEFILTER) pFilter
    change reach [.word Adapter, _] ≤ 64
    rw [reach_cons]
    exact (Nat.add_le_add_left hfilter 1).trans (by decide)
  case EnumAdapterModesEx Adapter pFilter Mode pModeNull =>
    have hfilter := reach_sendObj (sizeof .D3DDISPLAYMODEFILTER) pFilter
    change reach [.word Adapter, .word Mode, _] ≤ 64
    rw [reach_cons, reach_cons]
    exact (Nat.add_le_add_left (Nat.add_le_add_left hfilter 1) 1).trans (by decide)
  case GetAdapterDisplayModeEx Adapter pMode pRotation =>
    have hmode := reach_sendObj (sizeof .D3DDISPLAYMODEEX) pMode
    have hrotation := reach_sendObj (sizeof .D3DDISPLAYROTATION) pRotation
    change reach [.word Adapter, _, _] ≤ 64
    rw [reach_cons, reach_cons (sendObj _ pMode)]
    exact (Nat.add_le_add_left (Nat.add_le_add hmode hrotation) 1).trans (by decide)
  -- the others are words, and no more than six
  all_goals exact Nat.le_of_ble_eq_true rfl

theorem length_request (q : Query) :
    ∀ bytes, Push.obj bytes ∈ q.call.message.data → bytes.length < 2 ^ 32 := by
  intro bytes hb
  cases q
  case GetAdapterModeCountEx Adapter pFilter =>
    rcases List.mem_cons.mp hb with hword | hobj
    · cases hword
    · cases List.mem_singleton.mp hobj
      exact pFilter.length_take_lt _
  case EnumAdapterModesEx Adapter pFilter Mode pModeNull =>
    rcases List.mem_cons.mp hb with hword | hb
    · cases hword
    · rcases List.mem_cons.mp hb with hword | hobj
      · cases hword
      · cases List.mem_singleton.mp hobj
        exact pFilter.length_take_lt _
  case GetAdapterDisplayModeEx Adapter pMode pRotation =>
    rcases List.mem_cons.mp hb with hword | hb
    · cases hword
    · rcases List.mem_cons.mp hb with hmode | hobj
      · cases hmode
        exact pMode.length_take_lt _
      · cases List.mem_singleton.mp hobj
        exact pRotation.length_take_lt _
  case GetAdapterCount => cases hb
  all_goals cases List.mem_singleton.mp hb

theorem fits_request (b : ModuleBridge) (q : Query) (a : Nat) :
    FitsLap b.requestSize a q.call.message.data :=
  .of_reach ((reach_request q).trans b.request_room) (length_request q)

/-- No structure is more than an adapter's identifier. -/
theorem serverSize_le (t : OutType) : t.serverSize ≤ 1104 := by
  cases t <;> decide

theorem reach_structs (rt : Runtime) (ts : List OutType) :
    reach (ts.map fun t => .obj (rt.out t).bytes) ≤ 553 * ts.length := by
  induction ts with
  | nil => exact Nat.zero_le _
  | cons t ts ih =>
      have hsize := serverSize_le t
      rw [List.map_cons, reach_cons, reach_obj, (rt.out t).length, List.length_cons]
      unfold chunkSize
      omega

theorem reach_sendStructs (rt : Runtime) (ts : List OutType) :
    reach (sendStructs rt ts) ≤ 1 + 553 * ts.length := by
  unfold sendStructs
  rw [reach_cons]
  refine Nat.add_le_add_left ?_ 1
  split
  · exact reach_structs rt ts
  · exact Nat.zero_le _

theorem length_sendStructs (rt : Runtime) (ts : List OutType) :
    ∀ bytes, Push.obj bytes ∈ sendStructs rt ts → bytes.length < 2 ^ 32 := by
  intro bytes hb
  rcases List.mem_cons.mp hb with hword | hb
  · cases hword
  · split at hb
    · obtain ⟨t, -, hobj⟩ := List.mem_map.mp hb
      cases hobj
      rw [(rt.out t).length]
      exact (serverSize_le t).trans_lt (by decide)
    · cases hb

theorem fits_response (b : ModuleBridge) (q : Query) (rt : Runtime) (a : Nat) :
    FitsLap b.responseSize a (q.answered.respond rt) := by
  have hroom := b.response_room
  have hstructs (ts : List OutType) (hlen : ts.length ≤ 2) :
      FitsLap b.responseSize a (sendStructs rt ts) :=
    .of_reach ((reach_sendStructs rt ts).trans (by omega)) (length_sendStructs rt ts)
  have hstruct (t : OutType) : FitsLap b.responseSize a (sendStructs rt [t]) :=
    hstructs [t] (Nat.le_succ 1)
  have hword (w : Word) : FitsLap b.responseSize a [.word w] :=
    .of_reach (Nat.le_trans (Nat.le_of_ble_eq_true rfl : 1 ≤ 2048) hroom) fun bytes hb => by
      cases List.mem_singleton.mp hb
  cases q
  case CheckDeviceMultiSampleType =>
    refine .of_reach (Nat.le_trans (Nat.le_of_ble_eq_true rfl : 2 ≤ 2048) hroom) fun bytes hb => ?_
    rcases List.mem_cons.mp hb with hword | hb
    · cases hword
    · cases List.mem_singleton.mp hb
  case GetAdapterDisplayModeEx Adapter pMode pRotation =>
    change FitsLap _ a ((AnsweredCall.Module_GetAdapterDisplayModeEx pRotation.isNull).respond rt)
    cases pRotation.isNull with
    | false => exact hstructs [_, _] (Nat.le_refl 2)
    | true =>
        have hmode := reach_sendStructs rt [.D3DDISPLAYMODEEX]
        refine .of_reach ?_ fun bytes hb => ?_
        · change reach (sendStructs rt [.D3DDISPLAYMODEEX] ++ _) ≤ _
          rw [reach, dataOf_append, List.map_append, List.sum_append]
          have hrotation : reach (if SUCCEEDED rt.hresult then [.obj []] else []) ≤ 1 := by
            split
            · exact Nat.le_refl 1
            · exact Nat.zero_le 1
          exact (Nat.add_le_add hmode hrotation).trans (Nat.le_trans (by decide) hroom)
        · rcases List.mem_append.mp hb with hmode | hnull
          · exact length_sendStructs rt _ bytes hmode
          · split at hnull
            · cases List.mem_singleton.mp hnull
              decide
            · cases hnull
  all_goals first
    | exact hword _
    | exact hstruct _

/-! ### What a round trip comes to -/

section exchange

variable {b : ModuleBridge} (d3d : Direct3D) {r : Rings}

theorem not_dropsData (q : Query) (rt : Runtime) : ¬q.answered.DropsData rt := by
  cases q <;> exact id

/-- The rings behind a request that the server has taken for `made`. -/
theorem exchange_made {q : Query} (made : Query) (h : r.InStep b)
    (hpull : ∃ p, ModuleCall.switch b.m_data b.ScanLineOrdering b.requestSize q.call.message.command
        q.call.message.flags = some p ∧
      p (store b.requestSize r.requests.mem r.requests.clientPos q.call.message.data).1
          r.requests.clientPos =
        (made.call, (store b.requestSize r.requests.mem r.requests.clientPos
          q.call.message.data).2)) (hgiven : made.given = made) :
    (exchange b d3d r q).2 = q.answered.returned (d3d.answer made) ∧
      (exchange b d3d r q).1.InStep b := by
  obtain ⟨p, hp, hpulled⟩ := hpull
  obtain ⟨hagrees, hnext⟩ := h.responses.agrees
    (fits_response b q (d3d.answer made) r.responses.serverPos) (not_dropsData q _)
  have hpos := fitsLap_pos_lt (fits_request b q r.requests.clientPos)
    (Nat.zero_lt_of_lt h.requests.1) r.requests.mem
  rw [Nat.mod_eq_of_lt h.requests.1] at hpos
  have hquery := made.query_call
  rw [hgiven] at hquery
  unfold exchange
  simp only [hp, h.requests.2, hpulled, hquery]
  exact ⟨hagrees.1, ⟨⟨hpos, rfl⟩, hnext⟩⟩

/-- **A round trip**, which asks the runtime with the server's own pointers. -/
theorem exchange_eq {q : Query} (h : r.InStep b) (hq : q.call.Sound) :
    (exchange b d3d r q).2 = q.answered.returned (d3d.answer q.given) ∧
      (exchange b d3d r q).1.InStep b := by
  have hdelivers : Delivers (ModuleCall.switch b.m_data b.ScanLineOrdering) q.call.message q.call :=
    (ModuleCall.delivers_iff q.call).mpr hq
  obtain ⟨p, hp, hpulled⟩ := hdelivers b.requestSize r.requests.clientPos r.requests.mem
    (Nat.zero_lt_of_lt h.requests.1) (fits_request b q _)
  rw [Nat.mod_eq_of_lt h.requests.1] at hpulled
  have hcall : q.given.call = q.call := by cases q <;> rfl
  have hgiven : q.given.given = q.given := by cases q <;> rfl
  exact exchange_made d3d q.given h ⟨p, hp, hcall.symm ▸ hpulled⟩ hgiven

/-- The server makes up a filter, and is behind the client's. -/
theorem pulls_modeCountEx (m_data : Nat) (ScanLineOrdering : Word) {m_size m_pos e : Nat}
    {Adapter : Word} {mem : Memory} {bytes : List Byte}
    (h : Holds m_size mem m_pos [.word Adapter, .obj bytes] e) :
    ∃ filter, (ModuleCall.pullModeCountEx m_data ScanLineOrdering : PullM m_size _) mem m_pos =
      (.GetAdapterModeCountEx Adapter filter, e) := by
  obtain ⟨rfl, ⟨hsize, -⟩, rfl⟩ := h
  have hend := congrArg
    (fun len => ensureSpace m_size (pop m_size (pop m_size m_pos)) len + chunkSize len) hsize
  exact ⟨_, Prod.ext rfl hend⟩

theorem exchange_modeCountEx (Adapter : Word) (pFilter : Obj (sizeof .D3DDISPLAYMODEFILTER))
    (h : r.InStep b) : ∃ filter,
      (exchange b d3d r (.GetAdapterModeCountEx Adapter pFilter)).2 =
        some ⟨(d3d.answer (.GetAdapterModeCountEx Adapter filter)).number, []⟩ ∧
      (exchange b d3d r (.GetAdapterModeCountEx Adapter pFilter)).1.InStep b := by
  have hholds := holds_store (Nat.zero_lt_of_lt h.requests.1) r.requests.mem
    (fits_request b (.GetAdapterModeCountEx Adapter pFilter) r.requests.clientPos)
  rw [Nat.mod_eq_of_lt h.requests.1] at hholds
  obtain ⟨filter, hpulled⟩ := pulls_modeCountEx b.m_data b.ScanLineOrdering hholds
  exact ⟨filter, exchange_made d3d (.GetAdapterModeCountEx Adapter filter) h
    ⟨_, rfl, hpulled⟩ rfl⟩

end exchange

/-! ### The client -/

/-- `hash_combine`, of a `size_t` of 32 bits, with `std::hash` of a value of 4 bytes. -/
def hash_combine (hash : Word → Word) (seed v : Word) : Word :=
  seed ^^^ (hash v + 0x9e3779b9 + (seed <<< 6) + (seed >>> 2))

def GET_HASH (hash : Word → Word) (args : List Word) : Word := args.foldl (hash_combine hash) 0

/-- The caches of structures. -/
inductive StructCache where
  | m_adapterIdentifiers | m_enumAdapterMode | m_adapterDisplayMode | m_deviceCaps
  deriving DecidableEq

def StructCache.type : StructCache → OutType
  | .m_adapterIdentifiers => .D3DADAPTER_IDENTIFIER9
  | .m_enumAdapterMode    => .D3DDISPLAYMODE
  | .m_adapterDisplayMode => .D3DDISPLAYMODE
  | .m_deviceCaps         => .D3DCAPS9

/-- What a cache has under a key, and the query that it was put there for. -/
structure Entry (α : Type) where
  query : Query
  value : α

structure Direct3D9Ex_LSS where
  rings : Rings
  m_adapterCount : Word := 0
  m_adapterModeCount : Word → Option (Entry Word) := fun _ => none
  structs : StructCache → Word → Option (Entry (List Byte)) := fun _ _ => none

/-- A call that the client refuses. -/
def invalidCall : Returned := ⟨D3DERR_INVALIDCALL, []⟩

def D3DMULTISAMPLE_16_SAMPLES : Int := 16

namespace Direct3D9Ex_LSS

section client

variable (b : ModuleBridge) (hash : Word → Word) (d3d : Direct3D) (s : Direct3D9Ex_LSS)

/-- An adapter is out of the range of the count, if that is cached. -/
def refuses (Adapter : Word) : Bool :=
  decide (s.m_adapterCount ≠ 0 ∧ s.m_adapterCount ≤ Adapter)

/-- The command, and the wait for the response. -/
def ask (q : Query) : Direct3D9Ex_LSS × Option Returned :=
  ({ s with rings := (exchange b d3d s.rings q).1 }, (exchange b d3d s.rings q).2)

def GetAdapterCount : Direct3D9Ex_LSS × Option Returned :=
  if s.m_adapterCount ≠ 0 then (s, some ⟨s.m_adapterCount, []⟩)
  else
    let (s, r) := s.ask b d3d .GetAdapterCount
    ({ s with m_adapterCount := r.elim 0 (·.value) }, r)

/-- A structure that was copied is in the cache from then on. -/
def keep (cache : StructCache) (key : Word) (q : Query) : Option Returned → Direct3D9Ex_LSS
  | some ⟨_, [obj]⟩ =>
      { s with
        structs := Function.update s.structs cache
          (Function.update (s.structs cache) key (some ⟨q, obj⟩)) }
  | _ => s

/-- A query for a structure that may be in a cache, once it is not refused. -/
def cachedStruct (cache : StructCache) (key : Word) (q : Query) (pointerNull : Bool) :
    Direct3D9Ex_LSS × Option Returned :=
  match s.structs cache key with
  | some e => (s, if pointerNull then none else some ⟨S_OK, [e.value]⟩)
  | none =>
      let (s, r) := s.ask b d3d q
      (s.keep cache key q.given r, r)

def GetAdapterIdentifier (Adapter Flags : Word) (pIdentifierNull : Bool) :
    Direct3D9Ex_LSS × Option Returned :=
  if pIdentifierNull then (s, some invalidCall)
  else if s.refuses Adapter then (s, some invalidCall)
  else s.cachedStruct b d3d .m_adapterIdentifiers (GET_HASH hash [Adapter, Flags])
    (.GetAdapterIdentifier Adapter Flags pIdentifierNull) false

def GetAdapterModeCount (Adapter Format : Word) : Direct3D9Ex_LSS × Option Returned :=
  if s.refuses Adapter then (s, some ⟨0, []⟩)
  else
    let key := GET_HASH hash [Adapter, Format]
    match s.m_adapterModeCount key with
    | some e => (s, some ⟨e.value, []⟩)
    | none =>
        let q := .GetAdapterModeCount Adapter Format
        let (s, r) := s.ask b d3d q
        ({ s with
            m_adapterModeCount :=
              Function.update s.m_adapterModeCount key (r.map fun r => ⟨q, r.value⟩) }, r)

def EnumAdapterModes (Adapter Format Mode : Word) (pModeNull : Bool) :
    Direct3D9Ex_LSS × Option Returned :=
  if s.refuses Adapter then (s, some invalidCall)
  else s.cachedStruct b d3d .m_enumAdapterMode (GET_HASH hash [Adapter, Format, Mode])
    (.EnumAdapterModes Adapter Format Mode pModeNull) pModeNull

def GetAdapterDisplayMode (Adapter : Word) (pModeNull : Bool) :
    Direct3D9Ex_LSS × Option Returned :=
  if s.refuses Adapter then (s, some invalidCall)
  else s.cachedStruct b d3d .m_adapterDisplayMode Adapter
    (.GetAdapterDisplayMode Adapter pModeNull) pModeNull

/-- A query that only the count of adapters may refuse. -/
def checked (Adapter : Word) (q : Query) : Direct3D9Ex_LSS × Option Returned :=
  if s.refuses Adapter then (s, some invalidCall) else s.ask b d3d q

def CheckDeviceType (Adapter CheckType DisplayFormat BackBufferFormat Windowed : Word) :
    Direct3D9Ex_LSS × Option Returned :=
  s.checked b d3d Adapter
    (.CheckDeviceType Adapter CheckType DisplayFormat BackBufferFormat Windowed)

def CheckDeviceFormat (Adapter DeviceType AdapterFormat Usage RType CheckFormat : Word) :
    Direct3D9Ex_LSS × Option Returned :=
  s.checked b d3d Adapter
    (.CheckDeviceFormat Adapter DeviceType AdapterFormat Usage RType CheckFormat)

def CheckDeviceMultiSampleType
    (Adapter DeviceType SurfaceFormat Windowed MultiSampleType : Word)
    (pQualityLevelsNull : Bool) : Direct3D9Ex_LSS × Option Returned :=
  if s.refuses Adapter then (s, some invalidCall)
  else if MultiSampleType.toInt > D3DMULTISAMPLE_16_SAMPLES then (s, some invalidCall)
  else s.ask b d3d (.CheckDeviceMultiSampleType Adapter DeviceType SurfaceFormat Windowed
    MultiSampleType pQualityLevelsNull)

def CheckDepthStencilMatch
    (Adapter DeviceType AdapterFormat RenderTargetFormat DepthStencilFormat : Word) :
    Direct3D9Ex_LSS × Option Returned :=
  s.checked b d3d Adapter (.CheckDepthStencilMatch Adapter DeviceType AdapterFormat
    RenderTargetFormat DepthStencilFormat)

def CheckDeviceFormatConversion (Adapter DeviceType SourceFormat TargetFormat : Word) :
    Direct3D9Ex_LSS × Option Returned :=
  s.checked b d3d Adapter
    (.CheckDeviceFormatConversion Adapter DeviceType SourceFormat TargetFormat)

def GetDeviceCaps (Adapter DeviceType : Word) (pCapsNull : Bool) :
    Direct3D9Ex_LSS × Option Returned :=
  if pCapsNull then (s, some invalidCall)
  else if s.refuses Adapter then (s, some invalidCall)
  else s.cachedStruct b d3d .m_deviceCaps (GET_HASH hash [Adapter, DeviceType])
    (.GetDeviceCaps Adapter DeviceType pCapsNull) false

def GetAdapterMonitor (Adapter : Word) : Direct3D9Ex_LSS × Option Returned :=
  s.ask b d3d (.GetAdapterMonitor Adapter)

/-- The refusal is an `HRESULT` here as well, in the place of a count. -/
def GetAdapterModeCountEx (Adapter : Word) (pFilter : Obj (sizeof .D3DDISPLAYMODEFILTER)) :
    Direct3D9Ex_LSS × Option Returned :=
  s.checked b d3d Adapter (.GetAdapterModeCountEx Adapter pFilter)

def EnumAdapterModesEx (Adapter : Word) (pFilter : Obj (sizeof .D3DDISPLAYMODEFILTER))
    (Mode : Word) (pModeNull : Bool) : Direct3D9Ex_LSS × Option Returned :=
  if s.refuses Adapter then (s, some invalidCall)
  else if pFilter.isNull ∨ pModeNull then (s, some invalidCall)
  else s.ask b d3d (.EnumAdapterModesEx Adapter pFilter Mode pModeNull)

def GetAdapterDisplayModeEx (Adapter : Word) (pMode : Obj (sizeof .D3DDISPLAYMODEEX))
    (pRotation : Obj (sizeof .D3DDISPLAYROTATION)) : Direct3D9Ex_LSS × Option Returned :=
  if s.refuses Adapter then (s, some invalidCall)
  else if pMode.isNull then (s, some invalidCall)
  else s.ask b d3d (.GetAdapterDisplayModeEx Adapter pMode pRotation)

def GetAdapterLUID (Adapter : Word) (pLUIDNull : Bool) : Direct3D9Ex_LSS × Option Returned :=
  if pLUIDNull then (s, some invalidCall)
  else s.ask b d3d (.GetAdapterLUID Adapter pLUIDNull)

/-- A query by the application; `none` where it ends the client. -/
def query : Query → Direct3D9Ex_LSS × Option Returned
  | .GetAdapterCount => s.GetAdapterCount b d3d
  | .GetAdapterIdentifier Adapter Flags pIdentifierNull =>
      s.GetAdapterIdentifier b hash d3d Adapter Flags pIdentifierNull
  | .GetAdapterModeCount Adapter Format => s.GetAdapterModeCount b hash d3d Adapter Format
  | .EnumAdapterModes Adapter Format Mode pModeNull =>
      s.EnumAdapterModes b hash d3d Adapter Format Mode pModeNull
  | .GetAdapterDisplayMode Adapter pModeNull => s.GetAdapterDisplayMode b d3d Adapter pModeNull
  | .CheckDeviceType Adapter CheckType DisplayFormat BackBufferFormat Windowed =>
      s.CheckDeviceType b d3d Adapter CheckType DisplayFormat BackBufferFormat Windowed
  | .CheckDeviceFormat Adapter DeviceType AdapterFormat Usage RType CheckFormat =>
      s.CheckDeviceFormat b d3d Adapter DeviceType AdapterFormat Usage RType CheckFormat
  | .CheckDeviceMultiSampleType Adapter DeviceType SurfaceFormat Windowed MultiSampleType
      pQualityLevelsNull =>
      s.CheckDeviceMultiSampleType b d3d Adapter DeviceType SurfaceFormat Windowed
        MultiSampleType pQualityLevelsNull
  | .CheckDepthStencilMatch Adapter DeviceType AdapterFormat RenderTargetFormat
      DepthStencilFormat =>
      s.CheckDepthStencilMatch b d3d Adapter DeviceType AdapterFormat RenderTargetFormat
        DepthStencilFormat
  | .CheckDeviceFormatConversion Adapter DeviceType SourceFormat TargetFormat =>
      s.CheckDeviceFormatConversion b d3d Adapter DeviceType SourceFormat TargetFormat
  | .GetDeviceCaps Adapter DeviceType pCapsNull =>
      s.GetDeviceCaps b hash d3d Adapter DeviceType pCapsNull
  | .GetAdapterMonitor Adapter => s.GetAdapterMonitor b d3d Adapter
  | .GetAdapterModeCountEx Adapter pFilter => s.GetAdapterModeCountEx b d3d Adapter pFilter
  | .EnumAdapterModesEx Adapter pFilter Mode pModeNull =>
      s.EnumAdapterModesEx b d3d Adapter pFilter Mode pModeNull
  | .GetAdapterDisplayModeEx Adapter pMode pRotation =>
      s.GetAdapterDisplayModeEx b d3d Adapter pMode pRotation
  | .GetAdapterLUID Adapter pLUIDNull => s.GetAdapterLUID b d3d Adapter pLUIDNull

/-- One query of a client that is still there. -/
def step (q : Query) : Option Direct3D9Ex_LSS :=
  (s.query b hash d3d q).2.map fun _ => (s.query b hash d3d q).1

/-! ### When an answer is the runtime's -/

/-- The query gets what the runtime would have returned for it. -/
def Transparent (q : Query) : Prop := (s.query b hash d3d q).2 = some (d3d.direct q)

/-- The runtime refuses the query too. -/
def Refused (q : Query) : Prop := d3d.direct q = invalidCall

/-- The entry that is found was made for this query, and the runtime returns `S_OK` for it; where
there is none, the pointer is good or not looked at. -/
def StructRight (cache : StructCache) (key : Word) (q : Query) (pointerNull : Bool) : Prop :=
  match s.structs cache key with
  | some e => pointerNull = false ∧ e.query = q ∧ (d3d.answer q).hresult = S_OK
  | none => pointerNull = true → ¬SUCCEEDED (d3d.answer q.given).hresult ∧
      (d3d.answer q).hresult = (d3d.answer q.given).hresult

/-- What is asked of a query. -/
def InScope (q : Query) : Prop :=
  match q with
  | .GetAdapterCount | .GetAdapterMonitor _ => True
  | .GetAdapterIdentifier Adapter Flags pIdentifierNull =>
      if pIdentifierNull ∨ s.refuses Adapter then Refused d3d q
      else s.StructRight d3d .m_adapterIdentifiers (GET_HASH hash [Adapter, Flags]) q
        pIdentifierNull
  | .GetAdapterModeCount Adapter Format =>
      if s.refuses Adapter then (d3d.answer q).number = 0
      else ∀ e, s.m_adapterModeCount (GET_HASH hash [Adapter, Format]) = some e → e.query = q
  | .EnumAdapterModes Adapter Format Mode pModeNull =>
      if s.refuses Adapter then Refused d3d q
      else s.StructRight d3d .m_enumAdapterMode (GET_HASH hash [Adapter, Format, Mode]) q pModeNull
  | .GetAdapterDisplayMode Adapter pModeNull =>
      if s.refuses Adapter then Refused d3d q
      else s.StructRight d3d .m_adapterDisplayMode Adapter q pModeNull
  | .CheckDeviceType Adapter _ _ _ _ | .CheckDeviceFormat Adapter _ _ _ _ _
  | .CheckDepthStencilMatch Adapter _ _ _ _ | .CheckDeviceFormatConversion Adapter _ _ _ =>
      s.refuses Adapter = true → Refused d3d q
  | .CheckDeviceMultiSampleType Adapter _ _ _ MultiSampleType pQualityLevelsNull =>
      if s.refuses Adapter ∨ MultiSampleType.toInt > D3DMULTISAMPLE_16_SAMPLES then Refused d3d q
      else if pQualityLevelsNull then (d3d.answer q).hresult = (d3d.answer q.given).hresult
      else d3d.writesQualityLevels q = true
  | .GetDeviceCaps Adapter DeviceType pCapsNull =>
      if pCapsNull ∨ s.refuses Adapter then Refused d3d q
      else s.StructRight d3d .m_deviceCaps (GET_HASH hash [Adapter, DeviceType]) q pCapsNull
  | .GetAdapterModeCountEx Adapter _ =>
      if s.refuses Adapter then (d3d.answer q).number = D3DERR_INVALIDCALL
      else ∀ filter, (d3d.answer (.GetAdapterModeCountEx Adapter filter)).number =
        (d3d.answer q).number
  | .EnumAdapterModesEx Adapter pFilter _ pModeNull =>
      if s.refuses Adapter ∨ pFilter.isNull ∨ pModeNull then Refused d3d q else True
  | .GetAdapterDisplayModeEx Adapter pMode pRotation =>
      if s.refuses Adapter ∨ pMode.isNull then Refused d3d q
      else pRotation.isNull = true → ¬SUCCEEDED (d3d.answer q).hresult
  | .GetAdapterLUID _ pLUIDNull =>
      if pLUIDNull then Refused d3d q else ¬SUCCEEDED (d3d.answer q).hresult

end client

/-! ### The invariant -/

/-- What is cached is what the runtime has answered, and the rings are in step. -/
structure Genuine (b : ModuleBridge) (d3d : Direct3D) (s : Direct3D9Ex_LSS) : Prop where
  rings : s.rings.InStep b
  count : s.m_adapterCount ≠ 0 → s.m_adapterCount = (d3d.answer .GetAdapterCount).number
  modeCounts : ∀ key e, s.m_adapterModeCount key = some e → e.value = (d3d.answer e.query).number
  structs : ∀ cache key e, s.structs cache key = some e →
    e.value = ((d3d.answer e.query).out cache.type).bytes.take cache.type.clientSize

section genuine

variable {b : ModuleBridge} {hash : Word → Word} {d3d : Direct3D} {s : Direct3D9Ex_LSS} {q : Query}

/-- A query that is answered by a structure, and is in one of the caches. -/
structure OfStruct (cache : StructCache) (q : Query) (pointerNull : Bool) : Prop where
  sound : q.call.Sound
  returned : ∀ rt, q.answered.returned rt = structReturned rt cache.type rt.hresult pointerNull
  direct : ∀ d3d : Direct3D, d3d.direct q = (d3d.answer q).struct cache.type pointerNull
  given : pointerNull = false → q.given = q

theorem Genuine.ask (h : Genuine b d3d s) (hq : q.call.Sound) :
    Genuine b d3d (s.ask b d3d q).1 ∧
      (s.ask b d3d q).2 = q.answered.returned (d3d.answer q.given) := by
  obtain ⟨hreturned, hrings⟩ := exchange_eq d3d h.rings hq
  exact ⟨⟨hrings, h.count, h.modeCounts, h.structs⟩, hreturned⟩

theorem Genuine.keep (h : Genuine b d3d s) (cache : StructCache) (pointerNull : Bool)
    (key : Word) (q : Query) :
    Genuine b d3d (s.keep cache key q
      (structReturned (d3d.answer q) cache.type (d3d.answer q).hresult pointerNull)) := by
  unfold structReturned
  split
  · cases pointerNull with
    | true => exact h
    | false =>
        refine ⟨h.rings, h.count, h.modeCounts, fun cache' key' e he => ?_⟩
        change Function.update s.structs cache _ cache' key' = some e at he
        by_cases hcache : cache' = cache
        · subst hcache
          rw [Function.update_self] at he
          by_cases hkey : key' = key
          · subst hkey
            rw [Function.update_self] at he
            cases he
            rfl
          · rw [Function.update_of_ne hkey] at he
            exact h.structs cache' key' e he
        · rw [Function.update_of_ne hcache] at he
          exact h.structs cache' key' e he
  · exact h

theorem Genuine.cachedStruct (h : Genuine b d3d s) {cache : StructCache} {pointerNull : Bool}
    (hq : OfStruct cache q pointerNull) (key : Word) :
    Genuine b d3d (s.cachedStruct b d3d cache key q pointerNull).1 := by
  unfold Direct3D9Ex_LSS.cachedStruct
  split
  · exact h
  · obtain ⟨hs, hreturned⟩ := h.ask hq.sound
    have hgiven := hs.keep cache pointerNull key q.given
    rw [← hq.returned, ← hreturned] at hgiven
    exact hgiven

theorem structReturned_eq (rt : Runtime) (t : OutType) :
    structReturned rt t rt.hresult false = some (rt.struct t false) := by
  unfold structReturned Runtime.struct
  by_cases hsucceeded : SUCCEEDED rt.hresult
  · rw [if_pos hsucceeded, if_neg Bool.false_ne_true,
      if_pos (And.intro hsucceeded (Eq.refl false))]
  · rw [if_neg hsucceeded, if_neg fun hboth => hsucceeded hboth.1]

/-- What is found in a cache, or asked for, is what the runtime has for the query. -/
theorem Genuine.struct_eq (h : Genuine b d3d s) {cache : StructCache} {pointerNull : Bool}
    (hq : OfStruct cache q pointerNull) {key : Word}
    (hright : s.StructRight d3d cache key q pointerNull) :
    (s.cachedStruct b d3d cache key q pointerNull).2 = some (d3d.direct q) := by
  rw [hq.direct]
  unfold StructRight at hright
  unfold Direct3D9Ex_LSS.cachedStruct Runtime.struct
  cases hfound : s.structs cache key with
  | some e =>
      simp only [hfound] at hright ⊢
      obtain ⟨rfl, rfl, hok⟩ := hright
      have hvalue := h.structs cache key e hfound
      have hsucceeded : SUCCEEDED S_OK := by decide
      rw [if_neg Bool.false_ne_true, hok, if_pos ⟨hsucceeded, rfl⟩, hvalue]
  | none =>
      simp only [hfound] at hright ⊢
      obtain ⟨-, hreturned⟩ := h.ask hq.sound
      rw [hreturned, hq.returned, structReturned]
      cases pointerNull with
      | true =>
          obtain ⟨hfailed, hsame⟩ := hright rfl
          rw [if_neg hfailed, if_neg fun hnull => Bool.noConfusion hnull.2, hsame]
      | false =>
          rw [hq.given rfl]
          exact structReturned_eq _ _

/-- An answer of the runtime to the query as the server makes it. -/
theorem Genuine.ask_eq (h : Genuine b d3d s) (hq : q.call.Sound)
    (hdirect : q.answered.returned (d3d.answer q.given) = some (d3d.direct q)) :
    (s.ask b d3d q).2 = some (d3d.direct q) := (h.ask hq).2.trans hdirect

theorem Genuine.checked (h : Genuine b d3d s) (Adapter : Word) (hq : q.call.Sound) :
    Genuine b d3d (s.checked b d3d Adapter q).1 := by
  unfold Direct3D9Ex_LSS.checked
  split
  · exact h
  · exact (h.ask hq).1

theorem Genuine.checked_eq (h : Genuine b d3d s) {Adapter : Word} (hq : q.call.Sound)
    (hright : s.refuses Adapter = true → Refused d3d q)
    (hdirect : q.answered.returned (d3d.answer q.given) = some (d3d.direct q)) :
    (s.checked b d3d Adapter q).2 = some (d3d.direct q) := by
  unfold Direct3D9Ex_LSS.checked
  split
  · next hrefused => exact congrArg some (hright hrefused).symm
  · exact h.ask_eq hq hdirect

theorem ofStruct_adapterIdentifier (Adapter Flags : Word) :
    OfStruct .m_adapterIdentifiers (.GetAdapterIdentifier Adapter Flags false) false :=
  ⟨trivial, fun _ => rfl, fun _ => rfl, fun _ => rfl⟩

theorem ofStruct_enumAdapterModes (Adapter Format Mode : Word) (pModeNull : Bool) :
    OfStruct .m_enumAdapterMode (.EnumAdapterModes Adapter Format Mode pModeNull) pModeNull :=
  ⟨trivial, fun _ => rfl, fun _ => rfl, fun hnull => hnull ▸ rfl⟩

theorem ofStruct_adapterDisplayMode (Adapter : Word) (pModeNull : Bool) :
    OfStruct .m_adapterDisplayMode (.GetAdapterDisplayMode Adapter pModeNull) pModeNull :=
  ⟨trivial, fun _ => rfl, fun _ => rfl, fun hnull => hnull ▸ rfl⟩

theorem ofStruct_deviceCaps (Adapter DeviceType : Word) :
    OfStruct .m_deviceCaps (.GetDeviceCaps Adapter DeviceType false) false :=
  ⟨trivial, fun _ => rfl, fun _ => rfl, fun _ => rfl⟩

/-- **What a query leaves behind.** -/
theorem Genuine.query (h : Genuine b d3d s) (q : Query) :
    Genuine b d3d (s.query b hash d3d q).1 := by
  cases q with
  | GetAdapterCount =>
      change Genuine b d3d (s.GetAdapterCount b d3d).1
      unfold Direct3D9Ex_LSS.GetAdapterCount
      split
      · exact h
      · obtain ⟨hs, hreturned⟩ := h.ask (q := .GetAdapterCount) trivial
        refine ⟨hs.rings, fun _ => ?_, hs.modeCounts, hs.structs⟩
        dsimp only
        rw [hreturned]
        rfl
  | GetAdapterIdentifier Adapter Flags pIdentifierNull =>
      change Genuine b d3d (s.GetAdapterIdentifier b hash d3d Adapter Flags pIdentifierNull).1
      unfold Direct3D9Ex_LSS.GetAdapterIdentifier
      cases pIdentifierNull with
      | true => exact h
      | false =>
          rw [if_neg Bool.false_ne_true]
          split
          · exact h
          · exact h.cachedStruct (ofStruct_adapterIdentifier Adapter Flags) _
  | GetAdapterModeCount Adapter Format =>
      change Genuine b d3d (s.GetAdapterModeCount b hash d3d Adapter Format).1
      unfold Direct3D9Ex_LSS.GetAdapterModeCount
      split
      · exact h
      · dsimp only
        split
        · exact h
        · obtain ⟨hs, hreturned⟩ := h.ask (q := .GetAdapterModeCount Adapter Format) trivial
          refine ⟨hs.rings, hs.count, fun key e he => ?_, hs.structs⟩
          dsimp only at he
          by_cases hkey : key = GET_HASH hash [Adapter, Format]
          · subst hkey
            rw [Function.update_self, hreturned] at he
            cases he
            rfl
          · rw [Function.update_of_ne hkey] at he
            exact hs.modeCounts key e he
  | EnumAdapterModes Adapter Format Mode pModeNull =>
      change Genuine b d3d (s.EnumAdapterModes b hash d3d Adapter Format Mode pModeNull).1
      unfold Direct3D9Ex_LSS.EnumAdapterModes
      split
      · exact h
      · exact h.cachedStruct (ofStruct_enumAdapterModes Adapter Format Mode pModeNull) _
  | GetAdapterDisplayMode Adapter pModeNull =>
      change Genuine b d3d (s.GetAdapterDisplayMode b d3d Adapter pModeNull).1
      unfold Direct3D9Ex_LSS.GetAdapterDisplayMode
      split
      · exact h
      · exact h.cachedStruct (ofStruct_adapterDisplayMode Adapter pModeNull) _
  | GetDeviceCaps Adapter DeviceType pCapsNull =>
      change Genuine b d3d (s.GetDeviceCaps b hash d3d Adapter DeviceType pCapsNull).1
      unfold Direct3D9Ex_LSS.GetDeviceCaps
      cases pCapsNull with
      | true => exact h
      | false =>
          rw [if_neg Bool.false_ne_true]
          split
          · exact h
          · exact h.cachedStruct (ofStruct_deviceCaps Adapter DeviceType) _
  | CheckDeviceType Adapter => exact h.checked Adapter trivial
  | CheckDeviceFormat Adapter => exact h.checked Adapter trivial
  | CheckDepthStencilMatch Adapter => exact h.checked Adapter trivial
  | CheckDeviceFormatConversion Adapter => exact h.checked Adapter trivial
  | CheckDeviceMultiSampleType Adapter DeviceType SurfaceFormat Windowed MultiSampleType null =>
      change Genuine b d3d (s.CheckDeviceMultiSampleType b d3d Adapter DeviceType SurfaceFormat
        Windowed MultiSampleType null).1
      unfold Direct3D9Ex_LSS.CheckDeviceMultiSampleType
      split
      · exact h
      · split
        · exact h
        · refine (h.ask ?_).1
          exact trivial
  | GetAdapterMonitor Adapter =>
      refine (h.ask ?_).1
      exact trivial
  | GetAdapterModeCountEx Adapter pFilter =>
      change Genuine b d3d (s.checked b d3d Adapter (.GetAdapterModeCountEx Adapter pFilter)).1
      unfold Direct3D9Ex_LSS.checked
      split
      · exact h
      · obtain ⟨filter, -, hrings⟩ := exchange_modeCountEx d3d Adapter pFilter h.rings
        exact ⟨hrings, h.count, h.modeCounts, h.structs⟩
  | EnumAdapterModesEx Adapter pFilter Mode pModeNull =>
      change Genuine b d3d (s.EnumAdapterModesEx b d3d Adapter pFilter Mode pModeNull).1
      unfold Direct3D9Ex_LSS.EnumAdapterModesEx
      split
      · exact h
      · split
        · exact h
        · refine (h.ask ?_).1
          exact trivial
  | GetAdapterDisplayModeEx Adapter pMode pRotation =>
      change Genuine b d3d (s.GetAdapterDisplayModeEx b d3d Adapter pMode pRotation).1
      unfold Direct3D9Ex_LSS.GetAdapterDisplayModeEx
      split
      · exact h
      · split
        · exact h
        · refine (h.ask ?_).1
          exact trivial
  | GetAdapterLUID Adapter pLUIDNull =>
      change Genuine b d3d (s.GetAdapterLUID b d3d Adapter pLUIDNull).1
      unfold Direct3D9Ex_LSS.GetAdapterLUID
      split
      · exact h
      · refine (h.ask ?_).1
        exact trivial

theorem struct_take {rt : Runtime} {t : OutType} (hsize : t.serverSize = t.clientSize) :
    (rt.out t).bytes.take t.clientSize = (rt.out t).bytes :=
  List.take_of_length_le ((rt.out t).length.trans hsize).le

section refused

variable {c c' P : Prop} [Decidable c] [Decidable c'] {x : Direct3D9Ex_LSS × Option Returned}

/-- A query that is refused, or else gets what `x` has. -/
theorem refused_or (hin : if c then Refused d3d q else P)
    (hx : ¬c → P → x.2 = some (d3d.direct q)) :
    (if c then (s, some invalidCall) else x).2 = some (d3d.direct q) := by
  split at hin
  · next hc =>
      rw [if_pos hc]
      exact congrArg some hin.symm
  · next hc =>
      rw [if_neg hc]
      exact hx hc hin

theorem refused_or_or (hin : if c ∨ c' then Refused d3d q else P)
    (hx : ¬c → ¬c' → P → x.2 = some (d3d.direct q)) :
    (if c then (s, some invalidCall) else if c' then (s, some invalidCall) else x).2 =
      some (d3d.direct q) := by
  by_cases hc : c
  · rw [if_pos (.inl hc)] at hin
    rw [if_pos hc]
    exact congrArg some hin.symm
  · simp only [hc, false_or] at hin
    rw [if_neg hc]
    exact refused_or hin (hx hc)

end refused

/-- **What a query gets.** -/
theorem Genuine.transparent (h : Genuine b d3d s) (hin : s.InScope hash d3d q) :
    s.Transparent b hash d3d q := by
  cases q with
  | GetAdapterCount =>
      change (s.GetAdapterCount b d3d).2 = _
      unfold Direct3D9Ex_LSS.GetAdapterCount
      split
      · next hcount =>
          rw [h.count hcount]
          rfl
      · exact (h.ask (q := .GetAdapterCount) trivial).2
  | GetAdapterIdentifier Adapter Flags pIdentifierNull =>
      refine refused_or_or hin fun hnull _ hright => ?_
      cases pIdentifierNull with
      | true => exact absurd rfl hnull
      | false => exact h.struct_eq (ofStruct_adapterIdentifier Adapter Flags) hright
  | GetAdapterModeCount Adapter Format =>
      change (s.GetAdapterModeCount b hash d3d Adapter Format).2 = _
      unfold Direct3D9Ex_LSS.GetAdapterModeCount
      dsimp only [InScope] at hin
      split at hin
      · next hrefused =>
          rw [if_pos hrefused]
          exact congrArg (fun count => some (⟨count, []⟩ : Returned)) hin.symm
      · next hkept =>
          rw [if_neg hkept]
          dsimp only
          cases hfound : s.m_adapterModeCount (GET_HASH hash [Adapter, Format]) with
          | some e =>
              dsimp only
              rw [h.modeCounts _ e hfound, hin e hfound]
              rfl
          | none => exact (h.ask (q := .GetAdapterModeCount Adapter Format) trivial).2
  | EnumAdapterModes Adapter Format Mode pModeNull =>
      exact refused_or hin fun _ hright =>
        h.struct_eq (ofStruct_enumAdapterModes Adapter Format Mode pModeNull) hright
  | GetAdapterDisplayMode Adapter pModeNull =>
      exact refused_or hin fun _ hright =>
        h.struct_eq (ofStruct_adapterDisplayMode Adapter pModeNull) hright
  | GetDeviceCaps Adapter DeviceType pCapsNull =>
      refine refused_or_or hin fun hnull _ hright => ?_
      cases pCapsNull with
      | true => exact absurd rfl hnull
      | false => exact h.struct_eq (ofStruct_deviceCaps Adapter DeviceType) hright
  | CheckDeviceType Adapter => exact h.checked_eq trivial hin rfl
  | CheckDeviceFormat Adapter => exact h.checked_eq trivial hin rfl
  | CheckDepthStencilMatch Adapter => exact h.checked_eq trivial hin rfl
  | CheckDeviceFormatConversion Adapter => exact h.checked_eq trivial hin rfl
  | CheckDeviceMultiSampleType Adapter DeviceType SurfaceFormat Windowed MultiSampleType null =>
      refine refused_or_or hin fun _ _ hright => ?_
      refine h.ask_eq trivial ?_
      cases null with
      | true => exact congrArg (fun hresult => some (⟨hresult, []⟩ : Returned)) hright.symm
      | false =>
          have hwrites : d3d.writesQualityLevels (.CheckDeviceMultiSampleType Adapter DeviceType
            SurfaceFormat Windowed MultiSampleType false) = true := hright
          change some (⟨_, [_]⟩ : Returned) =
            some ⟨_, if false = false ∧ d3d.writesQualityLevels _ = true then _ else _⟩
          rw [if_pos (And.intro (Eq.refl false) hwrites)]
          rfl
  | GetAdapterMonitor Adapter => exact (h.ask (q := .GetAdapterMonitor Adapter) trivial).2
  | GetAdapterModeCountEx Adapter pFilter =>
      change (s.checked b d3d Adapter (.GetAdapterModeCountEx Adapter pFilter)).2 = _
      unfold Direct3D9Ex_LSS.checked
      dsimp only [InScope] at hin
      split at hin
      · next hrefused =>
          rw [if_pos hrefused]
          exact congrArg (fun count => some (⟨count, []⟩ : Returned)) hin.symm
      · next hkept =>
          rw [if_neg hkept]
          obtain ⟨filter, hreturned, -⟩ := exchange_modeCountEx d3d Adapter pFilter h.rings
          rw [hin filter] at hreturned
          exact hreturned
  | EnumAdapterModesEx Adapter pFilter Mode pModeNull =>
      refine refused_or_or hin fun _ hnull _ => ?_
      cases pModeNull with
      | true => exact absurd (.inr rfl) hnull
      | false => exact h.ask_eq trivial (structReturned_eq _ _)
  | GetAdapterDisplayModeEx Adapter pMode pRotation =>
      refine refused_or_or hin fun _ hnull hright => ?_
      refine h.ask_eq trivial ?_
      change modeExReturned (d3d.answer (.GetAdapterDisplayModeEx Adapter pMode pRotation)) _ =
        some ⟨_, Returned.written _ ++ Returned.written _⟩
      unfold modeExReturned Runtime.struct
      by_cases hsucceeded :
          SUCCEEDED (d3d.answer (.GetAdapterDisplayModeEx Adapter pMode pRotation)).hresult
      · have hrotation : pRotation.isNull = false := by
          cases hr : pRotation.isNull with
          | true => exact absurd hsucceeded (hright hr)
          | false => rfl
        rw [Bool.not_eq_true] at hnull
        simp only [hsucceeded, hrotation, hnull, if_true, and_self, Bool.false_eq_true, if_false]
        rw [struct_take rfl, struct_take rfl]
        rfl
      · simp only [hsucceeded, false_and, if_false]
        rfl
  | GetAdapterLUID Adapter pLUIDNull =>
      refine refused_or hin fun hnull hright => ?_
      cases pLUIDNull with
      | true => exact absurd rfl hnull
      | false =>
          refine h.ask_eq trivial ?_
          change structReturned (d3d.answer (.GetAdapterLUID Adapter false)) .LUID _ false =
            some ((d3d.answer _).struct .LUID false)
          rw [structReturned, if_neg hright, Runtime.struct, if_neg fun hboth => hright hboth.1]

end genuine

/-! ### Every run -/

/-- A module of which nothing has been asked. -/
def start (mem : Memory) : Direct3D9Ex_LSS where
  rings := ⟨⟨mem, 0, 0⟩, ⟨mem, 0, 0⟩⟩

section runs

variable {b : ModuleBridge} {hash : Word → Word} {d3d : Direct3D} {mem : Memory}

theorem genuine_start : Genuine b d3d (start mem) where
  rings :=
    { requests := ⟨Nat.lt_of_lt_of_le (Nat.zero_lt_succ 63) b.request_room, rfl⟩
      responses := ⟨Nat.lt_of_lt_of_le (Nat.zero_lt_succ 2047) b.response_room, rfl⟩ }
  count h := absurd rfl h
  modeCounts _ _ h := by cases h
  structs _ _ _ h := by cases h

theorem Genuine.along {s : Direct3D9Ex_LSS} (h : Genuine b d3d s) {qs : List Query}
    (hin : Along (step b hash d3d) (InScope hash d3d) s qs) :
    Along (step b hash d3d) (Transparent b hash d3d) s qs := by
  induction qs generalizing s with
  | nil => trivial
  | cons q qs ih =>
      refine ⟨h.transparent hin.1, fun s' hs' => ih ?_ (hin.2 s' hs')⟩
      obtain ⟨-, -, rfl⟩ := Option.map_eq_some_iff.mp hs'
      exact h.query q

/-- **Adapter queries are transparent** in every run whose queries are in scope. -/
theorem queries_transparent {qs : List Query}
    (hin : Along (step b hash d3d) (InScope hash d3d) (start mem) qs) :
    Along (step b hash d3d) (Transparent b hash d3d) (start mem) qs :=
  genuine_start.along hin

end runs

/-- A runtime that succeeds with zeros, and has one adapter. -/
def oneAdapter : Direct3D where
  answer _ := { Runtime.zeros with number := 1 }
  writesQualityLevels _ := true

def smallBridge : ModuleBridge := ⟨64, 2048, Nat.le_refl 64, Nat.le_refl 2048, 0, 0⟩

/-- `std::hash` of the four bytes of a value. -/
def FNV1a (v : Word) : Word :=
  (wordBytes v).foldl (fun val byte => (val ^^^ byte.setWidth 32) * 16777619) 2166136261

/-- The display mode is asked for twice, and is in the cache the second time. -/
theorem queries_transparent_mode :
    Along (step smallBridge FNV1a oneAdapter) (Transparent smallBridge FNV1a oneAdapter)
      (start fun _ => 0) [.GetAdapterCount, .GetAdapterDisplayMode 0 false,
        .GetAdapterDisplayMode 0 false] := by
  refine queries_transparent ⟨trivial, fun s₁ h₁ => ⟨?_, fun s₂ h₂ => ⟨?_, fun _ _ => trivial⟩⟩⟩
  · obtain ⟨-, -, rfl⟩ := Option.map_eq_some_iff.mp h₁
    have hrefuses : (query smallBridge FNV1a oneAdapter (start fun _ => 0)
        .GetAdapterCount).1.refuses 0 = false := by decide +kernel
    dsimp only [InScope]
    rw [hrefuses, if_neg Bool.false_ne_true]
    exact fun hnull => absurd hnull Bool.false_ne_true
  · obtain ⟨-, -, rfl⟩ := Option.map_eq_some_iff.mp h₁
    obtain ⟨-, -, rfl⟩ := Option.map_eq_some_iff.mp h₂
    have hrefuses : (query smallBridge FNV1a oneAdapter (query smallBridge FNV1a oneAdapter
        (start fun _ => 0) .GetAdapterCount).1 (.GetAdapterDisplayMode 0 false)).1.refuses 0 =
        false := by decide +kernel
    have hfound : ∃ obj, (query smallBridge FNV1a oneAdapter (query smallBridge FNV1a oneAdapter
        (start fun _ => 0) .GetAdapterCount).1 (.GetAdapterDisplayMode 0 false)).1.structs
        .m_adapterDisplayMode 0 = some ⟨.GetAdapterDisplayMode 0 false, obj⟩ := ⟨_, rfl⟩
    obtain ⟨obj, hfound⟩ := hfound
    dsimp only [InScope]
    rw [hrefuses, if_neg Bool.false_ne_true, StructRight, hfound]
    exact ⟨rfl, rfl, rfl⟩

/-- The LUID of an adapter is there, and refused for its length. -/
theorem luid_refused :
    ¬ ∀ (b : ModuleBridge) (hash : Word → Word) (d3d : Direct3D) (qs : List Query),
      Along (step b hash d3d) (Transparent b hash d3d) (start fun _ => 0) qs := by
  intro hall
  have hluid := (hall smallBridge FNV1a oneAdapter [.GetAdapterLUID 0 false]).1
  have hstart : Genuine smallBridge oneAdapter (start fun _ => 0) := genuine_start
  have hasked := hstart.ask (q := .GetAdapterLUID 0 false) trivial
  have hvalue := congrArg (Option.map Returned.value) (hasked.2.symm.trans hluid)
  exact absurd hvalue (by decide +kernel)

end Direct3D9Ex_LSS

end RemixBridge
