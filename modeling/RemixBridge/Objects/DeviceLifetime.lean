import RemixBridge.Support.Runs
import RemixBridge.Objects.RefCounted
import Mathlib.Data.List.ReduceOption

/-!
# Objects — DeviceLifetime

The references to a device (`Direct3DDevice9Ex_LSS`, `d3d9_device.cpp`): those of the application,
one of each standalone child whose Interface count is positive, and so one of each implicit object,
which the device makes for itself and does not report.  `Release` tears the implicit objects down
when nothing but their own references is left, and each of them calls `Release` again.

A contained object (a back buffer, a level of a texture) counts with its container (`D3DBase`), so
that a child is a standalone one here.  The reference of the device to its module is left out.

* `World`: the device and its children, and whether a null pointer or a deleted device has been
  read.
* `State.Sound`: what the device reports, and when it is deleted.
-/

namespace RemixBridge.DeviceLifetime
open Runs

/-- The presentation parameters that decide on the implicit objects. -/
structure PresentParams where
  BackBufferCount : Nat
  EnableAutoDepthStencil : Bool
  deriving DecidableEq

/-- A standalone child; `m_presParam` is that of a swap chain. -/
structure Child where
  refs : D3DRefCounted
  m_presParam : PresentParams

/-- The fields of the device that its lifetime depends on; `renderTarget` and `depthStencil` are the
pointers in `m_state`. -/
structure Device where
  refs : D3DRefCounted
  m_implicitRefCnt : Word
  m_bIsDestroying : Bool
  m_pImplicitRenderTarget : Option Nat
  m_pImplicitDepthStencil : Option Nat
  m_pSwapchain : Option Nat
  renderTarget : Option Nat
  depthStencil : Option Nat

/-- `sanitizePresentationParameters`: there is one back buffer at least. -/
def PresentParams.sanitize (p : PresentParams) : PresentParams :=
  { p with BackBufferCount := max p.BackBufferCount 1 }

theorem PresentParams.sanitize_sanitize (p : PresentParams) : p.sanitize.sanitize = p.sanitize := by
  simp [sanitize]

/-- The device and its children, by their ids; `fault` is set when a null pointer or a deleted
device is read. -/
structure World where
  dev : Device
  child : Nat → Child
  nextId : Nat
  fault : Bool

namespace World

/-- A read of a member of the device. -/
def touch (w : World) : World := { w with fault := w.fault || w.dev.refs.deleted != 0 }

def setRefs (w : World) (refs : D3DRefCounted) : World := { w with dev := { w.dev with refs } }

def setChild (w : World) (c : Nat) (refs : D3DRefCounted) : World :=
  { w with child := Function.update w.child c { w.child c with refs } }

/-! ### The device's own count -/

/-- `D3DBase::AddRef`, of the device. -/
def baseAddRef (w : World) : Word × World :=
  (w.dev.refs.addRef.1, w.touch.setRefs w.dev.refs.addRef.2)

/-- `D3DBase::Release`, of the device. -/
def baseRelease (w : World) : Word × World :=
  (w.dev.refs.release.1, w.touch.setRefs w.dev.refs.release.2)

/-- `AddRef`. -/
def AddRef (w : World) : Word × World :=
  (w.baseAddRef.1 - w.dev.m_implicitRefCnt, w.baseAddRef.2)

/-- `Release`; its members are read after the count. -/
def releaseWith (releaseInternalObjects : World → World) (w : World) : Word × World :=
  let cnt := w.baseRelease.1
  let w := w.baseRelease.2.touch
  if !w.dev.m_bIsDestroying && cnt == w.dev.m_implicitRefCnt then
    (0, releaseInternalObjects { w with dev := { w.dev with m_bIsDestroying := true } })
  else if w.dev.m_implicitRefCnt < cnt then (cnt - w.dev.m_implicitRefCnt, w)
  else (0, w)

/-! ### A child -/

/-- `AddRef` of a child: the first reference revives it. -/
def childAddRef (w : World) (c : Nat) : World :=
  let cnt := (w.child c).refs.addRef
  if cnt.1 = 1 then (w.setChild c cnt.2).AddRef.2 else w.setChild c cnt.2

/-- `Release` of a child, with the `Release` of its parent. -/
def childRelease (release : World → World) (w : World) (c : Nat) : World :=
  if (w.child c).refs.getRef .Interface ≠ 0 then
    let cnt := (w.child c).refs.decRef .Interface 1
    if cnt.1 = 0 then release (w.setChild c cnt.2) else w.setChild c cnt.2
  else w

/-- A pointer of `m_state` is bound to a child. -/
def bind (w : World) (c : Nat) : World := w.setChild c ((w.child c).refs.incRef .Object 1).2

/-- `D3DAutoPtr::reset(nullptr)`. -/
def unbind (w : World) : Option Nat → World
  | some c => w.setChild c ((w.child c).refs.decRef .Object 1).2
  | none => w

/-- `m_state.renderTargets[0].reset(nullptr)` -/
def resetRenderTarget (w : World) : World :=
  let w := w.unbind w.dev.renderTarget
  { w with dev := { w.dev with renderTarget := none } }

/-- `m_state.depthStencil.reset(nullptr)` -/
def resetDepthStencil (w : World) : World :=
  let w := w.unbind w.dev.depthStencil
  { w with dev := { w.dev with depthStencil := none } }

/-- A new child, which its constructor adds a reference to. -/
def newChild (w : World) (m_presParam : PresentParams) : World :=
  childAddRef { w with
    child := Function.update w.child w.nextId ⟨⟨0, 0⟩, m_presParam⟩
    nextId := w.nextId + 1 } w.nextId

/-- `f`, a number of times. -/
def times (f : World → World) : Nat → World → World
  | 0, w => w
  | n + 1, w => times f n (f w)

/-- A new swap chain: the constructor of a back buffer adds a reference to its container. -/
def newSwapChain (w : World) (p : PresentParams) : World :=
  times (·.childAddRef w.nextId) p.sanitize.BackBufferCount (w.newChild p.sanitize)

/-! ### The implicit objects -/

section release

variable (release : World → World)

/-- The implicit render target goes. -/
def dropRenderTarget (w : World) : World :=
  match w.dev.m_pImplicitRenderTarget with
  | none => { w with fault := true }
  | some c =>
      let w := childRelease release w c
      let w := { w with dev := { w.dev with
        m_pImplicitRenderTarget := none, m_implicitRefCnt := w.dev.m_implicitRefCnt - 1 } }
      w.resetRenderTarget

/-- The implicit depth stencil goes. -/
def dropDepthStencil (w : World) : World :=
  match w.dev.m_pImplicitDepthStencil with
  | none => { w with fault := true }
  | some c =>
      let w := childRelease release w c
      let w := { w with dev := { w.dev with
        m_pImplicitDepthStencil := none, m_implicitRefCnt := w.dev.m_implicitRefCnt - 1 } }
      w.resetDepthStencil

/-- The implicit swap chain goes, with the references of its back buffers. -/
def dropSwapChain (w : World) : World :=
  match w.dev.m_pSwapchain with
  | none => { w with fault := true }
  | some c =>
      let w := times (childRelease release · c) ((w.child c).m_presParam.BackBufferCount + 1) w
      { w with dev := { w.dev with
        m_pSwapchain := none, m_implicitRefCnt := w.dev.m_implicitRefCnt - 1 } }

/-- `destroyImplicitObjects`. -/
def destroyImplicitObjects (w : World) : World :=
  let w := dropRenderTarget release w
  match w.dev.m_pSwapchain with
  | none => { w with fault := true }
  | some c =>
      if (w.child c).m_presParam.EnableAutoDepthStencil then
        dropSwapChain release (dropDepthStencil release w)
      else dropSwapChain release w

/-- `releaseInternalObjects`; of `m_state`, the two pointers. -/
def releaseInternalObjects (resetState : Bool) (w : World) : World :=
  let implicitRefCnt := w.dev.m_implicitRefCnt.toNat
  let w := times (·.baseAddRef.2) implicitRefCnt w
  let w := destroyImplicitObjects release w
  let w := if resetState then w.resetRenderTarget.resetDepthStencil else w
  times (·.baseRelease.2) implicitRefCnt w

end release

/-- `Release` of a device that is being destroyed: it does not come to `releaseInternalObjects`. -/
def releaseNested (w : World) : World := (w.releaseWith id).2

/-- `Release` of the device. -/
def Release (w : World) : Word × World :=
  w.releaseWith (releaseInternalObjects releaseNested true)

/-- `initImplicitRenderTarget` -/
def initImplicitRenderTarget (w : World) : World :=
  let c := w.nextId
  let w := ((w.newChild ⟨0, false⟩).bind c).resetRenderTarget
  { w with dev := { w.dev with
    m_pImplicitRenderTarget := some c
    renderTarget := some c
    m_implicitRefCnt := w.dev.m_implicitRefCnt + 1 } }

/-- `initImplicitDepthStencil` -/
def initImplicitDepthStencil (w : World) : World :=
  let c := w.nextId
  let w := ((w.newChild ⟨0, false⟩).bind c).resetDepthStencil
  { w with dev := { w.dev with
    m_pImplicitDepthStencil := some c
    depthStencil := some c
    m_implicitRefCnt := w.dev.m_implicitRefCnt + 1 } }

/-- `initImplicitSwapchain` -/
def initImplicitSwapchain (w : World) (p : PresentParams) : World :=
  let c := w.nextId
  let w := w.newSwapChain p
  { w with dev := { w.dev with
    m_pSwapchain := some c
    m_implicitRefCnt := w.dev.m_implicitRefCnt + 1 } }

/-- `initImplicitObjects` -/
def initImplicitObjects (w : World) (p : PresentParams) : World :=
  let w := (w.initImplicitSwapchain p).initImplicitRenderTarget
  if p.EnableAutoDepthStencil then w.initImplicitDepthStencil else w

end World

/-! ### The application -/

/-- The pointers that the device gives out: a back buffer counts with its swap chain. -/
inductive Getter where
  | RenderTarget
  | DepthStencilSurface
  | SwapChain
  | BackBuffer
  deriving DecidableEq

/-- The calls of the application; `create` is any other function that makes a child. -/
inductive Act where
  | AddRef
  | Release
  | childAddRef (c : Nat)
  | childRelease (c : Nat)
  | GetDevice (c : Nat)
  | get (g : Getter)
  | create
  | CreateAdditionalSwapChain (p : PresentParams)
  | Reset (m_ex : Bool) (p : PresentParams)

/-- The two sides.  `appDevice` and `app` are history: the references of the application; `returned`
is what the last call returned, if that was `AddRef` or `Release` of the device. -/
structure State where
  world : World
  appDevice : Nat
  app : Nat → Nat
  returned : Option Word

/-- The child that a getter gives out.  The swap chain is called before it is looked at. -/
def World.getter (w : World) : Getter → Option Nat
  | .RenderTarget => w.dev.renderTarget
  | .DepthStencilSurface => w.dev.depthStencil
  | .SwapChain | .BackBuffer => w.dev.m_pSwapchain

/-- `Reset` and `ResetEx`, which keeps the state. -/
def World.Reset (w : World) (m_ex : Bool) (p : PresentParams) : World :=
  (w.touch.releaseInternalObjects (·.Release.2) !m_ex).initImplicitObjects p.sanitize

/-- What the application does it does through an interface that it has a reference to. -/
def step (s : State) : Act → Option State
  | .AddRef =>
      if 0 < s.appDevice then
        some { s with
          world := s.world.AddRef.2
          appDevice := s.appDevice + 1
          returned := some s.world.AddRef.1 }
      else none
  | .Release =>
      if 0 < s.appDevice then
        some { s with
          world := s.world.Release.2
          appDevice := s.appDevice - 1
          returned := some s.world.Release.1 }
      else none
  | .childAddRef c =>
      if 0 < s.app c then
        some { s with
          world := s.world.childAddRef c
          app := Function.update s.app c (s.app c + 1)
          returned := none }
      else none
  | .childRelease c =>
      if 0 < s.app c then
        some { s with
          world := s.world.childRelease (·.Release.2) c
          app := Function.update s.app c (s.app c - 1)
          returned := none }
      else none
  | .GetDevice c =>
      if 0 < s.app c then
        some { s with
          world := s.world.AddRef.2, appDevice := s.appDevice + 1, returned := none }
      else none
  | .get g =>
      if 0 < s.appDevice then
        match s.world.getter g with
        | some c =>
            some { s with
              world := s.world.childAddRef c
              app := Function.update s.app c (s.app c + 1)
              returned := none }
        | none =>
            some { s with
              world := { s.world with
                fault := s.world.fault || g == .SwapChain || g == .BackBuffer }
              returned := none }
      else none
  | .create =>
      if 0 < s.appDevice then
        some { s with
          world := s.world.newChild ⟨0, false⟩
          app := Function.update s.app s.world.nextId 1
          returned := none }
      else none
  | .CreateAdditionalSwapChain p =>
      if 0 < s.appDevice then
        some { s with
          world := s.world.newSwapChain p
          app := Function.update s.app s.world.nextId 1
          returned := none }
      else none
  | .Reset m_ex p =>
      if 0 < s.appDevice then
        some { s with world := s.world.Reset m_ex p, returned := none }
      else none

/-- A device as `CreateDevice` returns it. -/
def start (p : PresentParams) : State where
  world := World.initImplicitObjects
    { dev := ⟨.construct, 0, false, none, none, none, none, none⟩
      child _ := ⟨⟨0, 0⟩, ⟨0, false⟩⟩
      nextId := 0
      fault := false } p.sanitize
  appDevice := 1
  app _ := 0
  returned := none

/-- The implicit objects that the device holds. -/
def Device.implicitObjects (d : Device) : List Nat :=
  [d.m_pImplicitRenderTarget, d.m_pImplicitDepthStencil, d.m_pSwapchain].reduceOption

/-- The children other than implicit objects that the application has references to. -/
def State.heldChildren (s : State) : List Nat :=
  (List.range s.world.nextId).filter fun c => 0 < s.app c ∧ c ∉ s.world.dev.implicitObjects

/-- The application has a reference to the device or to a child of it. -/
def State.Held (s : State) : Prop := 0 < s.appDevice ∨ ∃ c, 0 < s.app c

/-- **Device lifetime.**  The device counts its implicit objects, reports the references to it
without theirs, and has been deleted once, exactly when the application has no reference to it or
to a child of it. -/
structure State.Sound (s : State) : Prop where
  fault : s.world.fault = false
  implicit : s.world.dev.m_implicitRefCnt.toNat = s.world.dev.implicitObjects.length
  returned : ∀ v, s.returned = some v → v.toNat = s.appDevice + s.heldChildren.length
  alive : s.Held → s.world.dev.refs.deleted = 0
  deleted : ¬s.Held → s.world.dev.refs.deleted = 1

end RemixBridge.DeviceLifetime
