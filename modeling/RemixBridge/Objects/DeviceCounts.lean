import RemixBridge.Objects.DeviceLifetime

/-!
# Objects — DeviceCounts

What each operation on a device does to the numbers of references, as long as they stay below
`2 ^ 16`: the spec lemmas that the lifetime is proved from.

* `World.of`: the world that keeps some numbers.
* `destroyImplicitObjects_of`, `releaseInternalObjects_of`: the implicit objects go, each with the
  reference that it has to the device if the application has none to it.
* `initImplicitObjects_of`: they are made again.
-/

namespace RemixBridge.DeviceLifetime

/-! ### The world that keeps some numbers -/

/-- How often an object with `x` references has been deleted. -/
def gone (x : Nat) : Nat := if x = 0 then 1 else 0

@[simp] theorem gone_succ (x : Nat) : gone (x + 1) = 0 := if_neg (Nat.succ_ne_zero x)

theorem gone_pos {x : Nat} (h : 0 < x) : gone x = 0 :=
  if_neg (Nat.pos_iff_ne_zero.mp h)

theorem gone_le (x : Nat) : gone x ≤ 1 := by
  unfold gone
  split <;> omega

namespace World

/-- The `n` children with `f c` references of Interface and `g c` of `m_state`. -/
def children (q : Nat → PresentParams) (n : Nat) (f g : Nat → Nat) (c : Nat) : Child :=
  ⟨if c < n then .of (f c) (g c) (gone (f c + g c)) else ⟨0, 0⟩, q c⟩

/-- The world of these children with `m` references to the device and the other fields of `d`. -/
def of (d : Device) (q : Nat → PresentParams) (n m : Nat) (f g : Nat → Nat) : World :=
  ⟨{ d with refs := .of m 0 (gone m) }, children q n f g, n, false⟩

variable {d : Device} {q : Nat → PresentParams} {n m : Nat} {f g : Nat → Nat} {c : Nat}

theorem of_child (hc : c < n) :
    ((of d q n m f g).child c).refs = .of (f c) (g c) (gone (f c + g c)) := if_pos hc

theorem of_congr {d' : Device} {q' : Nat → PresentParams} {f' g' : Nat → Nat} (hd : d = d')
    (hq : ∀ c, q c = q' c) (hf : ∀ c, f c = f' c) (hg : ∀ c, g c = g' c) :
    of d q n m f g = of d' q' n m f' g' := by
  rw [hd, funext hq, funext hf, funext hg]

theorem of_presParam : ((of d q n m f g).child c).m_presParam = q c := rfl

theorem touch_of (hm : 0 < m) : (of d q n m f g).touch = of d q n m f g := by
  unfold touch of
  simp [D3DRefCounted.of, gone_pos hm]

theorem of_dev : (of d q n m f g).dev = { d with refs := .of m 0 (gone m) } := rfl

theorem of_children : (of d q n m f g).child = children q n f g := rfl

theorem setRefs_of {m' : Nat} :
    (of d q n m f g).setRefs (.of m' 0 (gone m')) = of d q n m' f g := by
  rw [setRefs, of_dev, of_children]
  rfl

/-- One child has other numbers. -/
theorem setChild_of (hc : c < n) (a b : Nat) :
    (of d q n m f g).setChild c (.of a b (gone (a + b))) =
      of d q n m (Function.update f c a) (Function.update g c b) := by
  unfold setChild of
  refine congrArg (World.mk _ · _ _) (funext fun x => ?_)
  unfold children
  by_cases hx : x = c
  · subst hx
    simp [hc]
  · simp [hx]

theorem baseAddRef_of (hm : 0 < m) :
    (of d q n m f g).baseAddRef.2 = of d q n (m + 1) f g := by
  unfold baseAddRef
  rw [touch_of hm]
  have hrefs : (of d q n m f g).dev.refs.addRef.2 = .of (m + 1) 0 (gone (m + 1)) := by
    show (D3DRefCounted.of m 0 (gone m)).addRef.2 = _
    rw [D3DRefCounted.addRef_of, gone_pos hm, gone_succ]
  rw [hrefs, setRefs_of]

theorem baseRelease_of (hm : m + 1 < 2 ^ 16) :
    (of d q n (m + 1) f g).baseRelease =
      (toRefValue .Interface (fused m 0), of d q n m f g) := by
  have hrefs : (of d q n (m + 1) f g).dev.refs.release =
      (toRefValue .Interface (fused m 0), .of m 0 (gone m)) := by
    show (D3DRefCounted.of (m + 1) 0 (gone (m + 1))).release = _
    rw [gone_succ, D3DRefCounted.release_of_succ (by omega)]
    rfl
  unfold baseRelease
  rw [touch_of (Nat.succ_pos m), hrefs, setRefs_of]

theorem AddRef_of (hm : 0 < m) : (of d q n m f g).AddRef.2 = of d q n (m + 1) f g :=
  baseAddRef_of hm

/-- A reference to a child that is there; where it is the first, the child takes one to the
device. -/
theorem childAddRef_of (hc : c < n) (hm : 0 < m) (hthere : 0 < f c + g c)
    (hfc : f c + 1 + g c < 2 ^ 16) :
    (of d q n m f g).childAddRef c =
      of d q n (m + gone (f c)) (Function.update f c (f c + 1)) g := by
  unfold childAddRef
  rw [of_child hc, gone_pos hthere, D3DRefCounted.addRef_of]
  have hcnt : (toRefValue .Interface (fused (f c + 1) (g c))).toNat = f c + 1 := toNat_interface hfc
  have hset := setChild_of (d := d) (q := q) (m := m) (f := f) (g := g) hc (f c + 1) (g c)
  rw [gone_pos (by omega : 0 < f c + 1 + g c), Function.update_eq_self] at hset
  dsimp only
  rw [hset]
  by_cases hfirst : f c = 0
  · have hone : toRefValue .Interface (fused (f c + 1) (g c)) = 1 :=
      BitVec.eq_of_toNat_eq (hcnt.trans (by rw [hfirst]; rfl))
    rw [if_pos hone, AddRef_of hm, hfirst]
    rfl
  · have hmore : toRefValue .Interface (fused (f c + 1) (g c)) ≠ 1 := by
      intro hone
      rw [hone] at hcnt
      exact hfirst (Nat.succ.inj hcnt).symm
    rw [if_neg hmore, gone_pos (Nat.pos_of_ne_zero hfirst)]
    rfl

/-- The two ends of a `Release` that leaves more than the references of the implicit objects, or
comes to a device that is being destroyed. -/
theorem releaseWith_of (t : World → World) (hm : 0 < m) (hm' : m + 1 < 2 ^ 16)
    (h : d.m_bIsDestroying = true ∨ d.m_implicitRefCnt.toNat < m) :
    ((of d q n (m + 1) f g).releaseWith t).2 = of d q n m f g := by
  have hcnt : (toRefValue .Interface (fused m 0)).toNat = m := toNat_interface (by omega)
  unfold releaseWith
  rw [baseRelease_of hm']
  dsimp only
  rw [touch_of hm, of_dev]
  dsimp only
  have hstays : ¬((!d.m_bIsDestroying &&
      toRefValue .Interface (fused m 0) == d.m_implicitRefCnt) = true) := by
    simp only [Bool.and_eq_true, Bool.not_eq_true', beq_iff_eq, not_and]
    rintro hflag heq
    rcases h with h | h
    · exact Bool.false_ne_true (hflag.symm.trans h)
    · rw [heq] at hcnt
      exact Nat.ne_of_lt h hcnt
  rw [if_neg hstays]
  split <;> rfl

/-- What such a `Release` returns. -/
theorem releaseWith_value (t : World → World) (hm' : m + 1 < 2 ^ 16)
    (h : d.m_implicitRefCnt.toNat < m) :
    ((of d q n (m + 1) f g).releaseWith t).1.toNat = m - d.m_implicitRefCnt.toNat := by
  have hm : 0 < m := Nat.zero_lt_of_lt h
  have hcnt : (toRefValue .Interface (fused m 0)).toNat = m := toNat_interface (by omega)
  unfold releaseWith
  rw [baseRelease_of hm']
  dsimp only
  rw [touch_of hm, of_dev]
  dsimp only
  have hne : toRefValue .Interface (fused m 0) ≠ d.m_implicitRefCnt := by
    intro heq
    rw [heq] at hcnt
    exact Nat.ne_of_lt h hcnt
  have hstays : ¬((!d.m_bIsDestroying &&
      toRefValue .Interface (fused m 0) == d.m_implicitRefCnt) = true) := by
    simp [hne]
  have hlt : d.m_implicitRefCnt < toRefValue .Interface (fused m 0) := by
    rw [BitVec.lt_def, hcnt]
    exact h
  rw [if_neg hstays, if_pos hlt, BitVec.toNat_sub_of_le (BitVec.le_of_lt hlt), hcnt]

/-- The `Release` that leaves the references of the implicit objects only. -/
theorem releaseWith_last (t : World → World) (hm : 0 < m) (hm' : m + 1 < 2 ^ 16)
    (hflag : d.m_bIsDestroying = false) (h : d.m_implicitRefCnt.toNat = m) :
    (of d q n (m + 1) f g).releaseWith t =
      (0, t (of { d with m_bIsDestroying := true } q n m f g)) := by
  have hcnt : (toRefValue .Interface (fused m 0)).toNat = m := toNat_interface (by omega)
  have heq : toRefValue .Interface (fused m 0) = d.m_implicitRefCnt :=
    BitVec.eq_of_toNat_eq (hcnt.trans h.symm)
  unfold releaseWith
  rw [baseRelease_of hm']
  dsimp only
  rw [touch_of hm, of_dev]
  dsimp only
  have hlast : (!d.m_bIsDestroying &&
      toRefValue .Interface (fused m 0) == d.m_implicitRefCnt) = true := by
    simp [hflag, heq]
  rw [if_pos hlast]
  rfl

theorem AddRef_value (hm' : m + 1 < 2 ^ 16) (h : d.m_implicitRefCnt.toNat ≤ m + 1) :
    (of d q n m f g).AddRef.1.toNat = m + 1 - d.m_implicitRefCnt.toNat := by
  have hcnt : (toRefValue .Interface (fused (m + 1) 0)).toNat = m + 1 :=
    toNat_interface (by omega)
  unfold AddRef baseAddRef
  dsimp only
  rw [of_dev]
  dsimp only
  rw [D3DRefCounted.addRef_of]
  dsimp only
  rw [BitVec.toNat_sub_of_le (by rw [BitVec.le_def, hcnt]; exact h), hcnt]

/-- A `Release` of the device that only counts, as long as something is left. -/
def Counting (release : World → World) : Prop :=
  ∀ d q n m f g, 0 < m → m + 1 < 2 ^ 16 →
    (d.m_bIsDestroying = true ∨ d.m_implicitRefCnt.toNat < m) →
      release (of d q n (m + 1) f g) = of d q n m f g

theorem counting_nested : Counting releaseNested := fun _ _ _ _ _ _ hm hm' h =>
  releaseWith_of id hm hm' h

theorem counting_release : Counting (·.Release.2) := fun _ _ _ _ _ _ hm hm' h =>
  releaseWith_of _ hm hm' h

variable {release : World → World}

theorem childRelease_eq (hc : c < n) {a : Nat} (hfc : f c = a + 1) (hbound : a + 1 + g c < 2 ^ 16) :
    childRelease release (of d q n m f g) c =
      if a = 0 then release (of d q n m (Function.update f c a) g)
      else of d q n m (Function.update f c a) g := by
  unfold childRelease
  rw [of_child hc, hfc, gone_pos (by omega : 0 < a + 1 + g c)]
  have hget : (D3DRefCounted.of (a + 1) (g c) 0).getRef .Interface ≠ 0 :=
    ne_zero_of_toNat (D3DRefCounted.getRef_interface_of hbound) (Nat.succ_ne_zero a)
  have hdec : (D3DRefCounted.of (a + 1) (g c) 0).decRef .Interface 1 =
      (toRefValue .Interface (fused a (g c)), .of a (g c) (gone (a + g c))) :=
    D3DRefCounted.decRef_interface_of (by omega)
  have hcnt : (toRefValue .Interface (fused a (g c))).toNat = a := toNat_interface (by omega)
  rw [if_pos hget, hdec]
  dsimp only
  rw [setChild_of hc, Function.update_eq_self]
  by_cases hlast : a = 0
  · subst hlast
    rw [if_pos (eq_zero_of_toNat hcnt), if_pos rfl]
  · rw [if_neg (ne_zero_of_toNat hcnt hlast), if_neg hlast]

/-- A reference to a child goes; where it is the last, that of the child to the device goes too. -/
theorem childRelease_of (hrelease : Counting release) (hc : c < n) {a : Nat} (hfc : f c = a + 1)
    (hbound : a + 1 + g c < 2 ^ 16) (hm : 0 < m) (hm' : m + gone a < 2 ^ 16)
    (h : d.m_bIsDestroying = true ∨ d.m_implicitRefCnt.toNat < m) :
    childRelease release (of d q n (m + gone a) f g) c =
      of d q n m (Function.update f c a) g := by
  rw [childRelease_eq hc hfc hbound]
  by_cases hlast : a = 0
  · subst hlast
    exact hrelease d q n m _ g hm hm' h
  · rw [if_neg hlast, gone_pos (Nat.pos_of_ne_zero hlast)]
    rfl

/-- `D3DAutoPtr::reset` of the only pointer to a child. -/
theorem unbind_of (hc : c < n) (hgc : g c = 1) (hbound : f c + 1 < 2 ^ 16) :
    (of d q n m f g).unbind (some c) = of d q n m f (Function.update g c 0) := by
  have hset := setChild_of (d := d) (q := q) (m := m) (f := f) (g := g) hc (f c) 0
  rw [Function.update_eq_self] at hset
  show (of d q n m f g).setChild c _ = _
  rw [← hset, of_child hc, hgc, gone_pos (Nat.succ_pos _)]
  exact congrArg _ (D3DRefCounted.unbind_of (by omega))

theorem resetRenderTarget_of (hslot : d.renderTarget = some c) (hc : c < n) (hgc : g c = 1)
    (hbound : f c + 1 < 2 ^ 16) :
    (of d q n m f g).resetRenderTarget =
      of { d with renderTarget := none } q n m f (Function.update g c 0) := by
  have hunbind := unbind_of (d := d) (q := q) (m := m) hc hgc hbound
  unfold resetRenderTarget
  have hptr : (of d q n m f g).dev.renderTarget = some c := by
    rw [of_dev]
    exact hslot
  rw [hptr, hunbind]
  dsimp only
  rw [of_dev]
  rfl

theorem resetDepthStencil_of (hslot : d.depthStencil = some c) (hc : c < n) (hgc : g c = 1)
    (hbound : f c + 1 < 2 ^ 16) :
    (of d q n m f g).resetDepthStencil =
      of { d with depthStencil := none } q n m f (Function.update g c 0) := by
  have hunbind := unbind_of (d := d) (q := q) (m := m) hc hgc hbound
  unfold resetDepthStencil
  have hptr : (of d q n m f g).dev.depthStencil = some c := by
    rw [of_dev]
    exact hslot
  rw [hptr, hunbind]
  dsimp only
  rw [of_dev]
  rfl

theorem resetRenderTarget_none (hslot : d.renderTarget = none) :
    (of d q n m f g).resetRenderTarget = of d q n m f g := by
  unfold resetRenderTarget
  have hptr : (of d q n m f g).dev.renderTarget = none := by
    rw [of_dev]
    exact hslot
  rw [hptr, unbind]
  dsimp only
  rw [of_dev, ← hslot]
  rfl

theorem resetDepthStencil_none (hslot : d.depthStencil = none) :
    (of d q n m f g).resetDepthStencil = of d q n m f g := by
  unfold resetDepthStencil
  have hptr : (of d q n m f g).dev.depthStencil = none := by
    rw [of_dev]
    exact hslot
  rw [hptr, unbind]
  dsimp only
  rw [of_dev, ← hslot]
  rfl

theorem bind_of (hc : c < n) (hthere : 0 < f c + g c) :
    (of d q n m f g).bind c = of d q n m f (Function.update g c (g c + 1)) := by
  have hset := setChild_of (d := d) (q := q) (m := m) (f := f) (g := g) hc (f c) (g c + 1)
  rw [Function.update_eq_self, gone_pos (by omega : 0 < f c + (g c + 1))] at hset
  unfold bind
  rw [of_child hc, gone_pos hthere, D3DRefCounted.bind_of]
  exact hset

/-! ### Repeated calls -/

theorem times_baseAddRef (hm : 0 < m) (k : Nat) :
    times (·.baseAddRef.2) k (of d q n m f g) = of d q n (m + k) f g := by
  induction k generalizing m with
  | zero => rfl
  | succ k ih =>
      rw [times, baseAddRef_of hm, ih (Nat.succ_pos m)]
      congr 1
      omega

theorem times_baseRelease (k : Nat) (hm : m + k < 2 ^ 16) :
    times (·.baseRelease.2) k (of d q n (m + k) f g) = of d q n m f g := by
  induction k with
  | zero => rfl
  | succ k ih =>
      rw [times, ← Nat.add_assoc, baseRelease_of (by omega)]
      exact ih (by omega)

/-- All references but `a` to a child go. -/
theorem times_childRelease (hrelease : Counting release) (hc : c < n) (k a : Nat)
    (hfc : f c = a + (k + 1)) (hgc : f c + g c < 2 ^ 16) (hm : 0 < m) (hm' : m + gone a < 2 ^ 16)
    (h : d.m_bIsDestroying = true ∨ d.m_implicitRefCnt.toNat < m) :
    times (childRelease release · c) (k + 1) (of d q n (m + gone a) f g) =
      of d q n m (Function.update f c a) g := by
  induction k generalizing f with
  | zero =>
      rw [times, times]
      exact childRelease_of hrelease hc hfc (by omega) hm hm' h
  | succ k ih =>
      rw [times, childRelease_eq (a := a + (k + 1)) hc (by omega) (by omega),
        if_neg (by omega)]
      have hrest := ih (f := Function.update f c (a + (k + 1))) (Function.update_self c _ f)
        (by rw [Function.update_self]; omega)
      rwa [Function.update_idem] at hrest

/-! ### The implicit objects go -/

theorem dropRenderTarget_of (hrelease : Counting release)
    (hptr : d.m_pImplicitRenderTarget = some c) (hslot : d.renderTarget = some c) (hc : c < n)
    {a : Nat} (hfc : f c = a + 1) (hgc : g c = 1) (hbound : a + 2 < 2 ^ 16) (hm : 0 < m)
    (hm' : m + gone a < 2 ^ 16) (h : d.m_bIsDestroying = true ∨ d.m_implicitRefCnt.toNat < m) :
    dropRenderTarget release (of d q n (m + gone a) f g) =
      of { d with
        m_pImplicitRenderTarget := none
        m_implicitRefCnt := d.m_implicitRefCnt - 1
        renderTarget := none } q n m (Function.update f c a) (Function.update g c 0) := by
  have hchild := childRelease_of (g := g) (q := q) hrelease hc hfc (by omega) hm hm' h
  have hptr' : (of d q n (m + gone a) f g).dev.m_pImplicitRenderTarget = some c := by
    rw [of_dev]
    exact hptr
  unfold dropRenderTarget
  rw [hptr']
  dsimp only
  rw [hchild, of_dev]
  exact resetRenderTarget_of (d := { d with
    m_pImplicitRenderTarget := none, m_implicitRefCnt := d.m_implicitRefCnt - 1 }) hslot hc hgc
    (by rw [Function.update_self]; omega)

theorem dropDepthStencil_of (hrelease : Counting release)
    (hptr : d.m_pImplicitDepthStencil = some c) (hslot : d.depthStencil = some c) (hc : c < n)
    {a : Nat} (hfc : f c = a + 1) (hgc : g c = 1) (hbound : a + 2 < 2 ^ 16) (hm : 0 < m)
    (hm' : m + gone a < 2 ^ 16) (h : d.m_bIsDestroying = true ∨ d.m_implicitRefCnt.toNat < m) :
    dropDepthStencil release (of d q n (m + gone a) f g) =
      of { d with
        m_pImplicitDepthStencil := none
        m_implicitRefCnt := d.m_implicitRefCnt - 1
        depthStencil := none } q n m (Function.update f c a) (Function.update g c 0) := by
  have hchild := childRelease_of (g := g) (q := q) hrelease hc hfc (by omega) hm hm' h
  have hptr' : (of d q n (m + gone a) f g).dev.m_pImplicitDepthStencil = some c := by
    rw [of_dev]
    exact hptr
  unfold dropDepthStencil
  rw [hptr']
  dsimp only
  rw [hchild, of_dev]
  exact resetDepthStencil_of (d := { d with
    m_pImplicitDepthStencil := none, m_implicitRefCnt := d.m_implicitRefCnt - 1 }) hslot hc hgc
    (by rw [Function.update_self]; omega)

theorem dropSwapChain_of (hrelease : Counting release) (hptr : d.m_pSwapchain = some c)
    (hc : c < n) {a : Nat} (hfc : f c = a + ((q c).BackBufferCount + 1))
    (hbound : f c + g c < 2 ^ 16) (hm : 0 < m) (hm' : m + gone a < 2 ^ 16)
    (h : d.m_bIsDestroying = true ∨ d.m_implicitRefCnt.toNat < m) :
    dropSwapChain release (of d q n (m + gone a) f g) =
      of { d with
        m_pSwapchain := none
        m_implicitRefCnt := d.m_implicitRefCnt - 1 } q n m (Function.update f c a) g := by
  have hchild := times_childRelease (g := g) (q := q) hrelease hc (q c).BackBufferCount a hfc
    hbound hm hm' h
  have hptr' : (of d q n (m + gone a) f g).dev.m_pSwapchain = some c := by
    rw [of_dev]
    exact hptr
  unfold dropSwapChain
  rw [hptr']
  dsimp only
  rw [of_presParam, hchild, of_dev]
  rfl

end World

/-! ### The device at rest -/

/-- Its implicit objects: the render target, the swap chain and perhaps the depth stencil. -/
structure Implicit where
  rt : Nat
  sc : Nat
  ds : Option Nat

namespace Implicit

/-- A device that has them. -/
def device (i : Implicit) (m_bIsDestroying : Bool) : Device :=
  ⟨⟨0, 0⟩, if i.ds.isSome then 3 else 2, m_bIsDestroying, some i.rt, i.ds, some i.sc, some i.rt,
    i.ds⟩

def objects (i : Implicit) : List Nat := [some i.rt, i.ds, some i.sc].reduceOption

/-- The references that the device has to a child. -/
def own (i : Implicit) (q : Nat → PresentParams) (c : Nat) : Nat :=
  (if c = i.rt then 1 else 0) + (if some c = i.ds then 1 else 0) +
    if c = i.sc then (q c).BackBufferCount + 1 else 0

/-- The references that its state has. -/
def bound (i : Implicit) (c : Nat) : Nat :=
  (if c = i.rt then 1 else 0) + if some c = i.ds then 1 else 0

/-- They are three different children, of which the depth stencil is there if the parameters say
so. -/
structure WF (i : Implicit) (q : Nat → PresentParams) (n : Nat) : Prop where
  nodup : i.objects.Nodup
  lt : ∀ c ∈ i.objects, c < n
  auto : (q i.sc).EnableAutoDepthStencil = i.ds.isSome

/-- How many of them the application has no reference to. -/
def unheld (i : Implicit) (app : Nat → Nat) : Nat :=
  i.objects.foldr (fun c m => gone (app c) + m) 0

theorem device_count (i : Implicit) (m_bIsDestroying : Bool) :
    (i.device m_bIsDestroying).m_implicitRefCnt.toNat = i.objects.length := by
  obtain ⟨rt, sc, ds⟩ := i
  cases ds <;> rfl

theorem sc_mem (i : Implicit) : i.sc ∈ i.objects := by
  obtain ⟨rt, sc, ds⟩ := i
  cases ds <;> simp [objects]

theorem own_pos (i : Implicit) {q : Nat → PresentParams} {c : Nat} (hc : c ∈ i.objects) :
    0 < i.own q c := by
  obtain ⟨rt, sc, ds⟩ := i
  have hcase : c = rt ∨ some c = ds ∨ c = sc := by
    cases ds with
    | none => simpa [objects] using hc
    | some ds => simpa [objects] using hc
  unfold own
  rcases hcase with hrt | hds | hsc
  · rw [if_pos hrt]
    omega
  · rw [if_pos hds]
    omega
  · rw [if_pos hsc]
    omega

/-- The device has references to its implicit objects only. -/
theorem own_eq_zero (i : Implicit) {q : Nat → PresentParams} {c : Nat} (hc : c ∉ i.objects) :
    i.own q c = 0 ∧ i.bound c = 0 := by
  obtain ⟨rt, sc, ds⟩ := i
  have hcase : c ≠ rt ∧ some c ≠ ds ∧ c ≠ sc := by
    cases ds with
    | none => simpa [objects] using hc
    | some ds => simpa [objects] using hc
  unfold own bound
  rw [if_neg hcase.1, if_neg hcase.2.1, if_neg hcase.2.2]
  exact ⟨rfl, rfl⟩

theorem two_le_length (i : Implicit) : 2 ≤ i.objects.length := by
  obtain ⟨rt, sc, ds⟩ := i
  cases ds with
  | none => exact Nat.le_refl 2
  | some ds => exact Nat.le_succ 2

theorem length_le_three (i : Implicit) : i.objects.length ≤ 3 := by
  obtain ⟨rt, sc, ds⟩ := i
  cases ds with
  | none => exact Nat.le_succ 2
  | some ds => exact Nat.le_refl 3

end Implicit

/-- A device without its implicit objects. -/
def torn (m_bIsDestroying : Bool) : Device :=
  ⟨⟨0, 0⟩, 0, m_bIsDestroying, none, none, none, none, none⟩

namespace World

variable {i : Implicit} {q : Nat → PresentParams} {n m : Nat} {app : Nat → Nat}
  {release : World → World} {m_bIsDestroying : Bool}

/-- Without a depth stencil. -/
theorem destroyImplicitObjects_two {w w' : World} {c : Nat}
    (hdrop : dropRenderTarget release w = w') (hptr : w'.dev.m_pSwapchain = some c)
    (hauto : (w'.child c).m_presParam.EnableAutoDepthStencil = false) :
    destroyImplicitObjects release w = dropSwapChain release w' := by
  unfold destroyImplicitObjects
  rw [hdrop]
  dsimp only
  rw [hptr]
  exact if_neg (by rw [hauto]; exact Bool.false_ne_true)

/-- With a depth stencil. -/
theorem destroyImplicitObjects_three {w w' : World} {c : Nat}
    (hdrop : dropRenderTarget release w = w') (hptr : w'.dev.m_pSwapchain = some c)
    (hauto : (w'.child c).m_presParam.EnableAutoDepthStencil = true) :
    destroyImplicitObjects release w = dropSwapChain release (dropDepthStencil release w') := by
  unfold destroyImplicitObjects
  rw [hdrop]
  dsimp only
  rw [hptr]
  exact if_pos hauto

theorem destroyImplicitObjects_of (hrelease : Counting release) (hi : i.WF q n)
    (happ : ∀ c, app c + i.own q c + i.bound c < 2 ^ 16) (hm : m + i.unheld app < 2 ^ 16)
    (hpos : 0 < m) (h : m_bIsDestroying = true ∨ i.objects.length < m) :
    destroyImplicitObjects release (of (i.device m_bIsDestroying) q n (m + i.unheld app)
      (fun c => app c + i.own q c) i.bound) =
      of (torn m_bIsDestroying) q n m app fun _ => 0 := by
  obtain ⟨rt, sc, ds⟩ := i
  obtain ⟨hnodup, hlt, hauto⟩ := hi
  have hrt_lt : rt < n := hlt rt List.mem_cons_self
  have happ_rt := happ rt
  have happ_sc := happ sc
  have hgone_rt := gone_le (app rt)
  have hgone_sc := gone_le (app sc)
  cases ds with
  | none =>
      replace h : m_bIsDestroying = true ∨ 2 < m := h
      have hrs : rt ≠ sc := by simpa [Implicit.objects] using hnodup
      have hsc_lt : sc < n := hlt sc (by simp [Implicit.objects])
      simp only [Implicit.own, Implicit.bound, if_true, if_neg hrs, if_neg hrs.symm,
        reduceCtorEq, if_false] at happ_rt happ_sc
      have hsum : m + Implicit.unheld ⟨rt, sc, none⟩ app = m + gone (app sc) + gone (app rt) := by
        simp [Implicit.unheld, Implicit.objects]
        omega
      have hdrop := dropRenderTarget_of (q := q) (m := m + gone (app sc)) (c := rt) (a := app rt)
        (d := Implicit.device ⟨rt, sc, none⟩ m_bIsDestroying)
        (f := fun c => app c + Implicit.own ⟨rt, sc, none⟩ q c)
        (g := Implicit.bound ⟨rt, sc, none⟩) hrelease rfl rfl hrt_lt
        (by simp [Implicit.own, hrs]) (by simp [Implicit.bound]) (by omega) (by omega) (by omega)
        (h.imp_right fun h => by simp [Implicit.device]; omega)
      rw [hsum] at hm
      rw [hsum, destroyImplicitObjects_two hdrop (c := sc) rfl hauto,
        dropSwapChain_of (c := sc) (a := app sc) hrelease rfl hsc_lt
          (by simp [Implicit.own, hrs.symm])
          (by simp [Implicit.own, Implicit.bound, hrs.symm]; omega) hpos (by omega)
          (h.imp_right fun h => by simp [Implicit.device]; omega)]
      refine of_congr ?_ (fun _ => rfl) (fun c => ?_) fun c => ?_
      · simp [Implicit.device, torn]
      · by_cases hsc : c = sc
        · rw [hsc, Function.update_self]
        · rw [Function.update_of_ne hsc]
          by_cases hrt : c = rt
          · rw [hrt, Function.update_self]
          · rw [Function.update_of_ne hrt]
            simp [Implicit.own, hsc, hrt]
      · by_cases hrt : c = rt
        · rw [hrt, Function.update_self]
        · rw [Function.update_of_ne hrt]
          simp [Implicit.bound, hrt]
  | some ds =>
      replace h : m_bIsDestroying = true ∨ 3 < m := h
      have happ_ds := happ ds
      have hgone_ds := gone_le (app ds)
      obtain ⟨⟨hrd, hrs⟩, hds⟩ : (rt ≠ ds ∧ rt ≠ sc) ∧ ds ≠ sc := by
        simpa [Implicit.objects] using hnodup
      have hsc_lt : sc < n := hlt sc (by simp [Implicit.objects])
      have hds_lt : ds < n := hlt ds (by simp [Implicit.objects])
      simp only [Implicit.own, Implicit.bound, if_true, if_neg hrs, if_neg hrs.symm, if_neg hds,
        if_neg hds.symm, if_neg hrd, if_neg hrd.symm, Option.some.injEq]
        at happ_rt happ_sc happ_ds
      have hsum : m + Implicit.unheld ⟨rt, sc, some ds⟩ app =
          m + gone (app sc) + gone (app ds) + gone (app rt) := by
        simp [Implicit.unheld, Implicit.objects]
        omega
      have hdrop := dropRenderTarget_of (q := q) (m := m + gone (app sc) + gone (app ds)) (c := rt)
        (a := app rt) (d := Implicit.device ⟨rt, sc, some ds⟩ m_bIsDestroying)
        (f := fun c => app c + Implicit.own ⟨rt, sc, some ds⟩ q c)
        (g := Implicit.bound ⟨rt, sc, some ds⟩) hrelease rfl rfl hrt_lt
        (by simp [Implicit.own, hrs, hrd]) (by simp [Implicit.bound, hrd]) (by omega) (by omega)
        (by omega) (h.imp_right fun h => by simp [Implicit.device]; omega)
      rw [hsum] at hm
      rw [hsum, destroyImplicitObjects_three hdrop (c := sc) rfl hauto,
        dropDepthStencil_of (c := ds) (a := app ds) hrelease rfl rfl hds_lt
          (by simp [Implicit.own, hrd.symm, hds]) (by simp [Implicit.bound, hrd.symm]) (by omega)
          (by omega) (by omega) (h.imp_right fun h => by simp [Implicit.device]; omega),
        dropSwapChain_of (c := sc) (a := app sc) hrelease rfl hsc_lt
          (by simp [Implicit.own, hrs.symm, hds.symm])
          (by simp [Implicit.own, Implicit.bound, hrs.symm, hds.symm]; omega) hpos (by omega)
          (h.imp_right fun h => by simp [Implicit.device]; omega)]
      refine of_congr ?_ (fun _ => rfl) (fun c => ?_) fun c => ?_
      · simp [Implicit.device, torn]
      · by_cases hsc : c = sc
        · rw [hsc, Function.update_self]
        · rw [Function.update_of_ne hsc]
          by_cases hcd : c = ds
          · rw [hcd, Function.update_self]
          · rw [Function.update_of_ne hcd]
            by_cases hrt : c = rt
            · rw [hrt, Function.update_self]
            · rw [Function.update_of_ne hrt]
              simp [Implicit.own, hsc, hrt, hcd]
      · by_cases hcd : c = ds
        · rw [hcd, Function.update_self]
        · rw [Function.update_of_ne hcd]
          by_cases hrt : c = rt
          · rw [hrt, Function.update_self]
          · rw [Function.update_of_ne hrt]
            simp [Implicit.bound, hrt, hcd]

/-- While the implicit objects go the device has an additional reference for each. -/
theorem releaseInternalObjects_of (hrelease : Counting release) (hi : i.WF q n)
    (happ : ∀ c, app c + i.own q c + i.bound c < 2 ^ 16) (hpos : 0 < m + i.unheld app)
    (hm : m + i.unheld app + i.objects.length < 2 ^ 16) (h : m_bIsDestroying = true ∨ 0 < m)
    (resetState : Bool) :
    releaseInternalObjects release resetState (of (i.device m_bIsDestroying) q n
      (m + i.unheld app) (fun c => app c + i.own q c) i.bound) =
      of (torn m_bIsDestroying) q n m app fun _ => 0 := by
  have hcnt : (of (i.device m_bIsDestroying) q n (m + i.unheld app) (fun c => app c + i.own q c)
      i.bound).dev.m_implicitRefCnt.toNat = i.objects.length := by
    rw [of_dev]
    exact i.device_count m_bIsDestroying
  have htwo := i.two_le_length
  have hadd : m + i.unheld app + i.objects.length = m + i.objects.length + i.unheld app := by
    omega
  unfold releaseInternalObjects
  rw [hcnt]
  dsimp only
  rw [times_baseAddRef hpos, hadd, destroyImplicitObjects_of hrelease hi happ (by omega) (by omega)
    (h.imp_right fun h => by omega)]
  cases resetState with
  | false =>
      rw [if_neg Bool.false_ne_true]
      exact times_baseRelease _ (by omega)
  | true =>
      rw [if_pos rfl, resetRenderTarget_none rfl, resetDepthStencil_none rfl]
      exact times_baseRelease _ (by omega)

/-! ### The implicit objects are made -/

theorem newChild_of (hm : 0 < m) (hf : f n = 0) (hg : g n = 0) (p : PresentParams) :
    (of d q n m f g).newChild p =
      of d (Function.update q n p) (n + 1) (m + 1) (Function.update f n 1) g := by
  have hset : (World.mk { d with refs := .of m 0 (gone m) }
      (Function.update (children q n f g) n ⟨⟨0, 0⟩, p⟩) (n + 1) false).setChild n (.of 1 0 0) =
      of d (Function.update q n p) (n + 1) m (Function.update f n 1) g := by
    unfold setChild of
    refine congrArg (World.mk _ · _ _) (funext fun x => ?_)
    unfold children
    by_cases hx : x = n
    · subst hx
      simp [hg]
    · have hlt : x < n + 1 ↔ x < n := by omega
      simp [hx, hlt]
  have hrefs : (Function.update (children q n f g) n ⟨⟨0, 0⟩, p⟩ n).refs.addRef =
      (1, .of 1 0 0) := by
    rw [Function.update_self]
    show (D3DRefCounted.mk 0 0).addRef = _
    decide
  unfold newChild childAddRef of
  dsimp only
  rw [hrefs, if_pos rfl, hset, AddRef_of hm]
  rfl

theorem times_childAddRef (hc : c < n) (hm : 0 < m) (k : Nat) (hthere : 0 < f c)
    (hbound : f c + k + g c < 2 ^ 16) :
    times (·.childAddRef c) k (of d q n m f g) =
      of d q n m (Function.update f c (f c + k)) g := by
  induction k generalizing f with
  | zero => rw [times, Nat.add_zero, Function.update_eq_self]
  | succ k ih =>
      rw [times, childAddRef_of hc hm (by omega) (by omega), gone_pos hthere, Nat.add_zero,
        ih (by rw [Function.update_self]; omega) (by rw [Function.update_self]; omega),
        Function.update_idem, Function.update_self, Nat.add_assoc, Nat.add_comm 1 k]

theorem newSwapChain_of (hm : 0 < m) (hf : f n = 0) (hg : g n = 0) (p : PresentParams)
    (hp : p.sanitize.BackBufferCount + 1 < 2 ^ 16) :
    (of d q n m f g).newSwapChain p =
      of d (Function.update q n p.sanitize) (n + 1) (m + 1)
        (Function.update f n (p.sanitize.BackBufferCount + 1)) g := by
  unfold newSwapChain
  rw [newChild_of hm hf hg]
  have hid : (of d q n m f g).nextId = n := rfl
  rw [hid, times_childAddRef (Nat.lt_succ_self n) (Nat.succ_pos m) _
    (by rw [Function.update_self]; exact Nat.one_pos) (by rw [Function.update_self]; omega),
    Function.update_idem, Function.update_self, Nat.add_comm 1]

theorem initImplicitSwapchain_of (hm : 0 < m) (hf : f n = 0) (hg : g n = 0) (p : PresentParams)
    (hp : p.sanitize.BackBufferCount + 1 < 2 ^ 16) :
    (of d q n m f g).initImplicitSwapchain p =
      of { d with m_pSwapchain := some n, m_implicitRefCnt := d.m_implicitRefCnt + 1 }
        (Function.update q n p.sanitize) (n + 1) (m + 1)
        (Function.update f n (p.sanitize.BackBufferCount + 1)) g := by
  unfold initImplicitSwapchain
  rw [newSwapChain_of hm hf hg p hp]
  dsimp only
  rw [of_dev]
  rfl

theorem newChild_bind_of (hm : 0 < m) (hf : f n = 0) (hg : g n = 0) (p : PresentParams) :
    ((of d q n m f g).newChild p).bind n =
      of d (Function.update q n p) (n + 1) (m + 1) (Function.update f n 1)
        (Function.update g n 1) := by
  rw [newChild_of hm hf hg, bind_of (Nat.lt_succ_self n) (by rw [Function.update_self]; omega), hg]

theorem initImplicitRenderTarget_of (hm : 0 < m) (hf : f n = 0) (hg : g n = 0)
    (hslot : d.renderTarget = none) :
    (of d q n m f g).initImplicitRenderTarget =
      of { d with
        m_pImplicitRenderTarget := some n
        renderTarget := some n
        m_implicitRefCnt := d.m_implicitRefCnt + 1 }
        (Function.update q n ⟨0, false⟩) (n + 1) (m + 1) (Function.update f n 1)
        (Function.update g n 1) := by
  unfold initImplicitRenderTarget
  have hid : (of d q n m f g).nextId = n := rfl
  rw [hid]
  dsimp only
  rw [newChild_bind_of hm hf hg, resetRenderTarget_none hslot, of_dev]
  rfl

theorem initImplicitDepthStencil_of (hm : 0 < m) (hf : f n = 0) (hg : g n = 0)
    (hslot : d.depthStencil = none) :
    (of d q n m f g).initImplicitDepthStencil =
      of { d with
        m_pImplicitDepthStencil := some n
        depthStencil := some n
        m_implicitRefCnt := d.m_implicitRefCnt + 1 }
        (Function.update q n ⟨0, false⟩) (n + 1) (m + 1) (Function.update f n 1)
        (Function.update g n 1) := by
  unfold initImplicitDepthStencil
  have hid : (of d q n m f g).nextId = n := rfl
  rw [hid]
  dsimp only
  rw [newChild_bind_of hm hf hg, resetDepthStencil_none hslot, of_dev]
  rfl

end World

/-- The implicit objects that a device with `n` children makes next. -/
def Implicit.next (n : Nat) (m_presParam : PresentParams) : Implicit :=
  ⟨n + 1, n, if m_presParam.EnableAutoDepthStencil then some (n + 2) else none⟩

/-- What the children of that device are then. -/
def nextParams (q : Nat → PresentParams) (n : Nat) (m_presParam : PresentParams) :
    Nat → PresentParams :=
  let q := Function.update (Function.update q n m_presParam) (n + 1) ⟨0, false⟩
  if m_presParam.EnableAutoDepthStencil then Function.update q (n + 2) ⟨0, false⟩ else q

theorem nextParams_self (q : Nat → PresentParams) (n : Nat) (m_presParam : PresentParams) :
    nextParams q n m_presParam n = m_presParam := by
  have hn : n ≠ n + 1 := Nat.ne_of_lt (Nat.lt_succ_self n)
  have hn' : n ≠ n + 2 := by omega
  unfold nextParams
  split
  · rw [Function.update_of_ne hn', Function.update_of_ne hn, Function.update_self]
  · rw [Function.update_of_ne hn, Function.update_self]

namespace World

theorem initImplicitObjects_of (hm : 0 < m) (happ : ∀ c, n ≤ c → app c = 0) (p : PresentParams)
    (hp : p.sanitize.BackBufferCount + 1 < 2 ^ 16) :
    (of (torn false) q n m app fun _ => 0).initImplicitObjects p.sanitize =
      of ((Implicit.next n p).device false) (nextParams q n p.sanitize)
        (n + (Implicit.next n p).objects.length) (m + (Implicit.next n p).objects.length)
        (fun c => app c + (Implicit.next n p).own (nextParams q n p.sanitize) c)
        (Implicit.next n p).bound := by
  have hn : n + 1 ≠ n := Nat.succ_ne_self n
  have hn' : n + 2 ≠ n := by omega
  have hn'' : n + 2 ≠ n + 1 := Nat.succ_ne_self (n + 1)
  have hsc := initImplicitSwapchain_of (d := torn false) (q := q) (f := app) (g := fun _ => 0) hm
    (happ n (Nat.le_refl n)) rfl p.sanitize (by rw [p.sanitize_sanitize]; exact hp)
  rw [p.sanitize_sanitize] at hsc
  have hrt := initImplicitRenderTarget_of (n := n + 1) (m := m + 1)
    (d := { torn false with
      m_pSwapchain := some n, m_implicitRefCnt := (torn false).m_implicitRefCnt + 1 })
    (q := Function.update q n p.sanitize)
    (f := Function.update app n (p.sanitize.BackBufferCount + 1)) (g := fun _ => 0)
    (Nat.succ_pos m) (by rw [Function.update_of_ne hn]; exact happ _ (by omega)) rfl rfl
  unfold initImplicitObjects
  rw [hsc]
  dsimp only
  rw [hrt]
  obtain ⟨b, auto⟩ := p
  have hself := nextParams_self q n (PresentParams.sanitize ⟨b, auto⟩)
  cases auto with
  | false =>
      refine (if_neg Bool.false_ne_true).trans
        (of_congr rfl (fun _ => rfl) (fun c => ?_) fun c => ?_)
      · by_cases hrt : c = n + 1
        · rw [hrt, Function.update_self, happ _ (by omega)]
          simp [Implicit.own, Implicit.next]
        · rw [Function.update_of_ne hrt]
          by_cases hsc : c = n
          · rw [hsc, Function.update_self, happ _ (by omega)]
            simp [Implicit.own, Implicit.next, hself]
          · rw [Function.update_of_ne hsc]
            simp [Implicit.own, Implicit.next, hrt, hsc]
      · by_cases hrt : c = n + 1
        · rw [hrt, Function.update_self]
          simp [Implicit.bound, Implicit.next]
        · rw [Function.update_of_ne hrt]
          simp [Implicit.bound, Implicit.next, hrt]
  | true =>
      rw [initImplicitDepthStencil_of (Nat.succ_pos _)
        (by rw [Function.update_of_ne hn'', Function.update_of_ne hn']; exact happ _ (by omega))
        (by rw [Function.update_of_ne hn'']) rfl]
      refine (if_pos rfl).trans (of_congr rfl (fun _ => rfl) (fun c => ?_) fun c => ?_)
      · by_cases hds : c = n + 2
        · rw [hds, Function.update_self, happ _ (by omega)]
          simp [Implicit.own, Implicit.next]
        · rw [Function.update_of_ne hds]
          by_cases hrt : c = n + 1
          · rw [hrt, Function.update_self, happ _ (by omega)]
            simp [Implicit.own, Implicit.next]
          · rw [Function.update_of_ne hrt]
            by_cases hsc : c = n
            · rw [hsc, Function.update_self, happ _ (by omega)]
              simp [Implicit.own, Implicit.next, hself]
            · rw [Function.update_of_ne hsc]
              simp [Implicit.own, Implicit.next, hrt, hsc, hds]
      · by_cases hds : c = n + 2
        · rw [hds, Function.update_self]
          simp [Implicit.bound, Implicit.next]
        · rw [Function.update_of_ne hds]
          by_cases hrt : c = n + 1
          · rw [hrt, Function.update_self]
            simp [Implicit.bound, Implicit.next]
          · rw [Function.update_of_ne hrt]
            simp [Implicit.bound, Implicit.next, hrt, hds]

end World

end RemixBridge.DeviceLifetime
