import RemixBridge.Objects.DeviceCounts
import Mathlib.Data.Finset.Card
import Mathlib.Data.Finset.Range

/-!
# Objects — DeviceRuns

The lifetime of a device over the runs of the application's calls.

* `Rests`: the device with its implicit objects, between two calls.
* `device_lifetime`: every run that keeps the counts apart is sound.
-/

namespace RemixBridge.DeviceLifetime
open Runs

/-! ### The references to the device -/

section held

variable {app : Nat → Nat} {i : Implicit} {q : Nat → PresentParams} {n n' c : Nat}

/-- The children that the application has references to. -/
def held (app : Nat → Nat) (n : Nat) : Finset Nat := (Finset.range n).filter (0 < app ·)

@[simp] theorem mem_held : c ∈ held app n ↔ c < n ∧ 0 < app c := by
  simp [held]

theorem held_insert (hc : c < n) (x : Nat) :
    held (Function.update app c (x + 1)) n = insert c (held app n) := by
  ext y
  by_cases hy : y = c
  · subst hy
    simp [hc]
  · simp [hy]

theorem held_erase : held (Function.update app c 0) n = (held app n).erase c := by
  ext y
  by_cases hy : y = c
  · subst hy
    simp
  · simp [hy]

theorem held_grow (happ : ∀ c, n ≤ c → app c = 0) (hn : n ≤ n') : held app n' = held app n := by
  ext y
  rw [mem_held, mem_held]
  refine ⟨fun ⟨_, hy⟩ => ⟨?_, hy⟩, fun ⟨hlt, hy⟩ => ⟨Nat.lt_of_lt_of_le hlt hn, hy⟩⟩
  exact Nat.lt_of_not_le fun hle => Nat.lt_irrefl 0 (happ y hle ▸ hy)

/-- A further child leaves no fewer of the others. -/
theorem card_sdiff_le_insert (l : List Nat) :
    (held app n \ l.toFinset).card ≤ (insert c (held app n) \ l.toFinset).card :=
  Finset.card_le_card (Finset.sdiff_subset_sdiff (Finset.subset_insert _ _) (subset_refl _))

/-- The children that have references of the Interface: each has one to the device. -/
def Implicit.live (i : Implicit) (app : Nat → Nat) (n : Nat) : Finset Nat :=
  held app n ∪ i.objects.toFinset

theorem foldr_gone (l : List Nat) :
    l.foldr (fun c m => gone (app c) + m) 0 = (l.filter (app · = 0)).length := by
  induction l with
  | nil => rfl
  | cons c l ih =>
      rw [List.foldr_cons, ih, List.filter_cons]
      by_cases hc : app c = 0
      · simp [gone, hc]
        omega
      · simp [gone, hc]

theorem Implicit.card_live (hi : i.WF q n) :
    (i.live app n).card = (held app n).card + i.unheld app := by
  have hunheld : i.unheld app = (i.objects.toFinset \ held app n).card := by
    have hset : i.objects.toFinset \ held app n = (i.objects.filter (app · = 0)).toFinset := by
      ext c
      simp only [Finset.mem_sdiff, List.mem_toFinset, mem_held, List.mem_filter, decide_eq_true_eq]
      refine and_congr_right fun hc => ?_
      have hlt := hi.lt c hc
      omega
    rw [hset, List.toFinset_card_of_nodup (hi.nodup.filter _), Implicit.unheld, foldr_gone]
  rw [hunheld, live, ← Finset.union_sdiff_self_eq_union, Finset.card_union_of_disjoint]
  exact Finset.disjoint_sdiff

theorem Implicit.card_live_sdiff (hi : i.WF q n) :
    (i.live app n).card = (held app n \ i.objects.toFinset).card + i.objects.length := by
  rw [live, ← Finset.card_sdiff_add_card, List.toFinset_card_of_nodup hi.nodup]

end held

/-! ### Runs that keep the counts apart -/

/-- There is room for so many more references. -/
def room (refs : D3DRefCounted) (k : Nat) : Prop := (refs.getRef .Object).toNat + k < 2 ^ 16

/-- The implicit objects are not all that the application has references to. -/
def State.Keeps (s : State) (appDevice : Nat) (app : Nat → Nat) : Prop :=
  (∃ c ∈ s.world.dev.implicitObjects, 0 < app c) →
    0 < appDevice ∨ ∃ c < s.world.nextId, c ∉ s.world.dev.implicitObjects ∧ 0 < app c

/-- The implicit objects that the parameters ask for. -/
def PresentParams.implicitObjects (p : PresentParams) : Nat :=
  if p.EnableAutoDepthStencil then 3 else 2

/-- The numbers of references stay below `2 ^ 16`, no additional swap chain is made, and a `Release`
does not leave the application with implicit objects only. -/
def Ok (s : State) : Act → Prop
  | .AddRef | .GetDevice _ | .create => room s.world.dev.refs 1
  | .Release => s.Keeps (s.appDevice - 1) s.app
  | .childAddRef c => room (s.world.child c).refs 1
  | .childRelease c => s.Keeps s.appDevice (Function.update s.app c (s.app c - 1))
  | .get g => ∀ c ∈ s.world.getter g, room (s.world.child c).refs 1
  | .CreateAdditionalSwapChain _ => False
  | .Reset _ p =>
      room s.world.dev.refs s.world.dev.implicitObjects.length ∧
        s.appDevice + ((List.range s.world.nextId).filter (0 < s.app ·)).length +
          p.implicitObjects < 2 ^ 16 ∧
        p.sanitize.BackBufferCount + 1 < 2 ^ 16

instance (refs : D3DRefCounted) (k : Nat) : Decidable (room refs k) :=
  inferInstanceAs (Decidable (_ < _))

instance (s : State) (appDevice : Nat) (app : Nat → Nat) : Decidable (s.Keeps appDevice app) :=
  inferInstanceAs (Decidable (_ → _))

instance (s : State) : (a : Act) → Decidable (Ok s a)
  | .AddRef | .GetDevice _ | .create => inferInstanceAs (Decidable (room _ _))
  | .Release | .childRelease _ => inferInstanceAs (Decidable (State.Keeps _ _ _))
  | .childAddRef _ => inferInstanceAs (Decidable (room _ _))
  | .get _ => inferInstanceAs (Decidable (∀ c ∈ _, _))
  | .CreateAdditionalSwapChain _ => .isFalse id
  | .Reset _ _ => inferInstanceAs (Decidable (_ ∧ _))

/-- The device is there with its implicit objects, and the application has a reference to it or to
another child. -/
structure Rests (s : State) (i : Implicit) (q : Nat → PresentParams) (n : Nat) : Prop where
  world : s.world = .of (i.device false) q n (s.appDevice + (i.live s.app n).card)
    (fun c => s.app c + i.own q c) i.bound
  wf : i.WF q n
  app : ∀ c, n ≤ c → s.app c = 0
  child_lt : ∀ c, s.app c + i.own q c + i.bound c < 2 ^ 16
  dev_lt : s.appDevice + (i.live s.app n).card < 2 ^ 16
  ordinary : 0 < s.appDevice + (held s.app n \ i.objects.toFinset).card
  returned : ∀ v, s.returned = some v →
    v.toNat = s.appDevice + (held s.app n \ i.objects.toFinset).card

/-- The device has been deleted, and its children with it. -/
structure Deleted (s : State) (q : Nat → PresentParams) (n : Nat) : Prop where
  world : s.world = .of (torn true) q n 0 (fun _ => 0) fun _ => 0
  appDevice : s.appDevice = 0
  app : ∀ c, s.app c = 0
  returned : ∀ v, s.returned = some v → v = 0

/-- In every state one of the two holds. -/
def Inv (s : State) : Prop := (∃ i q n, Rests s i q n) ∨ ∃ q n, Deleted s q n

section Rests

variable {s : State} {i : Implicit} {q : Nat → PresentParams} {n : Nat}

theorem Rests.objects (h : Rests s i q n) : s.world.dev.implicitObjects = i.objects := by
  rw [h.world]
  rfl

theorem Rests.nextId (h : Rests s i q n) : s.world.nextId = n := by
  rw [h.world]
  rfl

theorem Rests.length_heldChildren (h : Rests s i q n) :
    s.heldChildren.length = (held s.app n \ i.objects.toFinset).card := by
  unfold State.heldChildren
  rw [← List.toFinset_card_of_nodup (List.nodup_range.filter _), h.objects, h.nextId]
  congr 1
  ext c
  simp [and_assoc]

theorem Rests.is_held (h : Rests s i q n) : s.Held := by
  by_cases hdev : 0 < s.appDevice
  · exact .inl hdev
  · have hcard : 0 < (held s.app n \ i.objects.toFinset).card := by
      have hordinary := h.ordinary
      omega
    obtain ⟨c, hc⟩ := Finset.card_pos.mp hcard
    exact .inr ⟨c, (mem_held.mp (Finset.mem_sdiff.mp hc).1).2⟩

theorem Rests.count_pos (h : Rests s i q n) : 0 < s.appDevice + (i.live s.app n).card := by
  rw [Implicit.card_live_sdiff h.wf]
  have htwo := i.two_le_length
  omega

theorem Rests.sound (h : Rests s i q n) : s.Sound where
  fault := by
    rw [h.world]
    rfl
  implicit := by
    rw [h.objects, h.world, World.of_dev]
    exact i.device_count false
  returned v hv := by
    rw [h.returned v hv, h.length_heldChildren]
  alive _ := by
    rw [h.world, World.of_dev]
    exact gone_pos h.count_pos
  deleted hidle := absurd h.is_held hidle

theorem Rests.room_dev (h : Rests s i q n) {k : Nat} (hroom : room s.world.dev.refs k) :
    s.appDevice + (i.live s.app n).card + k < 2 ^ 16 := by
  unfold room at hroom
  have hcnt : ∀ m < 2 ^ 16, ((D3DRefCounted.of m 0 (gone m)).getRef .Object).toNat = m :=
    fun m hm => D3DRefCounted.getRef_object_of hm
  rw [h.world, World.of_dev] at hroom
  dsimp only at hroom
  rwa [hcnt _ h.dev_lt] at hroom

theorem Rests.room_child (h : Rests s i q n) {c k : Nat} (hc : c < n)
    (hroom : room (s.world.child c).refs k) :
    s.app c + i.own q c + i.bound c + k < 2 ^ 16 := by
  unfold room at hroom
  rw [h.world, World.of_child hc] at hroom
  rwa [D3DRefCounted.getRef_object_of (h.child_lt c)] at hroom

/-! ### One more reference -/

/-- A reference to the device. -/
theorem Rests.addDevice (h : Rests s i q n) (hroom : room s.world.dev.refs 1)
    (returned : Option Word) (hreturned : returned = none ∨ returned = some s.world.AddRef.1) :
    Rests { s with
      world := s.world.AddRef.2, appDevice := s.appDevice + 1, returned := returned } i q n where
  world := by
    dsimp only
    rw [h.world, World.AddRef_of h.count_pos, Nat.add_right_comm]
  wf := h.wf
  app := h.app
  child_lt := h.child_lt
  dev_lt := by
    have hlt := h.room_dev hroom
    dsimp only
    omega
  ordinary := by
    dsimp only
    omega
  returned := by
    rintro v rfl
    rcases hreturned with hnone | hsome
    · exact absurd hnone (Option.some_ne_none v)
    · have hcard : (i.live s.app n).card =
          (held s.app n \ i.objects.toFinset).card + i.objects.length :=
        Implicit.card_live_sdiff h.wf
      have hcnt : (i.device false).m_implicitRefCnt.toNat = i.objects.length := i.device_count false
      have hvalue : v.toNat = s.appDevice + (i.live s.app n).card + 1 -
          (i.device false).m_implicitRefCnt.toNat := by
        rw [Option.some.inj hsome, h.world]
        exact World.AddRef_value (h.room_dev hroom) (by omega)
      dsimp only
      omega

/-- A reference to a child that is there. -/
theorem Rests.addChild (h : Rests s i q n) {c : Nat} (hc : c ∈ i.live s.app n)
    (hroom : room (s.world.child c).refs 1) :
    Rests { s with
      world := s.world.childAddRef c
      app := Function.update s.app c (s.app c + 1)
      returned := none } i q n := by
  have hlive : c < n ∧ 0 < s.app c + i.own q c := by
    rcases Finset.mem_union.mp hc with hheld | hobj
    · obtain ⟨hlt, hpos⟩ := mem_held.mp hheld
      exact ⟨hlt, Nat.lt_of_lt_of_le hpos (Nat.le_add_right _ _)⟩
    · have hobj' := List.mem_toFinset.mp hobj
      exact ⟨h.wf.lt c hobj', Nat.lt_of_lt_of_le (i.own_pos hobj') (Nat.le_add_left _ _)⟩
  obtain ⟨hlt, hpos⟩ := hlive
  have hbound := h.room_child hlt hroom
  have hsame : i.live (Function.update s.app c (s.app c + 1)) n = i.live s.app n := by
    rw [Implicit.live, held_insert hlt, Finset.insert_union]
    exact Finset.insert_eq_self.mpr hc
  constructor
  · dsimp only
    rw [h.world, World.childAddRef_of hlt h.count_pos (by omega) (by omega), gone_pos hpos, hsame]
    refine World.of_congr rfl (fun _ => rfl) (fun x => ?_) fun _ => rfl
    by_cases hx : x = c
    · rw [hx, Function.update_self, Function.update_self, Nat.add_right_comm]
    · rw [Function.update_of_ne hx, Function.update_of_ne hx]
  · exact h.wf
  · intro x hx
    dsimp only
    rw [Function.update_of_ne (by omega)]
    exact h.app x hx
  · intro x
    dsimp only
    by_cases hx : x = c
    · rw [hx, Function.update_self]
      omega
    · rw [Function.update_of_ne hx]
      exact h.child_lt x
  · dsimp only
    rw [hsame]
    exact h.dev_lt
  · have hle : (held s.app n \ i.objects.toFinset).card ≤
        (held (Function.update s.app c (s.app c + 1)) n \ i.objects.toFinset).card := by
      rw [held_insert hlt]
      exact card_sdiff_le_insert _
    have hordinary := h.ordinary
    dsimp only
    omega
  · exact fun v hv => absurd hv.symm (Option.some_ne_none v)

/-- A new child. -/
theorem Rests.newChild (h : Rests s i q n) (hroom : room s.world.dev.refs 1)
    (p : PresentParams) :
    Rests { s with
      world := s.world.newChild p
      app := Function.update s.app s.world.nextId 1
      returned := none } i (Function.update q n p) (n + 1) := by
  have hn : n ∉ i.objects := fun hobj => Nat.lt_irrefl n (h.wf.lt n hobj)
  obtain ⟨hown, hbound⟩ := i.own_eq_zero (q := q) hn
  have happ : s.app n = 0 := h.app n (Nat.le_refl n)
  have hne : ∀ c, i.own (Function.update q n p) c = i.own q c := fun c => by
    unfold Implicit.own
    by_cases hsc : c = i.sc
    · have hlt : c < n := hsc ▸ h.wf.lt i.sc i.sc_mem
      rw [Function.update_of_ne (Nat.ne_of_lt hlt)]
    · rw [if_neg hsc, if_neg hsc]
  have hlive : i.live (Function.update s.app n 1) (n + 1) = insert n (i.live s.app n) := by
    rw [Implicit.live, held_insert (Nat.lt_succ_self n) 0, held_grow h.app (Nat.le_succ n),
      Finset.insert_union]
    rfl
  have hnew : n ∉ i.live s.app n := by
    intro hmem
    rcases Finset.mem_union.mp hmem with hheld | hobj
    · exact Nat.lt_irrefl n (mem_held.mp hheld).1
    · exact hn (List.mem_toFinset.mp hobj)
  have hcard : (i.live (Function.update s.app n 1) (n + 1)).card = (i.live s.app n).card + 1 := by
    rw [hlive, Finset.card_insert_of_notMem hnew]
  constructor
  · dsimp only
    rw [h.nextId, hcard, h.world, World.newChild_of h.count_pos
      (by rw [happ, hown]) hbound]
    refine World.of_congr rfl (fun _ => rfl) (fun x => ?_) fun _ => rfl
    rw [hne x]
    by_cases hx : x = n
    · rw [hx, Function.update_self, Function.update_self, hown]
    · rw [Function.update_of_ne hx, Function.update_of_ne hx]
  · exact {
      nodup := h.wf.nodup
      lt := fun c hc => Nat.lt_succ_of_lt (h.wf.lt c hc)
      auto := by
        rw [Function.update_of_ne (Nat.ne_of_lt (h.wf.lt i.sc i.sc_mem))]
        exact h.wf.auto }
  · intro x hx
    dsimp only
    rw [h.nextId, Function.update_of_ne (by omega)]
    exact h.app x (by omega)
  · intro x
    dsimp only
    rw [h.nextId, hne x]
    by_cases hx : x = n
    · rw [hx, Function.update_self, hown, hbound]
      decide
    · rw [Function.update_of_ne hx]
      exact h.child_lt x
  · have hlt := h.room_dev hroom
    dsimp only
    rw [h.nextId, hcard]
    omega
  · have hle : (held s.app n \ i.objects.toFinset).card ≤
        (held (Function.update s.app n 1) (n + 1) \ i.objects.toFinset).card := by
      rw [held_insert (Nat.lt_succ_self n) 0, held_grow h.app (Nat.le_succ n)]
      exact card_sdiff_le_insert _
    have hordinary := h.ordinary
    dsimp only
    rw [h.nextId]
    omega
  · exact fun v hv => absurd hv.symm (Option.some_ne_none v)

end Rests

theorem Deleted.sound {s : State} {q : Nat → PresentParams} {n : Nat} (h : Deleted s q n) :
    s.Sound := by
  have hidle : ¬s.Held := by
    rintro (hdev | ⟨c, hc⟩)
    · rw [h.appDevice] at hdev
      exact Nat.lt_irrefl 0 hdev
    · rw [h.app c] at hc
      exact Nat.lt_irrefl 0 hc
  have hnone : s.heldChildren = [] := by
    simp [State.heldChildren, h.app]
  exact {
    fault := by rw [h.world]; rfl
    implicit := by rw [h.world]; rfl
    returned := fun v hv => by rw [h.returned v hv, h.appDevice, hnone]; rfl
    alive := fun hheld => absurd hheld hidle
    deleted := fun _ => by rw [h.world]; rfl }

/-! ### One less reference -/

/-- A `Release` of the device, by the application or by a child that has no reference any more. -/
theorem release_inv {i : Implicit} {q : Nat → PresentParams} {n appDevice : Nat} {app : Nat → Nat}
    (hi : i.WF q n) (happ : ∀ c, n ≤ c → app c = 0)
    (hchild : ∀ c, app c + i.own q c + i.bound c < 2 ^ 16)
    (hdev : appDevice + (i.live app n).card + 1 < 2 ^ 16)
    (hkeeps : (∃ c ∈ i.objects, 0 < app c) →
      0 < appDevice ∨ ∃ c < n, c ∉ i.objects ∧ 0 < app c) {w : World}
    (hw : w = .of (i.device false) q n (appDevice + (i.live app n).card + 1)
      (fun c => app c + i.own q c) i.bound) (returned : Option Word)
    (hreturned : returned = none ∨ returned = some w.Release.1) :
    Inv ⟨w.Release.2, appDevice, app, returned⟩ := by
  have hcard : (i.live app n).card =
      (held app n \ i.objects.toFinset).card + i.objects.length :=
    Implicit.card_live_sdiff hi
  have hcnt : (i.device false).m_implicitRefCnt.toNat = i.objects.length := i.device_count false
  have htwo := i.two_le_length
  have hthree := i.length_le_three
  by_cases hmore : 0 < appDevice + (held app n \ i.objects.toFinset).card
  · -- an ordinary reference is left: the count goes down
    refine .inl ⟨i, q, n, ?_, hi, happ, hchild, Nat.lt_of_succ_lt hdev, hmore, ?_⟩
    · have hcounts := World.releaseWith_of (d := i.device false) (q := q) (n := n)
        (m := appDevice + (i.live app n).card) (f := fun c => app c + i.own q c) (g := i.bound)
        (World.releaseInternalObjects World.releaseNested true) (by omega) hdev (.inr (by omega))
      rw [← hw] at hcounts
      exact hcounts
    · rintro v rfl
      rcases hreturned with hnone | hsome
      · exact absurd hnone (Option.some_ne_none v)
      · have hvalue : v.toNat = appDevice + (i.live app n).card -
            (i.device false).m_implicitRefCnt.toNat := by
          have hcounts := World.releaseWith_value (d := i.device false) (q := q) (n := n)
            (m := appDevice + (i.live app n).card) (f := fun c => app c + i.own q c) (g := i.bound)
            (World.releaseInternalObjects World.releaseNested true) hdev (by omega)
          rw [← hw] at hcounts
          rw [Option.some.inj hsome]
          exact hcounts
        dsimp only
        omega
  · -- it was the last one: the application has none to an implicit object, and the device goes
    obtain ⟨rfl, hempty⟩ : appDevice = 0 ∧ (held app n \ i.objects.toFinset).card = 0 := by omega
    have hordinary : ∀ c < n, c ∉ i.objects → app c = 0 := by
      intro c hc hobj
      by_contra hpos
      have hmem : c ∈ held app n \ i.objects.toFinset :=
        Finset.mem_sdiff.mpr ⟨mem_held.mpr ⟨hc, Nat.pos_of_ne_zero hpos⟩, by simpa using hobj⟩
      exact Finset.card_ne_zero_of_mem hmem hempty
    have hzero : ∀ c, app c = 0 := by
      intro c
      by_cases hc : n ≤ c
      · exact happ c hc
      by_cases hobj : c ∈ i.objects
      · by_contra hpos
        obtain hdev | ⟨c', hc', hobj', hpos'⟩ := hkeeps ⟨c, hobj, Nat.pos_of_ne_zero hpos⟩
        · exact Nat.lt_irrefl 0 hdev
        · rw [hordinary c' hc' hobj'] at hpos'
          exact Nat.lt_irrefl 0 hpos'
      · exact hordinary c (Nat.lt_of_not_le hc) hobj
    have hunheld : (i.live app n).card = i.unheld app := by
      have hnone : held app n = ∅ := by
        ext c
        simp [hzero c]
      rw [Implicit.card_live hi, hnone, Finset.card_empty, Nat.zero_add]
    have hgoes := World.releaseInternalObjects_of (m := 0) World.counting_nested hi hchild
      (by omega) (by omega) (.inl rfl) true
    have hdevice : { i.device false with m_bIsDestroying := true } = i.device true := rfl
    have hlast := World.releaseWith_last (d := i.device false) (q := q) (n := n)
      (m := 0 + (i.live app n).card) (f := fun c => app c + i.own q c) (g := i.bound)
      (World.releaseInternalObjects World.releaseNested true) (by omega) hdev rfl (by omega)
    rw [hdevice, hunheld, hgoes, ← hunheld, ← hw] at hlast
    replace hlast : w.Release = (0, .of (torn true) q n 0 app fun _ => 0) := hlast
    have happ0 : app = fun _ => 0 := funext hzero
    refine .inr ⟨q, n, ?_, rfl, hzero, ?_⟩
    · dsimp only
      rw [hlast, happ0]
    · rintro v rfl
      rcases hreturned with hnone | hsome
      · exact absurd hnone (Option.some_ne_none v)
      · rw [Option.some.inj hsome, hlast]

section Rests

variable {s : State} {i : Implicit} {q : Nat → PresentParams} {n : Nat}

/-- The application releases a child. -/
theorem Rests.releaseChild (h : Rests s i q n) {c : Nat} (hpos : 0 < s.app c)
    (hkeeps : s.Keeps s.appDevice (Function.update s.app c (s.app c - 1))) :
    Inv { s with
      world := s.world.childRelease (·.Release.2) c
      app := Function.update s.app c (s.app c - 1)
      returned := none } := by
  obtain ⟨a, ha⟩ : ∃ a, s.app c = a + 1 := ⟨s.app c - 1, by omega⟩
  have hc : c < n := Nat.lt_of_not_le fun hle => by
    rw [h.app c hle] at hpos
    exact Nat.lt_irrefl 0 hpos
  have hbound := h.child_lt c
  have hfewer : ∀ x, Function.update s.app c a x ≤ s.app x := fun x => by
    by_cases hx : x = c
    · rw [hx, Function.update_self]
      omega
    · rw [Function.update_of_ne hx]
  have happ : ∀ x, n ≤ x → Function.update s.app c a x = 0 := fun x hx =>
    Nat.le_zero.mp (h.app x hx ▸ hfewer x)
  have hchild : ∀ x, Function.update s.app c a x + i.own q x + i.bound x < 2 ^ 16 := fun x => by
    have hlt := h.child_lt x
    have hle := hfewer x
    omega
  have hrefs : Function.update (fun x => s.app x + i.own q x) c (a + i.own q c) =
      fun x => Function.update s.app c a x + i.own q x := by
    funext x
    by_cases hx : x = c
    · rw [hx, Function.update_self, Function.update_self]
    · rw [Function.update_of_ne hx, Function.update_of_ne hx]
  have hsub : s.app c - 1 = a := by omega
  have hrelease : s.world.childRelease (·.Release.2) c =
      if a + i.own q c = 0 then
        (World.of (i.device false) q n (s.appDevice + (i.live s.app n).card)
          (fun x => Function.update s.app c a x + i.own q x) i.bound).Release.2
      else
        World.of (i.device false) q n (s.appDevice + (i.live s.app n).card)
          (fun x => Function.update s.app c a x + i.own q x) i.bound := by
    rw [h.world, World.childRelease_eq (a := a + i.own q c) hc (by omega) (by omega), hrefs]
  rw [hsub] at hkeeps ⊢
  rw [hrelease]
  by_cases hlast : a + i.own q c = 0
  · -- the child has no reference any more, and gives its own to the device back
    have hobj : c ∉ i.objects := fun hmem => by
      have hown := i.own_pos (q := q) hmem
      omega
    have hlive : i.live (Function.update s.app c a) n = (i.live s.app n).erase c := by
      have ha0 : a = 0 := by omega
      have hobjects : i.objects.toFinset.erase c = i.objects.toFinset :=
        Finset.erase_eq_of_notMem (by simpa using hobj)
      rw [Implicit.live, ha0, held_erase, Implicit.live, Finset.erase_union_distrib, hobjects]
    have hmem : c ∈ i.live s.app n := Finset.mem_union_left _ (mem_held.mpr ⟨hc, hpos⟩)
    have hcard : (i.live s.app n).card = (i.live (Function.update s.app c a) n).card + 1 := by
      rw [hlive, Finset.card_erase_add_one hmem]
    have hdev := h.dev_lt
    rw [if_pos hlast]
    unfold State.Keeps at hkeeps
    rw [h.objects, h.nextId] at hkeeps
    exact release_inv h.wf happ hchild (by omega) hkeeps (by rw [hcard, ← Nat.add_assoc]) none
      (.inl rfl)
  · -- it has one more, of the application or of the device
    have hheld : held (Function.update s.app c a) n \ i.objects.toFinset =
        held s.app n \ i.objects.toFinset := by
      ext x
      rw [Finset.mem_sdiff, Finset.mem_sdiff, mem_held, mem_held]
      by_cases hx : x = c
      · subst hx
        rw [Function.update_self]
        refine and_congr_left fun hobj => ?_
        have hown := (i.own_eq_zero (q := q) (by simpa using hobj : x ∉ i.objects)).1
        omega
      · rw [Function.update_of_ne hx]
    have hcard : (i.live (Function.update s.app c a) n).card = (i.live s.app n).card := by
      rw [Implicit.card_live_sdiff h.wf, Implicit.card_live_sdiff h.wf, hheld]
    rw [if_neg hlast]
    refine .inl ⟨i, q, n, ?_, h.wf, happ, hchild, ?_, ?_, ?_⟩
    · dsimp only
      rw [hcard]
    · dsimp only
      rw [hcard]
      exact h.dev_lt
    · dsimp only
      rw [hheld]
      exact h.ordinary
    · exact fun v hv => absurd hv.symm (Option.some_ne_none v)

end Rests

/-! ### The implicit objects are made again -/

theorem Implicit.next_length (n : Nat) (p : PresentParams) :
    (Implicit.next n p).objects.length = p.implicitObjects := by
  obtain ⟨b, auto⟩ := p
  cases auto <;> rfl

theorem Implicit.next_wf (q : Nat → PresentParams) (n : Nat) (p : PresentParams) :
    (Implicit.next n p).WF (nextParams q n p.sanitize)
      (n + (Implicit.next n p).objects.length) := by
  have hself := nextParams_self q n p.sanitize
  obtain ⟨b, auto⟩ := p
  cases auto with
  | false =>
      exact {
        nodup := by simp [next, objects]
        lt := by
          intro c hc
          have hcase : c = n + 1 ∨ c = n := by simpa [next, objects] using hc
          show c < n + 2
          omega
        auto := by
          show (nextParams q n _ n).EnableAutoDepthStencil = _
          rw [hself]
          rfl }
  | true =>
      exact {
        nodup := by simp [next, objects]
        lt := by
          intro c hc
          have hcase : c = n + 1 ∨ c = n + 2 ∨ c = n := by
            simpa [next, objects] using hc
          show c < n + 3
          omega
        auto := by
          show (nextParams q n _ n).EnableAutoDepthStencil = _
          rw [hself]
          rfl }

/-- The application has no reference to them yet. -/
theorem Implicit.le_of_mem_next {n c : Nat} {p : PresentParams}
    (hc : c ∈ (Implicit.next n p).objects) : n ≤ c := by
  obtain ⟨b, auto⟩ := p
  cases auto with
  | false =>
      have hcase : c = n + 1 ∨ c = n := by simpa [next, objects] using hc
      omega
  | true =>
      have hcase : c = n + 1 ∨ c = n + 2 ∨ c = n := by
        simpa [next, objects] using hc
      omega

theorem Implicit.next_refs (q : Nat → PresentParams) (n : Nat) {p : PresentParams}
    (hp : p.sanitize.BackBufferCount + 1 < 2 ^ 16) (c : Nat) :
    (Implicit.next n p).own (nextParams q n p.sanitize) c + (Implicit.next n p).bound c <
      2 ^ 16 := by
  have hself := nextParams_self q n p.sanitize
  have hds : ∀ c, (if some c = (Implicit.next n p).ds then 1 else 0) ≤
      if c = n + 2 then 1 else 0 := by
    intro c
    obtain ⟨b, auto⟩ := p
    cases auto with
    | false => exact Nat.zero_le _
    | true => simp [next]
  have hds' := hds c
  unfold own bound
  show (if c = n + 1 then 1 else 0) + (if some c = (Implicit.next n p).ds then 1 else 0) +
    (if c = n then (nextParams q n p.sanitize c).BackBufferCount + 1 else 0) +
      ((if c = n + 1 then 1 else 0) + if some c = (Implicit.next n p).ds then 1 else 0) < 2 ^ 16
  by_cases hsc : c = n
  · subst hsc
    rw [if_neg (by omega : ¬c = c + 2)] at hds'
    rw [hself, if_neg (by omega : c ≠ c + 1), if_pos rfl]
    omega
  · rw [if_neg hsc]
    split_ifs at hds' ⊢ <;> omega

/-- A device without implicit objects makes them. -/
theorem rests_init {q : Nat → PresentParams} {n appDevice : Nat} {app : Nat → Nat} {w : World}
    (hw : w = .of (torn false) q n (appDevice + (held app n).card) app fun _ => 0)
    (hpos : 0 < appDevice) (happ : ∀ c, n ≤ c → app c = 0) (hchild : ∀ c, app c < 2 ^ 16)
    {p : PresentParams} (hp : p.sanitize.BackBufferCount + 1 < 2 ^ 16)
    (hdev : appDevice + (held app n).card + p.implicitObjects < 2 ^ 16) :
    Rests ⟨w.initImplicitObjects p.sanitize, appDevice, app, none⟩ (Implicit.next n p)
      (nextParams q n p.sanitize) (n + (Implicit.next n p).objects.length) := by
  have hheld : held app (n + (Implicit.next n p).objects.length) = held app n :=
    held_grow happ (Nat.le_add_right _ _)
  have hwf := Implicit.next_wf q n p
  have hdisjoint : held app n \ (Implicit.next n p).objects.toFinset = held app n := by
    refine Finset.sdiff_eq_self_of_disjoint (Finset.disjoint_left.mpr fun c hc hobj => ?_)
    have hle := Implicit.le_of_mem_next (List.mem_toFinset.mp hobj)
    have hlt := (mem_held.mp hc).1
    omega
  have hcard : ((Implicit.next n p).live app (n + (Implicit.next n p).objects.length)).card =
      (held app (n + (Implicit.next n p).objects.length) \
        (Implicit.next n p).objects.toFinset).card + (Implicit.next n p).objects.length :=
    Implicit.card_live_sdiff hwf
  rw [hheld, hdisjoint] at hcard
  have hlength := Implicit.next_length n p
  refine ⟨?_, hwf, fun c hc => happ c (by omega), fun c => ?_, ?_, ?_, ?_⟩
  · dsimp only
    rw [hw, World.initImplicitObjects_of (by omega) happ p hp, hcard, Nat.add_assoc]
  · dsimp only
    by_cases hobj : c ∈ (Implicit.next n p).objects
    · -- a new object has the references of the device only
      rw [happ c (Implicit.le_of_mem_next hobj), Nat.zero_add]
      exact Implicit.next_refs q n hp c
    · obtain ⟨hown, hbound⟩ := Implicit.own_eq_zero (q := nextParams q n p.sanitize) _ hobj
      rw [hown, hbound]
      exact hchild c
  · dsimp only
    omega
  · dsimp only
    omega
  · exact fun v hv => absurd hv.symm (Option.some_ne_none v)

/-- `Reset`. -/
theorem Rests.reset {s : State} {i : Implicit} {q : Nat → PresentParams} {n : Nat}
    (h : Rests s i q n) (hpos : 0 < s.appDevice) {m_ex : Bool} {p : PresentParams}
    (hok : Ok s (.Reset m_ex p)) :
    Inv { s with world := s.world.Reset m_ex p, returned := none } := by
  obtain ⟨hroom, hdev, hp⟩ := hok
  have hinflated := h.room_dev hroom
  rw [h.objects, Implicit.card_live h.wf] at hinflated
  have hlength : ((List.range s.world.nextId).filter (0 < s.app ·)).length =
      (held s.app n).card := by
    rw [← List.toFinset_card_of_nodup (List.nodup_range.filter _), h.nextId]
    congr 1
    ext c
    simp
  rw [hlength] at hdev
  have htorn : s.world.touch.releaseInternalObjects (·.Release.2) (!m_ex) =
      .of (torn false) q n (s.appDevice + (held s.app n).card) s.app fun _ => 0 := by
    rw [h.world, World.touch_of h.count_pos, Implicit.card_live h.wf, ← Nat.add_assoc]
    exact World.releaseInternalObjects_of World.counting_release h.wf h.child_lt (by omega)
      (by omega) (.inr (by omega)) _
  have hchild : ∀ c, s.app c < 2 ^ 16 := fun c => by
    have hlt := h.child_lt c
    omega
  exact .inl ⟨_, _, _, rests_init htorn hpos h.app hchild hp hdev⟩

theorem inv_start {p : PresentParams} (hp : p.sanitize.BackBufferCount + 1 < 2 ^ 16) :
    Inv (start p) := by
  have hw : (⟨⟨.construct, 0, false, none, none, none, none, none⟩, fun _ => ⟨⟨0, 0⟩, ⟨0, false⟩⟩,
      0, false⟩ : World) =
      .of (torn false) (fun _ => ⟨0, false⟩) 0 (1 + (held (fun _ => 0) 0).card) (fun _ => 0)
        fun _ => 0 := by
    have hheld : (held (fun _ => 0) 0).card = 0 := rfl
    have hchildren : World.children (fun _ => ⟨0, false⟩) 0 (fun _ => 0) (fun _ => 0) =
        fun _ => ⟨⟨0, 0⟩, ⟨0, false⟩⟩ :=
      funext fun c => by rw [World.children, if_neg (Nat.not_lt_zero c)]
    rw [hheld, World.of, hchildren]
    rfl
  have hdev : 1 + (held (fun _ => 0) 0).card + p.implicitObjects < 2 ^ 16 := by
    have hthree := (Implicit.next 0 p).length_le_three
    rw [Implicit.next_length] at hthree
    have hheld : (held (fun _ => 0) 0).card = 0 := rfl
    omega
  exact .inl ⟨_, _, _, rests_init hw Nat.one_pos (fun _ _ => rfl) (fun _ => by decide) hp hdev⟩

/-! ### The lifetime -/

theorem of_guard {P : Prop} [Decidable P] {s s' : State}
    (h : (if P then some s else none) = some s') : P ∧ s = s' := by
  by_cases hP : P
  · rw [if_pos hP] at h
    exact ⟨hP, Option.some.inj h⟩
  · rw [if_neg hP] at h
    cases h

/-- A pointer that the device gives out. -/
theorem Rests.get {s s' : State} {i : Implicit} {q : Nat → PresentParams} {n : Nat}
    (h : Rests s i q n) {g : Getter} (hok : Ok s (.get g)) (hs : step s (.get g) = some s') :
    Inv s' := by
  have hpos : 0 < s.appDevice := by
    by_contra hidle
    rw [step, if_neg hidle] at hs
    cases hs
  rw [step, if_pos hpos] at hs
  have hgetter : s.world.getter g = (World.of (i.device false) q n
      (s.appDevice + (i.live s.app n).card) (fun c => s.app c + i.own q c) i.bound).getter g := by
    rw [h.world]
  have hgives : ∀ c, s.world.getter g = some c → c ∈ i.objects := by
    intro c hc
    rw [hgetter] at hc
    obtain ⟨rt, sc, ds⟩ := i
    cases g with
    | RenderTarget =>
        cases hc
        exact List.mem_cons_self
    | DepthStencilSurface =>
        have hds : ds = some c := hc
        subst hds
        simp [Implicit.objects]
    | SwapChain | BackBuffer =>
        cases hc
        exact Implicit.sc_mem _
  cases hc : s.world.getter g with
  | some c =>
      rw [hc] at hs
      cases hs
      exact .inl ⟨i, q, n, h.addChild
        (Finset.mem_union_right _ (List.mem_toFinset.mpr (hgives c hc))) (hok c hc)⟩
  | none =>
      -- only a depth stencil may be missing
      have hds : g = .DepthStencilSurface := by
        rw [hgetter] at hc
        cases g with
        | RenderTarget | SwapChain | BackBuffer => cases hc
        | DepthStencilSurface => rfl
      subst hds
      rw [hc] at hs
      cases hs
      refine .inl ⟨i, q, n, ?_, h.wf, h.app, h.child_lt, h.dev_lt, h.ordinary, ?_⟩
      · dsimp only
        rw [h.world]
        rfl
      · exact fun v hv => absurd hv.symm (Option.some_ne_none v)

theorem Deleted.stuck {s : State} {q : Nat → PresentParams} {n : Nat} (h : Deleted s q n)
    (a : Act) : step s a = none := by
  cases a <;> simp [step, h.appDevice, h.app]

/-- What is true of every state is kept by every call. -/
theorem Inv.step (s : State) (a : Act) (s' : State) (h : Inv s) (hok : Ok s a)
    (hs : step s a = some s') : Inv s' := by
  obtain ⟨i, q, n, h⟩ | ⟨q, n, h⟩ := h
  · cases a with
    | AddRef =>
        obtain ⟨-, rfl⟩ := of_guard hs
        exact .inl ⟨i, q, n, h.addDevice hok _ (.inr rfl)⟩
    | GetDevice c =>
        obtain ⟨-, rfl⟩ := of_guard hs
        exact .inl ⟨i, q, n, h.addDevice hok _ (.inl rfl)⟩
    | Release =>
        obtain ⟨hpos, rfl⟩ := of_guard hs
        obtain ⟨a, ha⟩ : ∃ a, s.appDevice = a + 1 := ⟨s.appDevice - 1, by omega⟩
        have hdev := h.dev_lt
        have hworld := h.world
        have hcount : s.appDevice + (i.live s.app n).card = a + (i.live s.app n).card + 1 := by
          omega
        unfold Ok State.Keeps at hok
        rw [h.objects, h.nextId, ha] at hok
        rw [hcount] at hworld hdev
        rw [ha]
        exact release_inv h.wf h.app h.child_lt hdev hok hworld _ (.inr rfl)
    | childAddRef c =>
        obtain ⟨hpos, rfl⟩ := of_guard hs
        have hc : c < n := Nat.lt_of_not_le fun hle => by
          rw [h.app c hle] at hpos
          exact Nat.lt_irrefl 0 hpos
        exact .inl ⟨i, q, n, h.addChild (Finset.mem_union_left _ (mem_held.mpr ⟨hc, hpos⟩)) hok⟩
    | childRelease c =>
        obtain ⟨hpos, rfl⟩ := of_guard hs
        exact h.releaseChild hpos hok
    | get g => exact h.get hok hs
    | create =>
        obtain ⟨-, rfl⟩ := of_guard hs
        exact .inl ⟨_, _, _, h.newChild hok _⟩
    | CreateAdditionalSwapChain p => exact hok.elim
    | Reset m_ex p =>
        obtain ⟨hpos, rfl⟩ := of_guard hs
        exact h.reset hpos hok
  · rw [h.stuck a] at hs
    cases hs

/-- **Device lifetime.**  In every run of calls by the application, on the device and on its
children, whose counts stay below `2 ^ 16`, that makes no additional swap chain and never keeps
references to implicit objects alone: the device counts its implicit objects, what `AddRef` and
`Release` return leaves exactly those out, and the device is deleted once, when the application's
last reference to it or to a child of it goes. -/
theorem device_lifetime {p : PresentParams} (hp : p.sanitize.BackBufferCount + 1 < 2 ^ 16)
    {s : State} {as : List Act} (hr : run step (start p) as = some s)
    (hok : Along step Ok (start p) as) : s.Sound := by
  have hinv : Inv s := run_inv_along Inv.step (inv_start hp) hok hr
  obtain ⟨i, q, n, h⟩ | ⟨q, n, h⟩ := hinv
  · exact h.sound
  · exact h.sound

/-- A render target is obtained, the device reset to no depth stencil, and both released. -/
theorem device_lifetime_released : ∃ s,
    run step (start ⟨1, true⟩) [.get .RenderTarget, .Reset false ⟨2, false⟩, .childRelease 1,
      .Release] = some s ∧ s.Sound := by
  have hr : run step (start ⟨1, true⟩) [.get .RenderTarget, .Reset false ⟨2, false⟩,
    .childRelease 1, .Release] = some _ := rfl
  exact ⟨_, hr, device_lifetime (by decide) hr (by decide +kernel)⟩

end RemixBridge.DeviceLifetime
