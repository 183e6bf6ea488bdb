import RemixBridge.Objects.RefCounted
import Mathlib.Algebra.BigOperators.Fin
import Mathlib.Data.Fintype.BigOperators
import Mathlib.Algebra.Order.BigOperators.Group.Finset
import Mathlib.Data.Fin.VecNotation

/-!
# Objects — ParentTree

The references between D3D objects (`D3DBase`, `base.h`).  A standalone object has its own count
and holds one reference to its parent while its Interface count is positive; a contained one uses
its container's count, and passes `AddRef` and `Release` on to it.

The fields `app`, `internal` and `held` are history: the references the application and the
bridge's own pointers have to an object, and those an object has to its parent.  `dangling` is set
when a call reaches an object that is not there.

* `Inv`: each Interface count is the application's references and those the children hold, up to
  a reference that a call in progress is about to take or to give back.
* `parent_refs`: after every legal call, each count is exact and no reference to a parent is given
  back twice or kept.
-/

namespace RemixBridge

/-- The objects of a run: `m_pParent` and `m_standalone`.  A parent is there before its children,
and a contained object has its container for a parent. -/
structure ObjectTree (n : Nat) where
  m_pParent : Fin n → Option (Fin n)
  m_standalone : Fin n → Bool
  parent_lt : ∀ o p, m_pParent o = some p → p < o
  contained : ∀ o, m_standalone o = false → (m_pParent o).isSome = true

/-- The counts of the objects, and the history. -/
structure ObjectHeap (n : Nat) where
  refs : Fin n → D3DRefCounted
  constructed : Fin n → Bool
  app : Fin n → Nat
  internal : Fin n → Nat
  held : Fin n → Int
  dangling : Bool

namespace ObjectTree

variable {n : Nat}

/-- The object whose count an object uses. -/
def owner (t : ObjectTree n) (o : Fin n) : Fin n :=
  if t.m_standalone o then o
  else match _h : t.m_pParent o with
    | some p => t.owner p
    | none   => o
termination_by o.val
decreasing_by exact t.parent_lt o p _h

/-- The object is there: constructed, and the deleter of its count has not run. -/
def alive (t : ObjectTree n) (h : ObjectHeap n) (o : Fin n) : Bool :=
  h.constructed o && (h.refs (t.owner o)).deleted == 0

/-- A call reaches an object. -/
def touch (t : ObjectTree n) (h : ObjectHeap n) (o : Fin n) : ObjectHeap n :=
  { h with dangling := h.dangling || !t.alive h o }

/-- The object's own part of `AddRef`. -/
def count (t : ObjectTree n) (h : ObjectHeap n) (o : Fin n) : ObjectHeap n :=
  { t.touch h o with refs := Function.update h.refs o (h.refs o).addRef.2 }

/-- The object's own part of `Release`. -/
def uncount (t : ObjectTree n) (h : ObjectHeap n) (o : Fin n) : ObjectHeap n :=
  { t.touch h o with refs := Function.update h.refs o ((h.refs o).decRef .Interface 1).2 }

/-- The reference of an object to its parent, in the history. -/
def hold (h : ObjectHeap n) (o : Fin n) (d : Int) : ObjectHeap n :=
  { h with held := Function.update h.held o (h.held o + d) }

/-- `AddRef`, and what it returns. -/
def AddRef (t : ObjectTree n) (h : ObjectHeap n) (o : Fin n) : Word × ObjectHeap n :=
  if t.m_standalone o then
    match _h : t.m_pParent o with
    | some p =>
        if (h.refs o).addRef.1 = 1 then
          ((h.refs o).addRef.1, (t.AddRef (hold (t.count h o) o 1) p).2)
        else ((h.refs o).addRef.1, t.count h o)
    | none => ((h.refs o).addRef.1, t.count h o)
  else match _h : t.m_pParent o with
    | some p => t.AddRef (t.touch h o) p
    | none   => (0, h)
termination_by o.val
decreasing_by
  · exact t.parent_lt o p _h
  · exact t.parent_lt o p _h

/-- `Release`, and what it returns.  The parent is read before the count, which may delete the
object. -/
def Release (t : ObjectTree n) (h : ObjectHeap n) (o : Fin n) : Word × ObjectHeap n :=
  if t.m_standalone o then
    if (h.refs o).getRef .Interface ≠ 0 then
      match _h : t.m_pParent o with
      | some p =>
          if ((h.refs o).decRef .Interface 1).1 = 0 then
            (((h.refs o).decRef .Interface 1).1, (t.Release (hold (t.uncount h o) o (-1)) p).2)
          else (((h.refs o).decRef .Interface 1).1, t.uncount h o)
      | none => (((h.refs o).decRef .Interface 1).1, t.uncount h o)
    else (0, t.touch h o)
  else match _h : t.m_pParent o with
    | some p => t.Release (t.touch h o) p
    | none   => (0, h)
termination_by o.val
decreasing_by
  · exact t.parent_lt o p _h
  · exact t.parent_lt o p _h

/-- A constructor: a standalone object gets a count, and `onConstruct` calls `AddRef`. -/
def construct (t : ObjectTree n) (h : ObjectHeap n) (o : Fin n) : ObjectHeap n :=
  (t.AddRef { h with
    refs := if t.m_standalone o then Function.update h.refs o ⟨0, 0⟩ else h.refs
    constructed := Function.update h.constructed o true } o).2

/-- A `D3DAutoPtr` is bound to the object. -/
def bind (t : ObjectTree n) (h : ObjectHeap n) (o : Fin n) : ObjectHeap n :=
  { t.touch h o with
    refs := Function.update h.refs (t.owner o) ((h.refs (t.owner o)).incRef .Object 1).2 }

/-- A `D3DAutoPtr` is unbound from the object. -/
def unbind (t : ObjectTree n) (h : ObjectHeap n) (o : Fin n) : ObjectHeap n :=
  { t.touch h o with
    refs := Function.update h.refs (t.owner o) ((h.refs (t.owner o)).decRef .Object 1).2 }

/-- The object and its ancestors are there. -/
def reachable (t : ObjectTree n) (h : ObjectHeap n) (o : Fin n) : Bool :=
  t.alive h o && match _h : t.m_pParent o with
    | some p => t.reachable h p
    | none   => true
termination_by o.val
decreasing_by exact t.parent_lt o p _h

/-! ### Owners -/

variable {t : ObjectTree n} {h : ObjectHeap n} {o p : Fin n}

theorem owner_standalone (ho : t.m_standalone o = true) : t.owner o = o := by
  rw [owner, if_pos ho]

theorem owner_contained (ho : t.m_standalone o = false) (hp : t.m_pParent o = some p) :
    t.owner o = t.owner p := by
  rw [owner, if_neg (by simp [ho])]
  split
  · rename_i q hq
    rw [hp] at hq
    cases hq
    rfl
  · rename_i hq
    rw [hp] at hq
    cases hq

theorem standalone_owner (t : ObjectTree n) (o : Fin n) : t.m_standalone (t.owner o) = true := by
  induction o using owner.induct (t := t) with
  | case1 o ho =>
      rw [owner_standalone ho]
      exact ho
  | case2 o ho p hp ih =>
      rw [owner_contained (by simpa using ho) hp]
      exact ih
  | case3 o ho hp =>
      have := t.contained o (by simpa using ho)
      rw [hp] at this
      cases this

theorem owner_le (t : ObjectTree n) (o : Fin n) : t.owner o ≤ o := by
  induction o using owner.induct (t := t) with
  | case1 o ho => rw [owner_standalone ho]
  | case2 o ho p hp ih =>
      rw [owner_contained (by simpa using ho) hp]
      exact ih.trans (t.parent_lt o p hp).le
  | case3 o ho hp =>
      have := t.contained o (by simpa using ho)
      rw [hp] at this
      cases this

/-- The object whose count a standalone object holds a reference of. -/
def holder (t : ObjectTree n) (o : Fin n) : Option (Fin n) :=
  if t.m_standalone o then (t.m_pParent o).map t.owner else none

theorem holder_lt {q : Fin n} (hq : t.holder o = some q) : q < o := by
  unfold holder at hq
  split at hq
  · obtain ⟨p, hp, rfl⟩ := Option.map_eq_some_iff.mp hq
    exact (t.owner_le p).trans_lt (t.parent_lt o p hp)
  · cases hq

/-! ### The calls, case by case -/

theorem AddRef_contained (ho : t.m_standalone o = false) (hp : t.m_pParent o = some p) :
    t.AddRef h o = t.AddRef (t.touch h o) p := by
  rw [AddRef, if_neg (by simp [ho])]
  split
  · rename_i q hq
    cases hp.symm.trans hq
    rfl
  · rename_i hq
    cases hp.symm.trans hq

theorem AddRef_first (ho : t.m_standalone o = true) (hp : t.m_pParent o = some p)
    (hcnt : (h.refs o).addRef.1 = 1) :
    (t.AddRef h o).2 = (t.AddRef (hold (t.count h o) o 1) p).2 := by
  rw [AddRef, if_pos ho]
  split
  · rename_i q hq
    cases hp.symm.trans hq
    rw [if_pos hcnt]
  · rename_i hq
    cases hp.symm.trans hq

theorem AddRef_more (ho : t.m_standalone o = true)
    (h' : t.m_pParent o = none ∨ (h.refs o).addRef.1 ≠ 1) :
    (t.AddRef h o).2 = t.count h o := by
  rw [AddRef, if_pos ho]
  split
  · rename_i q hq
    rw [if_neg (h'.resolve_left (by rw [hq]; nofun))]
  · rfl

theorem Release_contained (ho : t.m_standalone o = false) (hp : t.m_pParent o = some p) :
    t.Release h o = t.Release (t.touch h o) p := by
  rw [Release, if_neg (by simp [ho])]
  split
  · rename_i q hq
    cases hp.symm.trans hq
    rfl
  · rename_i hq
    cases hp.symm.trans hq

theorem Release_zero (ho : t.m_standalone o = true) (hcnt : (h.refs o).getRef .Interface = 0) :
    (t.Release h o).2 = t.touch h o := by
  rw [Release, if_pos ho, if_neg (not_not.mpr hcnt)]

theorem Release_last (ho : t.m_standalone o = true) (hp : t.m_pParent o = some p)
    (hget : (h.refs o).getRef .Interface ≠ 0) (hcnt : ((h.refs o).decRef .Interface 1).1 = 0) :
    (t.Release h o).2 = (t.Release (hold (t.uncount h o) o (-1)) p).2 := by
  rw [Release, if_pos ho, if_pos hget]
  split
  · rename_i q hq
    cases hp.symm.trans hq
    rw [if_pos hcnt]
  · rename_i hq
    cases hp.symm.trans hq

theorem Release_more (ho : t.m_standalone o = true) (hget : (h.refs o).getRef .Interface ≠ 0)
    (h' : t.m_pParent o = none ∨ ((h.refs o).decRef .Interface 1).1 ≠ 0) :
    (t.Release h o).2 = t.uncount h o := by
  rw [Release, if_pos ho, if_pos hget]
  split
  · rename_i q hq
    rw [if_neg (h'.resolve_left (by rw [hq]; nofun))]
  · rfl

theorem touch_of_alive (ha : t.alive h o = true) : t.touch h o = h := by
  unfold touch
  rw [ha, Bool.not_true, Bool.or_false]

theorem reachable_alive (hr : t.reachable h o = true) : t.alive h o = true := by
  rw [reachable, Bool.and_eq_true] at hr
  exact hr.1

theorem reachable_parent (hr : t.reachable h o = true) (hp : t.m_pParent o = some p) :
    t.reachable h p = true := by
  rw [reachable, Bool.and_eq_true] at hr
  obtain ⟨-, hr⟩ := hr
  split at hr
  · rename_i q hq
    cases hp.symm.trans hq
    exact hr
  · rename_i hq
    cases hp.symm.trans hq

/-- `reachable` looks at nothing but what is constructed and what is deleted. -/
theorem reachable_mono {h' : ObjectHeap n}
    (hc : ∀ q, h.constructed q = true → h'.constructed q = true)
    (hd : ∀ q, q ≤ o → (h'.refs q).deleted = (h.refs q).deleted) (hr : t.reachable h o = true) :
    t.reachable h' o = true := by
  induction o using reachable.induct (t := t) with
  | case1 o ih =>
      have ha := reachable_alive hr
      have halive : t.alive h' o = true := by
        unfold alive at ha ⊢
        rw [Bool.and_eq_true] at ha ⊢
        exact ⟨hc o ha.1, by rw [hd _ (t.owner_le o)]; exact ha.2⟩
      rw [reachable, halive, Bool.true_and]
      split
      · rename_i p hp
        exact ih p hp (fun q hq => hd q (hq.trans (t.parent_lt o p hp).le)) (reachable_parent hr hp)
      · rfl

/-! ### The references of an object -/

/-- The references that the children of an object, and of the objects it contains, hold. -/
def heldOf (t : ObjectTree n) (held : Fin n → Int) (o : Fin n) : Int :=
  ∑ c, if t.holder c = some o then held c else 0

/-- The number of references to an object. -/
def references (t : ObjectTree n) (h : ObjectHeap n) (o : Fin n) : Int :=
  h.app o + t.heldOf h.held o + h.internal o

theorem heldOf_update (held : Fin n → Int) (c : Fin n) (d : Int) (o : Fin n) :
    t.heldOf (Function.update held c (held c + d)) o =
      t.heldOf held o + if t.holder c = some o then d else 0 := by
  have hterm : ∀ x, (if t.holder x = some o then Function.update held c (held c + d) x else 0) =
      (if t.holder x = some o then held x else 0) +
        if x = c then (if t.holder c = some o then d else 0) else 0 := by
    intro x
    by_cases hx : x = c
    · subst hx
      rw [Function.update_self, if_pos rfl]
      split <;> simp
    · rw [Function.update_of_ne hx, if_neg hx, add_zero]
  unfold heldOf
  rw [Finset.sum_congr rfl fun x _ => hterm x, Finset.sum_add_distrib,
    Finset.sum_ite_eq' Finset.univ c]
  simp

theorem heldOf_mono {held held' : Fin n → Int} (hle : ∀ c, held c ≤ held' c) (o : Fin n) :
    t.heldOf held o ≤ t.heldOf held' o := by
  refine Finset.sum_le_sum fun c _ => ?_
  split
  · exact hle c
  · exact le_refl 0

theorem AddRef_frame (t : ObjectTree n) (h : ObjectHeap n) (o : Fin n) :
    (t.AddRef h o).2.app = h.app ∧ (t.AddRef h o).2.internal = h.internal ∧
      (t.AddRef h o).2.constructed = h.constructed ∧ ∀ c, h.held c ≤ (t.AddRef h o).2.held c := by
  induction h, o using AddRef.induct (t := t) with
  | case1 h o ho p hp hcnt ih =>
      rw [AddRef_first ho hp hcnt]
      refine ⟨ih.1, ih.2.1, ih.2.2.1, fun c => le_trans ?_ (ih.2.2.2 c)⟩
      show h.held c ≤ Function.update h.held o (h.held o + 1) c
      by_cases hc : c = o
      · subst hc
        rw [Function.update_self]
        omega
      · rw [Function.update_of_ne hc]
  | case2 h o ho p hp hcnt =>
      rw [AddRef_more ho (.inr hcnt)]
      exact ⟨rfl, rfl, rfl, fun c => le_refl _⟩
  | case3 h o ho hp =>
      rw [AddRef_more ho (.inl hp)]
      exact ⟨rfl, rfl, rfl, fun c => le_refl _⟩
  | case4 h o ho p hp ih =>
      rw [AddRef_contained (by simpa using ho) hp]
      exact ih
  | case5 h o ho hp =>
      have := t.contained o (by simpa using ho)
      rw [hp] at this
      cases this

/-! ### The invariant -/

/-- The Interface count. -/
def iface (h : ObjectHeap n) (o : Fin n) : Nat := ((h.refs o).getRef .Interface).toNat

/-- `due` is -1 where a call in progress is about to take a reference that the history has, and 1
where it is about to give one back that the history has not any more. -/
structure Inv (t : ObjectTree n) (h : ObjectHeap n) (due : Fin n → Int) : Prop where
  refs : ∀ o, t.m_standalone o = true →
    h.refs o = .of (iface h o) (h.internal o) (h.refs o).deleted
  bound : ∀ o, t.m_standalone o = true → iface h o + h.internal o < 2 ^ 16
  deleted : ∀ o, t.m_standalone o = true → (h.refs o).deleted =
    if h.constructed o = true ∧ iface h o + h.internal o = 0 ∧ due o = 0 then 1 else 0
  balance : ∀ o, t.m_standalone o = true →
    (iface h o : Int) = h.app o + t.heldOf h.held o + due o
  held : ∀ c, h.held c = if 0 < iface h c ∧ (t.holder c).isSome = true then 1 else 0
  parents : ∀ o p, t.m_pParent o = some p → h.constructed o = true → h.constructed p = true
  there : h.dangling = false
  unborn : ∀ o, t.m_standalone o = true → h.constructed o = false →
    iface h o = 0 ∧ h.internal o = 0

/-- Less than `2 ^ 16` references each. -/
def Small (t : ObjectTree n) (h : ObjectHeap n) : Prop :=
  ∀ o, t.m_standalone o = true → t.references h o < 2 ^ 16

/-- A call in progress at one object. -/
def dueAt (o : Fin n) (d : Int) : Fin n → Int := fun q => if q = o then d else 0

theorem iface_of {app internal deleted : Nat} (ho : h.refs o = .of app internal deleted)
    (hb : app + internal < 2 ^ 16) : iface h o = app := by
  unfold iface
  rw [ho]
  exact D3DRefCounted.getRef_interface_of hb

namespace Inv

variable {due : Fin n → Int}

theorem held_nonneg (hI : Inv t h due) (c : Fin n) : 0 ≤ h.held c := by
  rw [hI.held c]
  split <;> decide

theorem heldOf_nonneg (hI : Inv t h due) (o : Fin n) : 0 ≤ t.heldOf h.held o := by
  refine Finset.sum_nonneg fun c _ => ?_
  split
  · exact hI.held_nonneg c
  · exact le_refl 0

/-- The counts change at one object, and only there. -/
theorem refs_update (hI : Inv t h due) (h' : ObjectHeap n) {app internal deleted : Nat}
    (hb : app + internal < 2 ^ 16)
    (hrefs : h'.refs = Function.update h.refs o (.of app internal deleted))
    (hint : h'.internal = Function.update h.internal o internal) :
    (∀ q, t.m_standalone q = true →
      h'.refs q = .of (iface h' q) (h'.internal q) (h'.refs q).deleted) ∧
    (∀ q, t.m_standalone q = true → iface h' q + h'.internal q < 2 ^ 16) ∧
    iface h' o = app ∧ ∀ q, q ≠ o → iface h' q = iface h q := by
  have hat : h'.refs o = .of app internal deleted := by rw [hrefs, Function.update_self]
  have hne : ∀ q, q ≠ o → h'.refs q = h.refs q := fun q hq => by
    rw [hrefs, Function.update_of_ne hq]
  have hint_at : h'.internal o = internal := by rw [hint, Function.update_self]
  have hint_ne : ∀ q, q ≠ o → h'.internal q = h.internal q := fun q hq => by
    rw [hint, Function.update_of_ne hq]
  have hiface : iface h' o = app := iface_of hat hb
  have hiface_ne : ∀ q, q ≠ o → iface h' q = iface h q := fun q hq => by
    unfold iface
    rw [hne q hq]
  refine ⟨fun q hq => ?_, fun q hq => ?_, hiface, hiface_ne⟩
  · by_cases hqo : q = o
    · subst hqo
      rw [hiface, hint_at, hat]
      rfl
    · rw [hiface_ne q hqo, hint_ne q hqo, hne q hqo]
      exact hI.refs q hq
  · by_cases hqo : q = o
    · subst hqo
      rw [hiface, hint_at]
      exact hb
    · rw [hiface_ne q hqo, hint_ne q hqo]
      exact hI.bound q hq

/-- What is not constructed is not counted either, after a change at a constructed object. -/
theorem unborn_update (hI : Inv t h due) (hc : h.constructed o = true) {h' : ObjectHeap n}
    (hne : ∀ q, q ≠ o → iface h' q = iface h q) (hint : h'.internal = h.internal) :
    ∀ q, t.m_standalone q = true → h.constructed q = false →
      iface h' q = 0 ∧ h'.internal q = 0 := by
  rintro q hq hfalse
  have hqo : q ≠ o := by
    rintro rfl
    rw [hc] at hfalse
    cases hfalse
  rw [hne q hqo, hint]
  exact hI.unborn q hq hfalse

/-- A standalone object that is there keeps its numbers, and its deleter has not run. -/
theorem refs_alive (hI : Inv t h due) (ho : t.m_standalone o = true) (ha : t.alive h o = true) :
    h.refs o = .of (iface h o) (h.internal o) 0 ∧ h.constructed o = true := by
  unfold alive at ha
  rw [owner_standalone ho, Bool.and_eq_true, beq_iff_eq] at ha
  have href := hI.refs o ho
  rw [ha.2] at href
  exact ⟨href, ha.1⟩

/-- The object's own part of `AddRef`. -/
theorem count (hI : Inv t h (dueAt o (-1))) (ho : t.m_standalone o = true)
    (ha : t.alive h o = true) (hb : iface h o + 1 + h.internal o < 2 ^ 16) :
    (h.refs o).addRef.1.toNat = iface h o + 1 ∧
    t.count h o = { h with
      refs := Function.update h.refs o (.of (iface h o + 1) (h.internal o) 0) } := by
  obtain ⟨href, -⟩ := hI.refs_alive ho ha
  constructor
  · rw [href]
    exact D3DRefCounted.addRef_value hb
  · unfold ObjectTree.count
    rw [touch_of_alive ha, href, D3DRefCounted.addRef_of]

/-- The new reference fits the count, as it fits in the end. -/
theorem room (hI : Inv t h (dueAt o (-1))) (ho : t.m_standalone o = true)
    (hsmall : Small t (t.AddRef h o).2) : iface h o + 1 + h.internal o < 2 ^ 16 := by
  obtain ⟨happ, hint, -, hheld⟩ := AddRef_frame t h o
  have hlt := hsmall o ho
  have hle := heldOf_mono (t := t) hheld o
  have hbal := hI.balance o ho
  rw [show dueAt o (-1) o = -1 from if_pos rfl] at hbal
  unfold references at hlt
  rw [happ, hint] at hlt
  omega

/-- `AddRef` on an object that already has a reference to its parent, or has no parent. -/
theorem count_more (hI : Inv t h (dueAt o (-1))) (ho : t.m_standalone o = true)
    (ha : t.alive h o = true) (hb : iface h o + 1 + h.internal o < 2 ^ 16)
    (hmore : t.holder o = none ∨ 0 < iface h o) : Inv t (t.count h o) fun _ => 0 := by
  have hc := (hI.refs_alive ho ha).2
  rw [(hI.count ho ha hb).2]
  obtain ⟨hrefs, hbound, hat, hne⟩ := hI.refs_update
    { h with refs := Function.update h.refs o (.of (iface h o + 1) (h.internal o) 0) } hb rfl
    (Function.update_eq_self o h.internal).symm
  refine ⟨hrefs, hbound, fun q hq => ?_, fun q hq => ?_, fun c => ?_, hI.parents, hI.there,
    hI.unborn_update hc hne rfl⟩
  · by_cases hqo : q = o
    · subst hqo
      rw [hat, if_neg (by omega)]
      exact congrArg _ (Function.update_self ..)
    · have hdue : dueAt o (-1) q = 0 := if_neg hqo
      rw [hne q hqo]
      refine (congrArg _ (Function.update_of_ne hqo _ _)).trans ((hI.deleted q hq).trans ?_)
      rw [hdue]
  · have hbal := hI.balance q hq
    by_cases hqo : q = o
    · subst hqo
      have hdue : dueAt q (-1) q = -1 := if_pos rfl
      rw [hat]
      push_cast
      omega
    · have hdue : dueAt o (-1) q = 0 := if_neg hqo
      rw [hne q hqo, hbal, hdue]
  · by_cases hco : c = o
    · subst hco
      rw [hat, hI.held c]
      rcases hmore with hnone | hpos
      · rw [hnone]
        simp
      · simp [hpos]
    · rw [hne c hco]
      exact hI.held c

/-- `AddRef` on an object that has no reference to its parent takes one. -/
theorem count_first (hI : Inv t h (dueAt o (-1))) (ho : t.m_standalone o = true)
    (ha : t.alive h o = true) (hb : iface h o + 1 + h.internal o < 2 ^ 16)
    (hfirst : iface h o = 0) {r : Fin n} (hr : t.holder o = some r)
    (hdel : (h.refs r).deleted = 0) :
    Inv t (hold (t.count h o) o 1) (dueAt r (-1)) := by
  have hc := (hI.refs_alive ho ha).2
  rw [(hI.count ho ha hb).2]
  obtain ⟨hrefs, hbound, hat, hne⟩ := hI.refs_update
    (hold { h with refs := Function.update h.refs o (.of (iface h o + 1) (h.internal o) 0) } o 1)
    hb rfl (Function.update_eq_self o h.internal).symm
  have hro : r ≠ o := (holder_lt hr).ne
  have hheld : h.held o = 0 := by
    rw [hI.held o, if_neg (by omega)]
  refine ⟨hrefs, hbound, fun q hq => ?_, fun q hq => ?_, fun c => ?_, hI.parents, hI.there,
    hI.unborn_update hc hne rfl⟩
  · by_cases hqo : q = o
    · subst hqo
      rw [hat, if_neg (by omega)]
      exact congrArg _ (Function.update_self ..)
    · have hold_q := hI.deleted q hq
      rw [show dueAt o (-1) q = 0 from if_neg hqo] at hold_q
      rw [hne q hqo]
      refine (congrArg _ (Function.update_of_ne hqo _ _)).trans ?_
      by_cases hqr : q = r
      · subst hqr
        have hdue : dueAt q (-1) q = -1 := if_pos rfl
        rw [hdue, if_neg (by omega), hdel]
      · rw [hold_q, show dueAt r (-1) q = 0 from if_neg hqr]
        rfl
  · have hbal := hI.balance q hq
    have hupd := heldOf_update (t := t) h.held o 1 q
    show (iface _ q : Int) = h.app q + t.heldOf (Function.update h.held o (h.held o + 1)) q + _
    rw [hupd, hr]
    by_cases hqo : q = o
    · subst hqo
      rw [hat, if_neg (by simpa using hro), show dueAt r (-1) q = 0 from if_neg hro.symm]
      rw [show dueAt q (-1) q = -1 from if_pos rfl] at hbal
      push_cast
      omega
    · rw [hne q hqo, hbal, show dueAt o (-1) q = 0 from if_neg hqo]
      by_cases hqr : q = r
      · subst hqr
        rw [if_pos rfl, show dueAt q (-1) q = -1 from if_pos rfl]
        omega
      · rw [if_neg (by simpa using Ne.symm hqr), show dueAt r (-1) q = 0 from if_neg hqr]
        simp only [add_zero]
  · by_cases hco : c = o
    · subst hco
      rw [hat, if_pos ⟨by omega, by rw [hr]; rfl⟩]
      show Function.update h.held c (h.held c + 1) c = 1
      rw [Function.update_self, hheld, zero_add]
    · rw [hne c hco]
      exact (Function.update_of_ne hco _ _).trans (hI.held c)

/-- **`AddRef` makes the counts exact.** -/
theorem addRef (hI : Inv t h (dueAt (t.owner o) (-1))) (hr : t.reachable h o = true)
    (hsmall : Small t (t.AddRef h o).2) : Inv t (t.AddRef h o).2 fun _ => 0 := by
  induction h, o using AddRef.induct (t := t) with
  | case1 h o ho p hp hcnt ih =>
      have ha := reachable_alive hr
      rw [owner_standalone ho] at hI
      have hb := hI.room ho hsmall
      have hfirst : iface h o = 0 := by
        have hval := (hI.count ho ha hb).1
        rw [hcnt] at hval
        exact (Nat.succ.inj hval).symm
      have hholder : t.holder o = some (t.owner p) := by rw [holder, if_pos ho, hp]; rfl
      have hrp := reachable_parent hr hp
      have hdel : (h.refs (t.owner p)).deleted = 0 := by
        have hap := reachable_alive hrp
        unfold alive at hap
        rw [Bool.and_eq_true, beq_iff_eq] at hap
        exact hap.2
      rw [AddRef_first ho hp hcnt] at hsmall ⊢
      refine ih (hI.count_first ho ha hb hfirst hholder hdel) ?_ hsmall
      rw [(hI.count ho ha hb).2]
      refine reachable_mono (h := h) ?_ (fun q hq => ?_) hrp
      · exact fun _ => id
      · show (Function.update h.refs o _ q).deleted = _
        rw [Function.update_of_ne (hq.trans_lt (t.parent_lt o p hp)).ne]
  | case2 h o ho p hp hcnt =>
      have ha := reachable_alive hr
      rw [owner_standalone ho] at hI
      have hb := hI.room ho hsmall
      rw [AddRef_more ho (.inr hcnt)]
      refine hI.count_more ho ha hb (.inr (Nat.pos_of_ne_zero fun hzero => hcnt ?_))
      have hval := (hI.count ho ha hb).1
      rw [hzero] at hval
      exact BitVec.eq_of_toNat_eq hval
  | case3 h o ho hp =>
      have ha := reachable_alive hr
      rw [owner_standalone ho] at hI
      have hb := hI.room ho hsmall
      rw [AddRef_more ho (.inl hp)]
      exact hI.count_more ho ha hb (.inl (by rw [holder, if_pos ho, hp]; rfl))
  | case4 h o ho p hp ih =>
      have ho' : t.m_standalone o = false := by simpa using ho
      have ha := reachable_alive hr
      rw [AddRef_contained ho' hp] at hsmall ⊢
      rw [touch_of_alive ha] at ih hsmall ⊢
      exact ih (by rwa [owner_contained ho' hp] at hI) (reachable_parent hr hp) hsmall
  | case5 h o ho hp =>
      have := t.contained o (by simpa using ho)
      rw [hp] at this
      cases this

/-- An object some reference of which was just given back. -/
def settled (app internal : Nat) : D3DRefCounted :=
  .of app internal (if app + internal = 0 then 1 else 0)

/-- What a child holds is among the references of its parent. -/
theorem held_le (hI : Inv t h due) {r : Fin n} (hr : t.holder o = some r) :
    h.held o ≤ t.heldOf h.held r := by
  have hle := Finset.single_le_sum (f := fun c => if t.holder c = some r then h.held c else 0)
    (fun c _ => by
      split
      · exact hI.held_nonneg c
      · exact le_refl 0) (Finset.mem_univ o)
  rw [if_pos hr] at hle
  exact hle

/-- An object a call is about to release keeps its numbers, is there, and has a reference. -/
theorem refs_due (hI : Inv t h (dueAt o 1)) (ho : t.m_standalone o = true)
    (hc : h.constructed o = true) :
    ∃ i, iface h o = i + 1 ∧ h.refs o = .of (i + 1) (h.internal o) 0 ∧
      t.alive h o = true ∧ i + 1 + h.internal o < 2 ^ 16 := by
  have hbal := hI.balance o ho
  have hnonneg := hI.heldOf_nonneg o
  rw [show dueAt o 1 o = 1 from if_pos rfl] at hbal
  obtain ⟨i, hi⟩ : ∃ i, iface h o = i + 1 := Nat.exists_eq_succ_of_ne_zero (by omega)
  have hdel : (h.refs o).deleted = 0 := by
    rw [hI.deleted o ho, if_neg (by omega)]
  have hrefs := hI.refs o ho
  have hbound := hI.bound o ho
  rw [hdel, hi] at hrefs
  rw [hi] at hbound
  refine ⟨i, hi, hrefs, ?_, hbound⟩
  unfold alive
  rw [owner_standalone ho, hc, hdel]
  rfl

/-- The object's own part of `Release`. -/
theorem uncount (hI : Inv t h (dueAt o 1)) (ho : t.m_standalone o = true)
    (hc : h.constructed o = true) {i : Nat} (hi : iface h o = i + 1) :
    (h.refs o).getRef .Interface ≠ 0 ∧ ((h.refs o).decRef .Interface 1).1.toNat = i ∧
    t.uncount h o = { h with
      refs := Function.update h.refs o (settled i (h.internal o)) } := by
  obtain ⟨j, hj, hrefs, ha, hb⟩ := hI.refs_due ho hc
  obtain rfl : i = j := Nat.succ.inj (hi.symm.trans hj)
  have hlt : i + h.internal o < 2 ^ 16 := by omega
  refine ⟨?_, ?_, ?_⟩
  · rw [hrefs]
    exact ne_zero_of_toNat (D3DRefCounted.getRef_interface_of hb) (Nat.succ_ne_zero i)
  · rw [hrefs, D3DRefCounted.decRef_interface_of hlt]
    exact toNat_interface hlt
  · unfold ObjectTree.uncount
    rw [touch_of_alive ha, hrefs, D3DRefCounted.decRef_interface_of hlt]
    rfl

/-- `Release` of an object that keeps its reference to its parent, or has no parent. -/
theorem uncount_more (hI : Inv t h (dueAt o 1)) (ho : t.m_standalone o = true)
    (hc : h.constructed o = true) {i : Nat} (hi : iface h o = i + 1)
    (hmore : t.holder o = none ∨ 0 < i) : Inv t (t.uncount h o) fun _ => 0 := by
  have hb : i + h.internal o < 2 ^ 16 := by
    have := hI.bound o ho
    omega
  rw [(hI.uncount ho hc hi).2.2]
  obtain ⟨hrefs, hbound, hat, hne⟩ := hI.refs_update
    { h with refs := Function.update h.refs o (settled i (h.internal o)) } hb rfl
    (Function.update_eq_self o h.internal).symm
  refine ⟨hrefs, hbound, fun q hq => ?_, fun q hq => ?_, fun c => ?_, hI.parents, hI.there,
    hI.unborn_update hc hne rfl⟩
  · by_cases hqo : q = o
    · subst hqo
      rw [hat]
      show (Function.update h.refs q (settled _ _) q).deleted = _
      rw [Function.update_self]
      simp [hc, settled, D3DRefCounted.of]
    · rw [hne q hqo]
      show (Function.update h.refs o _ q).deleted = _
      rw [Function.update_of_ne hqo, hI.deleted q hq, show dueAt o 1 q = 0 from if_neg hqo]
  · have hbal := hI.balance q hq
    by_cases hqo : q = o
    · subst hqo
      rw [show dueAt q 1 q = 1 from if_pos rfl] at hbal
      rw [hat]
      show (i : Int) = h.app q + t.heldOf h.held q + 0
      omega
    · rw [hne q hqo, hbal, show dueAt o 1 q = 0 from if_neg hqo]
  · by_cases hco : c = o
    · subst hco
      rw [hat, hI.held c, hi]
      rcases hmore with hnone | hpos
      · rw [hnone]
        simp
      · simp [hpos]
    · rw [hne c hco]
      exact hI.held c

/-- `Release` of an object that gives its reference to its parent back. -/
theorem uncount_last (hI : Inv t h (dueAt o 1)) (ho : t.m_standalone o = true)
    (hc : h.constructed o = true) (hi : iface h o = 1) {r : Fin n} (hr : t.holder o = some r)
    (hrs : t.m_standalone r = true) : Inv t (hold (t.uncount h o) o (-1)) (dueAt r 1) := by
  have hb : 0 + h.internal o < 2 ^ 16 := by
    have := hI.bound o ho
    omega
  have hro : r ≠ o := (holder_lt hr).ne
  have hheld : h.held o = 1 := by
    rw [hI.held o, if_pos ⟨by omega, by rw [hr]; rfl⟩]
  have hpos : 0 < iface h r := by
    have hbal := hI.balance r hrs
    have hle := hI.held_le hr
    rw [show dueAt o 1 r = 0 from if_neg hro] at hbal
    omega
  rw [(hI.uncount ho hc hi).2.2]
  obtain ⟨hrefs, hbound, hat, hne⟩ := hI.refs_update
    (hold { h with refs := Function.update h.refs o (settled 0 (h.internal o)) } o (-1)) hb rfl
    (Function.update_eq_self o h.internal).symm
  refine ⟨hrefs, hbound, fun q hq => ?_, fun q hq => ?_, fun c => ?_, hI.parents, hI.there,
    hI.unborn_update hc hne rfl⟩
  · by_cases hqo : q = o
    · subst hqo
      rw [hat, show dueAt r 1 q = 0 from if_neg hro.symm]
      show (Function.update h.refs q (settled _ _) q).deleted = _
      rw [Function.update_self]
      simp [hold, hc, settled, D3DRefCounted.of]
    · rw [hne q hqo]
      show (Function.update h.refs o _ q).deleted = _
      rw [Function.update_of_ne hqo, hI.deleted q hq, show dueAt o 1 q = 0 from if_neg hqo]
      by_cases hqr : q = r
      · subst hqr
        rw [if_neg (by omega), if_neg (by omega)]
      · rw [show dueAt r 1 q = 0 from if_neg hqr]
        rfl
  · have hbal := hI.balance q hq
    have hupd := heldOf_update (t := t) h.held o (-1) q
    show (iface _ q : Int) = h.app q + t.heldOf (Function.update h.held o (h.held o + -1)) q + _
    rw [hupd, hr]
    by_cases hqo : q = o
    · subst hqo
      rw [show dueAt q 1 q = 1 from if_pos rfl] at hbal
      rw [hat, if_neg (by simpa using hro), show dueAt r 1 q = 0 from if_neg hro.symm]
      omega
    · rw [hne q hqo, hbal, show dueAt o 1 q = 0 from if_neg hqo]
      by_cases hqr : q = r
      · subst hqr
        rw [if_pos rfl, show dueAt q 1 q = 1 from if_pos rfl]
        omega
      · rw [if_neg (by simpa using Ne.symm hqr), show dueAt r 1 q = 0 from if_neg hqr]
        simp only [add_zero]
  · by_cases hco : c = o
    · subst hco
      rw [hat, if_neg (by omega)]
      show Function.update h.held c (h.held c + -1) c = 0
      rw [Function.update_self, hheld]
      rfl
    · rw [hne c hco]
      exact (Function.update_of_ne hco _ _).trans (hI.held c)

/-- `Release` where nobody has a reference does nothing. -/
theorem release_none (hI : Inv t h due) (ha : t.alive h o = true)
    (hzero : iface h (t.owner o) = 0) : (t.Release h o).2 = h := by
  induction o using owner.induct (t := t) with
  | case1 o ho =>
      rw [owner_standalone ho] at hzero
      rw [Release_zero ho (eq_zero_of_toNat hzero), touch_of_alive ha]
  | case2 o ho p hp ih =>
      have ho' : t.m_standalone o = false := by simpa using ho
      rw [Release_contained ho' hp, touch_of_alive ha]
      rw [owner_contained ho' hp] at hzero
      refine ih ?_ hzero
      unfold alive at ha ⊢
      rw [Bool.and_eq_true] at ha ⊢
      rw [owner_contained ho' hp] at ha
      exact ⟨hI.parents o p hp ha.1, ha.2⟩
  | case3 o ho hp =>
      have := t.contained o (by simpa using ho)
      rw [hp] at this
      cases this

/-- **`Release` makes the counts exact.** -/
theorem release (hI : Inv t h (dueAt (t.owner o) 1)) (hc : h.constructed o = true) :
    Inv t (t.Release h o).2 fun _ => 0 := by
  induction h, o using Release.induct (t := t) with
  | case1 h o ho hget p hp hcnt ih =>
      rw [owner_standalone ho] at hI
      obtain ⟨i, hi, -⟩ := hI.refs_due ho hc
      have hi0 : i = 0 := by
        rw [← (hI.uncount ho hc hi).2.1, hcnt]
        rfl
      subst hi0
      rw [Release_last ho hp hget hcnt]
      have hholder : t.holder o = some (t.owner p) := by rw [holder, if_pos ho, hp]; rfl
      refine ih (hI.uncount_last ho hc hi hholder (t.standalone_owner p)) ?_
      exact hI.parents o p hp hc
  | case2 h o ho hget p hp hcnt =>
      rw [owner_standalone ho] at hI
      obtain ⟨i, hi, -⟩ := hI.refs_due ho hc
      rw [Release_more ho hget (.inr hcnt)]
      refine hI.uncount_more ho hc hi (.inr (Nat.pos_of_ne_zero fun hzero => hcnt ?_))
      have hval := (hI.uncount ho hc hi).2.1
      exact eq_zero_of_toNat (hval.trans hzero)
  | case3 h o ho hget hp =>
      rw [owner_standalone ho] at hI
      obtain ⟨i, hi, -⟩ := hI.refs_due ho hc
      rw [Release_more ho hget (.inl hp)]
      exact hI.uncount_more ho hc hi (.inl (by rw [holder, if_pos ho, hp]; rfl))
  | case4 h o ho hget =>
      rw [owner_standalone ho] at hI
      obtain ⟨i, hi, -⟩ := hI.refs_due ho hc
      exact absurd (hI.uncount ho hc hi).1 hget
  | case5 h o ho p hp ih =>
      have ho' : t.m_standalone o = false := by simpa using ho
      have ha : t.alive h o = true := by
        have hbal := hI.balance (t.owner o) (t.standalone_owner o)
        have hnonneg := hI.heldOf_nonneg (t.owner o)
        rw [show dueAt (t.owner o) 1 (t.owner o) = 1 from if_pos rfl] at hbal
        unfold alive
        rw [hc, hI.deleted _ (t.standalone_owner o), if_neg (by omega)]
        rfl
      rw [Release_contained ho' hp]
      rw [touch_of_alive ha] at ih ⊢
      exact ih (by rwa [owner_contained ho' hp] at hI) (hI.parents o p hp hc)
  | case6 h o ho hp =>
      have := t.contained o (by simpa using ho)
      rw [hp] at this
      cases this

theorem constructed_owner (hI : Inv t h due) (hc : h.constructed o = true) :
    h.constructed (t.owner o) = true := by
  induction o using owner.induct (t := t) with
  | case1 o ho => rwa [owner_standalone ho]
  | case2 o ho p hp ih =>
      rw [owner_contained (by simpa using ho) hp]
      exact ih (hI.parents o p hp hc)
  | case3 o ho hp =>
      have := t.contained o (by simpa using ho)
      rw [hp] at this
      cases this

/-- An object something refers to is there. -/
theorem alive_of_pos (hI : Inv t h due) (hc : h.constructed o = true)
    (hpos : 0 < iface h (t.owner o) + h.internal (t.owner o)) : t.alive h o = true := by
  unfold alive
  rw [hc, hI.deleted _ (t.standalone_owner o), if_neg (by omega)]
  rfl

/-- An object that is referred to by its interface is there, and so are all its ancestors. -/
theorem reachable_of_pos (hI : Inv t h fun _ => 0) (hc : h.constructed o = true)
    (hpos : 0 < iface h (t.owner o)) : t.reachable h o = true := by
  induction o using reachable.induct (t := t) with
  | case1 o ih =>
      rw [reachable, hI.alive_of_pos hc (Nat.add_pos_left hpos _), Bool.true_and]
      split
      · rename_i p hp
        refine ih p hp (hI.parents o p hp hc) ?_
        by_cases ho : t.m_standalone o = true
        · rw [owner_standalone ho] at hpos
          have hr : t.holder o = some (t.owner p) := by rw [holder, if_pos ho, hp]; rfl
          have hle := hI.held_le hr
          rw [hI.held o, if_pos ⟨hpos, by rw [hr]; rfl⟩] at hle
          have hbal := hI.balance _ (t.standalone_owner p)
          omega
        · rwa [owner_contained (by simpa using ho) hp] at hpos
      · rfl

end Inv

/-! ### Runs -/

/-- The calls of a run. -/
inductive ObjectOp (n : Nat) where
  | construct (o : Fin n)
  | AddRef (o : Fin n)
  | Release (o : Fin n)
  | bind (o : Fin n)
  | unbind (o : Fin n)

/-- Before anything is constructed. -/
def start (n : Nat) : ObjectHeap n where
  refs := fun _ => ⟨0, 0⟩
  constructed := fun _ => false
  app := fun _ => 0
  internal := fun _ => 0
  held := fun _ => 0
  dangling := false

/-- The application can call an object: it has a reference to it, or gets it from its ancestors. -/
def usable (t : ObjectTree n) (h : ObjectHeap n) (o : Fin n) : Bool :=
  h.constructed o && (decide (0 < h.app (t.owner o)) || t.reachable h o)

/-- The references of the application to an object, in the history. -/
def setApp (t : ObjectTree n) (h : ObjectHeap n) (o : Fin n) (count : Nat) : ObjectHeap n :=
  { h with app := Function.update h.app (t.owner o) count }

/-- The references of the bridge's pointers to an object, in the history. -/
def setInternal (t : ObjectTree n) (h : ObjectHeap n) (o : Fin n) (count : Nat) : ObjectHeap n :=
  { h with internal := Function.update h.internal (t.owner o) count }

/-- A legal call.  The application gives back what it has; where nobody has a reference, a
`Release` finds a count of 0.  A pointer is unbound if it is bound. -/
def step (t : ObjectTree n) (h : ObjectHeap n) : ObjectOp n → Option (ObjectHeap n)
  | .construct o =>
      if !h.constructed o && (t.m_pParent o).all (t.usable h) then
        some (t.construct (t.setApp h o (h.app (t.owner o) + 1)) o)
      else none
  | .AddRef o =>
      if t.usable h o then some (t.AddRef (t.setApp h o (h.app (t.owner o) + 1)) o).2 else none
  | .Release o =>
      if h.constructed o && (decide (0 < h.app (t.owner o)) ||
          (decide (t.heldOf h.held (t.owner o) = 0) && t.alive h o)) then
        some (t.Release (t.setApp h o (h.app (t.owner o) - 1)) o).2
      else none
  | .bind o =>
      if t.alive h o then some (t.bind (t.setInternal h o (h.internal (t.owner o) + 1)) o) else none
  | .unbind o =>
      if h.constructed o && decide (0 < h.internal (t.owner o)) then
        some (t.unbind (t.setInternal h o (h.internal (t.owner o) - 1)) o)
      else none

/-! ### Every call keeps the counts exact -/

namespace Inv

/-- Nothing in progress is a call in progress that is due nothing. -/
theorem deleted_iff (hI : Inv t h fun _ => 0) (ho : t.m_standalone o = true) :
    (h.refs o).deleted =
      if h.constructed o = true ∧ iface h o + h.internal o = 0 then 1 else 0 := by
  rw [hI.deleted o ho]
  simp

/-- The application takes, or gives back, `-d` references in the history. -/
theorem setApp (hI : Inv t h fun _ => 0) {count : Nat} {d : Int} (hd : d ≠ 0)
    (hcount : (count : Int) = h.app (t.owner o) - d) (hdel : (h.refs (t.owner o)).deleted = 0) :
    Inv t (t.setApp h o count) (dueAt (t.owner o) d) := by
  refine ⟨hI.refs, hI.bound, fun q hq => ?_, fun q hq => ?_, hI.held, hI.parents, hI.there,
    hI.unborn⟩
  · by_cases hqo : q = t.owner o
    · rw [show dueAt (t.owner o) d q = d from if_pos hqo, if_neg fun h => hd h.2.2, hqo]
      exact hdel
    · rw [show dueAt (t.owner o) d q = 0 from if_neg hqo]
      exact hI.deleted q hq
  · have hbal := hI.balance q hq
    by_cases hqo : q = t.owner o
    · rw [show dueAt (t.owner o) d q = d from if_pos hqo]
      show (iface h q : Int) = (Function.update h.app (t.owner o) count q : Nat) +
        t.heldOf h.held q + d
      rw [hqo, Function.update_self, hcount, ← hqo]
      omega
    · rw [show dueAt (t.owner o) d q = 0 from if_neg hqo]
      show (iface h q : Int) = (Function.update h.app (t.owner o) count q : Nat) +
        t.heldOf h.held q + 0
      rw [Function.update_of_ne hqo]
      exact hbal

/-- An object the application has a reference to has a positive count. -/
theorem pos_of_app (hI : Inv t h fun _ => 0) (happ : 0 < h.app (t.owner o)) :
    0 < iface h (t.owner o) := by
  have hbal := hI.balance _ (t.standalone_owner o)
  have hnonneg := hI.heldOf_nonneg (t.owner o)
  omega

theorem reachable_of_usable (hI : Inv t h fun _ => 0) (hu : t.usable h o = true) :
    t.reachable h o = true := by
  unfold usable at hu
  rw [Bool.and_eq_true, Bool.or_eq_true, decide_eq_true_iff] at hu
  obtain ⟨hc, happ | hr⟩ := hu
  · exact hI.reachable_of_pos hc (hI.pos_of_app happ)
  · exact hr

theorem deleted_of_alive (ha : t.alive h o = true) : (h.refs (t.owner o)).deleted = 0 := by
  unfold alive at ha
  rw [Bool.and_eq_true, beq_iff_eq] at ha
  exact ha.2

theorem step_AddRef (hI : Inv t h fun _ => 0) (hu : t.usable h o = true)
    (hsmall : Small t (t.AddRef (t.setApp h o (h.app (t.owner o) + 1)) o).2) :
    Inv t (t.AddRef (t.setApp h o (h.app (t.owner o) + 1)) o).2 fun _ => 0 := by
  have hr := hI.reachable_of_usable hu
  have hpre : Inv t (t.setApp h o (h.app (t.owner o) + 1)) (dueAt (t.owner o) (-1)) :=
    hI.setApp (by decide) (by push_cast; omega) (deleted_of_alive (reachable_alive hr))
  refine hpre.addRef ?_ hsmall
  exact reachable_mono (h := h) (fun _ => id) (fun _ _ => rfl) hr

theorem step_Release (hI : Inv t h fun _ => 0) (hc : h.constructed o = true)
    (hlegal : 0 < h.app (t.owner o) ∨
      t.heldOf h.held (t.owner o) = 0 ∧ t.alive h o = true) :
    Inv t (t.Release (t.setApp h o (h.app (t.owner o) - 1)) o).2 fun _ => 0 := by
  by_cases happ : 0 < h.app (t.owner o)
  · have hpos := hI.pos_of_app happ
    have hpre : Inv t (t.setApp h o (h.app (t.owner o) - 1)) (dueAt (t.owner o) 1) :=
      hI.setApp (by decide) (by omega)
        (deleted_of_alive (hI.alive_of_pos hc (Nat.add_pos_left hpos _)))
    exact hpre.release hc
  · obtain ⟨hheld, ha⟩ := hlegal.resolve_left happ
    have hzero : h.app (t.owner o) - 1 = h.app (t.owner o) := by omega
    have hsame : t.setApp h o (h.app (t.owner o) - 1) = h := by
      unfold ObjectTree.setApp
      rw [hzero, Function.update_eq_self]
    rw [hsame]
    have hiface : iface h (t.owner o) = 0 := by
      have hbal := hI.balance _ (t.standalone_owner o)
      omega
    rw [hI.release_none ha hiface]
    exact hI

/-- What a constructor does before `onConstruct`. -/
theorem construct_pre (hI : Inv t h fun _ => 0) (hnew : h.constructed o = false)
    (hparent : ∀ p, t.m_pParent o = some p → t.usable h p = true) :
    (if t.m_standalone o then Function.update h.refs o ⟨0, 0⟩ else h.refs) = h.refs ∧
    (h.refs (t.owner o)).deleted = 0 := by
  by_cases ho : t.m_standalone o = true
  · obtain ⟨hzero, hint⟩ := hI.unborn o ho hnew
    have hdel : (h.refs o).deleted = 0 := by
      rw [hI.deleted_iff ho, if_neg (by simp [hnew])]
    have href : h.refs o = ⟨0, 0⟩ := by
      rw [hI.refs o ho, hzero, hint, hdel]
      rfl
    rw [if_pos ho, owner_standalone ho, ← href, Function.update_eq_self]
    exact ⟨rfl, hdel⟩
  · have ho' : t.m_standalone o = false := by simpa using ho
    obtain ⟨p, hp⟩ := Option.isSome_iff_exists.mp (t.contained o ho')
    rw [if_neg ho, owner_contained ho' hp]
    exact ⟨rfl, deleted_of_alive (reachable_alive (hI.reachable_of_usable (hparent p hp)))⟩

theorem step_construct (hI : Inv t h fun _ => 0) (hnew : h.constructed o = false)
    (hparent : ∀ p, t.m_pParent o = some p → t.usable h p = true)
    (hsmall : Small t (t.construct (t.setApp h o (h.app (t.owner o) + 1)) o)) :
    Inv t (t.construct (t.setApp h o (h.app (t.owner o) + 1)) o) fun _ => 0 := by
  obtain ⟨hrefs, hdel⟩ := hI.construct_pre hnew hparent
  have hpre : Inv t (t.setApp h o (h.app (t.owner o) + 1)) (dueAt (t.owner o) (-1)) :=
    hI.setApp (by decide) (by push_cast; omega) hdel
  unfold construct at hsmall ⊢
  have hsame : (if t.m_standalone o then
      Function.update (t.setApp h o (h.app (t.owner o) + 1)).refs o ⟨0, 0⟩
      else (t.setApp h o (h.app (t.owner o) + 1)).refs) =
      (t.setApp h o (h.app (t.owner o) + 1)).refs := hrefs
  rw [hsame] at hsmall ⊢
  have hborn : ∀ q, h.constructed q = true → Function.update h.constructed o true q = true := by
    rintro q hq
    by_cases hqo : q = o
    · rw [hqo, Function.update_self]
    · rwa [Function.update_of_ne hqo]
  have hread : ∀ p, t.m_pParent o = some p → t.reachable h p = true := fun p hp =>
    hI.reachable_of_usable (hparent p hp)
  refine addRef ?_ ?_ hsmall
  · refine ⟨hpre.refs, hpre.bound, fun q hq => ?_, hpre.balance, hpre.held, fun q p hp hq => ?_,
      hpre.there, fun q hq hfalse => ?_⟩
    · refine (hpre.deleted q hq).trans ?_
      by_cases hqo : q = o
      · have hdue : dueAt (t.owner o) (-1) q = -1 :=
          if_pos (by rw [hqo, owner_standalone (hqo ▸ hq)])
        rw [hdue, if_neg fun h => absurd h.2.2 (by decide),
          if_neg fun h => absurd h.2.2 (by decide)]
      · refine if_congr (and_congr_left fun _ => ?_) rfl rfl
        show h.constructed q = true ↔ Function.update h.constructed o true q = true
        rw [Function.update_of_ne hqo]
    · by_cases hqo : q = o
      · have hap := reachable_alive (hread p (hqo ▸ hp))
        unfold alive at hap
        rw [Bool.and_eq_true] at hap
        exact hborn p hap.1
      · have hq : Function.update h.constructed o true q = true := hq
        rw [Function.update_of_ne hqo] at hq
        exact hborn p (hI.parents q p hp hq)
    · have hqo : q ≠ o := by
        rintro rfl
        have hfalse : Function.update h.constructed q true q = false := hfalse
        rw [Function.update_self] at hfalse
        cases hfalse
      exact hI.unborn q hq ((Function.update_of_ne hqo _ _).symm.trans hfalse)
  · rw [reachable, Bool.and_eq_true]
    constructor
    · unfold alive
      rw [Bool.and_eq_true, beq_iff_eq]
      exact ⟨Function.update_self .., hdel⟩
    · split
      · rename_i p hp
        exact reachable_mono (h := h) hborn (fun _ _ => rfl) (hread p hp)
      · rfl

/-- A count changes at an object that is referred to, and nothing is held or given back by it. -/
theorem bind_update (hI : Inv t h fun _ => 0) (r : Fin n) (hr : t.m_standalone r = true)
    (hc : h.constructed r = true) {internal deleted : Nat} (hb : iface h r + internal < 2 ^ 16)
    (hdel : deleted = if iface h r + internal = 0 then 1 else 0) :
    Inv t { h with
      refs := Function.update h.refs r (.of (iface h r) internal deleted)
      internal := Function.update h.internal r internal } fun _ => 0 := by
  obtain ⟨hrefs, hbound, hat, hne⟩ := hI.refs_update { h with
    refs := Function.update h.refs r (.of (iface h r) internal deleted)
    internal := Function.update h.internal r internal } hb rfl rfl
  have hiface : ∀ q, iface { h with
      refs := Function.update h.refs r (.of (iface h r) internal deleted)
      internal := Function.update h.internal r internal } q = iface h q := fun q => by
    by_cases hqr : q = r
    · rw [hqr, hat]
    · exact hne q hqr
  refine ⟨hrefs, hbound, fun q hq => ?_, fun q hq => ?_, fun c => ?_, hI.parents, hI.there,
    fun q hq hfalse => ?_⟩
  · rw [hiface q]
    by_cases hqr : q = r
    · subst hqr
      have hat : (Function.update h.refs q (.of (iface h q) internal deleted) q).deleted =
          deleted := by
        rw [Function.update_self]
        rfl
      refine (hat.trans hdel).trans (if_congr ?_ rfl rfl)
      show _ ↔ h.constructed q = true ∧
        iface h q + Function.update h.internal q internal q = 0 ∧ (0 : Int) = 0
      rw [Function.update_self]
      simp [hc]
    · have hat : Function.update h.refs r (.of (iface h r) internal deleted) q = h.refs q :=
        Function.update_of_ne hqr _ _
      refine ((congrArg D3DRefCounted.deleted hat).trans (hI.deleted q hq)).trans
        (if_congr ?_ rfl rfl)
      show _ ↔ h.constructed q = true ∧
        iface h q + Function.update h.internal r internal q = 0 ∧ (0 : Int) = 0
      rw [Function.update_of_ne hqr]
  · rw [hiface q]
    exact hI.balance q hq
  · rw [hiface c]
    exact hI.held c
  · have hqr : q ≠ r := by
      rintro rfl
      rw [show h.constructed q = false from hfalse] at hc
      cases hc
    rw [hiface q]
    show iface h q = 0 ∧ Function.update h.internal r internal q = 0
    rw [Function.update_of_ne hqr]
    exact hI.unborn q hq hfalse

theorem step_bind (hI : Inv t h fun _ => 0) (ha : t.alive h o = true)
    (hsmall : Small t (t.bind (t.setInternal h o (h.internal (t.owner o) + 1)) o)) :
    Inv t (t.bind (t.setInternal h o (h.internal (t.owner o) + 1)) o) fun _ => 0 := by
  have hs := t.standalone_owner o
  have hc : h.constructed o = true := by
    unfold alive at ha
    rw [Bool.and_eq_true] at ha
    exact ha.1
  have hb : iface h (t.owner o) + (h.internal (t.owner o) + 1) < 2 ^ 16 := by
    have hlt := hsmall (t.owner o) hs
    have hbal := hI.balance _ hs
    have hint : (t.bind (t.setInternal h o (h.internal (t.owner o) + 1)) o).internal (t.owner o) =
        h.internal (t.owner o) + 1 := Function.update_self ..
    unfold references at hlt
    rw [hint] at hlt
    have hsame : ((t.bind (t.setInternal h o (h.internal (t.owner o) + 1)) o).app (t.owner o) : Int) +
        t.heldOf (t.bind (t.setInternal h o (h.internal (t.owner o) + 1)) o).held (t.owner o) =
        h.app (t.owner o) + t.heldOf h.held (t.owner o) := rfl
    push_cast at hlt
    omega
  have hrefs := hI.refs _ hs
  rw [deleted_of_alive ha] at hrefs
  have hpost := hI.bind_update (t.owner o) hs (hI.constructed_owner hc) hb
    (if_neg (by omega)).symm
  have hsame : t.bind (t.setInternal h o (h.internal (t.owner o) + 1)) o = { h with
      refs := Function.update h.refs (t.owner o)
        (.of (iface h (t.owner o)) (h.internal (t.owner o) + 1) 0)
      internal := Function.update h.internal (t.owner o) (h.internal (t.owner o) + 1) } := by
    have htouch : t.alive (t.setInternal h o (h.internal (t.owner o) + 1)) o = true := ha
    unfold ObjectTree.bind
    rw [touch_of_alive htouch]
    have hobj : ((h.refs (t.owner o)).incRef .Object 1).2 =
        .of (iface h (t.owner o)) (h.internal (t.owner o) + 1) 0 := by
      rw [hrefs]
      exact D3DRefCounted.bind_of
    unfold setInternal
    rw [hobj]
  rw [hsame]
  exact hpost

theorem step_unbind (hI : Inv t h fun _ => 0) (hc : h.constructed o = true)
    (hpos : 0 < h.internal (t.owner o)) :
    Inv t (t.unbind (t.setInternal h o (h.internal (t.owner o) - 1)) o) fun _ => 0 := by
  have hs := t.standalone_owner o
  have ha : t.alive h o = true := hI.alive_of_pos hc (Nat.add_pos_right _ hpos)
  have hbound := hI.bound _ hs
  obtain ⟨m, hm⟩ := Nat.exists_eq_succ_of_ne_zero hpos.ne'
  have hb : iface h (t.owner o) + m < 2 ^ 16 := by omega
  have hrefs := hI.refs _ hs
  rw [deleted_of_alive ha, hm] at hrefs
  have hpost := hI.bind_update (t.owner o) hs (hI.constructed_owner hc) hb rfl
  have hsame : t.unbind (t.setInternal h o (h.internal (t.owner o) - 1)) o = { h with
      refs := Function.update h.refs (t.owner o) (settled (iface h (t.owner o)) m)
      internal := Function.update h.internal (t.owner o) m } := by
    have htouch : t.alive (t.setInternal h o (h.internal (t.owner o) - 1)) o = true := ha
    unfold ObjectTree.unbind
    rw [touch_of_alive htouch]
    have hobj : ((h.refs (t.owner o)).decRef .Object 1).2 = settled (iface h (t.owner o)) m := by
      rw [hrefs]
      exact D3DRefCounted.unbind_of hb
    unfold setInternal
    rw [hobj, hm]
    rfl
  rw [hsame]
  exact hpost

/-- **The step lemma.** -/
theorem step (hI : Inv t h fun _ => 0) {op : ObjectOp n} {h' : ObjectHeap n}
    (hs : t.step h op = some h') (hsmall : Small t h') : Inv t h' fun _ => 0 := by
  cases op with
  | construct o =>
      simp only [ObjectTree.step] at hs
      split at hs <;> cases hs
      rename_i hlegal
      rw [Bool.and_eq_true, Bool.not_eq_true', Option.all_eq_true] at hlegal
      exact hI.step_construct hlegal.1 hlegal.2 hsmall
  | AddRef o =>
      simp only [ObjectTree.step] at hs
      split at hs <;> cases hs
      rename_i hlegal
      exact hI.step_AddRef hlegal hsmall
  | Release o =>
      simp only [ObjectTree.step] at hs
      split at hs <;> cases hs
      rename_i hlegal
      rw [Bool.and_eq_true, Bool.or_eq_true, Bool.and_eq_true, decide_eq_true_iff,
        decide_eq_true_iff] at hlegal
      exact hI.step_Release hlegal.1 hlegal.2
  | bind o =>
      simp only [ObjectTree.step] at hs
      split at hs <;> cases hs
      rename_i hlegal
      exact hI.step_bind hlegal hsmall
  | unbind o =>
      simp only [ObjectTree.step] at hs
      split at hs <;> cases hs
      rename_i hlegal
      rw [Bool.and_eq_true, decide_eq_true_iff] at hlegal
      exact hI.step_unbind hlegal.1 hlegal.2

theorem iface_start (o : Fin n) : iface (ObjectTree.start n) o = 0 := by
  show ((⟨0, 0⟩ : D3DRefCounted).getRef .Interface).toNat = 0
  decide

theorem start (t : ObjectTree n) : Inv t (ObjectTree.start n) fun _ => 0 where
  refs := fun o _ => by
    rw [iface_start]
    rfl
  bound := fun o _ => by
    rw [iface_start]
    show 0 + 0 < 2 ^ 16
    decide
  deleted := fun _ _ => rfl
  balance := fun o _ => by
    rw [iface_start]
    simp [heldOf, ObjectTree.start]
  held := fun c => by
    rw [iface_start]
    rfl
  parents := fun _ _ _ h => nomatch h
  there := rfl
  unborn := fun o _ _ => ⟨iface_start o, rfl⟩

/-- **The run lemma.** -/
theorem run (hI : Inv t h fun _ => 0) {ops : List (ObjectOp n)} {h' : ObjectHeap n}
    (hs : Runs.run t.step h ops = some h')
    (hsmall : ∀ done todo h₁, ops = done ++ todo → Runs.run t.step h done = some h₁ →
      Small t h₁) : Inv t h' fun _ => 0 := by
  induction ops generalizing h with
  | nil =>
      cases hs
      exact hI
  | cons op ops ih =>
      obtain ⟨h₁, hop, hs⟩ := Runs.run_cons.mp hs
      have hsmall₁ : Small t h₁ :=
        hsmall [op] ops h₁ rfl (Runs.run_cons.mpr ⟨h₁, hop, rfl⟩)
      refine ih (hI.step hop hsmall₁) hs fun done todo h₂ hsplit hdone => ?_
      exact hsmall (op :: done) todo h₂ (by rw [hsplit]; rfl) (Runs.run_cons.mpr ⟨h₁, hop, hdone⟩)

/-- What the children hold is counted by the children with a positive count. -/
theorem heldOf_eq_card (hI : Inv t h due) (o : Fin n) :
    t.heldOf h.held o =
      (Finset.univ.filter fun c => t.holder c = some o ∧ 0 < iface h c).card := by
  rw [Finset.card_filter, Nat.cast_sum]
  refine Finset.sum_congr rfl fun c _ => ?_
  by_cases hc : t.holder c = some o
  · rw [if_pos hc, hI.held c, hc]
    simp
  · rw [if_neg hc, if_neg fun h => hc h.1]
    rfl

end Inv

/-- **Parent references.**  In every run of legal calls with less than `2 ^ 16` references to each
object, after every call: the Interface count of an object is the number of the application's
references to it and of its standalone children with a positive count; an object with a parent has
a reference to it, one, exactly while its own count is positive; no call has reached an object that
was not there; and the deleter has run, once, exactly where no reference is left. -/
theorem parent_refs {n : Nat} (t : ObjectTree n) (ops : List (ObjectOp n)) (h : ObjectHeap n)
    (hrun : Runs.run t.step (start n) ops = some h)
    (hsmall : ∀ done todo h', ops = done ++ todo → Runs.run t.step (start n) done = some h' →
      Small t h') :
    (∀ o, t.m_standalone o = true →
      iface h o = h.app o +
        (Finset.univ.filter fun c => t.holder c = some o ∧ 0 < iface h c).card) ∧
    (∀ c, h.held c = if 0 < iface h c ∧ (t.holder c).isSome = true then 1 else 0) ∧
    h.dangling = false ∧
    ∀ o, t.m_standalone o = true → (h.refs o).deleted =
      if h.constructed o = true ∧ iface h o + h.internal o = 0 then 1 else 0 := by
  have hI := (Inv.start t).run hrun hsmall
  refine ⟨fun o ho => ?_, hI.held, hI.there, fun o ho => hI.deleted_iff ho⟩
  have hbal := hI.balance o ho
  rw [hI.heldOf_eq_card o] at hbal
  push_cast [add_zero] at hbal
  exact_mod_cast hbal

instance (t : ObjectTree n) (h : ObjectHeap n) : Decidable (Small t h) :=
  inferInstanceAs (Decidable (∀ o, t.m_standalone o = true → t.references h o < 2 ^ 16))

/-- A device, a texture and a surface of it. -/
def deviceTree : ObjectTree 3 where
  m_pParent := ![none, some 0, some 1]
  m_standalone := ![true, true, false]
  parent_lt := by decide
  contained := by decide

/-- The texture is bound, released by its surface and by itself, and comes back. -/
theorem parent_refs_revived :
    ∃ h, Runs.run deviceTree.step (start 3)
        [.construct 0, .construct 1, .construct 2, .bind 1, .Release 2, .Release 1, .AddRef 1] =
      some h ∧ h.dangling = false ∧
      iface h 0 = h.app 0 +
        (Finset.univ.filter fun c => deviceTree.holder c = some 0 ∧ 0 < iface h c).card := by
  have hsome : (Runs.run deviceTree.step (start 3)
      [.construct 0, .construct 1, .construct 2, .bind 1, .Release 2, .Release 1,
        .AddRef 1]).isSome = true := by
    decide +kernel
  obtain ⟨h, hrun⟩ := Option.isSome_iff_exists.mp hsome
  have hall : ∀ k : Fin 8, (Runs.run deviceTree.step (start 3)
      ([.construct 0, .construct 1, .construct 2, .bind 1, .Release 2, .Release 1,
        .AddRef 1].take k)).all (fun h => decide (Small deviceTree h)) = true := by
    decide +kernel
  have hrefs := parent_refs deviceTree _ h hrun fun done todo h' hsplit hdone => by
    have hlen : done.length < 8 := by
      have := congrArg List.length hsplit
      simp only [List.length_cons, List.length_nil, List.length_append] at this
      omega
    have hsmall := hall ⟨done.length, hlen⟩
    rw [hsplit, List.take_left' rfl, hdone] at hsmall
    exact of_decide_eq_true hsmall
  exact ⟨h, hrun, hrefs.2.2.1, hrefs.1 0 rfl⟩

end ObjectTree

end RemixBridge
