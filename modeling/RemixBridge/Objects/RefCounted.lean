import RemixBridge.Support.Runs
import RemixBridge.Wire.Commands
import Mathlib.Tactic.Common

/-!
# Objects — RefCounted

The reference count of a D3D object (`D3DRefCounted`, `base.h`): the Interface count in the upper
half of one word and the Object count in the lower half, so that one addition or subtraction
changes both.

* `fused`: the word that a number of application references and a number of internal references
  are kept as.
* `fused_count`: a run agrees with the true numbers in every state it reaches exactly when there
  are less than `2 ^ 16` references in each.
-/

namespace RemixBridge

/-- `D3DRefCounted::Ref`; `Both` is another name of `Interface`. -/
inductive Ref where
  | Object
  | Interface
  deriving DecidableEq, Repr

def Ref.toNat : Ref → Nat
  | .Object    => 0
  | .Interface => 1

/-- `RefBitwidth`: half of `FusedStorageType`. -/
def refBitwidth : Nat := 16

/-- `toRefValue`. -/
def toRefValue (type : Ref) (cnt : Word) : Word :=
  (cnt >>> (type.toNat * refBitwidth)) &&& ((1#32 <<< refBitwidth) - 1#32)

/-- `toAdjValue`. -/
def toAdjValue (type : Ref) (v : Word) : Word :=
  match type with
  | .Interface => v ||| (v <<< refBitwidth)
  | .Object    => v

/-- The count, and how often the deleter has run. -/
@[ext]
structure D3DRefCounted where
  m_fusedRefCnt : Word
  deleted : Nat
  deriving DecidableEq, Repr

namespace D3DRefCounted

def getRef (obj : D3DRefCounted) (type : Ref) : Word := toRefValue type obj.m_fusedRefCnt

/-- `incRef`: what it returns, and the object. -/
def incRef (obj : D3DRefCounted) (type : Ref) (adj : Word) : Word × D3DRefCounted :=
  (toRefValue type (obj.m_fusedRefCnt + toAdjValue type adj),
    { obj with m_fusedRefCnt := obj.m_fusedRefCnt + toAdjValue type adj })

/-- `decRef`: what it returns, and the object. -/
def decRef (obj : D3DRefCounted) (type : Ref) (adj : Word) : Word × D3DRefCounted :=
  let fusedCnt := obj.m_fusedRefCnt - toAdjValue type adj
  if toRefValue type fusedCnt ≠ 0 then
    (toRefValue type fusedCnt, { obj with m_fusedRefCnt := fusedCnt })
  else if toRefValue .Object fusedCnt = 0 then
    (0, { m_fusedRefCnt := fusedCnt, deleted := obj.deleted + 1 })
  else (0, { obj with m_fusedRefCnt := fusedCnt })

/-- The object's own part of `D3DBase::AddRef`. -/
def addRef (obj : D3DRefCounted) : Word × D3DRefCounted := obj.incRef .Interface 1

/-- The object's own part of `D3DBase::Release`. -/
def release (obj : D3DRefCounted) : Word × D3DRefCounted :=
  if obj.getRef .Interface ≠ 0 then obj.decRef .Interface 1 else (0, obj)

/-- `D3DBase`'s constructor: the count starts at 0, and `onConstruct` adds a reference. -/
def construct : D3DRefCounted := (addRef ⟨0, 0⟩).2

end D3DRefCounted

/-! ### The word and the numbers -/

/-- The word that keeps `app` application references and `internal` internal ones. -/
def fused (app internal : Nat) : Word := BitVec.ofNat 32 (app * (2 ^ 16 + 1) + internal)

theorem toNat_toRefValue_Object (cnt : Word) :
    (toRefValue .Object cnt).toNat = cnt.toNat % 2 ^ 16 := by
  have hmask : ((1#32 <<< refBitwidth) - 1#32).toNat = 2 ^ 16 - 1 := by decide
  rw [toRefValue, BitVec.toNat_and, hmask, Nat.and_two_pow_sub_one_eq_mod]
  rfl

theorem toNat_toRefValue_Interface (cnt : Word) :
    (toRefValue .Interface cnt).toNat = cnt.toNat / 2 ^ 16 := by
  have hmask : ((1#32 <<< refBitwidth) - 1#32).toNat = 2 ^ 16 - 1 := by decide
  have hlt : cnt.toNat < 2 ^ 32 := cnt.isLt
  rw [toRefValue, BitVec.toNat_and, hmask, Nat.and_two_pow_sub_one_eq_mod,
    BitVec.toNat_ushiftRight, Nat.shiftRight_eq_div_pow]
  exact Nat.mod_eq_of_lt (by show cnt.toNat / 2 ^ 16 < 2 ^ 16; omega)

theorem toNat_fused {app internal : Nat} (h : app + internal < 2 ^ 16) :
    (fused app internal).toNat = app * 2 ^ 16 + (app + internal) := by
  rw [fused, BitVec.toNat_ofNat, Nat.mod_eq_of_lt (by omega)]
  omega

/-- Below `2 ^ 16` the lower half is the number of all references. -/
theorem toNat_object {app internal : Nat} (h : app + internal < 2 ^ 16) :
    (toRefValue .Object (fused app internal)).toNat = app + internal := by
  rw [toNat_toRefValue_Object, toNat_fused h]
  omega

/-- Below `2 ^ 16` the upper half is the number of application references. -/
theorem toNat_interface {app internal : Nat} (h : app + internal < 2 ^ 16) :
    (toRefValue .Interface (fused app internal)).toNat = app := by
  rw [toNat_toRefValue_Interface, toNat_fused h]
  omega

theorem eq_zero_of_toNat {w : Word} (h : w.toNat = 0) : w = 0 := BitVec.eq_of_toNat_eq h

theorem ne_zero_of_toNat {w : Word} {k : Nat} (h : w.toNat = k) (hk : k ≠ 0) : w ≠ 0 := by
  rintro rfl
  exact hk h.symm

theorem fused_add_interface (app internal : Nat) :
    fused app internal + toAdjValue .Interface 1 = fused (app + 1) internal := by
  have hadj : toAdjValue .Interface 1 = BitVec.ofNat 32 (2 ^ 16 + 1) := by decide
  rw [hadj, fused, fused, ← BitVec.ofNat_add]
  refine congrArg _ ?_
  omega

theorem fused_add_object (app internal : Nat) :
    fused app internal + toAdjValue .Object 1 = fused app (internal + 1) := by
  rw [fused, fused, ← Nat.add_assoc]
  exact (BitVec.ofNat_add _ 1).symm

theorem fused_sub_interface (app internal : Nat) :
    fused (app + 1) internal - toAdjValue .Interface 1 = fused app internal := by
  rw [← fused_add_interface, BitVec.add_sub_cancel]

theorem fused_sub_object (app internal : Nat) :
    fused app (internal + 1) - toAdjValue .Object 1 = fused app internal := by
  rw [← fused_add_object, BitVec.add_sub_cancel]

/-! ### What the operations do below the bound -/

/-- The object keeps `app` and `internal` references, and its deleter has run `deleted` times. -/
def D3DRefCounted.of (app internal deleted : Nat) : D3DRefCounted := ⟨fused app internal, deleted⟩

namespace D3DRefCounted

variable {app internal deleted : Nat}

theorem getRef_interface_of (h : app + internal < 2 ^ 16) :
    ((of app internal deleted).getRef .Interface).toNat = app := toNat_interface h

theorem getRef_object_of (h : app + internal < 2 ^ 16) :
    ((of app internal deleted).getRef .Object).toNat = app + internal := toNat_object h

theorem addRef_of : (of app internal deleted).addRef =
    (toRefValue .Interface (fused (app + 1) internal), of (app + 1) internal deleted) := by
  rw [addRef, incRef, of, fused_add_interface]
  rfl

theorem addRef_value (h : app + 1 + internal < 2 ^ 16) :
    (of app internal deleted).addRef.1.toNat = app + 1 := by
  rw [addRef_of]
  exact toNat_interface h

/-- The deleter runs where the true count reaches 0. -/
def deletedAt (app internal deleted : Nat) : Nat :=
  if app + internal = 0 then deleted + 1 else deleted

theorem decRef_interface_of (h : app + internal < 2 ^ 16) :
    (of (app + 1) internal deleted).decRef .Interface 1 =
      (toRefValue .Interface (fused app internal),
        of app internal (deletedAt app internal deleted)) := by
  have happ := toNat_interface h
  have hobj := toNat_object h
  unfold decRef deletedAt
  simp only [of, fused_sub_interface]
  by_cases hzero : app = 0
  · have hi : toRefValue .Interface (fused app internal) = 0 :=
      eq_zero_of_toNat (happ.trans hzero)
    rw [if_neg (not_not.mpr hi), hi]
    by_cases hall : app + internal = 0
    · rw [if_pos (eq_zero_of_toNat (hobj.trans hall)), if_pos hall]
    · rw [if_neg (ne_zero_of_toNat hobj hall), if_neg hall]
  · have hi : toRefValue .Interface (fused app internal) ≠ 0 :=
      ne_zero_of_toNat happ hzero
    rw [if_pos hi, if_neg (by omega)]

theorem release_of_succ (h : app + 1 + internal < 2 ^ 16) :
    (of (app + 1) internal deleted).release =
      (toRefValue .Interface (fused app internal),
        of app internal (deletedAt app internal deleted)) := by
  have hget : (of (app + 1) internal deleted).getRef .Interface ≠ 0 :=
    ne_zero_of_toNat (getRef_interface_of h) (Nat.succ_ne_zero app)
  rw [release, if_pos hget, decRef_interface_of (by omega)]

theorem release_of_zero (h : internal < 2 ^ 16) :
    (of 0 internal deleted).release = (0, of 0 internal deleted) := by
  have hget : (of 0 internal deleted).getRef .Interface = 0 :=
    eq_zero_of_toNat (getRef_interface_of (by omega))
  rw [release, if_neg (not_not.mpr hget)]

theorem bind_of : ((of app internal deleted).incRef .Object 1).2 = of app (internal + 1) deleted := by
  rw [incRef, of, fused_add_object]
  rfl

theorem unbind_of (h : app + internal < 2 ^ 16) :
    ((of app (internal + 1) deleted).decRef .Object 1).2 =
      of app internal (deletedAt app internal deleted) := by
  have hobj := toNat_object h
  unfold decRef deletedAt
  simp only [of, fused_sub_object]
  by_cases hall : app + internal = 0
  · have hzero := eq_zero_of_toNat (hobj.trans hall)
    rw [if_neg (not_not.mpr hzero), if_pos hzero, if_pos hall]
  · rw [if_pos (ne_zero_of_toNat hobj hall), if_neg hall]

end D3DRefCounted

/-! ### One object -/

open Runs

/-- The calls on one object: the application's, and the two halves of `D3DAutoPtr::reset`, which
the constructors and the destructor of a pointer consist of too. -/
inductive RefOp where
  | AddRef
  | Release
  | bind
  | unbind
  deriving DecidableEq, Repr

/-- The true numbers of references to an object. -/
structure Refs where
  app : Nat
  internal : Nat
  deriving DecidableEq, Repr

def Refs.total (r : Refs) : Nat := r.app + r.internal

/-- The numbers after a call.  An object is called only while something refers to it, and only a
bound pointer is unbound. -/
def Refs.step (r : Refs) (op : RefOp) : Option Refs :=
  if r.total = 0 then none
  else match op with
    | .AddRef  => some { r with app := r.app + 1 }
    | .Release => some { r with app := r.app - 1 }
    | .bind    => some { r with internal := r.internal + 1 }
    | .unbind  => if r.internal = 0 then none else some { r with internal := r.internal - 1 }

/-- An object, and what the last call of the application returned. -/
structure Counted where
  obj : D3DRefCounted
  returned : Option Word
  deriving DecidableEq, Repr

namespace Counted

def construct : Counted := ⟨D3DRefCounted.construct, none⟩

def exec (c : Counted) : RefOp → Counted
  | .AddRef  => ⟨c.obj.addRef.2, some c.obj.addRef.1⟩
  | .Release => ⟨c.obj.release.2, some c.obj.release.1⟩
  | .bind    => ⟨(c.obj.incRef .Object 1).2, none⟩
  | .unbind  => ⟨(c.obj.decRef .Object 1).2, none⟩

theorem exec_AddRef_obj (c : Counted) : (c.exec .AddRef).obj = c.obj.addRef.2 := rfl

theorem exec_Release_obj (c : Counted) : (c.exec .Release).obj = c.obj.release.2 := rfl

theorem exec_Release_returned (c : Counted) :
    (c.exec .Release).returned = some c.obj.release.1 := rfl

theorem exec_bind_obj (c : Counted) : (c.exec .bind).obj = (c.obj.incRef .Object 1).2 := rfl

theorem exec_unbind_obj (c : Counted) : (c.exec .unbind).obj = (c.obj.decRef .Object 1).2 := rfl

/-- What the object reports is true: the returned value, the Object count, and that the deleter
has run, once, exactly if nothing refers to the object any more. -/
structure Agrees (c : Counted) (r : Refs) : Prop where
  returned : ∀ v, c.returned = some v → v.toNat = r.app
  object : (c.obj.getRef .Object).toNat = r.total
  deleted : c.obj.deleted = if r.total = 0 then 1 else 0

/-- The object holds the numbers, and what it last returned is the first of them. -/
structure Holds (c : Counted) (r : Refs) : Prop where
  obj : c.obj = .of r.app r.internal (if r.total = 0 then 1 else 0)
  returned : ∀ v, c.returned = some v → v.toNat = r.app

theorem Holds.agrees {c : Counted} {r : Refs} (h : c.Holds r) (hr : r.total < 2 ^ 16) :
    c.Agrees r where
  returned := h.returned
  object := by
    rw [h.obj]
    exact D3DRefCounted.getRef_object_of hr
  deleted := by
    rw [h.obj]
    rfl

theorem Holds.construct : Counted.construct.Holds ⟨1, 0⟩ := ⟨rfl, nofun⟩

section calls

variable {app internal : Nat} {returned : Option Word}

theorem holds_AddRef (h : app + 1 + internal < 2 ^ 16) :
    (exec ⟨.of app internal 0, returned⟩ .AddRef).Holds ⟨app + 1, internal⟩ := by
  refine ⟨?_, ?_⟩
  · rw [exec_AddRef_obj, D3DRefCounted.addRef_of, if_neg (by simp only [Refs.total]; omega)]
  · rintro v ⟨rfl⟩
    exact D3DRefCounted.addRef_value h

/-- Without a reference of the application's, `Release` does nothing. -/
theorem holds_Release_zero (hpos : internal ≠ 0) (h : internal < 2 ^ 16) :
    (exec ⟨.of 0 internal 0, returned⟩ .Release).Holds ⟨0, internal⟩ := by
  have hrel : (D3DRefCounted.of 0 internal 0).release = _ := D3DRefCounted.release_of_zero h
  refine ⟨?_, ?_⟩
  · rw [exec_Release_obj, hrel, if_neg (by simpa [Refs.total] using hpos)]
  · rintro v hv
    rw [exec_Release_returned, hrel] at hv
    rw [← Option.some.inj hv]
    rfl

theorem holds_Release_succ (h : app + 1 + internal < 2 ^ 16) :
    (exec ⟨.of (app + 1) internal 0, returned⟩ .Release).Holds ⟨app, internal⟩ := by
  have hrel : (D3DRefCounted.of (app + 1) internal 0).release = _ :=
    D3DRefCounted.release_of_succ h
  refine ⟨?_, ?_⟩
  · rw [exec_Release_obj, hrel]
    rfl
  · rintro v hv
    rw [exec_Release_returned, hrel] at hv
    rw [← Option.some.inj hv]
    exact toNat_interface (by omega)

theorem holds_bind :
    (exec ⟨.of app internal 0, returned⟩ .bind).Holds ⟨app, internal + 1⟩ := by
  refine ⟨?_, nofun⟩
  rw [exec_bind_obj, D3DRefCounted.bind_of, if_neg (by simp only [Refs.total]; omega)]

theorem holds_unbind (h : app + internal < 2 ^ 16) :
    (exec ⟨.of app (internal + 1) 0, returned⟩ .unbind).Holds ⟨app, internal⟩ := by
  refine ⟨?_, nofun⟩
  rw [exec_unbind_obj, D3DRefCounted.unbind_of h]
  rfl

end calls

/-- **The step lemma.**  A legal call within the bound keeps the object true to the numbers. -/
theorem Holds.step {c : Counted} {r r' : Refs} {op : RefOp} (h : c.Holds r)
    (hs : r.step op = some r') (hr : r.total < 2 ^ 16) (hr' : r'.total < 2 ^ 16) :
    (c.exec op).Holds r' := by
  obtain ⟨obj, returned⟩ := c
  obtain ⟨app, internal⟩ := r
  unfold Refs.step at hs
  by_cases hzero : Refs.total ⟨app, internal⟩ = 0
  · rw [if_pos hzero] at hs
    cases hs
  have hobj : obj = .of app internal 0 := by simpa [hzero] using h.obj
  subst hobj
  rw [if_neg hzero] at hs
  cases op with
  | AddRef =>
      cases hs
      exact holds_AddRef hr'
  | Release =>
      cases hs
      cases app with
      | zero =>
          have hpos : internal ≠ 0 := by simpa [Refs.total] using hzero
          exact holds_Release_zero hpos (by simpa [Refs.total] using hr)
      | succ app => exact holds_Release_succ hr
  | bind =>
      cases hs
      exact holds_bind
  | unbind =>
      cases internal with
      | zero => cases hs
      | succ internal =>
          cases hs
          exact holds_unbind hr'

/-- **The run lemma.** -/
theorem Holds.run {ops : List RefOp} {c : Counted} {r r' : Refs} (h : c.Holds r)
    (hs : Runs.run Refs.step r ops = some r')
    (hbound : ∀ done todo r₁, ops = done ++ todo → Runs.run Refs.step r done = some r₁ →
      r₁.total < 2 ^ 16) :
    (ops.foldl exec c).Holds r' := by
  induction ops generalizing c r with
  | nil =>
      cases hs
      exact h
  | cons op ops ih =>
      obtain ⟨r₁, hop, hs⟩ := run_cons.mp hs
      have hr : r.total < 2 ^ 16 := hbound [] _ r rfl rfl
      have hr₁ : r₁.total < 2 ^ 16 :=
        hbound [op] ops r₁ rfl (run_cons.mpr ⟨r₁, hop, rfl⟩)
      refine ih (h.step hop hr hr₁) hs fun done todo r₂ hsplit hdone => ?_
      exact hbound (op :: done) todo r₂ (by rw [hsplit]; rfl) (run_cons.mpr ⟨r₁, hop, hdone⟩)

end Counted

/-- **Fused reference count.**  A sequence of calls, of any length, agrees with the true numbers
after each of its calls, as long as they are legal, exactly when after each of these there are less
than `2 ^ 16` references. -/
theorem fused_count (ops : List RefOp) :
    (∀ done todo r', ops = done ++ todo → run Refs.step ⟨1, 0⟩ done = some r' →
      (done.foldl Counted.exec .construct).Agrees r') ↔
    ∀ done todo r', ops = done ++ todo → run Refs.step ⟨1, 0⟩ done = some r' →
      r'.total < 2 ^ 16 := by
  constructor
  · intro hagrees done todo r' hsplit hdone
    rw [← (hagrees done todo r' hsplit hdone).object, D3DRefCounted.getRef,
      toNat_toRefValue_Object]
    exact Nat.mod_lt _ (by decide)
  · intro hbound done todo r' hsplit hdone
    refine (Counted.Holds.run .construct hdone fun done' todo' r₁ hsplit' hdone' => ?_).agrees
      (hbound done todo r' hsplit hdone)
    exact hbound done' (todo' ++ todo) r₁ (by rw [hsplit, hsplit', List.append_assoc]) hdone'

theorem run_bind (k internal : Nat) :
    run Refs.step ⟨1, internal⟩ (List.replicate k RefOp.bind) = some ⟨1, internal + k⟩ := by
  induction k generalizing internal with
  | zero => rfl
  | succ k ih =>
      refine run_cons.mpr ⟨⟨1, internal + 1⟩, if_neg (by simp [Refs.total]), ?_⟩
      rw [ih, Nat.add_assoc, Nat.add_comm 1 k]

theorem foldl_bind (k internal : Nat) (returned : Option Word) :
    ((List.replicate k RefOp.bind).foldl Counted.exec ⟨.of 1 internal 0, returned⟩).obj =
      D3DRefCounted.of 1 (internal + k) 0 := by
  induction k generalizing internal returned with
  | zero => rfl
  | succ k ih =>
      have hbind : Counted.exec ⟨.of 1 internal 0, returned⟩ .bind = ⟨.of 1 (internal + 1) 0, none⟩ :=
        congrArg (Counted.mk · none) D3DRefCounted.bind_of
      rw [List.replicate_succ, List.foldl_cons, hbind, ih, Nat.add_assoc, Nat.add_comm 1 k]

theorem foldl_bind_unbind (k : Nat) :
    ((List.replicate k RefOp.bind ++ [RefOp.unbind]).foldl Counted.exec .construct).obj =
      ((D3DRefCounted.of 1 k 0).decRef .Object 1).2 := by
  have hbind := foldl_bind k 0 none
  rw [Nat.zero_add] at hbind
  rw [List.foldl_append, ← hbind]
  rfl

/-- **The deleter may run too soon.**  An object the application holds is bound `2 ^ 16` times and
unbound once: the Object count is 0, and the object is deleted with `2 ^ 16` references left. -/
theorem fused_count_wraps :
    ∃ ops, run Refs.step ⟨1, 0⟩ ops = some ⟨1, 65535⟩ ∧
      (ops.foldl Counted.exec .construct).obj.deleted = 1 := by
  refine ⟨List.replicate 65536 RefOp.bind ++ [RefOp.unbind], ?_, ?_⟩
  · exact run_append.mpr ⟨⟨1, 65536⟩, by rw [run_bind], rfl⟩
  · rw [foldl_bind_unbind]
    rfl

end RemixBridge
