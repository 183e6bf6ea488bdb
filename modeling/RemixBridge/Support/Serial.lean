import Mathlib.Data.BitVec
import Mathlib.Data.List.FinRange
import Mathlib.Tactic.Common

/-!
# Support — Serial

Binary formats with 32-bit sizes.  A `Codec` writes the values of a type, tells their size ahead of
writing, and reads what it wrote back from the front of whatever follows; that it does is part of
it.  A record whose members are listed is sized, written and read member by member.

* `deserialize_serialize`: what is read back is the record with every listed member replaced.
* `calcSize_eq`: the size told is the size written, modulo `2 ^ 32`.
-/

namespace Serial

abbrev Byte := BitVec 8

/-- A format for the values of a type. -/
structure Codec (α : Type) where
  sizeOf : α → BitVec 32
  serialize : α → List Byte
  deserialize : List Byte → Option (α × List Byte)
  size_eq (a : α) : sizeOf a = BitVec.ofNat 32 (serialize a).length
  round (a : α) (rest : List Byte) : deserialize (serialize a ++ rest) = some (a, rest)

/-! ### Words -/

/-- The bytes of a number, the lowest first. -/
def bytesOf : Nat → Nat → List Byte
  | 0, _     => []
  | k + 1, n => BitVec.ofNat 8 n :: bytesOf k (n / 2 ^ 8)

def ofBytes : List Byte → Nat
  | []      => 0
  | b :: bs => b.toNat + 2 ^ 8 * ofBytes bs

@[simp] theorem length_bytesOf (k n : Nat) : (bytesOf k n).length = k := by
  induction k generalizing n with
  | zero => rfl
  | succ k ih => rw [bytesOf, List.length_cons, ih]

theorem ofBytes_bytesOf (k n : Nat) (h : n < 2 ^ (8 * k)) : ofBytes (bytesOf k n) = n := by
  induction k generalizing n with
  | zero =>
      have h0 : n = 0 := by simpa using h
      rw [h0]
      rfl
  | succ k ih =>
      have hdiv : n / 2 ^ 8 < 2 ^ (8 * k) := by
        rw [Nat.div_lt_iff_lt_mul (by decide), ← Nat.pow_add]
        rwa [Nat.mul_succ] at h
      rw [bytesOf, ofBytes, ih _ hdiv, BitVec.toNat_ofNat]
      exact Nat.mod_add_div n (2 ^ 8)

/-- What is read of a size, if there is as much. -/
def take (k : Nat) (bs : List Byte) : Option (List Byte × List Byte) :=
  if k ≤ bs.length then some (bs.take k, bs.drop k) else none

theorem take_append {k : Nat} {bs : List Byte} (h : bs.length = k) (rest : List Byte) :
    take k (bs ++ rest) = some (bs, rest) := by
  unfold take
  rw [if_pos (by rw [List.length_append, h]; exact Nat.le_add_right _ _), List.take_left' h,
    List.drop_left' h]

namespace Codec

/-- A number of `k` bytes. -/
def bits (k : Nat) : Codec (BitVec (8 * k)) where
  sizeOf _ := BitVec.ofNat 32 k
  serialize w := bytesOf k w.toNat
  deserialize bs := (take k bs).map fun r => (BitVec.ofNat (8 * k) (ofBytes r.1), r.2)
  size_eq w := by rw [length_bytesOf]
  round w rest := by
    rw [take_append (length_bytesOf k w.toNat), Option.map_some,
      ofBytes_bytesOf k w.toNat w.isLt, BitVec.ofNat_toNat, BitVec.setWidth_eq]

/-! ### Arrays -/

section arrays

variable {α : Type} (c : Codec α)

def deserializeMany : Nat → List Byte → Option (List α × List Byte)
  | 0, bs     => some ([], bs)
  | n + 1, bs => do
      let (a, bs) ← c.deserialize bs
      let (as, bs) ← deserializeMany n bs
      return (a :: as, bs)

theorem deserializeMany_flatMap (as : List α) (rest : List Byte) :
    c.deserializeMany as.length (as.flatMap c.serialize ++ rest) = some (as, rest) := by
  induction as with
  | nil => rfl
  | cons a as ih =>
      rw [List.length_cons, deserializeMany, List.flatMap_cons, List.append_assoc, c.round]
      simp [ih]

theorem sum_sizeOf (as : List α) :
    (as.map c.sizeOf).sum = BitVec.ofNat 32 (as.flatMap c.serialize).length := by
  induction as with
  | nil => rfl
  | cons a as ih =>
      rw [List.map_cons, List.sum_cons, ih, c.size_eq, List.flatMap_cons, List.length_append,
        BitVec.ofNat_add]

/-- An array of `n` elements. -/
def array (n : Nat) : Codec (Fin n → α) where
  sizeOf v := ((List.ofFn v).map c.sizeOf).sum
  serialize v := (List.ofFn v).flatMap c.serialize
  deserialize bs := (c.deserializeMany n bs).bind fun r =>
    if h : r.1.length = n then some (fun i => r.1.get (Fin.cast h.symm i), r.2) else none
  size_eq v := c.sum_sizeOf _
  round v rest := by
    have h := c.deserializeMany_flatMap (List.ofFn v) rest
    rw [List.length_ofFn] at h
    rw [h, Option.bind_some]
    simp

end arrays

/-! ### Members -/

end Codec

/-- A member of a record. -/
structure Member (σ : Type) where
  {α : Type}
  codec : Codec α
  get : σ → α
  set : σ → α → σ

variable {σ : Type}

/-- The size of the members. -/
def calcSize (fields : List (Member σ)) (s : σ) : BitVec 32 :=
  (fields.map fun f => f.codec.sizeOf (f.get s)).sum

def serialize (fields : List (Member σ)) (s : σ) : List Byte :=
  fields.flatMap fun f => f.codec.serialize (f.get s)

/-- Reading the members into a record. -/
def deserialize : List (Member σ) → List Byte → σ → Option (σ × List Byte)
  | [], bs, s          => some (s, bs)
  | f :: fields, bs, s => do
      let (a, bs) ← f.codec.deserialize bs
      deserialize fields bs (f.set s a)

/-- A record with the members of another. -/
def assign (fields : List (Member σ)) (v s : σ) : σ :=
  fields.foldl (fun s f => f.set s (f.get v)) s

/-- **Reading back.**  What is read is the record before, with the members that were written. -/
theorem deserialize_serialize (fields : List (Member σ)) (v s : σ) (rest : List Byte) :
    deserialize fields (serialize fields v ++ rest) s = some (assign fields v s, rest) := by
  induction fields generalizing s with
  | nil => rfl
  | cons f fields ih =>
      have hcons : serialize (f :: fields) v = f.codec.serialize (f.get v) ++ serialize fields v :=
        rfl
      rw [deserialize, hcons, List.append_assoc, f.codec.round]
      exact ih (f.set s (f.get v))

/-- **The size told.** -/
theorem calcSize_eq (fields : List (Member σ)) (v : σ) :
    calcSize fields v = BitVec.ofNat 32 (serialize fields v).length := by
  induction fields with
  | nil => rfl
  | cons f fields ih =>
      have hcons : serialize (f :: fields) v = f.codec.serialize (f.get v) ++ serialize fields v :=
        rfl
      rw [hcons, List.length_append, BitVec.ofNat_add, ← f.codec.size_eq, ← ih]
      rfl

/-- A record whose members are all that there is to it. -/
def Codec.record (fields : List (Member σ)) (empty : σ)
    (h : ∀ v, assign fields v empty = v) : Codec σ where
  sizeOf := calcSize fields
  serialize := Serial.serialize fields
  deserialize bs := Serial.deserialize fields bs empty
  size_eq := calcSize_eq fields
  round v rest := by rw [deserialize_serialize, h]

end Serial
