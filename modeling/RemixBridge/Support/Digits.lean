import Mathlib.Data.Nat.Digits.Defs

/-!
# Support — Digits

Numbers in positional notation: the digits of a string, most significant first, and the number they
denote in a base.  `value` is the number by definition; a loop that multiplies and adds computes it
(`accumulate_eq`), also in a type whose arithmetic wraps, up to one wrap at the end.
-/

namespace Digits

/-- The digit a character stands for, up to base 36; 36 for one that is no digit. -/
def digit (c : Char) : Nat :=
  if '0' ≤ c ∧ c ≤ '9' then c.toNat - '0'.toNat
  else if 'a' ≤ c ∧ c ≤ 'z' then c.toNat - 'a'.toNat + 10
  else if 'A' ≤ c ∧ c ≤ 'Z' then c.toNat - 'A'.toNat + 10
  else 36

/-- The number a string of digits denotes. -/
def value (b : Nat) (ds : List Char) : Nat := Nat.ofDigits b (ds.map digit).reverse

/-- A string that is at least one digit, and nothing else. -/
def Numeral (b : Nat) (ds : List Char) : Prop := ds ≠ [] ∧ ∀ c ∈ ds, digit c < b

instance (b : Nat) (ds : List Char) : Decidable (Numeral b ds) :=
  decidable_of_iff (ds ≠ [] ∧ ds.all (fun c => decide (digit c < b)) = true) (by simp [Numeral])

/-- The number a string denotes, if it is a numeral. -/
def number (b : Nat) (ds : List Char) : Option Nat :=
  if Numeral b ds then some (value b ds) else none

theorem number_eq_some {b v : Nat} {ds : List Char} :
    number b ds = some v ↔ Numeral b ds ∧ value b ds = v := by
  unfold number
  split <;> simp_all

theorem digit_lt_ten {c : Char} : digit c < 10 ↔ '0' ≤ c ∧ c ≤ '9' := by
  constructor
  · intro h
    unfold digit at h
    split at h
    · assumption
    · split at h
      · omega
      · split at h <;> omega
  · intro h
    have hle : c.toNat ≤ 57 := h.2
    rw [digit, if_pos h]
    change c.toNat - 48 < 10
    omega

theorem digit_lt_two {c : Char} (h : digit c < 2) : c = '0' ∨ c = '1' := by
  have hc := digit_lt_ten.mp (h.trans (by decide))
  have hle : 48 ≤ c.toNat := hc.1
  rw [digit, if_pos hc] at h
  have h : c.toNat - 48 < 2 := h
  rcases (by omega : c.toNat = 48 ∨ c.toNat = 49) with h | h
  · exact .inl (Char.toNat_inj.mp h)
  · exact .inr (Char.toNat_inj.mp h)

/-- A decimal digit by its distance from `0`. -/
theorem digit_eq_sub {c : Char} (h : digit c < 10) : (c.toNat : Int) - '0'.toNat = digit c := by
  have hc := digit_lt_ten.mp h
  have hle : '0'.toNat ≤ c.toNat := hc.1
  rw [digit, if_pos hc]
  omega

@[simp] theorem value_nil (b : Nat) : value b [] = 0 := rfl

theorem value_append (b : Nat) (ds es : List Char) :
    value b (ds ++ es) = value b ds * b ^ es.length + value b es := by
  simp only [value, List.map_append, List.reverse_append, Nat.ofDigits_append, List.length_reverse,
    List.length_map]
  rw [Nat.mul_comm, Nat.add_comm]

theorem value_cons (b : Nat) (c : Char) (ds : List Char) :
    value b (c :: ds) = digit c * b ^ ds.length + value b ds := by
  rw [← List.singleton_append, value_append]
  simp [value]

/-- Leading digits that are the whole number are zero, where more digits follow. -/
theorem value_take_eq_iff {b k : Nat} {ds : List Char} (hb : 1 < b) (hk : k < ds.length) :
    value b (ds.take k) = value b ds ↔ value b ds = 0 := by
  have hsplit : value b ds =
      value b (ds.take k) * b ^ (ds.drop k).length + value b (ds.drop k) := by
    rw [← value_append, List.take_append_drop]
  have hpow : 1 < b ^ (ds.drop k).length :=
    Nat.one_lt_pow (by rw [List.length_drop]; omega) hb
  constructor
  · intro h
    rw [h] at hsplit
    by_contra hne
    have : value b ds * 1 < value b ds * b ^ (ds.drop k).length :=
      Nat.mul_lt_mul_of_pos_left hpow (Nat.pos_of_ne_zero hne)
    omega
  · intro h
    rw [h] at hsplit ⊢
    have hzero : value b (ds.take k) * b ^ (ds.drop k).length = 0 := by omega
    exact (Nat.mul_eq_zero.mp hzero).resolve_right (by omega)

section wrap

variable {wrap : Int → Int} {b : Nat}

/-- The loop that multiplies by the base and adds a digit, in arithmetic that wraps. -/
def accumulate (wrap : Int → Int) (b : Nat) (x : Int) (ds : List Char) : Int :=
  ds.foldl (fun x c => wrap (wrap (x * b) + digit c)) x

/-- Wrapping at each step is wrapping at the end. -/
theorem accumulate_eq (hadd : ∀ x y, wrap (wrap x + y) = wrap (x + y))
    (hmul : ∀ x y, wrap (wrap x * y) = wrap (x * y)) {ds : List Char} (hne : ds ≠ []) (x : Int) :
    accumulate wrap b x ds = wrap (x * (b ^ ds.length : Nat) + value b ds) := by
  induction ds generalizing x with
  | nil => exact absurd rfl hne
  | cons c ds ih =>
      rw [value_cons, List.length_cons]
      rcases eq_or_ne ds [] with rfl | hds
      · simp [accumulate, hadd]
      · rw [accumulate, List.foldl_cons, ← accumulate, ih hds, hadd, ← hadd, hmul, hadd]
        congr 1
        push_cast
        ring

end wrap

end Digits
