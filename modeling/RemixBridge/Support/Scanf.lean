import Mathlib.Algebra.GroupWithZero.Nat
import Mathlib.Data.List.TakeWhile
import Mathlib.Tactic.Common

/-!
# Support — Scanf

`scanf` for formats of hexadecimal conversions with a width and of literal characters, over codes
of characters.  A conversion skips white space, and takes a sign and a `0x` like `strtoul` does; it
fails for want of input if there is none left, and by a mismatch otherwise.

* `hexString`: what a conversion with zeros in front prints.
* `scan_hexString`: a conversion of the same width reads it back.
* `swscanf_eq_none`: `EOF` means that there is nothing but white space.
-/

namespace Scanf

/-- The value of a hexadecimal digit; 16 for any other character. -/
def digit (c : Nat) : Nat :=
  if 0x30 ≤ c ∧ c ≤ 0x39 then c - 0x30
  else if 0x61 ≤ c ∧ c ≤ 0x66 then c - 0x61 + 10
  else if 0x41 ≤ c ∧ c ≤ 0x46 then c - 0x41 + 10
  else 16

def isxdigit (c : Nat) : Bool := digit c < 16

/-- The number that digits stand for. -/
def value (cs : List Nat) : Nat := cs.foldl (fun acc c => acc * 16 + digit c) 0

/-- Which characters are white space: no digit is, and no sign. -/
structure Locale where
  iswspace : Nat → Bool
  xdigit : ∀ c, isxdigit c = true → iswspace c = false
  minus : iswspace 0x2d = false
  plus : iswspace 0x2b = false

/-- The white space of the C locale. -/
def Locale.c : Locale where
  iswspace c := c = 0x20 ∨ (0x09 ≤ c ∧ c ≤ 0x0d)
  xdigit c h := by
    have hdigit : digit c < 16 := of_decide_eq_true h
    have hne : ¬ (c = 0x20 ∨ (0x09 ≤ c ∧ c ≤ 0x0d)) := by
      rintro (hc | hc)
      · subst hc
        exact absurd hdigit (by decide)
      · rw [digit, if_neg (by omega), if_neg (by omega), if_neg (by omega)] at hdigit
        exact absurd hdigit (by decide)
    exact decide_eq_false hne
  minus := rfl
  plus := rfl

/-- `%<width>x` for a destination of so many bits, and a character of its own. -/
inductive Directive
  | hex (width bits : Nat)
  | literal (c : Nat)

inductive Outcome
  | matched (value : Option Nat) (rest : List Nat)
  | mismatch
  | inputFailure
deriving DecidableEq

/-- Behind the sign: if there is a minus, and how long it is. -/
def sign : List Nat → Bool × Nat
  | 0x2d :: _ => (true, 1)
  | 0x2b :: _ => (false, 1)
  | _ => (false, 0)

/-- How long a `0x` is. -/
def baseLength : List Nat → Nat
  | 0x30 :: 0x78 :: _ => 2
  | 0x30 :: 0x58 :: _ => 2
  | _ => 0

/-- The number at the start of the input, and its length. -/
def number (bits : Nat) (cs : List Nat) : Option (Nat × Nat) :=
  let (negative, k) := sign cs
  let start := k + baseLength (cs.drop k)
  let digits := (cs.drop start).takeWhile isxdigit
  let v := value digits % 2 ^ bits
  if digits = [] then none
  else some (if negative then (2 ^ bits - v) % 2 ^ bits else v, start + digits.length)

/-- `%<width>x` behind the white space. -/
def convert (width bits : Nat) (cs : List Nat) : Outcome :=
  if cs = [] then .inputFailure
  else
    match number bits (cs.take width) with
    | none => .mismatch
    | some (v, n) => .matched (some v) (cs.drop n)

def Directive.match (l : Locale) (cs : List Nat) : Directive → Outcome
  | .hex width bits => convert width bits (cs.dropWhile l.iswspace)
  | .literal c =>
      match cs with
      | [] => .inputFailure
      | c' :: cs => if c' = c then .matched none cs else .mismatch

/-- The values stored, and if the input has failed. -/
def scan (l : Locale) : List Directive → List Nat → List Nat × Bool
  | [], _ => ([], false)
  | d :: ds, cs =>
      match d.match l cs with
      | .inputFailure => ([], true)
      | .mismatch => ([], false)
      | .matched v rest => (v.toList ++ (scan l ds rest).1, (scan l ds rest).2)

/-- The result: the number of values stored, or `EOF`. -/
def swscanf (l : Locale) (ds : List Directive) (cs : List Nat) : Option Nat :=
  if (scan l ds cs).1 = [] ∧ (scan l ds cs).2 then none else some (scan l ds cs).1.length

/-! ### Printing -/

/-- `0123456789abcdef`. -/
def xdigit (d : Nat) : Nat := if d < 10 then 0x30 + d else 0x61 + (d - 10)

/-- `%0<width>x` of a number that fits. -/
def hexString : Nat → Nat → List Nat
  | 0, _ => []
  | width + 1, n => hexString width (n / 16) ++ [xdigit (n % 16)]

theorem digit_xdigit {d : Nat} (h : d < 16) : digit (xdigit d) = d := by
  unfold digit xdigit
  split
  · rw [if_pos (by omega)]
    omega
  · rw [if_neg (by omega), if_pos (by omega)]
    omega

theorem isxdigit_xdigit (n : Nat) : isxdigit (xdigit (n % 16)) = true := by
  rw [isxdigit, digit_xdigit (Nat.mod_lt n (by decide))]
  exact decide_eq_true (Nat.mod_lt n (by decide))

@[simp] theorem length_hexString (width n : Nat) : (hexString width n).length = width := by
  induction width generalizing n with
  | zero => rfl
  | succ width ih => rw [hexString, List.length_append, ih, List.length_singleton]

theorem isxdigit_hexString {width n c : Nat} (h : c ∈ hexString width n) :
    isxdigit c = true := by
  induction width generalizing n with
  | zero => cases h
  | succ width ih =>
      rcases List.mem_append.mp h with hfront | hlast
      · exact ih hfront
      · rw [List.mem_singleton.mp hlast]
        exact isxdigit_xdigit n

theorem value_hexString (width n : Nat) : value (hexString width n) = n % 16 ^ width := by
  induction width generalizing n with
  | zero => exact (Nat.mod_one n).symm
  | succ width ih =>
      have hstep : value (hexString (width + 1) n) = value (hexString width (n / 16)) * 16 + n % 16 := by
        rw [hexString, value, List.foldl_append, List.foldl_cons, List.foldl_nil,
          digit_xdigit (Nat.mod_lt n (by decide))]
        rfl
      rw [hstep, ih, Nat.pow_succ', Nat.mod_mul]
      omega

/-! ### Reading back -/

section xdigits

variable {cs : List Nat} (h : ∀ c ∈ cs, isxdigit c = true)

include h

theorem sign_of_xdigits : sign cs = (false, 0) := by
  unfold sign
  split
  · exact absurd (h 0x2d List.mem_cons_self) (by decide)
  · exact absurd (h 0x2b List.mem_cons_self) (by decide)
  · rfl

theorem baseLength_of_xdigits : baseLength cs = 0 := by
  unfold baseLength
  split
  · exact absurd (h 0x78 (List.mem_cons_of_mem _ List.mem_cons_self)) (by decide)
  · exact absurd (h 0x58 (List.mem_cons_of_mem _ List.mem_cons_self)) (by decide)
  · rfl

theorem number_of_xdigits {bits : Nat} (hcs : cs ≠ []) :
    number bits cs = some (value cs % 2 ^ bits, cs.length) := by
  have hall : cs.takeWhile isxdigit = cs := List.takeWhile_eq_self_iff.mpr h
  simp only [number, sign_of_xdigits h, List.drop_zero, baseLength_of_xdigits h, hall, hcs,
    if_false, Nat.zero_add, Bool.false_eq_true]

end xdigits

/-- **A conversion reads what one of its width has printed.** -/
theorem match_hexString (l : Locale) {width bits n : Nat} (hwidth : 0 < width)
    (hn : n < 16 ^ width) (hbits : n < 2 ^ bits) (rest : List Nat) :
    (Directive.hex width bits).match l (hexString width n ++ rest) = .matched (some n) rest := by
  have hxdigits : ∀ c ∈ hexString width n, isxdigit c = true := fun c hc => isxdigit_hexString hc
  have hne : hexString width n ≠ [] := by
    rw [ne_eq, ← List.length_eq_zero_iff, length_hexString]
    exact Nat.ne_of_gt hwidth
  obtain ⟨c, cs, hcons⟩ := List.exists_cons_of_ne_nil hne
  have hspace : (hexString width n ++ rest).dropWhile l.iswspace = hexString width n ++ rest := by
    have hc : l.iswspace c = false := l.xdigit c (hxdigits c (hcons ▸ List.mem_cons_self))
    rw [hcons, List.cons_append, List.dropWhile_cons_of_neg (by rw [hc]; nofun)]
  have htake : (hexString width n ++ rest).take width = hexString width n :=
    List.take_left' (length_hexString width n)
  have hdrop : (hexString width n ++ rest).drop width = rest :=
    List.drop_left' (length_hexString width n)
  have hvalue : value (hexString width n) % 2 ^ bits = n := by
    rw [value_hexString, Nat.mod_eq_of_lt hn, Nat.mod_eq_of_lt hbits]
  have hnumber : number bits (hexString width n) =
      some (value (hexString width n) % 2 ^ bits, (hexString width n).length) :=
    number_of_xdigits hxdigits hne
  rw [hvalue, length_hexString] at hnumber
  have hinput : hexString width n ++ rest ≠ [] := fun hnil =>
    hne (List.append_eq_nil_iff.mp hnil).1
  simp only [Directive.match, hspace, convert, hinput, if_false, htake, hnumber, hdrop]

theorem scan_hexString (l : Locale) {width bits n : Nat} (hwidth : 0 < width)
    (hn : n < 16 ^ width) (hbits : n < 2 ^ bits) (ds : List Directive) (rest : List Nat) :
    scan l (.hex width bits :: ds) (hexString width n ++ rest) =
      (n :: (scan l ds rest).1, (scan l ds rest).2) := by
  rw [scan, match_hexString l hwidth hn hbits]
  rfl

theorem scan_literal (l : Locale) (c : Nat) (ds : List Directive) (rest : List Nat) :
    scan l (.literal c :: ds) (c :: rest) = scan l ds rest := by
  have hmatch : (Directive.literal c).match l (c :: rest) = .matched none rest := if_pos rfl
  rw [scan, hmatch]
  rfl

/-! ### The end of the input -/

/-- **`EOF`.**  A format that starts with a conversion ends with `EOF` on white space only. -/
theorem swscanf_eq_none (l : Locale) (width bits : Nat) (ds : List Directive) (cs : List Nat) :
    swscanf l (.hex width bits :: ds) cs = none ↔ ∀ c ∈ cs, l.iswspace c = true := by
  rw [← List.dropWhile_eq_nil_iff]
  have hfirst : (Directive.hex width bits).match l cs =
      convert width bits (cs.dropWhile l.iswspace) := rfl
  rw [swscanf, scan, hfirst, convert]
  by_cases hrest : cs.dropWhile l.iswspace = []
  · simp [hrest]
  · rw [if_neg hrest]
    cases number bits ((cs.dropWhile l.iswspace).take width) with
    | none => simp [hrest]
    | some r => simp [hrest]

end Scanf
