import RemixBridge.Support.Digits
import Mathlib.Data.List.Infix
import Mathlib.Data.List.TakeWhile

/-!
# Config — OptionValue

The integer options of a configuration file (`config.cpp`): what `parseOptionValue` makes of a
string, for the four integer types.

The three parsers of decimal digits share one loop, in the arithmetic of their type, and none tests
for an overflow: the conversions of `uint8_t` and `uint16_t` wrap, and so does `int32_t`, in two's
complement.  The fourth looks for a notation's mark anywhere in the string and hands the string to
the standard library, whose exceptions it does not catch.

* `number`: the number that a string denotes in the notations of a type.
* `exact_iff`: the strings of which the parser makes just that.
-/

namespace RemixBridge.Config
open Digits (digit)

/-- The integer types of an option. -/
inductive OptionType where
  | uint8
  | uint16
  | int32
  | uint32
  deriving DecidableEq, Repr

/-- What a call does: it returns `false`, returns `true` with `result`, or throws. -/
inductive Outcome where
  | refused
  | parsed (result : Int)
  | throws
  deriving DecidableEq, Repr

/-! ### The parsers of decimal digits -/

/-- The loop over the digits: `wrap` is what storing in `intval` makes of a number. -/
def digits (wrap : Int → Int) : Int → List Char → Option Int
  | intval, [] => some intval
  | intval, c :: cs =>
      if c < '0' ∨ c > '9' then none
      else digits wrap (wrap (wrap (intval * 10) + ((c.toNat : Int) - '0'.toNat))) cs

/-- The conversion to an unsigned type of `w` bits. -/
def toUnsigned (w : Nat) (x : Int) : Int := x % 2 ^ w

/-- `int32_t` arithmetic. -/
def toInt32 (x : Int) : Int := x.bmod (2 ^ 32)

/-- The parser of an unsigned type of `w` bits. -/
def parseUnsigned (w : Nat) (value : List Char) : Outcome :=
  if value = [] then .refused
  else
    match digits (toUnsigned w) 0 value with
    | none        => .refused
    | some intval => .parsed intval

def parseUInt8 (value : List Char) : Outcome := parseUnsigned 8 value

def parseUInt16 (value : List Char) : Outcome := parseUnsigned 16 value

def parseInt32 (value : List Char) : Outcome :=
  match value with
  | [] => .refused
  | c :: cs =>
      let sign : Int := if c = '-' then -1 else 1
      match digits toInt32 0 (if c = '-' then cs else c :: cs) with
      | none        => .refused
      | some intval => .parsed (toInt32 (sign * intval))

/-! ### The parser of `uint32_t` -/

/-- `std::isspace`, in the C locale. -/
def isspace (c : Char) : Bool := c = ' ' ∨ (9 ≤ c.toNat ∧ c.toNat ≤ 13)

def skipSign (value : List Char) : List Char :=
  if value.head? = some '-' ∨ value.head? = some '+' then value.tail else value

/-- The prefix that base 16 allows, where a digit follows it. -/
def skipPrefix (base : Nat) : List Char → List Char
  | '0' :: x :: c :: cs =>
      if base = 16 ∧ (x = 'x' ∨ x = 'X') ∧ digit c < 16 then c :: cs else '0' :: x :: c :: cs
  | cs => cs

/-- `std::stoul` with a 32-bit `unsigned long`, or `none` when it throws: white space, a sign, the
prefix of base 16, and then as many digits as there are, whatever follows them. -/
def stoul (base : Nat) (value : List Char) : Option Nat :=
  let rest := value.dropWhile isspace
  let ds := (skipPrefix base (skipSign rest)).takeWhile fun c => digit c < base
  -- no digits: `invalid_argument`; too large a number: `out_of_range`
  if ds = [] ∨ Digits.value base ds ≥ 2 ^ 32 then none
  else if rest.head? = some '-' then some ((2 ^ 32 - Digits.value base ds) % 2 ^ 32)
  else some (Digits.value base ds)

/-- `std::bitset<32>(value, pos)`, or `none` when it throws: every character is tested, and the
first 32 are the number. -/
def bitset (value : List Char) (pos : Nat) : Option Nat :=
  if pos > value.length then none
  else if (value.drop pos).all (fun c => c = '0' ∨ c = '1') then
    some (Digits.value 2 ((value.drop pos).take 32))
  else none

/-- What a call that may throw returns. -/
def ofCall : Option Nat → Outcome
  | none        => .throws
  | some result => .parsed result

/-- The parser of `uint32_t`: `sized unit value` is `std::stod(value) * unit`, converted, or `none`
when `std::stod` throws. -/
def parseUInt32 (sized : Nat → List Char → Option Nat) (value : List Char) : Outcome :=
  if value = [] then .refused
  else if ['k', 'B'] <:+: value then ofCall (sized (2 ^ 10) value)
  else if ['M', 'B'] <:+: value then ofCall (sized (2 ^ 20) value)
  else if ['G', 'B'] <:+: value then ofCall (sized (2 ^ 30) value)
  else if ['0', 'b'] <:+: value then ofCall (bitset value 2)
  else if ['0', 'x'] <:+: value then ofCall (stoul 16 value)
  else ofCall (stoul 10 value)

/-- `Config::parseOptionValue`, at an integer type. -/
def parseOptionValue (sized : Nat → List Char → Option Nat) : OptionType → List Char → Outcome
  | .uint8  => parseUInt8
  | .uint16 => parseUInt16
  | .int32  => parseInt32
  | .uint32 => parseUInt32 sized

/-! ### The numbers that strings denote -/

/-- A number as a type has it. -/
def Representable : OptionType → Int → Prop
  | .uint8, v  => 0 ≤ v ∧ v < 2 ^ 8
  | .uint16, v => 0 ≤ v ∧ v < 2 ^ 16
  | .int32, v  => -2 ^ 31 ≤ v ∧ v < 2 ^ 31
  | .uint32, v => 0 ≤ v ∧ v < 2 ^ 32

instance (t : OptionType) (v : Int) : Decidable (Representable t v) := by
  cases t <;> exact inferInstanceAs (Decidable (_ ∧ _))

/-- The number a string denotes in the notations of a type: decimal, for `int32_t` with a minus, for
`uint32_t` hexadecimal behind `0x` and binary behind `0b`. -/
def number : OptionType → List Char → Option Int
  | .int32, '-' :: ds         => (Digits.number 10 ds).map fun v : Nat => -(v : Int)
  | .uint32, '0' :: 'x' :: ds => (Digits.number 16 ds).map fun v : Nat => (v : Int)
  | .uint32, '0' :: 'b' :: ds => (Digits.number 2 ds).map fun v : Nat => (v : Int)
  | _, ds                     => (Digits.number 10 ds).map fun v : Nat => (v : Int)

/-- What a parser should make of a string. -/
def expected (t : OptionType) (value : List Char) : Outcome :=
  match number t value with
  | none   => .refused
  | some v => if Representable t v then .parsed v else .refused

/-- Strings that the parsers of digits are not wrong about. -/
def InRange (t : OptionType) (value : List Char) : Prop :=
  ∀ v, number t value = some v → Representable t v

/-- Strings that a parser is not wrong about. -/
def Exact : OptionType → List Char → Prop
  | .uint8, value  => InRange .uint8 value
  | .uint16, value => InRange .uint16 value
  | .int32, value  => value ≠ ['-'] ∧ InRange .int32 value
  | .uint32, value => value = [] ∨ ∃ v, number .uint32 value = some v ∧ Representable .uint32 v ∧
      (['0', 'x'] <+: value → ¬ ['0', 'b'] <:+: value) ∧
      (['0', 'b'] <+: value → value.length ≤ 34 ∨ v = 0)

/-! ### Decimal digits -/

/-- The loop accepts digits only, and computes their number in the arithmetic of the type. -/
theorem digits_eq (wrap : Int → Int) (x : Int) (cs : List Char) :
    digits wrap x cs =
      if cs.all (fun c => decide (digit c < 10)) then some (Digits.accumulate wrap 10 x cs)
      else none := by
  induction cs generalizing x with
  | nil => rfl
  | cons c cs ih =>
      rw [digits]
      by_cases hc : digit c < 10
      · have hin : ¬ (c < '0' ∨ c > '9') := by simpa using Digits.digit_lt_ten.mp hc
        rw [if_neg hin, ih, Digits.digit_eq_sub hc]
        simp only [List.all_cons, hc, decide_true, Bool.true_and]
        rfl
      · have hout : c < '0' ∨ c > '9' := by
          by_contra h
          exact hc (Digits.digit_lt_ten.mpr (by simpa using h))
        rw [if_pos hout, if_neg]
        simp [hc]

/-- A nonempty string of digits is a number, up to one conversion; any other is refused. -/
theorem digits_number {wrap : Int → Int} (hadd : ∀ x y, wrap (wrap x + y) = wrap (x + y))
    (hmul : ∀ x y, wrap (wrap x * y) = wrap (x * y)) {cs : List Char} (hne : cs ≠ []) :
    digits wrap 0 cs = (Digits.number 10 cs).map fun v : Nat => wrap v := by
  rw [digits_eq, Digits.number]
  by_cases h : ∀ c ∈ cs, digit c < 10
  · rw [if_pos (by simpa using h), if_pos ⟨hne, h⟩, Digits.accumulate_eq hadd hmul hne,
      Int.zero_mul, Int.zero_add]
    rfl
  · rw [if_neg (by simpa using h), if_neg fun hn => h hn.2]
    rfl

theorem toUnsigned_add (w : Nat) (x y : Int) :
    toUnsigned w (toUnsigned w x + y) = toUnsigned w (x + y) := Int.emod_add_emod _ _ _

theorem toUnsigned_mul (w : Nat) (x y : Int) :
    toUnsigned w (toUnsigned w x * y) = toUnsigned w (x * y) := by
  simp [toUnsigned, Int.mul_emod]

theorem toInt32_add (x y : Int) : toInt32 (toInt32 x + y) = toInt32 (x + y) := Int.bmod_add_bmod

theorem toInt32_mul (x y : Int) : toInt32 (toInt32 x * y) = toInt32 (x * y) := Int.bmod_mul_bmod

/-- What a parser makes of a string that is a number, up to one conversion. -/
def converted (wrap : Int → Int) : Option Int → Outcome
  | none   => .refused
  | some v => .parsed (wrap v)

theorem parseUnsigned_eq (w : Nat) (value : List Char) :
    parseUnsigned w value =
      converted (toUnsigned w) ((Digits.number 10 value).map fun v : Nat => (v : Int)) := by
  unfold parseUnsigned
  split
  · rename_i h
    rw [h]
    rfl
  · rename_i hne
    rw [digits_number (toUnsigned_add w) (toUnsigned_mul w) hne]
    cases Digits.number 10 value <;> rfl

theorem parseInt32_eq {value : List Char} (h : value ≠ ['-']) :
    parseInt32 value = converted toInt32 (number .int32 value) := by
  cases value with
  | nil => rfl
  | cons c cs =>
      by_cases hc : c = '-'
      · subst hc
        have hne : cs ≠ [] := fun e => h (congrArg (List.cons '-') e)
        simp only [parseInt32, if_true, number]
        rw [digits_number toInt32_add toInt32_mul hne]
        cases Digits.number 10 cs with
        | none => rfl
        | some v =>
            simp [converted, toInt32]
      · have hnum : number .int32 (c :: cs) =
            (Digits.number 10 (c :: cs)).map fun v : Nat => (v : Int) := by
          unfold number
          split <;> simp_all
        simp only [parseInt32, if_neg hc, hnum]
        rw [digits_number toInt32_add toInt32_mul (List.cons_ne_nil c cs)]
        cases Digits.number 10 (c :: cs) with
        | none => rfl
        | some v => simp [converted, toInt32]

/-- A parser that converts what it read, and does not test it, is right about numbers in range. -/
theorem converted_eq_expected {wrap : Int → Int} {t : OptionType} {value : List Char}
    (hwrap : ∀ v, Representable t v → wrap v = v) :
    converted wrap (number t value) = expected t value ↔ InRange t value := by
  unfold expected InRange
  cases number t value with
  | none => simp [converted]
  | some v =>
      by_cases hv : Representable t v
      · simp [converted, hv, hwrap v hv]
      · simp [converted, hv]

theorem toUnsigned_eq {w : Nat} {v : Int} (h : 0 ≤ v ∧ v < 2 ^ w) : toUnsigned w v = v :=
  Int.emod_eq_of_lt h.1 h.2

theorem toInt32_eq {v : Int} (h : Representable .int32 v) : toInt32 v = v := by
  have h : -2 ^ 31 ≤ v ∧ v < 2 ^ 31 := h
  exact Int.bmod_eq_of_le (by omega) (by omega)

/-! ### The standard library on numerals -/

theorem skipPrefix_of_ne {base : Nat} (h : base ≠ 16) (value : List Char) :
    skipPrefix base value = value := by
  unfold skipPrefix
  split
  · rw [if_neg fun hh => h hh.1]
  · rfl

theorem skipPrefix_hex {ds : List Char} (h : Digits.Numeral 16 ds) :
    skipPrefix 16 ('0' :: 'x' :: ds) = ds := by
  obtain ⟨hne, hds⟩ := h
  cases ds with
  | nil => exact absurd rfl hne
  | cons c cs => exact if_pos ⟨rfl, .inl rfl, hds c List.mem_cons_self⟩

theorem isspace_of_digit {c : Char} (h : digit c < 10) : isspace c = false := by
  have hc := Digits.digit_lt_ten.mp h
  have hle : 48 ≤ c.toNat := hc.1
  have hne : c ≠ ' ' := by
    rintro rfl
    exact absurd hle (by decide)
  simp only [isspace, hne, false_or, decide_eq_false_iff_not]
  omega

theorem not_sign_of_digit {c : Char} (h : digit c < 10) : c ≠ '-' ∧ c ≠ '+' :=
  ⟨by rintro rfl; exact absurd h (by decide), by rintro rfl; exact absurd h (by decide)⟩

/-- What starts with a decimal digit and goes on as a numeral is read whole. -/
theorem stoul_eq {base : Nat} {c : Char} {cs ds : List Char} (hc : digit c < 10)
    (hskip : skipPrefix base (c :: cs) = ds) (h : Digits.Numeral base ds) :
    stoul base (c :: cs) =
      if Digits.value base ds < 2 ^ 32 then some (Digits.value base ds) else none := by
  obtain ⟨hminus, hplus⟩ := not_sign_of_digit hc
  have hdrop : (c :: cs).dropWhile isspace = c :: cs :=
    List.dropWhile_cons_of_neg (Bool.eq_false_iff.mp (isspace_of_digit hc))
  have hsign : skipSign (c :: cs) = c :: cs := by
    simp [skipSign, hminus, hplus]
  have htake : ds.takeWhile (fun c => digit c < base) = ds :=
    List.takeWhile_eq_self_iff.mpr fun c hmem => decide_eq_true (h.2 c hmem)
  have hhead : (c :: cs).head? ≠ some '-' := by simpa using hminus
  simp only [stoul, hdrop, hsign, hskip, htake, if_neg hhead]
  split
  · rename_i hlt
    rw [if_neg]
    exact not_lt.mpr (hlt.resolve_left h.1)
  · rename_i hge
    rw [if_pos]
    exact not_le.mp fun hle => hge (.inr hle)

/-- The first 32 of the characters behind `0b` are the number. -/
theorem bitset_eq {ds : List Char} (h : ∀ c ∈ ds, digit c < 2) :
    bitset ('0' :: 'b' :: ds) 2 = some (Digits.value 2 (ds.take 32)) := by
  have hbits : ∀ c ∈ ds, c = '0' ∨ c = '1' := fun c hc => Digits.digit_lt_two (h c hc)
  have hlen : ¬ 2 > ('0' :: 'b' :: ds).length := by simp
  rw [bitset, if_neg hlen]
  exact if_pos (List.all_eq_true.mpr fun c hc => decide_eq_true (hbits c hc))

/-- Another mark than at the front leaves a `b` that is no digit. -/
theorem bitset_hex {ds : List Char} (h : ['0', 'b'] <:+: '0' :: 'x' :: ds) :
    bitset ('0' :: 'x' :: ds) 2 = none := by
  have hmem : 'b' ∈ ds := by
    have : 'b' ∈ '0' :: 'x' :: ds := h.subset (by simp)
    simpa using this
  have hlen : ¬ 2 > ('0' :: 'x' :: ds).length := by simp
  rw [bitset, if_neg hlen, if_neg]
  intro hbits
  exact absurd (List.all_eq_true.mp hbits 'b' hmem) (by decide)

/-! ### Each notation of `uint32_t` -/

section uint32

variable (sized : Nat → List Char → Option Nat)

theorem ofCall_ne_refused (r : Option Nat) : ofCall r ≠ .refused := by
  cases r <;> exact nofun

/-- Past the test for the empty string nothing is refused. -/
theorem parseUInt32_ne_refused {value : List Char} (hne : value ≠ []) :
    parseUInt32 sized value ≠ .refused := by
  unfold parseUInt32
  rw [if_neg hne]
  repeat' split
  all_goals exact ofCall_ne_refused _

/-- A mark whose first or second character is not in the string is not found. -/
theorem not_found {a b : Char} {value : List Char} (h : a ∉ value ∨ b ∉ value) :
    ¬ [a, b] <:+: value := by
  intro hin
  have ha : a ∈ value := hin.subset (by simp)
  have hb : b ∈ value := hin.subset (by simp)
  exact h.elim (· ha) (· hb)

/-- Without a size, the mark of a notation decides. -/
theorem parseUInt32_eq {value : List Char} (hne : value ≠ [])
    (h : ∀ c ∈ value, digit c < 16 ∨ c = 'x') :
    parseUInt32 sized value =
      if ['0', 'b'] <:+: value then ofCall (bitset value 2)
      else if ['0', 'x'] <:+: value then ofCall (stoul 16 value)
      else ofCall (stoul 10 value) := by
  have hk : 'k' ∉ value := fun hc => absurd (h _ hc) (by decide)
  have hM : 'M' ∉ value := fun hc => absurd (h _ hc) (by decide)
  have hG : 'G' ∉ value := fun hc => absurd (h _ hc) (by decide)
  rw [parseUInt32, if_neg hne, if_neg (not_found (.inl hk)), if_neg (not_found (.inl hM)),
    if_neg (not_found (.inl hG))]

theorem parseUInt32_decimal {value : List Char} (h : Digits.Numeral 10 value)
    (hv : Digits.value 10 value < 2 ^ 32) :
    parseUInt32 sized value = .parsed (Digits.value 10 value) := by
  have hb : 'b' ∉ value := fun hc => absurd (h.2 _ hc) (by decide)
  have hx : 'x' ∉ value := fun hc => absurd (h.2 _ hc) (by decide)
  rw [parseUInt32_eq sized h.1 fun c hc => .inl ((h.2 c hc).trans (by decide)),
    if_neg (not_found (.inr hb)), if_neg (not_found (.inr hx))]
  cases value with
  | nil => exact absurd rfl h.1
  | cons c cs =>
      rw [stoul_eq (h.2 c List.mem_cons_self) (skipPrefix_of_ne (by decide) _) h, if_pos hv]
      rfl

theorem parseUInt32_hex {ds : List Char} (h : Digits.Numeral 16 ds)
    (hv : Digits.value 16 ds < 2 ^ 32) :
    parseUInt32 sized ('0' :: 'x' :: ds) =
      if ['0', 'b'] <:+: '0' :: 'x' :: ds then .throws else .parsed (Digits.value 16 ds) := by
  have hchars : ∀ c ∈ '0' :: 'x' :: ds, digit c < 16 ∨ c = 'x' := by
    simp only [List.forall_mem_cons]
    exact ⟨.inl (by decide), .inr trivial, fun c hc => .inl (h.2 c hc)⟩
  have hfound : ['0', 'x'] <:+: '0' :: 'x' :: ds := (List.prefix_append ['0', 'x'] ds).isInfix
  rw [parseUInt32_eq sized (List.cons_ne_nil _ _) hchars, if_pos hfound]
  split
  · rename_i hb
    rw [bitset_hex hb]
    rfl
  · rw [stoul_eq (by decide) (skipPrefix_hex h) h, if_pos hv]
    rfl

theorem parseUInt32_binary {ds : List Char} (h : Digits.Numeral 2 ds) :
    parseUInt32 sized ('0' :: 'b' :: ds) = .parsed (Digits.value 2 (ds.take 32)) := by
  have hchars : ∀ c ∈ '0' :: 'b' :: ds, digit c < 16 ∨ c = 'x' := by
    simp only [List.forall_mem_cons]
    exact ⟨.inl (by decide), .inl (by decide), fun c hc => .inl ((h.2 c hc).trans (by decide))⟩
  have hfound : ['0', 'b'] <:+: '0' :: 'b' :: ds := (List.prefix_append ['0', 'b'] ds).isInfix
  rw [parseUInt32_eq sized (List.cons_ne_nil _ _) hchars, if_pos hfound, bitset_eq h.2]
  rfl

/-- The notations of `uint32_t`. -/
theorem number_uint32 {value : List Char} {v : Int} (h : number .uint32 value = some v) :
    (∃ ds, value = '0' :: 'x' :: ds ∧ Digits.Numeral 16 ds ∧ v = Digits.value 16 ds) ∨
    (∃ ds, value = '0' :: 'b' :: ds ∧ Digits.Numeral 2 ds ∧ v = Digits.value 2 ds) ∨
    (Digits.Numeral 10 value ∧ v = Digits.value 10 value) := by
  unfold number at h
  split at h
  all_goals
    obtain ⟨w, hw, rfl⟩ := Option.map_eq_some_iff.mp h
    obtain ⟨hn, rfl⟩ := Digits.number_eq_some.mp hw
  · rename_i e
    cases e
  · exact .inl ⟨_, rfl, hn, rfl⟩
  · exact .inr (.inl ⟨_, rfl, hn, rfl⟩)
  · exact .inr (.inr ⟨hn, rfl⟩)

/-- Of the numbers in range the parser gets those right whose notation it finds and keeps whole. -/
theorem parseUInt32_eq_parsed {value : List Char} {v : Int} (h : number .uint32 value = some v)
    (hv : Representable .uint32 v) :
    parseUInt32 sized value = .parsed v ↔
      (['0', 'x'] <+: value → ¬ ['0', 'b'] <:+: value) ∧
      (['0', 'b'] <+: value → value.length ≤ 34 ∨ v = 0) := by
  obtain ⟨-, hlt⟩ : 0 ≤ v ∧ v < 2 ^ 32 := hv
  rcases number_uint32 h with ⟨ds, rfl, hn, rfl⟩ | ⟨ds, rfl, hn, rfl⟩ | ⟨hn, rfl⟩
  · have hmark : ['0', 'x'] <+: '0' :: 'x' :: ds := List.prefix_append ['0', 'x'] ds
    have hother : ¬ ['0', 'b'] <+: '0' :: 'x' :: ds := by simp
    rw [parseUInt32_hex sized hn (by exact_mod_cast hlt)]
    by_cases hb : ['0', 'b'] <:+: '0' :: 'x' :: ds
    · rw [if_pos hb]
      exact ⟨nofun, fun h => absurd hb (h.1 hmark)⟩
    · rw [if_neg hb]
      exact ⟨fun _ => ⟨fun _ => hb, fun h => absurd h hother⟩, fun _ => rfl⟩
  · have hmark : ['0', 'b'] <+: '0' :: 'b' :: ds := List.prefix_append ['0', 'b'] ds
    have hother : ¬ ['0', 'x'] <+: '0' :: 'b' :: ds := by simp
    have hlength : ('0' :: 'b' :: ds).length ≤ 34 ↔ ds.length ≤ 32 := by
      rw [List.length_cons, List.length_cons]
      omega
    rw [parseUInt32_binary sized hn, Outcome.parsed.injEq, Int.natCast_inj, hlength,
      Int.natCast_eq_zero]
    have hwhole : Digits.value 2 (ds.take 32) = Digits.value 2 ds ↔
        ds.length ≤ 32 ∨ Digits.value 2 ds = 0 := by
      rcases Nat.lt_or_ge 32 ds.length with hlong | hshort
      · rw [Digits.value_take_eq_iff (by decide) hlong]
        exact ⟨.inr, fun h => h.resolve_left (by omega)⟩
      · rw [List.take_of_length_le hshort]
        exact ⟨fun _ => .inl hshort, fun _ => rfl⟩
    rw [hwhole]
    exact ⟨fun h => ⟨fun hx => absurd hx hother, fun _ => h⟩, fun h => h.2 hmark⟩
  · have hb : 'b' ∉ value := fun hc => absurd (hn.2 _ hc) (by decide)
    have hx : 'x' ∉ value := fun hc => absurd (hn.2 _ hc) (by decide)
    rw [parseUInt32_decimal sized hn (by exact_mod_cast hlt)]
    exact ⟨fun _ => ⟨fun h => absurd (h.subset (by simp)) hx,
      fun h => absurd (h.subset (by simp)) hb⟩, fun _ => rfl⟩

end uint32

/-! ### Exactness -/

/-- A call that does not refuse is as expected if and only if it returns the number. -/
theorem eq_expected_iff {t : OptionType} {value : List Char} {o : Outcome} (ho : o ≠ .refused) :
    o = expected t value ↔
      ∃ v, number t value = some v ∧ Representable t v ∧ o = .parsed v := by
  unfold expected
  cases number t value with
  | none => simp [ho]
  | some v =>
      by_cases hv : Representable t v
      · simp [hv]
      · simp [hv, ho]

/-- **Integer options.**  On every string and at every integer type, whatever `std::stod` does, the
parser returns the number that the string denotes, and returns `false` where it denotes none or one
that the type does not have, if and only if the string is one of `Exact`.  A size in kB, MB or GB
denotes no number here. -/
theorem exact_iff (sized : Nat → List Char → Option Nat) (t : OptionType) (value : List Char) :
    parseOptionValue sized t value = expected t value ↔ Exact t value := by
  cases t with
  | uint8 =>
      rw [parseOptionValue, parseUInt8, parseUnsigned_eq]
      exact converted_eq_expected (t := .uint8) fun v hv => toUnsigned_eq hv
  | uint16 =>
      rw [parseOptionValue, parseUInt16, parseUnsigned_eq]
      exact converted_eq_expected (t := .uint16) fun v hv => toUnsigned_eq hv
  | int32 =>
      rcases eq_or_ne value ['-'] with rfl | hne
      · refine ⟨fun h => ?_, fun h => absurd rfl h.1⟩
        have h : Outcome.parsed 0 = .refused := h
        cases h
      · rw [parseOptionValue, parseInt32_eq hne, converted_eq_expected fun v hv => toInt32_eq hv]
        exact (and_iff_right hne).symm
  | uint32 =>
      rcases eq_or_ne value [] with rfl | hne
      · exact ⟨fun _ => .inl rfl, fun _ => rfl⟩
      · rw [parseOptionValue, eq_expected_iff (parseUInt32_ne_refused sized hne), Exact,
          or_iff_right hne]
        refine exists_congr fun v => and_congr_right fun hv => and_congr_right fun hr => ?_
        exact parseUInt32_eq_parsed sized hv hr

/-- Strings that are wrong: 256 is read as 0, and so is a minus alone; a negative number is read
as a large one, and what follows a number is left out; a hexadecimal number with the binary mark among
its digits throws, and of 33 binary digits the last is lost. -/
theorem not_exact :
    (parseUInt8 ['2', '5', '6'] = .parsed 0 ∧ expected .uint8 ['2', '5', '6'] = .refused) ∧
    (parseInt32 ['-'] = .parsed 0 ∧ expected .int32 ['-'] = .refused) ∧
    (parseUInt32 (fun _ _ => none) ['-', '1'] = .parsed (2 ^ 32 - 1) ∧
      expected .uint32 ['-', '1'] = .refused) ∧
    (parseUInt32 (fun _ _ => none) ['1', '2', 'a'] = .parsed 12 ∧
      expected .uint32 ['1', '2', 'a'] = .refused) ∧
    (parseUInt32 (fun _ _ => none) ['0', 'x', '0', 'b'] = .throws ∧
      expected .uint32 ['0', 'x', '0', 'b'] = .parsed 11) ∧
    (parseUInt32 (fun _ _ => none) ('0' :: 'b' :: List.replicate 32 '0' ++ ['1']) = .parsed 0 ∧
      expected .uint32 ('0' :: 'b' :: List.replicate 32 '0' ++ ['1']) = .parsed 1) := by
  decide

end RemixBridge.Config
