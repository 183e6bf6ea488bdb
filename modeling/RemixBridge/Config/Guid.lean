import RemixBridge.Support.Scanf
import Mathlib.Data.BitVec
import Mathlib.Tactic.FinCases

/-!
# Config — Guid

The GUID that the client passes to the server on its command line (`util_guid.h`): printed by
`toString`, read by `setGuid` with one `swscanf_s`, whose result is only compared with `EOF`.

* `setGuid_toString`: what is printed is read back.
* `setGuid_eq_true`: what is accepted.
-/

namespace RemixBridge.Guid
open Scanf

/-- A string of wide characters in front of its terminator. -/
structure WideString where
  chars : List Nat
  valid : ∀ c ∈ chars, 0 < c ∧ c < 2 ^ 16

structure GUID where
  Data1 : BitVec 32
  Data2 : BitVec 16
  Data3 : BitVec 16
  Data4 : Fin 8 → BitVec 8

def GUID_LENGTH : Nat := 36

def dash : Nat := 0x2d

/-- `L"%8x-%4hx-%4hx-%2hhx%2hhx-%2hhx%2hhx%2hhx%2hhx%2hhx%2hhx"`. -/
def format : List Directive :=
  [.hex 8 32, .literal dash, .hex 4 16, .literal dash, .hex 4 16, .literal dash, .hex 2 8,
    .hex 2 8, .literal dash, .hex 2 8, .hex 2 8, .hex 2 8, .hex 2 8, .hex 2 8, .hex 2 8]

namespace GUID

variable (g : GUID)

/-- The values of the fields, in the order of the format. -/
def values : List Nat :=
  [g.Data1.toNat, g.Data2.toNat, g.Data3.toNat, (g.Data4 0).toNat, (g.Data4 1).toNat,
    (g.Data4 2).toNat, (g.Data4 3).toNat, (g.Data4 4).toNat, (g.Data4 5).toNat,
    (g.Data4 6).toNat, (g.Data4 7).toNat]

def ofValues (vs : List Nat) : GUID where
  Data1 := .ofNat 32 (vs.getD 0 0)
  Data2 := .ofNat 16 (vs.getD 1 0)
  Data3 := .ofNat 16 (vs.getD 2 0)
  Data4 i := .ofNat 8 (vs.getD (3 + i) 0)

/-- The fields that a conversion has stored to; the others are as they were. -/
def store (vs : List Nat) : GUID := ofValues (vs ++ g.values.drop vs.length)

/-- `"%08x-%04x-%04x-%02x%02x-%02x%02x%02x%02x%02x%02x"`. -/
def chars : List Nat :=
  hexString 8 g.Data1.toNat ++ (dash :: (hexString 4 g.Data2.toNat ++ (dash ::
    (hexString 4 g.Data3.toNat ++ (dash :: (hexString 2 (g.Data4 0).toNat ++
    (hexString 2 (g.Data4 1).toNat ++ (dash :: (hexString 2 (g.Data4 2).toNat ++
    (hexString 2 (g.Data4 3).toNat ++ (hexString 2 (g.Data4 4).toNat ++
    (hexString 2 (g.Data4 5).toNat ++ (hexString 2 (g.Data4 6).toNat ++
    hexString 2 (g.Data4 7).toNat)))))))))))))

end GUID

/-! ### Printing -/

theorem xdigit_bounds {c : Nat} (h : isxdigit c = true) : 0 < c ∧ c < 2 ^ 16 := by
  have hdigit : digit c < 16 := of_decide_eq_true h
  by_contra hout
  rw [digit, if_neg (by omega), if_neg (by omega), if_neg (by omega)] at hdigit
  exact absurd hdigit (by decide)

/-- A string of digits and dashes. -/
def Plain (cs : List Nat) : Prop := ∀ c ∈ cs, isxdigit c = true ∨ c = dash

theorem plain_hexString (width n : Nat) : Plain (hexString width n) :=
  fun _ hc => .inl (isxdigit_hexString hc)

theorem Plain.append {cs cs' : List Nat} (h : Plain cs) (h' : Plain cs') : Plain (cs ++ cs') :=
  List.forall_mem_append.mpr ⟨h, h'⟩

theorem Plain.dash {cs : List Nat} (h : Plain cs) : Plain (Guid.dash :: cs) :=
  List.forall_mem_cons.mpr ⟨.inr rfl, h⟩

theorem plain_chars (g : GUID) : Plain g.chars :=
  (plain_hexString _ _).append <| .dash <| (plain_hexString _ _).append <| .dash <|
    (plain_hexString _ _).append <| .dash <| (plain_hexString _ _).append <|
    (plain_hexString _ _).append <| .dash <| (plain_hexString _ _).append <|
    (plain_hexString _ _).append <| (plain_hexString _ _).append <|
    (plain_hexString _ _).append <| (plain_hexString _ _).append <| plain_hexString _ _

/-- What the server's command line has of it. -/
def GUID.toString (g : GUID) : WideString where
  chars := g.chars
  valid c hc := by
    rcases plain_chars g c hc with hdigit | rfl
    · exact xdigit_bounds hdigit
    · decide

theorem length_chars (g : GUID) : g.chars.length = GUID_LENGTH := by
  simp only [GUID.chars, List.length_append, List.length_cons, length_hexString, GUID_LENGTH]

/-! ### Reading -/

/-- The GUID behind `setGuid`, and its result. -/
def setGuid (l : Scanf.Locale) (g : GUID) (szGuid : WideString) : Bool × GUID :=
  if szGuid.chars.length ≠ GUID_LENGTH then (false, g)
  else (swscanf l format szGuid.chars ≠ none, g.store (scan l format szGuid.chars).1)

/-- The form of 36 characters: a digit at every position but four, and a dash at those. -/
def GuidForm (cs : List Nat) : Prop :=
  cs.length = GUID_LENGTH ∧
    ∀ p ∈ cs.zipIdx, if p.2 ∈ [8, 13, 18, 23] then p.1 = dash else isxdigit p.1 = true

instance (cs : List Nat) : Decidable (GuidForm cs) := inferInstanceAs (Decidable (_ ∧ _))

theorem scan_chars (l : Scanf.Locale) (g : GUID) : scan l format g.chars = (g.values, false) := by
  have h32 (v : BitVec 32) : v.toNat < 16 ^ 8 := v.isLt
  have h16 (v : BitVec 16) : v.toNat < 16 ^ 4 := v.isLt
  have h8 (v : BitVec 8) : v.toNat < 16 ^ 2 := v.isLt
  have hlast : scan l [.hex 2 8] (hexString 2 (g.Data4 7).toNat) = ([(g.Data4 7).toNat], false) := by
    have hnil := scan_hexString l (by decide) (h8 (g.Data4 7)) (g.Data4 7).isLt [] []
    rwa [List.append_nil] at hnil
  rw [format, GUID.chars, scan_hexString l (by decide) (h32 g.Data1) g.Data1.isLt, scan_literal,
    scan_hexString l (by decide) (h16 g.Data2) g.Data2.isLt, scan_literal,
    scan_hexString l (by decide) (h16 g.Data3) g.Data3.isLt, scan_literal,
    scan_hexString l (by decide) (h8 (g.Data4 0)) (g.Data4 0).isLt,
    scan_hexString l (by decide) (h8 (g.Data4 1)) (g.Data4 1).isLt, scan_literal,
    scan_hexString l (by decide) (h8 (g.Data4 2)) (g.Data4 2).isLt,
    scan_hexString l (by decide) (h8 (g.Data4 3)) (g.Data4 3).isLt,
    scan_hexString l (by decide) (h8 (g.Data4 4)) (g.Data4 4).isLt,
    scan_hexString l (by decide) (h8 (g.Data4 5)) (g.Data4 5).isLt,
    scan_hexString l (by decide) (h8 (g.Data4 6)) (g.Data4 6).isLt, hlast]
  rfl

theorem ofValues_values (g : GUID) : GUID.ofValues g.values = g := by
  obtain ⟨d1, d2, d3, d4⟩ := g
  simp only [GUID.ofValues, GUID.values, List.getD_cons_zero, List.getD_cons_succ,
    BitVec.ofNat_toNat, BitVec.setWidth_eq, GUID.mk.injEq, true_and]
  funext i
  fin_cases i <;> simp

theorem store_values (g g' : GUID) : g'.store g.values = g := by
  have hall : g.values ++ g'.values.drop g.values.length = g.values := by
    exact List.append_nil g.values
  rw [GUID.store, hall, ofValues_values]

/-- **The round trip.** -/
theorem setGuid_toString (l : Scanf.Locale) (g g' : GUID) : setGuid l g' g.toString = (true, g) := by
  have hlen : g.toString.chars.length = GUID_LENGTH := length_chars g
  have hscan : scan l format g.toString.chars = (g.values, false) := scan_chars l g
  rw [setGuid, if_neg (not_not.mpr hlen), swscanf, hscan]
  simp [store_values]

/-- **What is accepted**: 36 characters that are not all white space. -/
theorem setGuid_eq_true (l : Scanf.Locale) (g : GUID) (szGuid : WideString) :
    (setGuid l g szGuid).1 = true ↔
      szGuid.chars.length = GUID_LENGTH ∧ ¬ ∀ c ∈ szGuid.chars, l.iswspace c = true := by
  unfold setGuid
  split
  · next hlen => exact ⟨nofun, fun h => absurd h.1 hlen⟩
  · next hlen =>
      rw [not_not] at hlen
      rw [decide_eq_true_eq, ne_eq, format, swscanf_eq_none]
      exact ⟨fun h => ⟨hlen, h⟩, And.right⟩

theorem GuidForm.not_space (l : Scanf.Locale) {cs : List Nat} (h : GuidForm cs) :
    ¬ ∀ c ∈ cs, l.iswspace c = true := by
  intro hspace
  cases cs with
  | nil => exact absurd h.1 (by decide)
  | cons c cs =>
      have hdigit : isxdigit c = true := h.2 (c, 0) (by simp)
      have hnot := l.xdigit c hdigit
      rw [hspace c List.mem_cons_self] at hnot
      cases hnot

/-- **The codec.**  `setGuid` restores every GUID from what `toString` prints of it; and it accepts
a string just if it has the form of a GUID for the strings of another length, those of that form,
and white space. -/
theorem guid_codec (l : Scanf.Locale) (g g' : GUID) (szGuid : WideString) :
    setGuid l g' g.toString = (true, g) ∧
      (((setGuid l g' szGuid).1 = true ↔ GuidForm szGuid.chars) ↔
        szGuid.chars.length ≠ GUID_LENGTH ∨ GuidForm szGuid.chars ∨
          ∀ c ∈ szGuid.chars, l.iswspace c = true) := by
  refine ⟨setGuid_toString l g g', ?_⟩
  rw [setGuid_eq_true]
  constructor
  · intro hiff
    by_cases hlen : szGuid.chars.length = GUID_LENGTH
    · by_cases hspace : ∀ c ∈ szGuid.chars, l.iswspace c = true
      · exact .inr (.inr hspace)
      · exact .inr (.inl (hiff.mp ⟨hlen, hspace⟩))
    · exact .inl hlen
  · rintro (hlen | hform | hspace)
    · exact ⟨fun h => absurd h.1 hlen, fun h => absurd h.1 hlen⟩
    · exact ⟨fun _ => hform, fun _ => ⟨hform.1, hform.not_space l⟩⟩
    · exact ⟨fun h => absurd hspace h.2, fun h => absurd hspace (h.not_space l)⟩

/-- 36 times the same letter, which is no digit. -/
def letters : WideString where
  chars := List.replicate 36 0x7a
  valid := by decide

theorem letters_accepted :
    ¬ ∀ (g : GUID) (szGuid : WideString),
      (setGuid .c g szGuid).1 = true ↔ GuidForm szGuid.chars := by
  intro hall
  have hform := (hall ⟨0, 0, 0, fun _ => 0⟩ letters).mp (by decide)
  exact absurd hform (by decide)

end RemixBridge.Guid
