import RemixBridge.Channel.DataRing
import RemixBridge.Support.Runs

/-!
# Channel — RingBounds

Which words of the ring an operation touches and where it leaves `m_pos`, for every sequence of
operations that `ensure_space` admits.  Its fatal check lets an object through that takes the whole
ring, and such an object leaves `m_pos` one past the last word.

* `in_bounds_iff`: what one operation does to the bound.
* `ring_in_bounds`: every sequence stays below `m_size` exactly when no object of it takes the whole
  ring and no `pull_and_copy` reads past the end.
-/

namespace RemixBridge
namespace DataRing
open Runs

/-- An operation on the ring, by the writer or by the reader.  `pull_and_copy` finds `size` on the
ring and copies `sizeof(V)` bytes from where the object starts. -/
inductive Op where
  | push (it : Item)
  | pull (p : Pull)
  | pull_and_copy (size sizeofV : Nat)
  deriving DecidableEq, Repr

/-- The size that the operation hands to `ensure_space`. -/
def Op.objSize : Op → Option Nat
  | .push (.blob size)       => some size
  | .push _                  => none
  | .pull (.obj size)        => some size
  | .pull .word              => none
  | .pull_and_copy size _    => some size

variable (m_size : Nat)

/-- The words a pull is read from. -/
def Pull.words (m_pos : Nat) : Pull → List Nat
  | .word     => [m_pos]
  | .obj size =>
      m_pos :: (List.range (chunkSize size)).map (ensureSpace m_size (pop m_size m_pos) size + ·)

/-- The words the operation reads or writes. -/
def Op.words (m_pos : Nat) : Op → List Nat
  | .push it => it.words m_size m_pos
  | .pull p  => p.words m_size m_pos
  | .pull_and_copy size sizeofV =>
      m_pos :: if chunkSize size = 0 then [] else
        (List.range (chunkSize sizeofV)).map (ensureSpace m_size (pop m_size m_pos) size + ·)

/-- `m_pos` after the operation. -/
def Op.pos (m_pos : Nat) : Op → Nat
  | .push it              => it.pushPos m_size m_pos
  | .pull p               => pullPos m_size m_pos p
  | .pull_and_copy size _ => pullPos m_size m_pos (.obj size)

/-- `ensure_space` does not end the process: `space_needed > m_size` is its fatal condition. -/
def Op.Admitted (op : Op) : Prop := ∀ size ∈ op.objSize, ¬ chunkSize size > m_size

instance (op : Op) : Decidable (op.Admitted m_size) :=
  match h : op.objSize with
  | none => isTrue fun size hs => by rw [h] at hs; cases hs
  | some size => decidable_of_iff (¬ chunkSize size > m_size)
      ⟨fun hs size' hs' => by rw [h] at hs'; cases hs'; exact hs, fun hs => hs size h⟩

/-- One operation, `none` when it ends the process. -/
def step (m_pos : Nat) (op : Op) : Option Nat :=
  if op.Admitted m_size then some (op.pos m_size m_pos) else none

/-- The operation stays on the ring: with each word, and with the position after it. -/
def InBounds (m_pos : Nat) (op : Op) : Prop :=
  ∀ m_pos', step m_size m_pos op = some m_pos' →
    m_pos' < m_size ∧ ∀ w ∈ op.words m_size m_pos, w < m_size

/-- `sizeof(V)` bytes end on the ring: from word 0, and from behind the size word where the object
lies there. -/
def CopyFits (m_pos size sizeofV : Nat) : Prop :=
  chunkSize sizeofV ≤ m_size ∧ (pop m_size m_pos + chunkSize size < m_size →
    pop m_size m_pos + chunkSize sizeofV ≤ m_size)

/-- The object does not take the whole ring, and `pull_and_copy` does not read past its end. -/
def Op.Fits (m_pos : Nat) (op : Op) : Prop :=
  op.Admitted m_size → 0 < m_size ∧ (∀ size ∈ op.objSize, chunkSize size ≠ m_size) ∧
    ∀ size sizeofV, op = .pull_and_copy size sizeofV → chunkSize size ≠ 0 →
      CopyFits m_size m_pos size sizeofV

variable {m_size}

/-! ### One operation -/

theorem ensureSpace_add_lt {m_pos size : Nat} :
    ensureSpace m_size m_pos size + chunkSize size < m_size ↔ chunkSize size < m_size := by
  unfold ensureSpace
  split <;> omega

theorem ensureSpace_add_le {m_pos size sizeofV : Nat} :
    ensureSpace m_size (pop m_size m_pos) size + chunkSize sizeofV ≤ m_size ↔
      CopyFits m_size m_pos size sizeofV := by
  unfold ensureSpace CopyFits
  split <;> omega

theorem ensureSpace_lt (hn : 0 < m_size) (m_pos size : Nat) :
    ensureSpace m_size m_pos size < m_size := by
  unfold ensureSpace
  split <;> omega

/-- A pull goes over the words of the push that it answers. -/
def Pull.item : Pull → Item
  | .word     => .scalar
  | .obj size => .blob size

theorem Pull.words_item (m_pos : Nat) (p : Pull) :
    p.words m_size m_pos = p.item.words m_size m_pos := by
  cases p <;> rfl

theorem Pull.pos_item (m_pos : Nat) (p : Pull) :
    pullPos m_size m_pos p = p.item.pushPos m_size m_pos := by
  cases p <;> rfl

/-- An item stays on the ring exactly when it is no object that takes all of it. -/
theorem Item.in_bounds_iff {m_pos : Nat} (hp : m_pos < m_size) (it : Item) :
    (it.pushPos m_size m_pos < m_size ∧ ∀ w ∈ it.words m_size m_pos, w < m_size) ↔
      ∀ size, it = .blob size → chunkSize size < m_size := by
  have hn : 0 < m_size := Nat.zero_lt_of_lt hp
  have hmod : m_pos % m_size = m_pos := Nat.mod_eq_of_lt hp
  constructor
  · rintro ⟨hpos, -⟩ size rfl
    exact ensureSpace_add_lt.mp hpos
  · intro hsize
    have hpos := it.pushPos_mod hn m_pos hsize
    have hwords := it.words_mod hn m_pos hsize
    rw [hmod] at hpos hwords
    refine ⟨hpos ▸ Nat.mod_lt _ hn, fun w hw => ?_⟩
    rw [hwords] at hw
    obtain ⟨x, -, rfl⟩ := List.mem_map.mp hw
    exact Nat.mod_lt x hn

/-- What `pull_and_copy` reads lies on the ring exactly when the copied object does. -/
theorem copy_words_lt {m_pos size sizeofV : Nat} (hp : m_pos < m_size) :
    (∀ w ∈ (Op.pull_and_copy size sizeofV).words m_size m_pos, w < m_size) ↔
      (chunkSize size ≠ 0 → CopyFits m_size m_pos size sizeofV) := by
  have hn : 0 < m_size := Nat.zero_lt_of_lt hp
  have hstart := ensureSpace_lt hn (pop m_size m_pos) size
  rw [Op.words, List.forall_mem_cons, and_iff_right hp]
  split
  · rename_i h0
    exact ⟨fun _ hne => absurd h0 hne, fun _ => nofun⟩
  · rename_i h0
    rw [List.forall_mem_map, forall_prop_of_true h0, ← ensureSpace_add_le]
    constructor
    · intro h
      by_contra hlt
      -- the first word past the end is one of those copied
      have hi := h (m_size - ensureSpace m_size (pop m_size m_pos) size)
        (List.mem_range.mpr (by omega))
      omega
    · intro h i hi
      have hi' : i < chunkSize sizeofV := List.mem_range.mp hi
      omega

/-- **One operation.**  From a word of the ring, an operation stays on the ring exactly when it
fits. -/
theorem in_bounds_iff {m_pos : Nat} (hp : m_pos < m_size) (op : Op) :
    InBounds m_size m_pos op ↔ op.Fits m_size m_pos := by
  have hn : 0 < m_size := Nat.zero_lt_of_lt hp
  have hstep : InBounds m_size m_pos op ↔ (op.Admitted m_size →
      op.pos m_size m_pos < m_size ∧ ∀ w ∈ op.words m_size m_pos, w < m_size) := by
    constructor
    · intro h hadm
      exact h _ (if_pos hadm)
    · intro h m_pos' hs
      obtain ⟨hadm, hpos⟩ := Option.ite_none_right_eq_some.mp hs
      cases hpos
      exact h hadm
  rw [hstep, Op.Fits]
  refine forall_congr' fun hadm => ?_
  rw [and_iff_right hn]
  have hlt : ∀ size ∈ op.objSize, (chunkSize size < m_size ↔ chunkSize size ≠ m_size) :=
    fun size hs => ⟨Nat.ne_of_lt, Nat.lt_of_le_of_ne (Nat.not_lt.mp (hadm size hs))⟩
  cases op with
  | push it =>
      rw [Op.pos, Op.words, it.in_bounds_iff hp, and_iff_left nofun]
      cases it with
      | blob size =>
          simpa only [Op.objSize, Option.mem_some_iff, forall_eq', Item.blob.injEq] using
            hlt size rfl
      | scalar => exact ⟨fun _ => nofun, fun _ => nofun⟩
      | many count => exact ⟨fun _ => nofun, fun _ => nofun⟩
      | null => exact ⟨fun _ => nofun, fun _ => nofun⟩
  | pull p =>
      rw [Op.pos, Op.words, p.pos_item, p.words_item, Item.in_bounds_iff hp, and_iff_left nofun]
      cases p with
      | word => exact ⟨fun _ => nofun, fun _ => nofun⟩
      | obj size =>
          simpa only [Op.objSize, Option.mem_some_iff, forall_eq', Pull.item,
            Item.blob.injEq] using hlt size rfl
  | pull_and_copy size sizeofV =>
      rw [copy_words_lt hp]
      refine and_congr ?_ ?_
      · rw [Op.pos, pullPos, ensureSpace_add_lt, hlt size rfl]
        simp only [Op.objSize, Option.mem_some_iff, forall_eq']
      · constructor
        · rintro h _ _ ⟨⟩
          exact h
        · intro h
          exact h size sizeofV rfl

/-! ### Every sequence -/

/-- **Ring bounds.**  A sequence of operations on a new ring stays on it, in every word touched and
every position reached, exactly when each of its operations fits. -/
theorem ring_in_bounds (m_size : Nat) (ops : List Op) :
    Along (step m_size) (InBounds m_size) 0 ops ↔
      Along (step m_size) (fun m_pos op => op.Fits m_size m_pos) 0 ops := by
  refine along_iff (I := fun m_pos => m_pos < m_size ∨ m_size = 0) ?_ ?_
    (Nat.eq_zero_or_pos m_size).symm ops
  · rintro m_pos op (hp | rfl)
    · exact in_bounds_iff hp op
    · -- a ring of no words has no position to be at
      constructor
      · intro h hadm
        exact absurd (h _ (if_pos hadm)).1 (Nat.not_lt_zero _)
      · intro h m_pos' hs
        exact absurd (h (Option.ite_none_right_eq_some.mp hs).1).1 (Nat.lt_irrefl 0)
  · rintro m_pos op m_pos' (hp | rfl) hfits hs
    · exact Or.inl ((in_bounds_iff hp op).mpr hfits m_pos' hs).1
    · exact Or.inr rfl

/-- On a ring of four words an object of 16 bytes is admitted and leaves `m_pos` past the end, where
the next word is written. -/
theorem whole_ring_out_of_bounds :
    step 4 0 (.push (.blob 16)) = some 4 ∧ (Op.push .scalar).words 4 4 = [4] ∧
      ¬ Along (step 4) (InBounds 4) 0 [.push (.blob 16)] := by
  refine ⟨rfl, rfl, fun h => ?_⟩
  exact absurd (h.1 4 rfl).1 (Nat.lt_irrefl 4)

end DataRing

end RemixBridge
