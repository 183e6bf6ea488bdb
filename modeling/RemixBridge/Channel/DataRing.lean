import RemixBridge.Support.Ring

/-!
# Channel — DataRing

Positions on the data ring: `CircularQueue` and `CircularBuffer` (`util_circularqueue.h`,
`util_circularbuffer.h`) as far as they say which words a push takes and where it leaves `m_pos`.
A sized object goes behind its size word in one piece: if it does not fit before the end, or would
just fill it, it starts at word 0.

A position of a run is also counted absolutely, without going back to 0: `m_pos` is the remainder
of the absolute position (`pushPos_mod`), the gap before a rolled-over object included.
-/

namespace RemixBridge

/-- `m_size`, in a 32-bit address space of `uint32_t` words. -/
structure RingSize where
  size : Nat
  pos : 0 < size
  lt_word : 4 * size < 2 ^ 32

namespace DataRing

/-- `chunk_size`: the words that `size` bytes take. -/
def chunkSize (size : Nat) : Nat := (size + 3) / 4

/-- What the reader takes with one pull: a word, or an object behind its size word. -/
inductive Pull where
  | word
  | obj (size : Nat)
  deriving DecidableEq, Repr

/-- What the writer gives with one call: `send_data` of a scalar, `send_many`, `send_data` of a
null pointer, and `send_data` of an object or `begin_data_blob`. -/
inductive Item where
  | scalar
  | many (count : Nat)
  | null
  | blob (size : Nat)
  deriving DecidableEq, Repr

/-- The pulls that take an item off the ring. -/
def Item.pulls : Item → List Pull
  | .scalar     => [.word]
  | .many count => List.replicate count .word
  | .null       => [.obj 0]
  | .blob size  => [.obj size]

variable (m_size : Nat)

/-- `pop`: the position after one word. -/
def pop (m_pos : Nat) : Nat := Ring.next m_size m_pos

/-- `ensure_space`, past its fatal check. -/
def ensureSpace (m_pos size : Nat) : Nat :=
  if m_pos + chunkSize size ≥ m_size then 0 else m_pos

/-- The reader's position after a pull: `pull`, `pull(void**)` and `pull_and_copy`. -/
def pullPos (m_pos : Nat) : Pull → Nat
  | .word     => pop m_size m_pos
  | .obj size => ensureSpace m_size (pop m_size m_pos) size + chunkSize size

/-- The positions that `count` calls of `pushImpl` write. -/
def pushImplWords : Nat → Nat → List Nat
  | _, 0             => []
  | m_pos, count + 1 => m_pos :: pushImplWords (pop m_size m_pos) count

/-- The words an item is written to. -/
def Item.words (m_pos : Nat) : Item → List Nat
  | .scalar     => [m_pos]
  | .many count =>
      if m_size - m_pos > count then (List.range count).map (m_pos + ·)
      else pushImplWords m_size m_pos count
  | .null       => [m_pos]
  | .blob size  =>
      m_pos :: (List.range (chunkSize size)).map (ensureSpace m_size (pop m_size m_pos) size + ·)

/-- The writer's position after an item. -/
def Item.pushPos (m_pos : Nat) : Item → Nat
  | .scalar     => pop m_size m_pos
  | .many count =>
      if m_size - m_pos > count then m_pos + count else (pop m_size)^[count] m_pos
  | .null       => pop m_size m_pos
  | .blob size  => ensureSpace m_size (pop m_size m_pos) size + chunkSize size

/-! ### Absolute positions -/

/-- The absolute start of an object whose size word is just below `a`. -/
def objStart (a size : Nat) : Nat :=
  if a % m_size + chunkSize size ≥ m_size then m_size * (a / m_size + 1) else a

/-- The absolute position after a pull. -/
def pullAbs (a : Nat) : Pull → Nat
  | .word     => a + 1
  | .obj size => objStart m_size (a + 1) size + chunkSize size

/-- The absolute position after several pulls. -/
def pullsAbs (a : Nat) (ps : List Pull) : Nat := ps.foldl (pullAbs m_size) a

/-- The absolute positions of an item's words. -/
def Item.absWords (a : Nat) : Item → List Nat
  | .scalar     => [a]
  | .many count => (List.range count).map (a + ·)
  | .null       => [a]
  | .blob size  => a :: (List.range (chunkSize size)).map (objStart m_size (a + 1) size + ·)

def Item.pushAbs (a : Nat) (it : Item) : Nat := pullsAbs m_size a it.pulls

variable {m_size}

theorem le_objStart (hn : 0 < m_size) (a size : Nat) : a ≤ objStart m_size a size := by
  unfold objStart
  split
  · exact (Nat.lt_mul_div_succ a hn).le
  · exact Nat.le_refl a

theorem lt_pullAbs (hn : 0 < m_size) (a : Nat) (p : Pull) : a < pullAbs m_size a p := by
  cases p with
  | word => exact Nat.lt_succ_self a
  | obj size => exact Nat.lt_of_lt_of_le (le_objStart hn (a + 1) size) (Nat.le_add_right _ _)

theorem le_pullsAbs (hn : 0 < m_size) (a : Nat) (ps : List Pull) : a ≤ pullsAbs m_size a ps := by
  induction ps generalizing a with
  | nil => exact Nat.le_refl a
  | cons p ps ih => exact (lt_pullAbs hn a p).le.trans (ih _)

theorem pullsAbs_append (a : Nat) (ps qs : List Pull) :
    pullsAbs m_size a (ps ++ qs) = pullsAbs m_size (pullsAbs m_size a ps) qs :=
  List.foldl_append ..

theorem pullsAbs_replicate_word (a count : Nat) :
    pullsAbs m_size a (List.replicate count .word) = a + count := by
  induction count generalizing a with
  | zero => rfl
  | succ count ih =>
      rw [List.replicate_succ, pullsAbs, List.foldl_cons, ← pullsAbs, ih, pullAbs]
      omega

/-! ### The position is the remainder of the absolute position -/

theorem pop_mod (hn : 0 < m_size) (a : Nat) : pop m_size (a % m_size) = (a + 1) % m_size :=
  Ring.next_mod hn a

/-- Within an object shorter than the ring, `ensure_space` and the absolute start agree. -/
theorem ensureSpace_add (a : Nat) {size i : Nat} (hi : i ≤ chunkSize size)
    (hs : chunkSize size < m_size) :
    ensureSpace m_size (a % m_size) size + i = (objStart m_size a size + i) % m_size := by
  unfold ensureSpace objStart
  split
  · rw [Nat.mul_add_mod, Nat.mod_eq_of_lt (Nat.lt_of_le_of_lt hi hs), Nat.zero_add]
  · exact (Ring.add_mod_of_lt (by omega)).symm

theorem iterate_pop_mod (hn : 0 < m_size) (a count : Nat) :
    (pop m_size)^[count] (a % m_size) = (a + count) % m_size := by
  induction count generalizing a with
  | zero => rfl
  | succ count ih => rw [Function.iterate_succ_apply, pop_mod hn, ih, Nat.add_right_comm]; rfl

theorem pushImplWords_mod (hn : 0 < m_size) (a count : Nat) :
    pushImplWords m_size (a % m_size) count =
      (List.range count).map fun i => (a + i) % m_size := by
  induction count generalizing a with
  | zero => rfl
  | succ count ih =>
      rw [pushImplWords, pop_mod hn, ih, List.range_succ_eq_map, List.map_cons, List.map_map]
      refine congrArg _ (List.map_congr_left fun i _ => ?_)
      rw [Function.comp_apply, Nat.add_right_comm, Nat.add_assoc]

/-- `m_pos` is the remainder of the absolute position: the reader. -/
theorem pullPos_mod (hn : 0 < m_size) (a : Nat) {p : Pull}
    (hp : ∀ size, p = .obj size → chunkSize size < m_size) :
    pullPos m_size (a % m_size) p = pullAbs m_size a p % m_size := by
  cases p with
  | word => exact pop_mod hn a
  | obj size =>
      rw [pullPos, pop_mod hn, ensureSpace_add _ (Nat.le_refl _) (hp size rfl)]
      rfl

/-- A direct `push_many` stays on its lap. -/
theorem direct_mod (a : Nat) {count i : Nat} (hc : m_size - a % m_size > count)
    (hi : i ≤ count) : a % m_size + i = (a + i) % m_size :=
  (Ring.add_mod_of_lt (by omega)).symm

/-- `m_pos` is the remainder of the absolute position: the writer. -/
theorem Item.pushPos_mod (hn : 0 < m_size) (a : Nat) (it : Item)
    (hp : ∀ size, it = .blob size → chunkSize size < m_size) :
    it.pushPos m_size (a % m_size) = it.pushAbs m_size a % m_size := by
  cases it with
  | scalar => exact pop_mod hn a
  | many count =>
      rw [Item.pushPos, Item.pushAbs, Item.pulls, pullsAbs_replicate_word]
      split
      · exact direct_mod a ‹_› (Nat.le_refl _)
      · exact iterate_pop_mod hn a count
  | null =>
      have hstart : objStart m_size (a + 1) 0 = a + 1 :=
        if_neg (Nat.not_le_of_lt (Nat.mod_lt (a + 1) hn))
      show pop m_size (a % m_size) = (objStart m_size (a + 1) 0 + 0) % m_size
      rw [pop_mod hn, hstart]
  | blob size =>
      rw [Item.pushPos, pop_mod hn, ensureSpace_add _ (Nat.le_refl _) (hp size rfl)]
      rfl

/-- The words an item is written to are the remainders of its absolute positions. -/
theorem Item.words_mod (hn : 0 < m_size) (a : Nat) (it : Item)
    (hp : ∀ size, it = .blob size → chunkSize size < m_size) :
    it.words m_size (a % m_size) = (it.absWords m_size a).map (· % m_size) := by
  cases it with
  | scalar => rfl
  | many count =>
      rw [Item.words, Item.absWords, List.map_map]
      split
      · refine List.map_congr_left fun i hi => ?_
        exact direct_mod a ‹_› (List.mem_range.mp hi).le
      · exact pushImplWords_mod hn a count
  | null => rfl
  | blob size =>
      rw [Item.words, Item.absWords, List.map_cons, List.map_map, pop_mod hn]
      refine congrArg _ (List.map_congr_left fun i hi => ?_)
      exact ensureSpace_add _ (List.mem_range.mp hi).le (hp size rfl)

/-- An item's words lie between the position before it and the position after. -/
theorem Item.absWords_bounds (hn : 0 < m_size) (a : Nat) (it : Item) {x : Nat}
    (hx : x ∈ it.absWords m_size a) : a ≤ x ∧ x < it.pushAbs m_size a := by
  have hlt : ∀ p, a < pullAbs m_size a p := lt_pullAbs hn a
  cases it with
  | scalar =>
      rw [List.mem_singleton.mp hx]
      exact ⟨Nat.le_refl a, hlt .word⟩
  | many count =>
      obtain ⟨i, hi, rfl⟩ := List.mem_map.mp hx
      rw [Item.pushAbs, Item.pulls, pullsAbs_replicate_word]
      have := List.mem_range.mp hi
      omega
  | null =>
      rw [List.mem_singleton.mp hx]
      exact ⟨Nat.le_refl a, hlt (.obj 0)⟩
  | blob size =>
      rcases List.mem_cons.mp hx with rfl | hx
      · exact ⟨Nat.le_refl x, hlt (.obj size)⟩
      · obtain ⟨i, hi, rfl⟩ := List.mem_map.mp hx
        have hstart : a + 1 ≤ objStart m_size (a + 1) size := le_objStart hn (a + 1) size
        have hi' : i < chunkSize size := List.mem_range.mp hi
        refine ⟨by omega, ?_⟩
        exact Nat.add_lt_add_left hi' _

/-- An item's words are written in the order of the positions. -/
theorem Item.absWords_pairwise (hn : 0 < m_size) (a : Nat) (it : Item) :
    (it.absWords m_size a).Pairwise (· < ·) := by
  have hrange : ∀ b count, ((List.range count).map (b + ·)).Pairwise (· < ·) := fun b count =>
    List.pairwise_lt_range.map _ fun _ _ => Nat.add_lt_add_left (k := b)
  cases it with
  | scalar => exact List.pairwise_singleton _ a
  | many count => exact hrange a count
  | null => exact List.pairwise_singleton _ a
  | blob size =>
      refine List.pairwise_cons.mpr ⟨fun x hx => ?_, hrange _ _⟩
      obtain ⟨i, -, rfl⟩ := List.mem_map.mp hx
      exact Nat.lt_add_right i (le_objStart hn (a + 1) size)

end DataRing

end RemixBridge
