import RemixBridge.Channel.DataRing
import RemixBridge.Wire.Commands
import Mathlib.Algebra.Order.BigOperators.Group.List
import Mathlib.Algebra.Order.Monoid.Canonical.Defs
import Mathlib.Algebra.Order.Group.Nat

/-!
# Channel — DataQueue

The data ring with its contents (`DataQueue`, a `CircularBuffer<uint32_t>`): what the pushes of a
command leave in the memory, and what a sequence of pulls takes from it.

* `holds_storeAll`: what is pushed within a lap is there, in order, to be pulled.
* `Reads`: a program of pulls takes given data and returns a given value, wherever they lie; its
  rules follow the program.
-/

namespace RemixBridge.DataRing

abbrev Byte := BitVec 8

/-- `m_data`, byte by byte: word `i` is the bytes `4 * i` to `4 * i + 3`. -/
abbrev Memory := Nat → Byte

/-- `m_data[pos]`, the first byte the lowest. -/
def Memory.word (mem : Memory) (pos : Nat) : Word :=
  BitVec.ofNat 32 ((mem (4 * pos)).toNat + 2 ^ 8 * (mem (4 * pos + 1)).toNat +
    2 ^ 16 * (mem (4 * pos + 2)).toNat + 2 ^ 24 * (mem (4 * pos + 3)).toNat)

/-- `m_data[pos] = w`. -/
def Memory.setWord (mem : Memory) (pos : Nat) (w : Word) : Memory := fun i =>
  if i / 4 = pos then BitVec.ofNat 8 (w.toNat / 2 ^ (8 * (i % 4))) else mem i

/-- `memcpy(m_data + pos, bytes, size)`. -/
def Memory.copy (mem : Memory) (pos : Nat) (bytes : List Byte) : Memory := fun i =>
  if 4 * pos ≤ i then bytes[i - 4 * pos]?.getD (mem i) else mem i

theorem Memory.word_setWord (mem : Memory) (pos : Nat) (w : Word) :
    (mem.setWord pos w).word pos = w := by
  have h₀ : 4 * pos / 4 = pos ∧ 4 * pos % 4 = 0 := by omega
  have h₁ : (4 * pos + 1) / 4 = pos ∧ (4 * pos + 1) % 4 = 1 := by omega
  have h₂ : (4 * pos + 2) / 4 = pos ∧ (4 * pos + 2) % 4 = 2 := by omega
  have h₃ : (4 * pos + 3) / 4 = pos ∧ (4 * pos + 3) % 4 = 3 := by omega
  have hw : w.toNat < 2 ^ 32 := w.isLt
  apply BitVec.eq_of_toNat_eq
  simp only [Memory.word, Memory.setWord, h₀, h₁, h₂, h₃, if_true, BitVec.toNat_ofNat]
  omega

theorem Memory.setWord_of_ne {mem : Memory} {pos i : Nat} {w : Word} (h : i / 4 ≠ pos) :
    mem.setWord pos w i = mem i :=
  if_neg h

theorem Memory.word_congr {mem mem' : Memory} {pos : Nat}
    (h : ∀ i, i / 4 = pos → mem' i = mem i) : mem'.word pos = mem.word pos := by
  unfold Memory.word
  rw [h (4 * pos) (by omega), h (4 * pos + 1) (by omega), h (4 * pos + 2) (by omega),
    h (4 * pos + 3) (by omega)]

theorem Memory.copy_at (mem : Memory) {pos i : Nat} {bytes : List Byte} (hi : i < bytes.length) :
    mem.copy pos bytes (4 * pos + i) = bytes[i] := by
  unfold Memory.copy
  rw [if_pos (Nat.le_add_right _ _), Nat.add_sub_cancel_left, List.getElem?_eq_getElem hi]
  rfl

theorem Memory.copy_of_not_mem {mem : Memory} {pos i : Nat} {bytes : List Byte}
    (h : 4 * pos ≤ i → 4 * pos + bytes.length ≤ i) : mem.copy pos bytes i = mem i := by
  unfold Memory.copy
  split
  · rw [List.getElem?_eq_none (by omega)]
    rfl
  · rfl

theorem Memory.setWord_word (mem : Memory) (pos : Nat) : mem.setWord pos (mem.word pos) = mem := by
  funext i
  by_cases hi : i / 4 = pos
  · have h₀ := (mem (4 * pos)).isLt
    have h₁ := (mem (4 * pos + 1)).isLt
    have h₂ := (mem (4 * pos + 2)).isLt
    have h₃ := (mem (4 * pos + 3)).isLt
    have hcase : i = 4 * pos ∨ i = 4 * pos + 1 ∨ i = 4 * pos + 2 ∨ i = 4 * pos + 3 := by omega
    apply BitVec.eq_of_toNat_eq
    rw [Memory.setWord, if_pos hi]
    rcases hcase with rfl | rfl | rfl | rfl
    · have hmod : 4 * pos % 4 = 0 := by omega
      simp only [Memory.word, BitVec.toNat_ofNat, hmod]
      omega
    · have hmod : (4 * pos + 1) % 4 = 1 := by omega
      simp only [Memory.word, BitVec.toNat_ofNat, hmod]
      omega
    · have hmod : (4 * pos + 2) % 4 = 2 := by omega
      simp only [Memory.word, BitVec.toNat_ofNat, hmod]
      omega
    · have hmod : (4 * pos + 3) % 4 = 3 := by omega
      simp only [Memory.word, BitVec.toNat_ofNat, hmod]
      omega
  · exact Memory.setWord_of_ne hi

theorem Memory.copy_same {mem : Memory} {pos : Nat} {bytes : List Byte}
    (h : ∀ i (hi : i < bytes.length), mem (4 * pos + i) = bytes[i]) : mem.copy pos bytes = mem := by
  funext i
  by_cases hi : 4 * pos ≤ i ∧ i - 4 * pos < bytes.length
  · obtain ⟨j, rfl⟩ := Nat.exists_eq_add_of_le hi.1
    rw [Nat.add_sub_cancel_left] at hi
    rw [Memory.copy_at mem hi.2, h j hi.2]
  · exact Memory.copy_of_not_mem fun hle => by omega

/-! ### Pushes -/

/-- What the writer gives with one call: `send_data` of a scalar, `send_many`, and `send_data` of
an object or `begin_data_blob` with what is written to the blob.  A null pointer is an object of
no bytes. -/
inductive Push where
  | word (w : Word)
  | many (ws : List Word)
  | obj (bytes : List Byte)
  deriving DecidableEq

def Push.item : Push → Item
  | .word _    => .scalar
  | .many ws   => .many ws.length
  | .obj bytes => .blob bytes.length

/-- What is pulled off the ring again: a word, or an object behind its size word. -/
inductive Datum where
  | word (w : Word)
  | obj (bytes : List Byte)
  deriving DecidableEq

def Datum.pull : Datum → Pull
  | .word _    => .word
  | .obj bytes => .obj bytes.length

def Push.data : Push → List Datum
  | .word w    => [.word w]
  | .many ws   => ws.map Datum.word
  | .obj bytes => [.obj bytes]

variable (m_size : Nat)

/-- `count` words stored one behind the other, each position found from the one before. -/
def storeWords (next : Nat → Nat) : Memory → Nat → List Word → Memory
  | mem, _, []          => mem
  | mem, m_pos, w :: ws => storeWords next (mem.setWord m_pos w) (next m_pos) ws

/-- The memory after a push. -/
def Push.store (mem : Memory) (m_pos : Nat) : Push → Memory
  | .word w    => mem.setWord m_pos w
  | .many ws   =>
      if m_size - m_pos > ws.length then storeWords (· + 1) mem m_pos ws
      else storeWords (pop m_size) mem m_pos ws
  | .obj bytes =>
      (mem.setWord m_pos (BitVec.ofNat 32 bytes.length)).copy
        (ensureSpace m_size (pop m_size m_pos) bytes.length) bytes

/-- The memory and the position after the pushes of a command. -/
def store : Memory → Nat → List Push → Memory × Nat
  | mem, m_pos, []      => (mem, m_pos)
  | mem, m_pos, p :: ps => store (p.store m_size mem m_pos) (p.item.pushPos m_size m_pos) ps

/-! ### What lies where -/

def Datum.At (mem : Memory) (m_pos : Nat) : Datum → Prop
  | .word w    => mem.word m_pos = w
  | .obj bytes => (mem.word m_pos).toNat = bytes.length ∧
      ∀ i (hi : i < bytes.length),
        mem (4 * ensureSpace m_size (pop m_size m_pos) bytes.length + i) = bytes[i]

/-- The data lie one behind the other from `m_pos` on, and end before `e`. -/
def Holds (mem : Memory) : Nat → List Datum → Nat → Prop
  | m_pos, [], e      => m_pos = e
  | m_pos, d :: ds, e => d.At m_size mem m_pos ∧ Holds mem (pullPos m_size m_pos d.pull) ds e

variable {m_size : Nat}

theorem store_append (mem : Memory) (m_pos : Nat) (ps qs : List Push) :
    store m_size mem m_pos (ps ++ qs) =
      store m_size (store m_size mem m_pos ps).1 (store m_size mem m_pos ps).2 qs := by
  induction ps generalizing mem m_pos with
  | nil => rfl
  | cons p ps ih => exact ih _ _

/-! ### A `send_many` is its words -/

def Datum.toPush : Datum → Push
  | .word w    => .word w
  | .obj bytes => .obj bytes

/-- A direct `push_many` finds the positions that `pushImpl` would. -/
theorem storeWords_direct (mem : Memory) {m_pos : Nat} {ws : List Word}
    (h : m_size - m_pos > ws.length) :
    storeWords (· + 1) mem m_pos ws = storeWords (pop m_size) mem m_pos ws := by
  induction ws generalizing mem m_pos with
  | nil => rfl
  | cons w ws ih =>
      rw [List.length_cons] at h
      have hpop : pop m_size m_pos = m_pos + 1 := if_pos (by omega)
      rw [storeWords, storeWords, hpop]
      exact ih _ (by omega)

theorem store_words (mem : Memory) (m_pos : Nat) (ws : List Word) :
    store m_size mem m_pos (ws.map Push.word) =
      (storeWords (pop m_size) mem m_pos ws, (pop m_size)^[ws.length] m_pos) := by
  induction ws generalizing mem m_pos with
  | nil => rfl
  | cons w ws ih => exact ih _ _

theorem store_many (mem : Memory) (m_pos : Nat) (ws : List Word)
    (hpos : (Push.many ws).item.pushPos m_size m_pos = (pop m_size)^[ws.length] m_pos) :
    store m_size mem m_pos [.many ws] = store m_size mem m_pos (ws.map Push.word) := by
  rw [store_words, store, store, hpos, Push.store]
  split
  · rw [storeWords_direct mem ‹_›]
  · rfl

/-- The pushes of a command leave what its data leave, one by one. -/
theorem store_data (hn : 0 < m_size) (mem : Memory) (a : Nat) (ps : List Push)
    (hfit : ∀ bytes, Push.obj bytes ∈ ps → chunkSize bytes.length < m_size) :
    store m_size mem (a % m_size) ps =
      store m_size mem (a % m_size) ((ps.flatMap Push.data).map Datum.toPush) := by
  induction ps generalizing mem a with
  | nil => rfl
  | cons p ps ih =>
      have hpos : p.item.pushPos m_size (a % m_size) = p.item.pushAbs m_size a % m_size := by
        refine Item.pushPos_mod hn a _ fun size hp => ?_
        cases p with
        | word w => cases hp
        | many ws => cases hp
        | obj bytes =>
            cases hp
            exact hfit bytes List.mem_cons_self
      have hone : store m_size mem (a % m_size) [p] =
          store m_size mem (a % m_size) (p.data.map Datum.toPush) := by
        cases p with
        | word w => rfl
        | obj bytes => rfl
        | many ws =>
            have hiter := iterate_pop_mod hn a ws.length
            rw [store_many _ _ _ (hpos.trans ?_), Push.data, List.map_map]
            · rfl
            · rw [hiter, Push.item, Item.pushAbs, Item.pulls, pullsAbs_replicate_word]
      rw [List.flatMap_cons, List.map_append, store_append, ← hone]
      show store m_size (p.store m_size mem (a % m_size)) (p.item.pushPos m_size (a % m_size)) ps =
        store m_size (p.store m_size mem (a % m_size)) (p.item.pushPos m_size (a % m_size)) _
      rw [hpos]
      exact ih _ _ fun bytes hb => hfit bytes (List.mem_cons_of_mem _ hb)

/-! ### What is pushed is there -/

theorem Datum.item_toPush_blob {d : Datum} {size : Nat} (h : d.toPush.item = .blob size) :
    d.pull = .obj size := by
  cases d with
  | word w => cases h
  | obj bytes =>
      cases h
      rfl

theorem Datum.pushAbs_toPush (d : Datum) (a : Nat) :
    d.toPush.item.pushAbs m_size a = pullAbs m_size a d.pull := by
  cases d <;> rfl

theorem Datum.store_of_not_mem {d : Datum} {mem : Memory} {m_pos i : Nat}
    (h : i / 4 ∉ d.toPush.item.words m_size m_pos) : d.toPush.store m_size mem m_pos i = mem i := by
  cases d with
  | word w => exact Memory.setWord_of_ne fun hi => h (List.mem_singleton.mpr hi)
  | obj bytes =>
      have hcopy : i / 4 ∉ (List.range (chunkSize bytes.length)).map
          (ensureSpace m_size (pop m_size m_pos) bytes.length + ·) :=
        fun hi => h (List.mem_cons_of_mem _ hi)
      refine (Memory.copy_of_not_mem fun hle => ?_).trans
        (Memory.setWord_of_ne fun hi => h (hi ▸ List.mem_cons_self))
      by_contra hlt
      refine hcopy (List.mem_map.mpr
        ⟨i / 4 - ensureSpace m_size (pop m_size m_pos) bytes.length, List.mem_range.mpr ?_, ?_⟩)
      · unfold chunkSize
        omega
      · omega

theorem Datum.at_congr {d : Datum} {mem mem' : Memory} {m_pos : Nat}
    (h : ∀ i, i / 4 ∈ d.toPush.item.words m_size m_pos → mem' i = mem i)
    (hd : d.At m_size mem m_pos) : d.At m_size mem' m_pos := by
  cases d with
  | word w =>
      exact (Memory.word_congr fun i hi => h i (List.mem_singleton.mpr hi)).trans hd
  | obj bytes =>
      have hsize := Memory.word_congr fun i hi => h i (hi ▸ List.mem_cons_self)
      refine ⟨(congrArg BitVec.toNat hsize).trans hd.1, fun i hi => (h _ ?_).trans (hd.2 i hi)⟩
      refine List.mem_cons_of_mem _ (List.mem_map.mpr ⟨i / 4, List.mem_range.mpr ?_, ?_⟩)
      · unfold chunkSize
        omega
      · omega

section Lap

variable (hn : 0 < m_size)
include hn

/-- The words of a datum stored at `a`, by their absolute positions. -/
theorem Datum.words_mod {d : Datum} (hfit : ∀ size, d.pull = .obj size → chunkSize size < m_size)
    (a : Nat) {i : Nat} (hi : i ∈ d.toPush.item.words m_size (a % m_size)) :
    ∃ x, i = x % m_size ∧ a ≤ x ∧ x < pullAbs m_size a d.pull := by
  rw [Item.words_mod hn a _ fun size hs => hfit size (item_toPush_blob hs)] at hi
  obtain ⟨x, hx, rfl⟩ := List.mem_map.mp hi
  have hb := Item.absWords_bounds hn a _ hx
  rw [pushAbs_toPush] at hb
  exact ⟨x, rfl, hb⟩

/-- A datum is where it was stored. -/
theorem Datum.at_store {d : Datum}
    (hfit : ∀ size, d.pull = .obj size → chunkSize size < m_size ∧ size < 2 ^ 32) (mem : Memory)
    {a : Nat} (hlap : pullAbs m_size a d.pull ≤ a + m_size) :
    d.At m_size (d.toPush.store m_size mem (a % m_size)) (a % m_size) := by
  cases d with
  | word w => exact Memory.word_setWord mem _ w
  | obj bytes =>
      obtain ⟨hobj, hlen⟩ := hfit bytes.length rfl
      refine ⟨?_, fun i hi => Memory.copy_at _ hi⟩
      have hsize : (BitVec.ofNat 32 bytes.length).toNat = bytes.length := by
        rw [BitVec.toNat_ofNat, Nat.mod_eq_of_lt hlen]
      rw [← hsize, ← Memory.word_setWord mem (a % m_size) (BitVec.ofNat 32 bytes.length)]
      refine congrArg _ (Memory.word_congr fun i hi => ?_)
      refine Memory.copy_of_not_mem fun hle => ?_
      by_contra hlt
      -- The size word is not among the object's: both lie on one lap.
      have hchunk : i / 4 - ensureSpace m_size (pop m_size (a % m_size)) bytes.length <
          chunkSize bytes.length := by
        unfold chunkSize
        omega
      have hs := ensureSpace_add (a + 1) hchunk.le hobj
      rw [← pop_mod hn a] at hs
      have hstart : a + 1 ≤ objStart m_size (a + 1) bytes.length := le_objStart hn _ _
      have hend : objStart m_size (a + 1) bytes.length + chunkSize bytes.length ≤ a + m_size := hlap
      have heq := (Ring.mod_eq_iff (n := m_size) (a := a)
        (b := objStart m_size (a + 1) bytes.length +
          (i / 4 - ensureSpace m_size (pop m_size (a % m_size)) bytes.length))
        (by omega) (by omega)).mp (by rw [← hs]; omega)
      omega

/-- What was stored on the lap before stays. -/
theorem store_frame {ds : List Datum}
    (hfit : ∀ size, Pull.obj size ∈ ds.map Datum.pull → chunkSize size < m_size) (mem : Memory)
    {a x i : Nat} (hx : x < a) (hlap : pullsAbs m_size a (ds.map Datum.pull) ≤ x + m_size)
    (hi : i / 4 = x % m_size) :
    (store m_size mem (a % m_size) (ds.map Datum.toPush)).1 i = mem i := by
  induction ds generalizing mem a with
  | nil => rfl
  | cons d ds ih =>
      have hd : ∀ size, d.pull = .obj size → chunkSize size < m_size :=
        fun size hs => hfit size (hs ▸ List.mem_cons_self)
      have hlt : a < pullAbs m_size a d.pull := lt_pullAbs hn a _
      have hle : pullAbs m_size a d.pull ≤ x + m_size := (le_pullsAbs hn _ _).trans hlap
      have hpos : d.toPush.item.pushPos m_size (a % m_size) = pullAbs m_size a d.pull % m_size := by
        rw [Item.pushPos_mod hn a _ fun size hs => hd size (Datum.item_toPush_blob hs),
          Datum.pushAbs_toPush]
      rw [List.map_cons, store, hpos, ih (fun size hs => hfit size (List.mem_cons_of_mem _ hs)) _
        (hx.trans hlt) hlap]
      refine Datum.store_of_not_mem fun hmem => ?_
      obtain ⟨y, hy, hay, hyb⟩ := Datum.words_mod hn hd a hmem
      have heq := (Ring.mod_eq_iff (n := m_size) (a := x) (b := y) (by omega) (by omega)).mp
        (hi.symm.trans hy)
      omega

theorem holds_store_data {ds : List Datum}
    (hfit : ∀ size, Pull.obj size ∈ ds.map Datum.pull → chunkSize size < m_size ∧ size < 2 ^ 32)
    (mem : Memory) {a : Nat} (hlap : pullsAbs m_size a (ds.map Datum.pull) ≤ a + m_size) :
    Holds m_size (store m_size mem (a % m_size) (ds.map Datum.toPush)).1 (a % m_size) ds
      (pullsAbs m_size a (ds.map Datum.pull) % m_size) := by
  induction ds generalizing mem a with
  | nil => rfl
  | cons d ds ih =>
      have hd := fun size (hs : d.pull = .obj size) => hfit size (hs ▸ List.mem_cons_self)
      have hds := fun size (hs : Pull.obj size ∈ ds.map Datum.pull) =>
        hfit size (List.mem_cons_of_mem _ hs)
      have hlt : a < pullAbs m_size a d.pull := lt_pullAbs hn a _
      have hle : pullAbs m_size a d.pull ≤ a + m_size := (le_pullsAbs hn _ _).trans hlap
      have hpos : d.toPush.item.pushPos m_size (a % m_size) = pullAbs m_size a d.pull % m_size := by
        rw [Item.pushPos_mod hn a _ fun size hs => (hd size (Datum.item_toPush_blob hs)).1,
          Datum.pushAbs_toPush]
      have hrest : pullsAbs m_size (pullAbs m_size a d.pull) (ds.map Datum.pull) ≤ a + m_size := hlap
      rw [List.map_cons, store, hpos]
      refine ⟨Datum.at_congr (fun i hi => ?_) (Datum.at_store hn hd mem hle), ?_⟩
      · obtain ⟨x, hx, hax, hxb⟩ := Datum.words_mod hn (fun size hs => (hd size hs).1) a hi
        exact store_frame hn (fun size hs => (hds size hs).1) _ hxb (by omega) hx
      · rw [pullPos_mod hn a fun size hs => (hd size hs).1]
        exact ih hds _ (by omega)

/-- The writer's position after data. -/
theorem store_data_pos {ds : List Datum}
    (hfit : ∀ size, Pull.obj size ∈ ds.map Datum.pull → chunkSize size < m_size) (mem : Memory)
    (a : Nat) :
    (store m_size mem (a % m_size) (ds.map Datum.toPush)).2 =
      pullsAbs m_size a (ds.map Datum.pull) % m_size := by
  induction ds generalizing mem a with
  | nil => rfl
  | cons d ds ih =>
      have hpos : d.toPush.item.pushPos m_size (a % m_size) = pullAbs m_size a d.pull % m_size := by
        rw [Item.pushPos_mod hn a _ fun size hs =>
          hfit size (Datum.item_toPush_blob hs ▸ List.mem_cons_self), Datum.pushAbs_toPush]
      rw [List.map_cons, store, hpos]
      exact ih (fun size hs => hfit size (List.mem_cons_of_mem _ hs)) _ _

end Lap

/-- The data of a command's pushes. -/
def dataOf (ps : List Push) : List Datum := ps.flatMap Push.data

theorem dataOf_append (ps qs : List Push) : dataOf (ps ++ qs) = dataOf ps ++ dataOf qs :=
  List.flatMap_append

/-- A command's pushes fit a ring from the absolute position `a` on: each object is shorter than
the ring and its size goes into a word, and all of them end within a lap. -/
structure FitsLap (m_size a : Nat) (ps : List Push) : Prop where
  obj : ∀ bytes, Push.obj bytes ∈ ps → chunkSize bytes.length < m_size ∧ bytes.length < 2 ^ 32
  lap : pullsAbs m_size a ((dataOf ps).map Datum.pull) ≤ a + m_size

theorem FitsLap.data {a : Nat} {ps : List Push} (h : FitsLap m_size a ps) :
    ∀ size, Pull.obj size ∈ (dataOf ps).map Datum.pull → chunkSize size < m_size ∧ size < 2 ^ 32 := by
  intro size hs
  obtain ⟨d, hd, hpull⟩ := List.mem_map.mp hs
  obtain ⟨p, hp, hd⟩ := List.mem_flatMap.mp hd
  cases p with
  | word w =>
      cases List.mem_singleton.mp hd
      cases hpull
  | many ws =>
      obtain ⟨w, -, rfl⟩ := List.mem_map.mp hd
      cases hpull
  | obj bytes =>
      cases List.mem_singleton.mp hd
      cases hpull
      exact h.obj bytes hp

/-- **What is pushed is there to be pulled**, from the position of the first push to the writer's
position after the last. -/
theorem holds_store (hn : 0 < m_size) (mem : Memory) {a : Nat} {ps : List Push}
    (h : FitsLap m_size a ps) :
    Holds m_size (store m_size mem (a % m_size) ps).1 (a % m_size) (dataOf ps)
      (store m_size mem (a % m_size) ps).2 := by
  rw [store_data hn mem a ps fun bytes hb => (h.obj bytes hb).1, ← dataOf,
    store_data_pos hn (fun size hs => (h.data size hs).1) mem a]
  exact holds_store_data hn h.data mem h.lap

/-! ### What is there already -/

/-- A datum is stored where it lies. -/
theorem Datum.store_at {mem : Memory} {d : Datum} {m_pos : Nat} (h : d.At m_size mem m_pos) :
    d.toPush.store m_size mem m_pos = mem := by
  cases d with
  | word w =>
      have hw : mem.word m_pos = w := h
      show mem.setWord m_pos w = mem
      rw [← hw, Memory.setWord_word]
  | obj bytes =>
      have hsize : BitVec.ofNat 32 bytes.length = mem.word m_pos := by
        rw [← h.1, BitVec.ofNat_toNat, BitVec.setWidth_eq]
      show (mem.setWord m_pos (BitVec.ofNat 32 bytes.length)).copy _ bytes = mem
      rw [hsize, Memory.setWord_word]
      exact Memory.copy_same h.2

theorem store_data_holds (hn : 0 < m_size) {mem : Memory} {ds : List Datum} {a e : Nat}
    (hfit : ∀ size, Pull.obj size ∈ ds.map Datum.pull → chunkSize size < m_size)
    (h : Holds m_size mem (a % m_size) ds e) :
    store m_size mem (a % m_size) (ds.map Datum.toPush) = (mem, e) := by
  induction ds generalizing a with
  | nil => exact Prod.ext rfl h
  | cons d ds ih =>
      have hd : ∀ size, d.pull = .obj size → chunkSize size < m_size :=
        fun size hs => hfit size (hs ▸ List.mem_cons_self)
      have hpos : d.toPush.item.pushPos m_size (a % m_size) = pullAbs m_size a d.pull % m_size := by
        rw [Item.pushPos_mod hn a _ fun size hs => hd size (Datum.item_toPush_blob hs),
          Datum.pushAbs_toPush]
      have hrest := h.2
      rw [pullPos_mod hn a hd] at hrest
      rw [List.map_cons, store, hpos, Datum.store_at h.1]
      exact ih (fun size hs => hfit size (List.mem_cons_of_mem _ hs)) hrest

/-- The pushes of a command leave a memory that holds their data as it is. -/
theorem store_holds (hn : 0 < m_size) {mem : Memory} {ps : List Push} {a e : Nat}
    (hfit : FitsLap m_size a ps) (h : Holds m_size mem (a % m_size) (dataOf ps) e) :
    store m_size mem (a % m_size) ps = (mem, e) := by
  rw [store_data hn mem a ps fun bytes hb => (hfit.obj bytes hb).1, ← dataOf]
  exact store_data_holds hn (fun size hs => (hfit.data size hs).1) h

/-! ### From the start of a ring with room -/

/-- The words a pull takes where nothing rolls over. -/
def Pull.space : Pull → Nat
  | .word     => 1
  | .obj size => 1 + chunkSize size

def space (ps : List Push) : Nat := ((dataOf ps).map fun d => d.pull.space).sum

theorem pullsAbs_of_room {a : Nat} {ds : List Datum}
    (h : a % m_size + (ds.map fun d => d.pull.space).sum < m_size) :
    pullsAbs m_size a (ds.map Datum.pull) = a + (ds.map fun d => d.pull.space).sum := by
  induction ds generalizing a with
  | nil => rfl
  | cons d ds ih =>
      rw [List.map_cons, List.sum_cons] at h
      rw [List.map_cons, List.map_cons, List.sum_cons]
      have hpull : pullAbs m_size a d.pull = a + d.pull.space := by
        cases d with
        | word w => rfl
        | obj bytes =>
            have hsucc : (a + 1) % m_size = a % m_size + 1 :=
              Ring.add_mod_of_lt (by simp only [Datum.pull, Pull.space] at h; omega)
            have hstart : objStart m_size (a + 1) bytes.length = a + 1 := by
              refine if_neg ?_
              simp only [Datum.pull, Pull.space] at h
              omega
            show objStart m_size (a + 1) bytes.length + _ = _
            rw [hstart, Nat.add_assoc]
            rfl
      have hmod : (a + d.pull.space) % m_size = a % m_size + d.pull.space :=
        Ring.add_mod_of_lt (by omega)
      show pullsAbs m_size (pullAbs m_size a d.pull) (ds.map Datum.pull) = _
      rw [hpull, ih (by omega), Nat.add_assoc]

theorem FitsLap.of_room {ps : List Push} (hroom : space ps < m_size)
    (hobj : ∀ bytes, Push.obj bytes ∈ ps → bytes.length < 2 ^ 32) : FitsLap m_size m_size ps where
  obj bytes hb := by
    have hmem : 1 + chunkSize bytes.length ∈ (dataOf ps).map fun d => d.pull.space :=
      List.mem_map.mpr ⟨.obj bytes, List.mem_flatMap.mpr ⟨_, hb, List.mem_singleton.mpr rfl⟩, rfl⟩
    have hle : 1 + chunkSize bytes.length ≤ space ps := List.le_sum_of_mem hmem
    exact ⟨by omega, hobj bytes hb⟩
  lap := by
    rw [pullsAbs_of_room (by rwa [Nat.mod_self, Nat.zero_add])]
    exact Nat.add_le_add_left hroom.le _

section Room

variable {ps : List Push} (hroom : space ps < m_size)
  (hobj : ∀ bytes, Push.obj bytes ∈ ps → bytes.length < 2 ^ 32) (mem : Memory)
include hroom hobj

theorem store_pos_of_room : (store m_size mem 0 ps).2 = space ps := by
  have hn := Nat.zero_lt_of_lt hroom
  have hfit := FitsLap.of_room hroom hobj
  rw [← Nat.mod_self m_size, store_data hn mem m_size ps fun bytes hb => (hfit.obj bytes hb).1,
    ← dataOf, store_data_pos hn (fun size hs => (hfit.data size hs).1) mem m_size,
    pullsAbs_of_room (by rwa [Nat.mod_self, Nat.zero_add]), Nat.add_mod_left]
  exact Nat.mod_eq_of_lt hroom

/-- What lies behind the pushes stays. -/
theorem store_of_room {i : Nat} (hle : space ps ≤ i / 4) (hlt : i / 4 < m_size) :
    (store m_size mem 0 ps).1 i = mem i := by
  have hn := Nat.zero_lt_of_lt hroom
  have hfit := FitsLap.of_room hroom hobj
  rw [← Nat.mod_self m_size, store_data hn mem m_size ps fun bytes hb => (hfit.obj bytes hb).1,
    ← dataOf]
  refine store_frame hn (fun size hs => (hfit.data size hs).1) mem hlt ?_ (Nat.mod_eq_of_lt hlt).symm
  rw [pullsAbs_of_room (by rwa [Nat.mod_self, Nat.zero_add]), Nat.add_comm]
  exact Nat.add_le_add_right hle m_size

end Room

theorem space_append (ps qs : List Push) : space (ps ++ qs) = space ps + space qs := by
  simp [space, dataOf]

/-- What lies behind the bytes of the last object stays. -/
theorem store_last {ps : List Push} {bytes : List Byte}
    (hroom : space (ps ++ [Push.obj bytes]) < m_size)
    (hobj : ∀ bytes', Push.obj bytes' ∈ ps → bytes'.length < 2 ^ 32) (mem : Memory) {i : Nat}
    (hle : bytes.length ≤ i) (hlt : space ps + 1 + i / 4 < m_size) :
    (store m_size mem 0 (ps ++ [Push.obj bytes])).1 (4 * (space ps + 1) + i) =
      mem (4 * (space ps + 1) + i) := by
  have hspace : space ps + (1 + chunkSize bytes.length) < m_size := by
    rw [space_append] at hroom
    exact hroom
  have hps : space ps < m_size := by omega
  have hpop : pop m_size (space ps) = space ps + 1 := if_pos (by omega)
  have hstart : ensureSpace m_size (space ps + 1) bytes.length = space ps + 1 := if_neg (by omega)
  rw [store_append, store_pos_of_room hps hobj, store, store, Push.store, hpop, hstart]
  refine (Memory.copy_of_not_mem fun _ => Nat.add_le_add_left hle _).trans ?_
  rw [Memory.setWord_of_ne (by omega)]
  exact store_of_room hps hobj mem (by omega) (by omega)

/-! ### Programs of pulls -/

/-- A pointer argument: null, or the `size` bytes that the call reads from it on, in a 32-bit
address space.  A null pointer and an object of no bytes are alike. -/
@[ext]
structure Obj (size : Nat) where
  bytes : List Byte
  length : bytes = [] ∨ bytes.length = size
  lt_word : bytes.length < 2 ^ 32

def Obj.null {size : Nat} : Obj size := ⟨[], .inl rfl, by decide⟩

/-- `send_data(len, p)`. -/
def sendObj {size : Nat} (len : Nat) (p : Obj size) : Push := .obj (p.bytes.take len)

/-- What a reader of the ring computes, and the position it is left at. -/
def PullM (_m_size : Nat) (α : Type) := Memory → Nat → α × Nat

instance : Monad (PullM m_size) where
  pure a := fun _ m_pos => (a, m_pos)
  bind x f := fun mem m_pos => f (x mem m_pos).1 mem (x mem m_pos).2

/-- `get_data()`. -/
def getData : PullM m_size Word := fun mem m_pos => (mem.word m_pos, pop m_size m_pos)

/-- `get_data(&p)`, and the bytes that `p` points to. -/
def getBytes : PullM m_size (List Byte) := fun mem m_pos =>
  let size := (mem.word m_pos).toNat
  let start := ensureSpace m_size (pop m_size m_pos) size
  ((List.range size).map fun i => mem (4 * start + i), start + chunkSize size)

/-- The `size` bytes from `m_data[pos]` on, of which there are less than `2 ^ 32`. -/
def Memory.obj (mem : Memory) (pos size : Nat) : Obj size :=
  if h : size < 2 ^ 32 then
    { bytes := (List.range size).map fun i => mem (4 * pos + i)
      length := .inr (by simp)
      lt_word := by simpa using h }
  else .null

theorem Memory.getElem?_obj (mem : Memory) (pos : Nat) {size i : Nat} (hsize : size < 2 ^ 32)
    (hi : i < size) : (mem.obj pos size).bytes[i]? = some (mem (4 * pos + i)) := by
  rw [Memory.obj, dif_pos hsize, List.getElem?_map, List.getElem?_range hi, Option.map_some]

/-- `get_data(&p)`: the word that `p` points to, or null. -/
def getRef : PullM m_size (Option Nat) := fun mem m_pos =>
  let len := (mem.word m_pos).toNat
  let start := ensureSpace m_size (pop m_size m_pos) len
  (if chunkSize len = 0 then none else some start, start + chunkSize len)

/-- The `size` bytes that `p` points to. -/
def deref (size : Nat) (p : Option Nat) : PullM m_size (Obj size) := fun mem m_pos =>
  (p.elim .null fun pos => mem.obj pos size, m_pos)

/-- `get_data(&p)`, and the `size` bytes that `p` points to. -/
def getObj (size : Nat) : PullM m_size (Obj size) := getRef >>= deref size

theorem getObj_apply (size : Nat) (mem : Memory) (m_pos : Nat) :
    (getObj size : PullM m_size _) mem m_pos =
      (if chunkSize (mem.word m_pos).toNat = 0 then .null
        else mem.obj (ensureSpace m_size (pop m_size m_pos) (mem.word m_pos).toNat) size,
      pullPos m_size m_pos (.obj (mem.word m_pos).toNat)) := by
  show (deref size ((getRef : PullM m_size _) mem m_pos).1 : PullM m_size _) mem _ = _
  unfold getRef
  dsimp only
  split <;> rfl

/-- From wherever in the memory the data lie and end before `e`, the program takes them and no
more, and computes `a`. -/
def Reads {α : Type} (mem : Memory) (e : Nat) (p : PullM m_size α) (ds : List Datum) (a : α) :
    Prop :=
  ∀ m_pos, Holds m_size mem m_pos ds e → p mem m_pos = (a, e)

/-- `p` points to the object, or is null where it is. -/
def PointsTo (mem : Memory) {size : Nat} (p : Option Nat) (obj : Obj size) : Prop :=
  p.elim .null (fun pos => mem.obj pos size) = obj

section Rules
variable {α β : Type} {ds : List Datum} {mem : Memory} {e : Nat}

theorem Reads.pure (a : α) : Reads mem e (Pure.pure a : PullM m_size α) [] a := by
  rintro m_pos rfl
  rfl

theorem Reads.word {f : Word → PullM m_size β} {w : Word} {b : β} (h : Reads mem e (f w) ds b) :
    Reads mem e (getData >>= f) (.word w :: ds) b := by
  rintro m_pos ⟨rfl, hrest⟩
  exact h _ hrest

theorem Reads.bytes {f : List Byte → PullM m_size β} {bytes : List Byte} {b : β}
    (h : Reads mem e (f bytes) ds b) : Reads mem e (getBytes >>= f) (.obj bytes :: ds) b := by
  rintro m_pos ⟨⟨hsize, hbytes⟩, hrest⟩
  have hget : (getBytes : PullM m_size _) mem m_pos =
      (bytes, pullPos m_size m_pos (.obj bytes.length)) := by
    unfold getBytes
    rw [hsize]
    refine Prod.ext (List.ext_getElem (by simp) fun i hi hi' => ?_) rfl
    rw [List.getElem_map, List.getElem_range]
    exact hbytes i hi'
  change f ((getBytes : PullM m_size _) mem m_pos).1 mem _ = (b, e)
  rw [hget]
  exact h _ hrest

theorem Memory.obj_eq {pos size : Nat} {p : Obj size} (hlen : p.bytes.length = size)
    (h : ∀ i (hi : i < p.bytes.length), mem (4 * pos + i) = p.bytes[i]) : mem.obj pos size = p := by
  have hlt := p.lt_word
  rw [Memory.obj, dif_pos (hlen ▸ hlt)]
  refine Obj.ext (List.ext_getElem (by simpa using hlen.symm) fun i hi hi' => ?_)
  rw [List.getElem_map, List.getElem_range]
  exact h i hi'

/-- What `send_data(len, p)` pushes, if `len` is the object's size in a word. -/
theorem Obj.take_bytes {size : Nat} (obj : Obj size) {len : Nat} (hlen : len = size % 2 ^ 32) :
    obj.bytes.take len = obj.bytes := by
  refine List.take_of_length_le ?_
  have hlt := obj.lt_word
  rcases obj.length with hp | hp
  · rw [hp]
    exact Nat.zero_le len
  · rw [hp] at hlt ⊢
    rw [hlen, Nat.mod_eq_of_lt hlt]

theorem Obj.length_take_lt {size : Nat} (obj : Obj size) (len : Nat) :
    (obj.bytes.take len).length < 2 ^ 32 :=
  Nat.lt_of_le_of_lt (List.length_take_le' _ _) obj.lt_word

theorem Reads.ref {size len : Nat} {f : Option Nat → PullM m_size β} {obj : Obj size} {b : β}
    (hlen : obj.bytes.take len = obj.bytes)
    (h : ∀ p, PointsTo mem p obj → Reads mem e (f p) ds b) :
    Reads mem e (getRef >>= f) (.obj (obj.bytes.take len) :: ds) b := by
  rw [hlen]
  rintro m_pos ⟨⟨hsize, hbytes⟩, hrest⟩
  have hget : ∃ p, (getRef : PullM m_size _) mem m_pos =
      (p, pullPos m_size m_pos (.obj obj.bytes.length)) ∧ PointsTo mem p obj := by
    unfold getRef
    rw [hsize]
    by_cases hnil : obj.bytes = []
    · refine ⟨none, ?_, Obj.ext hnil.symm⟩
      rw [hnil]
      rfl
    · have hchunk : chunkSize obj.bytes.length ≠ 0 := by
        have hpos : 0 < obj.bytes.length := List.length_pos_iff.mpr hnil
        unfold chunkSize
        omega
      exact ⟨_, Prod.ext (if_neg hchunk) rfl,
        Memory.obj_eq (obj.length.resolve_left hnil) hbytes⟩
  obtain ⟨p, hget, hp⟩ := hget
  change f ((getRef : PullM m_size _) mem m_pos).1 mem _ = (b, e)
  rw [hget]
  exact h p hp _ hrest

theorem Reads.deref {size : Nat} {f : Obj size → PullM m_size β} {p : Option Nat} {obj : Obj size}
    {b : β} (hp : PointsTo mem p obj) (h : Reads mem e (f obj) ds b) :
    Reads mem e (deref size p >>= f) ds b := by
  intro m_pos hds
  change f (p.elim .null fun pos => mem.obj pos size) mem m_pos = (b, e)
  rw [hp]
  exact h m_pos hds

theorem Reads.obj {size len : Nat} {f : Obj size → PullM m_size β} {obj : Obj size} {b : β}
    (hlen : obj.bytes.take len = obj.bytes) (h : Reads mem e (f obj) ds b) :
    Reads mem e (getObj size >>= f) (.obj (obj.bytes.take len) :: ds) b :=
  Reads.ref hlen fun _ hp => Reads.deref hp h

/-- What `get_data` points to of an object of which only the first `len` bytes were pushed, the
last of them before `e`: null for none. -/
def Memory.short (mem : Memory) (e len size : Nat) : Obj size :=
  if chunkSize len = 0 then .null else mem.obj (e - chunkSize len) size

theorem Reads.short {size : Nat} {f : Obj size → PullM m_size β} {bytes : List Byte} {b : β}
    (h : Reads mem e (f (mem.short e bytes.length size)) [] b) :
    Reads mem e (getObj size >>= f) [.obj bytes] b := by
  rintro m_pos ⟨⟨hsize, -⟩, rfl⟩
  have hget : (getObj size : PullM m_size _) mem m_pos =
      (mem.short (pullPos m_size m_pos (.obj bytes.length)) bytes.length size,
        pullPos m_size m_pos (.obj bytes.length)) := by
    rw [getObj_apply, hsize, Memory.short, pullPos, Nat.add_sub_cancel]
  change f ((getObj size : PullM m_size _) mem m_pos).1 mem _ = (b, _)
  rw [hget]
  exact h _ rfl

theorem Reads.map {p : PullM m_size α} {a : α} (g : α → β) (hp : Reads mem e p ds a) :
    Reads mem e (p >>= fun a => Pure.pure (g a)) ds (g a) := by
  intro m_pos h
  show (g (p mem m_pos).1, (p mem m_pos).2) = (g a, e)
  rw [hp m_pos h]

theorem Reads.ite_pos {c : Prop} [Decidable c] {p q : PullM m_size α} {a : α} (hc : c)
    (h : Reads mem e p ds a) : Reads mem e (if c then p else q) ds a := by
  rwa [if_pos hc]

theorem Reads.ite_neg {c : Prop} [Decidable c] {p q : PullM m_size α} {a : α} (hc : ¬c)
    (h : Reads mem e q ds a) : Reads mem e (if c then p else q) ds a := by
  rwa [if_neg hc]

theorem holds_append {ds es : List Datum} {m_pos : Nat} :
    Holds m_size mem m_pos (ds ++ es) e ↔
      ∃ m, Holds m_size mem m_pos ds m ∧ Holds m_size mem m es e := by
  induction ds generalizing m_pos with
  | nil => simp [Holds]
  | cons d ds ih => simp [Holds, ih, and_assoc]

/-- A part of a program. -/
theorem Reads.bind {p : PullM m_size α} {f : α → PullM m_size β} {es : List Datum} {a : α} {b : β}
    (hp : ∀ m, Reads mem m p ds a) (hf : Reads mem e (f a) es b) : Reads mem e (p >>= f) (ds ++ es) b := by
  intro m_pos h
  obtain ⟨m, hds, hes⟩ := holds_append.mp h
  show f (p mem m_pos).1 mem (p mem m_pos).2 = (b, e)
  rw [hp m m_pos hds]
  exact hf m hes

end Rules

/-- An object pushed last without its last bytes is not always read right: they are what the ring
held before. -/
theorem exists_short {size : Nat} {obj : Obj size} (ps : List Push) (bytes : List Byte)
    (hlt : bytes.length < obj.bytes.length)
    (hobj : ∀ bytes', Push.obj bytes' ∈ ps → bytes'.length < 2 ^ 32) :
    ∃ m_size mem, 0 < m_size ∧ FitsLap m_size m_size (ps ++ [Push.obj bytes]) ∧
      (store m_size mem 0 (ps ++ [Push.obj bytes])).1.short
        (store m_size mem 0 (ps ++ [Push.obj bytes])).2 bytes.length size ≠ obj := by
  have hlen : obj.bytes.length = size :=
    obj.length.resolve_left fun hnil => by simp [hnil] at hlt
  have hword := obj.lt_word
  have hlast : obj.bytes.length - 1 < obj.bytes.length := by omega
  have hobj' : ∀ bytes', Push.obj bytes' ∈ ps ++ [Push.obj bytes] → bytes'.length < 2 ^ 32 := by
    intro bytes' hb
    rcases List.mem_append.mp hb with hb | hb
    · exact hobj bytes' hb
    · cases List.mem_singleton.mp hb
      omega
  have hspace : space (ps ++ [Push.obj bytes]) = space ps + (1 + chunkSize bytes.length) :=
    space_append ps [.obj bytes]
  have hroom : space (ps ++ [Push.obj bytes]) < space ps + size + 3 := by
    rw [hspace]
    unfold chunkSize
    omega
  refine ⟨space ps + size + 3, fun _ => ~~~ obj.bytes[obj.bytes.length - 1], by omega,
    FitsLap.of_room hroom hobj', fun heq => ?_⟩
  have hchunk : chunkSize bytes.length ≠ 0 := by
    intro hchunk
    have hbytes := congrArg Obj.bytes (heq.symm.trans (if_pos hchunk))
    rw [hbytes] at hlt
    exact Nat.not_lt_zero _ hlt
  rw [store_pos_of_room hroom hobj', hspace, Memory.short, if_neg hchunk] at heq
  have hbytes := congrArg (fun o => o.bytes[obj.bytes.length - 1]?) heq
  rw [Memory.getElem?_obj _ _ (by omega) (by omega), List.getElem?_eq_getElem hlast,
    Option.some_inj] at hbytes
  have hpos : space ps + (1 + chunkSize bytes.length) - chunkSize bytes.length = space ps + 1 := by
    omega
  rw [hpos, store_last hroom hobj _ (by omega) (by omega)] at hbytes
  exact BitVec.ne_not_self (by decide) hbytes.symm

/-- What a command's pushes left is what a program that reads its data gets, and the reader ends
where the writer did. -/
theorem Reads.run {α : Type} (hn : 0 < m_size) {p : PullM m_size α} {ps : List Push} {v : α}
    (mem : Memory) {a : Nat}
    (hp : Reads (store m_size mem (a % m_size) ps).1 (store m_size mem (a % m_size) ps).2 p
      (dataOf ps) v)
    (h : FitsLap m_size a ps) :
    p (store m_size mem (a % m_size) ps).1 (a % m_size) =
      (v, (store m_size mem (a % m_size) ps).2) :=
  hp _ (holds_store hn mem h)

end RemixBridge.DataRing
