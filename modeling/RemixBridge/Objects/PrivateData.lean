import RemixBridge.Support.Runs
import Mathlib.Data.List.AList

/-!
# Objects — PrivateData

The private data of a resource or a volume (`d3d9_privatedata.h`): copies of plain data, each in a
block of the C heap, and references to interfaces, each kind in a map of its own.

`PrivateData` and `PrivateInterface` have a destructor and are copied by the compiler, that is
pointer by pointer: the temporaries of `setData` and the local of `getData` are destroyed like any
other.  `frees`, `staleReads`, `addRefs` and `releases` are the calls made so far, and `callers` the
references that `getData` has taken for its callers and they have not given back.

* `Account`: what the store owes for what it holds, and the callers for what they were given.
* `private_data_iff`: in a run the store keeps its account and its answers exactly while no plain
  data is set and no interface is set in place of another.
-/

namespace RemixBridge.PrivateDataFactory
open Runs

def D3DSPD_IUNKNOWN : Nat := 0x1

/-- `sizeof(IUnknown*)`, in the 32-bit client. -/
def sizeofInterface : Nat := 4

inductive HResult
  | S_OK
  | D3DERR_INVALIDCALL
deriving DecidableEq

/-- A copy: the block it is in. -/
structure PrivateData where
  pData : Nat
  SizeOfData : Nat
deriving DecidableEq

/-- What a pointer that is not null points to: the bytes there, or an interface. -/
structure Pointee (Interface : Type*) where
  bytes : List UInt8
  pInterface : Interface

/-- What a GUID is set to, and what a `GetPrivateData` writes. -/
inductive Datum (Interface : Type*)
  | plain (bytes : List UInt8)
  | reference (pInterface : Interface)
deriving DecidableEq

def Datum.size {Interface : Type*} : Datum Interface → Nat
  | .plain bytes => bytes.length
  | .reference _ => sizeofInterface

structure State (Guid Interface : Type*) where
  m_privateData : AList fun _ : Guid => PrivateData
  m_privateInterfaces : AList fun _ : Guid => Interface
  blocks : List (List UInt8)
  frees : List Nat
  staleReads : List Nat
  addRefs : List Interface
  releases : List Interface
  callers : List Interface

inductive Action (Guid Interface : Type*)
  | SetPrivateData (refguid : Guid) (pData : Option (Pointee Interface)) (SizeOfData Flags : Nat)
  /-- With the size of the buffer, if there is one. -/
  | GetPrivateData (refguid : Guid) (pData : Option Nat)
  | FreePrivateData (refguid : Guid)
  /-- A caller of `GetPrivateData` gives back the reference it was given. -/
  | Release (pInterface : Interface)

section store

variable {Guid Interface : Type*}

/-! ### The entries -/

/-- `std::malloc` and `memcpy`. -/
def State.newData (s : State Guid Interface) (bytes : List UInt8) :
    PrivateData × State Guid Interface :=
  (⟨s.blocks.length, bytes.length⟩, { s with blocks := s.blocks ++ [bytes] })

/-- `~PrivateData`. -/
def State.deleteData (s : State Guid Interface) (data : PrivateData) : State Guid Interface :=
  { s with frees := s.frees ++ [data.pData] }

/-- `memcpy` from a copy's block. -/
def State.read (s : State Guid Interface) (data : PrivateData) : State Guid Interface :=
  if data.pData ∈ s.frees then { s with staleReads := s.staleReads ++ [data.pData] } else s

/-- `pInterface->AddRef()`: of `PrivateInterface`'s constructor and of `getData`. -/
def State.addRef (s : State Guid Interface) (pInterface : Interface) : State Guid Interface :=
  { s with addRefs := s.addRefs ++ [pInterface] }

/-- `~PrivateInterface`. -/
def State.release (s : State Guid Interface) (pInterface : Interface) : State Guid Interface :=
  { s with releases := s.releases ++ [pInterface] }

/-- An interface written to a caller's buffer, with a reference. -/
def State.handOut (s : State Guid Interface) (pInterface : Interface) : State Guid Interface :=
  { s.addRef pInterface with callers := pInterface :: s.callers }

/-- The caller's `Release`. -/
def State.giveBack [DecidableEq Interface] (s : State Guid Interface) (pInterface : Interface) :
    State Guid Interface :=
  { s.release pInterface with callers := s.callers.erase pInterface }

/-! ### The factory -/

variable [DecidableEq Guid]

/-- `m_privateData.insert_or_assign(refguid, PrivateData(pData, SizeOfData))`: the entry is a copy
of the temporary, which is then destroyed. -/
def State.setPlain (s : State Guid Interface) (refguid : Guid) (bytes : List UInt8) :
    State Guid Interface :=
  let (data, s) := s.newData bytes
  { s with m_privateData := s.m_privateData.insert refguid data }.deleteData data

/-- `m_privateInterfaces.insert_or_assign(refguid, pInterface)`: a new entry is made in place, an
old one is assigned from a temporary, which is then destroyed. -/
def State.setInterface (s : State Guid Interface) (refguid : Guid) (pInterface : Interface) :
    State Guid Interface :=
  let s' := { s with
    m_privateInterfaces := s.m_privateInterfaces.insert refguid pInterface }.addRef pInterface
  if refguid ∈ s.m_privateInterfaces then s'.release pInterface else s'

def State.setData (s : State Guid Interface) (refguid : Guid) (pData : Option (Pointee Interface))
    (SizeOfData Flags : Nat) : State Guid Interface :=
  if Flags &&& D3DSPD_IUNKNOWN ≠ 0 then
    if SizeOfData ≠ sizeofInterface then s
    else
      match pData with
      | none => s
      | some p => s.setInterface refguid p.pInterface
  else
    -- from a null pointer the copy ends the client; here it copies nothing
    s.setPlain refguid (((pData.map (·.bytes)).getD []).take SizeOfData)

/-- `getData`: a plain entry is copied into a local, which is then destroyed; an interface is handed
out with a reference, if there is a buffer for it. -/
def State.getData (s : State Guid Interface) (refguid : Guid) (pData : Option Nat) :
    State Guid Interface :=
  match s.m_privateData.lookup refguid with
  | some data => (if pData.isSome then s.read data else s).deleteData data
  | none =>
      match s.m_privateInterfaces.lookup refguid with
      | some pInterface => if pData.isSome then s.handOut pInterface else s
      | none => s

/-- And what it writes to the buffer. -/
def State.written (s : State Guid Interface) (refguid : Guid) : Option (Datum Interface) :=
  match s.m_privateData.lookup refguid with
  | some data => some (.plain (s.blocks.getD data.pData []))
  | none => (s.m_privateInterfaces.lookup refguid).map .reference

def State.freeData (s : State Guid Interface) (refguid : Guid) : State Guid Interface :=
  match s.m_privateData.lookup refguid with
  | some data => { s with m_privateData := s.m_privateData.erase refguid }.deleteData data
  | none =>
      match s.m_privateInterfaces.lookup refguid with
      | some pInterface =>
          { s with m_privateInterfaces := s.m_privateInterfaces.erase refguid }.release pInterface
      | none => s

/-- `~PrivateDataFactory`. -/
def State.destroy (s : State Guid Interface) : State Guid Interface :=
  { s with
    m_privateData := ∅
    m_privateInterfaces := ∅
    frees := s.frees ++ s.m_privateData.entries.map (·.2.pData)
    releases := s.releases ++ s.m_privateInterfaces.entries.map (·.2) }

end store

/-! ### Runs -/

/-- The resources refuse a `GetPrivateData` without a buffer, the volumes do not. -/
inductive Holder
  | resource
  | volume

/-- A store, with what its GUIDs were last set to. -/
structure Pair (Guid Interface : Type*) where
  store : State Guid Interface
  last : Guid → Option (Datum Interface)

section runs

variable {Guid Interface : Type*} [DecidableEq Guid]

def State.getPrivateData (holder : Holder) (s : State Guid Interface) (refguid : Guid)
    (pData : Option Nat) : State Guid Interface :=
  match holder, pData with
  | .resource, none => s
  | _, _ => s.getData refguid pData

/-- What a `SetPrivateData` sets, if it is one that the store takes. -/
def given (pData : Option (Pointee Interface)) (SizeOfData Flags : Nat) :
    Option (Datum Interface) :=
  if Flags &&& D3DSPD_IUNKNOWN ≠ 0 then
    if SizeOfData = sizeofInterface then pData.map fun p => .reference p.pInterface else none
  else some (.plain (((pData.map (·.bytes)).getD []).take SizeOfData))

def step [DecidableEq Interface] (holder : Holder) (p : Pair Guid Interface) :
    Action Guid Interface → Option (Pair Guid Interface)
  | .SetPrivateData refguid pData SizeOfData Flags => some
      { store := p.store.setData refguid pData SizeOfData Flags
        last :=
          match given pData SizeOfData Flags with
          | some d => Function.update p.last refguid (some d)
          | none => p.last }
  | .GetPrivateData refguid pData => some
      { p with store := p.store.getPrivateData holder refguid pData }
  | .FreePrivateData refguid => some
      { store := p.store.freeData refguid
        last := Function.update p.last refguid none }
  | .Release pInterface =>
      if pInterface ∈ p.store.callers then
        some { p with store := p.store.giveBack pInterface }
      else none

/-- Every block has been freed once and none read behind that; every reference taken has been
released once, but for those that a caller was given and still has. -/
structure Settled [DecidableEq Interface] (s : State Guid Interface) : Prop where
  frees : ∀ b, s.frees.count b = if b < s.blocks.length then 1 else 0
  reads : s.staleReads = []
  refs : ∀ i, s.addRefs.count i = s.releases.count i + s.callers.count i

/-- A `GetPrivateData` writes what was last set, and no more than its buffer has room for. -/
def Answered (p : Pair Guid Interface) : Action Guid Interface → Prop
  | .GetPrivateData refguid (some size) =>
      p.store.written refguid = p.last refguid ∧ ∀ d ∈ p.store.written refguid, d.size ≤ size
  | _ => True

/-- The answer is right, and with the store destroyed behind it everything is settled. -/
def Kept [DecidableEq Interface] (holder : Holder) (p : Pair Guid Interface)
    (a : Action Guid Interface) : Prop :=
  Answered p a ∧ ∀ p', step holder p a = some p' → Settled p'.store.destroy

/-- No plain data, no interface in place of another, and a buffer for a pointer. -/
def InScope (p : Pair Guid Interface) : Action Guid Interface → Prop
  | .SetPrivateData refguid pData SizeOfData Flags =>
      Flags &&& D3DSPD_IUNKNOWN ≠ 0 ∧
        (SizeOfData = sizeofInterface → ∀ q ∈ pData,
          ∀ old ∈ p.store.m_privateInterfaces.lookup refguid, old = q.pInterface)
  | .GetPrivateData refguid (some size) =>
      refguid ∈ p.store.m_privateInterfaces → sizeofInterface ≤ size
  | _ => True

/-- A `SetPrivateData` that sets nothing. -/
theorem setData_none {s : State Guid Interface} {pData : Option (Pointee Interface)}
    {SizeOfData Flags : Nat} (hnone : given pData SizeOfData Flags = none) (g : Guid) :
    s.setData g pData SizeOfData Flags = s := by
  unfold given at hnone
  unfold State.setData
  split
  · next hflag =>
      rw [if_pos hflag] at hnone
      split
      · rfl
      · next hsize =>
          rw [if_pos (not_not.mp hsize), Option.map_eq_none_iff] at hnone
          rw [hnone]
  · next hflag =>
      rw [if_neg hflag] at hnone
      cases hnone

end runs

/-! ### The account -/

/-- The interfaces of a map, one for each entry. -/
def held {Guid Interface : Type*} (m : AList fun _ : Guid => Interface) : List Interface :=
  m.entries.map (·.2)

section entries

variable {Guid Interface : Type*} [DecidableEq Guid] {m : AList fun _ : Guid => Interface}
  {g : Guid}

theorem held_insert (i : Interface) : held (m.insert g i) = i :: held (m.erase g) := rfl

theorem held_erase {i : Interface} (h : m.lookup g = some i) :
    (held m).Perm (i :: held (m.erase g)) := by
  have hmem : g ∈ m := AList.lookup_isSome.mp (h ▸ rfl)
  obtain ⟨b, l₁, l₂, -, hentries, hkerase⟩ := List.exists_of_kerase hmem
  have hb : b ∈ m.lookup g := AList.mem_lookup_iff.mpr (by rw [hentries]; simp)
  rw [h, Option.mem_some_iff] at hb
  subst hb
  have herase : held (m.erase g) = (l₁ ++ l₂).map (·.2) := congrArg _ hkerase
  rw [herase, held, hentries, List.map_append, List.map_append, List.map_cons]
  exact List.perm_middle

theorem held_erase_none (h : m.lookup g = none) : held (m.erase g) = held m := by
  have hnot : g ∉ m := AList.lookup_eq_none.mp h
  have herase : m.entries.kerase g = m.entries := List.kerase_of_notMem_keys hnot
  exact congrArg (List.map fun e : Sigma fun _ : Guid => Interface => e.2) herase

end entries

/-- What a store without plain data has to release is what it holds, and its callers what they
hold. -/
structure Account {Guid Interface : Type*} [DecidableEq Guid] [DecidableEq Interface]
    (p : Pair Guid Interface) : Prop where
  data : p.store.m_privateData = ∅
  blocks : p.store.blocks = []
  frees : p.store.frees = []
  reads : p.store.staleReads = []
  refs : ∀ i, p.store.addRefs.count i = p.store.releases.count i + p.store.callers.count i +
    (held p.store.m_privateInterfaces).count i
  last : ∀ g, p.last g = (p.store.m_privateInterfaces.lookup g).map .reference

section steps

variable {Guid Interface : Type*} [DecidableEq Guid] [DecidableEq Interface]
  {p : Pair Guid Interface}

/-- A store that keeps its account can be destroyed. -/
theorem Account.settled (h : Account p) : Settled p.store.destroy where
  frees b := by
    have hnone : p.store.destroy.frees = [] := by
      simp only [State.destroy, h.frees, h.data, AList.empty_entries, List.map_nil, List.append_nil]
    have hblocks : p.store.destroy.blocks = [] := h.blocks
    rw [hnone, hblocks]
    rfl
  reads := h.reads
  refs i := by
    have hrefs := h.refs i
    rw [held] at hrefs
    simp only [State.destroy, List.count_append]
    omega

/-- A new entry takes a reference. -/
theorem Account.insert (h : Account p) {g : Guid}
    (hnone : p.store.m_privateInterfaces.lookup g = none) (i : Interface) :
    Account ⟨p.store.setInterface g i, Function.update p.last g (some (.reference i))⟩ := by
  have hnew : p.store.setInterface g i = { p.store with
      m_privateInterfaces := p.store.m_privateInterfaces.insert g i }.addRef i :=
    if_neg (AList.lookup_eq_none.mp hnone)
  rw [hnew]
  refine ⟨h.data, h.blocks, h.frees, h.reads, fun j => ?_, fun g' => ?_⟩
  · have hrefs := h.refs j
    simp only [State.addRef, held_insert, held_erase_none hnone, List.count_append,
      List.count_cons, List.count_nil]
    omega
  · simp only [State.addRef]
    by_cases hg : g' = g
    · subst hg
      rw [Function.update_self, AList.lookup_insert]
      rfl
    · rw [Function.update_of_ne hg, AList.lookup_insert_ne hg]
      exact h.last g'

/-- What an entry's assignment does to the references. -/
theorem Account.assigned (h : Account p) {g : Guid} {old : Interface}
    (hold : p.store.m_privateInterfaces.lookup g = some old) (i j : Interface) :
    (p.store.setInterface g i).addRefs.count j + [i].count j =
      (p.store.setInterface g i).releases.count j + (p.store.setInterface g i).callers.count j +
        (held (p.store.setInterface g i).m_privateInterfaces).count j + [old].count j := by
  have hmem : g ∈ p.store.m_privateInterfaces := AList.lookup_isSome.mp (hold ▸ rfl)
  have hassign : p.store.setInterface g i = ({ p.store with
      m_privateInterfaces := p.store.m_privateInterfaces.insert g i }.addRef i).release i :=
    if_pos hmem
  have hrefs := h.refs j
  have hperm := (held_erase hold).count_eq j
  rw [hassign]
  simp only [State.release, State.addRef, held_insert, List.count_append, List.count_cons,
    List.count_nil] at hperm ⊢
  omega

theorem Account.assign (h : Account p) {g : Guid} {i : Interface}
    (hold : p.store.m_privateInterfaces.lookup g = some i) :
    Account ⟨p.store.setInterface g i, Function.update p.last g (some (.reference i))⟩ := by
  have hmem : g ∈ p.store.m_privateInterfaces := AList.lookup_isSome.mp (hold ▸ rfl)
  have hrefs := h.assigned hold i
  have hassign : p.store.setInterface g i = ({ p.store with
      m_privateInterfaces := p.store.m_privateInterfaces.insert g i }.addRef i).release i :=
    if_pos hmem
  rw [hassign] at hrefs ⊢
  refine ⟨h.data, h.blocks, h.frees, h.reads, fun j => ?_, fun g' => ?_⟩
  · have hbal := hrefs j
    simp only at hbal ⊢
    omega
  · have hkeep : (p.store.m_privateInterfaces.insert g i).lookup g' =
        p.store.m_privateInterfaces.lookup g' := by
      by_cases hg : g' = g
      · subst hg
        rw [AList.lookup_insert, hold]
      · exact AList.lookup_insert_ne hg
    have hlast : Function.update p.last g (some (.reference i)) g' = p.last g' := by
      by_cases hg : g' = g
      · subst hg
        rw [Function.update_self, h.last, hold]
        rfl
      · exact Function.update_of_ne hg _ _
    simp only [State.release, State.addRef]
    rw [hlast, h.last g', hkeep]

/-- Another interface in its place is released too often, and the old one never. -/
theorem Account.overwritten (h : Account p) {g : Guid} {old i : Interface}
    (hold : p.store.m_privateInterfaces.lookup g = some old) (hne : old ≠ i) :
    ¬ Settled (p.store.setInterface g i).destroy := by
  intro hsettled
  have hrefs := h.assigned hold i old
  have hbal := hsettled.refs old
  simp only [State.destroy, List.count_append] at hbal
  simp only [List.count_singleton, beq_self_eq_true, beq_iff_eq, if_true, hne.symm, if_false,
    held] at hrefs
  omega

/-- Plain data is freed with the temporary, and once more with the entry. -/
theorem Account.plain (h : Account p) (g : Guid) (bytes : List UInt8) :
    ¬ Settled (p.store.setPlain g bytes).destroy := by
  intro hsettled
  have hfrees := hsettled.frees 0
  simp only [State.setPlain, State.newData, State.deleteData, State.destroy, h.data, h.blocks,
    h.frees, AList.entries_insert, AList.empty_entries, List.kerase_nil] at hfrees
  simp at hfrees

theorem Account.free (h : Account p) (g : Guid) :
    Account ⟨p.store.freeData g, Function.update p.last g none⟩ := by
  have hplain : p.store.m_privateData.lookup g = none := by
    rw [h.data]
    rfl
  cases hg : p.store.m_privateInterfaces.lookup g with
  | none =>
      have hsame : p.store.freeData g = p.store := by
        simp only [State.freeData, hplain, hg]
      rw [hsame]
      refine ⟨h.data, h.blocks, h.frees, h.reads, h.refs, fun g' => ?_⟩
      by_cases heq : g' = g
      · subst heq
        simp only [Function.update_self, hg, Option.map_none]
      · simp only [Function.update_of_ne heq]
        exact h.last g'
  | some i =>
      have hfree : p.store.freeData g = { p.store with
          m_privateInterfaces := p.store.m_privateInterfaces.erase g }.release i := by
        simp only [State.freeData, hplain, hg]
      rw [hfree]
      refine ⟨h.data, h.blocks, h.frees, h.reads, fun j => ?_, fun g' => ?_⟩
      · have hrefs := h.refs j
        have hperm := (held_erase hg).count_eq j
        simp only [State.release, List.count_append, List.count_cons, List.count_nil] at hperm ⊢
        omega
      · by_cases heq : g' = g
        · subst heq
          simp only [Function.update_self, State.release, AList.lookup_erase, Option.map_none]
        · simp only [Function.update_of_ne heq, State.release, AList.lookup_erase_ne heq]
          exact h.last g'

/-- A reference taken for a caller is the caller's. -/
theorem Account.handOut (h : Account p) (i : Interface) :
    Account { p with store := p.store.handOut i } := by
  refine ⟨h.data, h.blocks, h.frees, h.reads, fun j => ?_, h.last⟩
  have hrefs := h.refs j
  simp only [State.handOut, State.addRef, List.count_append, List.count_cons, List.count_nil]
  omega

/-- And is released when the caller gives it back. -/
theorem Account.giveBack (h : Account p) {i : Interface} (hi : i ∈ p.store.callers) :
    Account { p with store := p.store.giveBack i } := by
  refine ⟨h.data, h.blocks, h.frees, h.reads, fun j => ?_, h.last⟩
  have hrefs := h.refs j
  have hperm := (List.perm_cons_erase hi).count_eq j
  simp only [State.giveBack, State.release, List.count_append, List.count_cons,
    List.count_nil] at hperm ⊢
  omega

/-- Nothing is copied, destroyed or read for a `GetPrivateData` of a store without plain data. -/
theorem Account.getData (h : Account p) (g : Guid) (pData : Option Nat) :
    Account { p with store := p.store.getData g pData } := by
  have hplain : p.store.m_privateData.lookup g = none := by
    rw [h.data]
    rfl
  unfold State.getData
  rw [hplain]
  dsimp only
  split
  · split
    · exact h.handOut _
    · exact h
  · exact h

theorem Account.getPrivateData (h : Account p) (holder : Holder) (g : Guid) (pData : Option Nat) :
    Account { p with store := p.store.getPrivateData holder g pData } := by
  unfold State.getPrivateData
  split
  · exact h
  · exact h.getData g pData

theorem Account.written (h : Account p) (g : Guid) : p.store.written g = p.last g := by
  have hplain : p.store.m_privateData.lookup g = none := by
    rw [h.data]
    rfl
  simp only [State.written, hplain]
  exact (h.last g).symm

/-- **The step, for a set.** -/
theorem Account.set (h : Account p) (holder : Holder) (g : Guid)
    (pData : Option (Pointee Interface)) (SizeOfData Flags : Nat) {p' : Pair Guid Interface}
    (hs : step holder p (.SetPrivateData g pData SizeOfData Flags) = some p') :
    (InScope p (.SetPrivateData g pData SizeOfData Flags) → Account p') ∧
      (Settled p'.store.destroy → InScope p (.SetPrivateData g pData SizeOfData Flags)) := by
  cases hs
  by_cases hflag : Flags &&& D3DSPD_IUNKNOWN ≠ 0
  · by_cases hsize : SizeOfData = sizeofInterface
    · cases pData with
      | none =>
          have hgiven : given (none : Option (Pointee Interface)) SizeOfData Flags = none := by
            rw [given, if_pos hflag, if_pos hsize]
            rfl
          rw [setData_none hgiven, hgiven]
          exact ⟨fun _ => h, fun _ => ⟨hflag, fun _ => nofun⟩⟩
      | some q =>
          have hset : p.store.setData g (some q) SizeOfData Flags =
              p.store.setInterface g q.pInterface := by
            rw [State.setData, if_pos hflag, if_neg (not_not.mpr hsize)]
          have hgiven : given (some q) SizeOfData Flags = some (.reference q.pInterface) := by
            rw [given, if_pos hflag, if_pos hsize]
            rfl
          rw [hset, hgiven]
          cases hold : p.store.m_privateInterfaces.lookup g with
          | none =>
              refine ⟨fun _ => h.insert hold _, fun _ => ⟨hflag, fun _ q' hq' old hmem => ?_⟩⟩
              rw [hold] at hmem
              cases hmem
          | some old =>
              by_cases heq : old = q.pInterface
              · subst heq
                refine ⟨fun _ => h.assign hold, fun _ => ⟨hflag, fun _ q' hq' old hmem => ?_⟩⟩
                rw [hold] at hmem
                cases hq'
                cases hmem
                rfl
              · exact ⟨fun hin => absurd (hin.2 hsize q rfl old hold) heq,
                  fun hsettled => absurd hsettled (h.overwritten hold heq)⟩
    · have hgiven : given pData SizeOfData Flags = none := by
        rw [given, if_pos hflag, if_neg hsize]
      rw [setData_none hgiven, hgiven]
      exact ⟨fun _ => h, fun _ => ⟨hflag, fun heq => absurd heq hsize⟩⟩
  · have hset : p.store.setData g pData SizeOfData Flags =
        p.store.setPlain g (((pData.map (·.bytes)).getD []).take SizeOfData) := by
      unfold State.setData
      exact if_neg hflag
    rw [hset]
    exact ⟨fun hin => absurd hin.1 hflag, fun hsettled => absurd hsettled (h.plain g _)⟩

theorem Account.step (h : Account p) {holder : Holder} {a : Action Guid Interface}
    {p' : Pair Guid Interface} (hin : InScope p a)
    (hs : PrivateDataFactory.step holder p a = some p') : Account p' := by
  cases a with
  | SetPrivateData g pData SizeOfData Flags => exact (h.set holder g pData SizeOfData Flags hs).1 hin
  | GetPrivateData g pData =>
      cases hs
      exact h.getPrivateData holder g pData
  | FreePrivateData g =>
      cases hs
      exact h.free g
  | Release i =>
      simp only [PrivateDataFactory.step] at hs
      split at hs
      · next hi =>
          cases hs
          exact h.giveBack hi
      · cases hs

/-- **The step.** -/
theorem Account.kept_iff (h : Account p) (holder : Holder) (a : Action Guid Interface) :
    Kept holder p a ↔ InScope p a := by
  constructor
  · rintro ⟨hanswer, hsettled⟩
    cases a with
    | SetPrivateData g pData SizeOfData Flags =>
        exact (h.set holder g pData SizeOfData Flags rfl).2 (hsettled _ rfl)
    | GetPrivateData g pData =>
        cases pData with
        | none => trivial
        | some size =>
            intro hmem
            obtain ⟨i, hi⟩ := Option.isSome_iff_exists.mp (AList.lookup_isSome.mpr hmem)
            refine hanswer.2 (.reference i) ?_
            rw [h.written, h.last, hi]
            rfl
    | FreePrivateData g => trivial
    | Release i => trivial
  · intro hin
    refine ⟨?_, fun p' hs => (h.step hin hs).settled⟩
    cases a with
    | SetPrivateData g pData SizeOfData Flags => trivial
    | FreePrivateData g => trivial
    | Release i => trivial
    | GetPrivateData g pData =>
        cases pData with
        | none => trivial
        | some size =>
            refine ⟨h.written g, fun d hd => ?_⟩
            rw [h.written, h.last, Option.mem_def, Option.map_eq_some_iff] at hd
            obtain ⟨i, hi, rfl⟩ := hd
            exact hin (AList.lookup_isSome.mp (hi ▸ rfl))

end steps

/-! ### Every run -/

section all

variable {Guid Interface : Type*}

/-- A new resource. -/
def start : Pair Guid Interface where
  store :=
    { m_privateData := ∅, m_privateInterfaces := ∅, blocks := [], frees := [], staleReads := []
      addRefs := [], releases := [], callers := [] }
  last := fun _ => none

variable [DecidableEq Guid] [DecidableEq Interface]

theorem account_start : Account (start : Pair Guid Interface) :=
  ⟨rfl, rfl, rfl, rfl, fun _ => rfl, fun _ => rfl⟩

/-- **Private data.**  In every run, every answer is right and the store can be destroyed at any
time with every copy freed once and every reference released once, those of its callers by them,
exactly when no plain data is set, no interface is set in place of another, and no buffer is too
small for a pointer. -/
theorem private_data_iff (holder : Holder) (as : List (Action Guid Interface)) :
    Along (step holder) (Kept holder) start as ↔ Along (step holder) InScope start as :=
  along_iff (I := Account) (fun _ a h => h.kept_iff holder a)
    (fun _ _ _ h hin hs => h.step hin hs) account_start as

end all

/-- One byte under a GUID, read and freed: its block is freed with the temporary, read behind that,
freed with the local of `getData`, and freed with the entry. -/
theorem plain_data_freed :
    ¬ (∀ as : List (Action Nat Nat), Along (step .resource) (Kept .resource) start as) ∧
      (run (step .resource) (start : Pair Nat Nat)
          [.SetPrivateData 0 (some ⟨[7], 0⟩) 1 0, .GetPrivateData 0 (some 1),
            .FreePrivateData 0]).map (fun p => (p.store.frees, p.store.staleReads)) =
        some ([0, 0, 0], [0]) := by
  refine ⟨fun hall => ?_, rfl⟩
  have hset := (hall [.SetPrivateData 0 (some ⟨[7], 0⟩) 1 0]).1.2 _ rfl
  exact absurd (hset.frees 0) (by decide)

end RemixBridge.PrivateDataFactory
