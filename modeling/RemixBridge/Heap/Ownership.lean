import RemixBridge.Heap.SharedHeap
import RemixBridge.Support.Custody
import RemixBridge.Wire.Commands

/-!
# Heap — Ownership

Which ids of the shared heap a vertex or index buffer (`lockable_buffer.h`) and a surface
(`d3d9_surface.cpp`) have from `SharedHeap::allocate`, and what becomes of them: the current one,
those in the queue of locks, and those that a lock with `D3DLOCK_DISCARD` has replaced.

* `lock_alike`, `unlock_alike`: the two classes treat them alike.
* `accessed_while_allocated`: no id is used after it is deallocated.
* `all_deallocated_iff`: when every id is deallocated by the end of the object.
-/

namespace RemixBridge.Ownership
open Runs Custody
open SharedHeap (kInvalidId)

abbrev AllocId := Nat

def D3DLOCK_READONLY : Word := 0x10

def D3DLOCK_DISCARD : Word := 0x2000

/-! ### The code -/

/-- What is kept of a lock until its unlock. -/
structure LockInfo where
  flags : Word
  bufferId : AllocId
  discardedBufferId : AllocId

/-- A buffer or a surface; `calls` are those that it has made to the heap. -/
structure Object where
  m_bUseSharedHeap : Bool
  m_bufferId : AllocId
  m_lockInfos : List LockInfo
  destroyed : Bool
  calls : List (Call AllocId)

namespace Object

def init (m_bUseSharedHeap : Bool) : Object where
  m_bUseSharedHeap := m_bUseSharedHeap
  m_bufferId := kInvalidId
  m_lockInfos := []
  destroyed := false
  calls := []

variable (s : Object)

/-- `SharedHeap::allocate`, with its answer. -/
def allocate (id : AllocId) : Object :=
  { s with
    m_bufferId := id
    calls := if id = kInvalidId then s.calls else s.calls ++ [.allocate id] }

/-- `SharedHeap::getBuf`, by this process or by the server for a command that has the id. -/
def access (id : AllocId) : Object := { s with calls := s.calls ++ [.access id] }

def deallocate (id : AllocId) : Object :=
  if id = kInvalidId then s else { s with calls := s.calls ++ [.deallocate id] }

def push (l : LockInfo) : Object := { s with m_lockInfos := s.m_lockInfos ++ [l] }

def pop : Object := { s with m_lockInfos := s.m_lockInfos.tail }

end Object

def LockInfo.isReadOnly (l : LockInfo) : Prop := l.flags &&& D3DLOCK_READONLY ≠ 0

instance (l : LockInfo) : Decidable l.isReadOnly := inferInstanceAs (Decidable (_ ≠ _))

def discards (flags : Word) : Prop := flags &&& D3DLOCK_DISCARD ≠ 0

instance (flags : Word) : Decidable (discards flags) := inferInstanceAs (Decidable (_ ≠ _))

namespace LockableBuffer

/-- `answer` is what the heap answers if it is asked for an allocation. -/
def lock (s : Object) (flags : Word) (answer : AllocId) : Object :=
  if s.m_bUseSharedHeap then
    let bDiscard := discards flags
    let discardedBufferId :=
      if bDiscard ∧ s.m_bufferId ≠ kInvalidId then s.m_bufferId else kInvalidId
    let s' := if bDiscard ∨ s.m_bufferId = kInvalidId then s.allocate answer else s
    let nextBufId := s'.m_bufferId
    if nextBufId = kInvalidId then s'
    else (s'.access nextBufId).push ⟨flags, nextBufId, discardedBufferId⟩
  else s.push ⟨flags, kInvalidId, kInvalidId⟩

def unlock (s : Object) : Object :=
  match s.m_lockInfos with
  | [] => s
  | lockInfo :: _ =>
      let s' :=
        if lockInfo.isReadOnly then s
        else
          let sent := if s.m_bUseSharedHeap then s.access lockInfo.bufferId else s
          sent.deallocate lockInfo.discardedBufferId
      s'.pop

end LockableBuffer

namespace Direct3DSurface9

def lock (s : Object) (flags : Word) (answer : AllocId) : Object :=
  if s.m_bUseSharedHeap then
    let bDiscard := discards flags
    let allocates := bDiscard ∨ s.m_bufferId = kInvalidId
    let discardBufId := if allocates then s.m_bufferId else kInvalidId
    let s' := if allocates then s.allocate answer else s
    if s'.m_bufferId = kInvalidId then s'
    else (s'.access s'.m_bufferId).push ⟨flags, s'.m_bufferId, discardBufId⟩
  else s.push ⟨flags, kInvalidId, kInvalidId⟩

def sendDataToServer (s : Object) (lockInfo : LockInfo) : Object :=
  if s.m_bUseSharedHeap then
    (s.access lockInfo.bufferId).deallocate lockInfo.discardedBufferId
  else s

def unlock (s : Object) : Object :=
  match s.m_lockInfos with
  | [] => s
  | lockInfo :: _ =>
      let s' := s.pop
      if lockInfo.isReadOnly then s' else sendDataToServer s' lockInfo

end Direct3DSurface9

/-- The destructor, of either class. -/
def destroy (s : Object) : Object :=
  let s' := if s.m_bUseSharedHeap then s.deallocate s.m_bufferId else s
  { s' with destroyed := true }

inductive Kind
  | LockableBuffer
  | Direct3DSurface9

inductive Action
  | lock (flags : Word) (answer : AllocId)
  | unlock
  | destroy

def act (k : Kind) (s : Object) : Action → Object
  | .lock flags answer =>
      match k with
      | .LockableBuffer => LockableBuffer.lock s flags answer
      | .Direct3DSurface9 => Direct3DSurface9.lock s flags answer
  | .unlock =>
      match k with
      | .LockableBuffer => LockableBuffer.unlock s
      | .Direct3DSurface9 => Direct3DSurface9.unlock s
  | .destroy => Ownership.destroy s

/-- The heap answers with an id that it has not given out, or with none. -/
def Answers (s : Object) : Action → Prop
  | .lock _ answer => answer = kInvalidId ∨ Fresh s.calls answer
  | _ => True

instance (s : Object) : (a : Action) → Decidable (Answers s a)
  | .lock _ answer => inferInstanceAs (Decidable (answer = kInvalidId ∨ Fresh s.calls answer))
  | .unlock => inferInstanceAs (Decidable True)
  | .destroy => inferInstanceAs (Decidable True)

/-- A step of an object that is not destroyed. -/
def step (k : Kind) (s : Object) (a : Action) : Option Object :=
  if s.destroyed = false ∧ Answers s a then some (act k s a) else none

/-- A lock does not replace an id that its unlock will not deallocate, and the object is not
destroyed before the unlock that would. -/
def Keeps (s : Object) : Action → Prop
  | .lock flags answer =>
      discards flags → s.m_bufferId ≠ kInvalidId →
        flags &&& D3DLOCK_READONLY = 0 ∧ answer ≠ kInvalidId
  | .unlock => True
  | .destroy => ∀ l ∈ s.m_lockInfos, l.discardedBufferId = kInvalidId

/-! ### What a lock and an unlock do -/

section spec

variable (s : Object) (flags : Word) (answer : AllocId)

/-- A lock that uses the current id, when there is one, and one that replaces it. -/
def Object.lock : Object :=
  if discards flags ∨ s.m_bufferId = kInvalidId then
    if answer = kInvalidId then s.allocate kInvalidId
    else ((s.allocate answer).access answer).push ⟨flags, answer, s.m_bufferId⟩
  else (s.access s.m_bufferId).push ⟨flags, s.m_bufferId, kInvalidId⟩

variable {s flags answer}

theorem buffer_lock_eq (hs : s.m_bUseSharedHeap) :
    LockableBuffer.lock s flags answer = s.lock flags answer := by
  rw [LockableBuffer.lock, if_pos hs, Object.lock]
  by_cases halloc : discards flags ∨ s.m_bufferId = kInvalidId
  · have hdiscarded : (if discards flags ∧ s.m_bufferId ≠ kInvalidId then s.m_bufferId
        else kInvalidId) = s.m_bufferId := by
      split
      · rfl
      · next h =>
          by_contra hne
          exact h ⟨halloc.resolve_right fun h => hne h.symm, fun h => hne h.symm⟩
    simp only [if_pos halloc, hdiscarded]
    by_cases hanswer : answer = kInvalidId
    · subst hanswer
      rfl
    · rw [if_neg hanswer]
      exact if_neg hanswer
  · obtain ⟨hdiscard, hid⟩ := not_or.mp halloc
    have hkept : ¬ (discards flags ∧ s.m_bufferId ≠ kInvalidId) := fun h => hdiscard h.1
    simp only [if_neg halloc, if_neg hkept]
    exact if_neg hid

theorem surface_lock_eq (hs : s.m_bUseSharedHeap) :
    Direct3DSurface9.lock s flags answer = s.lock flags answer := by
  rw [Direct3DSurface9.lock, if_pos hs, Object.lock]
  by_cases halloc : discards flags ∨ s.m_bufferId = kInvalidId
  · simp only [if_pos halloc]
    by_cases hanswer : answer = kInvalidId
    · subst hanswer
      rfl
    · rw [if_neg hanswer]
      exact if_neg hanswer
  · obtain ⟨-, hid⟩ := not_or.mp halloc
    simp only [if_neg halloc]
    exact if_neg hid

/-- **The two locks.** -/
theorem lock_alike (k : Kind) : act k s (.lock flags answer) =
    if s.m_bUseSharedHeap then s.lock flags answer
    else s.push ⟨flags, kInvalidId, kInvalidId⟩ := by
  by_cases hs : s.m_bUseSharedHeap
  · rw [if_pos hs]
    cases k with
    | LockableBuffer => exact buffer_lock_eq hs
    | Direct3DSurface9 => exact surface_lock_eq hs
  · rw [if_neg hs]
    cases k with
    | LockableBuffer => exact if_neg hs
    | Direct3DSurface9 => exact if_neg hs

/-- What an unlock calls the heap for. -/
def unlockCalls (m_bUseSharedHeap : Bool) (l : LockInfo) : List (Call AllocId) :=
  if l.isReadOnly then []
  else
    (if m_bUseSharedHeap then [.access l.bufferId] else []) ++
      if l.discardedBufferId = kInvalidId then [] else [.deallocate l.discardedBufferId]

/-- **The two unlocks.** -/
theorem unlock_alike (k : Kind) {l : LockInfo} {ls : List LockInfo} (hq : s.m_lockInfos = l :: ls)
    (hunshared : s.m_bUseSharedHeap = false → l.discardedBufferId = kInvalidId) :
    act k s .unlock =
      { s with m_lockInfos := ls, calls := s.calls ++ unlockCalls s.m_bUseSharedHeap l } := by
  cases k with
  | LockableBuffer =>
      show LockableBuffer.unlock s = _
      rw [LockableBuffer.unlock, hq]
      by_cases hread : l.isReadOnly
      · simp [hread, unlockCalls, Object.pop, hq]
      · by_cases hid : l.discardedBufferId = kInvalidId <;> cases hs : s.m_bUseSharedHeap <;>
          simp [hread, unlockCalls, hid, hs, Object.pop, Object.deallocate, Object.access, hq]
  | Direct3DSurface9 =>
      show Direct3DSurface9.unlock s = _
      rw [Direct3DSurface9.unlock, hq]
      by_cases hread : l.isReadOnly
      · simp [hread, unlockCalls, Object.pop, hq]
      · cases hs : s.m_bUseSharedHeap with
        | false =>
            simp [hread, unlockCalls, hunshared hs, hs, Object.pop, hq,
              Direct3DSurface9.sendDataToServer]
        | true =>
            by_cases hid : l.discardedBufferId = kInvalidId <;>
              simp [hread, unlockCalls, hid, hs, Object.pop, Object.deallocate, Object.access, hq,
                Direct3DSurface9.sendDataToServer]

theorem unlock_nothing (k : Kind) (hq : s.m_lockInfos = []) : act k s .unlock = s := by
  cases k with
  | LockableBuffer =>
      show LockableBuffer.unlock s = s
      rw [LockableBuffer.unlock, hq]
  | Direct3DSurface9 =>
      show Direct3DSurface9.unlock s = s
      rw [Direct3DSurface9.unlock, hq]

end spec

/-! ### What an object still owes the heap -/

def destroyCalls (m_bUseSharedHeap : Bool) (m_bufferId : AllocId) : List (Call AllocId) :=
  if m_bUseSharedHeap ∧ m_bufferId ≠ kInvalidId then [.deallocate m_bufferId] else []

/-- The calls of the unlocks of a queue. -/
def queueCalls (m_bUseSharedHeap : Bool) (ls : List LockInfo) : List (Call AllocId) :=
  ls.flatMap (unlockCalls m_bUseSharedHeap)

/-- The calls that are left when all locks are unlocked before the object is destroyed. -/
def Object.pending (s : Object) : List (Call AllocId) :=
  if s.destroyed then []
  else queueCalls s.m_bUseSharedHeap s.m_lockInfos ++ destroyCalls s.m_bUseSharedHeap s.m_bufferId

/-- The calls of an object are in order and so are the pending ones, after which it holds `doomed`:
the ids that no later call deallocates. -/
structure Account (s : Object) (held doomed : Finset AllocId) : Prop where
  calls : run call ∅ s.calls = some held
  pending : run call held s.pending = some doomed
  readOnly : ∀ l ∈ s.m_lockInfos, l.isReadOnly → l.discardedBufferId ≠ kInvalidId →
    l.discardedBufferId ∈ doomed
  unshared : s.m_bUseSharedHeap = false →
    s.m_bufferId = kInvalidId ∧ ∀ l ∈ s.m_lockInfos, l.discardedBufferId = kInvalidId

variable {s s' : Object} {held doomed : Finset AllocId} {k : Kind} {shared : Bool}

theorem unlockCalls_readOnly {flags : Word} {id m : AllocId}
    (h : flags &&& D3DLOCK_READONLY ≠ 0) : unlockCalls shared ⟨flags, id, m⟩ = [] := if_pos h

theorem unlockCalls_writes {flags : Word} {id m : AllocId} (h : flags &&& D3DLOCK_READONLY = 0) :
    unlockCalls true ⟨flags, id, m⟩ =
      .access id :: if m = kInvalidId then [] else [.deallocate m] := if_neg fun hr => hr h

theorem spends_unlockCalls (l : LockInfo) : Spends (unlockCalls shared l) := by
  rw [unlockCalls]
  split
  · exact spends_nil
  · rw [spends_append]
    constructor <;> split <;> simp

theorem spends_queueCalls (ls : List LockInfo) : Spends (queueCalls shared ls) := by
  intro i hi
  obtain ⟨l, -, hl⟩ := List.mem_flatMap.mp hi
  exact spends_unlockCalls l i hl

theorem queueCalls_push (ls : List LockInfo) (l : LockInfo) :
    queueCalls shared (ls ++ [l]) = queueCalls shared ls ++ unlockCalls shared l := by
  simp [queueCalls]

/-- What is held when the queue has been unlocked, and what is then doomed. -/
theorem Account.unlocked (h : Account s held doomed) (hs : s.m_bUseSharedHeap)
    (hlive : s.destroyed = false) :
    ∃ last, run call held (queueCalls true s.m_lockInfos) = some last ∧ last ⊆ held ∧
      (s.m_bufferId = kInvalidId → doomed = last) ∧
      (s.m_bufferId ≠ kInvalidId → s.m_bufferId ∈ last ∧ doomed = last.erase s.m_bufferId) := by
  have hp := h.pending
  rw [Object.pending, if_neg (by simp [hlive]), hs] at hp
  obtain ⟨last, hq, hd⟩ := run_append.mp hp
  refine ⟨last, hq, (spends_queueCalls _).subset hq, fun hid => ?_, fun hid => ?_⟩
  · rw [destroyCalls, if_neg (by simp [hid])] at hd
    cases hd
    rfl
  · rw [destroyCalls, if_pos ⟨rfl, hid⟩] at hd
    obtain ⟨rest, hc, hr⟩ := run_cons.mp hd
    cases hr
    exact call_deallocate.mp hc

/-! ### What a step keeps -/

theorem account_init (shared : Bool) : Account (Object.init shared) ∅ ∅ where
  calls := rfl
  pending := by simp [Object.pending, Object.init, queueCalls, destroyCalls]
  readOnly := fun _ hl => absurd hl List.not_mem_nil
  unshared := fun _ => ⟨rfl, fun _ hl => absurd hl List.not_mem_nil⟩

/-- A lock of the current id. -/
theorem Account.reuse (h : Account s held doomed) (hs : s.m_bUseSharedHeap)
    (hlive : s.destroyed = false) (hid : s.m_bufferId ≠ kInvalidId) (flags : Word) :
    Account ((s.access s.m_bufferId).push ⟨flags, s.m_bufferId, kInvalidId⟩) held doomed := by
  obtain ⟨last, hq, hsub, -, hlast⟩ := h.unlocked hs hlive
  obtain ⟨hmem, rfl⟩ := hlast hid
  refine ⟨?_, ?_, ?_, fun hf => Bool.noConfusion (hs.symm.trans hf)⟩
  · exact run_append.mpr ⟨held, h.calls, run_cons.mpr ⟨held, call_access.mpr ⟨hsub hmem, rfl⟩, rfl⟩⟩
  · have hd : run call last (destroyCalls true s.m_bufferId) = some (last.erase s.m_bufferId) := by
      rw [destroyCalls, if_pos ⟨rfl, hid⟩]
      exact run_cons.mpr ⟨_, call_deallocate.mpr ⟨hmem, rfl⟩, rfl⟩
    have hl : run call last (unlockCalls true ⟨flags, s.m_bufferId, kInvalidId⟩) = some last := by
      by_cases hread : flags &&& D3DLOCK_READONLY = 0
      · rw [unlockCalls_writes hread]
        exact run_cons.mpr ⟨last, call_access.mpr ⟨hmem, rfl⟩, rfl⟩
      · rw [unlockCalls_readOnly hread]
        rfl
    rw [Object.pending, if_neg (by simp [Object.push, Object.access, hlive])]
    simp only [Object.push, Object.access, hs, queueCalls_push]
    exact run_append.mpr ⟨last, run_append.mpr ⟨last, hq, hl⟩, hd⟩
  · intro l hl hread hdisc
    rcases List.mem_append.mp hl with hl | hl
    · exact h.readOnly l hl hread hdisc
    · rw [List.mem_singleton.mp hl] at hdisc
      exact absurd rfl hdisc

/-- A lock whose allocation fails: the id that was current is doomed. -/
theorem Account.failed (h : Account s held doomed) (hs : s.m_bUseSharedHeap)
    (hlive : s.destroyed = false) :
    ∃ doomed', Account (s.allocate kInvalidId) held doomed' ∧
      (doomed' = ∅ ↔ doomed = ∅ ∧ s.m_bufferId = kInvalidId) := by
  obtain ⟨last, hq, -, hnone, hlast⟩ := h.unlocked hs hlive
  refine ⟨last, ⟨h.calls, ?_, ?_, fun hf => Bool.noConfusion (hs.symm.trans hf)⟩, ?_⟩
  · rw [Object.pending, if_neg (by simp [Object.allocate, hlive])]
    have hd : destroyCalls true kInvalidId = [] := if_neg fun h => h.2 rfl
    simpa only [Object.allocate, hd, List.append_nil, hs] using hq
  · intro l hl hread hdisc
    have hmem := h.readOnly l hl hread hdisc
    by_cases hid : s.m_bufferId = kInvalidId
    · exact hnone hid ▸ hmem
    · rw [(hlast hid).2] at hmem
      exact Finset.mem_of_mem_erase hmem
  · by_cases hid : s.m_bufferId = kInvalidId
    · rw [hnone hid, and_iff_left hid]
    · refine iff_of_false (fun hempty => ?_) fun h => hid h.2
      exact Finset.notMem_empty _ (hempty ▸ (hlast hid).1)

/-- What the unlock of a lock that replaced an id does, when the object is destroyed after it. -/
theorem replaced_calls {last : Finset AllocId} {m id : AllocId} (flags : Word)
    (hid : id ≠ kInvalidId) (hfresh : id ∉ last) (hm : m ≠ kInvalidId → m ∈ last) :
    run call (insert id last) (unlockCalls true ⟨flags, id, m⟩ ++ destroyCalls true id) =
      some (if flags &&& D3DLOCK_READONLY = 0 ∧ m ≠ kInvalidId then last.erase m else last) := by
  have hdestroy : destroyCalls true id = [.deallocate id] := if_pos ⟨rfl, hid⟩
  have hmem : id ∈ insert id last := Finset.mem_insert_self id last
  have herase : (insert id last).erase id = last := Finset.erase_insert hfresh
  rw [hdestroy]
  by_cases hread : flags &&& D3DLOCK_READONLY = 0
  · rw [unlockCalls_writes hread]
    by_cases hnone : m = kInvalidId
    · rw [if_pos hnone, if_neg fun h => h.2 hnone]
      simp [run, call, herase]
    · have hne : id ≠ m := fun h => hfresh (h ▸ hm hnone)
      have hswap : ((insert id last).erase m).erase id = last.erase m := by
        rw [Finset.erase_right_comm, herase]
      rw [if_neg hnone, if_pos ⟨hread, hnone⟩]
      simp [run, call, hm hnone, hne, hswap]
  · rw [unlockCalls_readOnly hread, if_neg fun h => hread h.1]
    simp [run, call, herase]

/-- A lock with a new id: the id it replaces is doomed when the lock is read only. -/
theorem Account.fresh (h : Account s held doomed) (hs : s.m_bUseSharedHeap)
    (hlive : s.destroyed = false) (flags : Word) {id : AllocId} (hid : id ≠ kInvalidId)
    (hfresh : Fresh s.calls id) :
    ∃ held' doomed', Account (((s.allocate id).access id).push ⟨flags, id, s.m_bufferId⟩)
        held' doomed' ∧
      (doomed' = ∅ ↔ doomed = ∅ ∧
        (s.m_bufferId ≠ kInvalidId → flags &&& D3DLOCK_READONLY = 0)) := by
  obtain ⟨last, hq, hsub, hnone, hlast⟩ := h.unlocked hs hlive
  have hnew : id ∉ held := hfresh held h.calls
  have hpending := replaced_calls flags hid (fun hmem => hnew (hsub hmem)) fun hm => (hlast hm).1
  have hqueue := (spends_queueCalls _).insert hnew hq
  refine ⟨insert id held,
    if flags &&& D3DLOCK_READONLY = 0 ∧ s.m_bufferId ≠ kInvalidId then last.erase s.m_bufferId
      else last,
    ⟨?_, ?_, ?_, fun hf => Bool.noConfusion (hs.symm.trans hf)⟩, ?_⟩
  · have hcalls : run call held [.allocate id, .access id] = some (insert id held) := by
      simp [run, call, hnew]
    have happend : (((s.allocate id).access id).push ⟨flags, id, s.m_bufferId⟩).calls =
        s.calls ++ [.allocate id, .access id] := by
      simp [Object.allocate, Object.access, Object.push, hid]
    rw [happend]
    exact run_append.mpr ⟨held, h.calls, hcalls⟩
  · rw [Object.pending, if_neg (by simp [Object.push, Object.access, Object.allocate, hlive])]
    simp only [Object.push, Object.access, Object.allocate, hs, queueCalls_push, List.append_assoc]
    exact run_append.mpr ⟨insert id last, hqueue, hpending⟩
  · intro l hl hread hdisc
    rcases List.mem_append.mp hl with hl | hl
    · have hmem := h.readOnly l hl hread hdisc
      by_cases hm : s.m_bufferId = kInvalidId
      · rw [if_neg fun h => h.2 hm, ← hnone hm]
        exact hmem
      · rw [(hlast hm).2] at hmem
        split
        · exact hmem
        · exact Finset.mem_of_mem_erase hmem
    · cases List.mem_singleton.mp hl
      rw [if_neg fun h => hread h.1]
      exact (hlast hdisc).1
  · by_cases hm : s.m_bufferId = kInvalidId
    · rw [if_neg fun h => h.2 hm, hnone hm, and_iff_left fun h => absurd hm h]
    · obtain ⟨hmem, rfl⟩ := hlast hm
      by_cases hread : flags &&& D3DLOCK_READONLY = 0
      · rw [if_pos ⟨hread, hm⟩, and_iff_left fun _ => hread]
      · rw [if_neg fun h => hread h.1]
        refine iff_of_false (fun hempty => ?_) fun h => hread (h.2 hm)
        exact Finset.notMem_empty _ (hempty ▸ hmem)

theorem Account.push_unshared (h : Account s held doomed) (hs : s.m_bUseSharedHeap = false)
    (hlive : s.destroyed = false) (flags : Word) :
    Account (s.push ⟨flags, kInvalidId, kInvalidId⟩) held doomed where
  calls := h.calls
  pending := by
    have hp := h.pending
    have hl : unlockCalls false ⟨flags, kInvalidId, kInvalidId⟩ = [] := by
      rw [unlockCalls]
      split <;> rfl
    rw [Object.pending, if_neg (by simp [hlive]), hs] at hp
    rw [Object.pending, if_neg (by simp [Object.push, hlive])]
    simpa only [Object.push, hs, queueCalls_push, hl, List.append_nil] using hp
  readOnly := by
    intro l hl hread hdisc
    rcases List.mem_append.mp hl with hl | hl
    · exact h.readOnly l hl hread hdisc
    · rw [List.mem_singleton.mp hl] at hdisc
      exact absurd rfl hdisc
  unshared := by
    intro hf
    obtain ⟨hid, hls⟩ := h.unshared hf
    refine ⟨hid, fun l hl => ?_⟩
    rcases List.mem_append.mp hl with hl | hl
    · exact hls l hl
    · rw [List.mem_singleton.mp hl]

theorem Account.unlock (h : Account s held doomed) (hlive : s.destroyed = false) (k : Kind) :
    ∃ held', Account (act k s .unlock) held' doomed := by
  cases hq : s.m_lockInfos with
  | nil =>
      rw [unlock_nothing k hq]
      exact ⟨held, h⟩
  | cons l ls =>
      have hfirst : l ∈ s.m_lockInfos := hq ▸ List.mem_cons_self
      have hrest : ∀ l' ∈ ls, l' ∈ s.m_lockInfos := fun l' hl' => hq ▸ List.mem_cons_of_mem l hl'
      rw [unlock_alike k hq fun hs => (h.unshared hs).2 l hfirst]
      have hp := h.pending
      rw [Object.pending, if_neg (by simp [hlive]), hq, queueCalls, List.flatMap_cons,
        List.append_assoc] at hp
      obtain ⟨held', hl, hp⟩ := run_append.mp hp
      refine ⟨held', run_append.mpr ⟨held, h.calls, hl⟩, ?_, ?_, ?_⟩
      · rw [Object.pending, if_neg (by simp [hlive])]
        exact hp
      · exact fun l' hl' => h.readOnly l' (hrest l' hl')
      · intro hs
        obtain ⟨hid, hls⟩ := h.unshared hs
        exact ⟨hid, fun l' hl' => hls l' (hrest l' hl')⟩

/-! ### The end of an object -/

theorem destroy_calls (s : Object) : (destroy s).calls =
    s.calls ++ destroyCalls s.m_bUseSharedHeap s.m_bufferId := by
  cases hs : s.m_bUseSharedHeap <;> by_cases hid : s.m_bufferId = kInvalidId <;>
    simp [destroy, destroyCalls, Object.deallocate, hs, hid]

theorem destroy_lockInfos (s : Object) : (destroy s).m_lockInfos = s.m_lockInfos := by
  cases hs : s.m_bUseSharedHeap <;> by_cases hid : s.m_bufferId = kInvalidId <;>
    simp [destroy, Object.deallocate, hs, hid]

theorem destroy_shared (s : Object) : (destroy s).m_bUseSharedHeap = s.m_bUseSharedHeap := by
  cases hs : s.m_bUseSharedHeap <;> by_cases hid : s.m_bufferId = kInvalidId <;>
    simp [destroy, Object.deallocate, hs, hid]

theorem destroy_bufferId (s : Object) : (destroy s).m_bufferId = s.m_bufferId := by
  cases hs : s.m_bUseSharedHeap <;> by_cases hid : s.m_bufferId = kInvalidId <;>
    simp [destroy, Object.deallocate, hs, hid]

/-- The queued locks hold no replaced id. -/
def Object.NoneReplaced (s : Object) : Prop :=
  ∀ l ∈ s.m_lockInfos, l.discardedBufferId = kInvalidId

theorem Account.kept (h : Account s held doomed) (hsub : doomed ⊆ held')
    (hcalls : run call held (destroyCalls s.m_bUseSharedHeap s.m_bufferId) = some held') :
    Account (destroy s) held' held' where
  calls := by
    rw [destroy_calls]
    exact run_append.mpr ⟨held, h.calls, hcalls⟩
  pending := rfl
  readOnly := by
    intro l hl hread hdisc
    rw [destroy_lockInfos] at hl
    exact hsub (h.readOnly l hl hread hdisc)
  unshared := by
    intro hs
    rw [destroy_shared] at hs
    rw [destroy_bufferId, destroy_lockInfos]
    exact h.unshared hs

/-- A queue without replaced ids leaves what is held. -/
theorem Object.NoneReplaced.last_eq {last : Finset AllocId} (hnone : s.NoneReplaced)
    (hq : run call held (queueCalls shared s.m_lockInfos) = some last) : last = held := by
  refine (spends_queueCalls _).eq_of_no_deallocate (fun i hi => ?_) hq
  obtain ⟨l, hl, hi⟩ := List.mem_flatMap.mp hi
  rw [unlockCalls, hnone l hl] at hi
  split at hi <;> simp at hi

/-- A replaced id in the queue is doomed, or it is held and deallocated with the queue. -/
theorem Account.replaced {last : Finset AllocId} (h : Account s held doomed)
    (hq : run call held (queueCalls true s.m_lockInfos) = some last) {l : LockInfo}
    (hl : l ∈ s.m_lockInfos) (hdisc : l.discardedBufferId ≠ kInvalidId) :
    l.discardedBufferId ∈ doomed ∨ l.discardedBufferId ∈ held ∧ l.discardedBufferId ∉ last := by
  by_cases hread : l.isReadOnly
  · exact .inl (h.readOnly l hl hread hdisc)
  · refine .inr ((spends_queueCalls _).deallocated (List.mem_flatMap.mpr ⟨l, hl, ?_⟩) hq)
    rw [unlockCalls, if_neg hread, if_neg hdisc]
    exact List.mem_append_right _ List.mem_cons_self

theorem Account.destroy (h : Account s held doomed) (hlive : s.destroyed = false) :
    ∃ held', Account (destroy s) held' held' ∧ (held' = ∅ ↔ doomed = ∅ ∧ s.NoneReplaced) := by
  cases hs : s.m_bUseSharedHeap with
  | false =>
      obtain ⟨-, hnone : s.NoneReplaced⟩ := h.unshared hs
      have hdestroy (m : AllocId) : destroyCalls false m = [] :=
        if_neg fun h => Bool.noConfusion h.1
      have hp := h.pending
      rw [Object.pending, if_neg (by simp [hlive]), hs, hdestroy, List.append_nil] at hp
      obtain rfl := hnone.last_eq hp
      refine ⟨doomed, h.kept (Finset.Subset.refl doomed) ?_, (and_iff_left hnone).symm⟩
      rw [hs, hdestroy]
      rfl
  | true =>
      obtain ⟨last, hq, hsub, hinvalid, hvalid⟩ := h.unlocked hs hlive
      by_cases hid : s.m_bufferId = kInvalidId
      · -- Nothing is left to deallocate, so that all that is held must be in the queue.
        obtain rfl := hinvalid hid
        refine ⟨held, h.kept hsub ?_, fun hempty => ?_, fun hempty => ?_⟩
        · rw [destroyCalls, if_neg fun h => h.2 hid]
          rfl
        · rw [hempty] at hsub
          refine ⟨Finset.subset_empty.mp hsub, fun l hl => ?_⟩
          by_contra hdisc
          rcases h.replaced hq hl hdisc with hmem | hmem
          · exact Finset.notMem_empty _ (hsub hmem)
          · exact Finset.notMem_empty _ (hempty ▸ hmem.1)
        · exact hempty.2.last_eq hq ▸ hempty.1
      · obtain ⟨hmem, rfl⟩ := hvalid hid
        have hsub' : last.erase s.m_bufferId ⊆ held.erase s.m_bufferId :=
          Finset.erase_subset_erase _ hsub
        refine ⟨held.erase s.m_bufferId, h.kept hsub' ?_, fun hempty => ?_, fun hempty => ?_⟩
        · rw [destroyCalls, if_pos ⟨hs, hid⟩]
          exact run_cons.mpr ⟨_, call_deallocate.mpr ⟨hsub hmem, rfl⟩, rfl⟩
        · rw [hempty] at hsub'
          refine ⟨Finset.subset_empty.mp hsub', fun l hl => ?_⟩
          by_contra hdisc
          rcases h.replaced hq hl hdisc with hdoomed | ⟨hheld, hlast⟩
          · exact Finset.notMem_empty _ (hsub' hdoomed)
          · have hne : l.discardedBufferId ≠ s.m_bufferId := fun heq => hlast (heq ▸ hmem)
            exact Finset.notMem_empty _ (hempty ▸ Finset.mem_erase.mpr ⟨hne, hheld⟩)
        · rw [← hempty.2.last_eq hq]
          exact hempty.1

/-! ### Runs -/

/-- **The step lemma.**  The account of an object says whether its steps so far have kept to the
condition. -/
theorem account_step {a : Action} {p : Prop}
    (h : ∃ held doomed, Account s held doomed ∧ (doomed = ∅ ↔ p)) (hstep : step k s a = some s') :
    ∃ held doomed, Account s' held doomed ∧ (doomed = ∅ ↔ p ∧ Keeps s a) := by
  obtain ⟨held, doomed, h, hp⟩ := h
  obtain ⟨⟨hlive, hanswer⟩, rfl⟩ : (s.destroyed = false ∧ Answers s a) ∧ act k s a = s' := by
    simpa [step] using hstep
  cases a with
  | lock flags answer =>
      rw [lock_alike]
      cases hs : s.m_bUseSharedHeap with
      | false =>
          obtain ⟨hid, -⟩ := h.unshared hs
          have hkeeps : Keeps s (.lock flags answer) := fun _ hne => absurd hid hne
          exact ⟨held, doomed, h.push_unshared hs hlive flags, by rw [hp, and_iff_left hkeeps]⟩
      | true =>
          rw [if_pos rfl, Object.lock]
          by_cases halloc : discards flags ∨ s.m_bufferId = kInvalidId
          · rw [if_pos halloc]
            by_cases hfail : answer = kInvalidId
            · obtain ⟨doomed', h', hiff⟩ := h.failed hs hlive
              rw [if_pos hfail]
              refine ⟨held, doomed', h', hiff.trans (and_congr hp ?_)⟩
              constructor
              · exact fun hid _ hne => absurd hid hne
              · intro hkeeps
                by_contra hne
                exact (hkeeps (halloc.resolve_right hne) hne).2 hfail
            · obtain ⟨held', doomed', h', hiff⟩ :=
                h.fresh hs hlive flags hfail (hanswer.resolve_left hfail)
              rw [if_neg hfail]
              refine ⟨held', doomed', h', hiff.trans (and_congr hp ?_)⟩
              constructor
              · exact fun hread _ hne => ⟨hread hne, hfail⟩
              · exact fun hkeeps hne => (hkeeps (halloc.resolve_right hne) hne).1
          · obtain ⟨hdisc, hid⟩ := not_or.mp halloc
            have hkeeps : Keeps s (.lock flags answer) := fun hd _ => absurd hd hdisc
            rw [if_neg halloc]
            exact ⟨held, doomed, h.reuse hs hlive hid flags, by rw [hp, and_iff_left hkeeps]⟩
  | unlock =>
      obtain ⟨held', h'⟩ := h.unlock hlive k
      have hkeeps : Keeps s .unlock := trivial
      exact ⟨held', doomed, h', by rw [hp, and_iff_left hkeeps]⟩
  | destroy =>
      obtain ⟨held', h', hiff⟩ := h.destroy hlive
      exact ⟨held', held', h', hiff.trans (and_congr hp Iff.rfl)⟩

theorem account_run {as : List Action} (hr : run (step k) (Object.init shared) as = some s) :
    ∃ held doomed, Account s held doomed ∧
      (doomed = ∅ ↔ True ∧ Along (step k) Keeps (Object.init shared) as) :=
  run_inv_iff (J := fun s p => ∃ held doomed, Account s held doomed ∧ (doomed = ∅ ↔ p))
    (fun _ _ _ _ => account_step) ⟨∅, ∅, account_init shared, by simp⟩ hr

/-- **No use after deallocation.**  An id that is used after it is deallocated has been allocated
again in between. -/
theorem accessed_while_allocated {as : List Action} {before between after : List (Call AllocId)}
    {id : AllocId} (hr : run (step k) (Object.init shared) as = some s)
    (hcalls : s.calls = before ++ .deallocate id :: between ++ .access id :: after) :
    Call.allocate id ∈ between := by
  obtain ⟨held, doomed, h, hdoomed⟩ := account_run hr
  have hall := h.calls
  have happend : s.calls =
      before ++ ((.deallocate id :: between ++ [.access id]) ++ after) := by
    simp [hcalls]
  rw [happend] at hall
  obtain ⟨mid, -, hrest⟩ := run_append.mp hall
  obtain ⟨last, huse, -⟩ := run_append.mp hrest
  exact accessed_again huse

/-- **Ownership.**  When an object is destroyed, it has deallocated each id as often as it was given
it, and used none that it did not have, if and only if every lock that replaced an id was neither
read only nor without a new one, and was unlocked before the end. -/
theorem all_deallocated_iff (k : Kind) (m_bUseSharedHeap : Bool) (as : List Action)
    (hr : run (step k) (Object.init m_bUseSharedHeap) as = some s) (hdestroyed : s.destroyed) :
    Settled s.calls ↔ Along (step k) Keeps (Object.init m_bUseSharedHeap) as := by
  obtain ⟨held, doomed, h, hiff⟩ := account_run hr
  have hp := h.pending
  rw [Object.pending, if_pos hdestroyed] at hp
  cases hp
  rw [settled_iff, h.calls, Option.some_inj, hiff, true_and]

instance (s : Object) : (a : Action) → Decidable (Keeps s a)
  | .lock _ _ => inferInstanceAs (Decidable (_ → _ → _ ∧ _))
  | .unlock => inferInstanceAs (Decidable True)
  | .destroy => inferInstanceAs (Decidable (∀ l ∈ s.m_lockInfos, _))

/-- A surface whose first lock finds no room.  Its next three locks are held at once and the last
two of them discard, then comes one that only reads. -/
def discarding : List Action :=
  [.lock 0 kInvalidId, .lock 0 5, .lock D3DLOCK_DISCARD 6, .lock D3DLOCK_DISCARD 7, .unlock,
    .unlock, .lock D3DLOCK_READONLY kInvalidId, .unlock, .unlock, .destroy]

theorem all_deallocated_iff_discarding :
    ∃ s, run (step .Direct3DSurface9) (Object.init true) discarding = some s ∧
      s.calls = [.allocate 5, .access 5, .allocate 6, .access 6, .allocate 7, .access 7, .access 5,
        .access 6, .deallocate 5, .access 7, .access 7, .deallocate 6, .deallocate 7] ∧
      Settled s.calls := by
  have hr : run (step .Direct3DSurface9) (Object.init true) discarding = some _ := rfl
  exact ⟨_, hr, rfl, (all_deallocated_iff .Direct3DSurface9 true _ hr rfl).mpr (by decide)⟩

/-- A read only lock with `D3DLOCK_DISCARD` after another lock: the first id is not deallocated. -/
theorem read_only_discard_leaks :
    ∃ s, run (step .LockableBuffer) (Object.init true)
        [.lock 0 5, .unlock, .lock (D3DLOCK_DISCARD ||| D3DLOCK_READONLY) 6, .unlock, .destroy] =
          some s ∧ s.destroyed = true ∧ ¬ Settled s.calls := by
  refine ⟨⟨true, 6, [], true, [.allocate 5, .access 5, .access 5, .allocate 6, .access 6,
    .deallocate 6]⟩, rfl, rfl, ?_⟩
  decide

end RemixBridge.Ownership
