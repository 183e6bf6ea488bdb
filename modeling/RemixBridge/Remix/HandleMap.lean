import RemixBridge.Support.Runs
import RemixBridge.Wire.Commands
import Mathlib.Logic.Function.Basic

/-!
# Remix — HandleMap

The handles that the server has for the ids of the client (`remixapi::util::Handle`), and what its
Remix commands do to them.  `CreateMesh` looks the materials of the surfaces up with `operator[]`,
which puts what it does not find into the map.

* `lookupAll_maps`: what a look-up leaves.
* `handles_iff`: the maps have the handles that live, as long as all the materials are known.
-/

namespace RemixBridge.HandleMap

open Runs

/-- A handle of the runtime. -/
abbrev RemixHandle := BitVec 64

/-- The handle types, each with a map of its own. -/
inductive Kind where
  | material | mesh | light
  deriving DecidableEq

/-- The `std::unordered_map`s. -/
abbrev Maps := Kind → Word → Option RemixHandle

/-- The maps with another value, or none, for one key. -/
def Maps.set (maps : Maps) (kind : Kind) (uid : Word) (h : Option RemixHandle) : Maps :=
  Function.update maps kind (Function.update (maps kind) uid h)

/-- `Handle::isValid`. -/
def isValid (maps : Maps) (kind : Kind) (uid : Word) : Bool :=
  uid ≠ 0 && (maps kind uid).isSome

/-- `operator RemixApiHandleT`: `s_handleMap[uid]`. -/
def lookup (maps : Maps) (kind : Kind) (uid : Word) : RemixHandle × Maps :=
  match maps kind uid with
  | some h => (h, maps)
  | none => (0, maps.set kind uid (some 0))

/-- What the runtime is called with. -/
inductive RuntimeCall where
  | create (kind : Kind) (materials : List RemixHandle)
  | destroy (kind : Kind) (h : RemixHandle)
  | draw (kind : Kind) (h : RemixHandle)
  deriving DecidableEq

/-- The Remix commands that have to do with handles; `result` is the handle that the runtime returns
for a creation, or none if the creation fails. -/
inductive Command where
  | CreateMaterial (uid : Word) (result : Option RemixHandle)
  | DestroyMaterial (uid : Word)
  /-- With the materials of the surfaces. -/
  | CreateMesh (materials : List Word) (uid : Word) (result : Option RemixHandle)
  | DestroyMesh (uid : Word)
  | DrawInstance (mesh : Word)
  | CreateLight (uid : Word) (result : Option RemixHandle)
  | DestroyLight (uid : Word)
  | DrawLightInstance (uid : Word)
  deriving DecidableEq

/-- `live` are the handles that the runtime has returned and that have not been destroyed. -/
structure State where
  maps : Maps
  live : Maps
  calls : List RuntimeCall

def start : State := ⟨fun _ _ => none, fun _ _ => none, []⟩

/-- The handle of a successful creation: `s_handleMap[uid] = remixHandle`. -/
def created (maps : Maps) (kind : Kind) (uid : Word) : Option RemixHandle → Maps
  | some h => maps.set kind uid (some h)
  | none => maps

/-- The `Destroy…` cases. -/
def destroy (kind : Kind) (uid : Word) (s : State) : State :=
  let live := s.live.set kind uid none
  if isValid s.maps kind uid then
    let (h, maps) := lookup s.maps kind uid
    ⟨maps.set kind uid none, live, s.calls ++ [.destroy kind h]⟩
  else { s with live := live }

/-- The surfaces' materials, one after the other. -/
def lookupAll (maps : Maps) : List Word → List RemixHandle × Maps
  | [] => ([], maps)
  | uid :: uids =>
      let (h, maps) := lookup maps .material uid
      let (hs, maps) := lookupAll maps uids
      (h :: hs, maps)

/-- What the server does for a command. -/
def process (s : State) : Command → State
  | .CreateMaterial uid result =>
      ⟨created s.maps .material uid result, created s.live .material uid result,
        s.calls ++ [.create .material []]⟩
  | .DestroyMaterial uid => destroy .material uid s
  | .CreateMesh materials uid result =>
      let (hs, maps) := lookupAll s.maps materials
      ⟨created maps .mesh uid result, created s.live .mesh uid result,
        s.calls ++ [.create .mesh hs]⟩
  | .DestroyMesh uid => destroy .mesh uid s
  | .DrawInstance mesh =>
      if isValid s.maps .mesh mesh then
        let (h, maps) := lookup s.maps .mesh mesh
        { s with maps := maps, calls := s.calls ++ [.draw .mesh h] }
      -- The id itself is left in the structure.
      else { s with calls := s.calls ++ [.draw .mesh (mesh.setWidth 64)] }
  | .CreateLight uid result =>
      ⟨created s.maps .light uid result, created s.live .light uid result,
        s.calls ++ [.create .light []]⟩
  | .DestroyLight uid => destroy .light uid s
  | .DrawLightInstance uid =>
      if isValid s.maps .light uid then
        let (h, maps) := lookup s.maps .light uid
        { s with maps := maps, calls := s.calls ++ [.draw .light h] }
      else s

def step (s : State) (c : Command) : Option State := some (process s c)

/-! ### What a command leaves -/

/-- The ids that the command gives for materials are known, and it does not destroy an object with
the id 0 that no client gives. -/
def Known (s : State) : Command → Prop
  | .CreateMesh materials _ _ => ∀ uid ∈ materials, (s.maps .material uid).isSome
  | .DestroyMaterial uid => uid = 0 → s.maps .material 0 = none
  | .DestroyMesh uid => uid = 0 → s.maps .mesh 0 = none
  | .DestroyLight uid => uid = 0 → s.maps .light 0 = none
  | .CreateMaterial _ _ | .DrawInstance _ | .CreateLight _ _ | .DrawLightInstance _ => True

variable {maps : Maps} {kind : Kind} {uid : Word} {s : State}

@[simp] theorem Maps.set_self (maps : Maps) (kind : Kind) (uid : Word) (h : Option RemixHandle) :
    maps.set kind uid h kind uid = h := by
  unfold Maps.set
  rw [Function.update_self, Function.update_self]

theorem Maps.set_eq_self (h : maps kind uid = none) : maps.set kind uid none = maps := by
  unfold Maps.set
  rw [← h, Function.update_eq_self, Function.update_eq_self]

theorem lookup_of_isSome (h : (maps kind uid).isSome) : (lookup maps kind uid).2 = maps := by
  obtain ⟨v, hv⟩ := Option.isSome_iff_exists.mp h
  unfold lookup
  rw [hv]

theorem isSome_of_isValid (h : isValid maps kind uid = true) : (maps kind uid).isSome :=
  (Bool.and_eq_true_iff.mp h).2

/-- Where there is a key, a look-up leaves it. -/
theorem lookup_mono {kind' : Kind} {uid' : Word} (h : (maps kind' uid').isSome) :
    ((lookup maps kind uid).2 kind' uid').isSome := by
  unfold lookup
  split
  · exact h
  · show (maps.set kind uid (some 0) kind' uid').isSome
    by_cases hk : kind' = kind
    · subst hk
      by_cases hu : uid' = uid
      · rw [hu, Maps.set_self]
        rfl
      · simp only [Maps.set, Function.update_self, Function.update_of_ne hu]
        exact h
    · simp only [Maps.set, Function.update_of_ne hk]
      exact h

theorem lookupAll_mono (maps : Maps) {uids : List Word} {uid : Word} (h : (maps .material uid).isSome) :
    ((lookupAll maps uids).2 .material uid).isSome := by
  induction uids generalizing maps with
  | nil => exact h
  | cons uid' uids ih => exact ih _ (lookup_mono h)

theorem lookup_isSome (maps : Maps) (kind : Kind) (uid : Word) :
    ((lookup maps kind uid).2 kind uid).isSome := by
  unfold lookup
  split
  · rename_i v hv
    exact Option.isSome_of_mem hv
  · show (maps.set kind uid (some 0) kind uid).isSome
    rw [Maps.set_self]
    rfl

/-- The materials are in the map afterwards, whether they were before or not. -/
theorem lookupAll_isSome (maps : Maps) {uids : List Word} {uid : Word} (h : uid ∈ uids) :
    ((lookupAll maps uids).2 .material uid).isSome := by
  induction uids generalizing maps with
  | nil => cases h
  | cons uid' uids ih =>
      rcases List.mem_cons.mp h with rfl | h
      · exact lookupAll_mono (lookup maps .material uid).2 (lookup_isSome maps _ uid)
      · exact ih _ h

/-- A look-up leaves the maps as they are if and only if it finds every id. -/
theorem lookupAll_maps {uids : List Word} :
    (lookupAll maps uids).2 = maps ↔ ∀ uid ∈ uids, (maps .material uid).isSome := by
  constructor
  · intro h uid huid
    have hsome := lookupAll_isSome maps huid
    rwa [h] at hsome
  · intro h
    induction uids with
    | nil => rfl
    | cons uid uids ih =>
        obtain ⟨huid, huids⟩ := List.forall_mem_cons.mp h
        have hfirst := lookup_of_isSome huid
        show (lookupAll (lookup maps .material uid).2 uids).2 = maps
        rw [hfirst]
        exact ih huids

theorem destroy_iff (h : s.maps = s.live) :
    (destroy kind uid s).maps = (destroy kind uid s).live ↔ (uid = 0 → s.maps kind 0 = none) := by
  unfold destroy
  dsimp only
  split
  · rename_i hvalid
    have hne : uid ≠ 0 := by
      simpa using (Bool.and_eq_true_iff.mp hvalid).1
    refine iff_of_true ?_ fun hzero => absurd hzero hne
    show (lookup s.maps kind uid).2.set kind uid none = s.live.set kind uid none
    rw [lookup_of_isSome (isSome_of_isValid hvalid), h]
  · rename_i hnot
    show s.maps = s.live.set kind uid none ↔ _
    rw [← h]
    constructor
    · rintro heq rfl
      rw [heq, Maps.set_self]
    · intro hzero
      refine (Maps.set_eq_self ?_).symm
      by_cases huid : uid = 0
      · rw [huid, hzero huid]
      · have hsome : ¬ (s.maps kind uid).isSome := fun hsome =>
          hnot (Bool.and_eq_true_iff.mpr ⟨decide_eq_true huid, hsome⟩)
        exact Option.not_isSome_iff_eq_none.mp hsome

/-- Creation of a mesh, whether it succeeds or not. -/
theorem createMesh_iff {materials : List Word} {result : Option RemixHandle} (h : s.maps = s.live) :
    (process s (.CreateMesh materials uid result)).maps =
        (process s (.CreateMesh materials uid result)).live ↔
      ∀ uid ∈ materials, (s.maps .material uid).isSome := by
  have hcongr : ∀ maps maps' : Maps, created maps .mesh uid result =
      created maps' .mesh uid result → maps .material = maps' .material := by
    intro maps maps' heq
    have hmaterial := congrFun heq .material
    cases result with
    | none => exact hmaterial
    | some v => exact hmaterial
  show created (lookupAll s.maps materials).2 .mesh uid result = created s.live .mesh uid result ↔ _
  rw [← h]
  constructor
  · intro heq uid' huid'
    have hsome := lookupAll_isSome s.maps huid'
    rwa [hcongr _ _ heq] at hsome
  · intro hall
    rw [lookupAll_maps.mpr hall]

/-- What each command needs to keep the maps in step. -/
theorem process_iff (c : Command) (h : s.maps = s.live) :
    (process s c).maps = (process s c).live ↔ Known s c := by
  cases c with
  | CreateMaterial uid result => exact iff_of_true (congrArg (created · _ uid result) h) trivial
  | CreateLight uid result => exact iff_of_true (congrArg (created · _ uid result) h) trivial
  | DestroyMaterial uid => exact destroy_iff h
  | DestroyMesh uid => exact destroy_iff h
  | DestroyLight uid => exact destroy_iff h
  | CreateMesh materials uid result => exact createMesh_iff h
  | DrawInstance mesh =>
      refine iff_of_true ?_ trivial
      unfold process
      dsimp only
      split
      · rename_i hvalid
        exact (lookup_of_isSome (isSome_of_isValid hvalid)).trans h
      · exact h
  | DrawLightInstance uid =>
      refine iff_of_true ?_ trivial
      unfold process
      dsimp only
      split
      · rename_i hvalid
        exact (lookup_of_isSome (isSome_of_isValid hvalid)).trans h
      · exact h

/-- **The maps have the handles that live, and no others**, behind every command of a sequence, if
and only if every command of it knows the materials it names. -/
theorem handles_iff (cs : List Command) :
    Along step (fun s c => (process s c).maps = (process s c).live) start cs ↔
      Along step Known start cs :=
  along_iff (I := fun s => s.maps = s.live) (fun _ c h => process_iff c h)
    (fun _ c _ h hknown hs => Option.some.inj hs ▸ (process_iff c h).mpr hknown) rfl cs

/-- A mesh with a surface that has no material: the material map has an entry for the id 0. -/
theorem null_material_entered :
    run step start [.CreateMesh [0] 1 (some 77)] =
        some (process start (.CreateMesh [0] 1 (some 77))) ∧
      (process start (.CreateMesh [0] 1 (some 77))).live .material 0 = none ∧
      (process start (.CreateMesh [0] 1 (some 77))).maps .material 0 = some 0 :=
  ⟨rfl, rfl, rfl⟩

end RemixBridge.HandleMap
