import RemixBridge.Calls.RemixCall
import RemixBridge.Support.Cursor

/-!
# Remix — ExtensionWalk

The loops over the `pNext` chain on the client (`remix_api.cpp`), by their cursor `infoItr`.

* `walk_eq`: the loops of `CreateMaterial`, `DrawInstance` and `CreateLight` visit the chain.
* `walks_end_iff`: which loops end.
* `createMesh_does_not_end`: the loop of `CreateMesh` does not move its cursor.
-/

namespace RemixBridge.Remix
open Cursor

variable {Ptr : Type}

/-- What the pointers of a chain lead to. -/
structure Extensions (Ptr : Type) where
  getPNext : Ptr → Option Ptr
  getSType : Ptr → SType

/-- What a turn does with an extension: it is sent, or skipped with a warning. -/
inductive Turn (Ptr : Type) where
  | serializeAndSend (ext : Ptr) (sType : SType)
  | skip (ext : Ptr)

/-- The `switch` over the type of an extension. -/
def switchOn (cases : List SType) (mem : Extensions Ptr) (pNext : Ptr) : Turn Ptr :=
  if mem.getSType pNext ∈ cases then .serializeAndSend pNext (mem.getSType pNext) else .skip pNext

/-- The loop, with the cases of its `switch` and what it leaves in `infoItr`; `none` if it has not
ended after `fuel` turns. -/
def chainLoop (cases : List SType) (infoItr : Ptr → Ptr → Ptr) (mem : Extensions Ptr) (fuel : Nat)
    (info : Ptr) : Option (List (Turn Ptr)) :=
  (walk mem.getPNext infoItr fuel info).map (·.map (switchOn cases mem))

def remixapi_CreateMaterial : Extensions Ptr → Nat → Ptr → Option (List (Turn Ptr)) :=
  chainLoop materialExts fun _ pNext => pNext

/-- The `switch` has no cases, and no line of the loop moves `infoItr`. -/
def remixapi_CreateMesh : Extensions Ptr → Nat → Ptr → Option (List (Turn Ptr)) :=
  chainLoop [] fun infoItr _ => infoItr

def remixapi_DrawInstance : Extensions Ptr → Nat → Ptr → Option (List (Turn Ptr)) :=
  chainLoop instanceExts fun _ pNext => pNext

def remixapi_CreateLight : Extensions Ptr → Nat → Ptr → Option (List (Turn Ptr)) :=
  chainLoop lightExts fun _ pNext => pNext

/-- The functions that walk a chain. -/
inductive ChainFunction where
  | CreateMaterial
  | CreateMesh
  | DrawInstance
  | CreateLight
  deriving DecidableEq, Repr

namespace ChainFunction

def walk : ChainFunction → Extensions Ptr → Nat → Ptr → Option (List (Turn Ptr))
  | CreateMaterial => remixapi_CreateMaterial
  | CreateMesh     => remixapi_CreateMesh
  | DrawInstance   => remixapi_DrawInstance
  | CreateLight    => remixapi_CreateLight

def cases : ChainFunction → List SType
  | CreateMaterial => materialExts
  | CreateMesh     => []
  | DrawInstance   => instanceExts
  | CreateLight    => lightExts

/-- The loop ends, and has had one turn for each extension, in order. -/
def Ends (fn : ChainFunction) (mem : Extensions Ptr) (info : Ptr) (chain : List Ptr) : Prop :=
  ∃ fuel, fn.walk mem fuel info = some (chain.map (switchOn fn.cases mem))

variable {fn : ChainFunction} {mem : Extensions Ptr} {info : Ptr} {chain : List Ptr}

theorem walk_eq (hfn : fn ≠ CreateMesh) (h : Chain mem.getPNext info chain) {fuel : Nat}
    (hfuel : chain.length < fuel) :
    fn.walk mem fuel info = some (chain.map (switchOn fn.cases mem)) := by
  have hwalk : Cursor.walk mem.getPNext (fun _ p => p) fuel info = some chain :=
    walk_advancing (fun _ _ => rfl) h hfuel
  cases fn with
  | CreateMesh => exact absurd rfl hfn
  | CreateMaterial | DrawInstance | CreateLight =>
      exact congrArg (Option.map (List.map (switchOn _ mem))) hwalk

theorem createMesh_does_not_end (hnext : mem.getPNext info ≠ none) (fuel : Nat) :
    remixapi_CreateMesh mem fuel info = none := by
  have hwalk : Cursor.walk mem.getPNext (fun a _ => a) fuel info = none :=
    walk_standing (fun _ _ => rfl) hnext fuel
  exact congrArg (Option.map (List.map (switchOn [] mem))) hwalk

end ChainFunction

/-- **Chain walks.**  Over a finite chain, a loop visits each extension once and ends if and only
if it is not that of `CreateMesh`, or the chain is empty. -/
theorem walks_end_iff (fn : ChainFunction) (mem : Extensions Ptr) {info : Ptr} {chain : List Ptr}
    (h : Chain mem.getPNext info chain) :
    (fn.Ends mem info chain ∧ chain.Nodup) ↔ fn ≠ .CreateMesh ∨ chain = [] := by
  constructor
  · rintro ⟨⟨fuel, hends⟩, -⟩
    by_contra hno
    obtain ⟨hmesh, hchain⟩ := not_or.mp hno
    obtain rfl := not_not.mp hmesh
    have hnext : mem.getPNext info ≠ none := by
      cases h with
      | nil => exact absurd rfl hchain
      | cons hb => rw [hb]; exact Option.some_ne_none _
    rw [ChainFunction.walk, ChainFunction.createMesh_does_not_end hnext] at hends
    cases hends
  · intro hcond
    refine ⟨?_, h.nodup⟩
    by_cases hfn : fn = .CreateMesh
    · obtain rfl : chain = [] := hcond.resolve_left (not_not.mpr hfn)
      subst hfn
      cases h with
      | nil hn =>
          refine ⟨1, ?_⟩
          simp only [ChainFunction.walk, remixapi_CreateMesh, chainLoop, Cursor.walk, hn]
          rfl
    · exact ⟨chain.length + 1, ChainFunction.walk_eq hfn h (Nat.lt_succ_self _)⟩

/-- Four extensions after the structure at 4: of a material, of no function, of an instance and of a
light. -/
def fourExtensions : Extensions Nat where
  getPNext info := if info = 0 then none else some (info - 1)
  getSType ext  := [20, 15, 0, 4].getD ext 0

theorem chain_fourExtensions : Chain fourExtensions.getPNext 4 [3, 2, 1, 0] :=
  .cons rfl (.cons rfl (.cons rfl (.cons rfl (.nil rfl))))

/-- Every function but `CreateMesh` comes to their end. -/
theorem walks_end_iff_four :
    (∀ fn : ChainFunction, fn ≠ .CreateMesh → fn.Ends fourExtensions 4 [3, 2, 1, 0]) ∧
    ¬ ChainFunction.CreateMesh.Ends fourExtensions 4 [3, 2, 1, 0] := by
  have hiff := fun fn => walks_end_iff fn fourExtensions chain_fourExtensions
  refine ⟨fun fn hfn => ((hiff fn).mpr (.inl hfn)).1, fun hends => ?_⟩
  have hcond := (hiff .CreateMesh).mp ⟨hends, chain_fourExtensions.nodup⟩
  exact absurd hcond (by decide)

/-- One extension, at `false`, of a type that no function knows. -/
def oneExtension : Extensions Bool where
  getPNext info := if info then some false else none
  getSType _ := 0

theorem chain_oneExtension : Chain oneExtension.getPNext true [false] :=
  .cons rfl (.nil rfl)

/-- **`CreateMesh` does not end.** -/
theorem mesh_walk_does_not_end : ¬ ∀ (Ptr : Type) (fn : ChainFunction) (mem : Extensions Ptr)
    (info : Ptr) (chain : List Ptr), Chain mem.getPNext info chain →
      fn.Ends mem info chain ∧ chain.Nodup := by
  intro hclaim
  have h := hclaim Bool .CreateMesh oneExtension true [false] chain_oneExtension
  have hcond := (walks_end_iff .CreateMesh oneExtension chain_oneExtension).mp h
  exact absurd hcond (by decide)

end RemixBridge.Remix
