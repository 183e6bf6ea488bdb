import RemixBridge.Calls.Message

/-!
# Calls — RemixCall

The commands of the Remix API: a structure goes as its type and its serialized bytes, and its
extensions follow one by one, each behind a true `Bool`, the list of them ended by a false one.
Extensions of other types than the function knows are skipped by the client.

* `reads`: the server's loop ends after as many turns as the client sent extensions, and every
  call comes over.
-/

namespace RemixBridge

open DataRing

/-- `remixapi_StructType`. -/
abbrev SType := Nat

def REMIXAPI_STRUCT_TYPE_MATERIAL_INFO : SType := 2

def REMIXAPI_STRUCT_TYPE_LIGHT_INFO : SType := 6

def REMIXAPI_STRUCT_TYPE_MESH_INFO : SType := 12

def REMIXAPI_STRUCT_TYPE_INSTANCE_INFO : SType := 13

/-- Portal, translucent, opaque and opaque subsurface. -/
def materialExts : List SType := [3, 4, 5, 18]

/-- Bone transforms, blend and object picking. -/
def instanceExts : List SType := [14, 15, 19]

/-- Distant, cylinder, disk, rect, sphere, dome and USD. -/
def lightExts : List SType := [7, 8, 9, 10, 11, 20, 21]

/-- A serialized extension of one of the types that a function knows. -/
@[ext]
structure Ext (known : List SType) where
  sType : SType
  mem_known : sType ∈ known
  data : List Byte

/-- A C string, without its final 0. -/
@[ext]
structure CString where
  bytes : List Byte
  zero_notMem : 0 ∉ bytes

/-- `std::string(p, size).c_str()`. -/
def CString.ofBytes (bytes : List Byte) : CString where
  bytes := bytes.takeWhile (· ≠ 0)
  zero_notMem h := by simpa using List.all_eq_true.mp List.all_takeWhile 0 h

/-- The calls, with what each is called with. -/
inductive RemixCall where
  | CreateMaterial (info : List Byte) (exts : List (Ext materialExts)) (handle : Word)
  | DestroyMaterial (handle : Word)
  | CreateMesh (info : List Byte) (handle : Word)
  | DestroyMesh (handle : Word)
  | DrawInstance (info : List Byte) (exts : List (Ext instanceExts))
  | CreateLight (info : List Byte) (exts : List (Ext lightExts)) (handle : Word)
  | DestroyLight (handle : Word)
  | DrawLightInstance (handle : Word)
  | SetConfigVariable (var value : CString)

/-- `serializeAndSend`. -/
def serializeAndSend (sType : SType) (data : List Byte) : List Push :=
  [.word (.ofNat 32 sType), .obj data]

/-- The extensions, each behind `Bool::True`, and `Bool::False`. -/
def sendExts {known : List SType} : List (Ext known) → List Push
  | []        => [.word 0]
  | x :: exts => .word 0xff :: serializeAndSend x.sType x.data ++ sendExts exts

/-- What the client sends for a call. -/
def RemixCall.message : RemixCall → Message
  | .CreateMaterial info exts handle =>
      ⟨.RemixApi_CreateMaterial,
        serializeAndSend REMIXAPI_STRUCT_TYPE_MATERIAL_INFO info ++ sendExts exts ++
          [.word handle], 0⟩
  | .DestroyMaterial handle => ⟨.RemixApi_DestroyMaterial, [.word handle], 0⟩
  | .CreateMesh info handle =>
      ⟨.RemixApi_CreateMesh,
        serializeAndSend REMIXAPI_STRUCT_TYPE_MESH_INFO info ++ [Push.word handle], 0⟩
  | .DestroyMesh handle => ⟨.RemixApi_DestroyMesh, [.word handle], 0⟩
  | .DrawInstance info exts =>
      ⟨.RemixApi_DrawInstance,
        serializeAndSend REMIXAPI_STRUCT_TYPE_INSTANCE_INFO info ++ sendExts exts, 0⟩
  | .CreateLight info exts handle =>
      ⟨.RemixApi_CreateLight,
        serializeAndSend REMIXAPI_STRUCT_TYPE_LIGHT_INFO info ++ sendExts exts ++
          [.word handle], 0⟩
  | .DestroyLight handle => ⟨.RemixApi_DestroyLight, [.word handle], 0⟩
  | .DrawLightInstance handle => ⟨.RemixApi_DrawLightInstance, [.word handle], 0⟩
  | .SetConfigVariable var value =>
      ⟨.RemixApi_SetConfigVariable, [.obj (var.bytes ++ [0]), .obj (value.bytes ++ [0])], 0⟩

variable {m_size : Nat}

/-- `pullSType` and `deserializeFromQueue`.  The type is only asserted. -/
def pullInfo : PullM m_size (List Byte) := do
  let _sType ← getData
  getBytes

/-- `pullBool`. -/
def pullBool : PullM m_size Bool := do
  let boolVal ← getData
  return boolVal &&& 0x00ff != 0

/-- The loop over the extensions; `none` if it has not ended after `fuel` turns. -/
def pullExts (known : List SType) : Nat → PullM m_size (Option (List (Ext known)))
  | 0        => return none
  | fuel + 1 => do
      let bExtExists ← pullBool
      if bExtExists then
        let extSType ← getData
        if h : extSType.toNat ∈ known then
          let data ← getBytes
          let exts ← pullExts known fuel
          return exts.map (⟨extSType.toNat, h, data⟩ :: ·)
        else
          pullExts known fuel
      else
        return some []

/-- What the server pulls for a command, and the call it makes; `none` while it is in its loop. -/
def RemixCall.process (fuel : Nat) : D3D9Command → Option (PullM m_size (Option RemixCall))
  | .RemixApi_CreateMaterial => some do
      let matInfo ← pullInfo
      let exts ← pullExts materialExts fuel
      let bridgeHandle ← getData
      return exts.map fun exts => .CreateMaterial matInfo exts bridgeHandle
  | .RemixApi_DestroyMaterial => some do
      let handle ← getData
      return some (.DestroyMaterial handle)
  | .RemixApi_CreateMesh => some do
      let meshInfo ← pullInfo
      let bridgeHandle ← getData
      return some (.CreateMesh meshInfo bridgeHandle)
  | .RemixApi_DestroyMesh => some do
      let handle ← getData
      return some (.DestroyMesh handle)
  | .RemixApi_DrawInstance => some do
      let instInfo ← pullInfo
      let exts ← pullExts instanceExts fuel
      return exts.map fun exts => .DrawInstance instInfo exts
  | .RemixApi_CreateLight => some do
      let lightInfo ← pullInfo
      let exts ← pullExts lightExts fuel
      let bridgeHandle ← getData
      return exts.map fun exts => .CreateLight lightInfo exts bridgeHandle
  | .RemixApi_DestroyLight => some do
      let handle ← getData
      return some (.DestroyLight handle)
  | .RemixApi_DrawLightInstance => some do
      let handle ← getData
      return some (.DrawLightInstance handle)
  | .RemixApi_SetConfigVariable => some do
      let var_str ← getBytes
      let value_str ← getBytes
      return some (.SetConfigVariable (.ofBytes var_str) (.ofBytes value_str))
  | _ => none

def RemixCall.switch (fuel : Nat) : Switch (Option RemixCall) := fun _ command _ =>
  process fuel command

/-! ### The loop over the extensions -/

def RemixCall.extCount : RemixCall → Nat
  | .CreateMaterial _ exts _ => exts.length
  | .DrawInstance _ exts     => exts.length
  | .CreateLight _ exts _    => exts.length
  | _                        => 0

variable {mem : Memory} {e : Nat}

theorem reads_pullInfo (sType : SType) (info : List Byte) :
    Reads mem e (pullInfo : PullM m_size _) (dataOf (serializeAndSend sType info)) info :=
  .word <| .bytes (f := pure) <| .pure _

theorem CString.ofBytes_append_zero (s : CString) : ofBytes (s.bytes ++ [0]) = s := by
  refine CString.ext ?_
  have hall : ∀ b ∈ s.bytes, decide (b ≠ 0) = true := fun b hb =>
    decide_eq_true fun h0 => s.zero_notMem (h0 ▸ hb)
  show (s.bytes ++ [0]).takeWhile (· ≠ 0) = s.bytes
  rw [List.takeWhile_append_of_pos hall]
  exact List.append_nil _

theorem reads_pullBool (b : Bool) (w : Word) (hw : (w &&& 0x00ff != 0) = b) :
    Reads mem e (pullBool : PullM m_size _) [.word w] b :=
  hw ▸ .word (f := fun boolVal => pure (boolVal &&& 0x00ff != 0)) (.pure _)

/-- As many turns as there are extensions, and one for the end. -/
theorem reads_pullExts {known : List SType} (hknown : ∀ t ∈ known, t < 2 ^ 32)
    (exts : List (Ext known)) {fuel : Nat} (hfuel : exts.length < fuel) :
    Reads mem e (pullExts known fuel : PullM m_size _) (dataOf (sendExts exts)) (some exts) := by
  induction exts generalizing fuel e with
  | nil =>
      obtain ⟨fuel, rfl⟩ := Nat.exists_eq_succ_of_ne_zero (Nat.ne_zero_of_lt hfuel)
      exact .bind (fun _ => reads_pullBool false 0 rfl) <| .ite_neg Bool.false_ne_true <| .pure _
  | cons x exts ih =>
      obtain ⟨fuel, rfl⟩ := Nat.exists_eq_succ_of_ne_zero (Nat.ne_zero_of_lt hfuel)
      have htype : (BitVec.ofNat 32 x.sType).toNat = x.sType := by
        rw [BitVec.toNat_ofNat, Nat.mod_eq_of_lt (hknown _ x.mem_known)]
      have hmem : (BitVec.ofNat 32 x.sType).toNat ∈ known := htype.symm ▸ x.mem_known
      have hx : (⟨_, hmem, x.data⟩ : Ext known) = x := Ext.ext htype rfl
      have hexts : some (x :: exts) = (some exts).map ((⟨_, hmem, x.data⟩ : Ext known) :: ·) := by
        rw [hx]
        rfl
      rw [hexts]
      refine .bind (fun _ => reads_pullBool true 0xff rfl) <| .ite_pos rfl <| .word ?_
      rw [dif_pos hmem]
      exact .bytes <| (ih (Nat.lt_of_succ_lt_succ hfuel)).map fun exts =>
        exts.map ((⟨_, hmem, x.data⟩ : Ext known) :: ·)

namespace RemixCall

theorem reads (fuel : Nat) (c : RemixCall) (hfuel : c.extCount < fuel) :
    ∃ p : PullM m_size (Option RemixCall), process fuel c.message.command = some p ∧
      Reads mem e p (dataOf c.message.data) (some c) := by
  cases c with
  | CreateMaterial info exts handle =>
      refine ⟨_, rfl, ?_⟩
      rw [message, dataOf_append, dataOf_append, List.append_assoc]
      exact .bind (fun _ => reads_pullInfo _ info) <|
        .bind (fun _ => reads_pullExts (by decide) exts hfuel) <| .word <| .pure _
  | DestroyMaterial handle => exact ⟨_, rfl, .word <| .pure _⟩
  | CreateMesh info handle =>
      refine ⟨_, rfl, ?_⟩
      rw [message, dataOf_append]
      exact .bind (fun _ => reads_pullInfo _ info) <| .word <| .pure _
  | DestroyMesh handle => exact ⟨_, rfl, .word <| .pure _⟩
  | DrawInstance info exts =>
      refine ⟨_, rfl, ?_⟩
      rw [message, dataOf_append]
      exact .bind (fun _ => reads_pullInfo _ info) <|
        (reads_pullExts (by decide) exts hfuel).map fun exts => exts.map (DrawInstance info)
  | CreateLight info exts handle =>
      refine ⟨_, rfl, ?_⟩
      rw [message, dataOf_append, dataOf_append, List.append_assoc]
      exact .bind (fun _ => reads_pullInfo _ info) <|
        .bind (fun _ => reads_pullExts (by decide) exts hfuel) <| .word <| .pure _
  | DestroyLight handle => exact ⟨_, rfl, .word <| .pure _⟩
  | DrawLightInstance handle => exact ⟨_, rfl, .word <| .pure _⟩
  | SetConfigVariable var value =>
      refine ⟨_, rfl, ?_⟩
      have hcall : some (SetConfigVariable (.ofBytes (var.bytes ++ [0]))
          (.ofBytes (value.bytes ++ [0]))) = some (SetConfigVariable var value) := by
        rw [CString.ofBytes_append_zero, CString.ofBytes_append_zero]
      refine hcall ▸ ?_
      exact .bytes <| .bytes <| .pure _

/-- Every call comes over, in a loop of one turn more than there are extensions. -/
theorem delivers (fuel : Nat) (c : RemixCall) (hfuel : c.extCount < fuel) :
    Delivers (switch fuel) c.message (some c) :=
  Delivers.of_reads fun _ _ _ => c.reads fuel hfuel

end RemixCall

end RemixBridge
