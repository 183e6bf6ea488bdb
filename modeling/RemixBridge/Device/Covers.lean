import RemixBridge.Device.Cells

/-!
# Device — Covers

The cells that the flags of a state block cover: those that a transfer takes from its source.

* `cells_copyFlagged`: a transfer, cell by cell.
* `covers_set`: what setting flags adds.
* `copies_set`: when the flags of what is written are set, a transfer writes it as well.
-/

namespace RemixBridge.Device
open Loops

/-- The flag that a cell goes by; a light goes by its key in a map. -/
def Cell.flag : Cell → Option Flag
  | .entry k =>
      match k with
      | .transforms i           => some (.transforms i)
      | .viewport               => some .viewport
      | .material               => some .material
      | .clipPlanes i _         => some (.clipPlanes i)
      | .renderStates i         => some (.renderStates i)
      | .textures i             => some (.textures i)
      | .textureTypes i         => some (.textures i)
      | .textureStageStates i j => some (.textureStageStates i j)
      | .samplerStates i j      => some (.samplerStates i j)
      | .scissorRect            => some .scissorRect
      | .vertexDecl             => some .vertexDecl
      | .vertexShader           => some .vertexShader
      | .vsF i                  => some (.vsF i)
      | .vsI i                  => some (.vsI i)
      | .streams i              => some (.streams i)
      | .streamFreqs i          => some (.streamFreqs i)
      | .streamOffsets i        => some (.streamOffsetsAndStrides i)
      | .streamStrides i        => some (.streamOffsetsAndStrides i)
      | .indices                => some .indices
      | .pixelShader            => some .pixelShader
      | .psF i                  => some (.psF i)
      | .psI i                  => some (.psI i)
      | .renderTargets _ | .depthStencil | .lights _ | .bLightEnables _ | .vsB _ | .psB _ => none
  | .vsB i => some (.vsB i)
  | .psB i => some (.psB i)

/-- The cells of a flag. -/
def Flag.cells : Flag → List Cell
  | .vertexDecl                => [.entry .vertexDecl]
  | .indices                   => [.entry .indices]
  | .renderStates i            => [.entry (.renderStates i)]
  | .samplerStates i j         => [.entry (.samplerStates i j)]
  | .streams i                 => [.entry (.streams i)]
  | .streamOffsetsAndStrides i => [.entry (.streamOffsets i), .entry (.streamStrides i)]
  | .streamFreqs i             => [.entry (.streamFreqs i)]
  | .textures i                => [.entry (.textures i), .entry (.textureTypes i)]
  | .vertexShader              => [.entry .vertexShader]
  | .pixelShader               => [.entry .pixelShader]
  | .material                  => [.entry .material]
  | .transforms i              => [.entry (.transforms i)]
  | .textureStageStates i j    => [.entry (.textureStageStates i j)]
  | .viewport                  => [.entry .viewport]
  | .scissorRect               => [.entry .scissorRect]
  | .clipPlanes i              => (List.finRange 4).map fun j => .entry (.clipPlanes i j)
  | .vsF i                     => [.entry (.vsF i)]
  | .vsI i                     => [.entry (.vsI i)]
  | .vsB i                     => [.vsB i]
  | .psF i                     => [.entry (.psF i)]
  | .psI i                     => [.entry (.psI i)]
  | .psB i                     => [.psB i]

section covers

local instance : LawfulBEq Word := inferInstance

/-- The flags say to take the cell. -/
def StateCaptureDirtyFlags.covers (flags : StateCaptureDirtyFlags) : Cell → Bool
  | .entry (.lights key)        => decide (key ∈ flags.lights.map (·.1))
  | .entry (.bLightEnables key) => decide (key ∈ flags.bLightEnables.map (·.1))
  | c                           => c.flag.any flags.flag

end covers

theorem flag_eq_some_iff (c : Cell) (f : Flag) : c.flag = some f ↔ c ∈ f.cells := by
  cases c with
  | entry k => cases k <;> cases f <;> simp [Cell.flag, Flag.cells, eq_comm]
  | vsB i => cases f <;> simp [Cell.flag, Flag.cells, eq_comm]
  | psB i => cases f <;> simp [Cell.flag, Flag.cells, eq_comm]

/-! ### A transfer, cell by cell -/

theorem bitFlag_split {n : Nat} (flag : Fin n → Bool) (i : Fin n) :
    bitFlag flag (i / 32) (i % 32) = flag i := by
  have hi : 32 * ((i : Nat) / 32) + i % 32 = i := Nat.div_add_mod _ _
  simp only [bitFlag, hi, i.isLt, dif_pos]

/-- **A transfer.**  It takes the covered cells from its source. -/
theorem cells_copyFlagged (flags : StateCaptureDirtyFlags) (src dst : State) (c : Cell) :
    (copyFlagged flags src dst).cells c = if flags.covers c then src.cells c else dst.cells c := by
  cases c with
  | entry k =>
      cases k with
      | lights key =>
          simp only [State.cells, State.entries, State.light, copyFlagged,
            StateCaptureDirtyFlags.covers, decide_eq_true_eq]
          split <;> rfl
      | bLightEnables key =>
          simp only [State.cells, State.entries, State.lightEnable, copyFlagged,
            StateCaptureDirtyFlags.covers, decide_eq_true_eq]
          split <;> rfl
      | _ => rfl
  | vsB i =>
      have hb : (i : Nat) % 32 < 32 := Nat.mod_lt _ (by decide)
      simp only [State.cells, State.vsBool, copyFlagged, getLsbD_copyBits _ _ _ hb,
        vsBWord_val, bitFlag_split]
      rfl
  | psB i =>
      have hb : (i : Nat) % 32 < 32 := Nat.mod_lt _ (by decide)
      simp only [State.cells, State.psBool, copyFlagged, getLsbD_copyBits _ _ _ hb,
        psBWord_val, bitFlag_split]
      rfl

/-! ### Setting flags -/

/-- **Setting flags.**  It adds their cells. -/
theorem covers_set (flags : StateCaptureDirtyFlags) (fs : List Flag) (c : Cell) :
    (flags.set fs).covers c = (flags.covers c || decide (c ∈ fs.flatMap Flag.cells)) := by
  have hmem : c ∈ fs.flatMap Flag.cells ↔ ∃ f ∈ fs, c.flag = some f := by
    simp only [List.mem_flatMap, flag_eq_some_iff]
  have hplain : c.flag.any (flags.set fs).flag =
      (c.flag.any flags.flag || decide (c ∈ fs.flatMap Flag.cells)) := by
    simp only [hmem]
    cases c.flag with
    | none => simp
    | some f =>
        simp only [Option.any_some, StateCaptureDirtyFlags.set, Option.some.injEq,
          exists_eq_right']
        exact Bool.or_comm _ _
  rcases c with k | i | i
  · cases k with
    | lights key =>
        have hno : ¬ ∃ f ∈ fs, Cell.flag (.entry (.lights key)) = some f := by
          rintro ⟨f, -, hf⟩
          cases hf
        simp [hmem.not.mpr hno, StateCaptureDirtyFlags.covers, StateCaptureDirtyFlags.set]
    | bLightEnables key =>
        have hno : ¬ ∃ f ∈ fs, Cell.flag (.entry (.bLightEnables key)) = some f := by
          rintro ⟨f, -, hf⟩
          cases hf
        simp [hmem.not.mpr hno, StateCaptureDirtyFlags.covers, StateCaptureDirtyFlags.set]
    | _ => exact hplain
  · exact hplain
  · exact hplain

/-! ### What a transfer writes -/

/-- A transfer writes the values into its destination. -/
def Copies (flags : StateCaptureDirtyFlags) (src : State) (vs : List Value) : Prop :=
  ∀ dst : State, (copyFlagged flags src dst).cells = write dst.cells vs

theorem copies_none (s : State) : Copies ⟨fun _ => false, [], []⟩ s [] := by
  intro dst
  funext c
  rw [cells_copyFlagged, if_neg]
  · rfl
  · rcases c with k | i | i
    · cases k <;> exact Bool.false_ne_true
    · exact Bool.false_ne_true
    · exact Bool.false_ne_true

/-- **Writing and covering.**  If the cells of some values are covered as well, and the values
written to the source, a transfer writes these after what it wrote before. -/
theorem copies_append {flags flags' : StateCaptureDirtyFlags} {s s' : State} {vs ws : List Value}
    (h : Copies flags s vs) (hs : s'.cells = write s.cells ws)
    (hc : ∀ c, flags'.covers c = (flags.covers c || decide (c ∈ ws.map (·.1)))) :
    Copies flags' s' (vs ++ ws) := by
  intro dst
  funext c
  rw [write_append, ← h dst, cells_copyFlagged, hc, hs]
  by_cases hw : c ∈ ws.map (·.1)
  · rw [decide_eq_true hw, Bool.or_true, if_pos rfl]
    exact write_written _ _ hw
  · have hne : ∀ w ∈ ws, w.1 ≠ c := fun w hmem he => hw (List.mem_map.mpr ⟨w, hmem, he⟩)
    rw [decide_eq_false hw, Bool.or_false, write_unwritten _ hne, write_unwritten _ hne,
      cells_copyFlagged]

/-- The same for what a setter flags. -/
theorem copies_set {flags : StateCaptureDirtyFlags} {s s' : State} {vs ws : List Value}
    {fs : List Flag} (h : Copies flags s vs) (hs : s'.cells = write s.cells ws)
    (hc : ∀ c, c ∈ fs.flatMap Flag.cells ↔ c ∈ ws.map (·.1)) :
    Copies (flags.set fs) s' (vs ++ ws) :=
  copies_append h hs fun c => by simp only [covers_set, hc]

/-- Writing what a transfer writes already adds nothing. -/
theorem copies_again {flags : StateCaptureDirtyFlags} {s : State} {vs : List Value} {c : Cell}
    (h : Copies flags s vs) (hc : flags.covers c = true) :
    Copies flags s (vs ++ [⟨c, s.cells c⟩]) := by
  intro dst
  have hval : (copyFlagged flags s dst).cells c = s.cells c := by
    rw [cells_copyFlagged, if_pos hc]
  rw [write_append, ← h dst, write_cons, write_nil, ← hval, Function.update_eq_self]

end RemixBridge.Device
