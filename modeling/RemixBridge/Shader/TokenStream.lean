import RemixBridge.Shader.CommonShader

/-!
# Shader — TokenStream

Well-formed shader token streams of the models 1.x to 3.x, and what `CommonShader` counts of them.

* `Item.WellFormed.size`: in model 1.x the instructions that are counted a token short are DEF and,
  in ps_1_4, TEX and TEXCOORD.
* `size_right_iff`: the streams whose size is right, and the instructions that put it at risk.
* `size_right_of_strays`: those whose uncounted tokens count as one.
-/

namespace RemixBridge.Shader
open Scanner

/-! ### Token streams -/

/-- The parameters of an instruction of model 1.x, by its opcode; in ps_1_4 two of them have one
more. -/
def parameterCount (ps14 : Bool) : Nat → Option Nat
  -- nop, phase
  | 0x00 | 0xFFFD => some 0
  -- texkill, texdepth
  | 0x41 | 0x57 => some 1
  -- texcoord or texcrd, tex or texld
  | 0x40 | 0x42 => if ps14 then some 2 else some 1
  -- mov, rcp, rsq, exp, log, lit, frc, dcl, expp, logp
  | 0x01 | 0x06 | 0x07 | 0x0e | 0x0f | 0x10 | 0x13 | 0x1f | 0x4e | 0x4f => some 2
  -- the texture addressing instructions of two operands
  | 0x43 | 0x44 | 0x45 | 0x46 | 0x47 | 0x48 | 0x49 | 0x4a | 0x4d | 0x52 | 0x53 | 0x54 | 0x55
  | 0x56 => some 2
  -- add, sub, mul, dp3, dp4, min, max, slt, sge, dst, m4x4, m4x3, m3x4, m3x3, m3x2
  | 0x02 | 0x03 | 0x05 | 0x08 | 0x09 | 0x0a | 0x0b | 0x0c | 0x0d | 0x11 | 0x14 | 0x15 | 0x16
  | 0x17 | 0x18 => some 3
  -- texm3x3spec, bem
  | 0x4c | 0x59 => some 3
  -- mad, lrp, cnd, cmp
  | 0x04 | 0x12 | 0x50 | 0x58 => some 4
  -- def
  | 0x51 => some 5
  | _ => none

def opcode (token : Word) : Word := token &&& D3DSI_OPCODE_MASK

def isPs14 (version : Word) : Bool := decide (version = 0xFFFF0104)

/-- An instruction with its parameters, or a comment with its text. -/
inductive Item where
  | instruction (token : Word) (params : List Word)
  | comment (token : Word) (text : List Word)

namespace Item

def token : Item → Word
  | instruction token _ => token
  | comment token _     => token

def tokens : Item → List Word
  | instruction token params => token :: params
  | comment token text       => token :: text

/-- An instruction carries its number of parameters, or has those of its opcode; a comment carries
its length. -/
def WellFormed (version : Word) : Item → Prop
  | instruction token params =>
      opcode token ≠ D3DSIO_COMMENT ∧ opcode token ≠ D3DSIO_END ∧
        if 2 ≤ D3DSHADER_VERSION_MAJOR version then
          ((token &&& D3DSI_INSTLENGTH_MASK) >>> D3DSI_INSTLENGTH_SHIFT).toNat = params.length
        else parameterCount (isPs14 version) (opcode token).toNat = some params.length
  | comment token text =>
      opcode token = D3DSIO_COMMENT ∧
        ((token &&& D3DSI_COMMENTSIZE_MASK) >>> D3DSI_COMMENTSIZE_SHIFT).toNat = text.length

/-- A DEF, or a TEX or TEXCOORD of ps_1_4. -/
def Miscounted (version : Word) : Item → Prop
  | instruction token _ => ¬ 2 ≤ D3DSHADER_VERSION_MAJOR version ∧ (opcode token = 0x51 ∨
      isPs14 version = true ∧ (opcode token = 0x40 ∨ opcode token = 0x42))
  | comment _ _ => False

end Item

/-- A shader of one of the models 1.x to 3.x. -/
structure TokenStream where
  version : Word
  items : List Item
  model : D3DSHADER_VERSION_MAJOR version = 1 ∨ D3DSHADER_VERSION_MAJOR version = 2 ∨
    D3DSHADER_VERSION_MAJOR version = 3
  wellFormed : ∀ i ∈ items, i.WellFormed version

namespace TokenStream

def endToken : Word := 0x0000FFFF

def tokens (s : TokenStream) : List Word :=
  s.version :: (s.items.flatMap Item.tokens ++ [endToken])

/-- A memory that holds a stream, and after it anything. -/
def memory (s : TokenStream) (rest : Nat → Word) (i : Nat) : Word := (s.tokens[i]?).getD (rest i)

/-- The computed size is that of the stream, from its version to its END. -/
def SizeRight (s : TokenStream) (rest : Nat → Word) : Prop :=
  ∃ fuel, analyze fuel (s.memory rest) = some (4 * s.tokens.length)

/-- The items of a stream, by their lengths. -/
def lengths (s : TokenStream) : List Nat := s.items.map fun i => i.tokens.length

/-- The count keeps in step with the instructions, or comes back in step each time it has fallen
between them. -/
def KeepsStep (s : TokenStream) (rest : Nat → Word) : Prop :=
  InStep (getShaderInstructionSize (D3DSHADER_VERSION_MAJOR s.version)) isEnd (s.memory rest) 1
    s.lengths

end TokenStream

/-! ### Items -/

variable {version : Word} {i : Item}

/-- What the table says of a documented instruction. -/
theorem instructionSize_of_count {ps14 : Bool} {n k : Nat} (h : parameterCount ps14 n = some k) :
    instructionSize n = k + 1 ∨
      instructionSize n = k ∧ (n = 0x51 ∨ ps14 = true ∧ (n = 0x40 ∨ n = 0x42)) := by
  unfold parameterCount at h
  split at h
  all_goals first
    | (cases h; first | done | exact .inl rfl | exact .inr ⟨rfl, .inl rfl⟩)
    | skip
  -- the two whose number of parameters depends on the version
  all_goals
    split at h
    · rename_i hps
      cases h
      exact .inr ⟨rfl, .inr ⟨hps, by decide⟩⟩
    · cases h
      exact .inl rfl

section Size

variable {m_majorVersion token : Word}

theorem size_of_comment (h : opcode token = D3DSIO_COMMENT) :
    getShaderInstructionSize m_majorVersion token =
      ((token &&& D3DSI_COMMENTSIZE_MASK) >>> D3DSI_COMMENTSIZE_SHIFT).toNat + 1 := if_pos h

theorem size_of_major (h : opcode token ≠ D3DSIO_COMMENT) (hmajor : 2 ≤ m_majorVersion) :
    getShaderInstructionSize m_majorVersion token =
      ((token &&& D3DSI_INSTLENGTH_MASK) >>> D3DSI_INSTLENGTH_SHIFT).toNat + 1 :=
  (if_neg h).trans (if_pos hmajor)

theorem size_of_table (h : opcode token ≠ D3DSIO_COMMENT) (hmajor : ¬ 2 ≤ m_majorVersion) :
    getShaderInstructionSize m_majorVersion token = instructionSize (opcode token).toNat :=
  (if_neg h).trans (if_neg hmajor)

end Size

/-- A well-formed item is counted, or it is miscounted by its last token. -/
theorem Item.WellFormed.size (h : i.WellFormed version) :
    getShaderInstructionSize (D3DSHADER_VERSION_MAJOR version) i.token = i.tokens.length ∨
      i.Miscounted version ∧
        getShaderInstructionSize (D3DSHADER_VERSION_MAJOR version) i.token + 1 =
          i.tokens.length := by
  cases i with
  | comment token text =>
      obtain ⟨hop, hsize⟩ := h
      exact .inl ((size_of_comment hop).trans (congrArg (· + 1) hsize))
  | instruction token params =>
      obtain ⟨hop, -, hparams⟩ := h
      split at hparams
      · rename_i hmajor
        exact .inl ((size_of_major hop hmajor).trans (congrArg (· + 1) hparams))
      · rename_i hmajor
        have htable := size_of_table hop hmajor
        rcases instructionSize_of_count hparams with hsize | ⟨hsize, hn⟩
        · exact .inl (htable.trans hsize)
        · refine .inr ⟨⟨hmajor, ?_⟩, congrArg (· + 1) (htable.trans hsize)⟩
          rcases hn with hn | ⟨hps, hn | hn⟩
          · exact .inl (BitVec.eq_of_toNat_eq hn)
          · exact .inr ⟨hps, .inl (BitVec.eq_of_toNat_eq hn)⟩
          · exact .inr ⟨hps, .inr (BitVec.eq_of_toNat_eq hn)⟩

theorem Item.WellFormed.not_end (h : i.WellFormed version) : isEnd i.token = false := by
  refine decide_eq_false ?_
  cases i with
  | instruction token params => exact h.2.1
  | comment token text =>
      intro hend
      have hop := h.1
      rw [opcode, Item.token] at *
      rw [hend] at hop
      exact absurd hop (by decide)

theorem Item.length_pos (i : Item) : 0 < i.tokens.length := by
  cases i <;> exact Nat.succ_pos _

/-! ### Streams in memory -/

namespace TokenStream

variable (s : TokenStream) (rest : Nat → Word)

theorem length_tokens : s.tokens.length = s.lengths.sum + 2 := by
  rw [tokens, List.length_cons, List.length_append, List.length_flatMap]
  rfl

/-- What the memory holds of an item. -/
theorem memory_item {k j : Nat} (hk : k < s.items.length) (hj : j < s.items[k].tokens.length) :
    s.memory rest (1 + (s.lengths.take k).sum + j) = s.items[k].tokens[j] := by
  have hget : s.tokens[1 + (s.lengths.take k).sum + j]? = some s.items[k].tokens[j] := by
    have hflat := getElem?_flatMap Item.tokens s.items hk hj
    rw [List.getElem?_eq_getElem hj] at hflat
    have hlt : (s.lengths.take k).sum + j < (s.items.flatMap Item.tokens).length :=
      (List.getElem?_eq_some_iff.mp hflat).1
    rw [tokens, Nat.add_assoc, Nat.add_comm 1, List.getElem?_cons_succ,
      List.getElem?_append_left hlt]
    exact hflat
  rw [memory, hget, Option.getD_some]

theorem memory_start {k : Nat} (hk : k < s.items.length) :
    s.memory rest (1 + (s.lengths.take k).sum) = s.items[k].token := by
  have h := s.memory_item rest hk s.items[k].length_pos
  rw [Nat.add_zero] at h
  rw [h]
  cases s.items[k] <;> rfl

theorem memory_end : s.memory rest (1 + s.lengths.sum) = endToken := by
  have hlen : (s.items.flatMap Item.tokens).length = s.lengths.sum := by
    rw [List.length_flatMap]
    rfl
  have hget : s.tokens[1 + s.lengths.sum]? = some endToken := by
    rw [tokens, Nat.add_comm, List.getElem?_cons_succ, ← hlen, List.getElem?_concat_length]
  rw [memory, hget, Option.getD_some]

theorem live : Live isEnd (s.memory rest) 1 s.lengths := by
  intro k hk
  rw [lengths, List.length_map] at hk
  rw [s.memory_start rest hk]
  exact (s.wellFormed _ (List.getElem_mem hk)).not_end

/-- The size is right if and only if the count comes back in step each time it has fallen between
instructions. -/
theorem sizeRight_iff_keepsStep : s.SizeRight rest ↔ s.KeepsStep rest := by
  have hscan : s.SizeRight rest ↔ ∃ fuel,
      scan (getShaderInstructionSize (D3DSHADER_VERSION_MAJOR s.version)) isEnd (s.memory rest) fuel
        1 = some (1 + s.lengths.sum) := by
    have hversion : s.memory rest 0 = s.version := rfl
    refine exists_congr fun fuel => ?_
    rw [analyze, getShaderByteSize, hversion, length_tokens, Option.map_eq_some_iff]
    constructor
    · rintro ⟨q, hq, hlen⟩
      rw [hq]
      congr 1
      omega
    · intro h
      exact ⟨_, h, by omega⟩
  have hend : isEnd (s.memory rest (1 + s.lengths.sum)) = true := by
    rw [s.memory_end rest]
    decide
  have hpos : ∀ l ∈ s.lengths, 0 < l := by
    intro l hl
    obtain ⟨i, -, rfl⟩ := List.mem_map.mp hl
    exact i.length_pos
  rw [hscan, scan_iff, and_iff_left hend, KeepsStep, counts_iff_inStep hpos (s.live rest)]

/-- **Shader sizes.**  The size is right if and only if the count comes back in step each time it
has fallen between instructions, and only a DEF, or a TEX or TEXCOORD of ps_1_4, makes it fall
there: on the last token of that instruction. -/
theorem size_right_iff :
    (s.SizeRight rest ↔ s.KeepsStep rest) ∧
    ∀ i ∈ s.items,
      getShaderInstructionSize (D3DSHADER_VERSION_MAJOR s.version) i.token ≠ i.tokens.length →
        i.Miscounted s.version ∧
          getShaderInstructionSize (D3DSHADER_VERSION_MAJOR s.version) i.token + 1 =
            i.tokens.length :=
  ⟨s.sizeRight_iff_keepsStep rest, fun i hi hne => (s.wellFormed i hi).size.resolve_left hne⟩

/-- The last token of an item, if the count falls on it, counts as one. -/
def StrayCountsOne (version : Word) (i : Item) : Prop :=
  ∀ stray ∈ i.tokens.getLast?, isEnd stray = false ∧
    getShaderInstructionSize (D3DSHADER_VERSION_MAJOR version) stray = 1

/-- **Shader sizes, by item.**  The size is right if every last token that is not counted with its
instruction counts as one. -/
theorem size_right_of_strays
    (h : ∀ i ∈ s.items, i.Miscounted s.version → StrayCountsOne s.version i) :
    s.SizeRight rest := by
  rw [sizeRight_iff_keepsStep]
  refine inStep_of_segments fun k hk => ?_
  have hitem : k < s.items.length := by rwa [lengths, List.length_map] at hk
  have hmem := List.getElem_mem hitem
  have hlen : s.lengths[k] = s.items[k].tokens.length := List.getElem_map ..
  rw [CountedOrStray, s.memory_start rest hitem, hlen]
  rcases (s.wellFormed _ hmem).size with hsize | ⟨hmis, hsize⟩
  · exact .inl hsize
  · have hlast := s.memory_item rest hitem (Nat.lt_of_succ_le (Nat.le_of_eq hsize))
    obtain ⟨hend, hone⟩ := h _ hmem hmis _ (by
      rw [List.getLast?_eq_getElem?, Option.mem_def, ← hsize, Nat.add_sub_cancel]
      exact List.getElem?_eq_getElem (Nat.lt_of_succ_le (Nat.le_of_eq hsize)))
    refine .inr ⟨hsize, ?_, ?_⟩
    · rw [hlast]
      exact hend
    · rw [hlast]
      exact hone

/-- In models 2.x and 3.x it always is. -/
theorem size_right_of_major (h : 2 ≤ D3DSHADER_VERSION_MAJOR s.version) : s.SizeRight rest := by
  refine s.size_right_of_strays rest fun i _ hmis => ?_
  cases i with
  | instruction => exact absurd h hmis.1
  | comment => cases hmis

end TokenStream

/-- A vs_1_1 of one instruction: `def c0, 0, 0, 0, 0.99999994`. -/
def almostOne : TokenStream where
  version := 0xFFFE0101
  items := [.instruction 0x51 [0xA00F0000, 0, 0, 0, 0x3F7FFFFF]]
  model := by decide
  wellFormed i hi := by
    rw [List.mem_singleton] at hi
    subst hi
    unfold Item.WellFormed
    decide

/-- **A shader is truncated.**  The low half of its last constant is that of an END token. -/
theorem almost_one_truncated : ¬ ∀ (s : TokenStream) (rest : Nat → Word), s.SizeRight rest := by
  intro hclaim
  obtain ⟨fuel, h⟩ := hclaim almostOne fun _ => 0
  match fuel with
  | 0 => cases h
  | 1 => cases h
  | fuel + 2 =>
      have hsize : analyze (fuel + 2) (almostOne.memory fun _ => 0) = some 28 := rfl
      rw [hsize] at h
      exact absurd h (by decide)

end RemixBridge.Shader
