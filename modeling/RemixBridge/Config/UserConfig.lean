import RemixBridge.Support.LastWrite
import RemixBridge.Config.OptionValue

/-!
# Config — UserConfig

The configuration file `bridge.conf` (`config.cpp`): its lines, what each of them assigns, and the
options that `Config::init` leaves, with the defaults for an application underneath.  An index into
a line is the rest of the line from there on.

`getUserConfig` hands its local `Config` to the parser, but `setOption` is static and writes to the
one that `get` returns; what `getUserConfig` returns is empty.

* `assignment_iff`: the lines that assign, in the words of the file's format.
* `option_of_file`: an option has the value that the last line about it gives it.
* `getOption_written`: what is written as `key = "value"` is read back.
-/

namespace RemixBridge

/-- `OptionMap`. -/
abbrev OptionMap := List Char → Option (List Char)

/-- The `Config` that `get` returns, and `s_bIsInit`. -/
structure Config where
  m_options : OptionMap
  s_bIsInit : Bool

namespace Config

/-- Before `init`. -/
def fresh : Config := ⟨fun _ => none, false⟩

/-! ### The parser of a line -/

def isWhitespace (ch : Char) : Bool := ch == ' ' || ch == '\t' || ch == '\r'

def isValidKeyChar (ch : Char) : Bool :=
  (decide ('0' ≤ ch) && decide (ch ≤ '9')) || (decide ('A' ≤ ch) && decide (ch ≤ 'Z')) ||
    (decide ('a' ≤ ch) && decide (ch ≤ 'z')) || (ch == '.' || ch == '_')

def skipWhitespace (line : List Char) : List Char := line.dropWhile isWhitespace

/-- The loop that extracts the value. -/
def extractValue : Bool → List Char → List Char
  | _, [] => []
  | insideString, c :: cs =>
      if !insideString && isWhitespace c then []
      else if c = '"' then extractValue (!insideString) cs
      else c :: extractValue insideString cs

/-- The key and the value that `parseUserConfigLine` sets, if it sets any: the name of a section is
read and dropped. -/
def assignment (line : List Char) : Option (List Char × List Char) :=
  match skipWhitespace line with
  | '[' :: _ => none
  | rest =>
      match skipWhitespace (rest.dropWhile isValidKeyChar) with
      | '=' :: cs => some (rest.takeWhile isValidKeyChar, extractValue false (skipWhitespace cs))
      | _ => none

/-- `setOption`. -/
def setOption (m_options : OptionMap) (key value : List Char) : OptionMap :=
  fun k => if k = key then some value else m_options k

def parseUserConfigLine (m_options : OptionMap) (line : List Char) : OptionMap :=
  match assignment line with
  | none              => m_options
  | some (key, value) => setOption m_options key value

/-! ### The file -/

/-- The lines that `std::getline` gives in turn. -/
def getlines : List Char → List (List Char)
  | []         => []
  | '\n' :: cs => [] :: getlines cs
  | c :: cs    =>
      match getlines cs with
      | []            => [[c]]
      | line :: lines => (c :: line) :: lines

/-- `merge`. -/
def merge (m_options other : OptionMap) : OptionMap := fun k => (other k).or (m_options k)

/-- An entry of `appDefaultConfigs`: its regular expression asks for the end of the path, in upper
or lower case. -/
structure AppDefaultConfig where
  ending : List Char
  options : OptionMap

def appDefaultConfigs : List AppDefaultConfig :=
  [⟨"\\hl2.exe".toList,
    fun k => if k = "presentSemaphoreMaxFrames ".toList then some ['1'] else none⟩]

def getAppDefaultConfig (exeFilePath : List Char) : OptionMap :=
  match appDefaultConfigs.find? fun c => decide (c.ending <:+ exeFilePath.map Char.toLower) with
  | some c => c.options
  | none   => fun _ => none

/-- `getUserConfig`: what it leaves in the options of `get()`, and what it returns. -/
def getUserConfig (m_options : OptionMap) (file : Option (List Char)) : OptionMap × OptionMap :=
  match file with
  | none      => (m_options, fun _ => none)
  | some text => ((getlines text).foldl parseUserConfigLine m_options, fun _ => none)

/-- `Config::init`, for the application at a path and the file, if there is one. -/
def init (exeFilePath : List Char) (file : Option (List Char)) (config : Config) : Config :=
  if config.s_bIsInit then config
  else
    let user := getUserConfig (merge config.m_options (getAppDefaultConfig exeFilePath)) file
    { m_options := merge user.1 user.2, s_bIsInit := true }

/-- `getOptionValue`. -/
def getOptionValue (config : Config) (option : List Char) : List Char :=
  (config.m_options option).getD []

/-- `getOption`, of an integer type: `none` where the parser throws. -/
def getOption (sized : Nat → List Char → Option Nat) (t : OptionType) (config : Config)
    (option : List Char) (fallback : Int) : Option Int :=
  if !config.s_bIsInit then some 0
  else
    match parseOptionValue sized t (config.getOptionValue option) with
    | .parsed result => some result
    | .refused       => some fallback
    | .throws        => none

/-! ### The format -/

/-- A piece of a value: outside of quotes, or in them. -/
inductive Piece where
  | bare (cs : List Char)
  | quoted (cs : List Char)

def Piece.Wf : Piece → Prop
  | .bare cs   => ∀ c ∈ cs, isWhitespace c = false ∧ c ≠ '"'
  | .quoted cs => '"' ∉ cs

/-- The piece as it is written. -/
def Piece.text : Piece → List Char
  | .bare cs   => cs
  | .quoted cs => '"' :: cs ++ ['"']

def Piece.value : Piece → List Char
  | .bare cs | .quoted cs => cs

/-- What ends a value: the line does, or white space and whatever follows, or a quote that nothing
closes. -/
inductive Ending : List Char → List Char → Prop where
  | line : Ending [] []
  | space {c : Char} {rest : List Char} (hc : isWhitespace c = true) : Ending (c :: rest) []
  | unclosed {cs : List Char} (hcs : '"' ∉ cs) : Ending ('"' :: cs) cs

/-- A text of pieces, and the value that it denotes. -/
def Denotes (text value : List Char) : Prop :=
  ∃ (ps : List Piece) (ending last : List Char), (∀ p ∈ ps, p.Wf) ∧ Ending ending last ∧
    text = ps.flatMap Piece.text ++ ending ∧ value = ps.flatMap Piece.value ++ last

def Whitespace (ws : List Char) : Prop := ∀ c ∈ ws, isWhitespace c = true

def ValidKey (key : List Char) : Prop := ∀ c ∈ key, isValidKeyChar c = true

/-- A text does not begin with white space. -/
def Begins (text : List Char) : Prop := ∀ c ∈ text.head?, isWhitespace c = false

/-- A line that assigns: a key, an equals sign and a value, with white space around each. -/
def Assigns (line key value : List Char) : Prop :=
  ∃ ws₁ ws₂ ws₃ text : List Char, Whitespace ws₁ ∧ Whitespace ws₂ ∧ Whitespace ws₃ ∧ ValidKey key ∧
    Begins text ∧ Denotes text value ∧ line = ws₁ ++ (key ++ (ws₂ ++ '=' :: (ws₃ ++ text)))

/-! ### Values -/

theorem Denotes.of_ending {text value : List Char} (h : Ending text value) : Denotes text value :=
  ⟨[], text, value, nofun, h, rfl, rfl⟩

theorem Denotes.piece {p : Piece} {text value : List Char} (hp : p.Wf) (h : Denotes text value) :
    Denotes (p.text ++ text) (p.value ++ value) := by
  obtain ⟨ps, ending, last, hps, hending, rfl, rfl⟩ := h
  refine ⟨p :: ps, ending, last, List.forall_mem_cons.mpr ⟨hp, hps⟩, hending, ?_, ?_⟩
  · rw [List.flatMap_cons, List.append_assoc]
  · rw [List.flatMap_cons, List.append_assoc]

/-- Outside of quotes the loop reads a text of pieces; inside, the rest of the quotes before it. -/
theorem denotes_extractValue (b : Bool) (text : List Char) :
    match b with
    | false => Denotes text (extractValue false text)
    | true => ('"' ∉ text ∧ extractValue true text = text) ∨
        ∃ cs rest value, '"' ∉ cs ∧ text = cs ++ '"' :: rest ∧ Denotes rest value ∧
          extractValue true text = cs ++ value := by
  induction text generalizing b with
  | nil =>
      cases b with
      | false => exact .of_ending .line
      | true => exact .inl ⟨nofun, rfl⟩
  | cons c cs ih =>
      cases b with
      | false =>
          show Denotes (c :: cs) (extractValue false (c :: cs))
          by_cases hspace : isWhitespace c = true
          · rw [extractValue, if_pos (by rw [hspace]; rfl)]
            exact .of_ending (.space hspace)
          · have hnot : (!false && isWhitespace c) = false := Bool.eq_false_iff.mpr hspace
            rw [extractValue, if_neg (Bool.eq_false_iff.mp hnot)]
            by_cases hquote : c = '"'
            · rw [if_pos hquote, hquote]
              rcases ih true with ⟨hcs, heq⟩ | ⟨qs, rest, value, hqs, htext, hrest, heq⟩
              · rw [Bool.not_false, heq]
                exact .of_ending (.unclosed hcs)
              · rw [Bool.not_false, heq, htext]
                have hpiece := hrest.piece (p := .quoted qs) hqs
                rw [Piece.text, List.append_assoc] at hpiece
                exact hpiece
            · rw [if_neg hquote]
              refine (ih false).piece (p := .bare [c]) fun x hx => ?_
              rw [List.mem_singleton.mp hx]
              exact ⟨Bool.eq_false_iff.mpr hspace, hquote⟩
      | true =>
          show ('"' ∉ c :: cs ∧ extractValue true (c :: cs) = c :: cs) ∨ _
          rw [extractValue, if_neg (by simp)]
          by_cases hquote : c = '"'
          · rw [if_pos hquote, hquote]
            exact .inr ⟨[], cs, _, nofun, rfl, ih false, rfl⟩
          · rw [if_neg hquote]
            rcases ih true with ⟨hcs, heq⟩ | ⟨qs, rest, value, hqs, htext, hrest, heq⟩
            · refine .inl ⟨fun hmem => ?_, by rw [heq]⟩
              rcases List.mem_cons.mp hmem with heq | hmem
              · exact hquote heq.symm
              · exact hcs hmem
            · refine .inr ⟨c :: qs, rest, value, fun hmem => ?_, by rw [htext]; rfl, hrest,
                by rw [heq]; rfl⟩
              rcases List.mem_cons.mp hmem with heq | hmem
              · exact hquote heq.symm
              · exact hqs hmem

theorem extractValue_bare {cs : List Char} (h : ∀ c ∈ cs, isWhitespace c = false ∧ c ≠ '"')
    (text : List Char) : extractValue false (cs ++ text) = cs ++ extractValue false text := by
  induction cs with
  | nil => rfl
  | cons c cs ih =>
      obtain ⟨⟨hspace, hquote⟩, hcs⟩ := List.forall_mem_cons.mp h
      rw [List.cons_append, extractValue, hspace, if_neg (by simp), if_neg hquote, ih hcs]
      rfl

theorem extractValue_quoted {cs : List Char} (h : '"' ∉ cs) (text : List Char) :
    extractValue true (cs ++ '"' :: text) = cs ++ extractValue false text := by
  induction cs with
  | nil => rfl
  | cons c cs ih =>
      obtain ⟨hquote, hcs⟩ := not_or.mp fun hmem => h (List.mem_cons.mpr hmem)
      rw [List.cons_append, extractValue, if_neg (by simp), if_neg (Ne.symm hquote), ih hcs]
      rfl

theorem extractValue_unclosed {cs : List Char} (h : '"' ∉ cs) : extractValue true cs = cs := by
  induction cs with
  | nil => rfl
  | cons c cs ih =>
      obtain ⟨hquote, hcs⟩ := not_or.mp fun hmem => h (List.mem_cons.mpr hmem)
      rw [extractValue, if_neg (by simp), if_neg (Ne.symm hquote), ih hcs]

theorem extractValue_ending {ending last : List Char} (h : Ending ending last) :
    extractValue false ending = last := by
  cases h with
  | line => rfl
  | space hc => rw [extractValue, if_pos (by rw [hc]; rfl)]
  | unclosed hcs => exact extractValue_unclosed hcs

/-- What the loop makes of a text is what it denotes. -/
theorem extractValue_eq_iff {text value : List Char} :
    extractValue false text = value ↔ Denotes text value := by
  constructor
  · rintro rfl
    exact denotes_extractValue false text
  · rintro ⟨ps, ending, last, hps, hending, rfl, rfl⟩
    induction ps with
    | nil => exact extractValue_ending hending
    | cons p ps ih =>
        obtain ⟨hp, hps⟩ := List.forall_mem_cons.mp hps
        rw [List.flatMap_cons, List.flatMap_cons, List.append_assoc, List.append_assoc, ← ih hps]
        cases p with
        | bare cs => exact extractValue_bare hp _
        | quoted cs =>
            rw [Piece.text, List.append_assoc]
            exact extractValue_quoted hp _

/-! ### Lines -/

section Span

variable {p : Char → Bool} {cs rest : List Char}

theorem dropWhile_head (h : ∀ c ∈ rest.head?, p c = false) : rest.dropWhile p = rest := by
  cases rest with
  | nil => rfl
  | cons c rest => rw [List.dropWhile_cons, h c rfl, if_neg Bool.false_ne_true]

theorem takeWhile_head (h : ∀ c ∈ rest.head?, p c = false) : rest.takeWhile p = [] := by
  cases rest with
  | nil => rfl
  | cons c rest => rw [List.takeWhile_cons, h c rfl, if_neg Bool.false_ne_true]

theorem dropWhile_append_head (hcs : ∀ c ∈ cs, p c = true) (h : ∀ c ∈ rest.head?, p c = false) :
    (cs ++ rest).dropWhile p = rest := by
  rw [List.dropWhile_append_of_pos hcs, dropWhile_head h]

theorem takeWhile_append_head (hcs : ∀ c ∈ cs, p c = true) (h : ∀ c ∈ rest.head?, p c = false) :
    (cs ++ rest).takeWhile p = cs := by
  rw [List.takeWhile_append_of_pos hcs, takeWhile_head h, List.append_nil]

/-- Neither an equals sign nor white space passes. -/
theorem span_head (c : Char) (rest : List Char) (hc : p c = false) :
    ∀ x ∈ (c :: rest).head?, p x = false := by
  intro x hx
  cases hx
  exact hc

end Span

theorem begins_skipWhitespace (line : List Char) : Begins (skipWhitespace line) := by
  intro c hc
  have hhead := List.head?_dropWhile_not isWhitespace line
  have hc : (line.dropWhile isWhitespace).head? = some c := hc
  rw [hc] at hhead
  exact hhead

/-- White space, and the rest of the line. -/
theorem skipWhitespace_spec (line : List Char) :
    ∃ ws, Whitespace ws ∧ line = ws ++ skipWhitespace line :=
  ⟨line.takeWhile isWhitespace, fun _ hc => List.mem_takeWhile_imp hc,
    List.takeWhile_append_dropWhile.symm⟩

theorem isValidKeyChar_of_isWhitespace {c : Char} (h : isWhitespace c = true) :
    isValidKeyChar c = false := by
  unfold isWhitespace at h
  simp only [Bool.or_eq_true, beq_iff_eq] at h
  rcases h with (rfl | rfl) | rfl <;> rfl

/-- What comes behind a key. -/
theorem behind_key {ws rest : List Char} (hws : Whitespace ws) :
    ∀ c ∈ (ws ++ '=' :: rest).head?, isValidKeyChar c = false := by
  intro c hc
  cases ws with
  | nil =>
      cases hc
      rfl
  | cons w ws =>
      cases hc
      exact isValidKeyChar_of_isWhitespace (hws _ List.mem_cons_self)

theorem isWhitespace_of_isValidKeyChar {c : Char} (h : isValidKeyChar c = true) :
    isWhitespace c = false := by
  by_contra hspace
  rw [isValidKeyChar_of_isWhitespace (Bool.eq_true_of_not_eq_false hspace)] at h
  cases h

/-- **The lines that assign** are those of the format. -/
theorem assignment_iff {line key value : List Char} :
    assignment line = some (key, value) ↔ Assigns line key value := by
  constructor
  · intro h
    obtain ⟨ws₁, hws₁, hline⟩ := skipWhitespace_spec line
    unfold assignment at h
    split at h
    · cases h
    · split at h
      · next cs hcs =>
        cases h
        obtain ⟨ws₂, hws₂, hrest⟩ :=
          skipWhitespace_spec ((skipWhitespace line).dropWhile isValidKeyChar)
        obtain ⟨ws₃, hws₃, htext⟩ := skipWhitespace_spec cs
        refine ⟨ws₁, ws₂, ws₃, skipWhitespace cs, hws₁, hws₂, hws₃,
          fun _ hc => List.mem_takeWhile_imp hc, begins_skipWhitespace cs,
          extractValue_eq_iff.mp rfl, ?_⟩
        rw [← htext, ← hcs, ← hrest, List.takeWhile_append_dropWhile]
        exact hline
      · cases h
  · rintro ⟨ws₁, ws₂, ws₃, text, hws₁, hws₂, hws₃, hkey, hbegins, hdenotes, rfl⟩
    have hequals : ∀ c ∈ ('=' :: (ws₃ ++ text)).head?, isWhitespace c = false :=
      span_head '=' _ rfl
    unfold assignment
    cases key with
    | nil =>
        -- an empty key: the white space runs on to the equals sign
        have hws : Whitespace (ws₁ ++ ws₂) :=
          fun c hc => (List.mem_append.mp hc).elim (hws₁ c) (hws₂ c)
        have hskip : skipWhitespace (ws₁ ++ ([] ++ (ws₂ ++ '=' :: (ws₃ ++ text)))) =
            '=' :: (ws₃ ++ text) := by
          rw [List.nil_append, ← List.append_assoc]
          exact dropWhile_append_head hws hequals
        have hskip' : skipWhitespace (('=' :: (ws₃ ++ text)).dropWhile isValidKeyChar) =
            '=' :: (ws₃ ++ text) := by
          rw [dropWhile_head (span_head '=' _ rfl)]
          exact dropWhile_head hequals
        have hvalue : extractValue false (skipWhitespace (ws₃ ++ text)) = value := by
          rw [skipWhitespace, dropWhile_append_head hws₃ hbegins]
          exact extractValue_eq_iff.mpr hdenotes
        rw [hskip]
        split
        · next heq => cases heq
        · simp only [hskip', hvalue]
          rw [takeWhile_head (span_head '=' _ rfl)]
    | cons k ks =>
        have hk : isValidKeyChar k = true := hkey k List.mem_cons_self
        have hskip : skipWhitespace (ws₁ ++ (k :: ks ++ (ws₂ ++ '=' :: (ws₃ ++ text)))) =
            k :: ks ++ (ws₂ ++ '=' :: (ws₃ ++ text)) :=
          dropWhile_append_head hws₁ (span_head k _ (isWhitespace_of_isValidKeyChar hk))
        have hskip' : skipWhitespace
            ((k :: ks ++ (ws₂ ++ '=' :: (ws₃ ++ text))).dropWhile isValidKeyChar) =
              '=' :: (ws₃ ++ text) := by
          rw [dropWhile_append_head hkey (behind_key hws₂)]
          exact dropWhile_append_head hws₂ hequals
        have hvalue : extractValue false (skipWhitespace (ws₃ ++ text)) = value := by
          rw [skipWhitespace, dropWhile_append_head hws₃ hbegins]
          exact extractValue_eq_iff.mpr hdenotes
        rw [hskip]
        split
        · next heq =>
          cases heq
          cases hk
        · simp only [hskip', hvalue]
          rw [takeWhile_append_head hkey (behind_key hws₂)]

/-! ### Files -/

/-- What a line does to an option. -/
def written (key line : List Char) : Option (Option (List Char)) :=
  match assignment line with
  | none        => none
  | some (k, v) => if key = k then some (some v) else none

theorem written_eq_some {key line value : List Char} :
    written key line = some (some value) ↔ Assigns line key value := by
  rw [← assignment_iff, written]
  cases assignment line with
  | none => simp
  | some kv =>
      obtain ⟨k, v⟩ := kv
      by_cases hk : key = k
      · simp [hk]
      · simp [hk, Ne.symm hk]

theorem written_ne_none_value {key line : List Char} : written key line ≠ some none := by
  rw [written]
  split
  · nofun
  · split <;> nofun

theorem parseUserConfigLine_apply (m_options : OptionMap) (line key : List Char) :
    parseUserConfigLine m_options line key = (written key line).getD (m_options key) := by
  rw [parseUserConfigLine, written]
  cases assignment line with
  | none => rfl
  | some kv =>
      obtain ⟨k, v⟩ := kv
      show (if key = k then some v else m_options key) = _
      dsimp only
      split <;> rfl

/-- The options after a file, one by one. -/
theorem foldl_parse_apply (lines : List (List Char)) (m_options : OptionMap) (key : List Char) :
    lines.foldl parseUserConfigLine m_options key =
      LastWrite.after (m_options key) (lines.map (written key)) := by
  induction lines generalizing m_options with
  | nil => rfl
  | cons line lines ih =>
      rw [List.foldl_cons, ih, List.map_cons, LastWrite.after_cons, parseUserConfigLine_apply]

/-- The last line about a key gives it a value. -/
def LastAssigns (lines : List (List Char)) (key value : List Char) : Prop :=
  ∃ before line after, lines = before ++ line :: after ∧ Assigns line key value ∧
    ∀ l ∈ after, ∀ v, ¬ Assigns l key v

/-- No line is about a key. -/
def Silent (lines : List (List Char)) (key : List Char) : Prop :=
  ∀ line ∈ lines, ∀ v, ¬ Assigns line key v

theorem silent_iff {lines : List (List Char)} {key : List Char} :
    Silent lines key ↔ ∀ x, some x ∉ lines.map (written key) := by
  constructor
  · intro h x hx
    obtain ⟨line, hline, hwritten⟩ := List.mem_map.mp hx
    cases x with
    | none => exact written_ne_none_value hwritten
    | some v => exact h line hline v (written_eq_some.mp hwritten)
  · intro h line hline v hassigns
    exact h (some v) (List.mem_map.mpr ⟨line, hline, written_eq_some.mpr hassigns⟩)

theorem lastAssigns_iff {lines : List (List Char)} {key value : List Char} :
    LastAssigns lines key value ↔ ∃ l r, lines.map (written key) = l ++ some (some value) :: r ∧
      ∀ x, some x ∉ r := by
  constructor
  · rintro ⟨before, line, after, rfl, hassigns, hafter⟩
    refine ⟨before.map (written key), after.map (written key), ?_, silent_iff.mp hafter⟩
    rw [List.map_append, List.map_cons, written_eq_some.mpr hassigns]
  · rintro ⟨l, r, heq, hr⟩
    obtain ⟨before, rest, rfl, -, hrest⟩ := List.map_eq_append_iff.mp heq
    obtain ⟨line, after, rfl, hline, rfl⟩ := List.map_eq_cons_iff.mp hrest
    exact ⟨before, line, after, rfl, written_eq_some.mp hline, silent_iff.mpr hr⟩

/-- The lines of a file, if there is one. -/
def fileLines (file : Option (List Char)) : List (List Char) := file.elim [] getlines

theorem init_m_options (exeFilePath : List Char) (file : Option (List Char)) :
    (init exeFilePath file fresh).m_options =
      (fileLines file).foldl parseUserConfigLine (getAppDefaultConfig exeFilePath) := by
  have hmerge : merge fresh.m_options (getAppDefaultConfig exeFilePath) =
      getAppDefaultConfig exeFilePath := by
    funext k
    exact Option.or_none
  have hinit : init exeFilePath file fresh =
      ⟨merge (getUserConfig (merge fresh.m_options (getAppDefaultConfig exeFilePath)) file).1
        (getUserConfig (merge fresh.m_options (getAppDefaultConfig exeFilePath)) file).2, true⟩ :=
    rfl
  rw [hinit, hmerge]
  cases file with
  | none => rfl
  | some text => rfl

/-- **The options of a file.**  After `init`, an option has the value that the last line that is an
assignment to it gives it, and otherwise the application's default; lines that are no assignments
change nothing. -/
theorem option_of_file (exeFilePath : List Char) (file : Option (List Char))
    (key value : List Char) :
    (init exeFilePath file fresh).m_options key = some value ↔
      LastAssigns (fileLines file) key value ∨
        Silent (fileLines file) key ∧ getAppDefaultConfig exeFilePath key = some value := by
  rw [init_m_options, foldl_parse_apply, LastWrite.after_eq_iff, lastAssigns_iff, silent_iff]

/-! ### What is written is read -/

/-- A setting that can be written in quotes. -/
def Writable (setting : List Char × List Char) : Prop :=
  ValidKey setting.1 ∧ '"' ∉ setting.2 ∧ '\n' ∉ setting.2

/-- A line for a setting. -/
def settingLine (setting : List Char × List Char) : List Char :=
  setting.1 ++ " = \"".toList ++ setting.2 ++ ['"']

/-- A file of settings. -/
def settingFile (settings : List (List Char × List Char)) : List Char :=
  settings.flatMap fun setting => settingLine setting ++ ['\n']

theorem getlines_line {line : List Char} (h : '\n' ∉ line) (rest : List Char) :
    getlines (line ++ '\n' :: rest) = line :: getlines rest := by
  induction line with
  | nil => rfl
  | cons c cs ih =>
      obtain ⟨hc, hcs⟩ := not_or.mp fun hmem => h (List.mem_cons.mpr hmem)
      rw [List.cons_append, getlines, ih hcs]
      · exact fun heq => hc heq.symm

theorem not_mem_settingLine {setting : List Char × List Char} (h : Writable setting) :
    '\n' ∉ settingLine setting := by
  obtain ⟨hkey, -, hvalue⟩ := h
  intro hmem
  simp only [settingLine, List.mem_append] at hmem
  rcases hmem with ((hmem | hmem) | hmem) | hmem
  · exact absurd (hkey _ hmem) (by decide)
  · exact absurd hmem (by decide)
  · exact hvalue hmem
  · exact absurd hmem (by decide)

theorem getlines_settingFile {settings : List (List Char × List Char)}
    (h : ∀ setting ∈ settings, Writable setting) :
    getlines (settingFile settings) = settings.map settingLine := by
  induction settings with
  | nil => rfl
  | cons setting settings ih =>
      obtain ⟨hsetting, hsettings⟩ := List.forall_mem_cons.mp h
      have hfile : settingFile (setting :: settings) =
          settingLine setting ++ '\n' :: settingFile settings := by
        rw [settingFile, List.flatMap_cons, List.append_assoc]
        rfl
      rw [hfile, getlines_line (not_mem_settingLine hsetting), ih hsettings, List.map_cons]

/-- The line of a setting is an assignment to its key. -/
theorem assigns_settingLine {setting : List Char × List Char} (h : Writable setting) :
    Assigns (settingLine setting) setting.1 setting.2 := by
  obtain ⟨hkey, hquote, -⟩ := h
  have hspace : Whitespace [' '] := by
    intro c hc
    rw [List.mem_singleton.mp hc]
    rfl
  have hdenotes := (Denotes.of_ending .line).piece (p := .quoted setting.2) hquote
  rw [Piece.value, List.append_nil, List.append_nil] at hdenotes
  refine ⟨[], [' '], [' '], _, nofun, hspace, hspace, hkey, span_head '"' _ rfl, hdenotes, ?_⟩
  simp [settingLine]

/-- What the file of a list of settings leaves. -/
theorem foldl_settings (m_options : OptionMap) {settings : List (List Char × List Char)}
    (h : ∀ setting ∈ settings, Writable setting) (key : List Char) :
    (settings.map settingLine).foldl parseUserConfigLine m_options key =
      (settings.reverse.lookup key).or (m_options key) := by
  induction settings using List.reverseRecOn with
  | nil => rfl
  | append_singleton settings setting ih =>
      have hsettings : ∀ setting ∈ settings, Writable setting :=
        fun x hx => h x (List.mem_append_left _ hx)
      have hassignment : assignment (settingLine setting) = some setting :=
        assignment_iff.mpr (assigns_settingLine (h setting (List.mem_append_right _
          List.mem_cons_self)))
      have hwritten : written key (settingLine setting) =
          if key = setting.1 then some (some setting.2) else none := by
        rw [written, hassignment]
      rw [List.map_append, List.foldl_append, List.map_cons, List.map_nil, List.foldl_cons,
        List.foldl_nil, parseUserConfigLine_apply, ih hsettings, hwritten, List.reverse_append,
        List.reverse_singleton, List.singleton_append, List.lookup_cons]
      by_cases hkey : key = setting.1
      · rw [if_pos hkey, beq_iff_eq.mpr hkey]
        rfl
      · rw [if_neg hkey, beq_eq_false_iff_ne.mpr hkey]
        rfl

/-- A numeral of a number that its type has is read as the number. -/
theorem parseOptionValue_number (sized : Nat → List Char → Option Nat) {t : OptionType}
    {value : List Char} {v : Int} (hv : number t value = some v) (hr : Representable t v)
    (hdecimal : t = .uint32 → Digits.Numeral 10 value) :
    parseOptionValue sized t value = .parsed v := by
  cases t with
  | uint8 =>
      rw [parseOptionValue, parseUInt8, parseUnsigned_eq]
      have hv : (Digits.number 10 value).map (fun v : Nat => (v : Int)) = some v := hv
      rw [hv]
      exact congrArg Outcome.parsed (toUnsigned_eq hr)
  | uint16 =>
      rw [parseOptionValue, parseUInt16, parseUnsigned_eq]
      have hv : (Digits.number 10 value).map (fun v : Nat => (v : Int)) = some v := hv
      rw [hv]
      exact congrArg Outcome.parsed (toUnsigned_eq hr)
  | int32 =>
      have hne : value ≠ ['-'] := by
        rintro rfl
        cases hv
      rw [parseOptionValue, parseInt32_eq hne, hv]
      exact congrArg Outcome.parsed (toInt32_eq hr)
  | uint32 =>
      have hn := hdecimal rfl
      rcases number_uint32 hv with ⟨ds, rfl, -, -⟩ | ⟨ds, rfl, -, -⟩ | ⟨-, rfl⟩
      · exact absurd (hn.2 'x' (by simp)) (by decide)
      · exact absurd (hn.2 'b' (by simp)) (by decide)
      · have hlt : (Digits.value 10 value : Int) < 2 ^ 32 := hr.2
        exact parseUInt32_decimal sized hn (by exact_mod_cast hlt)

/-- **What is written is read.**  After `init` with a file of settings, one a line with the value
in quotes, each option has the value of its last setting, and `getOption` the number that it is the
numeral of. -/
theorem getOption_written (exeFilePath : List Char) {settings : List (List Char × List Char)}
    (h : ∀ setting ∈ settings, Writable setting) :
    (∀ key, (init exeFilePath (some (settingFile settings)) fresh).m_options key =
      (settings.reverse.lookup key).or (getAppDefaultConfig exeFilePath key)) ∧
    ∀ sized t key value v fallback, settings.reverse.lookup key = some value →
      number t value = some v → Representable t v → (t = .uint32 → Digits.Numeral 10 value) →
        getOption sized t (init exeFilePath (some (settingFile settings)) fresh) key fallback =
          some v := by
  have hoptions : ∀ key, (init exeFilePath (some (settingFile settings)) fresh).m_options key =
      (settings.reverse.lookup key).or (getAppDefaultConfig exeFilePath key) := by
    intro key
    rw [init_m_options]
    show (getlines (settingFile settings)).foldl parseUserConfigLine _ key = _
    rw [getlines_settingFile h, foldl_settings _ h]
  refine ⟨hoptions, fun sized t key value v fallback hkey hv hr hdecimal => ?_⟩
  have hvalue : (init exeFilePath (some (settingFile settings)) fresh).getOptionValue key =
      value := by
    rw [getOptionValue, hoptions, hkey]
    rfl
  have hinit : (init exeFilePath (some (settingFile settings)) fresh).s_bIsInit = true := rfl
  rw [getOption, hinit, hvalue, parseOptionValue_number sized hv hr hdecimal]
  rfl

/-- Two settings of one option. -/
theorem getOption_written_twice :
    getOption (fun _ _ => none) .uint8
      (init [] (some (settingFile [(['f', 'p', 's'], ['7']), (['f', 'p', 's'], ['4', '2'])])) fresh)
        ['f', 'p', 's'] 300 = some 42 := by
  refine (getOption_written [] ?_).2 _ .uint8 _ ['4', '2'] 42 300 rfl rfl (by decide) nofun
  intro setting hsetting
  have hkey : ValidKey ['f', 'p', 's'] := List.all_eq_true.mp rfl
  rcases List.mem_cons.mp hsetting with rfl | hsetting
  · exact ⟨hkey, by simp, by simp⟩
  · rw [List.mem_singleton.mp hsetting]
    exact ⟨hkey, by simp, by simp⟩

/-- The default for `hl2.exe` has a blank at the end of its key, and so it is no option's. -/
example : (init "C:\\games\\HL2.exe".toList none fresh).m_options
    "presentSemaphoreMaxFrames".toList = none := by
  decide +kernel

end Config

end RemixBridge
