import RemixBridge.Input.Mouse
import Mathlib.Data.List.Sort

/-!
# Input — Keyboard

What the client forwards of a DirectInput keyboard (`di_hook.cpp`): `updateKeyState` compares a
table of all keys with the one it remembers, and makes a message for each key that is not the same.
The table is what `GetDeviceState` returned or, as long as that has not been called, what all the
events of `GetDeviceData` have left.

A message is dropped where the keyboard is not exclusive or the policy says no.  The key is
remembered all the same.

* `Remembers`: the table that is remembered, and what is forwarded, behind an update.
* `changes`: the presses and releases in a list of reports, each against the report before it.
* `keys_released`: no key is left down in a run where no update drops a release that is owed, or
  finds two changes out of the order that it looks for them in.
-/

namespace RemixBridge.Keyboard
open Runs
open Mouse (WndMsg pressed)

/-! ### The forwarder -/

def WM_KEYDOWN : Nat := 0x100
def WM_KEYUP : Nat := 0x101
def WM_CHAR : Nat := 0x102

def VK_INSERT : Nat := 0x2d

inductive ForwardPolicy
  | Never
  | RemixUIInactive
  | RemixUIActive
  | Always
deriving DecidableEq

/-- A byte for each scan code. -/
abbrev KeyTable := Fin 256 → BitVec 8

/-- What Windows knows of the keyboard: the virtual key of a scan code, or 0, and what `ToAscii`
returns for a key, with the first word that it writes. -/
structure Layout where
  MapVirtualKeyExA : Fin 256 → Nat
  ToAscii : Nat → Fin 256 → KeyTable → Int × Nat

def Layout.translate (layout : Layout) (vsc : Fin 256) : Nat :=
  if vsc = 210 then VK_INSERT else layout.MapVirtualKeyExA vsc

/-- A message, with the scan code that it was made for. -/
structure KeyMsg where
  vsc : Fin 256
  wm : WndMsg
deriving DecidableEq

/-- The client's state, and all that has been forwarded. -/
structure Client where
  s_KS : KeyTable := fun _ => 0
  s_bIsExclusive : Bool := false
  isUIActive : Bool := false
  KeyboardDeviceStateUsed : Bool := false
  data : KeyTable := fun _ => 0
  forwarded : List KeyMsg := []

/-- What stays the same throughout: the layout, the policy that `init` has read, and the window. -/
structure Setup where
  layout : Layout
  s_forwardPolicy : ForwardPolicy
  s_hwnd : Nat

variable (w : Setup)

def evaluatePolicy (c : Client) : Bool :=
  if w.s_forwardPolicy = .Never then false
  else if w.s_forwardPolicy = .Always then true
  else decide (w.s_forwardPolicy = .RemixUIActive) == c.isUIActive

def admitted (c : Client) : Bool := c.s_bIsExclusive && evaluatePolicy w c

def forwardMessage (c : Client) (wm : KeyMsg) : Client :=
  if !c.s_bIsExclusive || !evaluatePolicy w c then c
  else { c with forwarded := c.forwarded ++ [wm] }

/-- One turn of the loop of `updateKeyState`. -/
def updateKey (KS : KeyTable) (c : Client) (vsc : Fin 256) : Client :=
  if c.s_KS vsc ≠ KS vsc then
    let vk := w.layout.translate vsc
    if vk = 0 then c
    else
      let msg := if pressed (KS vsc) then WM_KEYDOWN else WM_KEYUP
      let c := forwardMessage w c ⟨vsc, { hWnd := w.s_hwnd, msg := msg, wParam := vk }⟩
      let c :=
        if msg = WM_KEYDOWN then
          let (n, ascii) := w.layout.ToAscii vk vsc KS
          -- only a key with one character has a message for it
          if n = 1 then
            forwardMessage w c ⟨vsc, { hWnd := w.s_hwnd, msg := WM_CHAR, wParam := ascii }⟩
          else c
        else c
      { c with s_KS := Function.update c.s_KS vsc (KS vsc) }
  else c

def updateKeyState (c : Client) (KS : KeyTable) : Client :=
  (List.finRange 256).foldl (updateKey w KS) c

/-- An event of `GetDeviceData`, or the report of one key in a sample. -/
structure Event where
  dwOfs : Fin 256
  dwData : BitVec 8

/-- The table behind a list of events. -/
def after (t : KeyTable) (rgdod : List Event) : KeyTable :=
  rgdod.foldl (fun t e => Function.update t e.dwOfs e.dwData) t

def HookedGetDeviceState (c : Client) (KS : KeyTable) : Client :=
  { updateKeyState w c KS with KeyboardDeviceStateUsed := true }

def HookedGetDeviceData (c : Client) (rgdod : List Event) : Client :=
  if c.KeyboardDeviceStateUsed = false then
    let c := { c with data := after c.data rgdod }
    updateKeyState w c c.data
  else c

/-! ### An update -/

/-- The messages that an update makes for a key. -/
def made (last KS : KeyTable) (vsc : Fin 256) : List KeyMsg :=
  if last vsc ≠ KS vsc ∧ w.layout.translate vsc ≠ 0 then
    let msg := if pressed (KS vsc) then WM_KEYDOWN else WM_KEYUP
    let ascii := w.layout.ToAscii (w.layout.translate vsc) vsc KS
    ⟨vsc, { hWnd := w.s_hwnd, msg := msg, wParam := w.layout.translate vsc }⟩ ::
      if msg = WM_KEYDOWN ∧ ascii.1 = 1 then
        [⟨vsc, { hWnd := w.s_hwnd, msg := WM_CHAR, wParam := ascii.2 }⟩]
      else []
  else []

/-- How the client is, behind an update of some of the keys. -/
structure Remembers (KS : KeyTable) (keys : List (Fin 256)) (c c' : Client) : Prop where
  s_KS : ∀ vsc, w.layout.translate vsc ≠ 0 →
    c'.s_KS vsc = if vsc ∈ keys then KS vsc else c.s_KS vsc
  forwarded : c'.forwarded =
    c.forwarded ++ if admitted w c then keys.flatMap (made w c.s_KS KS) else []
  s_bIsExclusive : c'.s_bIsExclusive = c.s_bIsExclusive
  isUIActive : c'.isUIActive = c.isUIActive
  KeyboardDeviceStateUsed : c'.KeyboardDeviceStateUsed = c.KeyboardDeviceStateUsed
  data : c'.data = c.data

section update

variable {w} {c c' : Client} {KS : KeyTable}

theorem forwardMessage_eq (c : Client) (wm : KeyMsg) :
    forwardMessage w c wm =
      { c with forwarded := c.forwarded ++ if admitted w c then [wm] else [] } := by
  rw [forwardMessage, ← Bool.not_and]
  change (if !admitted w c then c else _) = _
  cases admitted w c with
  | true => rfl
  | false => rw [Bool.not_false, if_pos rfl, if_neg Bool.false_ne_true, List.append_nil]

/-- A message leaves alone what decides whether it is let through. -/
theorem admitted_congr (hx : c'.s_bIsExclusive = c.s_bIsExclusive)
    (hui : c'.isUIActive = c.isUIActive) : admitted w c' = admitted w c := by
  rw [admitted, admitted, evaluatePolicy, evaluatePolicy, hx, hui]

/-- A key that is found moved, with its messages, is remembered. -/
theorem remembers_moved {c₁ : Client} {vsc : Fin 256} {ms : List KeyMsg}
    (hmade : made w c.s_KS KS vsc = ms)
    (h₁ : c₁ = { c with forwarded := c.forwarded ++ if admitted w c then ms else [] }) :
    Remembers w KS [vsc] c { c₁ with s_KS := Function.update c₁.s_KS vsc (KS vsc) } := by
  subst h₁
  refine ⟨fun v _ => ?_, ?_, rfl, rfl, rfl, rfl⟩
  · by_cases hv : v = vsc
    · subst hv
      rw [if_pos (List.mem_singleton_self v)]
      exact Function.update_self ..
    · rw [if_neg fun hmem => hv (List.mem_singleton.mp hmem)]
      exact Function.update_of_ne hv ..
  · rw [List.flatMap_singleton, hmade]

theorem remembers_updateKey (KS : KeyTable) (c : Client) (vsc : Fin 256) :
    Remembers w KS [vsc] c (updateKey w KS c vsc) := by
  have hnone (hmade : made w c.s_KS KS vsc = []) : c.forwarded =
      c.forwarded ++ if admitted w c then [vsc].flatMap (made w c.s_KS KS) else [] := by
    rw [List.flatMap_singleton, hmade, ite_self, List.append_nil]
  unfold updateKey
  split
  · next hmoved =>
      dsimp only
      split
      · next hvk =>
          refine ⟨fun v hv => ?_, hnone ?_, rfl, rfl, rfl, rfl⟩
          · rw [if_neg]
            rintro hmem
            rw [List.mem_singleton.mp hmem] at hv
            exact hv hvk
          · rw [made, if_neg fun h => h.2 hvk]
      · next hvk =>
          refine remembers_moved rfl ?_
          rw [made, if_pos (And.intro hmoved hvk)]
          dsimp only
          have hadmitted (l : List KeyMsg) : admitted w { c with forwarded := l } = admitted w c := rfl
          simp only [forwardMessage_eq, hadmitted, List.append_assoc]
          by_cases hdown : (if pressed (KS vsc) then WM_KEYDOWN else WM_KEYUP) = WM_KEYDOWN
          · by_cases hchar : (w.layout.ToAscii (w.layout.translate vsc) vsc KS).1 = 1
            · rw [if_pos hdown, if_pos hchar, if_pos (And.intro hdown hchar)]
              cases admitted w c <;> rfl
            · rw [if_pos hdown, if_neg hchar, if_neg fun h : _ ∧ _ => hchar h.2]
          · rw [if_neg hdown, if_neg fun h : _ ∧ _ => hdown h.1]
  · next hsame =>
      refine ⟨fun v _ => ?_, hnone ?_, rfl, rfl, rfl, rfl⟩
      · split
        · next hmem => rw [List.mem_singleton.mp hmem, not_not.mp hsame]
        · rfl
      · rw [made, if_neg fun h => hsame h.1]

theorem Remembers.append {keys keys' : List (Fin 256)} {c₁ c₂ : Client}
    (h : Remembers w KS keys c c₁) (h' : Remembers w KS keys' c₁ c₂)
    (hnew : ∀ vsc ∈ keys', vsc ∉ keys) : Remembers w KS (keys ++ keys') c c₂ where
  s_KS vsc hvk := by
    rw [h'.s_KS vsc hvk, h.s_KS vsc hvk]
    by_cases hmem' : vsc ∈ keys'
    · rw [if_pos hmem', if_pos (List.mem_append_right keys hmem')]
    · simp only [if_neg hmem', List.mem_append, or_iff_left hmem']
  forwarded := by
    have hmade (vsc : Fin 256) (hmem : vsc ∈ keys') :
        made w c₁.s_KS KS vsc = made w c.s_KS KS vsc := by
      by_cases hvk : w.layout.translate vsc = 0
      · rw [made, made, if_neg fun h => h.2 hvk, if_neg fun h => h.2 hvk]
      · have hkept : c₁.s_KS vsc = c.s_KS vsc := by
          rw [h.s_KS vsc hvk, if_neg (hnew vsc hmem)]
        rw [made, made, hkept]
    rw [h'.forwarded, h.forwarded, admitted_congr h.s_bIsExclusive h.isUIActive, List.append_assoc,
      List.flatMap_congr hmade]
    split
    · rw [List.flatMap_append]
    · rfl
  s_bIsExclusive := h'.s_bIsExclusive.trans h.s_bIsExclusive
  isUIActive := h'.isUIActive.trans h.isUIActive
  KeyboardDeviceStateUsed := h'.KeyboardDeviceStateUsed.trans h.KeyboardDeviceStateUsed
  data := h'.data.trans h.data

/-- Each turn finds its own key as it was remembered before the loop. -/
theorem remembers_foldl (KS : KeyTable) {keys : List (Fin 256)} (hnodup : keys.Nodup) (c : Client) :
    Remembers w KS keys c (keys.foldl (updateKey w KS) c) := by
  induction keys generalizing c with
  | nil => exact ⟨fun _ _ => rfl, by simp, rfl, rfl, rfl, rfl⟩
  | cons vsc keys ih =>
      rw [List.nodup_cons] at hnodup
      refine (remembers_updateKey KS c vsc).append (ih hnodup.2 _) fun v hv hmem => ?_
      rw [List.mem_singleton.mp hmem] at hv
      exact hnodup.1 hv

/-- **An update.** -/
theorem remembers_updateKeyState (c : Client) (KS : KeyTable) :
    Remembers w KS (List.finRange 256) c (updateKeyState w c KS) :=
  remembers_foldl KS (List.nodup_finRange 256) c

theorem remembers_HookedGetDeviceData (rgdod : List Event)
    (hused : c.KeyboardDeviceStateUsed = false) :
    Remembers w (after c.data rgdod) (List.finRange 256) { c with data := after c.data rgdod }
      (HookedGetDeviceData w c rgdod) := by
  rw [HookedGetDeviceData, if_pos hused]
  exact remembers_updateKeyState _ _

end update

/-! ### What has been forwarded -/

/-- A press or a release of a key. -/
structure Change where
  vsc : Fin 256
  down : Bool
deriving DecidableEq

/-- What a message says of its key, if it is one that says it. -/
def KeyMsg.change (m : KeyMsg) : Option Change :=
  if m.wm.msg = WM_KEYDOWN then some ⟨m.vsc, true⟩
  else if m.wm.msg = WM_KEYUP then some ⟨m.vsc, false⟩
  else none

def keyMessages (forwarded : List KeyMsg) : List Change := forwarded.filterMap KeyMsg.change

/-- A message that says something of a key names it by its translation. -/
def KeyMsg.Translated (w : Setup) (m : KeyMsg) : Prop :=
  m.change ≠ none → m.wm.wParam = w.layout.translate m.vsc

/-- The last of the changes of a key. -/
def lastDown (vsc : Fin 256) (cs : List Change) : Bool :=
  cs.foldl (fun b c => if c.vsc = vsc then c.down else b) false

section observations

variable {w} {last KS : KeyTable} {vsc : Fin 256}

/-- The keys that an update forwards messages for. -/
def moved (w : Setup) (last KS : KeyTable) (vsc : Fin 256) : Bool :=
  decide (last vsc ≠ KS vsc ∧ w.layout.translate vsc ≠ 0)

theorem keyMessages_append (l l' : List KeyMsg) :
    keyMessages (l ++ l') = keyMessages l ++ keyMessages l' := List.filterMap_append

theorem keyMessages_made (vsc : Fin 256) :
    keyMessages (made w last KS vsc) =
      if moved w last KS vsc then [⟨vsc, pressed (KS vsc)⟩] else [] := by
  unfold made
  split
  · next hmoved =>
      rw [moved, if_pos (decide_eq_true hmoved)]
      cases hdown : pressed (KS vsc) with
      | true =>
          simp only [if_true]
          split
          · rfl
          · rfl
      | false =>
          simp only [Bool.false_eq_true, if_false]
          rw [if_neg fun h : _ ∧ _ => absurd h.1 (by decide)]
          rfl
  · next hsame =>
      rw [moved, if_neg (mt of_decide_eq_true hsame)]
      rfl

theorem translated_made {m : KeyMsg} (hm : m ∈ made w last KS vsc) : m.Translated w := by
  intro hchange
  unfold made at hm
  split at hm
  · dsimp only at hm
    rcases List.mem_cons.mp hm with rfl | hchar
    · rfl
    · rw [List.mem_ite_nil_right] at hchar
      rw [List.mem_singleton.mp hchar.2] at hchange
      exact absurd rfl hchange
  · cases hm

/-- A change for each of the keys of an update, in its order. -/
theorem keyMessages_flatMap (keys : List (Fin 256)) :
    keyMessages (keys.flatMap (made w last KS)) =
      (keys.filter (moved w last KS)).map fun vsc => ⟨vsc, pressed (KS vsc)⟩ := by
  induction keys with
  | nil => rfl
  | cons vsc keys ih =>
      rw [List.flatMap_cons, keyMessages_append, keyMessages_made, ih, List.filter_cons]
      split
      · rw [List.map_cons, List.singleton_append]
      · rw [List.nil_append]

theorem lastDown_map (cs : List Change) (keys : List (Fin 256)) (down : Fin 256 → Bool) :
    lastDown vsc (cs ++ keys.map fun v => ⟨v, down v⟩) =
      if vsc ∈ keys then down vsc else lastDown vsc cs := by
  induction keys using List.reverseRecOn with
  | nil => rw [List.map_nil, List.append_nil, if_neg List.not_mem_nil]
  | append_singleton keys v ih =>
      rw [List.map_append, ← List.append_assoc, List.map_singleton, lastDown, List.foldl_append]
      change (if v = vsc then down v else lastDown vsc _) = _
      rw [ih]
      by_cases hv : v = vsc
      · subst hv
        rw [if_pos rfl, if_pos (List.mem_append_right keys (List.mem_singleton_self v))]
      · have hmem : vsc ∈ keys ++ [v] ↔ vsc ∈ keys := by
          rw [List.mem_append, List.mem_singleton, or_iff_left (Ne.symm hv)]
        simp only [if_neg hv, hmem]

end observations

/-! ### What is reported -/

section reports

variable {w} {t : KeyTable} {vsc : Fin 256}

/-- The presses and releases in a list of reports, of the keys that have a translation. -/
def changes (w : Setup) : KeyTable → List Event → List Change
  | _, [] => []
  | t, e :: rgdod =>
      (if w.layout.translate e.dwOfs ≠ 0 ∧ pressed e.dwData ≠ pressed (t e.dwOfs) then
        [⟨e.dwOfs, pressed e.dwData⟩] else []) ++
        changes w (Function.update t e.dwOfs e.dwData) rgdod

/-- A sample as a list of reports. -/
def sample (KS : KeyTable) : List Event := (List.finRange 256).map fun vsc => ⟨vsc, KS vsc⟩

theorem after_map (t KS : KeyTable) (keys : List (Fin 256)) :
    after t (keys.map fun v => ⟨v, KS v⟩) vsc = if vsc ∈ keys then KS vsc else t vsc := by
  induction keys generalizing t with
  | nil => rfl
  | cons v keys ih =>
      change after (Function.update t v (KS v)) _ vsc = _
      rw [ih]
      by_cases hmem : vsc ∈ keys
      · rw [if_pos hmem, if_pos (List.mem_cons_of_mem v hmem)]
      · by_cases hv : vsc = v
        · subst hv
          rw [if_neg hmem, if_pos List.mem_cons_self, Function.update_self]
        · rw [if_neg hmem, if_neg fun h => (List.mem_cons.mp h).elim hv hmem,
            Function.update_of_ne hv]

theorem after_sample (t KS : KeyTable) : after t (sample KS) = KS := by
  funext vsc
  rw [sample, after_map, if_pos (List.mem_finRange vsc)]

/-- A key of no change is as it was. -/
theorem after_unchanged {rgdod : List Event} (hvk : w.layout.translate vsc ≠ 0)
    (h : ∀ c ∈ changes w t rgdod, c.vsc ≠ vsc) :
    pressed (after t rgdod vsc) = pressed (t vsc) := by
  induction rgdod generalizing t with
  | nil => rfl
  | cons e rgdod ih =>
      have hrest := ih fun c hc => h c (List.mem_append_right _ hc)
      change pressed (after (Function.update t e.dwOfs e.dwData) rgdod vsc) = _
      rw [hrest]
      by_cases he : vsc = e.dwOfs
      · subst he
        rw [Function.update_self]
        by_contra hne
        refine h ⟨e.dwOfs, pressed e.dwData⟩ (List.mem_append_left _ ?_) rfl
        rw [if_pos (And.intro hvk hne)]
        exact List.mem_singleton_self _
      · rw [Function.update_of_ne he]

/-- A change that comes in the order of the keys is one from what was before to what is behind all
of them. -/
theorem changes_spec {rgdod : List Event} {c : Change}
    (hsorted : (changes w t rgdod).Pairwise fun c c' => c.vsc < c'.vsc)
    (hc : c ∈ changes w t rgdod) :
    w.layout.translate c.vsc ≠ 0 ∧ pressed (after t rgdod c.vsc) = c.down ∧
      pressed (t c.vsc) ≠ c.down := by
  induction rgdod generalizing t with
  | nil => cases hc
  | cons e rgdod ih =>
      change _ ∧ pressed (after (Function.update t e.dwOfs e.dwData) rgdod c.vsc) = _ ∧ _
      rw [changes] at hsorted hc
      by_cases hchange : w.layout.translate e.dwOfs ≠ 0 ∧ pressed e.dwData ≠ pressed (t e.dwOfs)
      · rw [if_pos hchange] at hsorted hc
        obtain ⟨hhead, hrest⟩ := List.pairwise_cons.mp hsorted
        rcases List.mem_cons.mp hc with rfl | hmem
        · refine ⟨hchange.1, ?_, hchange.2.symm⟩
          rw [after_unchanged hchange.1 fun c hc => (hhead c hc).ne', Function.update_self]
        · obtain ⟨hvk, hafter, hbefore⟩ := ih hrest hmem
          rw [Function.update_of_ne (hhead c hmem).ne'] at hbefore
          exact ⟨hvk, hafter, hbefore⟩
      · rw [if_neg hchange] at hsorted hc
        obtain ⟨hvk, hafter, hbefore⟩ := ih hsorted hc
        refine ⟨hvk, hafter, ?_⟩
        by_cases he : c.vsc = e.dwOfs
        · rw [he, Function.update_self] at hbefore
          have hsame : pressed e.dwData = pressed (t e.dwOfs) := by
            by_contra hne
            exact hchange ⟨he ▸ hvk, hne⟩
          rw [he, ← hsame]
          exact hbefore
        · rw [Function.update_of_ne he] at hbefore
          exact hbefore

theorem changes_keys (t : KeyTable) (rgdod : List Event) :
    ((changes w t rgdod).map Change.vsc).Sublist (rgdod.map Event.dwOfs) := by
  induction rgdod generalizing t with
  | nil => exact .slnil
  | cons e rgdod ih =>
      rw [changes, List.map_cons, List.map_append]
      split
      · exact (ih _).cons_cons e.dwOfs
      · exact (ih _).cons e.dwOfs

/-- A sample's changes are in the order of the keys. -/
theorem changes_sample (t KS : KeyTable) :
    (changes w t (sample KS)).Pairwise fun c c' => c.vsc < c'.vsc := by
  have hkeys : (sample KS).map Event.dwOfs = List.finRange 256 := by
    rw [sample, List.map_map]
    exact List.map_id _
  refine List.pairwise_map.mp ((List.pairwise_lt_finRange 256).sublist ?_)
  rw [← hkeys]
  exact changes_keys t (sample KS)

end reports

/-! ### Runs -/

/-- The calls, with the toggles between them. -/
inductive Action
  | setUIActive (active : Bool)
  | setKeyboardExclusive (exclusive : Bool)
  | GetDeviceState (KS : KeyTable)
  | GetDeviceData (rgdod : List Event)

/-- The client, beside what the device has reported last of each key, and the presses and releases
it has reported while messages were let through. -/
structure Pair where
  client : Client := {}
  reported : KeyTable := fun _ => 0
  owed : List Change := []

/-- The reports in an action, by the key. -/
def Action.reports : Action → List Event
  | .setUIActive _ | .setKeyboardExclusive _ => []
  | .GetDeviceState KS => sample KS
  | .GetDeviceData rgdod => rgdod

def call (c : Client) : Action → Client
  | .setUIActive active => { c with isUIActive := active }
  | .setKeyboardExclusive exclusive => { c with s_bIsExclusive := exclusive }
  | .GetDeviceState KS => HookedGetDeviceState w c KS
  | .GetDeviceData rgdod => HookedGetDeviceData w c rgdod

def step (p : Pair) (a : Action) : Option Pair :=
  some
    { client := call w p.client a
      reported := after p.reported a.reports
      owed := p.owed ++ if admitted w p.client then changes w p.reported a.reports else [] }

/-- No key is left down, and nothing that was let through is missing or out of order. -/
structure NoStuckKeys (p : Pair) : Prop where
  released : ∀ vsc, w.layout.translate vsc ≠ 0 →
    lastDown vsc (keyMessages p.client.forwarded) = true → pressed (p.reported vsc) = true
  inOrder : p.owed.Sublist (keyMessages p.client.forwarded)
  translated : ∀ m ∈ p.client.forwarded, m.Translated w

/-- No key that was last forwarded as down is up in the table that follows. -/
def ReleasesNone (p : Pair) (t : KeyTable) : Prop :=
  ∀ vsc, w.layout.translate vsc ≠ 0 → lastDown vsc (keyMessages p.client.forwarded) = true →
    pressed (t vsc) = true

/-- The calls that show nothing of what is dropped, put in order or not looked at. -/
def InScope (p : Pair) : Action → Prop
  | .setUIActive _ | .setKeyboardExclusive _ => True
  | .GetDeviceState KS => admitted w p.client = true ∨ ReleasesNone w p KS
  | .GetDeviceData rgdod =>
      if p.client.KeyboardDeviceStateUsed then changes w p.reported rgdod = []
      else if admitted w p.client then
        (changes w p.reported rgdod).Pairwise fun c c' => c.vsc < c'.vsc
      else ReleasesNone w p (after p.reported rgdod)

instance decidableInScope (p : Pair) : (a : Action) → Decidable (InScope w p a)
  | .setUIActive _ | .setKeyboardExclusive _ => .isTrue trivial
  | .GetDeviceState _ => by
      unfold InScope ReleasesNone
      infer_instance
  | .GetDeviceData _ => by
      unfold InScope ReleasesNone
      infer_instance

/-- The invariant: what is remembered of a key goes with what was reported of it. -/
structure Inv (p : Pair) : Prop where
  noStuckKeys : NoStuckKeys w p
  agrees : ∀ vsc, w.layout.translate vsc ≠ 0 →
    pressed (p.client.s_KS vsc) = pressed (p.reported vsc)
  buffered : p.client.KeyboardDeviceStateUsed = false → p.client.data = p.reported

section inv

variable {w} {p p' : Pair} {a : Action}

/-- The changes that come in the order of the keys are all found by one update. -/
theorem changes_sublist {KS : KeyTable} {rgdod : List Event} {p : Pair}
    (hagrees : ∀ vsc, w.layout.translate vsc ≠ 0 →
      pressed (p.client.s_KS vsc) = pressed (p.reported vsc))
    (hKS : after p.reported rgdod = KS)
    (hsorted : (changes w p.reported rgdod).Pairwise fun c c' => c.vsc < c'.vsc) :
    (changes w p.reported rgdod).Sublist
      (((List.finRange 256).filter (moved w p.client.s_KS KS)).map
        fun vsc => ⟨vsc, pressed (KS vsc)⟩) := by
  have : Std.Antisymm fun c c' : Change => c.vsc < c'.vsc :=
    ⟨fun _ _ h h' => absurd h (not_lt.mpr h'.le)⟩
  refine List.sublist_of_subperm_of_pairwise (List.subperm_of_subset ?_ fun c hc => ?_) hsorted ?_
  · exact hsorted.imp fun h heq => (heq ▸ h).ne rfl
  · obtain ⟨hvk, hafter, hbefore⟩ := changes_spec hsorted hc
    rw [hKS] at hafter
    have hmoved : moved w p.client.s_KS KS c.vsc = true := by
      refine decide_eq_true ⟨fun hsame => hbefore ?_, hvk⟩
      rw [← hagrees c.vsc hvk, hsame, hafter]
    refine List.mem_map.mpr ⟨c.vsc, List.mem_filter.mpr ⟨List.mem_finRange _, hmoved⟩, ?_⟩
    rw [hafter]
  · exact List.pairwise_map.mpr ((List.pairwise_lt_finRange 256).filter _)

theorem NoStuckKeys.congr {c c' : Client} {reported : KeyTable} {owed : List Change}
    (h : NoStuckKeys w ⟨c, reported, owed⟩) (hf : c'.forwarded = c.forwarded) :
    NoStuckKeys w ⟨c', reported, owed⟩ :=
  ⟨hf ▸ h.released, hf ▸ h.inOrder, hf ▸ h.translated⟩

/-- An update to a table with what has been reported. -/
theorem NoStuckKeys.update (h : NoStuckKeys w p)
    (hagrees : ∀ vsc, w.layout.translate vsc ≠ 0 →
      pressed (p.client.s_KS vsc) = pressed (p.reported vsc))
    {KS : KeyTable} {rgdod : List Event} {c c' : Client}
    (hs : c.s_KS = p.client.s_KS) (hf : c.forwarded = p.client.forwarded)
    (hadm : admitted w c = admitted w p.client)
    (hc' : Remembers w KS (List.finRange 256) c c') (hKS : after p.reported rgdod = KS)
    (hin : if admitted w p.client then
        (changes w p.reported rgdod).Pairwise fun c c' => c.vsc < c'.vsc
      else ReleasesNone w p KS) :
    NoStuckKeys w ⟨c', KS,
      p.owed ++ if admitted w p.client then changes w p.reported rgdod else []⟩ := by
  have hforwarded := hc'.forwarded
  rw [hs, hf, hadm] at hforwarded
  split at hin
  · next hlet =>
      rw [if_pos hlet] at hforwarded ⊢
      have hmessages : keyMessages c'.forwarded = keyMessages p.client.forwarded ++
          ((List.finRange 256).filter (moved w p.client.s_KS KS)).map
            fun vsc => ⟨vsc, pressed (KS vsc)⟩ := by
        rw [hforwarded, keyMessages_append, keyMessages_flatMap]
      refine ⟨fun vsc hvk hdown => ?_, ?_, fun m hm hchange => ?_⟩
      · dsimp only at hdown ⊢
        rw [hmessages, lastDown_map] at hdown
        split at hdown
        · exact hdown
        · next hsame =>
            -- the key was not moved, so it is as it was when it was last forwarded
            have hkept : p.client.s_KS vsc = KS vsc := by
              by_contra hne
              exact hsame (List.mem_filter.mpr ⟨List.mem_finRange _, decide_eq_true ⟨hne, hvk⟩⟩)
            rw [← hkept, hagrees vsc hvk]
            exact h.released vsc hvk hdown
      · dsimp only
        rw [hmessages]
        exact h.inOrder.append (changes_sublist hagrees hKS hin)
      · dsimp only at hm
        rw [hforwarded] at hm
        rcases List.mem_append.mp hm with hold | hnew
        · exact h.translated m hold hchange
        · obtain ⟨vsc, -, hmade⟩ := List.mem_flatMap.mp hnew
          exact translated_made hmade hchange
  · next hlet =>
      rw [if_neg hlet, List.append_nil] at hforwarded ⊢
      refine ⟨fun vsc hvk hdown => ?_, ?_, fun m hm => ?_⟩
      · dsimp only at hdown
        rw [hforwarded] at hdown
        exact hin vsc hvk hdown
      · dsimp only
        rw [hforwarded]
        exact h.inOrder
      · dsimp only at hm
        rw [hforwarded] at hm
        exact h.translated m hm

/-- A buffer that is not looked at reports what has been reported. -/
theorem Inv.unlooked (h : Inv w p) {rgdod : List Event}
    (hnothing : changes w p.reported rgdod = []) (hused : p.client.KeyboardDeviceStateUsed = true) :
    Inv w ⟨p.client, after p.reported rgdod, p.owed⟩ := by
  have hsame (vsc : Fin 256) (hvk : w.layout.translate vsc ≠ 0) :
      pressed (after p.reported rgdod vsc) = pressed (p.reported vsc) := by
    refine after_unchanged hvk fun c hc => ?_
    rw [hnothing] at hc
    cases hc
  refine ⟨⟨fun vsc hvk hdown => ?_, h.noStuckKeys.inOrder, h.noStuckKeys.translated⟩,
    fun vsc hvk => ?_, fun hnot => ?_⟩
  · rw [hsame vsc hvk]
    exact h.noStuckKeys.released vsc hvk hdown
  · rw [hsame vsc hvk]
    exact h.agrees vsc hvk
  · rw [hused] at hnot
    cases hnot

/-- **The step.** -/
theorem Inv.step (h : Inv w p) (hin : InScope w p a) (hs : Keyboard.step w p a = some p') :
    Inv w p' := by
  cases hs
  have htoggled : p.owed ++ (if admitted w p.client then [] else []) = p.owed := by
    rw [ite_self, List.append_nil]
  have hall (vsc : Fin 256) : vsc ∈ List.finRange 256 := List.mem_finRange vsc
  cases a with
  | setUIActive active =>
      dsimp only [Action.reports, changes]
      rw [htoggled]
      exact ⟨h.noStuckKeys.congr rfl, h.agrees, h.buffered⟩
  | setKeyboardExclusive exclusive =>
      dsimp only [Action.reports, changes]
      rw [htoggled]
      exact ⟨h.noStuckKeys.congr rfl, h.agrees, h.buffered⟩
  | GetDeviceState KS =>
      have hc' := remembers_updateKeyState (w := w) p.client KS
      have hKS := after_sample p.reported KS
      have hscope : if admitted w p.client then
          (changes w p.reported (sample KS)).Pairwise fun c c' => c.vsc < c'.vsc
        else ReleasesNone w p KS := by
        split
        · exact changes_sample p.reported KS
        · next hdropped => exact hin.resolve_left hdropped
      dsimp only [Action.reports, Keyboard.call, HookedGetDeviceState]
      rw [hKS]
      generalize updateKeyState w p.client KS = c' at hc' ⊢
      refine ⟨(h.noStuckKeys.update h.agrees rfl rfl rfl hc' hKS hscope).congr rfl,
        fun vsc hvk => ?_, nofun⟩
      have hremembered := hc'.s_KS vsc hvk
      rw [if_pos (hall vsc)] at hremembered
      exact congrArg pressed hremembered
  | GetDeviceData rgdod =>
      dsimp only [Action.reports, Keyboard.call]
      cases hused : p.client.KeyboardDeviceStateUsed with
      | true =>
          simp only [InScope, hused, if_true] at hin
          rw [HookedGetDeviceData, if_neg (ne_of_eq_of_ne hused (by decide)), hin, htoggled]
          exact h.unlooked hin hused
      | false =>
          simp only [InScope, hused, Bool.false_eq_true, if_false] at hin
          have hc' := remembers_HookedGetDeviceData (w := w) rgdod hused
          rw [h.buffered hused] at hc'
          generalize HookedGetDeviceData w p.client rgdod = c' at hc' ⊢
          refine ⟨h.noStuckKeys.update (c := { p.client with data := after p.reported rgdod })
            h.agrees rfl rfl rfl hc' rfl hin, fun vsc hvk => ?_, fun _ => hc'.data⟩
          have hremembered := hc'.s_KS vsc hvk
          rw [if_pos (hall vsc)] at hremembered
          exact congrArg pressed hremembered

theorem inv_start (w : Setup) : Inv w {} where
  noStuckKeys := ⟨fun _ _ => nofun, .slnil, fun _ => nofun⟩
  agrees _ _ := rfl
  buffered _ := rfl

end inv

/-! ### Every run -/

/-- The last that was forwarded of a virtual key, which more than one key may have. -/
def virtualKeyDown (vk : Nat) (forwarded : List KeyMsg) : Bool :=
  forwarded.foldl (fun b m => match m.change with
    | some c => if m.wm.wParam = vk then c.down else b
    | none => b) false

theorem lastDown_of_virtualKeyDown {w : Setup} {vk : Nat} {l : List KeyMsg}
    (htranslated : ∀ m ∈ l, m.Translated w) (hdown : virtualKeyDown vk l = true) :
    ∃ vsc, w.layout.translate vsc = vk ∧ lastDown vsc (keyMessages l) = true := by
  induction l using List.reverseRecOn with
  | nil => cases hdown
  | append_singleton l m ih =>
      have hbefore := ih fun m' hm' => htranslated m' (List.mem_append_left [m] hm')
      have hm := htranslated m (List.mem_append_right l (List.mem_singleton_self m))
      rw [virtualKeyDown, List.foldl_append] at hdown
      change (match m.change with
        | some c => if m.wm.wParam = vk then c.down else virtualKeyDown vk l
        | none => virtualKeyDown vk l) = true at hdown
      have hlast (vsc : Fin 256) : lastDown vsc (keyMessages (l ++ [m])) =
          match m.change with
          | some c => if c.vsc = vsc then c.down else lastDown vsc (keyMessages l)
          | none => lastDown vsc (keyMessages l) := by
        rw [keyMessages_append, lastDown, List.foldl_append, keyMessages, keyMessages,
          List.filterMap_cons]
        cases m.change <;> rfl
      cases hc : m.change with
      | none =>
          simp only [hc] at hdown hlast
          obtain ⟨vsc, hvk, hkey⟩ := hbefore hdown
          exact ⟨vsc, hvk, (hlast vsc).trans hkey⟩
      | some c =>
          have hvsc : c.vsc = m.vsc := by
            unfold KeyMsg.change at hc
            split at hc
            · cases hc
              rfl
            · split at hc
              · cases hc
                rfl
              · cases hc
          have hwParam := hm (by rw [hc]; exact Option.some_ne_none c)
          simp only [hc] at hdown hlast
          split at hdown
          · next hvk =>
              refine ⟨c.vsc, hvsc ▸ hwParam.symm.trans hvk, ?_⟩
              rw [hlast, if_pos rfl, hdown]
          · next hvk =>
              obtain ⟨vsc, hkey, hlastDown⟩ := hbefore hdown
              refine ⟨vsc, hkey, ?_⟩
              rw [hlast, if_neg, hlastDown]
              rintro rfl
              exact hvk (hwParam.trans (hvsc ▸ hkey))

/-- A virtual key that was last forwarded as down is that of a key that is down. -/
theorem NoStuckKeys.virtualKey {w : Setup} {p : Pair} (h : NoStuckKeys w p) {vk : Nat}
    (hvk : vk ≠ 0) (hdown : virtualKeyDown vk p.client.forwarded = true) :
    ∃ vsc, w.layout.translate vsc = vk ∧ pressed (p.reported vsc) = true := by
  obtain ⟨vsc, hkey, hlast⟩ := lastDown_of_virtualKeyDown h.translated hdown
  exact ⟨vsc, hkey, h.released vsc (hkey ▸ hvk) hlast⟩

end RemixBridge.Keyboard
