import RemixBridge.Support.Runs
import Mathlib.Logic.Function.Basic

/-!
# Input — WndProc

The window procedure that the client puts in place of the game's (`window.cpp`), and its detours of
`SetWindowLong` and `GetWindowLong`, which answer for the hooked window from `g_gameWndProc`.

A window's procedure is of one of two character sets.  The `A` and the `W` functions take and give
an address where the procedure is of their own, and a handle for `CallWindowProc` where it is of the
other.  The client hooks with `SetWindowLongA`.

* `Covers`: a state of the client and the windows as they would be without it.
* `transparent_iff`: in a run the client goes unnoticed exactly while each call for the hooked
  window is of the version that the remembered value was made for.
-/

namespace RemixBridge.WndProc
open Runs

inductive Charset
  | ansi
  | unicode
deriving DecidableEq

/-- A window's procedure, as the window has it. -/
structure Procedure (Proc : Type*) where
  proc : Proc
  charset : Charset
deriving DecidableEq

/-- A window's procedure, as it is passed to the functions and returned. -/
inductive WNDPROC (Proc : Type*)
  | address (proc : Proc)
  | handle (proc : Proc) (charset : Charset)
deriving DecidableEq

section user32

variable {Window Proc : Type*} [DecidableEq Window]

/-- What the version for a character set returns for a procedure. -/
def Procedure.given (e : Procedure Proc) (cs : Charset) : WNDPROC Proc :=
  if e.charset = cs then .address e.proc else .handle e.proc e.charset

/-- The procedure that it takes a value for. -/
def WNDPROC.taken (v : WNDPROC Proc) (cs : Charset) : Procedure Proc :=
  match v with
  | .address p => ⟨p, cs⟩
  | .handle p cs' => ⟨p, cs'⟩

def OrigGetWindowLong (cs : Charset) (windows : Window → Procedure Proc) (hWnd : Window) :
    WNDPROC Proc :=
  (windows hWnd).given cs

/-- The windows behind a `SetWindowLong`, which returns what `GetWindowLong` did before it. -/
def OrigSetWindowLong (cs : Charset) (windows : Window → Procedure Proc) (hWnd : Window)
    (dwNewLong : WNDPROC Proc) : Window → Procedure Proc :=
  Function.update windows hWnd (dwNewLong.taken cs)

@[simp] theorem taken_given (e : Procedure Proc) (cs : Charset) : (e.given cs).taken cs = e := by
  unfold Procedure.given
  split
  · next h =>
      subst h
      rfl
  · rfl

end user32

/-! ### The client -/

/-- The globals of the client, and the windows. -/
structure State (Window Proc : Type*) where
  g_hwnd : Option Window
  g_gameWndProc : Option (WNDPROC Proc)
  windows : Window → Procedure Proc

section client

variable {Window Proc : Type*} [DecidableEq Window] (RemixWndProc : Proc)
  (s : State Window Proc)

/-- `NewGetWindowLong`, for `GWLP_WNDPROC`. -/
def NewGetWindowLong (cs : Charset) (hWnd : Window) : WNDPROC Proc :=
  match s.g_hwnd, s.g_gameWndProc with
  | some g_hwnd, some g_gameWndProc =>
      if hWnd = g_hwnd then g_gameWndProc else OrigGetWindowLong cs s.windows hWnd
  | _, _ => OrigGetWindowLong cs s.windows hWnd

/-- `NewSetWindowLong`, for `GWLP_WNDPROC`: its result. -/
def NewSetWindowLong (cs : Charset) (hWnd : Window) : WNDPROC Proc :=
  match s.g_hwnd, s.g_gameWndProc with
  | some g_hwnd, some g_gameWndProc =>
      if hWnd ≠ g_hwnd then OrigGetWindowLong cs s.windows hWnd else g_gameWndProc
  | _, _ => OrigGetWindowLong cs s.windows hWnd

/-- And what it leaves. -/
def State.setWindowLong (cs : Charset) (hWnd : Window) (dwNewLong : WNDPROC Proc) :
    State Window Proc :=
  match s.g_hwnd, s.g_gameWndProc with
  | some g_hwnd, some _ =>
      if hWnd ≠ g_hwnd then
        { s with windows := OrigSetWindowLong cs s.windows hWnd dwNewLong }
      else { s with g_gameWndProc := some dwNewLong }
  | _, _ => { s with windows := OrigSetWindowLong cs s.windows hWnd dwNewLong }

/-- `unset`: without a window, or without a procedure to give it, `SetWindowLongA` fails. -/
def State.unset : State Window Proc where
  g_hwnd := none
  g_gameWndProc := none
  windows :=
    match s.g_hwnd, s.g_gameWndProc with
    | some g_hwnd, some g_gameWndProc => OrigSetWindowLong .ansi s.windows g_hwnd g_gameWndProc
    | _, _ => s.windows

/-- `g_hwnd && (hwnd != g_hwnd)`. -/
def State.bHwndReset (hwnd : Window) : Bool := s.g_hwnd.any (hwnd ≠ ·)

def State.set (hwnd : Window) : State Window Proc :=
  let s := if s.g_gameWndProc.isSome ∨ s.bHwndReset hwnd then s.unset else s
  { g_hwnd := some hwnd
    g_gameWndProc := some (OrigGetWindowLong .ansi s.windows hwnd)
    windows := OrigSetWindowLong .ansi s.windows hwnd (.address RemixWndProc) }

/-- The procedure that `RemixWndProc` calls for a message that it does not swallow: with
`CallWindowProcA` or `CallWindowProcW`, by `IsWindowUnicode`. -/
def State.forwards (hWnd : Window) : Option (Procedure Proc) :=
  s.g_gameWndProc.map (·.taken (s.windows hWnd).charset)

end client

/-! ### Runs -/

inductive Action (Window Proc : Type*)
  | set (hwnd : Window)
  | unset
  | setWindowLong (cs : Charset) (hWnd : Window) (dwNewLong : WNDPROC Proc)
  | getWindowLong (cs : Charset) (hWnd : Window)

/-- The client with the windows, and the windows of a game without it. -/
structure Pair (Window Proc : Type*) where
  client : State Window Proc
  ideal : Window → Procedure Proc

section runs

variable {Window Proc : Type*} [DecidableEq Window] (RemixWndProc : Proc)

def step (p : Pair Window Proc) : Action Window Proc → Option (Pair Window Proc)
  | .set hwnd => some { p with client := p.client.set RemixWndProc hwnd }
  | .unset => some { p with client := p.client.unset }
  | .setWindowLong cs hWnd dwNewLong => some
      { client := p.client.setWindowLong cs hWnd dwNewLong
        ideal := OrigSetWindowLong cs p.ideal hWnd dwNewLong }
  | .getWindowLong _ _ => some p

/-- An application's call returns what it would without the client. -/
def Answered (p : Pair Window Proc) : Action Window Proc → Prop
  | .setWindowLong cs hWnd _ =>
      NewSetWindowLong p.client cs hWnd = OrigGetWindowLong cs p.ideal hWnd
  | .getWindowLong cs hWnd =>
      NewGetWindowLong p.client cs hWnd = OrigGetWindowLong cs p.ideal hWnd
  | _ => True

/-- The hooked window has `RemixWndProc`, which forwards to the procedure that the application last
set for the window; every other window has the one that the application last set for it. -/
structure Covers (p : Pair Window Proc) : Prop where
  hooked : ∀ h, p.client.g_hwnd = some h →
    p.client.windows h = ⟨RemixWndProc, .ansi⟩ ∧ p.client.forwards h = some (p.ideal h)
  others : ∀ w, p.client.g_hwnd ≠ some w → p.client.windows w = p.ideal w
  none : p.client.g_hwnd = none → p.client.g_gameWndProc = none

/-- The client goes unnoticed by the call, and does behind it. -/
def Transparent (p : Pair Window Proc) (a : Action Window Proc) : Prop :=
  Answered p a ∧ ∀ p', step RemixWndProc p a = some p' → Covers RemixWndProc p'

/-- The version for a character set is what a value was made for: it would return it for the
procedure that `CallWindowProcA` takes it for. -/
def WNDPROC.MadeFor (v : WNDPROC Proc) (cs : Charset) : Prop :=
  match v with
  | .address _ => cs = .ansi
  | .handle _ cs' => cs' ≠ cs

/-- A value that both versions take for the same procedure. -/
def WNDPROC.isHandle : WNDPROC Proc → Prop
  | .address _ => False
  | .handle _ _ => True

/-- Of a call for the hooked window: its version is what the remembered value was made for, and the
value it sets is for `SetWindowLongA` or a handle. -/
def InVersion (p : Pair Window Proc) : Action Window Proc → Prop
  | .setWindowLong cs hWnd dwNewLong => p.client.g_hwnd = some hWnd →
      (∀ g ∈ p.client.g_gameWndProc, g.MadeFor cs) ∧ (cs = .ansi ∨ dwNewLong.isHandle)
  | .getWindowLong cs hWnd => p.client.g_hwnd = some hWnd →
      ∀ g ∈ p.client.g_gameWndProc, g.MadeFor cs
  | _ => True

end runs

/-! ### Values -/

section values

variable {Proc : Type*} {v : WNDPROC Proc} {cs : Charset}

theorem given_taken_iff : (v.taken .ansi).given cs = v ↔ v.MadeFor cs := by
  cases v with
  | address p =>
      simp only [WNDPROC.taken, Procedure.given, WNDPROC.MadeFor]
      by_cases h : Charset.ansi = cs
      · simp [h]
      · simpa [h] using Ne.symm h
  | handle p cs' =>
      simp only [WNDPROC.taken, Procedure.given, WNDPROC.MadeFor]
      by_cases h : cs' = cs
      · simp [h]
      · simp [h]

theorem taken_eq_iff : v.taken .ansi = v.taken cs ↔ cs = .ansi ∨ v.isHandle := by
  cases v with
  | address p => simp [WNDPROC.taken, WNDPROC.isHandle, eq_comm]
  | handle p cs' => simp [WNDPROC.taken, WNDPROC.isHandle]

end values

/-! ### Every step -/

section steps

variable {Window Proc : Type*} {RemixWndProc : Proc} {p : Pair Window Proc}

/-- A client that hooks a window remembers a procedure for it. -/
theorem Covers.remembered (h : Covers RemixWndProc p) {w : Window}
    (hw : p.client.g_hwnd = some w) :
    ∃ g, p.client.g_gameWndProc = some g ∧ g.taken .ansi = p.ideal w := by
  obtain ⟨hremix, hforwards⟩ := h.hooked w hw
  rw [State.forwards, hremix, Option.map_eq_some_iff] at hforwards
  exact hforwards

variable [DecidableEq Window]

/-- Without the client's procedure the windows are as they would be. -/
theorem Covers.unset_windows (h : Covers RemixWndProc p) : p.client.unset.windows = p.ideal := by
  funext w
  cases hw : p.client.g_hwnd with
  | none =>
      have hother := h.others w (by rw [hw]; nofun)
      simpa only [State.unset, hw] using hother
  | some h' =>
      obtain ⟨g, hg, htaken⟩ := h.remembered hw
      simp only [State.unset, hw, hg, OrigSetWindowLong]
      by_cases heq : w = h'
      · subst heq
        rw [Function.update_self, htaken]
      · rw [Function.update_of_ne heq]
        exact h.others w (by rw [hw]; exact fun hsome => heq (Option.some.inj hsome).symm)

theorem Covers.unset (h : Covers RemixWndProc p) :
    Covers RemixWndProc { p with client := p.client.unset } where
  hooked := nofun
  others w _ := congrFun h.unset_windows w
  none _ := rfl

/-- So they are when the client comes to hook a window. -/
theorem Covers.before_set (h : Covers RemixWndProc p) (hwnd : Window) :
    (if p.client.g_gameWndProc.isSome ∨ p.client.bHwndReset hwnd then p.client.unset
      else p.client).windows = p.ideal := by
  split
  · exact h.unset_windows
  · next hfresh =>
      cases hw : p.client.g_hwnd with
      | none =>
          funext w
          exact h.others w (by rw [hw]; nofun)
      | some w =>
          obtain ⟨g, hg, -⟩ := h.remembered hw
          exact absurd (.inl (hg ▸ rfl)) hfresh

theorem Covers.set (h : Covers RemixWndProc p) (hwnd : Window) :
    Covers RemixWndProc { p with client := p.client.set RemixWndProc hwnd } := by
  have hbefore := h.before_set hwnd
  refine ⟨fun w hw => ?_, fun w hw => ?_, nofun⟩
  · cases hw
    simp only [State.set, State.forwards, hbefore, OrigSetWindowLong, OrigGetWindowLong,
      Function.update_self, Option.map_some]
    exact ⟨rfl, congrArg some (taken_given (p.ideal hwnd) .ansi)⟩
  · have hne : w ≠ hwnd := fun heq => hw (heq ▸ rfl)
    simp only [State.set, hbefore, OrigSetWindowLong, Function.update_of_ne hne]

/-- What `GetWindowLong` answers for a window that is not hooked. -/
theorem Covers.get_other (h : Covers RemixWndProc p) {w : Window}
    (hw : p.client.g_hwnd ≠ some w) (cs : Charset) :
    NewGetWindowLong p.client cs w = OrigGetWindowLong cs p.ideal w := by
  have hother := h.others w hw
  unfold NewGetWindowLong
  split
  · next h' g hh hg =>
      have hne : w ≠ h' := fun heq => hw (heq ▸ hh)
      rw [if_neg hne, OrigGetWindowLong, hother, OrigGetWindowLong]
  · rw [OrigGetWindowLong, hother, OrigGetWindowLong]

/-- And for the one that is. -/
theorem Covers.get_hooked (h : Covers RemixWndProc p) {w : Window}
    (hw : p.client.g_hwnd = some w) (cs : Charset) :
    NewGetWindowLong p.client cs w = OrigGetWindowLong cs p.ideal w ↔
      ∀ g ∈ p.client.g_gameWndProc, g.MadeFor cs := by
  obtain ⟨g, hg, htaken⟩ := h.remembered hw
  simp only [NewGetWindowLong, hw, hg, if_pos, OrigGetWindowLong, ← htaken, Option.mem_some_iff,
    forall_eq']
  rw [eq_comm]
  exact given_taken_iff

theorem newSet_eq_newGet (s : State Window Proc) (cs : Charset) (w : Window) :
    NewSetWindowLong s cs w = NewGetWindowLong s cs w := by
  unfold NewSetWindowLong NewGetWindowLong
  split
  · simp only [ne_eq, ite_not]
  · rfl

/-- A set for a window that is not hooked goes through. -/
theorem Covers.set_other (h : Covers RemixWndProc p) {w : Window}
    (hw : p.client.g_hwnd ≠ some w) (cs : Charset) (v : WNDPROC Proc) :
    Covers RemixWndProc
      ⟨p.client.setWindowLong cs w v, OrigSetWindowLong cs p.ideal w v⟩ := by
  have hthrough : p.client.setWindowLong cs w v =
      { p.client with windows := OrigSetWindowLong cs p.client.windows w v } := by
    unfold State.setWindowLong
    split
    · next h' g hh hg =>
        have hne : w ≠ h' := fun heq => hw (heq ▸ hh)
        rw [if_pos hne]
    · rfl
  rw [hthrough]
  refine ⟨fun h' hh => ?_, fun w' hw' => ?_, h.none⟩
  · have hne : h' ≠ w := fun heq => hw (heq ▸ hh)
    have hold := h.hooked h' hh
    simp only [State.forwards] at hold
    simpa only [State.forwards, OrigSetWindowLong, Function.update_of_ne hne] using hold
  · by_cases heq : w' = w
    · subst heq
      simp only [OrigSetWindowLong, Function.update_self]
    · simp only [OrigSetWindowLong, Function.update_of_ne heq]
      exact h.others w' hw'

/-- One for the hooked window is remembered. -/
theorem Covers.set_hooked (h : Covers RemixWndProc p) {w : Window}
    (hw : p.client.g_hwnd = some w) (cs : Charset) (v : WNDPROC Proc) :
    Covers RemixWndProc
        ⟨p.client.setWindowLong cs w v, OrigSetWindowLong cs p.ideal w v⟩ ↔
      cs = .ansi ∨ v.isHandle := by
  obtain ⟨g, hg, -⟩ := h.remembered hw
  have hremix := (h.hooked w hw).1
  have hkept : p.client.setWindowLong cs w v = { p.client with g_gameWndProc := some v } := by
    simp only [State.setWindowLong, hw, hg, ne_eq, not_true_eq_false, if_false]
  rw [hkept, ← taken_eq_iff]
  constructor
  · intro h'
    obtain ⟨-, hforwards⟩ := h'.hooked w hw
    simpa only [State.forwards, hremix, OrigSetWindowLong, Function.update_self, Option.map_some,
      Option.some.injEq] using hforwards
  · intro htaken
    refine ⟨fun h' hh => ?_, fun w' hw' => ?_, fun hnone => ?_⟩
    · have heq : h' = w := Option.some.inj (hh.symm.trans hw)
      subst heq
      simp only [State.forwards, hremix, OrigSetWindowLong, Function.update_self, Option.map_some,
        htaken, and_self]
    · have hne : w' ≠ w := fun heq => hw' (heq ▸ hw)
      simp only [OrigSetWindowLong, Function.update_of_ne hne]
      exact h.others w' hw'
    · rw [hw] at hnone
      cases hnone

/-- **The step.** -/
theorem Covers.unnoticed (h : Covers RemixWndProc p) (a : Action Window Proc) :
    Transparent RemixWndProc p a ↔ InVersion p a := by
  cases a with
  | set hwnd =>
      refine ⟨fun _ => trivial, fun _ => ⟨trivial, fun p' hs => ?_⟩⟩
      cases hs
      exact h.set hwnd
  | unset =>
      refine ⟨fun _ => trivial, fun _ => ⟨trivial, fun p' hs => ?_⟩⟩
      cases hs
      exact h.unset
  | getWindowLong cs w =>
      have hkept : Transparent RemixWndProc p (.getWindowLong cs w) ↔
          NewGetWindowLong p.client cs w = OrigGetWindowLong cs p.ideal w :=
        ⟨And.left, fun hans => ⟨hans, fun p' hs => Option.some.inj hs ▸ h⟩⟩
      rw [hkept]
      by_cases hw : p.client.g_hwnd = some w
      · rw [h.get_hooked hw]
        exact ⟨fun hmade _ => hmade, fun hin => hin hw⟩
      · exact ⟨fun _ heq => absurd heq hw, fun _ => h.get_other hw cs⟩
  | setWindowLong cs w v =>
      have hkept : Transparent RemixWndProc p (.setWindowLong cs w v) ↔
          NewGetWindowLong p.client cs w = OrigGetWindowLong cs p.ideal w ∧
            Covers RemixWndProc
              ⟨p.client.setWindowLong cs w v, OrigSetWindowLong cs p.ideal w v⟩ := by
        rw [← newSet_eq_newGet]
        exact ⟨fun ht => ⟨ht.1, ht.2 _ rfl⟩,
          fun ht => ⟨ht.1, fun p' hs => Option.some.inj hs ▸ ht.2⟩⟩
      rw [hkept]
      by_cases hw : p.client.g_hwnd = some w
      · rw [h.get_hooked hw, h.set_hooked hw]
        exact ⟨fun hin _ => hin, fun hin => hin hw⟩
      · exact ⟨fun _ heq => absurd heq hw, fun _ => ⟨h.get_other hw cs, h.set_other hw cs v⟩⟩

end steps

/-! ### Every run -/

section all

variable {Window Proc : Type*}

/-- Nothing hooked. -/
def start (windows : Window → Procedure Proc) : Pair Window Proc where
  client := { g_hwnd := none, g_gameWndProc := none, windows := windows }
  ideal := windows

theorem covers_start (RemixWndProc : Proc) (windows : Window → Procedure Proc) :
    Covers RemixWndProc (start windows) :=
  ⟨nofun, fun _ _ => rfl, fun _ => rfl⟩

/-- **Transparency.**  In every run over any windows, every call of the application returns what it
would without the client, with the client forwarding to the procedure last set for the hooked
window and every other window having its own, exactly when each call for the hooked window is in
the version that the client's value is made for. -/
theorem transparent_iff [DecidableEq Window] (RemixWndProc : Proc) (windows : Window → Procedure Proc)
    (as : List (Action Window Proc)) :
    Along (step RemixWndProc) (Transparent RemixWndProc) (start windows) as ↔
      Along (step RemixWndProc) InVersion (start windows) as :=
  along_iff (fun _ a h => h.unnoticed a)
    (fun _ a _ h hin hs => (h.unnoticed a |>.mpr hin).2 _ hs)
    (covers_start RemixWndProc windows) as

end all

/-- A window of the Unicode version: what its game is told of its own procedure. -/
theorem unicode_window_seen :
    ¬ ∀ as : List (Action Bool Nat),
      Along (step 1) (Transparent 1) (start fun _ => ⟨7, .unicode⟩) as := by
  intro hall
  have hget := ((hall [.set true, .getWindowLong .unicode true]).2 _ rfl).1.1
  have hsame : WNDPROC.handle 7 .unicode = WNDPROC.address 7 := hget
  cases hsame

end RemixBridge.WndProc
