import RemixBridge.Support.Runs
import Mathlib.Algebra.Order.Group.Int
import Mathlib.Data.BitVec
import Mathlib.Data.Int.Basic

/-!
# Input — Mouse

What the client forwards of a DirectInput mouse (`di_hook.cpp`), while the mouse is exclusive and
the policy admits every message: window messages, made from the samples of `GetDeviceState` and, as
long as there has been none, from the events of `GetDeviceData`.

A message is left out where the one remembered for its kind is the same.  An event of one axis or
button is made a sample of its own, with zeros for everything else.

* `Tracks`: how the remembered state and messages go with what has been forwarded.
* `Sampled`: what one sample forwards.
* `mouse_faithful`: a run forwards what the device reports, as long as its samples and events are
  such that nothing left out or made up shows.
-/

namespace RemixBridge.Mouse
open Runs

/-! ### Messages -/

def WM_MOUSEMOVE : Nat := 0x200
def WM_LBUTTONDOWN : Nat := 0x201
def WM_LBUTTONUP : Nat := 0x202
def WM_RBUTTONDOWN : Nat := 0x204
def WM_RBUTTONUP : Nat := 0x205
def WM_MOUSEWHEEL : Nat := 0x20a

def MK_LBUTTON : Nat := 0x1
def MK_RBUTTON : Nat := 0x2
def MK_SHIFT : Nat := 0x4
def MK_CONTROL : Nat := 0x8

structure WndMsg where
  hWnd : Nat := 0
  msg : Nat := 0
  wParam : Nat := 0
  lParam : Nat := 0
deriving DecidableEq

def LOWORD (w : Nat) : Nat := w % 0x10000

def HIWORD (w : Nat) : Nat := w / 0x10000 % 0x10000

/-- `MAKELONG(low, high)`, of a `LONG` of which the low word is taken. -/
def MAKELONG (low : Nat) (high : Int) : Nat := LOWORD low + (high % 0x10000).toNat * 0x10000

def GET_WHEEL_DELTA_WPARAM (wParam : Nat) : Int := Int.bmod (HIWORD wParam) (0x10000)

/-- `x | (y << 16)`. -/
def packed (x y : Int) : Nat := (x.toNat ||| y.toNat <<< 16) % 0x100000000

/-! ### The forwarder -/

/-- `DIMOUSESTATE`, as much as is used of it. -/
structure MouseState where
  lX : Int := 0
  lY : Int := 0
  lZ : Int := 0
  button0 : BitVec 8 := 0
  button1 : BitVec 8 := 0
deriving DecidableEq

def pressed (button : BitVec 8) : Bool := button &&& 0x80 ≠ 0

/-- The window that the cursor is kept in. -/
structure Window where
  s_hwnd : Nat
  s_windowWidth : Nat
  s_windowHeight : Nat

/-- The remembered state and messages, and all that has been forwarded. -/
structure Forwarder where
  s_mouseX : Int := 0
  s_mouseY : Int := 0
  s_mouseButton0 : BitVec 8 := 0
  s_mouseButton1 : BitVec 8 := 0
  s_mouseMove : WndMsg := {}
  s_mouseLButton : WndMsg := {}
  s_mouseRButton : WndMsg := {}
  s_mouseWheel : WndMsg := {}
  forwarded : List WndMsg := []

/-- The modifier keys of `s_KS`. -/
structure Modifiers where
  control : Bool
  shift : Bool

/-- A `LONG`. -/
def long (x : Int) : Int := Int.bmod x (0x100000000)

/-- The two tests at either end of the window. -/
def clamp (size : Nat) (x : Int) : Int :=
  if x < 0 then 0 else if x > size then size else x

section forwarder

variable (w : Window) (f : Forwarder)

def Forwarder.forwardMessage (wm : WndMsg) : Forwarder :=
  { f with forwarded := f.forwarded ++ [wm] }

def Forwarder.moveCursor (state : MouseState) (isAbsoluteAxis : Bool) : Forwarder :=
  { f with
    s_mouseX :=
      clamp w.s_windowWidth (if isAbsoluteAxis then state.lX else long (f.s_mouseX + state.lX))
    s_mouseY :=
      clamp w.s_windowHeight (if isAbsoluteAxis then state.lY else long (f.s_mouseY + state.lY)) }

def wParamOf (state : MouseState) (keys : Modifiers) : Nat :=
  (if pressed state.button0 then MK_LBUTTON else 0) +
    (if pressed state.button1 then MK_RBUTTON else 0) +
    (if keys.control then MK_CONTROL else 0) + (if keys.shift then MK_SHIFT else 0)

/-- The message that the others are made from. -/
def Forwarder.message (state : MouseState) (keys : Modifiers) (msg : Nat) : WndMsg where
  hWnd := w.s_hwnd
  msg := msg
  wParam := wParamOf state keys
  lParam := packed f.s_mouseX f.s_mouseY

def Forwarder.sendMove (wm : WndMsg) : Forwarder :=
  if wm ≠ f.s_mouseMove then { f.forwardMessage wm with s_mouseMove := wm } else f

def Forwarder.sendLButton (button : BitVec 8) (wm : WndMsg) : Forwarder :=
  if f.s_mouseButton0 ≠ button then
    let f := { f with s_mouseButton0 := button }
    if wm ≠ f.s_mouseLButton then { f.forwardMessage wm with s_mouseLButton := wm } else f
  else f

def Forwarder.sendRButton (button : BitVec 8) (wm : WndMsg) : Forwarder :=
  if f.s_mouseButton1 ≠ button then
    let f := { f with s_mouseButton1 := button }
    if wm ≠ f.s_mouseRButton then { f.forwardMessage wm with s_mouseRButton := wm } else f
  else f

def Forwarder.sendWheel (lZ : Int) (wm : WndMsg) : Forwarder :=
  if GET_WHEEL_DELTA_WPARAM f.s_mouseWheel.wParam ≠ lZ then
    { f.forwardMessage wm with s_mouseWheel := wm }
  else f

def Forwarder.updateMouseState (state : MouseState) (isAbsoluteAxis : Bool) (keys : Modifiers) :
    Forwarder :=
  let f := f.moveCursor w state isAbsoluteAxis
  let wm := f.message w state keys
  let left := if pressed state.button0 then WM_LBUTTONDOWN else WM_LBUTTONUP
  let right := if pressed state.button1 then WM_RBUTTONDOWN else WM_RBUTTONUP
  let wheel := { wm WM_MOUSEWHEEL with wParam := MAKELONG (LOWORD (wParamOf state keys)) state.lZ }
  (((f.sendMove (wm WM_MOUSEMOVE)).sendLButton state.button0 (wm left)).sendRButton state.button1
    (wm right)).sendWheel state.lZ wheel

end forwarder

/-- An event of `GetDeviceData`. -/
inductive Event
  | x (data : Int)
  | y (data : Int)
  | z (data : Int)
  | button0 (data : BitVec 8)
  | button1 (data : BitVec 8)
  | other

/-- The sample made from an event, if it is one that is looked at. -/
def Event.sample : Event → Option MouseState
  | .x data => some { lX := data }
  | .y data => some { lY := data }
  | .z data => some { lZ := data }
  | .button0 data => some { button0 := data }
  | .button1 data => some { button1 := data }
  | .other => none

/-! ### What has been forwarded -/

/-- The button of a pair of messages, after one more of all messages. -/
def buttonAfter (down up : Nat) (b : Bool) (wm : WndMsg) : Bool :=
  if wm.msg = down then true else if wm.msg = up then false else b

def leftOf (forwarded : List WndMsg) : Bool :=
  forwarded.foldl (buttonAfter WM_LBUTTONDOWN WM_LBUTTONUP) false

def rightOf (forwarded : List WndMsg) : Bool :=
  forwarded.foldl (buttonAfter WM_RBUTTONDOWN WM_RBUTTONUP) false

def positionOf (lParam : Nat) : Int × Int := ((LOWORD lParam : Int), (HIWORD lParam : Int))

/-- The cursor, after one more message. -/
def cursorAfter (c : Int × Int) (wm : WndMsg) : Int × Int :=
  if wm.msg = WM_MOUSEMOVE then positionOf wm.lParam else c

def cursorOf (forwarded : List WndMsg) : Int × Int := forwarded.foldl cursorAfter (0, 0)

def delta (wm : WndMsg) : Int :=
  if wm.msg = WM_MOUSEWHEEL then GET_WHEEL_DELTA_WPARAM wm.wParam else 0

def wheelOf (forwarded : List WndMsg) : Int := (forwarded.map delta).sum

section observations

variable {l : List WndMsg} {wm : WndMsg}

theorem leftOf_append : leftOf (l ++ [wm]) =
    buttonAfter WM_LBUTTONDOWN WM_LBUTTONUP (leftOf l) wm := by
  rw [leftOf, List.foldl_append]
  rfl

theorem rightOf_append : rightOf (l ++ [wm]) =
    buttonAfter WM_RBUTTONDOWN WM_RBUTTONUP (rightOf l) wm := by
  rw [rightOf, List.foldl_append]
  rfl

theorem cursorOf_append : cursorOf (l ++ [wm]) = cursorAfter (cursorOf l) wm := by
  rw [cursorOf, List.foldl_append]
  rfl

theorem wheelOf_append : wheelOf (l ++ [wm]) = wheelOf l + delta wm := by
  rw [wheelOf, List.map_append, List.sum_append, List.map_singleton, List.sum_singleton]
  rfl

end observations

/-! ### One sample -/

/-- The remembered state and messages are those last forwarded. -/
structure Tracks (f : Forwarder) : Prop where
  left : leftOf f.forwarded = pressed f.s_mouseButton0
  leftMessage : leftOf f.forwarded = decide (f.s_mouseLButton.msg = WM_LBUTTONDOWN)
  right : rightOf f.forwarded = pressed f.s_mouseButton1
  rightMessage : rightOf f.forwarded = decide (f.s_mouseRButton.msg = WM_RBUTTONDOWN)
  cursor : cursorOf f.forwarded = positionOf f.s_mouseMove.lParam

section sends

variable {f : Forwarder} {wm : WndMsg}

theorem Tracks.moveCursor (h : Tracks f) (w : Window) (state : MouseState) (isAbsoluteAxis : Bool) :
    Tracks (f.moveCursor w state isAbsoluteAxis) :=
  ⟨h.left, h.leftMessage, h.right, h.rightMessage, h.cursor⟩

/-- A message of a kind of its own leaves the others alone. -/
theorem Tracks.sendMove (h : Tracks f) (wm : WndMsg) (hwm : wm.msg = WM_MOUSEMOVE) :
    Tracks (f.sendMove wm) ∧ (f.sendMove wm).s_mouseMove = wm := by
  unfold Forwarder.sendMove
  split
  · have hleft : leftOf (f.forwarded ++ [wm]) = leftOf f.forwarded := by
      rw [leftOf_append, buttonAfter, hwm]
      rfl
    have hright : rightOf (f.forwarded ++ [wm]) = rightOf f.forwarded := by
      rw [rightOf_append, buttonAfter, hwm]
      rfl
    refine ⟨⟨hleft.trans h.left, hleft.trans h.leftMessage, hright.trans h.right,
      hright.trans h.rightMessage, ?_⟩, rfl⟩
    change cursorOf (f.forwarded ++ [wm]) = _
    rw [cursorOf_append, cursorAfter, if_pos hwm]
  · next hsame => exact ⟨h, (not_not.mp hsame).symm⟩

/-- What a message for the left button says, in the place of the one before it. -/
theorem leftOf_message {b : Bool} (hwm : wm.msg = if b then WM_LBUTTONDOWN else WM_LBUTTONUP)
    (l : List WndMsg) :
    leftOf (l ++ [wm]) = b ∧ rightOf (l ++ [wm]) = rightOf l ∧
      cursorOf (l ++ [wm]) = cursorOf l ∧ wheelOf (l ++ [wm]) = wheelOf l ∧
      decide (wm.msg = WM_LBUTTONDOWN) = b := by
  rw [leftOf_append, rightOf_append, cursorOf_append, wheelOf_append, buttonAfter, buttonAfter,
    cursorAfter, delta, hwm]
  cases b
  · exact ⟨rfl, rfl, rfl, Int.add_zero _, rfl⟩
  · exact ⟨rfl, rfl, rfl, Int.add_zero _, rfl⟩

theorem rightOf_message {b : Bool} (hwm : wm.msg = if b then WM_RBUTTONDOWN else WM_RBUTTONUP)
    (l : List WndMsg) :
    rightOf (l ++ [wm]) = b ∧ leftOf (l ++ [wm]) = leftOf l ∧
      cursorOf (l ++ [wm]) = cursorOf l ∧ wheelOf (l ++ [wm]) = wheelOf l ∧
      decide (wm.msg = WM_RBUTTONDOWN) = b := by
  rw [leftOf_append, rightOf_append, cursorOf_append, wheelOf_append, buttonAfter, buttonAfter,
    cursorAfter, delta, hwm]
  cases b
  · exact ⟨rfl, rfl, rfl, Int.add_zero _, rfl⟩
  · exact ⟨rfl, rfl, rfl, Int.add_zero _, rfl⟩

theorem Tracks.sendLButton (h : Tracks f) (button : BitVec 8) (wm : WndMsg)
    (hwm : wm.msg = if pressed button then WM_LBUTTONDOWN else WM_LBUTTONUP) :
    Tracks (f.sendLButton button wm) ∧
      leftOf (f.sendLButton button wm).forwarded = pressed button ∧
      wheelOf (f.sendLButton button wm).forwarded = wheelOf f.forwarded := by
  obtain ⟨hleft, hright, hcursor, hwheel, hdown⟩ := leftOf_message hwm f.forwarded
  unfold Forwarder.sendLButton
  split
  · dsimp only
    split
    · exact ⟨⟨hleft, hleft.trans hdown.symm, hright.trans h.right, hright.trans h.rightMessage,
        hcursor.trans h.cursor⟩, hleft, hwheel⟩
    · next hsame =>
        -- the same message was forwarded last, so it says the same of the button
        have hlast : leftOf f.forwarded = pressed button := by
          rw [h.leftMessage, ← not_not.mp hsame, hdown]
        exact ⟨⟨hlast, h.leftMessage, h.right, h.rightMessage, h.cursor⟩, hlast, rfl⟩
  · next hsame => exact ⟨h, h.left.trans (congrArg pressed (not_not.mp hsame)), rfl⟩

theorem Tracks.sendRButton (h : Tracks f) (button : BitVec 8) (wm : WndMsg)
    (hwm : wm.msg = if pressed button then WM_RBUTTONDOWN else WM_RBUTTONUP) :
    Tracks (f.sendRButton button wm) ∧
      rightOf (f.sendRButton button wm).forwarded = pressed button ∧
      leftOf (f.sendRButton button wm).forwarded = leftOf f.forwarded ∧
      wheelOf (f.sendRButton button wm).forwarded = wheelOf f.forwarded := by
  obtain ⟨hright, hleft, hcursor, hwheel, hdown⟩ := rightOf_message hwm f.forwarded
  unfold Forwarder.sendRButton
  split
  · dsimp only
    split
    · exact ⟨⟨hleft.trans h.left, hleft.trans h.leftMessage, hright, hright.trans hdown.symm,
        hcursor.trans h.cursor⟩, hright, hleft, hwheel⟩
    · next hsame =>
        have hlast : rightOf f.forwarded = pressed button := by
          rw [h.rightMessage, ← not_not.mp hsame, hdown]
        exact ⟨⟨h.left, h.leftMessage, hlast, h.rightMessage, h.cursor⟩, hlast, rfl, rfl⟩
  · next hsame => exact ⟨h, h.right.trans (congrArg pressed (not_not.mp hsame)), rfl, rfl⟩

/-- What a sample adds to the wheel: nothing if it is the same again, and else its low word. -/
def wheelAdded (f : Forwarder) (lZ : Int) : Int :=
  if GET_WHEEL_DELTA_WPARAM f.s_mouseWheel.wParam ≠ lZ then Int.bmod lZ (0x10000) else 0

theorem wheel_makelong (low : Nat) (lZ : Int) :
    GET_WHEEL_DELTA_WPARAM (MAKELONG low lZ) = Int.bmod lZ (0x10000) := by
  have hlow : LOWORD low < 0x10000 := Nat.mod_lt _ (by decide)
  have hhigh : (lZ % 0x10000).toNat < 0x10000 := by omega
  have hword : HIWORD (MAKELONG low lZ) = (lZ % 0x10000).toNat := by
    rw [HIWORD, MAKELONG]
    omega
  have hcast : ((lZ % 0x10000).toNat : Int) = lZ % 0x10000 := by omega
  have hbmod : Int.bmod (lZ % 0x10000) 0x10000 = Int.bmod lZ 0x10000 := by
    simpa using Int.emod_bmod (x := lZ) (n := 0x10000)
  unfold GET_WHEEL_DELTA_WPARAM
  rw [hword, hcast, hbmod]

theorem Tracks.sendWheel (h : Tracks f) {low : Nat} (lZ : Int) (wm : WndMsg)
    (hwm : wm.msg = WM_MOUSEWHEEL) (hparam : wm.wParam = MAKELONG low lZ) :
    Tracks (f.sendWheel lZ wm) ∧
      leftOf (f.sendWheel lZ wm).forwarded = leftOf f.forwarded ∧
      rightOf (f.sendWheel lZ wm).forwarded = rightOf f.forwarded ∧
      wheelOf (f.sendWheel lZ wm).forwarded = wheelOf f.forwarded + wheelAdded f lZ := by
  unfold Forwarder.sendWheel wheelAdded
  split
  · have hleft : leftOf (f.forwarded ++ [wm]) = leftOf f.forwarded := by
      rw [leftOf_append, buttonAfter, hwm]
      rfl
    have hright : rightOf (f.forwarded ++ [wm]) = rightOf f.forwarded := by
      rw [rightOf_append, buttonAfter, hwm]
      rfl
    have hcursor : cursorOf (f.forwarded ++ [wm]) = cursorOf f.forwarded := by
      rw [cursorOf_append, cursorAfter, hwm]
      rfl
    have hwheel : wheelOf (f.forwarded ++ [wm]) = wheelOf f.forwarded + Int.bmod lZ (0x10000) := by
      rw [wheelOf_append, delta, if_pos hwm, hparam, wheel_makelong]
    exact ⟨⟨hleft.trans h.left, hleft.trans h.leftMessage, hright.trans h.right,
      hright.trans h.rightMessage, hcursor.trans h.cursor⟩, hleft, hright, hwheel⟩
  · exact ⟨h, rfl, rfl, (Int.add_zero _).symm⟩

/-! The sends of the other kinds leave the cursor and the wheel's message as they are. -/

theorem kept_sendMove (f : Forwarder) (wm : WndMsg) :
    (f.sendMove wm).s_mouseX = f.s_mouseX ∧ (f.sendMove wm).s_mouseY = f.s_mouseY ∧
      (f.sendMove wm).s_mouseWheel = f.s_mouseWheel := by
  unfold Forwarder.sendMove
  split <;> exact ⟨rfl, rfl, rfl⟩

theorem kept_sendLButton (f : Forwarder) (button : BitVec 8) (wm : WndMsg) :
    (f.sendLButton button wm).s_mouseX = f.s_mouseX ∧
      (f.sendLButton button wm).s_mouseY = f.s_mouseY ∧
      (f.sendLButton button wm).s_mouseMove = f.s_mouseMove ∧
      (f.sendLButton button wm).s_mouseWheel = f.s_mouseWheel := by
  unfold Forwarder.sendLButton
  dsimp only
  split
  · split <;> exact ⟨rfl, rfl, rfl, rfl⟩
  · exact ⟨rfl, rfl, rfl, rfl⟩

theorem kept_sendRButton (f : Forwarder) (button : BitVec 8) (wm : WndMsg) :
    (f.sendRButton button wm).s_mouseX = f.s_mouseX ∧
      (f.sendRButton button wm).s_mouseY = f.s_mouseY ∧
      (f.sendRButton button wm).s_mouseMove = f.s_mouseMove ∧
      (f.sendRButton button wm).s_mouseWheel = f.s_mouseWheel := by
  unfold Forwarder.sendRButton
  dsimp only
  split
  · split <;> exact ⟨rfl, rfl, rfl, rfl⟩
  · exact ⟨rfl, rfl, rfl, rfl⟩

theorem kept_sendWheel (f : Forwarder) (lZ : Int) (wm : WndMsg) :
    (f.sendWheel lZ wm).s_mouseX = f.s_mouseX ∧ (f.sendWheel lZ wm).s_mouseY = f.s_mouseY ∧
      (f.sendWheel lZ wm).s_mouseMove = f.s_mouseMove := by
  unfold Forwarder.sendWheel
  split <;> exact ⟨rfl, rfl, rfl⟩

theorem wheelOf_sendMove (f : Forwarder) {wm : WndMsg} (hwm : wm.msg = WM_MOUSEMOVE) :
    wheelOf (f.sendMove wm).forwarded = wheelOf f.forwarded := by
  unfold Forwarder.sendMove
  split
  · change wheelOf (f.forwarded ++ [wm]) = _
    rw [wheelOf_append, delta, hwm]
    exact Int.add_zero _
  · rfl

end sends

theorem positionOf_packed {x y : Int} (hx : 0 ≤ x ∧ x < 0x10000) (hy : 0 ≤ y ∧ y < 0x10000) :
    positionOf (packed x y) = (x, y) := by
  obtain ⟨a, rfl⟩ := Int.eq_ofNat_of_zero_le hx.1
  obtain ⟨b, rfl⟩ := Int.eq_ofNat_of_zero_le hy.1
  have ha : a < 0x10000 := by omega
  have hb : b < 0x10000 := by omega
  have hor : a ||| b <<< 16 = b * 0x10000 + a := by
    rw [Nat.or_comm, ← Nat.shiftLeft_add_eq_or_of_lt ha, Nat.shiftLeft_eq]
  have hpacked : packed (a : Int) (b : Int) = b * 0x10000 + a := by
    rw [packed, Int.toNat_natCast, Int.toNat_natCast, hor]
    omega
  rw [positionOf, hpacked, LOWORD, HIWORD]
  congr 2 <;> omega

theorem lParam_message (f : Forwarder) (w : Window) (state : MouseState) (keys : Modifiers)
    (msg : Nat) : (f.message w state keys msg).lParam = packed f.s_mouseX f.s_mouseY := rfl

/-- What a sample leaves. -/
structure Sampled (w : Window) (f : Forwarder) (state : MouseState) (isAbsoluteAxis : Bool)
    (f' : Forwarder) : Prop where
  tracks : Tracks f'
  left : leftOf f'.forwarded = pressed state.button0
  right : rightOf f'.forwarded = pressed state.button1
  x : f'.s_mouseX = (f.moveCursor w state isAbsoluteAxis).s_mouseX
  y : f'.s_mouseY = (f.moveCursor w state isAbsoluteAxis).s_mouseY
  cursor : cursorOf f'.forwarded = positionOf (packed f'.s_mouseX f'.s_mouseY)
  wheel : wheelOf f'.forwarded = wheelOf f.forwarded + wheelAdded f state.lZ

/-- **A sample.** -/
theorem Tracks.sampled {f : Forwarder} (h : Tracks f) (w : Window) (state : MouseState)
    (isAbsoluteAxis : Bool) (keys : Modifiers) :
    Sampled w f state isAbsoluteAxis (f.updateMouseState w state isAbsoluteAxis keys) := by
  let f₀ := f.moveCursor w state isAbsoluteAxis
  let wm := f₀.message w state keys
  let left := wm (if pressed state.button0 then WM_LBUTTONDOWN else WM_LBUTTONUP)
  let right := wm (if pressed state.button1 then WM_RBUTTONDOWN else WM_RBUTTONUP)
  let wheel := { wm WM_MOUSEWHEEL with
    wParam := MAKELONG (LOWORD (wParamOf state keys)) state.lZ }
  let f₁ := f₀.sendMove (wm WM_MOUSEMOVE)
  let f₂ := f₁.sendLButton state.button0 left
  let f₃ := f₂.sendRButton state.button1 right
  obtain ⟨h₁, hmove⟩ := (h.moveCursor w state isAbsoluteAxis).sendMove (wm WM_MOUSEMOVE) rfl
  obtain ⟨h₂, hleft₂, hwheel₂⟩ := h₁.sendLButton state.button0 left rfl
  obtain ⟨h₃, hright₃, hleft₃, hwheel₃⟩ := h₂.sendRButton state.button1 right rfl
  obtain ⟨h₄, hleft₄, hright₄, hwheel₄⟩ := h₃.sendWheel state.lZ wheel rfl rfl
  obtain ⟨hx₁, hy₁, hw₁⟩ := kept_sendMove f₀ (wm WM_MOUSEMOVE)
  obtain ⟨hx₂, hy₂, hm₂, hw₂⟩ := kept_sendLButton f₁ state.button0 left
  obtain ⟨hx₃, hy₃, hm₃, hw₃⟩ := kept_sendRButton f₂ state.button1 right
  obtain ⟨hx₄, hy₄, hm₄⟩ := kept_sendWheel f₃ state.lZ wheel
  have hx : (f₃.sendWheel state.lZ wheel).s_mouseX = f₀.s_mouseX :=
    hx₄.trans (hx₃.trans (hx₂.trans hx₁))
  have hy : (f₃.sendWheel state.lZ wheel).s_mouseY = f₀.s_mouseY :=
    hy₄.trans (hy₃.trans (hy₂.trans hy₁))
  have hlast : (f₃.sendWheel state.lZ wheel).s_mouseMove = wm WM_MOUSEMOVE :=
    hm₄.trans (hm₃.trans (hm₂.trans hmove))
  have hremembered : f₃.s_mouseWheel = f.s_mouseWheel := hw₃.trans (hw₂.trans hw₁)
  have hpacked : packed (f₃.sendWheel state.lZ wheel).s_mouseX
      (f₃.sendWheel state.lZ wheel).s_mouseY = packed f₀.s_mouseX f₀.s_mouseY :=
    congrArg₂ packed hx hy
  have hparam : (f₃.sendWheel state.lZ wheel).s_mouseMove.lParam =
      packed f₀.s_mouseX f₀.s_mouseY :=
    (congrArg WndMsg.lParam hlast).trans (lParam_message f₀ w state keys WM_MOUSEMOVE)
  have hcursor : cursorOf (f₃.sendWheel state.lZ wheel).forwarded =
      positionOf (packed (f₃.sendWheel state.lZ wheel).s_mouseX
        (f₃.sendWheel state.lZ wheel).s_mouseY) := by
    rw [h₄.cursor, hparam, hpacked]
  have hwheel : wheelOf (f₃.sendWheel state.lZ wheel).forwarded =
      wheelOf f.forwarded + wheelAdded f state.lZ := by
    have hsame : wheelAdded f₃ state.lZ = wheelAdded f state.lZ := by
      rw [wheelAdded, hremembered, wheelAdded]
    rw [← hsame]
    refine hwheel₄.trans (congrArg (· + wheelAdded f₃ state.lZ) ?_)
    exact hwheel₃.trans (hwheel₂.trans (wheelOf_sendMove f₀ rfl))
  exact ⟨h₄, hleft₄.trans (hleft₃.trans hleft₂), hright₄.trans hright₃, hx, hy, hcursor, hwheel⟩

/-! ### The device -/

/-- What has been reported of the device, and where that puts the cursor. -/
structure Device where
  left : Bool := false
  right : Bool := false
  axes : Int × Int := (0, 0)
  cursor : Int × Int := (0, 0)

/-- A position, clamped to the window. -/
def Window.clamped (w : Window) (c : Int × Int) : Int × Int :=
  (clamp w.s_windowWidth c.1, clamp w.s_windowHeight c.2)

/-- A motion of relative axes, or the position of absolute ones. -/
def Device.moved (w : Window) (d : Device) (isAbsoluteAxis : Bool) (c : Int × Int) : Int × Int :=
  w.clamped (if isAbsoluteAxis then c else (d.cursor.1 + c.1, d.cursor.2 + c.2))

def Device.poll (w : Window) (d : Device) (isAbsoluteAxis : Bool) (state : MouseState) :
    Device where
  left := pressed state.button0
  right := pressed state.button1
  axes := if isAbsoluteAxis then (state.lX, state.lY) else d.axes
  cursor := d.moved w isAbsoluteAxis (state.lX, state.lY)

/-- An event: of an absolute axis the other one is where it was. -/
def Device.event (w : Window) (isAbsoluteAxis : Bool) (d : Device) : Event → Device
  | .x data =>
      if isAbsoluteAxis then
        { d with axes := (data, d.axes.2), cursor := d.moved w true (data, d.axes.2) }
      else { d with cursor := d.moved w false (data, 0) }
  | .y data =>
      if isAbsoluteAxis then
        { d with axes := (d.axes.1, data), cursor := d.moved w true (d.axes.1, data) }
      else { d with cursor := d.moved w false (0, data) }
  | .z _ => d
  | .button0 data => { d with left := pressed data }
  | .button1 data => { d with right := pressed data }
  | .other => d

def Event.wheel : Event → Int
  | .z data => data
  | _ => 0

/-! ### Runs -/

/-- A successful `GetDeviceState`, or `GetDeviceData` with the events that it returned. -/
inductive Action
  | poll (isAbsoluteAxis : Bool) (keys : Modifiers) (state : MouseState)
  | buffer (isAbsoluteAxis : Bool) (keys : Modifiers) (events : List Event)

/-- The forwarder and the device; of the wheel in relative mode, what has been reported and what
forwarded. -/
structure Pair where
  forwarder : Forwarder := {}
  device : Device := {}
  MouseDeviceStateUsed : Bool := false
  reported : Int := 0
  sent : Int := 0

section runs

variable (w : Window)

def Forwarder.event (isAbsoluteAxis : Bool) (keys : Modifiers) (f : Forwarder) (e : Event) :
    Forwarder :=
  match e.sample with
  | some state => f.updateMouseState w state isAbsoluteAxis keys
  | none => f

/-- The forwarder behind a call. -/
def Pair.forward (p : Pair) : Action → Forwarder
  | .poll isAbsoluteAxis keys state =>
      p.forwarder.updateMouseState w state isAbsoluteAxis keys
  | .buffer isAbsoluteAxis keys events =>
      if p.MouseDeviceStateUsed then p.forwarder
      else events.foldl (Forwarder.event w isAbsoluteAxis keys) p.forwarder

/-- The device behind a call. -/
def Pair.report (p : Pair) : Action → Device
  | .poll isAbsoluteAxis _ state => p.device.poll w isAbsoluteAxis state
  | .buffer isAbsoluteAxis _ events => events.foldl (Device.event w isAbsoluteAxis) p.device

/-- What a call reports of the wheel, if its axes are relative. -/
def Action.wheel : Action → Option Int
  | .poll isAbsoluteAxis _ state => if isAbsoluteAxis then none else some state.lZ
  | .buffer isAbsoluteAxis _ events =>
      if isAbsoluteAxis then none else some (events.map Event.wheel).sum

def Action.isPoll : Action → Bool
  | .poll _ _ _ => true
  | .buffer _ _ _ => false

def step (p : Pair) (a : Action) : Option Pair :=
  let forwarder := p.forward w a
  some
    { forwarder := forwarder
      device := p.report w a
      MouseDeviceStateUsed := p.MouseDeviceStateUsed || a.isPoll
      reported := p.reported + a.wheel.getD 0
      sent := p.sent +
        if a.wheel.isSome then wheelOf forwarder.forwarded - wheelOf p.forwarder.forwarded else 0 }

/-- The last messages say what the device reports, and the wheel's messages all of its motion. -/
structure Faithful (p : Pair) : Prop where
  left : leftOf p.forwarder.forwarded = p.device.left
  right : rightOf p.forwarder.forwarded = p.device.right
  wheel : p.sent = p.reported
  cursor : cursorOf p.forwarder.forwarded = p.device.cursor

/-- A sample that shows: its motion is a `LONG` from where the cursor is, and its wheel, if it is at
all, fits a word and is not what the last message had. -/
structure Shows (f : Forwarder) (isAbsoluteAxis : Bool) (state : MouseState) : Prop where
  x : isAbsoluteAxis = false →
    -0x80000000 ≤ f.s_mouseX + state.lX ∧ f.s_mouseX + state.lX < 0x80000000
  y : isAbsoluteAxis = false →
    -0x80000000 ≤ f.s_mouseY + state.lY ∧ f.s_mouseY + state.lY < 0x80000000
  wheel : isAbsoluteAxis = false → -0x8000 ≤ state.lZ ∧ state.lZ < 0x8000 ∧
    (state.lZ = GET_WHEEL_DELTA_WPARAM f.s_mouseWheel.wParam → state.lZ = 0)

/-- The zeros of a sample that is made from an event are what the device has: no other button is
down, and with absolute axes the cursor is where they put it. -/
structure Made (d : Device) (isAbsoluteAxis : Bool) (state : MouseState) : Prop where
  left : pressed state.button0 = d.left
  right : pressed state.button1 = d.right
  cursor : isAbsoluteAxis = true → w.clamped (state.lX, state.lY) = d.cursor

/-- Every event of a buffer shows, and is made the sample that the device has. -/
def EventsShow (isAbsoluteAxis : Bool) (keys : Modifiers) :
    Forwarder → Device → List Event → Prop
  | _, _, [] => True
  | f, d, e :: es =>
      (∀ state, e.sample = some state →
        Shows f isAbsoluteAxis state ∧ Made w (d.event w isAbsoluteAxis e) isAbsoluteAxis state) ∧
      EventsShow isAbsoluteAxis keys (f.event w isAbsoluteAxis keys e) (d.event w isAbsoluteAxis e)
        es

/-- The condition on a call: in a window of which a word can hold a position, its samples show; and
after a poll a buffer has no event that is looked at. -/
def InScope (p : Pair) (a : Action) : Prop :=
  w.s_windowWidth < 0x10000 ∧ w.s_windowHeight < 0x10000 ∧
    match a with
    | .poll isAbsoluteAxis _ state => Shows p.forwarder isAbsoluteAxis state
    | .buffer isAbsoluteAxis keys events =>
        if p.MouseDeviceStateUsed then ∀ e ∈ events, e.sample = none
        else EventsShow w isAbsoluteAxis keys p.forwarder p.device events

end runs

/-! ### Every step -/

/-- The forwarder and the device agree. -/
structure Follows (w : Window) (f : Forwarder) (d : Device) : Prop where
  tracks : Tracks f
  left : leftOf f.forwarded = d.left
  right : rightOf f.forwarded = d.right
  cursor : cursorOf f.forwarded = d.cursor
  position : (f.s_mouseX, f.s_mouseY) = d.cursor
  inWindow : w.clamped d.cursor = d.cursor

section steps

variable {w : Window} {f : Forwarder} {d d' : Device} {isAbsoluteAxis : Bool} {state : MouseState}

theorem clamp_bounds (size : Nat) (x : Int) : 0 ≤ clamp size x ∧ clamp size x ≤ size := by
  unfold clamp
  split
  · omega
  · split <;> omega

theorem clamped_clamped (w : Window) (c : Int × Int) : w.clamped (w.clamped c) = w.clamped c := by
  have hid {size : Nat} {x : Int} : clamp size (clamp size x) = clamp size x := by
    have hb := clamp_bounds size x
    rw [clamp, if_neg (by omega), if_neg (by omega)]
  exact Prod.ext hid hid

theorem long_eq {x : Int} (h : -0x80000000 ≤ x ∧ x < 0x80000000) : long x = x := by
  have hlow : -((0x100000000 : Nat) : Int) ≤ x * 2 := by omega
  have hhigh : x * 2 < ((0x100000000 : Nat) : Int) := by omega
  exact Int.bmod_eq_of_le_mul_two hlow hhigh

/-- What the cursor is moved to. -/
theorem Follows.moveCursor (h : Follows w f d) (hshows : Shows f isAbsoluteAxis state) :
    ((f.moveCursor w state isAbsoluteAxis).s_mouseX,
        (f.moveCursor w state isAbsoluteAxis).s_mouseY) =
      d.moved w isAbsoluteAxis (state.lX, state.lY) := by
  have hposition := h.position
  cases isAbsoluteAxis with
  | true => rfl
  | false =>
      have hx := long_eq (hshows.x rfl)
      have hy := long_eq (hshows.y rfl)
      simp only [Forwarder.moveCursor, Device.moved, Window.clamped, ← hposition, hx, hy,
        Bool.false_eq_true, if_false]

/-- A position in a window of which a word can hold one comes through. -/
theorem cursor_unpacked {c : Int × Int}
    (hforwarded : cursorOf f.forwarded = positionOf (packed f.s_mouseX f.s_mouseY))
    (hwidth : w.s_windowWidth < 0x10000) (hheight : w.s_windowHeight < 0x10000)
    (hposition : (f.s_mouseX, f.s_mouseY) = c) (hin : w.clamped c = c) :
    cursorOf f.forwarded = c := by
  subst hposition
  have hx := clamp_bounds w.s_windowWidth f.s_mouseX
  have hy := clamp_bounds w.s_windowHeight f.s_mouseY
  have hx' : clamp w.s_windowWidth f.s_mouseX = f.s_mouseX := congrArg Prod.fst hin
  have hy' : clamp w.s_windowHeight f.s_mouseY = f.s_mouseY := congrArg Prod.snd hin
  rw [hforwarded]
  exact positionOf_packed (by omega) (by omega)

/-- **A sample of the device.** -/
theorem Follows.sample (h : Follows w f d) (hshows : Shows f isAbsoluteAxis state)
    (hwidth : w.s_windowWidth < 0x10000) (hheight : w.s_windowHeight < 0x10000)
    (keys : Modifiers) (hleft : pressed state.button0 = d'.left)
    (hright : pressed state.button1 = d'.right)
    (hcursor : d.moved w isAbsoluteAxis (state.lX, state.lY) = d'.cursor) :
    Follows w (f.updateMouseState w state isAbsoluteAxis keys) d' := by
  have hs := h.tracks.sampled w state isAbsoluteAxis keys
  have hmoved := (h.moveCursor hshows).trans hcursor
  generalize f.updateMouseState w state isAbsoluteAxis keys = f' at hs ⊢
  have hposition : (f'.s_mouseX, f'.s_mouseY) = d'.cursor := by
    rw [hs.x, hs.y]
    exact hmoved
  have hin : w.clamped d'.cursor = d'.cursor := by
    rw [← hcursor]
    exact clamped_clamped w _
  exact ⟨hs.tracks, hs.left.trans hleft, hs.right.trans hright,
    cursor_unpacked hs.cursor hwidth hheight hposition hin, hposition, hin⟩

/-- What it adds to the wheel. -/
theorem Follows.wheel (h : Follows w f d) (hshows : Shows f isAbsoluteAxis state)
    (keys : Modifiers) (hrelative : isAbsoluteAxis = false) :
    wheelOf (f.updateMouseState w state isAbsoluteAxis keys).forwarded =
      wheelOf f.forwarded + state.lZ := by
  rw [(h.tracks.sampled w state isAbsoluteAxis keys).wheel]
  obtain ⟨hlow, hhigh, hsame⟩ := hshows.wheel hrelative
  refine congrArg (wheelOf f.forwarded + ·) ?_
  unfold wheelAdded
  split
  · exact Int.bmod_eq_of_le (by omega) (by omega)
  · next hnot => exact (hsame (not_not.mp hnot).symm).symm

/-- What an event moves the cursor to is what the sample made from it does. -/
theorem Follows.made (h : Follows w f d) {e : Event} (he : e.sample = some state)
    (hmade : Made w (d.event w isAbsoluteAxis e) isAbsoluteAxis state) :
    d.moved w isAbsoluteAxis (state.lX, state.lY) = (d.event w isAbsoluteAxis e).cursor := by
  cases isAbsoluteAxis with
  | true => exact hmade.cursor rfl
  | false =>
      have hstill : d.moved w false (0, 0) = d.cursor := by
        have hzero : (d.cursor.1 + 0, d.cursor.2 + 0) = d.cursor :=
          Prod.ext (Int.add_zero _) (Int.add_zero _)
        rw [Device.moved, if_neg (by decide), hzero]
        exact h.inWindow
      cases e with
      | x data =>
          cases he
          rfl
      | y data =>
          cases he
          rfl
      | z data =>
          cases he
          exact hstill
      | button0 data =>
          cases he
          exact hstill
      | button1 data =>
          cases he
          exact hstill
      | other => cases he

/-- An event's sample turns the wheel as far as the event. -/
theorem sample_wheel {e : Event} (he : e.sample = some state) : state.lZ = e.wheel := by
  cases e <;> cases he <;> rfl

/-- An event that is not looked at reports nothing. -/
theorem event_other {e : Event} (he : e.sample = none) : e = .other := by
  cases e with
  | other => rfl
  | x => cases he
  | y => cases he
  | z => cases he
  | button0 => cases he
  | button1 => cases he

/-- **A buffer.** -/
theorem Follows.events (hwidth : w.s_windowWidth < 0x10000) (hheight : w.s_windowHeight < 0x10000)
    (keys : Modifiers) (es : List Event) (h : Follows w f d)
    (hshow : EventsShow w isAbsoluteAxis keys f d es) :
    Follows w (es.foldl (Forwarder.event w isAbsoluteAxis keys) f)
        (es.foldl (Device.event w isAbsoluteAxis) d) ∧
      (isAbsoluteAxis = false →
        wheelOf (es.foldl (Forwarder.event w isAbsoluteAxis keys) f).forwarded =
          wheelOf f.forwarded + (es.map Event.wheel).sum) := by
  induction es generalizing f d with
  | nil => exact ⟨h, fun _ => (Int.add_zero _).symm⟩
  | cons e es ih =>
      obtain ⟨hfirst, hrest⟩ := hshow
      have hstep : Follows w (f.event w isAbsoluteAxis keys e) (d.event w isAbsoluteAxis e) ∧
          (isAbsoluteAxis = false → wheelOf (f.event w isAbsoluteAxis keys e).forwarded =
            wheelOf f.forwarded + e.wheel) := by
        cases hsample : e.sample with
        | none =>
            have hother := event_other hsample
            subst hother
            exact ⟨h, fun _ => (Int.add_zero _).symm⟩
        | some state =>
            obtain ⟨hshows, hmade⟩ := hfirst state hsample
            have hevent : f.event w isAbsoluteAxis keys e =
                f.updateMouseState w state isAbsoluteAxis keys := by
              rw [Forwarder.event, hsample]
            rw [hevent, ← sample_wheel hsample]
            exact ⟨h.sample hshows hwidth hheight keys hmade.left hmade.right
              (h.made hsample hmade), h.wheel hshows keys⟩
      obtain ⟨hfollows, hwheel⟩ := ih hstep.1 hrest
      refine ⟨hfollows, fun hrelative => ?_⟩
      rw [List.foldl_cons, hwheel hrelative, hstep.2 hrelative, List.map_cons, List.sum_cons,
        Int.add_assoc]

end steps

/-- What holds behind every call. -/
structure Inv (w : Window) (p : Pair) : Prop where
  follows : Follows w p.forwarder p.device
  wheel : p.sent = p.reported

section inv

variable {w : Window} {p p' : Pair} {a : Action}

/-- A call, and what it adds to the wheel. -/
theorem Inv.call (h : Inv w p) (hin : InScope w p a) :
    Follows w (p.forward w a) (p.report w a) ∧
      ∀ z, a.wheel = some z →
        wheelOf (p.forward w a).forwarded = wheelOf p.forwarder.forwarded + z := by
  obtain ⟨hwidth, hheight, hcall⟩ := hin
  cases a with
  | poll isAbsoluteAxis keys state =>
      refine ⟨h.follows.sample hcall hwidth hheight keys rfl rfl rfl, fun z hz => ?_⟩
      cases isAbsoluteAxis with
      | true => cases hz
      | false =>
          cases hz
          exact h.follows.wheel hcall keys rfl
  | buffer isAbsoluteAxis keys events =>
      simp only [Pair.forward, Pair.report]
      by_cases hused : p.MouseDeviceStateUsed = true
      · simp only [hused, if_true] at hcall ⊢
        have hnothing : events.foldl (Device.event w isAbsoluteAxis) p.device = p.device ∧
            (events.map Event.wheel).sum = 0 := by
          clear h
          generalize p.device = d
          induction events with
          | nil => exact ⟨rfl, rfl⟩
          | cons e es ih =>
              have hother := event_other (hcall e List.mem_cons_self)
              subst hother
              obtain ⟨hdevice, hsum⟩ := ih fun e he => hcall e (List.mem_cons_of_mem _ he)
              refine ⟨hdevice, ?_⟩
              rw [List.map_cons, List.sum_cons, hsum]
              rfl
        rw [hnothing.1]
        refine ⟨h.follows, fun z hz => ?_⟩
        simp only [Action.wheel, hnothing.2] at hz
        cases isAbsoluteAxis with
        | true => cases hz
        | false =>
            cases hz
            exact (Int.add_zero _).symm
      · simp only [Bool.not_eq_true] at hused
        simp only [hused, Bool.false_eq_true, if_false] at hcall ⊢
        obtain ⟨hfollows, hwheel⟩ := Follows.events hwidth hheight keys events h.follows hcall
        refine ⟨hfollows, fun z hz => ?_⟩
        cases isAbsoluteAxis with
        | true => cases hz
        | false =>
            cases hz
            exact hwheel rfl

/-- **The step.** -/
theorem Inv.step (h : Inv w p) (hin : InScope w p a) (hs : Mouse.step w p a = some p') :
    Inv w p' := by
  cases hs
  obtain ⟨hfollows, hwheel⟩ := h.call hin
  refine ⟨hfollows, ?_⟩
  have hsent := h.wheel
  dsimp only
  cases hz : a.wheel with
  | none =>
      simp only [Option.getD_none, Option.isSome_none, Bool.false_eq_true, if_false]
      omega
  | some z =>
      have hmore := hwheel z hz
      simp only [Option.getD_some, Option.isSome_some, if_true]
      omega

theorem inv_start (w : Window) : Inv w {} where
  follows :=
    { tracks := ⟨rfl, rfl, rfl, rfl, rfl⟩
      left := rfl
      right := rfl
      cursor := rfl
      position := rfl
      inWindow := by
        have hzero (size : Nat) : clamp size 0 = 0 := by
          rw [clamp, if_neg (by omega), if_neg (by omega)]
        exact Prod.ext (hzero w.s_windowWidth) (hzero w.s_windowHeight) }
  wheel := rfl

end inv

/-! ### Every run -/

def noKeys : Modifiers := ⟨false, false⟩

section decidable

instance (f : Forwarder) (isAbsoluteAxis : Bool) (state : MouseState) :
    Decidable (Shows f isAbsoluteAxis state) :=
  decidable_of_iff ((_ → _ ∧ _) ∧ (_ → _ ∧ _) ∧ (_ → _ ∧ _ ∧ (_ → _)))
    ⟨fun h => ⟨h.1, h.2.1, h.2.2⟩, fun h => ⟨h.x, h.y, h.wheel⟩⟩

instance (w : Window) (d : Device) (isAbsoluteAxis : Bool) (state : MouseState) :
    Decidable (Made w d isAbsoluteAxis state) :=
  decidable_of_iff (_ = _ ∧ _ = _ ∧ (_ → _ = _))
    ⟨fun h => ⟨h.1, h.2.1, h.2.2⟩, fun h => ⟨h.left, h.right, h.cursor⟩⟩

instance decidableEventsShow (w : Window) (isAbsoluteAxis : Bool) (keys : Modifiers) :
    (f : Forwarder) → (d : Device) → (es : List Event) →
      Decidable (EventsShow w isAbsoluteAxis keys f d es)
  | _, _, [] => .isTrue trivial
  | f, d, e :: es =>
      have := decidableEventsShow w isAbsoluteAxis keys (f.event w isAbsoluteAxis keys e)
        (d.event w isAbsoluteAxis e) es
      inferInstanceAs (Decidable ((∀ state ∈ e.sample, _ ∧ _) ∧ _))

instance (w : Window) (p : Pair) (a : Action) : Decidable (InScope w p a) := by
  unfold InScope
  split <;> infer_instance

end decidable

/-- The device is read through its buffer first, and then polled: the cursor is moved out of the
window on the right, the wheel turned the same way twice, both buttons pressed and released, and the
axes are made absolute for one of the polls. -/
def reading : List Action :=
  [.buffer false noKeys [.x 600, .z 120, .y 30, .z 120, .x 100, .other, .button1 0x80, .button1 0],
    .poll false ⟨true, false⟩ { lX := -40, lY := 7, lZ := -240, button0 := 0x80 },
    .poll false noKeys { lX := -5, button0 := 0x80, button1 := 0x80 },
    .poll true noKeys { lX := 320, lY := 500, lZ := 120, button1 := 0x80 },
    .buffer false noKeys [.other],
    .poll false noKeys { lY := -8, lZ := -120 }]

end RemixBridge.Mouse
