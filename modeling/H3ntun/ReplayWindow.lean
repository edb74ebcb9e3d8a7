import H3ntun.Basic
import H3ntun.Foundation.TransitionSystem
import Mathlib.Data.Finset.Insert

namespace H3ntun

/-!
# The session-aware replay window

`ReplayWindow` keeps one bitmap for the current session and the identifiers
of the sessions it has left.  A frame of a session that is neither current
nor retired makes that session current.
-/

/-- The window of one packet direction. -/
structure ReplayWindow where
  size : Nat
  sessionId : Option Int
  retiredSessions : Finset Int
  highest : Int
  bitmap : Nat
  deriving DecidableEq

namespace ReplayWindow

/-- Default window size of the constructor. -/
def defaultSize : Nat := 4096

/-- A window that has not accepted anything. -/
def fresh (size : Nat) : ReplayWindow where
  size := size
  sessionId := none
  retiredSessions := ∅
  highest := -1
  bitmap := 0

/-- The constructor refuses sizes below 64. -/
def init (size : Nat) : Except Failure ReplayWindow :=
  if size < 64 then
    .error (.valueError "replay window must be at least 64")
  else
    .ok (fresh size)

/-- Make a session current, unless it was left before. -/
def selectSession (window : ReplayWindow) (sessionId : Int) :
    ReplayWindow × Bool :=
  match window.sessionId with
  | none => ({ window with sessionId := some sessionId }, true)
  | some current =>
      if sessionId = current then
        (window, true)
      else if sessionId ∈ window.retiredSessions then
        (window, false)
      else
        ({ window with
            retiredSessions := insert current window.retiredSessions
            sessionId := some sessionId
            highest := -1
            bitmap := 0 }, true)

/-- Place a sequence number in the bitmap of the current session. -/
def place (window : ReplayWindow) (sequence : Int) :
    ReplayWindow × Bool :=
  if window.highest < 0 then
    ({ window with highest := sequence, bitmap := 1 }, true)
  else if sequence > window.highest then
    let shift := (sequence - window.highest).toNat
    ({ window with
        bitmap :=
          if shift ≥ window.size then
            1
          else
            ((window.bitmap <<< shift) ||| 1) &&&
              ((1 <<< window.size) - 1)
        highest := sequence }, true)
  else
    let distance := (window.highest - sequence).toNat
    if distance ≥ window.size then
      (window, false)
    else
      let mask := 1 <<< distance
      if window.bitmap &&& mask ≠ 0 then
        (window, false)
      else
        ({ window with bitmap := window.bitmap ||| mask }, true)

/-- `_accept_locked`. -/
def acceptLocked (window : ReplayWindow) (sequence sessionId : Int) :
    ReplayWindow × Bool :=
  if sequence < 0 then
    (window, false)
  else
    match window.selectSession sessionId with
    | (selected, false) => (selected, false)
    | (selected, true) => selected.place sequence

/-- Holding the lock, `accept` is `acceptLocked`. -/
def accept (window : ReplayWindow) (sequence sessionId : Int) :
    ReplayWindow × Bool :=
  window.acceptLocked sequence sessionId

/-- The window as a machine answering `accept(sequence, session_id)` calls. -/
def machine : Machine ReplayWindow (Int × Int) Bool where
  step window call := window.accept call.1 call.2

end ReplayWindow

end H3ntun
