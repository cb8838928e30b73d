import ZigpySpinel.Lib.Timers
import ZigpySpinel.Lib.Transition

/-!
# The window for joins (`application.py:532-548`)

`permit_ncp` opens the window and arms a timer that closes it, or closes it at once. The
application holds the handle of a timer, which says nothing about which timers are armed.
-/

namespace ZigpySpinel.Python
open Lib

/-- `_permitting_joins` and `_permit_reset_task` of the application, and the timers of the
    event loop. -/
structure PermitJoins where
  permittingJoins : Bool
  permitResetTask : Option TimerHandle
  timers : Timers
  deriving DecidableEq, Repr

/-- What happens to the window. -/
inductive PermitOp where
  | permitNcp (timeS : Nat)
  /-- the event loop runs `_reset_permit_ncp` of this timer -/
  | fire (handle : TimerHandle)
  | elapse (seconds : Nat)
  deriving DecidableEq, Repr

namespace PermitJoins

/-- After `__init__`. The attribute `_permitting_joins` is first set by `permit_ncp`. -/
def start (permittingJoins : Bool) : PermitJoins where
  permittingJoins := permittingJoins
  permitResetTask := none
  timers := .start

/-- `_reset_permit_ncp` (`application.py:546-548`). -/
def resetPermitNcp (app : PermitJoins) : PermitJoins :=
  { app with permittingJoins := false, permitResetTask := none }

/-- The held timer is cancelled (`application.py:537-539`). -/
def cancelResetTask (app : PermitJoins) : PermitJoins :=
  match app.permitResetTask with
  | some handle => { app with timers := app.timers.cancel handle, permitResetTask := none }
  | none => app

/-- `permit_ncp` (`application.py:532-544`). -/
def permitNcp (app : PermitJoins) (timeS : Nat) : PermitJoins :=
  if timeS = 0 then app.resetPermitNcp
  else
    let app := app.cancelResetTask
    let (handle, timers) := app.timers.callLater timeS
    { permittingJoins := true, permitResetTask := some handle, timers := timers }

/-- The state after an operation, if it can happen. -/
def step (app : PermitJoins) : PermitOp → Option PermitJoins
  | .permitNcp timeS => some (app.permitNcp timeS)
  | .fire handle => do
    let timers ← app.timers.fire handle
    some { app with timers := timers }.resetPermitNcp
  | .elapse seconds => some { app with timers := app.timers.elapse seconds }

def Step (app : PermitJoins) (op : PermitOp) (app' : PermitJoins) : Prop := app.step op = some app'

/-- At most one timer is armed, and it is the one that is held. -/
def OneHeld (app : PermitJoins) : Prop :=
  app.timers.handles.length ≤ 1 ∧
    ∀ handle ∈ app.timers.handles, app.permitResetTask = some handle

/-- The window is closed only when no timer is held. -/
def ClosedWhenIdle (app : PermitJoins) : PermitOp → Prop
  | .permitNcp timeS => timeS = 0 → app.permitResetTask = none
  | .fire _ => True
  | .elapse _ => True

end PermitJoins

end ZigpySpinel.Python
