import Mathlib.Data.List.Basic

/-!
# Timers of an event loop

`callLater` arms a timer and returns its handle. An armed timer runs once, at its deadline or
later, unless its handle is cancelled before; handles are not used again. Time passes in
steps of any length, and the loop may run the timers that are due in any order.
-/

namespace ZigpySpinel.Lib

abbrev TimerHandle : Type := Nat

structure Timer where
  handle : TimerHandle
  deadline : Nat
  deriving DecidableEq, Repr

/-- The clock and the timers that have neither run nor been cancelled. -/
structure Timers where
  now : Nat
  armed : List Timer
  nextHandle : TimerHandle
  deriving DecidableEq, Repr

namespace Timers

/-- No timer is armed. -/
def start : Timers where
  now := 0
  armed := []
  nextHandle := 0

def handles (t : Timers) : List TimerHandle := t.armed.map (·.handle)

def elapse (t : Timers) (delay : Nat) : Timers := { t with now := t.now + delay }

/-- Arm a timer: its handle, and the timers with it. -/
def callLater (t : Timers) (delay : Nat) : TimerHandle × Timers :=
  let timer : Timer := { handle := t.nextHandle, deadline := t.now + delay }
  (t.nextHandle, { t with armed := timer :: t.armed, nextHandle := t.nextHandle + 1 })

/-- A timer that is not armed stays so. -/
def cancel (t : Timers) (handle : TimerHandle) : Timers :=
  { t with armed := t.armed.filter fun timer => timer.handle != handle }

/-- The timers after one has run, `none` where it is not armed or not due. -/
def fire (t : Timers) (handle : TimerHandle) : Option Timers :=
  if t.armed.any fun timer => timer.handle == handle && decide (timer.deadline ≤ t.now) then
    some (t.cancel handle)
  else none

/-- The handles that were given out are smaller than the next one. -/
def Fresh (t : Timers) : Prop := ∀ handle ∈ t.handles, handle < t.nextHandle

variable {t t' : Timers} {handle : TimerHandle}

@[simp] theorem handles_start : start.handles = [] := rfl

@[simp] theorem handles_elapse (t : Timers) (delay : Nat) : (t.elapse delay).handles = t.handles :=
  rfl

@[simp] theorem handles_callLater (t : Timers) (delay : Nat) :
    (t.callLater delay).2.handles = t.nextHandle :: t.handles := rfl

@[simp] theorem handles_cancel (t : Timers) (handle : TimerHandle) :
    (t.cancel handle).handles = t.handles.filter (· != handle) := by
  rw [handles, cancel, handles, List.filter_map]
  rfl

theorem of_fire (h : t.fire handle = some t') : handle ∈ t.handles ∧ t' = t.cancel handle := by
  rw [fire] at h
  split at h
  next hdue =>
    obtain ⟨timer, hmem, htimer⟩ := List.any_eq_true.mp hdue
    have hhandle : timer.handle = handle := by
      rw [Bool.and_eq_true_iff, beq_iff_eq] at htimer
      exact htimer.1
    cases h
    exact ⟨List.mem_map.mpr ⟨timer, hmem, hhandle⟩, rfl⟩
  · cases h

theorem fresh_start : start.Fresh := by
  intro handle hmem
  cases hmem

theorem Fresh.elapse (h : t.Fresh) (delay : Nat) : (t.elapse delay).Fresh := h

theorem Fresh.cancel (h : t.Fresh) (handle : TimerHandle) : (t.cancel handle).Fresh := by
  intro other hmem
  rw [handles_cancel] at hmem
  exact h other (List.mem_of_mem_filter hmem)

theorem Fresh.callLater (h : t.Fresh) (delay : Nat) : (t.callLater delay).2.Fresh := by
  intro handle hmem
  rw [handles_callLater] at hmem
  change handle < t.nextHandle + 1
  cases hmem with
  | head => exact Nat.lt_succ_self _
  | tail _ hmem => exact Nat.lt_succ_of_lt (h handle hmem)

theorem Fresh.fire (h : t.Fresh) (hfire : t.fire handle = some t') : t'.Fresh := by
  obtain ⟨-, rfl⟩ := of_fire hfire
  exact h.cancel handle

end Timers

end ZigpySpinel.Lib
