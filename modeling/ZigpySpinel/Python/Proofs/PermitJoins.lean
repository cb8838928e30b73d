import ZigpySpinel.Python.PermitJoins

/-!
# The timer of the window for joins

As long as the window is closed by its timer only, the armed timers are the held one. Closing
it by a call drops the handle of a timer that stays armed; no later call cancels this timer,
and when it runs it closes whatever window is open then.
-/

namespace ZigpySpinel.Python.PermitJoins
open Lib

/-! ## One step -/

/-- The armed timers are the held one, if any, and no handle is given out twice. -/
structure HoldsArmed (app : PermitJoins) : Prop where
  held : app.timers.handles = app.permitResetTask.toList
  fresh : app.timers.Fresh

theorem holdsArmed_start (permittingJoins : Bool) : HoldsArmed (start permittingJoins) where
  held := rfl
  fresh := Timers.fresh_start

theorem HoldsArmed.oneHeld {app : PermitJoins} (h : app.HoldsArmed) : app.OneHeld := by
  rw [OneHeld, h.held]
  cases app.permitResetTask with
  | none => simp
  | some handle => simp

/-- Cancelling the held timer leaves none. -/
theorem HoldsArmed.cancelResetTask {app : PermitJoins} (h : app.HoldsArmed) :
    app.cancelResetTask.timers.handles = [] ∧ app.cancelResetTask.timers.Fresh := by
  have hheld := h.held
  rw [PermitJoins.cancelResetTask]
  cases htask : app.permitResetTask with
  | none =>
    rw [htask] at hheld
    exact ⟨hheld, h.fresh⟩
  | some handle =>
    rw [htask] at hheld
    refine ⟨?_, h.fresh.cancel handle⟩
    rw [Timers.handles_cancel, hheld]
    simp

/-- Opening the window arms one timer and holds it. -/
theorem HoldsArmed.permitNcp {app : PermitJoins} (h : app.HoldsArmed) {timeS : Nat}
    (hopen : timeS ≠ 0) : (app.permitNcp timeS).HoldsArmed := by
  obtain ⟨hnone, hfresh⟩ := h.cancelResetTask
  rw [PermitJoins.permitNcp, if_neg hopen]
  refine ⟨?_, hfresh.callLater timeS⟩
  rw [Timers.handles_callLater, hnone]
  rfl

theorem HoldsArmed.step {app app' : PermitJoins} {op : PermitOp} (h : app.HoldsArmed)
    (hguard : app.ClosedWhenIdle op) (hstep : Step app op app') : app'.HoldsArmed := by
  cases op with
  | permitNcp timeS =>
    cases hstep
    by_cases hclose : timeS = 0
    · rw [PermitJoins.permitNcp, if_pos hclose]
      refine ⟨?_, h.fresh⟩
      exact h.held.trans (congrArg Option.toList (hguard hclose))
    · exact h.permitNcp hclose
  | fire handle =>
    obtain ⟨timers, hfire, hstep⟩ := Option.bind_eq_some_iff.mp hstep
    cases hstep
    refine ⟨?_, h.fresh.fire hfire⟩
    obtain ⟨hmem, rfl⟩ := Timers.of_fire hfire
    have hheld := h.held
    -- the timer that ran was the only one
    cases htask : app.permitResetTask with
    | none =>
      rw [htask] at hheld
      rw [hheld] at hmem
      cases hmem
    | some held =>
      rw [htask] at hheld
      rw [hheld] at hmem
      have hsame : handle = held := by simpa using hmem
      change (app.timers.cancel handle).handles = []
      rw [Timers.handles_cancel, hheld, hsame]
      simp
  | elapse seconds =>
    cases hstep
    exact ⟨h.held, h.fresh.elapse seconds⟩

/-- A window that is closed by a call while a timer is held leaves it armed. -/
theorem HoldsArmed.oneHeld_iff {app app' : PermitJoins} {op : PermitOp} (h : app.HoldsArmed)
    (hstep : Step app op app') : app'.OneHeld ↔ app.ClosedWhenIdle op := by
  constructor
  · intro hone
    cases op with
    | permitNcp timeS =>
      intro hclose
      cases hstep
      rw [PermitJoins.permitNcp, if_pos hclose] at hone
      have hheld := h.held
      cases htask : app.permitResetTask with
      | none => rfl
      | some handle =>
        rw [htask] at hheld
        have hmem : handle ∈ app.resetPermitNcp.timers.handles := by
          change handle ∈ app.timers.handles
          rw [hheld]
          exact List.mem_singleton_self handle
        cases hone.2 handle hmem
    | fire handle => trivial
    | elapse seconds => trivial
  · intro hguard
    exact (h.step hguard hstep).oneHeld

/-! ## Runs -/

theorem holdsArmed_of_run {permittingJoins : Bool} {ops : List PermitOp} {app : PermitJoins}
    (h : Run (guarded ClosedWhenIdle Step) (start permittingJoins) ops app) : app.HoldsArmed :=
  h.inv HoldsArmed (fun _ _ _ hs hstep => hs.step hstep.1 hstep.2) (holdsArmed_start permittingJoins)

/-- While nothing is called, a window with one armed timer is open until this timer has run. -/
theorem open_until_fired {app app' : PermitJoins} {handle : TimerHandle} {later : List PermitOp}
    (hjoins : app.permittingJoins = true) (harmed : app.timers.handles = [handle])
    (hrun : Run Step app later app') (hlater : ∀ timeS, PermitOp.permitNcp timeS ∉ later) :
    (app'.permittingJoins = true ∧ app'.timers.handles = [handle] ∧ PermitOp.fire handle ∉ later) ∨
      (app'.permittingJoins = false ∧ app'.timers.handles = [] ∧ PermitOp.fire handle ∈ later) := by
  induction hrun with
  | nil => exact .inl ⟨hjoins, harmed, List.not_mem_nil⟩
  | @snoc t u labels op hrun hstep ih =>
    have hbefore := ih fun timeS hmem => hlater timeS (List.mem_append_left _ hmem)
    cases op with
    | permitNcp timeS =>
      exact absurd (List.mem_append_right _ (List.mem_singleton_self _)) (hlater timeS)
    | fire other =>
      obtain ⟨timers, hfire, hstep⟩ := Option.bind_eq_some_iff.mp hstep
      cases hstep
      obtain ⟨hmem, rfl⟩ := Timers.of_fire hfire
      rcases hbefore with ⟨-, harmed', -⟩ | ⟨-, harmed', -⟩
      · rw [harmed'] at hmem
        have hsame : other = handle := by simpa using hmem
        subst hsame
        refine .inr ⟨rfl, ?_, by simp⟩
        change (t.timers.cancel other).handles = []
        rw [Timers.handles_cancel, harmed']
        simp
      · rw [harmed'] at hmem
        cases hmem
    | elapse seconds =>
      cases hstep
      rcases hbefore with ⟨hjoins', harmed', hnot⟩ | ⟨hjoins', harmed', hfired⟩
      · exact .inl ⟨hjoins', harmed', by simpa using hnot⟩
      · exact .inr ⟨hjoins', harmed', by simpa using hfired⟩

/-- The runs in which at most the held timer is armed are those that close the window only when
    no timer is held; and in these, a window that is opened stays open until the timer of this
    call runs, as long as there is no other call. -/
theorem oneHeld_iff_closedWhenIdle {permittingJoins : Bool} {ops : List PermitOp}
    {app : PermitJoins} :
    (Run (fun s op t => Step s op t ∧ t.OneHeld) (start permittingJoins) ops app ↔
      Run (guarded ClosedWhenIdle Step) (start permittingJoins) ops app) ∧
    (Run (guarded ClosedWhenIdle Step) (start permittingJoins) ops app →
      ∀ timeS, 0 < timeS → ∃ handle, (app.permitNcp timeS).permitResetTask = some handle ∧
        ∀ later app', Run Step (app.permitNcp timeS) later app' →
          (∀ timeS', PermitOp.permitNcp timeS' ∉ later) →
            (app'.permittingJoins = true ↔ PermitOp.fire handle ∉ later)) := by
  constructor
  · exact Run.guarded_iff HoldsArmed (fun _ _ _ hs hguard hstep => hs.step hguard hstep)
      (fun _ _ _ hs hstep => hs.oneHeld_iff hstep) (holdsArmed_start permittingJoins)
  · intro hrun timeS hpos
    have hopen := (holdsArmed_of_run hrun).permitNcp (Nat.ne_of_gt hpos)
    have hjoins : (app.permitNcp timeS).permittingJoins = true := by
      rw [PermitJoins.permitNcp, if_neg (Nat.ne_of_gt hpos)]
    have htask : ∃ handle, (app.permitNcp timeS).permitResetTask = some handle := by
      rw [PermitJoins.permitNcp, if_neg (Nat.ne_of_gt hpos)]
      exact ⟨_, rfl⟩
    obtain ⟨handle, htask⟩ := htask
    have harmed : (app.permitNcp timeS).timers.handles = [handle] := by
      rw [hopen.held, htask]
      rfl
    refine ⟨handle, htask, ?_⟩
    intro later app' hlaterRun hlater
    rcases open_until_fired hjoins harmed hlaterRun hlater with ⟨htrue, -, hnot⟩ | ⟨hfalse, -, hfired⟩
    · exact iff_of_true htrue hnot
    · rw [hfalse]
      exact iff_of_false Bool.false_ne_true (not_not.mpr hfired)

/-- A window that is opened for a minute, and again for half a minute. -/
theorem oneHeld_iff_closedWhenIdle_twice :
    Run (fun s op t => Step s op t ∧ t.OneHeld) (start false) [.permitNcp 60]
        ((start false).permitNcp 60) ∧
      ∃ handle, (((start false).permitNcp 60).permitNcp 30).permitResetTask = some handle ∧
        ∀ later app', Run Step (((start false).permitNcp 60).permitNcp 30) later app' →
          (∀ timeS', PermitOp.permitNcp timeS' ∉ later) →
            (app'.permittingJoins = true ↔ PermitOp.fire handle ∉ later) := by
  have hopened : Run (guarded ClosedWhenIdle Step) (start false) [.permitNcp 60]
      ((start false).permitNcp 60) := by
    apply Run.single
    refine ⟨?_, rfl⟩
    intro hclose
    cases hclose
  obtain ⟨hiff, hwindow⟩ :=
    @oneHeld_iff_closedWhenIdle false [.permitNcp 60] ((start false).permitNcp 60)
  exact ⟨hiff.mpr hopened, hwindow hopened 30 (by decide)⟩

/-- A window is opened for a minute, closed and opened again for a minute after half of it. -/
def reopened : PermitJoins where
  permittingJoins := true
  permitResetTask := some 1
  timers := { now := 30, armed := [⟨1, 90⟩, ⟨0, 60⟩], nextHandle := 2 }

/-- The first timer closes the second window, half a minute before its own timer is due. -/
theorem reopened_closes_early :
    Run Step (start false) [.permitNcp 60, .elapse 30, .permitNcp 0, .permitNcp 60] reopened ∧
      ¬ reopened.OneHeld ∧
      ∃ app, Run Step reopened [.elapse 30, .fire 0] app ∧ app.permittingJoins = false ∧
        app.timers.armed = [⟨1, 90⟩] := by
  refine ⟨Run.of_foldlM rfl, ?_, ?_⟩
  · rintro ⟨hone, -⟩
    exact absurd hone (by decide)
  · exact ⟨_, Run.of_foldlM rfl, rfl, rfl⟩

end ZigpySpinel.Python.PermitJoins
