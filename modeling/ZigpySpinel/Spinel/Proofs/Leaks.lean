import ZigpySpinel.Spinel.Proofs.Isolation

/-!
# Requests that a call leaves in the table

A call takes its request out of the table when it is answered and when it cancels. The one
other way out of `send_command` is the `?` behind `port.write`, which returns without
`cancel_request`. So as long as a write fails only for a call whose own request is in the
table no more, every entry belongs to a call in progress.
-/

namespace ZigpySpinel.Spinel
open Lib

/-- The call has not returned. -/
def SendCommand.InProgress (call : SendCommand) : Prop :=
  match call.phase with
  | .writing => True
  | .waiting => True
  | .cancelling _ => True
  | .returned _ => False

namespace SpinelClient

/-- Every key of `pending_frames` is the transaction id of a call in progress. -/
def KeysInProgress (c : SpinelClient) : Prop :=
  ∀ tid, (c.protocol.pendingFrames tid).isSome →
    ∃ id call, c.calls id = some call ∧ call.InProgress ∧ call.tid = tid

/-- All calls so far have returned. -/
def AllReturned (c : SpinelClient) : Prop :=
  ∀ id call, c.calls id = some call → ¬ call.InProgress

/-- A write fails only for a call whose own request has left the table: it was answered,
    replaced or cancelled by another call while it was being written. -/
def FailsUnregistered (c : SpinelClient) : Action → Prop
  | .writeFailed id => ∀ call, c.calls id = some call →
      c.protocol.pendingFrames call.tid ≠ some id
  | .prepare _ _ => True
  | .written _ => True
  | .inbound _ => True
  | .resolved _ => True
  | .elapsed _ => True
  | .cancel _ => True

/-- The request of a call is in the table, the call is in progress and its channel is unused. -/
def Registered (c : SpinelClient) (tid : UInt8) (id : SenderId) : Prop :=
  ∃ call, c.calls id = some call ∧ call.tid = tid ∧ call.InProgress ∧ call.channel = .empty

/-- Every entry of the table is the request of a call in progress. -/
def Owned (c : SpinelClient) : Prop :=
  ∀ tid id, c.protocol.pendingFrames tid = some id → c.Registered tid id

theorem Owned.keysInProgress {c : SpinelClient} (hc : Owned c) : KeysInProgress c := by
  intro tid hsome
  obtain ⟨id, hentry⟩ := Option.isSome_iff_exists.mp hsome
  obtain ⟨call, hcall, htid, hprogress, -⟩ := hc tid id hentry
  exact ⟨id, call, hcall, hprogress, htid⟩

/-- A table whose keys belong to calls in progress is empty once all calls have returned. -/
theorem KeysInProgress.pendingFrames_empty {c : SpinelClient} (hc : KeysInProgress c)
    (hreturned : AllReturned c) (tid : UInt8) : c.protocol.pendingFrames tid = none := by
  rw [← Option.not_isSome_iff_eq_none]
  intro hsome
  obtain ⟨id, call, hcall, hprogress, -⟩ := hc tid hsome
  exact hreturned id call hcall hprogress

/-! ## Effects on the other calls -/

theorem deliver_of_ne {effect : Effect} {id : SenderId} (h : effect.sender ≠ some id)
    (calls : SenderId → Option SendCommand) : deliver calls effect id = calls id := by
  cases effect with
  | sendResponse sender frame =>
    refine Function.update_of_ne ?_ ..
    rintro rfl
    exact h rfl
  | dropSender sender =>
    refine Function.update_of_ne ?_ ..
    rintro rfl
    exact h rfl
  | sendPropertyUpdate receiver propValueIs => rfl
  | noReceiver propValueIs => rfl
  | parseFailed frame => rfl
  | unhandledUnsolicited frame => rfl
  | unmatched frame => rfl

theorem foldl_deliver_of_ne {effects : List Effect} {id : SenderId}
    (h : ∀ effect ∈ effects, effect.sender ≠ some id) (calls : SenderId → Option SendCommand) :
    effects.foldl deliver calls id = calls id := by
  induction effects generalizing calls with
  | nil => rfl
  | cons effect effects ih =>
    rw [List.foldl_cons, ih (fun e he => h e (List.mem_cons_of_mem effect he)),
      deliver_of_ne (h effect List.mem_cons_self)]

/-- An effect on the request of one id leaves the request of every other entry alone. -/
theorem Registered.deliver {c c' : SpinelClient} {tid : UInt8} {id : SenderId}
    (hregistered : c.Registered tid id) (effects : List Effect)
    (hne : ∀ effect ∈ effects, effect.sender ≠ some id)
    (hcalls : c'.calls id = effects.foldl deliver c.calls id) : c'.Registered tid id := by
  rcases hregistered with ⟨call, hcall, hregistered⟩
  rw [foldl_deliver_of_ne hne, hcall] at hcalls
  exact ⟨call, hcalls, hregistered⟩

/-- Two entries of one call are one entry. -/
theorem Owned.tid_eq {c : SpinelClient} (hc : Owned c) {tid tid' : UInt8} {id : SenderId}
    (h : c.protocol.pendingFrames tid = some id) (h' : c.protocol.pendingFrames tid' = some id) :
    tid = tid' := by
  obtain ⟨call, hcall, htid, -⟩ := hc tid id h
  obtain ⟨call', hcall', htid', -⟩ := hc tid' id h'
  rw [hcall] at hcall'
  cases hcall'
  rw [← htid, htid']

/-! ## The steps -/

/-- A step of its own takes no call out of progress while its channel is unused. -/
def KeepsRegistered (f : SendCommand → Option SendCommand) : Prop :=
  ∀ call call', f call = some call' → call.channel = .empty →
    call'.tid = call.tid ∧ call'.InProgress ∧ call'.channel = .empty

theorem keepsRegistered_written : KeepsRegistered SendCommand.written := by
  intro call call' h hchannel
  obtain ⟨-, rfl⟩ := SendCommand.written_eq_some h
  exact ⟨rfl, trivial, hchannel⟩

theorem keepsRegistered_resolved : KeepsRegistered SendCommand.resolved := by
  intro call call' h hchannel
  obtain ⟨-, ⟨response, hvalue, -⟩ | ⟨hclosed, -⟩⟩ := SendCommand.resolved_eq_some h
  · rw [hchannel] at hvalue
    cases hvalue
  · rw [hchannel] at hclosed
    cases hclosed

theorem keepsRegistered_elapsed : KeepsRegistered SendCommand.elapsed := by
  intro call call' h hchannel
  obtain ⟨-, -, rfl⟩ := SendCommand.elapsed_eq_some h
  exact ⟨rfl, trivial, hchannel⟩

theorem Registered.withCall {c : SpinelClient} {tid : UInt8} {id id' : SenderId}
    (hregistered : c.Registered tid id) (hne : id ≠ id') (call' : SendCommand) :
    (c.withCall id' call').Registered tid id := by
  rcases hregistered with ⟨call, hcall, hregistered⟩
  rw [← withCall_calls_of_ne c hne call'] at hcall
  exact ⟨call, hcall, hregistered⟩

theorem Owned.stepCall {c c' : SpinelClient} (hc : Owned c)
    {f : SendCommand → Option SendCommand} (hf : KeepsRegistered f) {id : SenderId}
    (h : c.stepCall id f = some c') : Owned c' := by
  obtain ⟨call, call', hcall, hstep, rfl⟩ := stepCall_eq_some h
  intro tid id' hentry
  have hbefore := hc tid id' hentry
  by_cases hid : id' = id
  · subst hid
    rcases hbefore with ⟨before, hsame, htid, -, hchannel⟩
    rw [hcall] at hsame
    cases hsame
    obtain ⟨htid', hregistered⟩ := hf call call' hstep hchannel
    exact ⟨call', withCall_calls_self .., htid'.trans htid, hregistered⟩
  · exact hbefore.withCall hid call'

/-- A write that fails for a call whose request is not in the table. -/
theorem Owned.writeFailed {c c' : SpinelClient} (hc : Owned c) {id : SenderId}
    (hguard : FailsUnregistered c (.writeFailed id)) (h : c.Step (.writeFailed id) c') :
    Owned c' := by
  obtain ⟨call, call', hcall, -, rfl⟩ := stepCall_eq_some h
  intro tid id' hentry
  have hbefore := hc tid id' hentry
  refine hbefore.withCall ?_ call'
  rintro rfl
  rcases hbefore with ⟨before, hsame, htid, -⟩
  rw [hcall] at hsame
  cases hsame
  exact hguard call hcall (htid ▸ hentry)

theorem Owned.prepare {c c' : SpinelClient} (hc : Owned c) (hfresh : Fresh c)
    {commandId : UInt8} {payload : List UInt8} (h : c.Step (.prepare commandId payload) c') :
    Owned c' := by
  obtain rfl := step_prepare h
  intro tid id hentry
  rw [prepared_pendingFrames, Function.update_apply] at hentry
  split at hentry
  · -- the new entry is that of the new call
    rename_i htid
    cases hentry
    rw [Registered, prepared_calls, Function.update_self]
    exact ⟨_, rfl, htid.symm, trivial, rfl⟩
  · rename_i htid
    have hbefore := hc tid id hentry
    rcases hbefore with ⟨call, hcall, -⟩
    have hold : id ≠ c.nextCall := (hfresh.ne hcall (Nat.le_refl _)).symm
    refine (hc tid id hentry).deliver c.prepareEffects ?_ ?_
    · unfold prepareEffects
      cases hreplaced : c.protocol.pendingFrames c.protocol.nextTid with
      | none => simp
      | some replaced =>
        simp only [List.mem_singleton, forall_eq, Effect.sender, ne_eq, Option.some.injEq]
        rintro rfl
        exact htid (hc.tid_eq hentry hreplaced)
    · rw [prepared_calls, Function.update_of_ne hold]

theorem Owned.inbound {c c' : SpinelClient} (hc : Owned c) {frame : SpinelFrame}
    (h : c.Step (.inbound frame) c') : Owned c' := by
  obtain rfl := step_inbound h
  intro tid id hentry
  have hbefore := SpinelProtocol.of_handleInboundFrame hentry
  refine (hc tid id hbefore).deliver (c.protocol.handleInboundFrame frame).2 ?_ rfl
  rcases c.protocol.handleInboundFrame_cases frame with ⟨request, -, hrequest, heq⟩ | ⟨-, -, hnone⟩
  · rw [received_protocol, heq] at hentry
    rw [heq]
    simp only [List.mem_singleton, forall_eq, Effect.sender, ne_eq, Option.some.injEq]
    rintro rfl
    obtain rfl := hc.tid_eq hbefore hrequest
    simp at hentry
  · intro effect heffect
    rw [hnone effect heffect]
    simp

theorem Owned.cancel {c c' : SpinelClient} (hc : Owned c) {id : SenderId}
    (h : c.Step (.cancel id) c') : Owned c' := by
  obtain ⟨call, error, hcall, -, rfl⟩ := step_cancel h
  intro tid id' hentry
  rw [cancelled_pendingFrames] at hentry
  have hbefore := of_update_none hentry
  have htid : tid ≠ call.tid := by
    rintro rfl
    rw [Function.update_self] at hentry
    cases hentry
  have hne : id' ≠ id := by
    rintro rfl
    obtain ⟨before, hsame, htid', -⟩ := hc tid id' hbefore
    rw [hcall] at hsame
    cases hsame
    exact htid htid'.symm
  refine (hc tid id' hbefore).deliver (c.protocol.cancelRequest call.tid).2 ?_ ?_
  · unfold SpinelProtocol.cancelRequest
    cases hremoved : c.protocol.pendingFrames call.tid with
    | none => simp
    | some removed =>
      simp only [List.mem_singleton, forall_eq, Effect.sender, ne_eq, Option.some.injEq]
      rintro rfl
      exact htid (hc.tid_eq hbefore hremoved)
  · rw [cancelled_calls, Function.update_of_ne hne]

theorem owned_step {c c' : SpinelClient} {action : Action} (hc : Owned c) (hfresh : Fresh c)
    (h : guarded FailsUnregistered Step c action c') : Owned c' := by
  rcases h with ⟨hguard, hstep⟩
  cases action with
  | prepare commandId payload => exact hc.prepare hfresh hstep
  | written id => exact hc.stepCall keepsRegistered_written hstep
  | writeFailed id => exact hc.writeFailed hguard hstep
  | inbound frame => exact hc.inbound hstep
  | resolved id => exact hc.stepCall keepsRegistered_resolved hstep
  | elapsed id => exact hc.stepCall keepsRegistered_elapsed hstep
  | cancel id => exact hc.cancel hstep

theorem owned_of_run {actions : List Action} {c : SpinelClient}
    (h : Run (guarded FailsUnregistered Step) new actions c) : Owned c := by
  refine (h.inv (fun c => Fresh c ∧ Owned c) ?_ ⟨fun _ _ => rfl, ?_⟩).2
  · intro c action c' hc hstep
    exact ⟨fresh_step hc.1 hstep.2, owned_step hc.2 hc.1 hstep⟩
  · intro tid id hentry
    cases hentry

/-! ## A write that fails for a pending request -/

theorem step_writeFailed {c c' : SpinelClient} {id : SenderId} (h : c.Step (.writeFailed id) c') :
    ∃ call, c.calls id = some call ∧ call.phase = .writing ∧
      c' = c.withCall id { call with phase := .returned (.error .ioError) } := by
  obtain ⟨call, call', hcall, hstep, rfl⟩ := stepCall_eq_some h
  obtain ⟨hphase, rfl⟩ := SendCommand.writeFailed_eq_some hstep
  exact ⟨call, hcall, hphase, rfl⟩

/-- In every interleaving whose writes fail only for calls whose request has left the
    table, every key is the transaction id of a call in progress, and the table is empty
    once all calls have returned. A write that fails for a call whose request is still in
    the table leaves the request there behind a call that has returned; the key is then the
    id of a call in progress only where another call of that id is. -/
theorem keys_inProgress (actions : List Action) (c : SpinelClient) :
    (Run (guarded FailsUnregistered Step) new actions c →
      KeysInProgress c ∧ (AllReturned c → ∀ tid, c.protocol.pendingFrames tid = none)) ∧
    (Run Step new actions c →
      ∀ id c', Step c (.writeFailed id) c' → ¬ FailsUnregistered c (.writeFailed id) →
        ∃ call, c'.calls id = some call ∧ ¬ call.InProgress ∧
          c'.protocol.pendingFrames call.tid = some id ∧
          (KeysInProgress c' → ∃ other call', other ≠ id ∧ c'.calls other = some call' ∧
            call'.InProgress ∧ call'.tid = call.tid)) := by
  constructor
  · intro hrun
    have hkeys := (owned_of_run hrun).keysInProgress
    exact ⟨hkeys, fun hreturned => hkeys.pendingFrames_empty hreturned⟩
  · intro _ id c' hstep hfails
    obtain ⟨call, hcall, -, rfl⟩ := step_writeFailed hstep
    simp only [FailsUnregistered, not_forall, not_not] at hfails
    rcases hfails with ⟨call', hcall', hentry⟩
    rw [hcall] at hcall'
    cases hcall'
    refine ⟨_, withCall_calls_self .., fun hprogress => hprogress, hentry, ?_⟩
    intro hkeys
    obtain ⟨other, call', hcall', hprogress, htid⟩ := hkeys call.tid (by simp [hentry])
    refine ⟨other, call', ?_, hcall', hprogress, htid⟩
    rintro rfl
    rw [withCall_calls_self] at hcall'
    cases hcall'
    exact hprogress

/-- The write of a first request fails. -/
def failedWrite : SpinelClient :=
  (new.prepared 2 [2]).withCall 0 (firstCall (.returned (.error .ioError)))

/-- A call that is written and times out leaves nothing behind, and one whose write fails
    leaves its request. -/
theorem keys_inProgress_runs :
    (KeysInProgress (timedOut.cancelled 0 (firstCall (.cancelling .timeout)) .timeout) ∧
      (AllReturned (timedOut.cancelled 0 (firstCall (.cancelling .timeout)) .timeout) →
        ∀ tid, (timedOut.cancelled 0 (firstCall (.cancelling .timeout)) .timeout).protocol.pendingFrames
          tid = none)) ∧
      ∃ call, failedWrite.calls 0 = some call ∧ ¬ call.InProgress ∧
        failedWrite.protocol.pendingFrames call.tid = some 0 ∧
        (KeysInProgress failedWrite → ∃ other call', other ≠ 0 ∧
          failedWrite.calls other = some call' ∧ call'.InProgress ∧ call'.tid = call.tid) := by
  constructor
  · have hrun : Run (guarded FailsUnregistered Step) new
        [.prepare 2 [2], .written 0, .elapsed 0, .cancel 0]
        (timedOut.cancelled 0 (firstCall (.cancelling .timeout)) .timeout) :=
      .cons ⟨trivial, rfl⟩ (.cons ⟨trivial, rfl⟩ (.cons ⟨trivial, rfl⟩ (.single ⟨trivial, rfl⟩)))
    exact (keys_inProgress _ _).1 hrun
  · have hrun : Run Step new [.prepare 2 [2]] (new.prepared 2 [2]) := run_of_stepAll rfl
    refine (keys_inProgress _ _).2 hrun 0 _ rfl ?_
    intro hguard
    exact hguard _ rfl rfl

/-- After one failed write all calls have returned, and the request is still there. -/
theorem failedWrite_leaks :
    ∃ actions c, Run Step new actions c ∧ AllReturned c ∧ ¬ KeysInProgress c ∧
      (c.protocol.pendingFrames 1).isSome := by
  have hreturned : AllReturned failedWrite := by
    intro id call hcall hprogress
    by_cases hid : id = 0
    · subst hid
      cases hcall
      exact hprogress
    · have hold : id ≠ new.nextCall := hid
      rw [failedWrite, withCall_calls_of_ne _ hid, prepared_calls, Function.update_of_ne hold]
        at hcall
      cases hcall
  refine ⟨[.prepare 2 [2], .writeFailed 0], failedWrite, run_of_stepAll rfl, hreturned, ?_, rfl⟩
  intro hkeys
  have hempty := hkeys.pendingFrames_empty hreturned 1
  cases hempty

end SpinelClient

end ZigpySpinel.Spinel
