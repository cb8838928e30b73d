import ZigpySpinel.Spinel.Client
import ZigpySpinel.Spinel.Proofs.Allocation

/-!
# A call cancels its own request only

While requests are prepared on ids that no call can still cancel, the entry of the id of
such a call is its own. Preparing a request on the id of such a call breaks this at once:
the call's receiver fails, and its `cancel_request` takes the new entry away.
-/

namespace ZigpySpinel.Spinel.SpinelClient
open Lib

/-! ## What a step is -/

theorem step_prepare {c c' : SpinelClient} {commandId : UInt8} {payload : List UInt8}
    (h : c.Step (.prepare commandId payload) c') : c' = c.prepared commandId payload :=
  (Option.some.inj h).symm

theorem step_inbound {c c' : SpinelClient} {frame : SpinelFrame}
    (h : c.Step (.inbound frame) c') : c' = c.received frame :=
  (Option.some.inj h).symm

theorem step_cancel {c c' : SpinelClient} {id : SenderId} (h : c.Step (.cancel id) c') :
    ∃ call error, c.calls id = some call ∧ call.phase = .cancelling error ∧
      c' = c.cancelled id call error := by
  unfold Step step at h
  cases hcall : c.calls id with
  | none => simp [hcall] at h
  | some call =>
    cases hphase : call.phase with
    | writing => simp [hcall, hphase] at h
    | waiting => simp [hcall, hphase] at h
    | returned result => simp [hcall, hphase] at h
    | cancelling error =>
      simp only [hcall, hphase, Option.some.injEq] at h
      exact ⟨call, error, rfl, hphase, h.symm⟩

theorem stepCall_eq_some {c c' : SpinelClient} {id : SenderId}
    {f : SendCommand → Option SendCommand} (h : c.stepCall id f = some c') :
    ∃ call call', c.calls id = some call ∧ f call = some call' ∧
      c' = c.withCall id call' := by
  unfold stepCall at h
  cases hcall : c.calls id with
  | none => simp [hcall] at h
  | some call =>
    cases hstep : f call with
    | none => simp [hcall, hstep] at h
    | some call' =>
      simp only [hcall, hstep, Option.some.injEq] at h
      exact ⟨call, call', rfl, hstep, h.symm⟩

/-! ## What an effect does to a call -/

/-- A call that can still cancel could do so before the effect, with the same id. -/
theorem deliver_mayCancel {calls : SenderId → Option SendCommand} {effect : Effect}
    {id : SenderId} {call' : SendCommand} (h : deliver calls effect id = some call')
    (hmay : call'.MayCancel) :
    ∃ call, calls id = some call ∧ call.tid = call'.tid ∧ call.MayCancel := by
  cases effect with
  | sendResponse sender frame =>
    rw [deliver, Function.update_apply] at h
    split at h
    · subst id
      rw [Option.map_eq_some_iff] at h
      rcases h with ⟨call, hcall, rfl⟩
      refine ⟨call, hcall, rfl, ?_⟩
      rcases call with ⟨request, channel, phase⟩
      cases phase with
      | writing => exact absurd rfl (hmay frame)
      | waiting => exact absurd rfl (hmay frame)
      | cancelling error => trivial
      | returned result => exact hmay
    · exact ⟨call', h, rfl, hmay⟩
  | dropSender sender =>
    rw [deliver, Function.update_apply] at h
    split at h
    · subst id
      rw [Option.map_eq_some_iff] at h
      rcases h with ⟨call, hcall, rfl⟩
      refine ⟨call, hcall, rfl, ?_⟩
      rcases call with ⟨request, channel, phase⟩
      have hkept : (∀ frame, channel.dropSender ≠ .value frame) →
          ∀ frame, channel ≠ .value frame := by
        rintro hnone frame rfl
        exact hnone frame rfl
      cases phase with
      | writing => exact hkept hmay
      | waiting => exact hkept hmay
      | cancelling error => trivial
      | returned result => exact hmay
    · exact ⟨call', h, rfl, hmay⟩
  | sendPropertyUpdate receiver propValueIs => exact ⟨call', h, rfl, hmay⟩
  | noReceiver propValueIs => exact ⟨call', h, rfl, hmay⟩
  | parseFailed frame => exact ⟨call', h, rfl, hmay⟩
  | unhandledUnsolicited frame => exact ⟨call', h, rfl, hmay⟩
  | unmatched frame => exact ⟨call', h, rfl, hmay⟩

theorem foldl_deliver_mayCancel {effects : List Effect} {calls : SenderId → Option SendCommand}
    {id : SenderId} {call' : SendCommand} (h : effects.foldl deliver calls id = some call')
    (hmay : call'.MayCancel) :
    ∃ call, calls id = some call ∧ call.tid = call'.tid ∧ call.MayCancel := by
  induction effects generalizing calls with
  | nil => exact ⟨call', h, rfl, hmay⟩
  | cons effect effects ih =>
    obtain ⟨mid, hmid, htid, hmidMay⟩ := ih h
    obtain ⟨call, hcall, htid', hcallMay⟩ := deliver_mayCancel hmid hmidMay
    exact ⟨call, hcall, htid'.trans htid, hcallMay⟩

/-! ## What a call does on its own -/

/-- A step of its own does not bring a call back to where it can cancel. -/
def KeepsMayCancel (f : SendCommand → Option SendCommand) : Prop :=
  ∀ call call', f call = some call' → call'.tid = call.tid ∧ (call'.MayCancel → call.MayCancel)

theorem keepsMayCancel_written : KeepsMayCancel SendCommand.written := by
  intro call call' h
  obtain ⟨hphase, rfl⟩ := SendCommand.written_eq_some h
  refine ⟨rfl, ?_⟩
  intro hmay
  rw [SendCommand.MayCancel, hphase]
  exact hmay

theorem keepsMayCancel_writeFailed : KeepsMayCancel SendCommand.writeFailed := by
  intro call call' h
  obtain ⟨-, rfl⟩ := SendCommand.writeFailed_eq_some h
  exact ⟨rfl, False.elim⟩

/-- A call that waits can cancel as long as there is no response in its channel. -/
theorem mayCancel_of_waiting {call : SendCommand} (hphase : call.phase = .waiting)
    (hnone : ∀ response, call.channel ≠ .value response) : call.MayCancel := by
  rw [SendCommand.MayCancel, hphase]
  exact hnone

theorem keepsMayCancel_resolved : KeepsMayCancel SendCommand.resolved := by
  intro call call' h
  obtain ⟨hphase, ⟨response, -, rfl⟩ | ⟨hclosed, rfl⟩⟩ := SendCommand.resolved_eq_some h
  · exact ⟨rfl, False.elim⟩
  · refine ⟨rfl, fun _ => mayCancel_of_waiting hphase ?_⟩
    intro response hvalue
    rw [hclosed] at hvalue
    cases hvalue

theorem keepsMayCancel_elapsed : KeepsMayCancel SendCommand.elapsed := by
  intro call call' h
  obtain ⟨hphase, hempty, rfl⟩ := SendCommand.elapsed_eq_some h
  refine ⟨rfl, fun _ => mayCancel_of_waiting hphase ?_⟩
  intro response hvalue
  rw [hempty] at hvalue
  cases hvalue

/-! ## The invariant -/

/-- The entry of the id of a call that can still cancel is the call's own. -/
def Isolated (c : SpinelClient) : Prop :=
  ∀ id call other, c.calls id = some call → call.MayCancel →
    c.protocol.pendingFrames call.tid = some other → other = id

/-- Taking entries out of the table and calls out of the race keeps the invariant. -/
theorem Isolated.remove {c c' : SpinelClient} (hc : Isolated c)
    (hcalls : ∀ id call', c'.calls id = some call' → call'.MayCancel →
      ∃ call, c.calls id = some call ∧ call.tid = call'.tid ∧ call.MayCancel)
    (hpending : ∀ tid other, c'.protocol.pendingFrames tid = some other →
      c.protocol.pendingFrames tid = some other) : Isolated c' := by
  intro id call' other hcall' hmay' hother
  obtain ⟨call, hcall, htid, hmay⟩ := hcalls id call' hcall' hmay'
  rw [← htid] at hother
  exact hc id call other hcall hmay (hpending _ other hother)

theorem Isolated.stepCall {c c' : SpinelClient} (hc : Isolated c)
    {f : SendCommand → Option SendCommand} (hf : KeepsMayCancel f) {id : SenderId}
    (h : c.stepCall id f = some c') : Isolated c' := by
  obtain ⟨call, call', hcall, hstep, rfl⟩ := stepCall_eq_some h
  obtain ⟨htid, hmay⟩ := hf call call' hstep
  refine hc.remove ?_ (fun _ _ hpending => hpending)
  intro id' other hother hothermay
  by_cases hid : id' = id
  · rw [hid, withCall_calls_self] at hother
    cases hother
    exact ⟨call, hid ▸ hcall, htid.symm, hmay hothermay⟩
  · rw [withCall_calls_of_ne c hid] at hother
    exact ⟨other, hother, rfl, hothermay⟩

theorem Isolated.prepare {c c' : SpinelClient} (hc : Isolated c) {commandId : UInt8}
    {payload : List UInt8} (hguard : c.NextTidUnclaimed (.prepare commandId payload))
    (h : c.Step (.prepare commandId payload) c') : Isolated c' := by
  obtain rfl := step_prepare h
  intro id call other hcall hmay hother
  rw [prepared_calls] at hcall
  rw [prepared_pendingFrames] at hother
  by_cases hid : id = c.nextCall
  · -- the new call and its own entry
    rw [hid, Function.update_self] at hcall
    cases hcall
    rw [SendCommand.tid, Function.update_self] at hother
    cases hother
    exact hid.symm
  · rw [Function.update_of_ne hid] at hcall
    obtain ⟨before, hbefore, htid, hbeforeMay⟩ := foldl_deliver_mayCancel hcall hmay
    have hne : call.tid ≠ c.protocol.nextTid := htid ▸ hguard id before hbefore hbeforeMay
    rw [Function.update_of_ne hne] at hother
    exact hc id before other hbefore hbeforeMay (htid ▸ hother)

theorem Isolated.inbound {c c' : SpinelClient} (hc : Isolated c) {frame : SpinelFrame}
    (h : c.Step (.inbound frame) c') : Isolated c' := by
  obtain rfl := step_inbound h
  exact hc.remove (fun _ _ hcall hmay => foldl_deliver_mayCancel hcall hmay)
    (fun _ _ hother => SpinelProtocol.of_handleInboundFrame hother)

theorem Isolated.cancel {c c' : SpinelClient} (hc : Isolated c) {id : SenderId}
    (h : c.Step (.cancel id) c') : Isolated c' := by
  obtain ⟨call, error, -, -, rfl⟩ := step_cancel h
  refine hc.remove ?_ (fun _ _ hother => of_update_none hother)
  intro id' call' hcall' hmay'
  rw [cancelled_calls] at hcall'
  by_cases hid : id' = id
  · rw [hid, Function.update_self] at hcall'
    cases hcall'
    exact hmay'.elim
  · rw [Function.update_of_ne hid] at hcall'
    exact foldl_deliver_mayCancel hcall' hmay'

theorem isolated_step {c c' : SpinelClient} {action : Action} (hc : Isolated c)
    (h : guarded NextTidUnclaimed Step c action c') : Isolated c' := by
  rcases h with ⟨hguard, hstep⟩
  cases action with
  | prepare commandId payload => exact hc.prepare hguard hstep
  | written id => exact hc.stepCall keepsMayCancel_written hstep
  | writeFailed id => exact hc.stepCall keepsMayCancel_writeFailed hstep
  | inbound frame => exact hc.inbound hstep
  | resolved id => exact hc.stepCall keepsMayCancel_resolved hstep
  | elapsed id => exact hc.stepCall keepsMayCancel_elapsed hstep
  | cancel id => exact hc.cancel hstep

theorem isolated_of_run {actions : List Action} {c : SpinelClient}
    (h : Run (guarded NextTidUnclaimed Step) new actions c) : Isolated c := by
  refine h.inv Isolated (fun _ _ _ hc hstep => isolated_step hc hstep) ?_
  intro id call other hcall
  cases hcall

/-- In an isolated state no call cancels the request of another. -/
theorem Isolated.not_cancelsOther {c c' : SpinelClient} (hc : Isolated c) {action : Action}
    (hstep : c.Step action c') : ¬ CancelsOther c action c' := by
  rintro ⟨id, call, other, rfl, hcall, hne, hpending, -⟩
  obtain ⟨call', error, hcall', hphase, -⟩ := step_cancel hstep
  rw [hcall] at hcall'
  cases hcall'
  have hmay : call.MayCancel := by
    rw [SendCommand.MayCancel, hphase]
    trivial
  exact hne (hc id call other hcall hmay hpending)

/-! ## Preparing on the id of a call that can still cancel -/

theorem deliver_eq_none (calls : SenderId → Option SendCommand) (effect : Effect) (id : SenderId) :
    deliver calls effect id = none ↔ calls id = none := by
  cases effect with
  | sendResponse sender frame =>
    by_cases h : id = sender
    · simp [deliver, h]
    · simp [deliver, h]
  | dropSender sender =>
    by_cases h : id = sender
    · simp [deliver, h]
    · simp [deliver, h]
  | sendPropertyUpdate receiver propValueIs => rfl
  | noReceiver propValueIs => rfl
  | parseFailed frame => rfl
  | unhandledUnsolicited frame => rfl
  | unmatched frame => rfl

theorem foldl_deliver_eq_none (effects : List Effect) (calls : SenderId → Option SendCommand)
    (id : SenderId) : effects.foldl deliver calls id = none ↔ calls id = none := by
  induction effects generalizing calls with
  | nil => rfl
  | cons effect effects ih => exact (ih _).trans (deliver_eq_none calls effect id)

/-- The number of the next call is new. -/
def Fresh (c : SpinelClient) : Prop := ∀ id : Nat, c.nextCall ≤ id → c.calls id = none

theorem Fresh.ne {c : SpinelClient} (hc : Fresh c) {id id' : Nat} {call : SendCommand}
    (hcall : c.calls id = some call) (h : c.nextCall ≤ id') : id' ≠ id := by
  rintro rfl
  rw [hc id' h] at hcall
  cases hcall

theorem Fresh.stepCall {c c' : SpinelClient} (hc : Fresh c)
    {f : SendCommand → Option SendCommand} {id : SenderId} (h : c.stepCall id f = some c') :
    Fresh c' := by
  obtain ⟨call, call', hcall, -, rfl⟩ := stepCall_eq_some h
  intro id' hid'
  rw [withCall_calls_of_ne c (hc.ne hcall hid')]
  exact hc id' hid'

theorem fresh_step {c c' : SpinelClient} {action : Action} (hc : Fresh c)
    (h : c.Step action c') : Fresh c' := by
  cases action with
  | prepare commandId payload =>
    obtain rfl := step_prepare h
    intro id hid
    have hlt : c.nextCall < id := hid
    rw [prepared_calls, Function.update_of_ne (Nat.ne_of_gt hlt), foldl_deliver_eq_none]
    exact hc id (Nat.le_of_lt hlt)
  | written id => exact hc.stepCall h
  | writeFailed id => exact hc.stepCall h
  | inbound frame =>
    obtain rfl := step_inbound h
    intro id hid
    rw [received_calls, foldl_deliver_eq_none]
    exact hc id hid
  | resolved id => exact hc.stepCall h
  | elapsed id => exact hc.stepCall h
  | cancel id =>
    obtain ⟨call, error, hcall, -, rfl⟩ := step_cancel h
    intro id' hid'
    rw [cancelled_calls, Function.update_of_ne (hc.ne hcall hid'), foldl_deliver_eq_none]
    exact hc id' hid'

theorem fresh_of_run {actions : List Action} {c : SpinelClient} (h : Run Step new actions c) :
    Fresh c :=
  h.inv Fresh (fun _ _ _ hc hstep => fresh_step hc hstep) (fun _ _ => rfl)

/-- A waiting call without a response in its channel goes on to its `cancel_request`: its
    time runs out, or it finds its sender dropped. -/
theorem exists_step_cancelling {c : SpinelClient} {id : SenderId} {call : SendCommand}
    (hcall : c.calls id = some call) (hphase : call.phase = .waiting)
    (hnone : ∀ response, call.channel ≠ .value response) :
    ∃ action error, Step c action (c.withCall id { call with phase := .cancelling error }) := by
  rcases call with ⟨frame, channel, phase⟩
  cases hphase
  cases channel with
  | empty =>
    refine ⟨.elapsed id, .timeout, ?_⟩
    simp [Step, step, SpinelClient.stepCall, SendCommand.elapsed, hcall]
  | value response => exact absurd rfl (hnone response)
  | closed =>
    refine ⟨.resolved id, .channelClosed, ?_⟩
    simp [Step, step, SpinelClient.stepCall, SendCommand.resolved, hcall]

theorem step_written {c : SpinelClient} {id : SenderId} {call : SendCommand}
    (hcall : c.calls id = some call) (hphase : call.phase = .writing) :
    Step c (.written id) (c.withCall id { call with phase := .waiting }) := by
  rcases call with ⟨frame, channel, phase⟩
  cases hphase
  simp [Step, step, SpinelClient.stepCall, SendCommand.written, hcall]

/-- A call that can still cancel can be led to its `cancel_request` without a step that
    touches the protocol object. -/
theorem exists_cancelling {c : SpinelClient} {id : SenderId} {call : SendCommand}
    (hcall : c.calls id = some call) (hmay : call.MayCancel) :
    ∃ actions c' call' error, Run Step c actions c' ∧ c'.protocol = c.protocol ∧
      c'.calls id = some call' ∧ call'.tid = call.tid ∧ call'.phase = .cancelling error := by
  have hnone := hmay
  unfold SendCommand.MayCancel at hnone
  cases hphase : call.phase with
  | writing =>
    rw [hphase] at hnone
    have hwritten := step_written hcall hphase
    have hwaiting := withCall_calls_self c id { call with phase := .waiting }
    obtain ⟨_, error, hstep⟩ := exists_step_cancelling hwaiting rfl hnone
    exact ⟨_, _, _, error, .cons hwritten (.single hstep), rfl, withCall_calls_self .., rfl, rfl⟩
  | waiting =>
    rw [hphase] at hnone
    obtain ⟨_, error, hstep⟩ := exists_step_cancelling hcall hphase hnone
    exact ⟨_, _, _, error, .single hstep, rfl, withCall_calls_self .., rfl, rfl⟩
  | cancelling error => exact ⟨[], c, call, error, .nil c, rfl, hcall, rfl, hphase⟩
  | returned result =>
    rw [hphase] at hnone
    exact hnone.elim

/-- Dropping its sender leaves a call that can cancel able to. -/
theorem mayCancel_dropSender {call : SendCommand} (h : call.MayCancel) :
    ({ call with channel := call.channel.dropSender } : SendCommand).MayCancel := by
  rcases call with ⟨frame, channel, phase⟩
  have hdrop : (∀ response, channel ≠ .value response) →
      ∀ response, channel.dropSender ≠ .value response := by
    intro hnone
    cases channel with
    | empty => simp [Channel.dropSender]
    | value response => exact absurd rfl (hnone response)
    | closed => simp [Channel.dropSender]
  cases phase with
  | writing => exact hdrop h
  | waiting => exact hdrop h
  | cancelling error => trivial
  | returned result => exact h

/-- Preparing a request may close the channel of an older one, which can cancel as before. -/
theorem prepareEffects_mayCancel {c : SpinelClient} {id : SenderId} {call : SendCommand}
    (hcall : c.calls id = some call) (hmay : call.MayCancel) :
    ∃ call', c.prepareEffects.foldl deliver c.calls id = some call' ∧ call'.tid = call.tid ∧
      call'.MayCancel := by
  unfold prepareEffects
  cases c.protocol.pendingFrames c.protocol.nextTid with
  | none => exact ⟨call, hcall, rfl, hmay⟩
  | some replaced =>
    simp only [List.foldl_cons, List.foldl_nil, deliver]
    by_cases hid : id = replaced
    · rw [hid] at hcall ⊢
      rw [Function.update_self, hcall]
      exact ⟨_, rfl, rfl, mayCancel_dropSender hmay⟩
    · rw [Function.update_of_ne hid]
      exact ⟨call, hcall, rfl, hmay⟩

/-- From a state in which a call that can still cancel holds the next id, preparing a
    request goes on to a `cancel_request` that takes the new request away. -/
theorem exists_cancelsOther {c : SpinelClient} (hfresh : Fresh c) {id : SenderId}
    {call : SendCommand} (hcall : c.calls id = some call) (hmay : call.MayCancel)
    (htid : call.tid = c.protocol.nextTid) (commandId : UInt8) (payload : List UInt8) :
    ∃ actions c' c'', Run Step c (.prepare commandId payload :: actions) c' ∧
      Step c' (.cancel id) c'' ∧ CancelsOther c' (.cancel id) c'' := by
  have hne : c.nextCall ≠ id := hfresh.ne hcall (Nat.le_refl _)
  have hprepare : Step c (.prepare commandId payload) (c.prepared commandId payload) := rfl
  obtain ⟨call', hcall', htid', hmay'⟩ := prepareEffects_mayCancel hcall hmay
  have hcalls : (c.prepared commandId payload).calls id = some call' := by
    rw [prepared_calls, Function.update_of_ne hne.symm, hcall']
  obtain ⟨actions, c', last, error, hrun, hprotocol, hlast, hlastTid, hphase⟩ :=
    exists_cancelling hcalls hmay'
  have hpending : c'.protocol.pendingFrames last.tid = some c.nextCall := by
    rw [hprotocol, hlastTid, htid', htid, prepared_pendingFrames, Function.update_self]
  have hcancel : Step c' (.cancel id) (c'.cancelled id last error) := by
    simp only [Step, step, hlast, hphase]
  refine ⟨actions, c', _, .cons hprepare hrun, hcancel, id, last, c.nextCall, rfl, hlast, hne,
    hpending, ?_⟩
  rw [cancelled_pendingFrames, Function.update_self]

/-! ## When calls are isolated -/

/-- In every interleaving that prepares requests only on ids which no call can still
    cancel, no call cancels the request of another; and once a request is prepared on such
    an id, the interleaving can go on to a call that does. -/
theorem cancel_isolated (actions : List Action) (c : SpinelClient) :
    (Run (guarded NextTidUnclaimed Step) new actions c →
      ∀ action c', Step c action c' → ¬ CancelsOther c action c') ∧
    (Run Step new actions c →
      ∀ commandId payload, ¬ NextTidUnclaimed c (.prepare commandId payload) →
        ∃ actions' c' id c'', Run Step c (.prepare commandId payload :: actions') c' ∧
          Step c' (.cancel id) c'' ∧ CancelsOther c' (.cancel id) c'') := by
  constructor
  · intro hrun action c' hstep
    exact (isolated_of_run hrun).not_cancelsOther hstep
  · intro hrun commandId payload hclaimed
    simp only [NextTidUnclaimed, not_forall, not_not] at hclaimed
    rcases hclaimed with ⟨id, call, hcall, hmay, htid⟩
    obtain ⟨actions', c', c'', hgoes⟩ :=
      exists_cancelsOther (fresh_of_run hrun) hcall hmay htid commandId payload
    exact ⟨actions', c', id, c'', hgoes⟩

/-- The first call of a client, at a point before any response. -/
def firstCall (phase : Phase) : SendCommand where
  frame :=
    { header := { flag := 0b10, networkLinkId := 0, transactionId := 1 }
      commandId := 2
      payload := [2] }
  channel := .empty
  phase := phase

/-- A client whose only call has timed out. -/
def timedOut : SpinelClient :=
  ((new.prepared 2 [2]).withCall 0 (firstCall .waiting)).withCall 0
    (firstCall (.cancelling .timeout))

/-- Seven calls, none of which has its response yet. -/
def sevenCalls : SpinelClient := (List.replicate 7 [2]).foldl (prepared · 2 ·) new

/-- A single call that times out, and an eighth call beside seven that wait. -/
theorem cancel_isolated_runs :
    ¬ CancelsOther timedOut (.cancel 0)
        (timedOut.cancelled 0 (firstCall (.cancelling .timeout)) .timeout) ∧
      ∃ actions' c' id c'', Run Step sevenCalls (.prepare 2 [2] :: actions') c' ∧
        Step c' (.cancel id) c'' ∧ CancelsOther c' (.cancel id) c'' := by
  constructor
  · have hprepare : guarded NextTidUnclaimed Step new (.prepare 2 [2]) (new.prepared 2 [2]) := by
      refine ⟨?_, rfl⟩
      intro id call hcall
      cases hcall
    have hrun : Run (guarded NextTidUnclaimed Step) new
        [.prepare 2 [2], .written 0, .elapsed 0] timedOut :=
      .cons hprepare (.cons ⟨trivial, rfl⟩ (.single ⟨trivial, rfl⟩))
    exact (cancel_isolated _ _).1 hrun _ _ rfl
  · have hrun : Run Step new (List.replicate 7 (.prepare 2 [2])) sevenCalls := run_of_stepAll rfl
    refine (cancel_isolated _ _).2 hrun 2 [2] ?_
    intro hunclaimed
    refine hunclaimed 0 _ rfl ?_ rfl
    intro frame hvalue
    cases hvalue

/-- Eight calls: the first finds its sender replaced by the last, and takes the request of
    the last away. -/
theorem cancel_takes_other :
    ∃ c c', Run Step new
        (List.replicate 7 (.prepare 2 [2]) ++ [.written 0, .prepare 2 [2], .resolved 0]) c ∧
      Step c (.cancel 0) c' ∧ CancelsOther c (.cancel 0) c' := by
  refine ⟨_, _, run_of_stepAll rfl, rfl, 0, _, 7, rfl, rfl, ?_, rfl, rfl⟩
  decide

end ZigpySpinel.Spinel.SpinelClient
