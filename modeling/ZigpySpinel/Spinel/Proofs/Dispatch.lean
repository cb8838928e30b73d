import ZigpySpinel.Spinel.Proofs.Allocation

/-!
# Responses reach the request they answer

In a run that never prepares a request on a transaction id still in use, the table of the
protocol object holds exactly the outstanding requests. So a response is sent to the one
outstanding request with its transaction id, and a request is answered at most once.
-/

namespace ZigpySpinel.Spinel.Dispatch
open Lib

/-- The table against the history: it holds the outstanding requests, none of which has
    been answered, and no request has been answered twice. -/
structure Refines (s : Dispatch) : Prop where
  cyclic : CyclicTids s
  pending_iff : ∀ tid request,
    s.protocol.pendingFrames tid = some request ↔ Outstanding s.history request tid
  unanswered : ∀ tid request, s.protocol.pendingFrames tid = some request →
    responses s.history request = []
  fresh : ∀ request : Nat, s.nextChannel ≤ request → responses s.history request = []
  atMostOnce : ∀ request, (responses s.history request).length ≤ 1

theorem refines_start : Refines start where
  cyclic := cyclicTids_start
  pending_iff := by
    intro tid request
    constructor
    · intro h
      cases h
    · intro h
      exact absurd h (not_outstanding_nil request tid)
  unanswered := by
    intro tid request h
    cases h
  fresh := by
    intro request h
    rfl
  atMostOnce := by
    intro request
    exact Nat.zero_le 1

/-- Two requests in the table have different transaction ids. -/
theorem CyclicTids.tid_inj {s : Dispatch} (hs : CyclicTids s) {tid tid' : UInt8}
    {request : SenderId} (h : s.protocol.pendingFrames tid = some request)
    (h' : s.protocol.pendingFrames tid' = some request) : tid = tid' := by
  obtain ⟨-, -, hmod⟩ := hs.entry tid request h
  obtain ⟨-, -, hmod'⟩ := hs.entry tid' request h'
  exact UInt8.toNat_inj.mp (hmod.trans hmod'.symm)

theorem Refines.prepareRequest {s : Dispatch} (hs : Refines s) (commandId : UInt8)
    (payload : List UInt8) (hfree : s.protocol.pendingFrames s.protocol.nextTid = none) :
    Refines (s.apply (.prepareRequest commandId payload)) where
  cyclic := cyclicTids_apply hs.cyclic _
  pending_iff := by
    intro tid request
    rw [apply_prepareRequest_history, outstanding_cons, ← hs.pending_iff,
      apply_prepareRequest_pendingFrames]
    by_cases htid : tid = s.protocol.nextTid
    · subst htid
      simp [hfree, Event.sentTo]
    · simp [htid, Ne.symm htid, Event.sentTo]
  unanswered := by
    intro tid request h
    rw [apply_prepareRequest_pendingFrames] at h
    show responses s.history request = []
    by_cases htid : tid = s.protocol.nextTid
    · rw [htid, Function.update_self] at h
      cases h
      exact hs.fresh _ (Nat.le_refl _)
    · rw [Function.update_of_ne htid] at h
      exact hs.unanswered tid request h
  fresh := by
    intro request h
    exact hs.fresh request (Nat.le_of_succ_le h)
  atMostOnce := hs.atMostOnce

/-- The answer to a pending request. -/
theorem Refines.answer {s : Dispatch} (hs : Refines s) {frame : SpinelFrame} {request : SenderId}
    (hpending : s.protocol.pendingFrames frame.header.transactionId = some request)
    (heq : s.protocol.handleInboundFrame frame =
      ({ s.protocol with pendingFrames :=
          Function.update s.protocol.pendingFrames frame.header.transactionId none },
        [.sendResponse request frame])) :
    Refines (s.apply (.handleInboundFrame frame)) := by
  have hsent : ∀ other, Event.sentTo other (.received [.sendResponse request frame]) =
      if request = other then [frame] else [] := by
    intro other
    by_cases h : request = other <;> simp [Event.sentTo, Effect.sentTo, h]
  have hresponses : ∀ other,
      responses (s.apply (.handleInboundFrame frame)).history other =
        (if request = other then [frame] else []) ++ responses s.history other := by
    intro other
    rw [apply_handleInboundFrame_history, heq, ← hsent other]
    rfl
  obtain ⟨hlt, -, -⟩ := hs.cyclic.entry _ request hpending
  constructor
  case cyclic => exact cyclicTids_apply hs.cyclic _
  case pending_iff =>
    intro tid other
    rw [apply_handleInboundFrame_history, outstanding_cons, ← hs.pending_iff,
      apply_handleInboundFrame_protocol, heq, hsent]
    by_cases htid : tid = frame.header.transactionId
    · subst htid
      simp [hpending]
    · have hother : s.protocol.pendingFrames tid = some other → request ≠ other := by
        rintro h rfl
        exact htid (hs.cyclic.tid_inj h hpending)
      simpa [htid] using hother
  case unanswered =>
    intro tid other h
    rw [apply_handleInboundFrame_protocol, heq] at h
    by_cases htid : tid = frame.header.transactionId
    · simp [htid] at h
    · simp only [Function.update_of_ne htid] at h
      have hother : request ≠ other := by
        rintro rfl
        exact htid (hs.cyclic.tid_inj h hpending)
      rw [hresponses, if_neg hother]
      exact hs.unanswered tid other h
  case fresh =>
    intro other h
    have hother : request ≠ other := by
      rintro rfl
      exact absurd hlt (Nat.not_lt.mpr h)
    rw [hresponses, if_neg hother]
    exact hs.fresh other h
  case atMostOnce =>
    intro other
    rw [hresponses]
    by_cases hother : request = other
    · subst hother
      simp [hs.unanswered _ request hpending]
    · simpa [hother] using hs.atMostOnce other

theorem sentTo_received_eq_nil {effects : List Effect} (h : ∀ effect ∈ effects, effect.sender = none)
    (request : SenderId) : Event.sentTo request (.received effects) = [] := by
  refine List.filterMap_eq_nil_iff.mpr ?_
  intro effect heffect
  exact Effect.sentTo_of_sender_none (h effect heffect) request

/-- A frame that answers no request. -/
theorem Refines.unmatched {s : Dispatch} (hs : Refines s) {frame : SpinelFrame}
    (heq : (s.protocol.handleInboundFrame frame).1 = s.protocol)
    (heffects : ∀ effect ∈ (s.protocol.handleInboundFrame frame).2, effect.sender = none) :
    Refines (s.apply (.handleInboundFrame frame)) := by
  have hsent := sentTo_received_eq_nil heffects
  have hresponses : ∀ request,
      responses (s.apply (.handleInboundFrame frame)).history request =
        responses s.history request := by
    intro request
    rw [apply_handleInboundFrame_history, responses, List.flatMap_cons, hsent]
    rfl
  constructor
  case cyclic => exact cyclicTids_apply hs.cyclic _
  case pending_iff =>
    intro tid request
    rw [apply_handleInboundFrame_history, outstanding_cons, hsent, ← hs.pending_iff,
      apply_handleInboundFrame_protocol, heq]
    simp
  case unanswered =>
    intro tid request h
    rw [apply_handleInboundFrame_protocol, heq] at h
    rw [hresponses]
    exact hs.unanswered tid request h
  case fresh =>
    intro request h
    rw [hresponses]
    exact hs.fresh request h
  case atMostOnce =>
    intro request
    rw [hresponses]
    exact hs.atMostOnce request

theorem Refines.cancelRequest {s : Dispatch} (hs : Refines s) (tid : UInt8) :
    Refines (s.apply (.cancelRequest tid)) where
  cyclic := cyclicTids_apply hs.cyclic _
  pending_iff := by
    intro tid' request
    rw [apply_cancelRequest_history, outstanding_cons, ← hs.pending_iff,
      apply_cancelRequest_pendingFrames]
    by_cases htid : tid' = tid
    · simp [htid]
    · simp [htid, Ne.symm htid, Event.sentTo]
  unanswered := by
    intro tid' request h
    rw [apply_cancelRequest_pendingFrames] at h
    by_cases htid : tid' = tid
    · simp [htid] at h
    · rw [Function.update_of_ne htid] at h
      exact hs.unanswered tid' request h
  fresh := hs.fresh
  atMostOnce := hs.atMostOnce

theorem refines_step {s t : Dispatch} {op : Op} (hs : Refines s)
    (h : guarded NextTidFree Step s op t) : Refines t := by
  rcases h with ⟨hguard, rfl⟩
  cases op with
  | prepareRequest commandId payload => exact hs.prepareRequest commandId payload hguard
  | handleInboundFrame frame =>
    rcases s.protocol.handleInboundFrame_cases frame with
      ⟨request, -, hpending, heq⟩ | ⟨-, heq, heffects⟩
    · exact hs.answer hpending heq
    · exact hs.unmatched heq heffects
  | cancelRequest tid => exact hs.cancelRequest tid

theorem refines_of_run {ops : List Op} {s : Dispatch} (h : Run (guarded NextTidFree Step) start ops s) :
    Refines s :=
  h.inv Refines (fun _ _ _ hs hstep => refines_step hs hstep) refines_start

/-! ## The dispatch of responses -/

/-- A frame is sent to the outstanding request of its nonzero transaction id and to
    nobody else; without one it is sent to no request. -/
def SendsToOutstanding (s : Dispatch) (frame : SpinelFrame) : Prop :=
  (∃ request, Outstanding s.history request frame.header.transactionId ∧
      (∀ other, Outstanding s.history other frame.header.transactionId → other = request) ∧
      (s.protocol.handleInboundFrame frame).2 = [.sendResponse request frame]) ∨
    ((∀ request, ¬ Outstanding s.history request frame.header.transactionId) ∧
      ∀ request, Event.sentTo request (.received (s.protocol.handleInboundFrame frame).2) = [])

/-- A frame is sent to no request and leaves the table and the next id alone. -/
def SendsToNoRequest (s : Dispatch) (frame : SpinelFrame) : Prop :=
  (∀ request, Event.sentTo request (.received (s.protocol.handleInboundFrame frame).2) = []) ∧
    (s.protocol.handleInboundFrame frame).1.pendingFrames = s.protocol.pendingFrames ∧
    (s.protocol.handleInboundFrame frame).1.nextTid = s.protocol.nextTid

theorem Refines.sendsToOutstanding {s : Dispatch} (hs : Refines s) {frame : SpinelFrame}
    (htid : frame.header.transactionId ≠ 0) : s.SendsToOutstanding frame := by
  rcases s.protocol.handleInboundFrame_cases frame with
    ⟨request, -, hpending, heq⟩ | ⟨hzero | hnone, -, heffects⟩
  · left
    refine ⟨request, (hs.pending_iff _ _).mp hpending, ?_, by rw [heq]⟩
    intro other hother
    rw [← hs.pending_iff, hpending] at hother
    exact (Option.some.inj hother).symm
  · exact absurd hzero htid
  · right
    refine ⟨?_, sentTo_received_eq_nil heffects⟩
    intro request hrequest
    rw [← hs.pending_iff, hnone] at hrequest
    cases hrequest

theorem sendsToNoRequest (s : Dispatch) {frame : SpinelFrame}
    (htid : frame.header.transactionId = 0) : s.SendsToNoRequest frame := by
  rcases s.protocol.handleInboundFrame_cases frame with ⟨_, hne, -, -⟩ | ⟨-, heq, heffects⟩
  · exact absurd htid hne
  · exact ⟨sentTo_received_eq_nil heffects, congrArg _ heq, congrArg _ heq⟩

/-- What response dispatch is for. -/
structure DispatchSpec (s : Dispatch) : Prop where
  atMostOnce : ∀ request, (responses s.history request).length ≤ 1
  sendsToOutstanding : ∀ frame, frame.header.transactionId ≠ 0 → s.SendsToOutstanding frame
  sendsToNoRequest : ∀ frame, frame.header.transactionId = 0 → s.SendsToNoRequest frame
  pending_iff : ∀ tid request,
    s.protocol.pendingFrames tid = some request ↔ Outstanding s.history request tid
  tid_range : ∀ tid, (∃ request, Outstanding s.history request tid) → 1 ≤ tid ∧ tid ≤ 7

theorem Refines.tid_range {s : Dispatch} (hs : Refines s) {tid : UInt8} {request : SenderId}
    (h : Outstanding s.history request tid) : 1 ≤ tid ∧ tid ≤ 7 := by
  obtain ⟨-, -, hmod⟩ := hs.cyclic.entry tid request ((hs.pending_iff tid request).mpr h)
  constructor
  · exact UInt8.le_iff_toNat_le.mpr (show 1 ≤ tid.toNat by omega)
  · exact UInt8.le_iff_toNat_le.mpr (show tid.toNat ≤ 7 by omega)

/-- Every state of a run that prepares requests on free ids only meets the specification
    of response dispatch. -/
theorem dispatch_refines {ops : List Op} {s : Dispatch}
    (h : Run (guarded NextTidFree Step) start ops s) : s.DispatchSpec := by
  have hs := refines_of_run h
  constructor
  case atMostOnce => exact hs.atMostOnce
  case sendsToOutstanding =>
    intro frame htid
    exact hs.sendsToOutstanding htid
  case sendsToNoRequest =>
    intro frame htid
    exact s.sendsToNoRequest htid
  case pending_iff => exact hs.pending_iff
  case tid_range =>
    rintro tid ⟨request, hrequest⟩
    exact hs.tid_range hrequest

/-- The answer to the first of two requests. -/
def firstResponse : SpinelFrame where
  header := { flag := 0b10, networkLinkId := 0, transactionId := 1 }
  commandId := 6
  payload := [2, 0]

/-- The first of two requests is answered and the second cancelled. -/
theorem dispatch_refines_answered :
    (((start.apply (.prepareRequest 2 [2])).apply (.prepareRequest 2 [3])).apply
      (.handleInboundFrame firstResponse) |>.apply (.cancelRequest 2)).DispatchSpec := by
  have hrun : Run (guarded NextTidFree Step) start
      [.prepareRequest 2 [2], .prepareRequest 2 [3], .handleInboundFrame firstResponse,
        .cancelRequest 2] _ :=
    .cons ⟨rfl, rfl⟩ (.cons ⟨rfl, rfl⟩ (.cons ⟨trivial, rfl⟩ (.single ⟨trivial, rfl⟩)))
  exact dispatch_refines hrun

end ZigpySpinel.Spinel.Dispatch
