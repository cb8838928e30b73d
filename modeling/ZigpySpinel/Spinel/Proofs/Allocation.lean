import ZigpySpinel.Spinel.Dispatch

/-!
# Which transaction id a request is given

Transaction ids are given out in the fixed cycle `1, …, 7`, whatever was answered or
cancelled in between. So the request that may still hold the next id is the one that
was prepared seven requests ago, and preparing a request keeps the whole table exactly
if that request has left it.
-/

namespace ZigpySpinel.Spinel
open Lib

namespace SpinelProtocol

/-- The keys of `pending_frames`. -/
def pendingTids (s : SpinelProtocol) : Finset UInt8 :=
  Finset.univ.filter fun tid => (s.pendingFrames tid).isSome

end SpinelProtocol

/-- The channel end of a request that an effect uses up. -/
def Effect.sender : Effect → Option SenderId
  | .sendResponse sender _ => some sender
  | .dropSender sender => some sender
  | .sendPropertyUpdate _ _ => none
  | .noReceiver _ => none
  | .parseFailed _ => none
  | .unhandledUnsolicited _ => none
  | .unmatched _ => none

theorem Effect.sentTo_of_sender_none {effect : Effect} (h : effect.sender = none)
    (request : SenderId) : effect.sentTo request = none := by
  cases effect with
  | sendResponse sender frame => cases h
  | dropSender sender => rfl
  | sendPropertyUpdate receiver propValueIs => rfl
  | noReceiver propValueIs => rfl
  | parseFailed frame => rfl
  | unhandledUnsolicited frame => rfl
  | unmatched frame => rfl

/-- What `handle_inbound_frame` can do: it answers the pending request of the frame's
    transaction id, or it leaves the object and all requests alone. -/
theorem SpinelProtocol.handleInboundFrame_cases (s : SpinelProtocol) (frame : SpinelFrame) :
    (∃ request, frame.header.transactionId ≠ 0 ∧
      s.pendingFrames frame.header.transactionId = some request ∧
      s.handleInboundFrame frame =
        ({ s with pendingFrames :=
            Function.update s.pendingFrames frame.header.transactionId none },
          [.sendResponse request frame])) ∨
    ((frame.header.transactionId = 0 ∨ s.pendingFrames frame.header.transactionId = none) ∧
      (s.handleInboundFrame frame).1 = s ∧
      ∀ effect ∈ (s.handleInboundFrame frame).2, effect.sender = none) := by
  by_cases htid : frame.header.transactionId = 0
  · right
    refine ⟨.inl htid, ?_⟩
    simp only [handleInboundFrame, htid, if_true]
    split
    · split
      · split <;> simp [Effect.sender]
      · simp [Effect.sender]
      · simp [Effect.sender]
    · simp [Effect.sender]
  · cases hpending : s.pendingFrames frame.header.transactionId with
    | some request =>
      left
      refine ⟨request, htid, rfl, ?_⟩
      simp only [handleInboundFrame, htid, if_false, hpending]
    | none =>
      right
      refine ⟨.inr rfl, ?_⟩
      simp [handleInboundFrame, htid, hpending, Effect.sender]

/-- An entry that is there after a removal was there before it. -/
theorem of_update_none {table : UInt8 → Option SenderId} {removed tid : UInt8}
    {request : SenderId} (h : Function.update table removed none tid = some request) :
    table tid = some request := by
  by_cases htid : tid = removed
  · rw [htid, Function.update_self] at h
    cases h
  · rwa [Function.update_of_ne htid] at h

/-- `handle_inbound_frame` only takes entries out of the table. -/
theorem SpinelProtocol.of_handleInboundFrame {s : SpinelProtocol} {frame : SpinelFrame}
    {tid : UInt8} {request : SenderId}
    (h : (s.handleInboundFrame frame).1.pendingFrames tid = some request) :
    s.pendingFrames tid = some request := by
  rcases s.handleInboundFrame_cases frame with ⟨_, -, -, heq⟩ | ⟨-, heq, -⟩
  · rw [heq] at h
    exact of_update_none h
  · rwa [heq] at h

theorem SpinelProtocol.handleInboundFrame_nextTid (s : SpinelProtocol) (frame : SpinelFrame) :
    (s.handleInboundFrame frame).1.nextTid = s.nextTid := by
  rcases s.handleInboundFrame_cases frame with ⟨_, -, -, heq⟩ | ⟨-, heq, -⟩
  · rw [heq]
  · rw [heq]

namespace Dispatch

/-- The transaction id of the next request, and the age and the transaction id of the
    requests in the table, in terms of the number of requests so far. -/
structure CyclicTids (s : Dispatch) : Prop where
  nextTid : s.protocol.nextTid.toNat = 1 + s.nextChannel % 7
  entry : ∀ tid (request : Nat), s.protocol.pendingFrames tid = some request →
    request < s.nextChannel ∧ s.nextChannel ≤ request + 7 ∧ tid.toNat = 1 + request % 7

theorem cyclicTids_start : CyclicTids start where
  nextTid := rfl
  entry := by
    intro tid request h
    cases h

/-- Taking entries out of the table keeps the invariant. -/
theorem CyclicTids.remove {s t : Dispatch} (hs : CyclicTids s)
    (hnextTid : t.protocol.nextTid = s.protocol.nextTid) (hnext : t.nextChannel = s.nextChannel)
    (hsub : ∀ tid request, t.protocol.pendingFrames tid = some request →
      s.protocol.pendingFrames tid = some request) : CyclicTids t where
  nextTid := by
    rw [hnextTid, hnext]
    exact hs.nextTid
  entry := by
    intro tid request h
    rw [hnext]
    exact hs.entry tid request (hsub tid request h)

theorem CyclicTids.prepareRequest {s : Dispatch} (hs : CyclicTids s) (commandId : UInt8)
    (payload : List UInt8) : CyclicTids (s.apply (.prepareRequest commandId payload)) where
  nextTid := by
    have htid := hs.nextTid
    simp only [apply_prepareRequest_nextTid, apply_prepareRequest_nextChannel, UInt8.toNat_add,
      UInt8.toNat_mod, UInt8.reduceToNat]
    omega
  entry := by
    intro tid request h
    have htid := hs.nextTid
    rw [apply_prepareRequest_pendingFrames] at h
    rw [apply_prepareRequest_nextChannel]
    by_cases heq : tid = s.protocol.nextTid
    · rw [heq, Function.update_self] at h
      cases h
      rw [heq]
      omega
    · rw [Function.update_of_ne heq] at h
      obtain ⟨hlt, hle, hmod⟩ := hs.entry tid request h
      -- seven requests ago means the same transaction id, which is taken now
      have hne : tid.toNat ≠ s.protocol.nextTid.toNat := fun h => heq (UInt8.toNat_inj.mp h)
      omega

theorem cyclicTids_apply {s : Dispatch} (hs : CyclicTids s) (op : Op) :
    CyclicTids (s.apply op) := by
  cases op with
  | prepareRequest commandId payload => exact hs.prepareRequest commandId payload
  | handleInboundFrame frame =>
    exact hs.remove (s.protocol.handleInboundFrame_nextTid frame) rfl
      (fun _ _ h => SpinelProtocol.of_handleInboundFrame h)
  | cancelRequest tid => exact hs.remove rfl rfl (fun _ _ h => of_update_none h)

theorem cyclicTids_of_run {ops : List Op} {s : Dispatch} (h : Run Step start ops s) :
    CyclicTids s := by
  refine h.inv CyclicTids ?_ cyclicTids_start
  rintro s op t hs rfl
  exact cyclicTids_apply hs op

/-! ## When preparing a request keeps the table -/

/-- Preparing a request keeps every entry of the table and adds exactly one, under a
    transaction id that was not a key. -/
def PrepareKeepsLive (s : Dispatch) (commandId : UInt8) (payload : List UInt8) : Prop :=
  let table := s.protocol.pendingFrames
  let table' := (s.apply (.prepareRequest commandId payload)).protocol.pendingFrames
  (∀ tid request, table tid = some request → table' tid = some request) ∧
    ∃ tid request, table tid = none ∧ table' tid = some request ∧
      ∀ tid', tid' ≠ tid → table' tid' = table tid'

/-- The request prepared seven requests ago is still in the table. -/
def SeventhLastPending (s : Dispatch) : Prop :=
  ∃ tid, ∃ request : Nat, request + 7 = s.nextChannel ∧ s.protocol.pendingFrames tid = some request

/-- The next transaction id is a key exactly if the request prepared seven requests ago
    is still pending. -/
theorem CyclicTids.nextTid_free {s : Dispatch} (hs : CyclicTids s) :
    s.protocol.pendingFrames s.protocol.nextTid = none ↔ ¬ s.SeventhLastPending := by
  have htid := hs.nextTid
  constructor
  · rintro hfree ⟨tid, request, hseven, hpending⟩
    obtain ⟨-, -, hmod⟩ := hs.entry tid request hpending
    have heq : tid = s.protocol.nextTid := UInt8.toNat_inj.mp (by omega)
    rw [heq, hfree] at hpending
    cases hpending
  · intro hnone
    cases hpending : s.protocol.pendingFrames s.protocol.nextTid with
    | none => rfl
    | some request =>
      obtain ⟨hlt, hle, hmod⟩ := hs.entry _ request hpending
      exact absurd ⟨_, request, by omega, hpending⟩ hnone

theorem CyclicTids.prepareKeepsLive_iff {s : Dispatch} (hs : CyclicTids s) (commandId : UInt8)
    (payload : List UInt8) : s.PrepareKeepsLive commandId payload ↔ ¬ s.SeventhLastPending := by
  rw [← hs.nextTid_free]
  constructor
  · rintro ⟨hkeeps, -⟩
    cases hpending : s.protocol.pendingFrames s.protocol.nextTid with
    | none => rfl
    | some request =>
      -- the entry of the new request carries a channel that no older one has
      obtain ⟨hlt, -, -⟩ := hs.entry _ request hpending
      have hnew : some s.nextChannel = some request := by
        simpa using hkeeps _ request hpending
      cases hnew
      exact absurd hlt (Nat.lt_irrefl _)
  · intro hfree
    refine ⟨?_, s.protocol.nextTid, s.nextChannel, hfree, ?_, ?_⟩
    · intro tid request hpending
      have hne : tid ≠ s.protocol.nextTid := by
        rintro rfl
        rw [hfree] at hpending
        cases hpending
      simpa [hne] using hpending
    · simp
    · intro tid hne
      simp [hne]

/-- In every state of every run, preparing a request while fewer than seven ids are keys
    keeps the live requests exactly if the request prepared seven requests ago has left
    the table. -/
theorem prepareRequest_keepsLive_iff {ops : List Op} {s : Dispatch} (h : Run Step start ops s)
    (commandId : UInt8) (payload : List UInt8) :
    (s.protocol.pendingTids.card < 7 → s.PrepareKeepsLive commandId payload) ↔
      (s.protocol.pendingTids.card < 7 → ¬ s.SeventhLastPending) := by
  have hs := cyclicTids_of_run h
  constructor
  · intro hkeeps hfew
    exact (hs.prepareKeepsLive_iff commandId payload).mp (hkeeps hfew)
  · intro hleft hfew
    exact (hs.prepareKeepsLive_iff commandId payload).mpr (hleft hfew)

/-- Seven requests, of which only the second is answered. -/
def secondAnswered : List Op :=
  List.replicate 7 (.prepareRequest 2 [2]) ++
    [.handleInboundFrame
      { header := { flag := 0b10, networkLinkId := 0, transactionId := 2 }
        commandId := 6
        payload := [2, 0] }]

/-- In that state both sides fail. -/
theorem prepareRequest_keepsLive_iff_secondAnswered :
    ((secondAnswered.foldl apply start).protocol.pendingTids.card < 7 →
        (secondAnswered.foldl apply start).PrepareKeepsLive 2 [2]) ↔
      ((secondAnswered.foldl apply start).protocol.pendingTids.card < 7 →
        ¬ (secondAnswered.foldl apply start).SeventhLastPending) :=
  prepareRequest_keepsLive_iff (run_foldl secondAnswered start) 2 [2]

/-- Six ids are keys then, and the eighth request replaces the sender of the first. -/
theorem prepareRequest_overwrites :
    Run Step start secondAnswered (secondAnswered.foldl apply start) ∧
      ¬ ((secondAnswered.foldl apply start).protocol.pendingTids.card < 7 →
        (secondAnswered.foldl apply start).PrepareKeepsLive 2 [2]) := by
  refine ⟨run_foldl _ _, ?_⟩
  intro h
  obtain ⟨hkeeps, -⟩ := h (by decide +kernel)
  have hfirst := hkeeps 1 0 (by decide)
  exact absurd hfirst (by decide)

end Dispatch

end ZigpySpinel.Spinel
