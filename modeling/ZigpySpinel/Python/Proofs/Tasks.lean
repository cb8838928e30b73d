import ZigpySpinel.Python.Proofs.SentPackets
import ZigpySpinel.Python.Tasks

/-!
# Interleaved calls of the application

What a call does behind its first stretch depends on the application only through the
channel, which no call changes. So the calls of the application, however their stretches are
taken in turns, do what they do one after the other in the order in which they were started.
-/

namespace ZigpySpinel.Python
open Lib

/-! ## Stretch by stretch -/

/-- More has been done. -/
def CallbackState.also (s : CallbackState) (effects : List CallbackEffect) : CallbackState :=
  { s with effects := s.effects ++ effects }

/-- The end of a call behind `_send_spinel_frame`. -/
def afterSending (delivers : Option ReceivedPacket) :
    CallbackState × Except PyException (Option UInt8) → CallbackState × Except PyException Unit
  | (s, .error e) => (s, .error e)
  | (s, .ok _) => (s.also (delivers.toList.map .packetReceived), .ok ())

/-- The rest of a call from a state on, without an interruption. -/
def CallProgress.complete (answers : Answers) (s : CallbackState) :
    CallProgress → CallbackState × Except PyException Unit
  | .running sending =>
    if sending.pausing then
      afterSending sending.delivers
        (sendAttempts answers sending.frame sending.remaining (sending.attempt + 1) s)
    else
      match statusOf (answers sending.attempt) with
      | .error e => (s, .error e)
      | .ok status =>
        if status = noAck then
          afterSending sending.delivers
            (sendAttempts answers sending.frame sending.remaining (sending.attempt + 1) s)
        else (s.also (sending.delivers.toList.map .packetReceived), .ok ())
  | .finished result => (s, result)
  | .cancelled => (s, .error .cancelledError)

/-- A stretch and the rest of the call. -/
def Stretch.complete (answers : Answers) (s : CallbackState) (stretch : Stretch) :
    CallbackState × Except PyException Unit :=
  stretch.progress.complete answers (s.also stretch.effects)

theorem CallbackState.also_nil (s : CallbackState) : s.also [] = s := by
  rw [also, List.append_nil]

theorem Stretch.complete_raises (answers : Answers) (s : CallbackState) (e : PyException) :
    (raises e).complete answers s = (s, .error e) := by
  rw [complete, raises, CallbackState.also_nil]
  rfl

/-- The loop of `_send_spinel_frame` from its head on. -/
theorem Stretch.complete_sends (answers : Answers) (frame : IEEE802154Frame)
    (delivers : Option ReceivedPacket) (remaining attempt : Nat) (s : CallbackState) :
    (sends s.app.channel frame delivers remaining attempt).complete answers s =
      afterSending delivers (sendAttempts answers frame remaining attempt s) := by
  cases remaining with
  | zero => rfl
  | succ remaining =>
    rw [sends, sendAttempts]
    cases streamRawValue s.app.channel frame with
    | error e => exact complete_raises answers s e
    | ok value =>
      rw [complete]
      dsimp only
      rw [CallProgress.complete, if_neg Bool.false_ne_true]
      dsimp only
      cases statusOf (answers attempt) with
      | error e => rfl
      | ok status =>
        dsimp only
        split <;> rfl

/-- The rest of a call after an answer. -/
theorem Sending.complete_answered {answers : Answers} {sending : Sending}
    {answer : Except PyException (PropertyID × List UInt8)} (hpausing : sending.pausing = false)
    (hanswer : answers sending.attempt = answer) (s : CallbackState) :
    (sending.answered answer).complete answers s =
      (CallProgress.running sending).complete answers s := by
  rw [CallProgress.complete, hpausing, if_neg Bool.false_ne_true, hanswer, answered]
  cases statusOf answer with
  | error e => exact Stretch.complete_raises answers s e
  | ok status =>
    dsimp only
    split
    · rw [Stretch.complete, CallbackState.also_nil, CallProgress.complete, if_pos rfl]
    · rfl

/-- The rest of a call after a pause. -/
theorem Sending.complete_resumed {answers : Answers} {sending : Sending}
    (hpausing : sending.pausing = true) (s : CallbackState) :
    (sending.resumed s.app.channel).complete answers s =
      (CallProgress.running sending).complete answers s := by
  rw [CallProgress.complete, hpausing, if_pos rfl, resumed, Stretch.complete_sends]

/-! ## The first stretch -/

section Begin

variable (encryptBlock : Key → Block → Block)

/-- What a call comes to from its first stretch on. -/
def completeBegun (answers : Answers) (begun : PacketApp × Stretch) :
    CallbackState × Except PyException Unit :=
  begun.2.complete answers (.start begun.1)

theorem complete_beginReply (answers : Answers) (attempts : Nat) (ieeeFrame : IEEE802154Frame)
    (place : AppState → AppState × Option DecryptedZigbeeNwkFrame)
    (delivers : Option ReceivedPacket) (app : PacketApp) :
    completeBegun answers (beginReply encryptBlock attempts ieeeFrame place delivers app) =
      afterSending delivers
        (sendReply encryptBlock answers attempts ieeeFrame place (.start app)) := by
  unfold beginReply sendReply
  dsimp only [CallbackState.start]
  cases replyFrame encryptBlock (place app.toAppState).1.key ieeeFrame (place app.toAppState).2 with
  | error e => exact Stretch.complete_raises answers _ e
  | ok frame => exact Stretch.complete_sends answers frame delivers attempts 0 (.start _)

theorem complete_beginSendPacket (answers : Answers) (packet : OutgoingPacket) (app : PacketApp) :
    completeBegun answers (beginSendPacket encryptBlock packet app) =
      sendPacket encryptBlock answers packet (.start app) := by
  cases hframe : app.frameOf encryptBlock packet with
  | error e =>
    rw [sendPacket_of_error encryptBlock answers hframe]
    rw [PacketApp.frameOf, PacketApp.counted] at hframe
    simp only [beginSendPacket, AppState.sendPacket, hframe]
    exact Stretch.complete_raises answers _ e
  | ok frame =>
    rw [sendPacket_of_ok encryptBlock answers hframe]
    rw [PacketApp.frameOf, PacketApp.counted] at hframe
    simp only [beginSendPacket, AppState.sendPacket, hframe]
    refine (Stretch.complete_sends answers frame none 5 0 (.start app.counted)).trans ?_
    dsimp only [sendSpinelFrame]
    rcases sendAttempts answers frame 5 0 (.start app.counted) with ⟨s, e | status⟩
    · rfl
    · exact congrArg (·, Except.ok ()) s.also_nil

theorem complete_beginFrame (answers : Answers) (r : ReceivedFrame) (app : PacketApp) :
    completeBegun answers (beginFrame encryptBlock r app) =
      handleFrame encryptBlock answers r (.start app) := by
  unfold beginFrame handleFrame
  cases isRouteRequest r.decrypted with
  | error e => exact Stretch.complete_raises answers _ e
  | ok routeRequest =>
    cases routeRequest with
    | true =>
      refine (complete_beginReply encryptBlock answers 5 r.ieeeFrame _ none app).trans ?_
      rw [sendRouteReply]
      rcases sendReply encryptBlock answers 5 r.ieeeFrame
        (AppState.sendRouteReply r.nwkFrame.nwkHeader) (.start app) with ⟨s, e | status⟩
      · rfl
      · exact congrArg (·, Except.ok ()) s.also_nil
    | false =>
      dsimp only
      by_cases htype : r.decrypted.nwkHeader.frameControl.frameType ≠ .data
      · rw [if_pos htype, if_pos htype]
        rfl
      · rw [if_neg htype, if_neg htype]
        cases ZigbeeApsFrame.fromBytes r.decrypted.payload with
        | error e => exact Stretch.complete_raises answers _ e
        | ok aps =>
          dsimp only
          rw [handleAps]
          by_cases haps : aps.frameControl.frameType ≠ .data
          · rw [if_pos haps, if_pos haps]
            rfl
          · rw [if_neg haps, if_neg haps]
            cases aps.frameControl.ackRequest with
            | false => rfl
            | true =>
              rw [if_pos rfl, if_pos rfl]
              refine (complete_beginReply encryptBlock answers 1 r.ieeeFrame _ _ app).trans ?_
              rw [sendApsAck]
              rcases sendReply encryptBlock answers 1 r.ieeeFrame
                (AppState.sendApsAck r.nwkFrame.nwkHeader aps) (.start app) with ⟨s, e | status⟩
              · rfl
              · rfl

/-- The first stretch of a call and the rest of it are the whole call. -/
theorem complete_begin (answers : Answers) (call : Call) (app : PacketApp) :
    completeBegun answers (call.begin encryptBlock app) = call.run encryptBlock answers app := by
  cases call with
  | sendPacket packet => exact complete_beginSendPacket encryptBlock answers packet app
  | packetCallback value =>
    change completeBegun answers (beginPacketCallback encryptBlock value app) =
      packetCallback encryptBlock answers app value
    unfold beginPacketCallback packetCallback
    cases receive encryptBlock app value with
    | error e => exact Stretch.complete_raises answers _ e
    | ok received =>
      cases received with
      | none => rfl
      | some r => exact complete_beginFrame encryptBlock answers r app

/-! ## What the rest of a call leaves alone -/

theorem effects_sendAttempts (answers : Answers) (frame : IEEE802154Frame)
    (remaining attempt : Nat) (s : CallbackState) :
    s.effects <+: (sendAttempts answers frame remaining attempt s).1.effects := by
  induction remaining generalizing attempt s with
  | zero => exact List.prefix_refl s.effects
  | succ remaining ih =>
    rw [sendAttempts]
    cases streamRawValue s.app.channel frame with
    | error e => exact List.prefix_refl s.effects
    | ok value =>
      have hlog : s.effects <+: (s.log (.setProperty .streamRaw value)).effects :=
        List.prefix_append _ _
      dsimp only
      cases statusOf (answers attempt) with
      | error e => exact hlog
      | ok status =>
        dsimp only
        split
        · exact hlog.trans (ih _ _)
        · exact hlog

theorem effects_afterSending (delivers : Option ReceivedPacket)
    (result : CallbackState × Except PyException (Option UInt8)) :
    result.1.effects <+: (afterSending delivers result).1.effects := by
  rcases result with ⟨s, e | status⟩
  · exact List.prefix_refl s.effects
  · exact List.prefix_append s.effects _

theorem app_afterSending (delivers : Option ReceivedPacket)
    (result : CallbackState × Except PyException (Option UInt8)) :
    (afterSending delivers result).1.app = result.1.app := by
  rcases result with ⟨s, e | status⟩ <;> rfl

theorem CallProgress.effects_complete (answers : Answers) (s : CallbackState)
    (progress : CallProgress) : s.effects <+: (progress.complete answers s).1.effects := by
  cases progress with
  | finished result => exact List.prefix_refl s.effects
  | cancelled => exact List.prefix_refl s.effects
  | running sending =>
    have hsend := (effects_sendAttempts answers sending.frame sending.remaining
      (sending.attempt + 1) s).trans (effects_afterSending sending.delivers _)
    rw [complete]
    split
    · exact hsend
    · cases statusOf (answers sending.attempt) with
      | error e => exact List.prefix_refl s.effects
      | ok status =>
        dsimp only
        split
        · exact hsend
        · exact List.prefix_append s.effects _

theorem CallProgress.app_complete (answers : Answers) (s : CallbackState)
    (progress : CallProgress) : (progress.complete answers s).1.app = s.app := by
  cases progress with
  | finished result => rfl
  | cancelled => rfl
  | running sending =>
    rw [complete]
    split
    · rw [app_afterSending, app_sendAttempts]
    · cases statusOf (answers sending.attempt) with
      | error e => rfl
      | ok status =>
        dsimp only
        split
        · rw [app_afterSending, app_sendAttempts]
        · rfl

/-- The first stretch leaves the application as the whole call does. -/
theorem app_run (answers : Answers) (call : Call) (app : PacketApp) :
    (call.run encryptBlock answers app).1.app = (call.begin encryptBlock app).1 := by
  rw [← complete_begin, completeBegun, Stretch.complete, CallProgress.app_complete]
  rfl

theorem app_beginReply (attempts : Nat) (ieeeFrame : IEEE802154Frame)
    {place : AppState → AppState × Option DecryptedZigbeeNwkFrame}
    (hplace : ∀ state, (place state).1 = state.increment) (delivers : Option ReceivedPacket)
    (app : PacketApp) :
    (beginReply encryptBlock attempts ieeeFrame place delivers app).1 = app.counted := by
  unfold beginReply PacketApp.counted
  rw [← hplace]
  dsimp only
  split <;> rfl

/-- A call changes nothing of the application but its frame counter, which goes up by one or not
    at all. -/
theorem app_begin (call : Call) (app : PacketApp) :
    (call.begin encryptBlock app).1 = app ∨ (call.begin encryptBlock app).1 = app.counted := by
  cases call with
  | sendPacket packet =>
    rw [Call.begin]
    unfold beginSendPacket
    dsimp only
    split
    · exact .inr rfl
    · exact .inr rfl
  | packetCallback value =>
    rw [Call.begin]
    unfold beginPacketCallback
    split
    · exact .inl rfl
    · exact .inl rfl
    next r _ =>
      unfold beginFrame
      split
      · exact .inl rfl
      · exact .inr (app_beginReply encryptBlock _ _ (fun _ => rfl) _ _)
      · split
        · exact .inl rfl
        · split
          · exact .inl rfl
          · dsimp only
            split
            · exact .inl rfl
            · split
              · exact .inr (app_beginReply encryptBlock _ _ (fun _ => rfl) _ _)
              · exact .inl rfl

theorem channel_begin (call : Call) (app : PacketApp) :
    (call.begin encryptBlock app).1.channel = app.channel := by
  rcases app_begin encryptBlock call app with heq | heq
  · rw [heq]
  · rw [heq]
    rfl

/-- If a stretch leaves the call in an attempt, it is the first one. -/
def Stretch.First (stretch : Stretch) : Prop :=
  ∀ sending, stretch.progress = .running sending → sending.attempt = 0 ∧ sending.pausing = false

theorem Stretch.first_sends (channel : Int) (frame : IEEE802154Frame)
    (delivers : Option ReceivedPacket) (remaining : Nat) :
    (sends channel frame delivers remaining 0).First := by
  intro sending h
  cases remaining with
  | zero => cases h
  | succ remaining =>
    rw [sends] at h
    split at h
    · cases h
    · cases h
      exact ⟨rfl, rfl⟩

theorem first_beginReply (attempts : Nat) (ieeeFrame : IEEE802154Frame)
    (place : AppState → AppState × Option DecryptedZigbeeNwkFrame)
    (delivers : Option ReceivedPacket) (app : PacketApp) :
    (beginReply encryptBlock attempts ieeeFrame place delivers app).2.First := by
  unfold beginReply
  dsimp only
  split
  · rintro sending ⟨⟩
  · exact Stretch.first_sends _ _ _ _

theorem first_begin (call : Call) (app : PacketApp) :
    (call.begin encryptBlock app).2.First := by
  cases call with
  | sendPacket packet =>
    rw [Call.begin]
    unfold beginSendPacket
    dsimp only
    split
    · rintro sending ⟨⟩
    · exact Stretch.first_sends _ _ _ _
  | packetCallback value =>
    rw [Call.begin]
    unfold beginPacketCallback
    split
    · rintro sending ⟨⟩
    · rintro sending ⟨⟩
    next r =>
      unfold beginFrame
      split
      · rintro sending ⟨⟩
      · exact first_beginReply encryptBlock _ _ _ _ _
      · split
        · rintro sending ⟨⟩
        · split
          · rintro sending ⟨⟩
          · dsimp only
            split
            · rintro sending ⟨⟩
            · split
              · exact first_beginReply encryptBlock _ _ _ _ _
              · rintro sending ⟨⟩

/-! ## Calls in a row -/

/-- The application after the first stretches of some calls. -/
def appAfter (app : PacketApp) (calls : List Call) : PacketApp :=
  calls.foldl (fun app call => (call.begin encryptBlock app).1) app

theorem appAfter_append (app : PacketApp) (calls : List Call) (call : Call) :
    appAfter encryptBlock app (calls ++ [call]) =
      (call.begin encryptBlock (appAfter encryptBlock app calls)).1 := by
  rw [appAfter, List.foldl_append]
  rfl

theorem channel_appAfter (app : PacketApp) (calls : List Call) :
    (appAfter encryptBlock app calls).channel = app.channel := by
  induction calls using List.reverseRecOn with
  | nil => rfl
  | append_singleton calls call ih => rw [appAfter_append, channel_begin, ih]

/-- What the calls come to one after the other. -/
theorem sequential_eq (answers : Nat → Answers) (app : PacketApp) (calls : List Call) :
    (sequential encryptBlock answers app calls).1 = appAfter encryptBlock app calls ∧
      (sequential encryptBlock answers app calls).2.length = calls.length ∧
      ∀ (i : Nat) (call : Call), calls[i]? = some call → (sequential encryptBlock answers app calls).2[i]? =
        some (call.run encryptBlock (answers i) (appAfter encryptBlock app (calls.take i))) := by
  induction calls using List.reverseRecOn with
  | nil =>
    refine ⟨rfl, rfl, ?_⟩
    intro i call h
    cases h
  | append_singleton calls call ih =>
    obtain ⟨happ, hlength, hresults⟩ := ih
    have hstep : sequential encryptBlock answers app (calls ++ [call]) =
        let before := sequential encryptBlock answers app calls
        let result := call.run encryptBlock (answers before.2.length) before.1
        (result.1.app, before.2 ++ [result]) := by
      rw [sequential, List.foldl_append]
      rfl
    rw [hstep]
    dsimp only
    refine ⟨?_, ?_, ?_⟩
    · rw [app_run, happ, appAfter_append]
    · rw [List.length_append, List.length_append, hlength]
      rfl
    · intro i call' h
      by_cases hlt : i < calls.length
      · rw [List.getElem?_append_left (by omega), List.take_append_of_le_length (by omega)]
        rw [List.getElem?_append_left hlt] at h
        exact hresults i call' h
      · have hi : i = calls.length := by
          have hbound := (List.getElem?_eq_some_iff.mp h).1
          rw [List.length_append, List.length_singleton] at hbound
          omega
        subst hi
        rw [List.getElem?_append_right (Nat.le_refl _), Nat.sub_self] at h
        cases h
        rw [← hlength, List.getElem?_append_right (Nat.le_refl _), Nat.sub_self, hlength,
          List.take_append_of_le_length (Nat.le_refl _), List.take_length, happ]
        rfl

end Begin

/-! ## Records -/

/-- The radio gives a call the answers that it has got. -/
def CallRecord.Got (record : CallRecord) (answers : Answers) : Prop :=
  ∀ (k : Nat) (answer : Except PyException (PropertyID × List UInt8)),
    record.answers[k]? = some answer → answers k = answer

variable (encryptBlock : Key → Block → Block)

/-- What a call has done is the beginning of the whole call from the application on that it was
    started with, and the rest of it is what is still to be done. -/
structure CallRecord.Follows (record : CallRecord) (app : PacketApp)
    (effects : List CallbackEffect) : Prop where
  count : ∀ sending, record.progress = .running sending →
    record.answers.length = sending.attempt + sending.pausing.toNat
  rest : record.progress ≠ .cancelled → ∀ answers, record.Got answers →
    record.call.run encryptBlock answers app = record.progress.complete answers
      { app := (record.call.begin encryptBlock app).1, effects := effects }
  starts : ∀ answers, record.Got answers →
    effects <+: (record.call.run encryptBlock answers app).1.effects

section Follows

variable {encryptBlock} {record : CallRecord} {app : PacketApp} {effects : List CallbackEffect}
  {sending : Sending}

theorem CallRecord.Got.of_append {answers : Answers}
    {answer : Except PyException (PropertyID × List UInt8)}
    (h : CallRecord.Got { record with answers := record.answers ++ [answer] } answers) :
    record.Got answers ∧ answers record.answers.length = answer := by
  constructor
  · intro k a hk
    apply h k a
    have hlt := (List.getElem?_eq_some_iff.mp hk).1
    rw [List.getElem?_append_left hlt, hk]
  · apply h record.answers.length answer
    rw [List.getElem?_append_right (Nat.le_refl _), Nat.sub_self]
    rfl

/-- A new call. -/
theorem CallRecord.Follows.begun (call : Call) (app : PacketApp) :
    CallRecord.Follows encryptBlock
      { call := call, answers := [], progress := (call.begin encryptBlock app).2.progress } app
      (call.begin encryptBlock app).2.effects where
  count := by
    intro sending h
    obtain ⟨hattempt, hpausing⟩ := first_begin encryptBlock call app sending h
    rw [hattempt, hpausing]
    rfl
  rest := by
    intro _ answers _
    rw [← complete_begin]
    rfl
  starts := by
    intro answers _
    dsimp only
    rw [← complete_begin]
    exact CallProgress.effects_complete answers
      ((CallbackState.start (call.begin encryptBlock app).1).also
        (call.begin encryptBlock app).2.effects) _

/-- A stretch that leaves the whole call what it was. -/
theorem CallRecord.Follows.advance (h : record.Follows encryptBlock app effects)
    (hrunning : record.progress = .running sending)
    (got : List (Except PyException (PropertyID × List UInt8))) {stretch : Stretch}
    (hgot : ∀ answers, CallRecord.Got { record with answers := got } answers → record.Got answers)
    (hcount : ∀ next, stretch.progress = .running next →
      got.length = next.attempt + next.pausing.toNat)
    (hcomplete : ∀ answers, CallRecord.Got { record with answers := got } answers →
      stretch.complete answers
          { app := (record.call.begin encryptBlock app).1, effects := effects } =
        (CallProgress.running sending).complete answers
          { app := (record.call.begin encryptBlock app).1, effects := effects }) :
    CallRecord.Follows encryptBlock
      { record with answers := got, progress := stretch.progress } app
      (effects ++ stretch.effects) := by
  have hrun : ∀ answers, CallRecord.Got { record with answers := got } answers →
      record.call.run encryptBlock answers app = stretch.progress.complete answers
        { app := (record.call.begin encryptBlock app).1, effects := effects ++ stretch.effects } := by
    intro answers hanswers
    rw [h.rest (by rw [hrunning]; rintro ⟨⟩) answers (hgot answers hanswers), hrunning,
      ← hcomplete answers hanswers]
    rfl
  refine ⟨hcount, fun _ => hrun, ?_⟩
  intro answers hanswers
  have hprefix := CallProgress.effects_complete answers
    { app := (record.call.begin encryptBlock app).1, effects := effects ++ stretch.effects }
    stretch.progress
  rwa [← hrun answers hanswers] at hprefix

/-- An answer. -/
theorem CallRecord.Follows.answered (h : record.Follows encryptBlock app effects)
    (hrunning : record.progress = .running sending) (hpausing : sending.pausing = false)
    (answer : Except PyException (PropertyID × List UInt8)) :
    CallRecord.Follows encryptBlock
      { record with
        answers := record.answers ++ [answer]
        progress := (sending.answered answer).progress } app
      (effects ++ (sending.answered answer).effects) := by
  have hlength := h.count sending hrunning
  rw [hpausing, Bool.toNat_false, Nat.add_zero] at hlength
  refine h.advance hrunning _ (fun answers hgot => hgot.of_append.1) ?_ ?_
  · intro next hnext
    rw [Sending.answered] at hnext
    split at hnext
    · cases hnext
    · split at hnext
      · cases hnext
        rw [List.length_append, hlength]
        rfl
      · cases hnext
  · intro answers hgot
    have hanswer := hgot.of_append.2
    rw [hlength] at hanswer
    exact sending.complete_answered hpausing hanswer _

/-- The end of a pause. -/
theorem CallRecord.Follows.resumed (h : record.Follows encryptBlock app effects)
    (hrunning : record.progress = .running sending) (hpausing : sending.pausing = true) :
    CallRecord.Follows encryptBlock
      { record with progress := (sending.resumed app.channel).progress } app
      (effects ++ (sending.resumed app.channel).effects) := by
  have hlength := h.count sending hrunning
  rw [hpausing, Bool.toNat_true] at hlength
  refine h.advance hrunning record.answers (fun answers hgot => hgot) ?_ ?_
  · intro next hnext
    rw [Sending.resumed] at hnext
    cases hremaining : sending.remaining with
    | zero =>
      rw [hremaining] at hnext
      cases hnext
    | succ remaining =>
      rw [hremaining, Stretch.sends] at hnext
      split at hnext
      · cases hnext
      · cases hnext
        rw [hlength]
        rfl
  · intro answers _
    have hchannel := channel_begin encryptBlock record.call app
    rw [← hchannel]
    exact sending.complete_resumed hpausing
      { app := (record.call.begin encryptBlock app).1, effects := effects }

/-- A cancelled call has done no more than before. -/
theorem CallRecord.Follows.cancel (h : record.Follows encryptBlock app effects) :
    CallRecord.Follows encryptBlock { record with progress := .cancelled } app (effects ++ []) where
  count := by
    intro next hnext
    cases hnext
  rest := fun hnot => absurd rfl hnot
  starts := by
    intro answers hgot
    rw [List.append_nil]
    exact h.starts answers hgot

end Follows

/-! ## Runs -/

namespace Tasks

/-- The calls, in the order in which they were started. -/
def callsOf (t : Tasks) : List Call := t.calls.map (·.call)

/-- What an action does: it starts a call, or a call that waits takes a stretch. -/
theorem step_cases {t t' : Tasks} {action : TaskAction} (h : t.Step encryptBlock action t') :
    (∃ call, t' = t.start encryptBlock call) ∨
      ∃ index record sending, t.calls[index]? = some record ∧ record.progress = .running sending ∧
        ((∃ answer, sending.pausing = false ∧ t' = t.take index
            { record with answers := record.answers ++ [answer] } (sending.answered answer)) ∨
          (sending.pausing = true ∧ t' = t.take index record (sending.resumed t.app.channel)) ∨
          t' = t.take index record { effects := [], progress := .cancelled }) := by
  cases action with
  | start call => exact .inl ⟨call, (Option.some.inj h).symm⟩
  | answer index answer =>
    obtain ⟨record, hrecord, h⟩ := Option.bind_eq_some_iff.mp h
    rw [Tasks.answer] at h
    split at h
    next sending hrunning =>
      split at h
      · cases h
      next hpausing =>
        exact .inr ⟨index, record, sending, hrecord, hrunning,
          .inl ⟨answer, Bool.not_eq_true _ ▸ hpausing, (Option.some.inj h).symm⟩⟩
    · cases h
  | resume index =>
    obtain ⟨record, hrecord, h⟩ := Option.bind_eq_some_iff.mp h
    rw [Tasks.resume] at h
    split at h
    next sending hrunning =>
      split at h
      next hpausing =>
        exact .inr ⟨index, record, sending, hrecord, hrunning,
          .inr (.inl ⟨hpausing, (Option.some.inj h).symm⟩)⟩
      · cases h
    · cases h
  | cancel index =>
    obtain ⟨record, hrecord, h⟩ := Option.bind_eq_some_iff.mp h
    rw [Tasks.cancel] at h
    split at h
    next sending hrunning =>
      exact .inr ⟨index, record, sending, hrecord, hrunning, .inr (.inr (Option.some.inj h).symm)⟩
    · cases h

theorem filterMap_tagged (index i : Nat) (effects : List CallbackEffect) :
    (effects.map fun effect => (index, effect)).filterMap
        (fun effect => if effect.1 = i then some effect.2 else none) =
      if index = i then effects else [] := by
  split <;> simp_all

/-- A call that takes a stretch adds to what it has done itself. -/
theorem effectsOf_take (t : Tasks) (index i : Nat) (record : CallRecord) (stretch : Stretch) :
    (t.take index record stretch).effectsOf i =
      t.effectsOf i ++ if index = i then stretch.effects else [] := by
  rw [effectsOf, take, List.filterMap_append, filterMap_tagged]
  rfl

theorem effectsOf_start (t : Tasks) (call : Call) (i : Nat) :
    (t.start encryptBlock call).effectsOf i = t.effectsOf i ++
      if t.calls.length = i then (call.begin encryptBlock t.app).2.effects else [] := by
  unfold start
  rw [effectsOf, List.filterMap_append, filterMap_tagged]
  rfl

theorem callsOf_take {t : Tasks} {index : Nat} {record : CallRecord}
    (h : t.calls[index]? = some record) (answers : List (Except PyException (PropertyID × List UInt8)))
    (stretch : Stretch) :
    (t.take index { record with answers := answers } stretch).callsOf = t.callsOf := by
  apply List.ext_getElem?
  intro i
  simp only [callsOf, take, List.getElem?_map, List.getElem?_set]
  split
  next heq =>
    subst heq
    rw [h]
    split <;> simp_all
  · rfl

/-- The calls follow what they do one after the other. -/
structure Sequential (app : PacketApp) (t : Tasks) : Prop where
  current : t.app = appAfter encryptBlock app t.callsOf
  follows : ∀ (i : Nat) (record : CallRecord), t.calls[i]? = some record →
    record.Follows encryptBlock (appAfter encryptBlock app (t.callsOf.take i)) (t.effectsOf i)
  fresh : ∀ effect ∈ t.effects, effect.1 < t.calls.length

variable {encryptBlock}

theorem Sequential.new (app : PacketApp) : Sequential encryptBlock app (.new app) where
  current := rfl
  follows i record h := by cases h
  fresh effect h := by cases h

theorem Sequential.effectsOf_length {app : PacketApp} {t : Tasks}
    (h : Sequential encryptBlock app t) : t.effectsOf t.calls.length = [] := by
  apply List.filterMap_eq_nil_iff.mpr
  intro effect hmem
  rw [if_neg (Nat.ne_of_lt (h.fresh effect hmem))]

theorem Sequential.start {app : PacketApp} {t : Tasks} (h : Sequential encryptBlock app t)
    (call : Call) : Sequential encryptBlock app (t.start encryptBlock call) where
  current := by
    change (call.begin encryptBlock t.app).1 = _
    have hcalls : (t.start encryptBlock call).callsOf = t.callsOf ++ [call] := List.map_append
    rw [hcalls, appAfter_append, ← h.current]
  follows i record hrecord := by
    have hcalls : (t.start encryptBlock call).callsOf = t.callsOf ++ [call] := List.map_append
    have hlength : t.callsOf.length = t.calls.length := List.length_map _
    rw [effectsOf_start, hcalls]
    by_cases hlt : i < t.calls.length
    · rw [if_neg (Nat.ne_of_gt hlt), List.append_nil, List.take_append_of_le_length (by omega)]
      change (t.calls ++ [_])[i]? = _ at hrecord
      rw [List.getElem?_append_left hlt] at hrecord
      exact h.follows i record hrecord
    · have hi : i = t.calls.length := by
        have hbound := (List.getElem?_eq_some_iff.mp hrecord).1
        change i < (t.calls ++ [_]).length at hbound
        rw [List.length_append, List.length_singleton] at hbound
        omega
      subst hi
      change (t.calls ++ [_])[t.calls.length]? = _ at hrecord
      rw [List.getElem?_append_right (Nat.le_refl _), Nat.sub_self] at hrecord
      cases hrecord
      rw [if_pos rfl, h.effectsOf_length, List.nil_append, List.take_append_of_le_length (by omega),
        List.take_of_length_le (by omega), ← h.current]
      exact .begun call t.app
  fresh effect hmem := by
    change effect ∈ t.effects ++ (call.begin encryptBlock t.app).2.effects.map _ at hmem
    change effect.1 < (t.calls ++ [_]).length
    rw [List.length_append, List.length_singleton]
    rcases List.mem_append.mp hmem with hold | hnew
    · exact Nat.lt_succ_of_lt (h.fresh effect hold)
    · obtain ⟨done, -, rfl⟩ := List.mem_map.mp hnew
      exact Nat.lt_succ_self _

/-- A stretch of one call, if the record of this call still follows the whole call. -/
theorem Sequential.take {app : PacketApp} {t : Tasks} (h : Sequential encryptBlock app t)
    {index : Nat} {record : CallRecord} (hrecord : t.calls[index]? = some record)
    (answers : List (Except PyException (PropertyID × List UInt8))) {stretch : Stretch}
    (hfollows : CallRecord.Follows encryptBlock
      { record with answers := answers, progress := stretch.progress }
      (appAfter encryptBlock app (t.callsOf.take index)) (t.effectsOf index ++ stretch.effects)) :
    Sequential encryptBlock app
      (t.take index { record with answers := answers } stretch) where
  current := by
    rw [callsOf_take hrecord]
    exact h.current
  follows i record' hrecord' := by
    rw [callsOf_take hrecord, effectsOf_take]
    change (t.calls.set index _)[i]? = _ at hrecord'
    rw [List.getElem?_set] at hrecord'
    split at hrecord'
    next heq =>
      subst heq
      split at hrecord'
      · cases hrecord'
        rw [if_pos rfl]
        exact hfollows
      · cases hrecord'
    next hne =>
      rw [if_neg hne, List.append_nil]
      exact h.follows i record' hrecord'
  fresh effect hmem := by
    change effect ∈ t.effects ++ stretch.effects.map _ at hmem
    change effect.1 < (t.calls.set index _).length
    rw [List.length_set]
    rcases List.mem_append.mp hmem with hold | hnew
    · exact h.fresh effect hold
    · obtain ⟨done, -, rfl⟩ := List.mem_map.mp hnew
      exact (List.getElem?_eq_some_iff.mp hrecord).1

theorem sequential_step {app : PacketApp} {t t' : Tasks} {action : TaskAction}
    (h : Sequential encryptBlock app t) (hstep : t.Step encryptBlock action t') :
    Sequential encryptBlock app t' := by
  obtain ⟨call, rfl⟩ | ⟨index, record, sending, hrecord, hrunning, htake⟩ :=
    step_cases encryptBlock hstep
  · exact h.start call
  · have hfollows := h.follows index record hrecord
    obtain ⟨answer, hpausing, rfl⟩ | ⟨hpausing, rfl⟩ | rfl := htake
    · exact h.take hrecord _ (hfollows.answered hrunning hpausing answer)
    · have hchannel : t.app.channel =
          (appAfter encryptBlock app (t.callsOf.take index)).channel := by
        rw [h.current, channel_appAfter, channel_appAfter]
      rw [hchannel]
      exact h.take hrecord record.answers (hfollows.resumed hrunning hpausing)
    · exact h.take hrecord record.answers hfollows.cancel

theorem sequential_of_run {app : PacketApp} {t : Tasks} {actions : List TaskAction}
    (h : Run (Tasks.Step encryptBlock) (.new app) actions t) : Sequential encryptBlock app t :=
  h.inv (Sequential encryptBlock app) (fun _ _ _ hs hstep => sequential_step hs hstep) (.new app)

end Tasks

/-- However the stretches of the calls are taken in turns, and whichever calls are cancelled, the
    application ends up as if the calls had run one after the other in the order in which they
    were started, and what each of them has done is the beginning of what it does then, with the
    answers that it has got. A call that is finished has done all of it, with the same result. -/
theorem interleaved_eq_sequential (encryptBlock : Key → Block → Block) {app : PacketApp} {t : Tasks}
    {actions : List TaskAction} (h : Run (Tasks.Step encryptBlock) (.new app) actions t)
    {answers : Nat → Answers} (hgot : ∀ (i : Nat) (record : CallRecord),
      t.calls[i]? = some record → record.Got (answers i)) :
    let whole := sequential encryptBlock answers app t.callsOf
    t.app = whole.1 ∧ ∀ (i : Nat) (record : CallRecord), t.calls[i]? = some record →
      ∃ result, whole.2[i]? = some result ∧ t.effectsOf i <+: result.1.effects ∧
        ∀ outcome, record.progress = .finished outcome →
          t.effectsOf i = result.1.effects ∧ outcome = result.2 := by
  have hsequential := Tasks.sequential_of_run h
  obtain ⟨happ, -, hresults⟩ := sequential_eq encryptBlock answers app t.callsOf
  refine ⟨hsequential.current.trans happ.symm, ?_⟩
  intro i record hrecord
  have hcall : t.callsOf[i]? = some record.call := by
    rw [Tasks.callsOf, List.getElem?_map, hrecord, Option.map_some]
  have hfollows := hsequential.follows i record hrecord
  refine ⟨_, hresults i record.call hcall, hfollows.starts _ (hgot i record hrecord), ?_⟩
  intro outcome hfinished
  rw [hfollows.rest (by rw [hfinished]; rintro ⟨⟩) _ (hgot i record hrecord), hfinished]
  exact ⟨rfl, rfl⟩

/-- The answers that each call has got, and no others. -/
def Tasks.answersOf (t : Tasks) (index : Nat) : Answers := fun k =>
  ((t.calls[index]?).bind fun record => record.answers[k]?).getD (.error .cancelledError)

theorem Tasks.got_answersOf (t : Tasks) (i : Nat) (record : CallRecord)
    (h : t.calls[i]? = some record) : record.Got (t.answersOf i) := by
  intro k answer hanswer
  rw [answersOf, h, Option.bind_some, hanswer, Option.getD_some]

/-- A packet is sent and another one comes in before the radio has answered. -/
def twoCalls : List TaskAction :=
  [ .start (.sendPacket onOffPacket),
    .start (.packetCallback (requestValue 30)),
    .answer 1 (.ok (.lastStatus, [0x00])),
    .answer 0 (.ok (.lastStatus, [0x00])) ]

theorem isSome_twoCalls :
    (twoCalls.foldlM (Tasks.step coordinatorAes) (.new (.loadNetworkInfo 0))).isSome := by
  decide +kernel

/-- Both calls are finished. -/
def afterTwoCalls : Tasks :=
  (twoCalls.foldlM (Tasks.step coordinatorAes) (.new (.loadNetworkInfo 0))).get isSome_twoCalls

theorem run_twoCalls :
    Run (Tasks.Step coordinatorAes) (.new (.loadNetworkInfo 0)) twoCalls afterTwoCalls :=
  .of_foldlM (Option.some_get isSome_twoCalls).symm

theorem interleaved_eq_sequential_twoCalls :
    afterTwoCalls.app = (sequential coordinatorAes afterTwoCalls.answersOf (.loadNetworkInfo 0)
      afterTwoCalls.callsOf).1 :=
  (interleaved_eq_sequential coordinatorAes run_twoCalls afterTwoCalls.got_answersOf).1

end ZigpySpinel.Python
