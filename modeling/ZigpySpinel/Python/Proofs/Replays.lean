import ZigpySpinel.Python.Proofs.EndToEnd
import ZigpySpinel.Python.Proofs.Tasks

/-!
# What is delivered does not depend on the past

The application keeps nothing of a frame that it has received: a call changes its own frame
counter, and reads it only for the frames that it sends itself. So a value that was received
before is delivered again, and nothing that happens in between or at the same time makes a
difference, as long as the frame counter does not run out.
-/

namespace ZigpySpinel.Python
open Lib

variable (encryptBlock : Key → Block → Block)

/-! ## Another frame counter -/

/-- The application with another frame counter. -/
def PacketApp.withCounter (app : PacketApp) (txCounter : Int) : PacketApp :=
  { app with toAppState := { app.toAppState with txCounter := txCounter } }

theorem receive_withCounter (app : PacketApp) (txCounter : Int) (value : List UInt8) :
    receive encryptBlock (app.withCounter txCounter) value = receive encryptBlock app value := rfl

theorem PacketApp.canAcknowledge_withCounter_iff {app : PacketApp} {txCounter : Int}
    (h : (app.withCounter txCounter).increment.NumbersFit ↔ app.increment.NumbersFit)
    (ieeeFrame : IEEE802154Frame) (header : ZigbeeNwkHeader) :
    (app.withCounter txCounter).CanAcknowledge ieeeFrame header ↔
      app.CanAcknowledge ieeeFrame header :=
  ⟨fun hcan => ⟨hcan.radius, hcan.sequenceNumber, hcan.srcAddress, h.mp hcan.numbers, hcan.channel⟩,
    fun hcan => ⟨hcan.radius, hcan.sequenceNumber, hcan.srcAddress, h.mpr hcan.numbers, hcan.channel⟩⟩

/-- What a call delivers under two frame counters of which neither or both fit their field. -/
theorem received_run {answers answers' : Answers} (hanswers : answers.Statuses)
    (hanswers' : answers'.Statuses) {app : PacketApp} {txCounter : Int}
    (h : (app.withCounter txCounter).increment.NumbersFit ↔ app.increment.NumbersFit) (call : Call) :
    (call.run encryptBlock answers (app.withCounter txCounter)).1.received =
      (call.run encryptBlock answers' app).1.received := by
  cases call with
  | sendPacket packet => exact (received_sendPacket _ _ _ _).trans (received_sendPacket _ _ _ _).symm
  | packetCallback value =>
    change (packetCallback encryptBlock answers (app.withCounter txCounter) value).1.received =
      (packetCallback encryptBlock answers' app value).1.received
    rw [packetCallback, packetCallback, receive_withCounter]
    cases hreceive : receive encryptBlock app value with
    | error e => rfl
    | ok received =>
      cases received with
      | none => rfl
      | some r =>
        dsimp only
        rw [handleFrame_eq, handleFrame_eq]
        cases hrequest : r.decrypted.request with
        | error e => rfl
        | ok request =>
          cases request with
          | none => rfl
          | some request =>
            cases request with
            | routeRequest =>
              dsimp only
              rw [sendRouteReply, sendRouteReply, received_sendReply, received_sendReply]
              rfl
            | data aps =>
              dsimp only
              obtain ⟨hparse, hpan⟩ := of_receive encryptBlock hreceive
              obtain ⟨destAddress, hdest⟩ := exists_destAddress hparse hpan
              have htype := DecryptedZigbeeNwkFrame.frameType_of_request hrequest
              obtain ⟨hyes, hno⟩ := received_handleAps encryptBlock (app.withCounter txCounter)
                hpan hdest htype (fun _ => hanswers)
              obtain ⟨hyes', hno'⟩ := received_handleAps encryptBlock app hpan hdest htype
                (fun _ => hanswers')
              rw [PacketApp.canAcknowledge_withCounter_iff h] at hyes hno
              by_cases hcan : aps.frameControl.ackRequest = true →
                  app.CanAcknowledge r.ieeeFrame r.nwkFrame.nwkHeader
              · rw [hyes hcan, hyes' hcan]
              · rw [hno hcan, hno' hcan]

/-! ## The frame counter after some calls -/

/-- Some calls use up no more frame counters than there are calls. -/
theorem exists_appAfter (app : PacketApp) (calls : List Call) :
    ∃ n : Nat, n ≤ calls.length ∧
      appAfter encryptBlock app calls = app.withCounter (app.txCounter + n) := by
  induction calls using List.reverseRecOn with
  | nil =>
    refine ⟨0, Nat.le_refl 0, ?_⟩
    rw [PacketApp.withCounter, Int.natCast_zero, Int.add_zero]
    rfl
  | append_singleton calls call ih =>
    obtain ⟨n, hle, happ⟩ := ih
    rw [appAfter_append, List.length_append, List.length_singleton]
    rcases app_begin encryptBlock call (appAfter encryptBlock app calls) with heq | heq
    · exact ⟨n, Nat.le_succ_of_le hle, heq.trans happ⟩
    · refine ⟨n + 1, Nat.succ_le_succ hle, ?_⟩
      rw [heq, happ, PacketApp.counted, PacketApp.withCounter, PacketApp.withCounter, Int.natCast_succ,
        ← Int.add_assoc]
      rfl

/-! ## Runs -/

/-- The radio has answered each attempt of a call with a status. -/
def CallRecord.Answered (record : CallRecord) : Prop :=
  ∀ answer ∈ record.answers, ∃ status rest, answer = .ok (.lastStatus, status :: rest)

/-- A radio that has given the answers of a call, and answers with a status from there on. -/
theorem CallRecord.Answered.exists_got {record : CallRecord} (h : record.Answered) :
    ∃ answers : Answers, record.Got answers ∧ answers.Statuses := by
  refine ⟨fun k => (record.answers[k]?).getD (.ok (.lastStatus, [0x00])), ?_, ?_⟩
  · intro k answer hanswer
    dsimp only
    rw [hanswer, Option.getD_some]
  · intro k
    dsimp only
    cases hanswer : record.answers[k]? with
    | none => exact ⟨0x00, [], rfl⟩
    | some answer => exact h answer (List.mem_of_getElem? hanswer)

/-- The packets that one of the calls has given to `zigpy`. -/
def Tasks.receivedBy (t : Tasks) (index : Nat) : List ReceivedPacket :=
  CallbackState.received { app := t.app, effects := t.effectsOf index }

/-- However the calls of an application are taken in turns, a finished call whose attempts the
    radio has answered has delivered what it delivers alone, on the application as it was before
    all of them, if the frame counter does not run out. So what was received before is delivered
    again. -/
theorem received_interleaved {app : PacketApp} {t : Tasks} {actions : List TaskAction}
    (h : Run (Tasks.Step encryptBlock) (.new app) actions t)
    (hnumbers : app.NumbersFit) (hcounter : app.txCounter + t.calls.length < 0x100000000)
    {i : Nat} {record : CallRecord} (hrecord : t.calls[i]? = some record)
    (hanswered : record.Answered) {result : Except PyException Unit}
    (hfinished : record.progress = .finished result) {answers : Answers}
    (hanswers : answers.Statuses) :
    t.receivedBy i = (record.call.run encryptBlock answers app).1.received := by
  have hsequential := Tasks.sequential_of_run h
  have hfollows := hsequential.follows i record hrecord
  obtain ⟨given, hgot, hgiven⟩ := hanswered.exists_got
  obtain ⟨n, hle, happ⟩ := exists_appAfter encryptBlock app (t.callsOf.take i)
  have hlt := (List.getElem?_eq_some_iff.mp hrecord).1
  have hbound : n ≤ i := by
    rw [List.length_take] at hle
    omega
  have hfits : (app.withCounter (app.txCounter + n)).increment.NumbersFit ↔
      app.increment.NumbersFit := by
    obtain ⟨hlow, hseq⟩ := hnumbers
    simp only [AppState.NumbersFit, AppState.increment, PacketApp.withCounter]
    omega
  have hrun := hfollows.rest (by rw [hfinished]; rintro ⟨⟩) given hgot
  rw [hfinished, happ] at hrun
  rw [← received_run encryptBlock hgiven hanswers hfits record.call, hrun]
  rfl

/-- The callback of the two calls, which the radio has answered once. -/
def answeredCallback : CallRecord where
  call := .packetCallback (requestValue 30)
  answers := [.ok (.lastStatus, [0x00])]
  progress := .finished (.ok ())

theorem answered_answeredCallback : answeredCallback.Answered := by
  intro answer hanswer
  rw [answeredCallback, List.mem_singleton] at hanswer
  exact ⟨0x00, [], hanswer⟩

theorem received_interleaved_twoCalls :
    afterTwoCalls.receivedBy 1 = (answeredCallback.call.run coordinatorAes
      (fun _ => .ok (.lastStatus, [0x00])) (.loadNetworkInfo 0)).1.received := by
  have hrecord : afterTwoCalls.calls[1]? = some answeredCallback := by decide +kernel
  exact received_interleaved coordinatorAes run_twoCalls ⟨by decide, by decide⟩ (by decide +kernel)
    hrecord answered_answeredCallback rfl fun _ => ⟨0x00, [], rfl⟩

end ZigpySpinel.Python
