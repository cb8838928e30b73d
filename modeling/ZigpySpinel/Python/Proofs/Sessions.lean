import ZigpySpinel.Python.Proofs.SentPackets
import ZigpySpinel.Python.Proofs.Tasks
import ZigpySpinel.Python.Sessions

/-!
# No nonce is used twice while the file is written after the last frame

Within a session the counters only go up, and a session that starts from a file written
after the last frame starts above all of them. A session that starts from an older file
gets to the counters of what was transmitted since, with the same nonces.
-/

namespace ZigpySpinel.Python
open Lib

/-! ## The frames of this node -/

namespace AppState

/-- The auxiliary header of this node with a frame counter. -/
def nodeAuxHeader (frameCounter : UInt32) : ZigbeeNwkAuxHeader where
  securityControl := securityControl
  frameCounter := frameCounter
  extendedSource := some nodeIeee
  keySequenceNumber := 0

theorem auxHeader_loadNetworkInfo {n : Int} {header : ZigbeeNwkAuxHeader}
    (h : (loadNetworkInfo n).auxHeader = some header) :
    ∃ m : UInt32, header = nodeAuxHeader m ∧ n + 1000 = m.toNat := by
  unfold auxHeader loadNetworkInfo at h
  simp only [Option.bind_eq_bind, Option.bind_eq_some_iff] at h
  rcases h with ⟨m, hm, number, hnumber, h⟩
  cases hnumber
  cases h
  exact ⟨m, rfl, uint32T_eq_some hm⟩

/-- The frames of the three places have the header that is built for them. -/
theorem auxHeader_of_packetFrame {app : AppState} {packet : ZigbeePacket}
    {frame : DecryptedZigbeeNwkFrame} (h : app.packetFrame packet = some frame) :
    ∃ header, app.auxHeader = some header ∧ frame.auxHeader = some header := by
  simp only [packetFrame, Option.bind_eq_bind, Option.bind_eq_some_iff] at h
  rcases h with ⟨_, _, _, _, header, hheader, _, _, _, _, _, _, _, _, _, _, hframe⟩
  cases hframe
  exact ⟨header, hheader, rfl⟩

theorem auxHeader_of_routeReplyFrame {app : AppState} {received : ZigbeeNwkHeader}
    {frame : DecryptedZigbeeNwkFrame} (h : app.routeReplyFrame received = some frame) :
    ∃ header, app.auxHeader = some header ∧ frame.auxHeader = some header := by
  simp only [routeReplyFrame, Option.bind_eq_bind, Option.bind_eq_some_iff] at h
  rcases h with ⟨header, hheader, hframe⟩
  cases hframe
  exact ⟨header, hheader, rfl⟩

theorem auxHeader_of_apsAckFrame {app : AppState} {received : ZigbeeNwkHeader}
    {aps : ZigbeeApsFrame} {frame : DecryptedZigbeeNwkFrame}
    (h : app.apsAckFrame received aps = some frame) :
    ∃ header, app.auxHeader = some header ∧ frame.auxHeader = some header := by
  simp only [apsAckFrame, Option.bind_eq_bind, Option.bind_eq_some_iff] at h
  rcases h with ⟨_, _, header, hheader, hframe⟩
  cases hframe
  exact ⟨header, hheader, rfl⟩

/-- A frame of `send_packet` is as long as its data and eight bytes. -/
theorem packetFrame_length {app : AppState} {packet : ZigbeePacket}
    {frame : DecryptedZigbeeNwkFrame} (h : app.packetFrame packet = some frame) :
    frame.payload.length = packet.data.length + 8 := by
  obtain ⟨aps, hholds⟩ := holds_of_packetFrame h
  have hasdu : aps.asdu = packet.data := hholds.fields.data
  rw [hholds.payload, ZigbeeApsFrame.length_serialize, hasdu, Nat.add_comm]

end AppState

namespace DecryptedZigbeeNwkFrame

/-- A frame of this node with a frame counter. -/
def HasCounter (frame : DecryptedZigbeeNwkFrame) (n : UInt32) : Prop :=
  frame.auxHeader = some (AppState.nodeAuxHeader n)

theorem HasCounter.frameCounter_eq {frame : DecryptedZigbeeNwkFrame} {n : UInt32}
    (h : frame.HasCounter n) : frame.frameCounter = some n := by
  rw [frameCounter, h]
  rfl

/-- The nonce of a frame of this node: its address, the counter and the control field at the
    level that is in force. -/
theorem HasCounter.nonce_eq {frame : DecryptedZigbeeNwkFrame} {n : UInt32}
    (h : frame.HasCounter n) :
    frame.nonce = some (AppState.nodeIeee.toBytes ++ u32ToLeBytes n ++ [0x2d]) := by
  rw [nonce, ZigbeeNwkFrame.getModifiedAuxHeader, h]
  rfl

theorem HasCounter.nonce_inj {f g : DecryptedZigbeeNwkFrame} {m n : UInt32}
    (hf : f.HasCounter m) (hg : g.HasCounter n) (h : f.nonce = g.nonce) : m = n := by
  rw [hf.nonce_eq, hg.nonce_eq, Option.some.injEq, List.append_left_inj,
    List.append_right_inj] at h
  exact u32ToLeBytes_inj h

end DecryptedZigbeeNwkFrame

/-! ## What a call transmits -/

variable (encryptBlock : Key → Block → Block)

/-- The application with the counter used up is the one of a later number in the file. -/
theorem PacketApp.counted_loadNetworkInfo (n : Int) :
    (loadNetworkInfo n).counted = loadNetworkInfo (n + 1) := by
  have hcounter : n + 1000 + 1 = n + 1 + 1000 := by omega
  rw [counted, AppState.increment, loadNetworkInfo, AppState.loadNetworkInfo, hcounter]
  rfl

/-- A callback that transmits something uses up a frame counter. -/
theorem txCounter_packetCallback {answers : Answers} {app : PacketApp} {value sent : List UInt8}
    {r : ReceivedFrame} (hreceive : receive encryptBlock app value = .ok (some r))
    (h : sent ∈ (packetCallback encryptBlock answers app value).1.transmitted) :
    (packetCallback encryptBlock answers app value).1.app.txCounter = app.txCounter + 1 := by
  rw [packetCallback, hreceive] at h ⊢
  dsimp only at h ⊢
  rw [handleFrame_eq] at h ⊢
  cases hrequest : r.decrypted.request with
  | error e =>
    rw [hrequest] at h
    cases h
  | ok request =>
    rw [hrequest] at h
    cases request with
    | none => cases h
    | some request =>
      cases request with
      | routeRequest =>
        exact congrArg AppState.txCounter (app_sendReply encryptBlock answers 5 r.ieeeFrame
          (AppState.sendRouteReply r.nwkFrame.nwkHeader) (.start app))
      | data aps =>
        dsimp only at h ⊢
        have htype := DecryptedZigbeeNwkFrame.frameType_of_request hrequest
        cases hack : aps.frameControl.ackRequest with
        | false =>
          rw [handleAps_deliver encryptBlock answers r htype hack,
            CallbackState.transmitted_log_packet] at h
          cases h
        | true =>
          have hcounter := congrArg AppState.txCounter (app_sendReply encryptBlock answers 1
            r.ieeeFrame (AppState.sendApsAck r.nwkFrame.nwkHeader aps) (.start app))
          rcases handleAps_ack encryptBlock answers r htype hack (.start app) with heq | heq
          · rw [heq]
            exact hcounter
          · rw [heq, CallbackState.app_log]
            exact hcounter

theorem app_run_sendPacket (answers : Answers) (packet : OutgoingPacket) (app : PacketApp) :
    ((Call.sendPacket packet).run encryptBlock answers app).1.app = app.counted := by
  rw [app_run, Call.begin]
  unfold beginSendPacket
  dsimp only
  split <;> rfl

/-- A call that transmits something uses up a frame counter. -/
theorem app_run_of_transmitted {answers : Answers} {call : Call} {app : PacketApp}
    {sent : List UInt8} (h : sent ∈ (call.run encryptBlock answers app).1.transmitted) :
    (call.run encryptBlock answers app).1.app = app.counted := by
  cases call with
  | sendPacket packet => exact app_run_sendPacket encryptBlock answers packet app
  | packetCallback value =>
    have hcounter : (packetCallback encryptBlock answers app value).1.app.txCounter =
        app.txCounter + 1 := by
      cases hreceive : receive encryptBlock app value with
      | error e =>
        rw [Call.run, packetCallback, hreceive] at h
        cases h
      | ok received =>
        cases received with
        | none =>
          rw [Call.run, packetCallback, hreceive] at h
          cases h
        | some r => exact txCounter_packetCallback encryptBlock hreceive h
    rcases app_begin encryptBlock (.packetCallback value) app with heq | heq
    · rw [← app_run encryptBlock answers, Call.run] at heq
      rw [heq] at hcounter
      omega
    · rw [app_run, heq]

/-- What a call gives to the radio is its network frame, encrypted, in a frame around it. -/
theorem nwkFrame_of_transmitted {answers : Answers} {call : Call} {app : PacketApp}
    {sent : List UInt8} (h : sent ∈ (call.run encryptBlock answers app).1.transmitted) :
    ∃ nwk encrypted payload ieeeFrame, call.nwkFrame encryptBlock app = some nwk ∧
      nwk.encrypt encryptBlock app.key = .ok encrypted ∧ encrypted.serialize = .ok payload ∧
      ieeeFrame.payload = payload ∧ streamRawValue app.channel ieeeFrame = .ok sent := by
  cases call with
  | sendPacket packet =>
    obtain ⟨frame, hframe, hvalue⟩ := mem_transmitted_sendPacket encryptBlock h
    obtain ⟨sequenceNumber, nwk, encrypted, payload, hnwk, hencrypt, hpayload, rfl⟩ :=
      packetIeeeFrame_eq_ok encryptBlock hframe
    exact ⟨nwk, encrypted, payload, _, hnwk, hencrypt, hpayload, rfl, hvalue⟩
  | packetCallback value =>
    cases hreceive : receive encryptBlock app value with
    | error e =>
      rw [Call.run, packetCallback, hreceive] at h
      cases h
    | ok received =>
      cases received with
      | none =>
        rw [Call.run, packetCallback, hreceive] at h
        cases h
      | some r =>
        obtain ⟨-, hpan⟩ := of_receive encryptBlock hreceive
        obtain ⟨request, frame, hrequest, hframe, hvalue⟩ :=
          mem_transmitted_packetCallback encryptBlock hreceive h
        obtain ⟨nwk, sequenceNumber, encrypted, payload, hnwk, -, hencrypt, hpayload, -, rfl⟩ :=
          replyFrame_eq_ok encryptBlock (fun _ hmem => PacketApp.isReply_of_replyTo hmem) hpan hframe
        refine ⟨nwk, encrypted, payload, _, ?_, hencrypt, hpayload, rfl, hvalue⟩
        rw [Call.nwkFrame, hreceive]
        dsimp only
        rw [hrequest]
        exact hnwk

/-- The network frame of a call has the header that is built once the counter is up. -/
theorem auxHeader_of_nwkFrame {call : Call} {app : PacketApp} {nwk : DecryptedZigbeeNwkFrame}
    (h : call.nwkFrame encryptBlock app = some nwk) :
    ∃ header, app.increment.auxHeader = some header ∧ nwk.auxHeader = some header := by
  cases call with
  | sendPacket packet => exact AppState.auxHeader_of_packetFrame h
  | packetCallback value =>
    rw [Call.nwkFrame] at h
    split at h
    · split at h
      next request _ =>
        cases request with
        | routeRequest => exact AppState.auxHeader_of_routeReplyFrame h
        | data aps =>
          rw [PacketApp.replyTo] at h
          split at h
          · exact AppState.auxHeader_of_apsAckFrame h
          · cases h
      · cases h
    · cases h

/-- It holds a frame of this node with a frame counter. -/
def Transmission.Under (t : Transmission) (n : UInt32) : Prop :=
  ∃ frame, t.Holds encryptBlock frame ∧ frame.HasCounter n

/-- Only the number in the file makes a difference between the applications of sessions. A call
    transmits nothing, or one frame under the next counter. -/
theorem call_cases (call : Call) (answers : Answers) (n : Int) :
    let app := PacketApp.loadNetworkInfo n
    (∃ n', n ≤ n' ∧ (call.run encryptBlock answers app).1.app = PacketApp.loadNetworkInfo n' ∧
        call.transmissions encryptBlock answers app = []) ∨
      ∃ t m, (call.run encryptBlock answers app).1.app = PacketApp.loadNetworkInfo (n + 1) ∧
        call.transmissions encryptBlock answers app = [t] ∧ t.Under encryptBlock m ∧
        n + 1001 = m.toNat := by
  intro app
  rw [Call.transmissions]
  cases hvalues : (call.run encryptBlock answers app).1.transmitted with
  | nil =>
    left
    rw [app_run]
    rcases app_begin encryptBlock call app with heq | heq
    · exact ⟨n, Int.le_refl n, heq, rfl⟩
    · exact ⟨n + 1, by omega, heq.trans (PacketApp.counted_loadNetworkInfo n), rfl⟩
  | cons value values =>
    right
    have hfirst : value ∈ (call.run encryptBlock answers app).1.transmitted :=
      hvalues ▸ List.mem_cons_self
    have happ := app_run_of_transmitted encryptBlock hfirst
    obtain ⟨nwk, encrypted, payload, -, hnwk, hencrypt, hpayload, -⟩ :=
      nwkFrame_of_transmitted encryptBlock hfirst
    obtain ⟨header, hheader, hnwkHeader⟩ := auxHeader_of_nwkFrame encryptBlock hnwk
    have hcounted : app.increment = AppState.loadNetworkInfo (n + 1) :=
      congrArg PacketApp.toAppState (PacketApp.counted_loadNetworkInfo n)
    rw [hcounted] at hheader
    obtain ⟨m, rfl, hm⟩ := AppState.auxHeader_loadNetworkInfo hheader
    refine ⟨_, m, happ.trans (PacketApp.counted_loadNetworkInfo n), rfl, ⟨nwk, ?_, hnwkHeader⟩,
      by omega⟩
    refine ⟨hnwk, encrypted, payload, hencrypt, hpayload, fun sent hsent => ?_⟩
    obtain ⟨nwk', encrypted', payload', ieeeFrame, hnwk', hencrypt', hpayload', hcarries, hvalue⟩ :=
      nwkFrame_of_transmitted encryptBlock (hvalues ▸ hsent)
    -- each attempt is around the same network frame
    rw [hnwk] at hnwk'
    cases hnwk'
    rw [hencrypt] at hencrypt'
    cases hencrypt'
    rw [hpayload] at hpayload'
    cases hpayload'
    exact ⟨ieeeFrame, hcarries, hvalue⟩

/-! ## What a step is -/

namespace Coordinator

variable {encryptBlock}

theorem step_loadNetworkInfo {c c' : Coordinator} (h : c.Step encryptBlock .loadNetworkInfo c') :
    c.app = none ∧ c' = c.loaded := by
  rw [Step, step] at h
  split at h
  next hnone =>
    cases h
    exact ⟨Option.isNone_iff_eq_none.mp hnone, rfl⟩
  · cases h

theorem call_step (encryptBlock : Key → Block → Block) {c : Coordinator} {app : PacketApp}
    (h : c.app = some app) (call : Call) (answers : Answers) :
    c.Step encryptBlock (.call call answers) (c.called encryptBlock app call answers) := by
  rw [Step, step, h]
  rfl

/-- A session with a number in place of the one that it was loaded with, and with something new
    transmitted. -/
def counted (c : Coordinator) (n : Int) (transmissions : List Transmission) : Coordinator :=
  { c with
    app := some (PacketApp.loadNetworkInfo n)
    unsaved := transmissions ++ c.unsaved }

@[simp] theorem sent_counted (c : Coordinator) (n : Int) (transmissions : List Transmission) :
    (c.counted n transmissions).sent = transmissions ++ c.sent :=
  List.append_assoc _ _ _

/-- The running session has the application of some number. -/
def AtNumber (c : Coordinator) : Prop :=
  ∀ app, c.app = some app → ∃ n, app = PacketApp.loadNetworkInfo n

/-- A call raises the number, and transmits one frame at most. -/
theorem called_cases (c : Coordinator) (n : Int) (call : Call) (answers : Answers) :
    (∃ n', n ≤ n' ∧
      c.called encryptBlock (.loadNetworkInfo n) call answers = c.counted n' []) ∨
    ∃ t m, t.Under encryptBlock m ∧ n + 1001 = m.toNat ∧
      c.called encryptBlock (.loadNetworkInfo n) call answers = c.counted (n + 1) [t] := by
  rcases call_cases encryptBlock call answers n with ⟨n', hle, happ, hnone⟩ |
    ⟨t, m, happ, hone, hunder, hm⟩
  · exact .inl ⟨n', hle, by rw [called, happ, hnone, counted]⟩
  · exact .inr ⟨t, m, hunder, hm, by rw [called, happ, hone, counted]⟩

/-- The kinds of steps. -/
theorem step_cases {c c' : Coordinator} {op : SessionOp} (hnumber : c.AtNumber)
    (h : c.Step encryptBlock op c') :
    (op = .loadNetworkInfo ∧ c.app = none ∧ c' = c.loaded) ∨
    (∃ n n', c.app = some (PacketApp.loadNetworkInfo n) ∧ n ≤ n' ∧ c' = c.counted n' []) ∨
    (∃ n t m, c.app = some (PacketApp.loadNetworkInfo n) ∧ t.Under encryptBlock m ∧
      n + 1001 = m.toNat ∧ c' = c.counted (n + 1) [t]) ∨
    (∃ app, c.app = some app ∧ c' = c.disconnected app) ∨
    c' = { c with app := none } := by
  cases op with
  | loadNetworkInfo => exact .inl ⟨rfl, step_loadNetworkInfo h⟩
  | call call answers =>
    obtain ⟨app, happ, rfl⟩ := Option.map_eq_some_iff.mp h
    obtain ⟨n, rfl⟩ := hnumber app happ
    rcases called_cases c n call answers with ⟨n', hle, heq⟩ | ⟨t, m, hunder, hm, heq⟩
    · exact .inr (.inl ⟨n, n', happ, hle, heq⟩)
    · exact .inr (.inr (.inl ⟨n, t, m, happ, hunder, hm, heq⟩))
  | disconnect =>
    obtain ⟨app, happ, rfl⟩ := Option.map_eq_some_iff.mp h
    exact .inr (.inr (.inr (.inl ⟨app, happ, rfl⟩)))
  | crash =>
    obtain ⟨app, -, rfl⟩ := Option.map_eq_some_iff.mp h
    exact .inr (.inr (.inr (.inr rfl)))

/-! ## Every run: where the counters are -/

/-- Whatever the guard: the running session is above the file, and so is what was transmitted
    since the file was written. -/
structure AboveFile (encryptBlock : Key → Block → Block) (c : Coordinator) : Prop where
  running : ∀ app, c.app = some app → ∃ n, app = PacketApp.loadNetworkInfo n ∧
    c.frameCounterJson ≤ n
  unsaved : ∀ t ∈ c.unsaved, ∃ m : UInt32, t.Under encryptBlock m ∧
    c.frameCounterJson + 1000 < m.toNat

theorem AboveFile.atNumber {c : Coordinator} (h : c.AboveFile encryptBlock) : c.AtNumber := by
  intro app happ
  obtain ⟨n, heq, -⟩ := h.running app happ
  exact ⟨n, heq⟩

theorem AboveFile.le {c : Coordinator} (h : c.AboveFile encryptBlock) {n : Int}
    (happ : c.app = some (PacketApp.loadNetworkInfo n)) : c.frameCounterJson ≤ n := by
  obtain ⟨n', heq, hle⟩ := h.running _ happ
  have hcounter := congrArg (fun app => app.txCounter) heq
  simp only [PacketApp.loadNetworkInfo, AppState.loadNetworkInfo] at hcounter
  omega

theorem AboveFile.holds {c : Coordinator} (h : c.AboveFile encryptBlock) {t : Transmission}
    (ht : t ∈ c.unsaved) {frame : DecryptedZigbeeNwkFrame} (hframe : t.nwkFrame = some frame) :
    t.Holds encryptBlock frame := by
  obtain ⟨m, ⟨frame', hholds, -⟩, -⟩ := h.unsaved t ht
  have hsame := hholds.nwkFrame.symm.trans hframe
  cases hsame
  exact hholds

/-- Between two sessions there is only something to show about what was transmitted. -/
theorem aboveFile_of_app_eq_none {c : Coordinator} (happ : c.app = none)
    (hunsaved : ∀ t ∈ c.unsaved, ∃ m : UInt32, t.Under encryptBlock m ∧
      c.frameCounterJson + 1000 < m.toNat) : c.AboveFile encryptBlock where
  running := by
    intro app happ'
    rw [happ] at happ'
    cases happ'
  unsaved := hunsaved

theorem AboveFile.loaded {c : Coordinator} (h : c.AboveFile encryptBlock) :
    c.loaded.AboveFile encryptBlock where
  running := by
    intro app happ
    cases happ
    exact ⟨_, rfl, Int.le_refl _⟩
  unsaved := h.unsaved

theorem AboveFile.counted {c : Coordinator} (h : c.AboveFile encryptBlock) {n : Int}
    (hle : c.frameCounterJson ≤ n) {transmissions : List Transmission}
    (hnew : ∀ t ∈ transmissions, ∃ m : UInt32, t.Under encryptBlock m ∧
      c.frameCounterJson + 1000 < m.toNat) :
    (c.counted n transmissions).AboveFile encryptBlock where
  running := by
    intro app happ
    cases happ
    exact ⟨n, rfl, hle⟩
  unsaved := by
    intro t ht
    rcases List.mem_append.mp ht with hmem | hmem
    · exact hnew t hmem
    · exact h.unsaved t hmem

theorem aboveFile_step {c c' : Coordinator} {op : SessionOp} (h : c.AboveFile encryptBlock)
    (hstep : c.Step encryptBlock op c') : c'.AboveFile encryptBlock := by
  rcases step_cases h.atNumber hstep with hload | hquiet | htransmit | hdisconnect | hcrash
  · rcases hload with ⟨-, -, rfl⟩
    exact h.loaded
  · rcases hquiet with ⟨n, n', happ, hle, rfl⟩
    exact h.counted ((h.le happ).trans hle) (by rintro t ⟨⟩)
  · rcases htransmit with ⟨n, t, m, happ, hunder, hm, rfl⟩
    have habove := h.le happ
    refine h.counted (by omega) ?_
    intro t' ht'
    rw [List.mem_singleton.mp ht']
    exact ⟨m, hunder, by omega⟩
  · rcases hdisconnect with ⟨app, -, rfl⟩
    exact aboveFile_of_app_eq_none rfl (by rintro t ⟨⟩)
  · subst hcrash
    exact aboveFile_of_app_eq_none rfl h.unsaved

theorem aboveFile_of_run {stored : Int} {ops : List SessionOp} {c : Coordinator}
    (h : Run (Step encryptBlock) (start stored) ops c) : c.AboveFile encryptBlock :=
  h.inv (AboveFile encryptBlock) (fun _ _ _ habove hstep => aboveFile_step habove hstep)
    (aboveFile_of_app_eq_none rfl (by rintro t ⟨⟩))

/-! ## Guarded runs: every frame is above the ones before -/

/-- The frame counter of a transmission is at most the bound. -/
def UpTo (encryptBlock : Key → Block → Block) (bound : Int) (t : Transmission) : Prop :=
  ∃ n : UInt32, t.Under encryptBlock n ∧ n.toNat ≤ bound

theorem UpTo.mono {bound bound' : Int} {t : Transmission} (h : UpTo encryptBlock bound t)
    (hle : bound ≤ bound') : UpTo encryptBlock bound' t := by
  rcases h with ⟨n, hn, hbound⟩
  exact ⟨n, hn, by omega⟩

/-- The first transmission has the larger counter. -/
def Newer (encryptBlock : Key → Block → Block) (s t : Transmission) : Prop :=
  ∃ m n : UInt32, s.Under encryptBlock m ∧ t.Under encryptBlock n ∧ n.toNat < m.toNat

theorem Newer.distinct {s t : Transmission} (h : Newer encryptBlock s t) :
    ∃ f g, s.Holds encryptBlock f ∧ t.Holds encryptBlock g ∧
      f.frameCounter ≠ g.frameCounter ∧ f.nonce ≠ g.nonce := by
  rcases h with ⟨m, n, ⟨f, hf, hm⟩, ⟨g, hg, hn⟩, hlt⟩
  have hne : m ≠ n := by
    intro heq
    subst heq
    omega
  refine ⟨f, g, hf, hg, ?_, ?_⟩
  · intro heq
    rw [hm.frameCounter_eq, hn.frameCounter_eq] at heq
    exact hne (Option.some.inj heq)
  · intro heq
    exact hne (hm.nonce_inj hn heq)

/-- What is transmitted in guarded runs: before the file was written it is covered by the number
    in it, since then by the counter of the session. -/
structure Ordered (encryptBlock : Key → Block → Block) (c : Coordinator) : Prop where
  aboveFile : c.AboveFile encryptBlock
  newest : c.sent.Pairwise (Newer encryptBlock)
  saved : ∀ t ∈ c.saved, UpTo encryptBlock c.frameCounterJson t
  unsaved : ∀ app, c.app = some app → ∀ t ∈ c.unsaved, UpTo encryptBlock app.txCounter t

theorem ordered_of_app_eq_none {c : Coordinator} (happ : c.app = none)
    (habove : c.AboveFile encryptBlock) (hnewest : c.sent.Pairwise (Newer encryptBlock))
    (hsaved : ∀ t ∈ c.saved, UpTo encryptBlock c.frameCounterJson t) :
    c.Ordered encryptBlock where
  aboveFile := habove
  newest := hnewest
  saved := hsaved
  unsaved := by
    intro app happ'
    rw [happ] at happ'
    cases happ'

/-- A running session is above everything that was transmitted. -/
theorem Ordered.sent_upTo {c : Coordinator} (h : c.Ordered encryptBlock) {app : PacketApp}
    (happ : c.app = some app) : ∀ t ∈ c.sent, UpTo encryptBlock app.txCounter t := by
  intro t ht
  rcases List.mem_append.mp ht with hunsaved | hsaved
  · exact h.unsaved app happ t hunsaved
  · obtain ⟨n, rfl, hle⟩ := h.aboveFile.running app happ
    refine (h.saved t hsaved).mono ?_
    show c.frameCounterJson ≤ n + 1000
    omega

theorem Ordered.loaded {c : Coordinator} (h : c.Ordered encryptBlock) (hsaved : c.unsaved = []) :
    c.loaded.Ordered encryptBlock where
  aboveFile := h.aboveFile.loaded
  newest := h.newest
  saved := h.saved
  unsaved := by
    intro app happ t ht
    have hmem : t ∈ c.unsaved := ht
    rw [hsaved] at hmem
    cases hmem

theorem Ordered.quiet {c : Coordinator} (h : c.Ordered encryptBlock) {n n' : Int}
    (happ : c.app = some (PacketApp.loadNetworkInfo n)) (hle : n ≤ n')
    (habove : (c.counted n' []).AboveFile encryptBlock) : (c.counted n' []).Ordered encryptBlock where
  aboveFile := habove
  newest := h.newest
  saved := h.saved
  unsaved := by
    intro app happ' t ht
    cases happ'
    refine (h.unsaved _ happ t ht).mono ?_
    show n + 1000 ≤ n' + 1000
    omega

theorem Ordered.transmitted {c : Coordinator} (h : c.Ordered encryptBlock) {n : Int}
    (happ : c.app = some (PacketApp.loadNetworkInfo n)) {t : Transmission} {m : UInt32}
    (hunder : t.Under encryptBlock m) (hm : n + 1001 = m.toNat)
    (habove : (c.counted (n + 1) [t]).AboveFile encryptBlock) :
    (c.counted (n + 1) [t]).Ordered encryptBlock where
  aboveFile := habove
  newest := by
    rw [sent_counted]
    refine List.pairwise_cons.mpr ⟨?_, h.newest⟩
    intro s hs
    obtain ⟨k, hk, hle⟩ := h.sent_upTo happ s hs
    have hle' : (k.toNat : Int) ≤ n + 1000 := hle
    exact ⟨m, k, hunder, hk, by omega⟩
  saved := h.saved
  unsaved := by
    intro app happ' s hs
    cases happ'
    rcases List.mem_append.mp hs with hnew | hold
    · rw [List.mem_singleton.mp hnew]
      refine ⟨m, hunder, ?_⟩
      show (m.toNat : Int) ≤ n + 1 + 1000
      omega
    · refine (h.unsaved _ happ s hold).mono ?_
      show n + 1000 ≤ n + 1 + 1000
      omega

theorem ordered_step {c c' : Coordinator} {op : SessionOp} (h : c.Ordered encryptBlock)
    (hstep : guarded SavedBeforeLoad (Step encryptBlock) c op c') : c'.Ordered encryptBlock := by
  rcases hstep with ⟨hguard, hstep⟩
  have habove := aboveFile_step h.aboveFile hstep
  rcases step_cases h.aboveFile.atNumber hstep with hload | hquiet | htransmit | hdisconnect | hcrash
  · rcases hload with ⟨rfl, -, rfl⟩
    exact h.loaded hguard
  · rcases hquiet with ⟨n, n', happ, hle, rfl⟩
    exact h.quiet happ hle habove
  · rcases htransmit with ⟨n, t, m, happ, hunder, hm, rfl⟩
    exact h.transmitted happ hunder hm habove
  · rcases hdisconnect with ⟨app, happ, rfl⟩
    exact ordered_of_app_eq_none rfl habove h.newest (h.sent_upTo happ)
  · subst hcrash
    exact ordered_of_app_eq_none rfl habove h.newest h.saved

theorem ordered_of_run {stored : Int} {ops : List SessionOp} {c : Coordinator}
    (h : Run (guarded SavedBeforeLoad (Step encryptBlock)) (start stored) ops c) :
    c.Ordered encryptBlock :=
  h.inv (Ordered encryptBlock) (fun _ _ _ hordered hstep => ordered_step hordered hstep)
    (ordered_of_app_eq_none rfl (aboveFile_of_run (.nil _)) .nil (by rintro t ⟨⟩))

/-! ## An older file: the counters come back -/

/-- A packet with that many bytes of data. -/
def packetOfLength (length : Nat) : OutgoingPacket :=
  { onOffPacket with data := List.replicate length 0x00 }

/-- While the counter fits, a short one can be sent. -/
theorem canSend_packetOfLength {n : Int} {m : UInt32} (hm : n + 1001 = m.toNat) {length : Nat}
    (hlength : length < 65491) :
    (PacketApp.loadNetworkInfo n).CanSend (packetOfLength length) where
  fits :=
    have hfits := canSend_onOffPacket.fits
    ⟨hfits.radius, hfits.tsn, hfits.srcEp, hfits.dstEp, hfits.clusterId, hfits.profileId⟩
  numbers := by
    have hlt : m.toNat < 2 ^ 32 := m.toNat_lt
    refine ⟨?_, canSend_onOffPacket.numbers.2⟩
    show 0 ≤ n + 1000 + 1 ∧ n + 1000 + 1 < 0x100000000
    omega
  channel := canSend_onOffPacket.channel
  data := by rwa [packetOfLength, List.length_replicate]

/-- A packet that can be sent gets to the radio, whatever this answers. -/
theorem transmitted_ne_nil (encryptBlock : Key → Block → Block) {app : PacketApp}
    {packet : OutgoingPacket} (h : app.CanSend packet) (answers : Answers) :
    ((Call.sendPacket packet).run encryptBlock answers app).1.transmitted ≠ [] := by
  obtain ⟨frame, value, hframe, hvalue⟩ := (app.canSend_iff encryptBlock packet).mp h
  obtain ⟨n, -, hsent, -⟩ := transmitted_sendAttempts answers 4 0 (s := .start app.counted) hvalue
  rw [Call.run, sendPacket_of_ok encryptBlock answers hframe]
  dsimp only [sendSpinelFrame]
  rw [hsent]
  exact List.cons_ne_nil _ _

/-- Such a packet is transmitted under the next counter. -/
theorem exists_transmission (encryptBlock : Key → Block → Block) (answers : Answers) {n : Int}
    {m : UInt32} (hm : n + 1001 = m.toNat) {length : Nat} (hlength : length < 65491) :
    ∃ t frame, t ∈ (Call.sendPacket (packetOfLength length)).transmissions encryptBlock answers
        (.loadNetworkInfo n) ∧
      t.Holds encryptBlock frame ∧ frame.HasCounter m ∧ frame.payload.length = length + 8 := by
  have hsome := transmitted_ne_nil encryptBlock (canSend_packetOfLength hm hlength) answers
  have hcases := call_cases encryptBlock (.sendPacket (packetOfLength length)) answers n
  obtain ⟨value, values, hvalues⟩ := List.exists_cons_of_ne_nil hsome
  simp only [Call.transmissions, hvalues] at hcases ⊢
  rcases hcases with ⟨-, -, -, hnone⟩ | ⟨t, m', -, hone, ⟨frame, hholds, hcounter⟩, hm'⟩
  · cases hnone
  · cases hone
    have hsame : m' = m := UInt32.toNat_inj.mp (by omega)
    subst hsame
    refine ⟨_, frame, List.mem_cons_self, hholds, hcounter, ?_⟩
    have hframe := AppState.packetFrame_length hholds.nwkFrame
    rwa [packetOfLength, List.length_replicate] at hframe

/-- Any number of packets raises the counter by that number; the file and what was transmitted
    before stay. -/
theorem exists_counter_add (encryptBlock : Key → Block → Block) {c : Coordinator} {n : Int}
    (happ : c.app = some (PacketApp.loadNetworkInfo n)) (k : Nat) :
    ∃ ops c', Run (Step encryptBlock) c ops c' ∧
      c'.app = some (PacketApp.loadNetworkInfo (n + k)) ∧ c.sent ⊆ c'.sent := by
  induction k with
  | zero => exact ⟨[], c, .nil c, by rw [happ, Int.natCast_zero, Int.add_zero], List.Subset.refl _⟩
  | succ k ih =>
    rcases ih with ⟨ops, c', hrun, happ', hsent⟩
    have hstep := call_step encryptBlock happ' (.sendPacket (packetOfLength 0)) okAnswers
    refine ⟨_, _, hrun.snoc hstep, ?_, ?_⟩
    · rw [called, app_run_sendPacket, PacketApp.counted_loadNetworkInfo, Int.natCast_succ,
        Int.add_assoc]
    · intro t ht
      rw [sent, called, List.append_assoc]
      exact List.mem_append_right _ (hsent ht)

/-- What was transmitted since the file was written has its counter and nonce used again: as many
    packets as it takes to get below it, and one more, of another length. -/
theorem exists_nonceReused {c : Coordinator} (h : c.AboveFile encryptBlock) {t : Transmission}
    (ht : t ∈ c.unsaved) :
    ∃ ops c', Run (Step encryptBlock) c.loaded ops c' ∧ c'.NonceReused encryptBlock := by
  obtain ⟨m, ⟨f, hf, hfm⟩, habove⟩ := h.unsaved t ht
  obtain ⟨ops, c₁, hrun, happ₁, hsent⟩ :=
    exists_counter_add encryptBlock (c := c.loaded) rfl
      (m.toNat - 1001 - c.frameCounterJson).toNat
  have hnext : c.frameCounterJson + (m.toNat - 1001 - c.frameCounterJson).toNat + 1001 =
      m.toNat := by omega
  -- of the two lengths, one is not that of the first frame
  have hshort : (if f.payload.length = 8 then 1 else 0) < 65491 := by split <;> decide
  obtain ⟨u, g, hu, hg, hgm, hlength⟩ := exists_transmission encryptBlock okAnswers hnext hshort
  have hstep := call_step encryptBlock happ₁
    (.sendPacket (packetOfLength (if f.payload.length = 8 then 1 else 0))) okAnswers
  refine ⟨_, _, hrun.snoc hstep, t, ?_, u, ?_, f, g, hf, hg, ?_, ?_, ?_⟩
  · rw [sent, called, List.append_assoc]
    exact List.mem_append_right _ (hsent (List.mem_append_left _ ht))
  · rw [sent, called, List.append_assoc]
    exact List.mem_append_left _ hu
  · intro heq
    rw [← heq] at hlength
    split at hlength <;> omega
  · rw [hfm.frameCounter_eq, hgm.frameCounter_eq]
  · rw [hfm.nonce_eq, hgm.nonce_eq]

/-! ## The nonces of a node -/

/-- **No nonce is used twice** by sessions that are loaded only after the file was written,
    and an older file always allows it: the session that is loaded from it can go on to a
    second frame with the counter and the nonce of one transmitted before. -/
theorem nonces_unique (encryptBlock : Key → Block → Block) (stored : Int) :
    (∀ ops c, Run (guarded SavedBeforeLoad (Step encryptBlock)) (start stored) ops c →
      c.NoncesUnique encryptBlock) ∧
    (∀ ops c c₁, Run (Step encryptBlock) (start stored) ops c →
      c.Step encryptBlock .loadNetworkInfo c₁ → ¬ SavedBeforeLoad c .loadNetworkInfo →
        ∃ ops' c', Run (Step encryptBlock) c₁ ops' c' ∧ c'.NonceReused encryptBlock) := by
  constructor
  · intro ops c hrun
    exact (ordered_of_run hrun).newest.imp Newer.distinct
  · intro ops c c₁ hrun hload hunsaved
    obtain ⟨t, ht⟩ := List.exists_mem_of_ne_nil c.unsaved hunsaved
    obtain ⟨-, rfl⟩ := step_loadNetworkInfo hload
    exact exists_nonceReused (aboveFile_of_run hrun) ht

/-- Another packet for the node of `onOffPacket`. -/
def offPacket : OutgoingPacket := { onOffPacket with tsn := 8, data := [0x01, 0x08, 0x00] }

/-- Two sessions that each send a packet, with a `disconnect` or a crash between them. -/
def twoSessions (ending : SessionOp) : List SessionOp :=
  [.loadNetworkInfo, .call (.sendPacket onOffPacket) okAnswers, ending, .loadNetworkInfo,
    .call (.sendPacket offPacket) okAnswers]

/-- Two sessions with a `disconnect` between them, and a session after a crash. -/
theorem nonces_unique_twoSessions :
    (∃ c, Run (guarded SavedBeforeLoad (Step coordinatorAes)) (start 0) (twoSessions .disconnect) c ∧
      c.sent.length = 2 ∧ c.NoncesUnique coordinatorAes) ∧
    ∃ c c₁, Run (Step coordinatorAes) (start 0)
        [.loadNetworkInfo, .call (.sendPacket onOffPacket) okAnswers, .crash] c ∧
      c.Step coordinatorAes .loadNetworkInfo c₁ ∧
      ∃ ops' c', Run (Step coordinatorAes) c₁ ops' c' ∧ c'.NonceReused coordinatorAes := by
  constructor
  · have hrun : ∃ c, Run (guarded SavedBeforeLoad (Step coordinatorAes)) (start 0)
        (twoSessions .disconnect) c ∧ c.sent.length = 2 :=
      ⟨_, .cons ⟨rfl, rfl⟩ (.cons ⟨trivial, rfl⟩ (.cons ⟨trivial, rfl⟩ (.cons ⟨rfl, rfl⟩
        (.single ⟨trivial, rfl⟩)))), by decide +kernel⟩
    rcases hrun with ⟨c, hrun, hlength⟩
    exact ⟨c, hrun, hlength, (nonces_unique coordinatorAes 0).1 _ c hrun⟩
  · have hrun : ∃ c, Run (Step coordinatorAes) (start 0)
        [.loadNetworkInfo, .call (.sendPacket onOffPacket) okAnswers, .crash] c ∧ c.app = none ∧
        c.unsaved.length = 1 :=
      ⟨_, .cons rfl (.cons rfl (.single rfl)), rfl, by decide +kernel⟩
    rcases hrun with ⟨c, hrun, happ, hlength⟩
    have hload : c.Step coordinatorAes .loadNetworkInfo c.loaded := by
      rw [Step, step, happ]
      rfl
    refine ⟨c, c.loaded, hrun, hload, (nonces_unique coordinatorAes 0).2 _ c _ hrun hload ?_⟩
    intro hunsaved
    rw [show c.unsaved = [] from hunsaved] at hlength
    cases hlength

/-- A crash between two sessions: both send their packet with frame counter 1001. -/
theorem crash_reuses_nonce :
    ∃ c, Run (Step coordinatorAes) (start 0) (twoSessions .crash) c ∧
      c.NonceReused coordinatorAes := by
  have hframes : ∃ f g,
      (AppState.loadNetworkInfo 1).packetFrame onOffPacket.toZigbeePacket = some f ∧
      (AppState.loadNetworkInfo 1).packetFrame offPacket.toZigbeePacket = some g ∧
      f.payload ≠ g.payload ∧ f.frameCounter = some 1001 ∧ g.frameCounter = some 1001 ∧
      f.nonce = g.nonce :=
    ⟨_, _, rfl, rfl, by decide, rfl, rfl, rfl⟩
  have hrun : ∃ c, Run (Step coordinatorAes) (start 0) (twoSessions .crash) c ∧
      c.unsaved.map (fun t => t.nwkFrame) =
        [(AppState.loadNetworkInfo 1).packetFrame offPacket.toZigbeePacket,
          (AppState.loadNetworkInfo 1).packetFrame onOffPacket.toZigbeePacket] :=
    ⟨_, .cons rfl (.cons rfl (.cons rfl (.cons rfl (.single rfl)))), by decide +kernel⟩
  obtain ⟨f, g, hf, hg, hpayload, hfirst, hsecond, hnonce⟩ := hframes
  obtain ⟨c, hrun, hunsaved⟩ := hrun
  rw [hf, hg] at hunsaved
  have habove := aboveFile_of_run hrun
  have hsent : ∀ frame, some frame ∈ c.unsaved.map (fun t => t.nwkFrame) →
      ∃ t ∈ c.sent, t.Holds coordinatorAes frame := by
    intro frame hframe
    obtain ⟨t, ht, hnwk⟩ := List.mem_map.mp hframe
    exact ⟨t, List.mem_append_left _ ht, habove.holds ht hnwk⟩
  obtain ⟨s, hs, hholds⟩ := hsent f (hunsaved ▸ List.mem_cons_of_mem _ List.mem_cons_self)
  obtain ⟨t, ht, hholds'⟩ := hsent g (hunsaved ▸ List.mem_cons_self)
  exact ⟨c, hrun, s, hs, t, ht, f, g, hholds, hholds', hpayload, hfirst.trans hsecond.symm, hnonce⟩

end Coordinator

end ZigpySpinel.Python
