import ZigpySpinel.Python.Proofs.EndToEnd

/-!
# Safety of a network

Whatever is lost, repeated or received in another order, `zigpy` gets on a node only what another
node was given to send or what comes from a device of another kind. A reply is a frame that no
node with the key answers or delivers, so replies never lead to further frames.
-/

namespace ZigpySpinel.Python
open Lib

variable (encryptBlock : Key → Block → Block)

/-! ## Replies -/

theorem AppState.reads_apsAckFrame {app : AppState} {received : ZigbeeNwkHeader}
    {aps : ZigbeeApsFrame} {reply : DecryptedZigbeeNwkFrame}
    (h : app.apsAckFrame received aps = some reply) : reply.Secured ∧ reply.request = .ok none := by
  simp only [apsAckFrame, Option.bind_eq_bind, Option.bind_eq_some_iff] at h
  obtain ⟨radius, -, header, hheader, h⟩ := h
  cases h
  obtain ⟨hcontrol, hsource, -⟩ := fields_of_auxHeader hheader
  refine ⟨{
    nwkHeader := ZigbeeNwkHeader.wellFormed_plain ⟨rfl, rfl, rfl, rfl⟩ ⟨rfl, rfl, rfl, rfl, rfl⟩
    security := rfl
    auxHeader := ⟨header, app.ieee, rfl, hsource, by rw [hcontrol]; rfl⟩ }, ?_⟩
  simp only [DecryptedZigbeeNwkFrame.request, isRouteRequest, ZigbeeApsFrame.fromBytes_serialize]
  rfl

/-- A route reply has both of the long addresses that its flags announce, if the request names
    its source. -/
theorem AppState.reads_routeReplyFrame {app : AppState} {received : ZigbeeNwkHeader}
    {reply : DecryptedZigbeeNwkFrame} (h : app.routeReplyFrame received = some reply)
    (hsome : received.sourceIeee.isSome) : reply.Secured ∧ reply.request = .ok none := by
  simp only [routeReplyFrame, Option.bind_eq_bind, Option.bind_eq_some_iff] at h
  obtain ⟨header, hheader, h⟩ := h
  cases h
  obtain ⟨hcontrol, hsource, -⟩ := fields_of_auxHeader hheader
  refine ⟨{
    nwkHeader := ?_
    security := rfl
    auxHeader := ⟨header, app.ieee, rfl, hsource, by rw [hcontrol]; rfl⟩ }, rfl⟩
  exact {
    destinationIeee := iff_of_true rfl hsome
    sourceIeee := iff_of_true rfl rfl
    multicastControl := by simp
    sourceRoute := by simp [ZigbeeNwkHeader.route]
    relayIndex := rfl
    relays := rfl
    fits := by simp [ZigbeeNwkHeader.route] }

/-- A node asks for the network command of a route request. -/
theorem DecryptedZigbeeNwkFrame.command_of_request {frame : DecryptedZigbeeNwkFrame}
    (h : frame.request = .ok (some .routeRequest)) :
    frame.nwkHeader.frameControl.frameType = .command := by
  obtain ⟨routeRequest, hroute, h⟩ := except_bind_eq_ok.mp h
  rw [isRouteRequest] at hroute
  split at hroute
  next htype => exact htype
  · cases hroute
    rw [if_neg Bool.false_ne_true] at h
    split at h
    · cases h
    · obtain ⟨aps, -, h⟩ := except_bind_eq_ok.mp h
      split at h <;> cases h

/-- No node with the key does anything about a frame, whatever its radio reports with it. -/
def Inert (key : Key) (sent : List UInt8) : Prop :=
  ∀ value, Reported sent value → ∀ (app : PacketApp) (answers : Answers), app.key = key →
    (packetCallback encryptBlock answers app value).1 = .start app

/-- A frame that the key decrypts to one that asks for nothing. -/
theorem inert_of_request {key : Key} {sent : List UInt8} {frame : IEEE802154Frame}
    {nwk : EncryptedZigbeeNwkFrame} {decrypted : DecryptedZigbeeNwkFrame}
    (hparse : parseFrame sent = .ok frame)
    (hread : ZigbeeNwkFrame.fromBytes frame.payload = .ok nwk)
    (hdecrypt : nwk.decrypt encryptBlock key = .ok decrypted)
    (hrequest : decrypted.request = .ok none) : Inert encryptBlock key sent := by
  rintro value hreported app answers rfl
  have hreceive : receive encryptBlock app value =
      if app.ignores frame then .ok none
      else .ok (some { ieeeFrame := frame, nwkFrame := nwk, decrypted := decrypted }) := by
    simp only [receive, parseFrame_reported hreported, hparse, hread, hdecrypt, bind, Except.bind]
  rw [packetCallback, hreceive]
  split
  next hsome =>
    split at hsome <;> cases hsome
  · rfl
  next r hsome =>
    split at hsome
    · cases hsome
    · cases hsome
      rw [handleFrame_eq, hrequest]

/-- The reply to a received frame is a frame that its key decrypts, and asks for nothing, if the
    received one names its source where it is a network command. -/
theorem PacketApp.reads_replyTo {app : PacketApp} {r : ReceivedFrame}
    (hdecrypt : r.nwkFrame.decrypt encryptBlock app.key = .ok r.decrypted)
    (hsource : r.nwkFrame.nwkHeader.frameControl.frameType = .command →
      r.nwkFrame.nwkHeader.sourceIeee.isSome)
    {request : Request} (hrequest : r.decrypted.request = .ok (some request))
    {reply : DecryptedZigbeeNwkFrame} (h : app.replyTo r.nwkFrame.nwkHeader request = some reply) :
    reply.Secured ∧ reply.request = .ok none := by
  cases request with
  | routeRequest =>
    have hcommand := DecryptedZigbeeNwkFrame.command_of_request hrequest
    obtain ⟨-, hdecrypted⟩ := EncryptedZigbeeNwkFrame.of_decrypt hdecrypt
    rw [hdecrypted] at hcommand
    exact AppState.reads_routeReplyFrame h (hsource hcommand)
  | data aps =>
    rw [replyTo] at h
    split at h
    · exact AppState.reads_apsAckFrame h
    · cases h

/-- A callback that sends something has received a frame. -/
theorem exists_receive_of_transmitted {answers : Answers} {app : PacketApp}
    {value sent : List UInt8}
    (h : sent ∈ (packetCallback encryptBlock answers app value).1.transmitted) :
    ∃ r, receive encryptBlock app value = .ok (some r) := by
  rw [packetCallback] at h
  split at h
  · cases h
  · cases h
  next r hreceive => exact ⟨r, hreceive⟩

theorem decrypts_of_receive {app : PacketApp} {value : List UInt8} {r : ReceivedFrame}
    (h : receive encryptBlock app value = .ok (some r)) :
    ZigbeeNwkFrame.fromBytes r.ieeeFrame.payload = .ok r.nwkFrame ∧
      r.nwkFrame.decrypt encryptBlock app.key = .ok r.decrypted := by
  obtain ⟨frame, -, h⟩ := except_bind_eq_ok.mp h
  split at h
  · cases h
  · obtain ⟨nwkFrame, hnwk, h⟩ := except_bind_eq_ok.mp h
    obtain ⟨decrypted, hdecrypted, h⟩ := except_bind_eq_ok.mp h
    cases h
    exact ⟨hnwk, hdecrypted⟩

/-- What the callback sends on a frame with short addresses is inert. -/
theorem inert_of_transmitted {answers : Answers} {app : PacketApp} {value sent : List UInt8}
    (hregular : Regular value)
    (h : sent ∈ (packetCallback encryptBlock answers app value).1.transmitted) :
    Inert encryptBlock app.key sent := by
  obtain ⟨r, hreceive⟩ := exists_receive_of_transmitted encryptBlock h
  obtain ⟨hparse, hpan⟩ := of_receive encryptBlock hreceive
  obtain ⟨hnwk, hdecrypt⟩ := decrypts_of_receive encryptBlock hreceive
  obtain ⟨request, frame, hrequest, hframe, hvalue⟩ :=
    mem_transmitted_packetCallback encryptBlock hreceive h
  obtain ⟨reply, sequenceNumber, encrypted, payload, hreply, -, hencrypt, hpayload, -, rfl⟩ :=
    replyFrame_eq_ok encryptBlock (fun _ hmem => PacketApp.isReply_of_replyTo hmem) hpan hframe
  obtain ⟨hsecured, hnothing⟩ := PacketApp.reads_replyTo encryptBlock hdecrypt
    (hregular.sourceIeee _ _ hparse hnwk) hrequest hreply
  obtain ⟨hread, hdecrypts⟩ := hsecured.read_back hencrypt hpayload
  obtain ⟨data, hdata, hparseSent⟩ := parseFrame_streamRawValue hvalue
  obtain ⟨address, haddress⟩ := exists_destAddress hparse hpan
  -- both addresses are short, and a missing source cannot be written
  rcases address with source | eui64
  · rw [haddress] at hdata
    cases hsrc : r.ieeeFrame.srcAddress with
    | none =>
      rw [hsrc, serialize_replyOf_none] at hdata
      cases hdata
    | some srcAddress =>
      rcases srcAddress with destination | eui64
      · rw [hsrc] at hdata
        obtain ⟨fcs, hshort⟩ := fromBytes_serialize_short hdata
        exact inert_of_request encryptBlock (hparseSent.trans hshort) hread hdecrypts hnothing
      · exact absurd hsrc (hregular.srcAddress _ eui64 hparse)
  · exact absurd haddress (hregular.destAddress _ eui64 hparse)

/-! ## Received frames -/

theorem Regular.reported {sent value : List UInt8} (h : Regular sent) (hreported : Reported sent value) :
    Regular value := by
  have hparse := parseFrame_reported hreported
  constructor
  · intro frame eui64 hframe
    exact h.destAddress frame eui64 (hparse ▸ hframe)
  · intro frame eui64 hframe
    exact h.srcAddress frame eui64 (hparse ▸ hframe)
  · intro frame nwk hframe
    exact h.sourceIeee frame nwk (hparse ▸ hframe)

/-- The frame of a packet is one that devices of other kinds may send. -/
theorem CarriesPacket.regular {encryptBlock : Key → Block → Block} {key : Key} {panId : UInt16}
    {packet : OutgoingPacket} {frame : IEEE802154Frame} {nwk : EncryptedZigbeeNwkFrame}
    {decrypted : DecryptedZigbeeNwkFrame} {aps : ZigbeeApsFrame} {sent : List UInt8}
    (h : CarriesPacket encryptBlock key panId packet frame nwk decrypted aps)
    (hparse : parseFrame sent = .ok frame) : Regular sent := by
  constructor
  · intro frame' eui64 hframe
    rw [hparse] at hframe
    cases hframe
    rw [h.destAddress]
    rintro ⟨⟩
  · intro frame' eui64 hframe
    rw [hparse] at hframe
    cases hframe
    rw [h.srcAddress]
    rintro ⟨⟩
  · intro frame' nwk' hframe hnwk hcommand
    rw [hparse] at hframe
    cases hframe
    rw [h.nwkFrame] at hnwk
    cases hnwk
    obtain ⟨-, hdecrypted⟩ := EncryptedZigbeeNwkFrame.of_decrypt h.decrypts
    have htype := h.holds.nwkType
    rw [hdecrypted] at htype
    dsimp only at htype
    rw [htype] at hcommand
    cases hcommand

/-- The packet of a frame that carries one is the only one that the callback delivers. -/
theorem CarriesPacket.carries_of_received {encryptBlock : Key → Block → Block} {key : Key}
    {panId : UInt16} {packet : OutgoingPacket} {frame : IEEE802154Frame}
    {nwk : EncryptedZigbeeNwkFrame} {decrypted : DecryptedZigbeeNwkFrame} {aps : ZigbeeApsFrame}
    (h : CarriesPacket encryptBlock key panId packet frame nwk decrypted aps) {app : PacketApp}
    (hkey : app.key = key) {value : List UInt8} (hparse : parseFrame value = .ok frame)
    {answers : Answers} {p : ReceivedPacket}
    (hmem : p ∈ (packetCallback encryptBlock answers app value).1.received) :
    p.Carries packet.toZigbeePacket := by
  have hread : ZigbeeApsFrame.fromBytes decrypted.payload = .ok aps := by
    rw [h.holds.payload, ZigbeeApsFrame.fromBytes_serialize]
  have hrequest : decrypted.request = .ok (some (.data aps)) := by
    simp only [DecryptedZigbeeNwkFrame.request, isRouteRequest, h.holds.nwkType, hread, bind,
      Except.bind, h.holds.apsType]
    rfl
  rw [packetCallback, h.receive_eq hkey hparse] at hmem
  cases hignores : app.ignores frame with
  | true =>
    rw [hignores] at hmem
    cases hmem
  | false =>
    rw [hignores, if_neg Bool.false_ne_true] at hmem
    dsimp only at hmem
    rw [handleFrame_eq, hrequest] at hmem
    dsimp only at hmem
    have hfields := h.holds.fields
    -- the acknowledgement delivers nothing itself
    have hack : (sendApsAck encryptBlock answers frame nwk.nwkHeader aps
        (.start app)).1.received = [] := by
      rw [sendApsAck, received_sendReply]
      rfl
    have hsingle : ∀ s : CallbackState, s.received = [] →
        p ∈ (s.log (.packetReceived (receivedPacket decrypted.nwkHeader aps))).received →
        p.Carries packet.toZigbeePacket := by
      intro s hs hp
      rw [CallbackState.received_log_packet, hs, List.nil_append, List.mem_singleton] at hp
      rwa [hp]
    cases hrequested : aps.frameControl.ackRequest with
    | false =>
      rw [handleAps_deliver encryptBlock answers _ h.holds.apsType hrequested] at hmem
      exact hsingle _ rfl hmem
    | true =>
      rcases handleAps_ack encryptBlock answers
        { ieeeFrame := frame, nwkFrame := nwk, decrypted := decrypted } h.holds.apsType hrequested
        (.start app) with heq | heq
      · rw [heq, hack] at hmem
        cases hmem
      · rw [heq] at hmem
        exact hsingle _ hack hmem

/-! ## The key of a node -/

theorem key_sendPacket (answers : Answers) (packet : OutgoingPacket) (app : PacketApp) :
    (sendPacket encryptBlock answers packet (.start app)).1.app.key = app.key := by
  cases hframe : app.frameOf encryptBlock packet with
  | error e =>
    rw [sendPacket_of_error encryptBlock answers hframe]
    rfl
  | ok frame =>
    rw [sendPacket_of_ok encryptBlock answers hframe]
    dsimp only [sendSpinelFrame]
    rw [app_sendAttempts]
    rfl

theorem key_packetCallback (answers : Answers) (app : PacketApp) (value : List UInt8) :
    (packetCallback encryptBlock answers app value).1.app.key = app.key := by
  have hreply : ∀ (attempts : Nat) (frame : IEEE802154Frame)
      (place : AppState → AppState × Option DecryptedZigbeeNwkFrame),
      (∀ state, (place state).1 = state.increment) →
      (sendReply encryptBlock answers attempts frame place (.start app)).1.app.key = app.key := by
    intro attempts frame place hplace
    rw [app_sendReply, hplace]
    rfl
  rw [packetCallback]
  split
  · rfl
  · rfl
  next r _ =>
    rw [handleFrame_eq]
    split
    · exact hreply 5 r.ieeeFrame (AppState.sendRouteReply r.nwkFrame.nwkHeader) (fun _ => rfl)
    next aps hrequest =>
      have htype := DecryptedZigbeeNwkFrame.frameType_of_request hrequest
      have hsent := hreply 1 r.ieeeFrame (AppState.sendApsAck r.nwkFrame.nwkHeader aps)
        (fun _ => rfl)
      cases hrequested : aps.frameControl.ackRequest with
      | false =>
        rw [handleAps_deliver encryptBlock answers r htype hrequested]
        rfl
      | true =>
        rcases handleAps_ack encryptBlock answers r htype hrequested (.start app) with heq | heq
        · rw [heq]
          exact hsent
        · rw [heq]
          exact hsent
    · rfl

/-! ## Runs -/

variable {ι : Type}

/-- What a frame in the air may be, after these actions. -/
def AirFrame.Justified (key : Key) (actions : List (NetworkAction ι)) (frame : AirFrame ι) : Prop :=
  match frame.origin with
  | .packet node packet => .sendPacket node packet ∈ actions ∧
      ∃ ieeeFrame panId nwk decrypted aps, parseFrame frame.value = .ok ieeeFrame ∧
        CarriesPacket encryptBlock key panId packet ieeeFrame nwk decrypted aps
  | .reply _ => Inert encryptBlock key frame.value
  | .foreign => Regular frame.value

/-- What a delivered packet may be, after these actions. -/
def DeliveredPacket.Justified (actions : List (NetworkAction ι)) (delivered : DeliveredPacket ι) :
    Prop :=
  match delivered.origin with
  | .packet node packet => .sendPacket node packet ∈ actions ∧
      delivered.packet.Carries packet.toZigbeePacket
  | .reply _ => False
  | .foreign => True

/-- The invariant of a network whose nodes have one key. -/
structure Network.Safe (key : Key) (actions : List (NetworkAction ι)) (net : Network ι) : Prop where
  keys : ∀ node, (net.nodes node).key = key
  air : ∀ frame ∈ net.air, frame.Justified encryptBlock key actions
  delivered : ∀ packet ∈ net.delivered, packet.Justified actions

variable {encryptBlock} {key : Key} {actions actions' : List (NetworkAction ι)}

theorem AirFrame.Justified.mono {frame : AirFrame ι} (h : frame.Justified encryptBlock key actions)
    (hsub : actions ⊆ actions') : frame.Justified encryptBlock key actions' := by
  rcases frame with ⟨origin, value⟩
  cases origin with
  | packet node packet => exact ⟨hsub h.1, h.2⟩
  | reply node => exact h
  | foreign => exact h

theorem DeliveredPacket.Justified.mono {delivered : DeliveredPacket ι} (h : delivered.Justified actions)
    (hsub : actions ⊆ actions') : delivered.Justified actions' := by
  rcases delivered with ⟨node, origin, packet⟩
  cases origin with
  | packet node packet => exact ⟨hsub h.1, h.2⟩
  | reply node => exact h
  | foreign => exact h

/-- A frame that is not a reply is answered by inert replies, and delivers what it may. -/
theorem AirFrame.Justified.received {frame : AirFrame ι}
    (h : frame.Justified encryptBlock key actions) {value : List UInt8}
    (hreported : Reported frame.value value) {app : PacketApp} (hkey : app.key = key)
    (answers : Answers) (node : ι) :
    let s := (packetCallback encryptBlock answers app value).1
    (∀ sent ∈ s.transmitted, Inert encryptBlock key sent) ∧
      ∀ p ∈ s.received, DeliveredPacket.Justified actions
        { node := node, origin := frame.origin, packet := p } := by
  have hregular : Regular frame.value → ∀ sent ∈ (packetCallback encryptBlock answers app
      value).1.transmitted, Inert encryptBlock key sent := by
    intro hvalue sent hmem
    rw [← hkey]
    exact inert_of_transmitted encryptBlock (hvalue.reported hreported) hmem
  rcases frame with ⟨origin, sent⟩
  cases origin with
  | packet sender packet =>
    obtain ⟨haction, ieeeFrame, panId, nwk, decrypted, aps, hparse, hcarries⟩ := h
    refine ⟨hregular (hcarries.regular hparse), ?_⟩
    intro p hmem
    exact ⟨haction, hcarries.carries_of_received hkey
      ((parseFrame_reported hreported).trans hparse) hmem⟩
  | reply sender =>
    have hinert := h value hreported app answers hkey
    rw [hinert]
    refine ⟨?_, ?_⟩
    · rintro sent' ⟨⟩
    · rintro p ⟨⟩
  | foreign => exact ⟨hregular h, fun p _ => trivial⟩

variable [DecidableEq ι]

/-- A node has run a coroutine that sends and delivers only what may be. -/
theorem Network.Safe.after {net : Network ι} (h : net.Safe encryptBlock key actions)
    (hsub : actions ⊆ actions') {node : ι} {sends delivers : Origin ι} {s : CallbackState}
    (hkey : s.app.key = key)
    (hair : ∀ value ∈ s.transmitted, AirFrame.Justified encryptBlock key actions'
      { origin := sends, value := value })
    (hdelivered : ∀ packet ∈ s.received, DeliveredPacket.Justified actions'
      { node := node, origin := delivers, packet := packet }) :
    (net.after node sends delivers s).Safe encryptBlock key actions' where
  keys other := by
    change (Function.update net.nodes node s.app other).key = key
    by_cases heq : other = node
    · rw [heq, Function.update_self, hkey]
    · rw [Function.update_of_ne heq, h.keys]
  air frame hmem := by
    rcases List.mem_append.mp hmem with hold | hnew
    · exact (h.air frame hold).mono hsub
    · obtain ⟨value, hvalue, rfl⟩ := List.mem_map.mp hnew
      exact hair value hvalue
  delivered packet hmem := by
    rcases List.mem_append.mp hmem with hold | hnew
    · exact (h.delivered packet hold).mono hsub
    · obtain ⟨received, hreceived, rfl⟩ := List.mem_map.mp hnew
      exact hdelivered received hreceived

theorem Network.safe_step {net net' : Network ι} {action : NetworkAction ι}
    (h : net.Safe encryptBlock key actions) (hstep : Network.Step encryptBlock net action net') :
    net'.Safe encryptBlock key (actions ++ [action]) := by
  have hsub : actions ⊆ actions ++ [action] := List.subset_append_left actions [action]
  cases hstep with
  | sendPacket node packet answers =>
    have haction : NetworkAction.sendPacket node packet ∈
        actions ++ [NetworkAction.sendPacket node packet] :=
      List.mem_append_right actions (List.mem_singleton.mpr rfl)
    refine h.after hsub ((key_sendPacket encryptBlock _ _ _).trans (h.keys node)) ?_ ?_
    · intro value hmem
      obtain ⟨frame, nwk, decrypted, aps, hparse, hcarries⟩ :=
        carriesPacket_of_transmitted encryptBlock hmem
      rw [h.keys node] at hcarries
      exact ⟨haction, frame, _, nwk, decrypted, aps, hparse, hcarries⟩
    · intro received hmem
      rw [received_sendPacket] at hmem
      cases hmem
  | receive node answers hair hreported =>
    obtain ⟨hsent, hdelivered⟩ := (h.air _ hair).received hreported (h.keys node) answers node
    exact h.after hsub ((key_packetCallback encryptBlock _ _ _).trans (h.keys node)) hsent
      (fun packet hmem => (hdelivered packet hmem).mono hsub)
  | foreign hregular =>
    refine ⟨h.keys, ?_, fun packet hmem => (h.delivered packet hmem).mono hsub⟩
    intro frame hmem
    rcases List.mem_append.mp hmem with hold | hnew
    · exact (h.air frame hold).mono hsub
    · rw [List.mem_singleton] at hnew
      subst hnew
      exact hregular

/-- In every run of a network whose nodes have one key, a packet reaches `zigpy` only with the
    fields of one that some node was given to send, or out of a frame of a device of another
    kind, and no node with the key does anything about a reply. -/
theorem network_safe {nodes : ι → PacketApp} {net : Network ι}
    (h : Run (Network.Step encryptBlock) (.new nodes) actions net)
    (hkeys : ∀ node, (nodes node).key = key) :
    (∀ delivered ∈ net.delivered, delivered.origin = .foreign ∨
      ∃ node packet, delivered.origin = .packet node packet ∧ .sendPacket node packet ∈ actions ∧
        delivered.packet.Carries packet.toZigbeePacket) ∧
      ∀ frame ∈ net.air, ∀ node, frame.origin = .reply node →
        Inert encryptBlock key frame.value := by
  have hsafe : net.Safe encryptBlock key actions :=
    h.inv_labels (Network.Safe encryptBlock key) (fun _ _ _ _ hs hstep => Network.safe_step hs hstep)
      ⟨hkeys, by rintro frame ⟨⟩, by rintro packet ⟨⟩⟩
  constructor
  · rintro ⟨receiver, origin, received⟩ hmem
    have hjustified := hsafe.delivered _ hmem
    cases origin with
    | packet node packet => exact .inr ⟨node, packet, rfl, hjustified.1, hjustified.2⟩
    | reply node => exact hjustified.elim
    | foreign => exact .inl rfl
  · rintro ⟨origin, value⟩ hmem node rfl
    exact hsafe.air _ hmem

/-- The coordinator and the node `0x1234`. -/
def onOffNodes : Bool → PacketApp
  | false => .loadNetworkInfo 0
  | true => onOffReceiver

/-- The coordinator has sent the packet. -/
def onOffInAir : Network Bool :=
  (Network.new onOffNodes).after false (.packet false onOffPacket) (.packet false onOffPacket)
    (sendPacket coordinatorAes okAnswers onOffPacket (.start (.loadNetworkInfo 0))).1

/-- The node has received and acknowledged it. -/
def onOffAcknowledged : Network Bool :=
  onOffInAir.after true (.reply true) (.packet false onOffPacket)
    (packetCallback coordinatorAes okAnswers onOffReceiver onOffReported).1

theorem run_onOff : Run (Network.Step coordinatorAes) (.new onOffNodes)
    [.sendPacket false onOffPacket,
      .receive true { origin := .packet false onOffPacket, value := onOffSent }]
    onOffAcknowledged := by
  have hair : { origin := .packet false onOffPacket, value := onOffSent } ∈ onOffInAir.air :=
    List.mem_append_right _ (List.mem_map_of_mem mem_onOffSent)
  exact .cons (.sendPacket (.new onOffNodes) false onOffPacket okAnswers)
    (.single (.receive onOffInAir true okAnswers hair reported_onOff))

/-- What the node gives to its radio as the acknowledgement. -/
def onOffAck : List UInt8 :=
  (packetCallback coordinatorAes okAnswers onOffReceiver onOffReported).1.transmitted.headD []

theorem mem_onOffAck :
    onOffAck ∈ (packetCallback coordinatorAes okAnswers onOffReceiver onOffReported).1.transmitted := by
  decide +kernel

theorem network_safe_onOff :
    Inert coordinatorAes (PacketApp.loadNetworkInfo 0).key onOffAck := by
  have hkeys : ∀ node, (onOffNodes node).key = (PacketApp.loadNetworkInfo 0).key := by
    intro node
    cases node <;> rfl
  have hair : { origin := .reply true, value := onOffAck } ∈ onOffAcknowledged.air :=
    List.mem_append_right _ (List.mem_map_of_mem mem_onOffAck)
  generalize onOffAck = value at hair ⊢
  exact (network_safe run_onOff hkeys).2 _ hair true rfl

end ZigpySpinel.Python
