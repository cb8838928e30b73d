import ZigpySpinel.Python.Proofs.CaptureCheck
import ZigpySpinel.Python.Proofs.EndToEnd
import ZigpySpinel.Tools.Proofs.Sniffing

/-!
# From the application over the sniffer to the script

What applications of a network send passes the script that checks captures: it is written as it
was read and encrypted as it was decrypted, and the script prints the packet in it.
-/

namespace ZigpySpinel.Tools
open Lib Zigbee Python

/-! ## The output for packets that may be printed -/

section Output

variable {encryptBlock : Key → Block → Block} {keys : NetworkKeys}

/-- If something may be printed for each packet, something is, with the numbers in order. -/
theorem prints_all {index : Nat} {packets : List (List UInt8)}
    {out : List (Nat × DecryptedZigbeeNwkFrame × ZigbeeApsFrame)}
    (h : Prints encryptBlock keys index packets out)
    (hall : ∀ packet ∈ packets, ∃ f aps, Printable encryptBlock keys packet f aps) :
    out.map (·.1) = List.range' (index + 1) packets.length ∧
      List.Forall₂ (fun packet printed => Printable encryptBlock keys packet printed.2.1 printed.2.2)
        packets out := by
  induction h with
  | nil index => exact ⟨rfl, .nil⟩
  | @cons index packet packets out rest hpacket hrest ih =>
    obtain ⟨hnumbers, hrests⟩ := ih fun packet hmem => hall packet (List.mem_cons_of_mem _ hmem)
    cases hpacket with
    | nothing hnone =>
      obtain ⟨f, aps, hprintable⟩ := hall packet List.mem_cons_self
      exact absurd hprintable (hnone f aps)
    | frame hprintable =>
      refine ⟨?_, .cons hprintable hrests⟩
      rw [List.map_append, hnumbers, List.length_cons, List.range'_succ]
      rfl

end Output

/-! ## What was sent -/

variable (aes : Aes128) (keys : NetworkKeys)

/-- The frame that an application sent is written again as it was. -/
theorem writtenAsRead_of_transmitted {answers : Answers} {packet : OutgoingPacket} {app : PacketApp}
    {sent : List UInt8}
    (h : sent ∈ (sendPacket aes.encryptBlock answers packet (.start app)).1.transmitted) :
    ∃ length bytes params rust ieeeFrame, sent = u16ToLeBytes length ++ bytes ++ params ∧
      length.toNat = bytes.length ∧ params.length = 10 ∧
      Ieee802154.Ieee802154Frame.fromBytes bytes = .ok rust ∧ parseFrame sent = .ok ieeeFrame ∧
      IEEE802154Frame.fromBytes bytes = .ok ieeeFrame ∧ WrittenAsRead bytes := by
  obtain ⟨frame, hframe, hvalue⟩ := mem_transmitted_sendPacket aes.encryptBlock h
  obtain ⟨sequenceNumber, built, encrypted, payload, -, -, -, rfl⟩ :=
    packetIeeeFrame_eq_ok aes.encryptBlock hframe
  obtain ⟨length, bytes, params, hbytes, rfl, hlength, hparams⟩ := layout_of_streamRawValue hvalue
  obtain ⟨rust, hrust, -⟩ := rust_fromBytes_short hbytes
  obtain ⟨fcs, hread⟩ := fromBytes_serialize_short hbytes
  have hparse : parseFrame (u16ToLeBytes length ++ bytes ++ params) =
      IEEE802154Frame.fromBytes bytes := by
    simp only [parseFrame, List.append_assoc, codec_uint16.read trivial, bind, Except.bind, hlength,
      List.take_left]
  exact ⟨length, bytes, params, rust, _, rfl, hlength, hparams, hrust, hparse.trans hread, hread,
    (IEEE802154Frame.writtenAsRead_iff hread).mp hbytes⟩

/-- What is printed is a packet that an application with this key was asked to send, and that the
    sniffer overheard. -/
def PrintedAsSent (key : Key) (queued : QueuedValue) (f : DecryptedZigbeeNwkFrame)
    (aps : ZigbeeApsFrame) : Prop :=
  ∃ sent app packet answers, app.key = key ∧
    sent ∈ (sendPacket aes.encryptBlock answers packet (.start app)).1.transmitted ∧
    Overheard sent queued.value ∧
    (receivedPacket f.nwkHeader aps).Carries packet.toZigbeePacket

/-- What the script does with an overheard frame. -/
structure CheckedAs (key : Key) (queued : QueuedValue) (frameData : List UInt8) : Prop where
  sniffed : sniffedFrame queued.value = .ok frameData
  fits : frameData.length < 0x10000
  passes : Passes aes.encryptBlock keys frameData
  printable : ∃ f aps, Printable aes.encryptBlock keys frameData f aps
  printed : ∀ f aps, Printable aes.encryptBlock keys frameData f aps →
    PrintedAsSent aes key queued f aps

section OneKey

variable {aes keys} {key : Key}

/-- With the key of the network alone, a frame that carries a packet is decrypted to it. -/
theorem checked_of_carriesPacket {panId : UInt16} {packet : OutgoingPacket} {frame : IEEE802154Frame}
    {nwk : EncryptedZigbeeNwkFrame} {decrypted : DecryptedZigbeeNwkFrame} {aps : ZigbeeApsFrame}
    (h : CarriesPacket aes.encryptBlock key panId packet frame nwk decrypted aps)
    (hsome : keys.entries ≠ []) (hkeys : ∀ entry ∈ keys.entries, entry.2 = key) :
    NwkPasses aes.encryptBlock keys nwk ∧ NwkPrintable aes.encryptBlock keys nwk decrypted aps ∧
      ∀ f aps', NwkPrintable aes.encryptBlock keys nwk f aps' → f = decrypted ∧ aps' = aps := by
  have hwf := (ZigbeeNwkFrame.of_fromBytes h.nwkFrame).1
  obtain ⟨g, -, -, hlength, hheader⟩ := EncryptedZigbeeNwkFrame.encrypt_of_decrypt hwf h.decrypts
  have hpayload := ZigbeeApsFrame.length_serialize aps
  rw [← h.holds.payload, hlength] at hpayload
  have hread : ZigbeeApsFrame.fromBytes decrypted.payload = .ok aps := by
    rw [h.holds.payload, ZigbeeApsFrame.fromBytes_serialize]
  obtain ⟨entry, hmem⟩ := List.exists_mem_of_ne_nil _ hsome
  refine ⟨?_, ⟨⟨entry, hmem, ?_⟩, h.holds.nwkType, hread⟩, ?_⟩
  · exact {
      someKey := hsome
      tryable := EncryptedZigbeeNwkFrame.tryable_of_decides (.inl ⟨_, h.decrypts⟩)
      wholeTag := fun _ => by omega
      wholeHeader := fun _ _ => by omega }
  · rw [hkeys entry hmem, h.decrypts]
  · rintro f aps' ⟨⟨entry', hmem', hdecrypt⟩, -, hread'⟩
    rw [hkeys entry' hmem', h.decrypts] at hdecrypt
    cases hdecrypt
    rw [hread] at hread'
    cases hread'
    exact ⟨rfl, rfl⟩

theorem exists_checked (hsome : keys.entries ≠ []) (hkeys : ∀ entry ∈ keys.entries, entry.2 = key)
    {queued : QueuedValue} (h : HeardFrom aes [key] queued) :
    ∃ frameData, CheckedAs aes keys key queued frameData := by
  obtain ⟨sent, ⟨app, packet, answers, hkey, hsent⟩, hheard⟩ := h
  have hkey' := List.mem_singleton.mp hkey
  obtain ⟨length, bytes, params, rust, ieeeFrame, hlayout, hlength, hparams, hrust, hparse, hread,
    hwritten⟩ := writtenAsRead_of_transmitted aes hsent
  obtain ⟨frame, nwk, decrypted, aps, hparse', hcarries⟩ :=
    carriesPacket_of_transmitted aes.encryptBlock hsent
  rw [hparse] at hparse'
  cases hparse'
  rw [hkey'] at hcarries
  obtain ⟨hpasses, hprintable, honly⟩ := checked_of_carriesPacket hcarries hsome hkeys
  have htype : ieeeFrame.frameControl.frameType = .data := by
    rw [hcarries.frameControl]
    rfl
  refine ⟨bytes, {
    sniffed := sniffedFrame_of_overheard hlayout hlength hrust hheard
    fits := hlength ▸ length.toNat_lt
    passes := ⟨ieeeFrame, hread, hwritten, fun _ => ⟨nwk, hcarries.nwkFrame, hpasses⟩⟩
    printable := ⟨decrypted, aps, ieeeFrame, nwk, hread, htype, hcarries.nwkFrame, hprintable⟩
    printed := ?_ }⟩
  rintro f aps' ⟨ieeeFrame', nwk', hread', -, hnwk', hprint⟩
  rw [hread] at hread'
  cases hread'
  rw [hcarries.nwkFrame] at hnwk'
  cases hnwk'
  obtain ⟨rfl, rfl⟩ := honly f aps' hprint
  exact ⟨sent, app, packet, answers, hkey', hsent, hheard, hcarries.holds.fields⟩

end OneKey

/-- The reader of the script gives the packets of a file in order, if none is longer than the
    file says. -/
def ReadsPackets (reader : List UInt8 → List (List UInt8)) : Prop :=
  ∀ (snapshotLength linkType : UInt32) (records : List Pcap.Record),
    (∀ record ∈ records, record.data.length ≤ snapshotLength.toNat) →
    reader (Pcap.file snapshotLength linkType records) = records.map (·.data)

/-- Whatever applications of a network send: the sniffer writes each of the frames that it hears to
    its file, and the script with the key of the network goes through the file and prints for every
    frame, with its number, the packet that was sent. -/
theorem overheard_checked {reader : List UInt8 → List (List UInt8)} (hreader : ReadsPackets reader)
    {key : Key} (hsome : keys.entries ≠ []) (hkeys : ∀ entry ∈ keys.entries, entry.2 = key)
    {values : List QueuedValue} (h : ∀ queued ∈ values, HeardFrom aes [key] queued) :
    (sniff values).2 = .ok () ∧
      ∃ s, checkCaptures aes.encryptBlock keys [reader (sniff values).1.fdesc] = .ok s ∧
        s.printed.map (·.1) = List.range' 1 values.length ∧
        List.Forall₂ (fun queued printed => PrintedAsSent aes key queued printed.2.1 printed.2.2)
          values s.printed := by
  choose! frameOf hchecked using fun queued hmem => exists_checked hsome hkeys (h queued hmem)
  have hframes : List.Forall₂ (fun queued frameData => sniffedFrame queued.value = .ok frameData ∧
      frameData.length < 2 ^ 32) values (values.map frameOf) := by
    refine List.forall₂_map_right_iff.mpr (List.forall₂_same.mpr fun queued hmem => ?_)
    have hfits := (hchecked queued hmem).fits
    exact ⟨(hchecked queued hmem).sniffed, by omega⟩
  obtain ⟨records, hrecords, hloop⟩ :=
    sniffLoop_records hframes (PcapWriter.init.writeHeader 195)
  rw [writeHeader_eq] at hloop
  have hsniff : sniff values = (⟨Pcap.file 65535 195 records⟩, .ok ()) := hloop
  have hpackets : reader (Pcap.file 65535 195 records) = values.map frameOf := by
    rw [hreader, hrecords]
    intro record hmem
    have hdata := List.mem_map_of_mem (f := fun r : Pcap.Record => r.data) hmem
    rw [hrecords] at hdata
    obtain ⟨queued, hqueued, hsame⟩ := List.mem_map.mp hdata
    rw [← hsame]
    exact Nat.le_of_lt_succ (hchecked queued hqueued).fits
  rw [hsniff, hpackets]
  refine ⟨rfl, ?_⟩
  have hspec := checkFiles_spec (s := { networkKeys := keys, printed := [] }) aes.encryptBlock
    (List.Perm.refl keys.entries) [values.map frameOf]
  obtain ⟨s, hs⟩ := hspec.1.mpr (by
    intro packets hfile packet hmem
    rw [List.mem_singleton.mp hfile] at hmem
    obtain ⟨queued, hqueued, rfl⟩ := List.mem_map.mp hmem
    exact (hchecked queued hqueued).passes)
  obtain ⟨-, outs, houts, hprinted⟩ := hspec.2 s hs
  cases houts with
  | cons hout hnil =>
    cases hnil
    rw [List.flatten_singleton, List.nil_append] at hprinted
    obtain ⟨hnumbers, hall⟩ := prints_all hout (by
      intro packet hmem
      obtain ⟨queued, hqueued, rfl⟩ := List.mem_map.mp hmem
      exact (hchecked queued hqueued).printable)
    refine ⟨s, hs, ?_, ?_⟩
    · rw [hprinted, hnumbers, List.length_map]
    · rw [hprinted]
      have hboth := (List.forall₂_and_left values _).mpr
        ⟨fun _ hmem => hmem, List.forall₂_map_left_iff.mp hall⟩
      exact hboth.imp fun queued printed h => (hchecked queued h.1).printed _ _ h.2

/-- A reader that returns the data of the records. -/
def pcapPackets (bytes : List UInt8) : List (List UInt8) :=
  match Pcap.read bytes with
  | some records => records.map (·.data)
  | none => []

theorem readsPackets_pcapPackets : ReadsPackets pcapPackets := by
  intro snapshotLength linkType records _
  rw [pcapPackets, Pcap.read_file]

/-- The key of the network under a name. -/
def onOffKeys : NetworkKeys := AList.singleton "network" (PacketApp.loadNetworkInfo 0).key

theorem heardFrom_onOffKey : HeardFrom (Aes128.ofBlockFunction coordinatorAes)
    [(PacketApp.loadNetworkInfo 0).key] onOffQueued :=
  ⟨onOffSent, ⟨.loadNetworkInfo 0, onOffPacket, okAnswers, List.mem_cons_self, mem_onOffSent⟩,
    overheard_onOff⟩

theorem overheard_checked_onOff :
    ∃ s, checkCaptures (Aes128.ofBlockFunction coordinatorAes).encryptBlock onOffKeys
        [pcapPackets (sniff [onOffQueued, onOffQueued]).1.fdesc] = .ok s ∧
      s.printed.map (·.1) = [1, 2] := by
  have hheard : ∀ queued ∈ [onOffQueued, onOffQueued], HeardFrom (Aes128.ofBlockFunction coordinatorAes)
      [(PacketApp.loadNetworkInfo 0).key] queued := by
    intro queued hmem
    have hsame : queued = onOffQueued := by simpa using hmem
    rw [hsame]
    exact heardFrom_onOffKey
  obtain ⟨-, s, hs, hnumbers, -⟩ := overheard_checked (Aes128.ofBlockFunction coordinatorAes) onOffKeys
    readsPackets_pcapPackets (List.cons_ne_nil _ _)
    (fun _ hmem => List.mem_singleton.mp hmem ▸ rfl) hheard
  exact ⟨s, hs, hnumbers⟩

end ZigpySpinel.Tools
