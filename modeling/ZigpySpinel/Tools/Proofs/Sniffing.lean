import ZigpySpinel.Lib.Pcap
import ZigpySpinel.Python.Proofs.CrossReading
import ZigpySpinel.Python.Sniffer
import ZigpySpinel.Tools.Proofs.DumpPcap

/-!
# From the application over the sniffer to the capture tool

The radio of the sniffer hears what applications send, and may replace the check sequence of a
frame. The sniffer computes it again, so that its file holds the frames as they were sent. The
capture tool then decrypts every one of them, if its keys are among those it has loaded.
-/

namespace ZigpySpinel.Tools
open Lib Zigbee Ieee802154 Python

/-! ## The file -/

/-- A radio reports a frame that was sent, with another check sequence and metadata. -/
def Overheard (sent value : List UInt8) : Prop :=
  ∃ length body fcs fcs' params metadata, length.toNat = body.length + 2 ∧ fcs.length = 2 ∧
    fcs'.length = 2 ∧ sent = u16ToLeBytes length ++ (body ++ fcs) ++ params ∧
    value = u16ToLeBytes length ++ (body ++ fcs') ++ metadata

theorem ieee154Fcs_eq (data : List UInt8) :
    ieee154Fcs data = .ok (u16ToLeBytes (Ieee802154Frame.computeFcs data)) :=
  IEEE802154Frame.computeFcs_eq_toLeBytes data

/-- The sniffer gets back a frame with a right check sequence. -/
theorem sniffedFrame_of_overheard {sent value bytes params : List UInt8} {length : UInt16}
    (hsent : sent = u16ToLeBytes length ++ bytes ++ params) (hlength : length.toNat = bytes.length)
    {frame : Ieee802154Frame} (hframe : Ieee802154Frame.fromBytes bytes = .ok frame)
    (h : Overheard sent value) : sniffedFrame value = .ok bytes := by
  obtain ⟨length', body, fcs, fcs', params', metadata, hcount, hfcs, hfcs', rfl, rfl⟩ := h
  rw [List.append_assoc (u16ToLeBytes length'), List.append_assoc (u16ToLeBytes length)] at hsent
  obtain ⟨hsame, hrest⟩ := List.append_inj hsent (by simp)
  have hlength' : length' = length := u16ToLeBytes_inj hsame
  subst hlength'
  obtain ⟨hbytes, -⟩ := List.append_inj hrest (by rw [List.length_append, hfcs]; omega)
  obtain ⟨-, hwritten⟩ := Ieee802154Frame.of_fromBytes hframe
  rw [← hbytes, Ieee802154Frame.toBytes] at hwritten
  obtain ⟨hbody, hright⟩ := List.append_inj' hwritten (by simp [hfcs])
  have hframeLength : (body ++ fcs').length = length'.toNat := by
    rw [List.length_append, hfcs', hcount]
  have htake : (body ++ fcs').take ((body ++ fcs').length - 2) = body := by
    rw [List.length_append, hfcs', Nat.add_sub_cancel, List.take_left]
  rw [List.append_assoc]
  simp only [sniffedFrame, codec_uint16.read trivial, bind, Except.bind, ← hframeLength,
    List.take_left, htake, ieee154Fcs_eq]
  rw [← hbytes, ← hright, hbody]

/-- The file of the sniffer holds the frames that it gets from the values. -/
theorem sniffLoop_records {values : List QueuedValue} {frames : List (List UInt8)}
    (h : List.Forall₂ (fun queued frameData => sniffedFrame queued.value = .ok frameData ∧
      frameData.length < 2 ^ 32) values frames) (writer : PcapWriter) :
    ∃ records : List Pcap.Record, records.map (·.data) = frames ∧
      sniffLoop writer values = (⟨writer.fdesc ++ records.flatMap Pcap.Record.toBytes⟩, .ok ()) := by
  induction h generalizing writer with
  | nil => exact ⟨[], rfl, by rw [List.flatMap_nil, List.append_nil]; rfl⟩
  | @cons queued frameData values frames hfirst _ ih =>
    obtain ⟨hframe, hfits⟩ := hfirst
    obtain ⟨records, hdata, hloop⟩ :=
      ih (writer.writePacket frameData queued.timestampSec queued.timestampUsec)
    refine ⟨⟨queued.timestampSec, queued.timestampUsec, frameData, hfits⟩ :: records,
      congrArg (frameData :: ·) hdata, ?_⟩
    rw [sniffLoop, hframe]
    dsimp only
    rw [hloop]
    simp only [PcapWriter.writePacket, PcapWriter.write, packL, List.flatMap_cons,
      Pcap.Record.toBytes, List.append_assoc]

theorem writeHeader_eq (linktype : UInt32) :
    (PcapWriter.init.writeHeader linktype).fdesc = Pcap.header 65535 linktype := by
  simp only [PcapWriter.writeHeader, PcapWriter.write, PcapWriter.init, packL, packH, Pcap.header,
    List.nil_append]

/-! ## Frames that are decrypted -/

variable (aes : Aes128) (keys : List Key)

/-- The data is an unsecured data frame around a network frame that one of the keys decrypts. -/
structure Decrypted (frameData : List UInt8) (frame : Ieee802154Frame) (nwk decrypted : NwkFrame)
    (key : Key) : Prop where
  fromBytes : Ieee802154Frame.fromBytes frameData = .ok frame
  unsecured : frame.frameControl.securityEnabled = false
  frameType : frame.frameControl.frameType = .data
  nwkFrame : NwkFrame.fromBytes frame.payload = .ok nwk
  encrypted : nwk.encrypted = true
  mem : key ∈ keys
  decrypts : nwk.decrypt aes key = .ok decrypted

section Decrypted

variable {aes keys} {frameData : List UInt8} {frame : Ieee802154Frame} {nwk decrypted : NwkFrame}
  {key : Key}

theorem Decrypted.readFrame_eq (h : Decrypted aes keys frameData frame nwk decrypted key) :
    readFrame true frameData = .ok frame := by
  rw [readFrame, if_pos rfl, h.fromBytes]

theorem Decrypted.harmless (h : Decrypted aes keys frameData frame nwk decrypted key) :
    Harmless keys true frameData := by
  refine ⟨frame, h.readFrame_eq, fun _ _ => ?_⟩
  rw [h.nwkFrame]
  refine ⟨Outcome.noPanic_ok nwk, ?_⟩
  rintro _ ⟨⟩ hencrypted -
  refine (noPanic_decrypt_encrypted_iff aes key (wellFormed_of_fromBytes h.nwkFrame)
    hencrypted).mp ?_
  rw [h.decrypts]
  exact Outcome.noPanic_ok decrypted

theorem Decrypted.counted (h : Decrypted aes keys frameData frame nwk decrypted key) :
    nwkFrameOf true frameData = some nwk ∧ decryptable aes keys nwk = true := by
  constructor
  · have hsecured : ¬ frame.frameControl.securityEnabled = true := by simp [h.unsecured]
    rw [nwkFrameOf, h.readFrame_eq]
    dsimp only
    rw [networkFrame, if_neg hsecured, if_neg (not_not.mpr h.frameType), h.nwkFrame]
  · rw [decryptable, Bool.or_eq_true_iff, List.any_eq_true]
    exact .inr ⟨key, h.mem, decide_eq_true ⟨decrypted, h.decrypts⟩⟩

end Decrypted

/-- What was sent by an application whose key is among the keys. -/
def SentWith (sent : List UInt8) : Prop :=
  ∃ app packet answers, app.key ∈ keys ∧
    sent ∈ (sendPacket aes.encryptBlock answers packet (.start app)).1.transmitted

/-- A value that the sniffer gets from what was sent. -/
def HeardFrom (queued : QueuedValue) : Prop :=
  ∃ sent, SentWith aes keys sent ∧ Overheard sent queued.value

/-- The frame of `onOffPacket` with another check sequence, and the strength of the signal. -/
def onOffQueued : QueuedValue where
  value := u16ToLeBytes 0x30 ++ (onOffFrame.take 46 ++ [0xc8, 0x80]) ++ [0xc8]
  timestampSec := 1700000000
  timestampUsec := 250

theorem overheard_onOff : Overheard onOffSent onOffQueued.value :=
  ⟨0x30, onOffFrame.take 46, onOffFrame.drop 46, [0xc8, 0x80], _, [0xc8], rfl, rfl, rfl, rfl, rfl⟩

end ZigpySpinel.Tools
