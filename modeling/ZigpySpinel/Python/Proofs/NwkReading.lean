import ZigpySpinel.Python.Proofs.NwkDecoding
import ZigpySpinel.Zigbee.Proofs.NwkNoPanic

/-!
# What the Rust package reads of what the Python package reads

The Python package has a name for every type and every route discovery of a network frame, the
Rust package for three of the four values each. But for these, every frame that the Python
package reads is a frame of the Rust package. And what the one encrypts, the other decrypts.
-/

namespace ZigpySpinel.Zigbee
open Lib

/-! ## Headers -/

/-- The frame controls that the Rust package has names for. -/
def NwkNamed (control : Python.ZigbeeNwkFrameControl) : Prop :=
  control.frameType ≠ .undefined0x02 ∧ control.discoverRoute ≠ .undefined0x03

theorem NwkFrameType.toPython_ne (frameType : NwkFrameType) :
    frameType.toPython ≠ .undefined0x02 := by
  cases frameType <;> decide

theorem NwkRouteDiscovery.toPython_ne (discoverRoute : NwkRouteDiscovery) :
    discoverRoute.toPython ≠ .undefined0x03 := by
  cases discoverRoute <;> decide

theorem NwkFrameType.exists_toPython {frameType : Python.ZigbeeNwkFrameType}
    (h : frameType ≠ .undefined0x02) : ∃ rust : NwkFrameType, rust.toPython = frameType := by
  cases frameType with
  | data => exact ⟨.data, rfl⟩
  | command => exact ⟨.command, rfl⟩
  | undefined0x02 => exact absurd rfl h
  | undefined0x03 => exact ⟨.interpan, rfl⟩

theorem NwkRouteDiscovery.exists_toPython {discoverRoute : Python.ZigbeeNwkRouteDiscovery}
    (h : discoverRoute ≠ .undefined0x03) :
    ∃ rust : NwkRouteDiscovery, rust.toPython = discoverRoute := by
  cases discoverRoute with
  | suppress => exact ⟨.suppress, rfl⟩
  | enable => exact ⟨.enable, rfl⟩
  | withMulticast => exact ⟨.withMulticast, rfl⟩
  | undefined0x03 => exact absurd rfl h

/-- A bit field is the value of a byte. -/
theorem exists_byte {k : Nat} (hk : k ≤ 8) (bits : BitVec k) :
    ∃ byte : UInt8, byte.toNat < 2 ^ k ∧ BitVec.ofNat k byte.toNat = bits := by
  have hlt : bits.toNat < 2 ^ k := bits.isLt
  have hle : 2 ^ k ≤ 2 ^ 8 := Nat.pow_le_pow_right (by decide) hk
  have hbyte : (UInt8.ofNat bits.toNat).toNat = bits.toNat := by
    rw [UInt8.toNat_ofNat', Nat.mod_eq_of_lt (by omega)]
  refine ⟨UInt8.ofNat bits.toNat, ?_, ?_⟩
  · rw [hbyte]
    exact hlt
  · rw [hbyte, BitVec.ofNat_toNat, BitVec.setWidth_eq]

theorem NwkFrameControl.exists_toPython {control : Python.ZigbeeNwkFrameControl}
    (h : NwkNamed control) : ∃ rust : NwkFrameControl, rust.WellFormed ∧ rust.toPython = control := by
  rcases control with ⟨frameType, protocolVersion, discoverRoute, multicast, security, sourceRoute,
    destination, extendedSource, endDeviceInitiator, reserved⟩
  obtain ⟨rustType, rfl⟩ := NwkFrameType.exists_toPython h.1
  obtain ⟨rustDiscover, rfl⟩ := NwkRouteDiscovery.exists_toPython h.2
  obtain ⟨version, hversion, rfl⟩ := exists_byte (by decide) protocolVersion
  obtain ⟨reservedByte, hreserved, rfl⟩ := exists_byte (by decide) reserved
  exact ⟨{
    frameType := rustType
    protocolVersion := version
    discoverRoute := rustDiscover
    multicast := multicast
    security := security
    sourceRoute := sourceRoute
    destination := destination
    extendedSource := extendedSource
    endDeviceInitiator := endDeviceInitiator
    reserved := reservedByte }, ⟨hversion, hreserved⟩, rfl⟩

theorem NwkHeader.exists_toPython {header : Python.ZigbeeNwkHeader} (hwf : header.WellFormed)
    (hnamed : NwkNamed header.frameControl) :
    ∃ rust : NwkHeader, rust.WellFormed ∧ rust.toPython = header := by
  obtain ⟨control, hcontrol, hsame⟩ := NwkFrameControl.exists_toPython hnamed
  have hflags : header.frameControl.destination = control.destination ∧
      header.frameControl.extendedSource = control.extendedSource ∧
      header.frameControl.multicast = control.multicast ∧
      header.frameControl.sourceRoute = control.sourceRoute := by
    rw [← hsame]
    exact ⟨rfl, rfl, rfl, rfl⟩
  obtain ⟨hdestination, hsource, hmulticast, hroute⟩ := hflags
  obtain ⟨route, hsourceRoute⟩ : ∃ route, header.route = route := ⟨_, rfl⟩
  have hindex := hwf.relayIndex
  have hrelays := hwf.relays
  rw [hsourceRoute] at hindex hrelays
  refine ⟨{
    frameControl := control
    destination := header.destination
    source := header.source
    radius := header.radius
    sequenceNumber := header.sequenceNumber
    destinationIeee := header.destinationIeee
    sourceIeee := header.sourceIeee
    multicastControl := header.multicastControl
    sourceRoute := route.map fun route => {
      relayCount := UInt8.ofNat route.2.length
      relayIndex := route.1
      relays := route.2 } }, {
    frameControl := hcontrol
    destinationIeee := hdestination ▸ hwf.destinationIeee
    sourceIeee := hsource ▸ hwf.sourceIeee
    multicastControl := hmulticast ▸ hwf.multicastControl
    sourceRoute := ?_
    relays := ?_ }, ?_⟩
  · rw [Option.isSome_map, ← hsourceRoute]
    exact hroute ▸ hwf.sourceRoute
  · intro rustRoute hmem
    obtain ⟨pythonRoute, hpython, rfl⟩ := Option.map_eq_some_iff.mp hmem
    have hlt := hwf.fits pythonRoute (hsourceRoute.trans hpython)
    rw [NwkSourceRoute.WellFormed, UInt8.toNat_ofNat', Nat.mod_eq_of_lt (by omega)]
  · rcases header with ⟨_, _, _, _, _, _, _, _, relayIndex, relays⟩
    dsimp only at hsame hindex hrelays
    rw [toPython, hsame, hindex, hrelays, Option.map_map, Option.map_map]
    rfl

theorem NwkSecurityLevel.exists_toPython (level : Python.ZigbeeNwkSecurityLevel) :
    ∃ rust : NwkSecurityLevel, rust.toPython = level := by
  cases level with
  | noSecurity => exact ⟨.noSecurity, rfl⟩
  | aesCbcMac32 => exact ⟨.mic32, rfl⟩
  | aesCbcMac64 => exact ⟨.mic64, rfl⟩
  | aesCbcMac128 => exact ⟨.mic128, rfl⟩
  | aesCtr => exact ⟨.enc, rfl⟩
  | aesCcm32 => exact ⟨.encMic32, rfl⟩
  | aesCcm64 => exact ⟨.encMic64, rfl⟩
  | aesCcm128 => exact ⟨.encMic128, rfl⟩

theorem NwkSecurityHeaderKeyId.exists_toPython (keyId : Python.ZigbeeNwkSecurityHeaderKeyId) :
    ∃ rust : NwkSecurityHeaderKeyId, rust.toPython = keyId := by
  cases keyId with
  | dataKey => exact ⟨.dataKey, rfl⟩
  | networkKey => exact ⟨.networkKey, rfl⟩
  | keyTransportKey => exact ⟨.keyTransportKey, rfl⟩
  | keyLoadKey => exact ⟨.keyLoadKey, rfl⟩

/-- Two reserved bits are a flag and a bit. -/
theorem exists_reserved : ∀ reserved : BitVec 2, ∃ (verified : Bool) (bit : Fin 2),
    BitVec.ofNat 2 (verified.toNat + 2 * (UInt8.ofNat bit).toNat) = reserved := by
  decide

theorem NwkSecurityHeaderControlField.exists_toPython
    (control : Python.ZigbeeNwkSecurityHeaderControlField) :
    ∃ rust : NwkSecurityHeaderControlField, rust.WellFormed ∧ rust.toPython = control := by
  rcases control with ⟨level, keyId, extendedNonce, reserved⟩
  obtain ⟨rustLevel, rfl⟩ := NwkSecurityLevel.exists_toPython level
  obtain ⟨rustKeyId, rfl⟩ := NwkSecurityHeaderKeyId.exists_toPython keyId
  obtain ⟨verified, bit, rfl⟩ := exists_reserved reserved
  have hbit : UInt8.ofNat bit < 2 := by
    revert bit
    decide
  exact ⟨{
    securityLevel := rustLevel
    keyId := rustKeyId
    extendedSource := extendedNonce
    requireVerifiedFrameCounter := verified
    reserved := UInt8.ofNat bit }, hbit, rfl⟩

theorem NwkAuxHeader.exists_toPython {header : Python.ZigbeeNwkAuxHeader}
    (h : header.WellFormed) : ∃ rust : NwkAuxHeader, rust.WellFormed ∧ rust.toPython = header := by
  rcases header with ⟨control, frameCounter, extendedSource, keySequenceNumber⟩
  obtain ⟨rust, hrust, rfl⟩ := NwkSecurityHeaderControlField.exists_toPython control
  exact ⟨{
    securityControl := rust
    frameCounter := frameCounter
    extendedSource := extendedSource
    keySequenceNumber := keySequenceNumber }, ⟨hrust, h⟩, rfl⟩

/-! ## Frames -/

namespace NwkFrame

/-- A frame that the Python package reads is one of the Rust package, if its type and its route
    discovery have a name. -/
theorem exists_toPython {frame : Python.ZigbeeNwkFrame} (hwf : frame.WellFormed)
    (hnamed : NwkNamed frame.nwkHeader.frameControl) :
    ∃ rust : NwkFrame, rust.WellFormed ∧ rust.toPython = frame := by
  obtain ⟨header, hheader, hsame⟩ := NwkHeader.exists_toPython hwf.nwkHeader hnamed
  have haux : ∃ aux : Option NwkAuxHeader, (∀ auxHeader ∈ aux, auxHeader.WellFormed) ∧
      aux.map NwkAuxHeader.toPython = frame.auxHeader := by
    cases haux : frame.auxHeader with
    | none => exact ⟨none, by rintro _ ⟨⟩, rfl⟩
    | some auxHeader =>
      obtain ⟨rust, hrust, rfl⟩ := NwkAuxHeader.exists_toPython (hwf.auxWellFormed auxHeader haux)
      refine ⟨some rust, ?_, rfl⟩
      intro other hother
      cases hother
      exact hrust
  obtain ⟨aux, hauxWf, hauxSame⟩ := haux
  have hsecurity : frame.nwkHeader.frameControl.security = header.frameControl.security := by
    rw [← hsame]
    rfl
  refine ⟨{
    nwkHeader := header
    auxHeader := aux
    payload := frame.payload
    encrypted := header.frameControl.security }, {
      nwkHeader := hheader
      auxHeader := ?_
      auxWellFormed := hauxWf
      encrypted := rfl }, ?_⟩
  · have hflag := hwf.auxHeader
    rw [hsecurity, ← hauxSame, Option.isSome_map] at hflag
    exact hflag
  · rw [toPython, hsame, hauxSame]

/-- The bytes that the Python package reads a frame from are read by the Rust package. -/
theorem fromBytes_body_toPython {frame : NwkFrame} (h : frame.WellFormed) :
    fromBytes frame.toPython.body = .ok frame := by
  have hbody := body_toPython h
  rw [toBytes, NwkHeader.toBytes_eq h.nwkHeader.relays, Outcome.ok_bind] at hbody
  rw [← Outcome.ok.inj hbody]
  have haux := (NwkAuxHeader.codec.optional frame.nwkHeader.frameControl.security).decode_encode
    frame.auxHeader frame.payload ⟨h.auxHeader, h.auxWellFormed⟩
  simp only [fromBytes, List.append_assoc, NwkHeader.codec.decode_encode _ _ h.nwkHeader, haux,
    Outcome.ok_bind]
  rw [← h.encrypted]

/-- What the Python package reads the Rust package reads with the same fields, if type and route
    discovery have a name. -/
theorem rust_fromBytes {bytes : List UInt8} {python : Python.EncryptedZigbeeNwkFrame}
    (h : Python.ZigbeeNwkFrame.fromBytes bytes = .ok python)
    (hnamed : NwkNamed python.nwkHeader.frameControl) :
    ∃ frame : NwkFrame, fromBytes bytes = .ok frame ∧
      frame.toPython = python.toZigbeeNwkFrame := by
  obtain ⟨hwf, rfl⟩ := Python.ZigbeeNwkFrame.of_fromBytes h
  obtain ⟨frame, hframe, hsame⟩ := exists_toPython hwf hnamed
  exact ⟨frame, hsame ▸ fromBytes_body_toPython hframe, hsame⟩

theorem err_of_frameType : ∀ b : UInt8,
    Python.ZigbeeNwkFrameType.ofBits (BitVec.ofNat 2 b.toNat) = .undefined0x02 →
      NwkFrameType.tryFrom ((b >>> 0) &&& 0b11) = .err "Invalid frame type" := by
  decide +kernel

theorem err_of_discoverRoute : ∀ b : UInt8,
    Python.ZigbeeNwkRouteDiscovery.ofBits (BitVec.ofNat 2 (b.toNat / 2 ^ 6)) = .undefined0x03 →
      NwkRouteDiscovery.tryFrom ((b >>> 6) &&& 0b11) = .err "Invalid route discovery" := by
  decide +kernel

/-- A frame control without a name is an error of the Rust package. -/
theorem exists_err {control : Python.ZigbeeNwkFrameControl} (h : ¬ NwkNamed control)
    (rest : List UInt8) : ∃ e, NwkFrameControl.deserialize (control.serialize ++ rest) = .err e := by
  have hread := Python.ZigbeeNwkFrameControl.codec.read (a := control) trivial rest
  rw [NwkNamed, not_and_or, not_not, not_not] at h
  generalize control.serialize ++ rest = bytes at hread ⊢
  rcases bytes with _ | ⟨b0, _ | ⟨b1, bytes⟩⟩
  · cases hread
  · cases hread
  · cases hread
    rw [NwkFrameControl.deserialize]
    rcases h with htype | hdiscover
    · rw [err_of_frameType b0 htype]
      exact ⟨_, rfl⟩
    · rw [err_of_discoverRoute b0 hdiscover]
      cases hframeType : NwkFrameType.tryFrom ((b0 >>> 0) &&& 0b11) with
      | ok frameType => exact ⟨_, rfl⟩
      | err e => exact ⟨e, rfl⟩
      | panic text => exact absurd hframeType (NwkFrameType.noPanic_tryFrom _ text)

/-- What the Python package reads is a frame with the same fields to the Rust package, if type and
    route discovery have a name, and else an error. -/
theorem rust_reads_iff {bytes : List UInt8} {python : Python.EncryptedZigbeeNwkFrame}
    (h : Python.ZigbeeNwkFrame.fromBytes bytes = .ok python) :
    ((∃ frame : NwkFrame, fromBytes bytes = .ok frame ∧ frame.toPython = python.toZigbeeNwkFrame) ↔
      NwkNamed python.nwkHeader.frameControl) ∧
    ((∃ e, fromBytes bytes = .err e) ↔ ¬ NwkNamed python.nwkHeader.frameControl) := by
  have hnamed := rust_fromBytes h
  have herr : ¬ NwkNamed python.nwkHeader.frameControl → ∃ e, fromBytes bytes = .err e := by
    intro hunnamed
    obtain ⟨-, rfl⟩ := Python.ZigbeeNwkFrame.of_fromBytes h
    have hbody : ∃ rest, python.body = python.nwkHeader.frameControl.serialize ++ rest := by
      simp only [Python.ZigbeeNwkFrame.body, Python.ZigbeeNwkHeader.body, List.append_assoc]
      exact ⟨_, rfl⟩
    obtain ⟨rest, hrest⟩ := hbody
    obtain ⟨e, he⟩ := exists_err hunnamed rest
    rw [fromBytes, NwkHeader.deserialize, hrest]
    split
    · exact ⟨_, rfl⟩
    · dsimp only
      rw [he]
      exact ⟨e, rfl⟩
  refine ⟨⟨?_, hnamed⟩, ⟨?_, herr⟩⟩
  · rintro ⟨frame, -, hsame⟩
    rw [← hsame]
    exact ⟨frame.nwkHeader.frameControl.frameType.toPython_ne,
      frame.nwkHeader.frameControl.discoverRoute.toPython_ne⟩
  · rintro ⟨e, he⟩ hyes
    obtain ⟨frame, hframe, -⟩ := hnamed hyes
    rw [he] at hframe
    cases hframe

theorem rust_reads_iff_sourceRoute :
    ∃ python, Python.ZigbeeNwkFrame.fromBytes sourceRouteBytes = .ok python ∧
      ((∃ frame : NwkFrame, fromBytes sourceRouteBytes = .ok frame ∧
        frame.toPython = python.toZigbeeNwkFrame) ↔ NwkNamed python.nwkHeader.frameControl) :=
  ⟨_, rfl, (rust_reads_iff rfl).1⟩

end NwkFrame

end ZigpySpinel.Zigbee
