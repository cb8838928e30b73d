import ZigpySpinel.Python.Proofs.Ieee802154Codec

/-!
# IEEE 802.15.4 frames in both packages

Both packages have the same fields, but not the same rule for the source PAN id: without
compression the Rust package expects one in a data frame, the Python package in a data frame and
in a command. Where the rules coincide, both write a frame alike, and what the Rust package reads
the Python package reads with the same fields. The Python package reads more: it looks at no check
sequence, it has names for all types and modes, and the last bytes of its header may be those of
the check sequence.
-/

namespace ZigpySpinel.Ieee802154
open Lib
open Python (IEEE802154Frame)

/-! ## The frame control -/

def Ieee802154FrameType.toPython : Ieee802154FrameType → Python.IEEE802154FrameType
  | .beacon => .beacon
  | .data => .data
  | .command => .command
  | .ack => .ack

def Ieee802154AddressingMode.toPython : Ieee802154AddressingMode → Python.IEEE802154AddressingMode
  | .none => .none
  | .short => .short
  | .long => .long

def Ieee802154FrameControl.toPython (control : Ieee802154FrameControl) :
    Python.IEEE802154FrameControl where
  frameType := control.frameType.toPython
  securityEnabled := control.securityEnabled
  framePending := control.framePending
  ackRequest := control.ackRequest
  panIdCompression := control.panIdCompression
  reserved := control.reserved
  sequenceNumberSuppression := control.sequenceNumberSuppression
  informationElementsPresent := control.informationElementsPresent
  destAddrMode := control.destAddrMode.toPython
  frameVersion := BitVec.ofNat 2 control.frameVersion.toNat
  srcAddrMode := control.srcAddrMode.toPython

theorem serialize_byte0 (frameType : Ieee802154FrameType) :
    ∀ securityEnabled framePending ackRequest panIdCompression reserved : Bool,
      Python.IEEE802154FrameControl.byte0 frameType.toPython securityEnabled framePending ackRequest
          panIdCompression reserved =
        Ieee802154FrameControl.byte0 frameType securityEnabled framePending ackRequest
          panIdCompression reserved := by
  cases frameType <;> decide

theorem serialize_byte1 (destAddrMode srcAddrMode : Ieee802154AddressingMode) :
    ∀ (suppression elements : Bool) (frameVersion : Fin 4),
      Python.IEEE802154FrameControl.byte1 suppression elements destAddrMode.toPython
          (BitVec.ofNat 2 frameVersion) srcAddrMode.toPython =
        Ieee802154FrameControl.byte1 suppression elements destAddrMode (UInt8.ofNat frameVersion)
          srcAddrMode := by
  cases destAddrMode <;> cases srcAddrMode <;> decide

/-- Both packages write a frame control alike. -/
theorem Ieee802154FrameControl.serialize_toPython {control : Ieee802154FrameControl}
    (h : control.WellFormed) : control.toPython.serialize = control.toBytes := by
  have hversion : control.frameVersion.toNat < 4 := h
  have hbyte0 := serialize_byte0 control.frameType control.securityEnabled control.framePending
    control.ackRequest control.panIdCompression control.reserved
  have hbyte1 := serialize_byte1 control.destAddrMode control.srcAddrMode
    control.sequenceNumberSuppression control.informationElementsPresent
    ⟨control.frameVersion.toNat, hversion⟩
  rw [UInt8.ofNat_toNat] at hbyte1
  rw [Python.IEEE802154FrameControl.byte0, Ieee802154FrameControl.byte0] at hbyte0
  rw [Python.IEEE802154FrameControl.byte1, Ieee802154FrameControl.byte1] at hbyte1
  simp only [Python.IEEE802154FrameControl.serialize, toPython, toBytes, hbyte0, hbyte1]

/-! ## The frame -/

def Ieee802154Address.toPython : Ieee802154Address → Python.Address
  | .nwk addr => .nwk addr
  | .eui64 addr => .eui64 addr

theorem Ieee802154Address.serialize_toPython (address : Ieee802154Address) :
    address.toPython.serialize = address.toBytes := by
  cases address <;> rfl

/-- The frame as the Python package has it. -/
def Ieee802154Frame.toPython (frame : Ieee802154Frame) : IEEE802154Frame where
  frameControl := frame.frameControl.toPython
  sequenceNumber := frame.sequenceNumber
  destPanId := frame.destPanId.map PanId.value
  destAddress := frame.destAddress.map Ieee802154Address.toPython
  srcPanId := frame.srcPanId.map PanId.value
  srcAddress := frame.srcAddress.map Ieee802154Address.toPython
  payload := frame.payload
  fcs := some (u16ToLeBytes frame.fcs)

namespace Ieee802154Frame

/-- Both packages look for a source PAN id in the same frames. -/
def SameSourceRule (control : Ieee802154FrameControl) : Prop :=
  control.panIdCompression = true ∨ control.frameType ≠ .command

theorem hasAddress_toPython (mode : Ieee802154AddressingMode) :
    IEEE802154Frame.hasAddress mode.toPython = true ↔ mode ≠ .none := by
  cases mode <;> decide

theorem announces_toPython {mode : Ieee802154AddressingMode} {address : Option Ieee802154Address}
    (h : addressingMode address = mode) :
    mode.toPython.Announces (address.map Ieee802154Address.toPython) := by
  subst h
  cases address with
  | none => rfl
  | some address =>
    cases address with
    | nwk addr => exact ⟨addr, rfl⟩
    | eui64 addr => exact ⟨addr, rfl⟩

/-- Where the rules coincide, the Python package expects a source PAN id in a data frame
    without compression. -/
theorem hasSrcPanId_toPython {control : Ieee802154FrameControl} (h : SameSourceRule control) :
    IEEE802154Frame.hasSrcPanId control.toPython = true ↔
      control.panIdCompression = false ∧ control.frameType = .data := by
  rcases control with ⟨frameType, _, _, _, compression, _, _, _, _, _, _⟩
  cases compression with
  | true => simp [IEEE802154Frame.hasSrcPanId, Ieee802154FrameControl.toPython]
  | false =>
    rcases h with hcompression | hcommand
    · cases hcompression
    · cases frameType with
      | command => exact absurd rfl hcommand
      | _ =>
        simp [IEEE802154Frame.hasSrcPanId, Ieee802154FrameControl.toPython,
          Ieee802154FrameType.toPython]

theorem wellFormed_toPython {frame : Ieee802154Frame} (h : frame.Decodable)
    (hrule : SameSourceRule frame.frameControl) : frame.toPython.WellFormed := by
  have hsrcPanId := h.srcPanId
  constructor
  · simpa [toPython, Ieee802154FrameControl.toPython] using h.sequenceNumber
  · exact (hasAddress_toPython _).trans (h.destPanId.trans (by simp [toPython]))
  · exact announces_toPython h.destAddress
  · intro hhas
    obtain ⟨hcompression, hdata⟩ := (hasSrcPanId_toPython hrule).mp hhas
    rw [hcompression, if_neg Bool.false_ne_true] at hsrcPanId
    simpa [toPython] using hsrcPanId.mp hdata
  · exact announces_toPython h.srcAddress

theorem srcPanIdRead_toPython {frame : Ieee802154Frame} (h : frame.Decodable)
    (hrule : SameSourceRule frame.frameControl) : frame.toPython.SrcPanIdRead := by
  have hsrcPanId := h.srcPanId
  have hcontrol : frame.toPython.frameControl.panIdCompression =
    frame.frameControl.panIdCompression := rfl
  rw [IEEE802154Frame.SrcPanIdRead, hcontrol]
  cases hcompression : frame.frameControl.panIdCompression with
  | true =>
    rw [hcompression, if_pos rfl] at hsrcPanId
    rw [if_pos rfl, toPython, hsrcPanId]
  | false =>
    rw [hcompression, if_neg Bool.false_ne_true] at hsrcPanId
    rw [if_neg Bool.false_ne_true]
    refine (hasSrcPanId_toPython hrule).trans ?_
    rw [hcompression, and_iff_right rfl, hsrcPanId]
    simp [toPython]

theorem encodeOptional_panId (panId : Option PanId) :
    encodeOptional u16ToLeBytes (panId.map PanId.value) = encodeOptional PanId.toBytes panId := by
  cases panId <;> rfl

theorem encodeOptional_address (address : Option Ieee802154Address) :
    encodeOptional Python.Address.serialize (address.map Ieee802154Address.toPython) =
      encodeOptional Ieee802154Address.toBytes address := by
  cases address with
  | none => rfl
  | some address => exact address.serialize_toPython

/-- Both packages write header and payload of a frame alike. -/
theorem header_toPython {frame : Ieee802154Frame} (h : frame.Decodable)
    (hrule : SameSourceRule frame.frameControl) :
    frame.toPython.header (IEEE802154Frame.hasSrcPanId frame.toPython.frameControl) ++
      frame.payload = frame.body := by
  have hread := h.srcPanId
  have hhas := hasSrcPanId_toPython hrule
  have hpan : (if IEEE802154Frame.hasSrcPanId frame.toPython.frameControl then
        encodeOptional u16ToLeBytes frame.toPython.srcPanId else []) =
      if !frame.frameControl.panIdCompression then encodeOptional PanId.toBytes frame.srcPanId
        else [] := by
    cases hcompression : frame.frameControl.panIdCompression with
    | true =>
      have hnone : IEEE802154Frame.hasSrcPanId frame.toPython.frameControl = false := by
        rw [← Bool.not_eq_true]
        exact fun hyes => Bool.false_ne_true ((hhas.mp hyes).1.symm.trans hcompression)
      rw [hnone]
      rfl
    | false =>
      rw [hcompression, if_neg Bool.false_ne_true] at hread
      rw [hcompression, and_iff_right rfl, hread] at hhas
      rw [toPython, encodeOptional_panId, Bool.not_false, if_pos rfl]
      cases hsrc : frame.srcPanId with
      | none =>
        rw [hsrc] at hhas
        split <;> rfl
      | some panId => rw [if_pos (hhas.mpr (by rw [hsrc]; rfl))]
  have hcontrol := Ieee802154FrameControl.serialize_toPython h.frameControl
  rw [IEEE802154Frame.header, hpan]
  simp only [body, toPython, hcontrol, encodeOptional_panId, encodeOptional_address]

/-! ## Reading -/

theorem fcs_of_fromBytes {bytes : List UInt8} {frame : Ieee802154Frame}
    (h : fromBytes bytes = .ok frame) : frame.fcs = computeFcs frame.body := by
  obtain ⟨hdecodable, hbytes⟩ := of_fromBytes h
  have hread := fromBytes_toBytes hdecodable
  rw [hbytes, h] at hread
  exact congrArg Ieee802154Frame.fcs (Outcome.ok.inj hread)

/-- What is a frame in front of two bytes is read by the Python package with the same
    fields. -/
theorem python_fromBytes_body {frame : Ieee802154Frame} (h : frame.Decodable)
    (hrule : SameSourceRule frame.frameControl) :
    IEEE802154Frame.fromBytes (frame.body ++ u16ToLeBytes frame.fcs) = .ok frame.toPython := by
  have hread := IEEE802154Frame.fromBytes_header (wellFormed_toPython h hrule)
    (srcPanIdRead_toPython h hrule) (frame.payload ++ u16ToLeBytes frame.fcs)
  have hbody := header_toPython h hrule
  rw [← List.append_assoc, hbody] at hread
  dsimp only at hread
  rw [hread, List.length_append, List.length_append, length_u16ToLeBytes, Nat.add_sub_cancel,
    Nat.add_sub_cancel, List.take_left, List.drop_left]
  rfl

/-- Without compression, the Python package expects a source PAN id in a command, the Rust
    package does not. -/
theorem sameSourceRule_of_python {bytes : List UInt8} {frame : Ieee802154Frame}
    (h : frame.Decodable) (hpython : IEEE802154Frame.fromBytes bytes = .ok frame.toPython) :
    SameSourceRule frame.frameControl := by
  by_contra hrule
  obtain ⟨hcompression, hcommand⟩ := not_or.mp hrule
  rw [Bool.not_eq_true] at hcompression
  rw [not_not] at hcommand
  have hread := h.srcPanId
  rw [hcompression, if_neg Bool.false_ne_true, hcommand] at hread
  obtain ⟨hwf, -⟩ := IEEE802154Frame.of_fromBytes hpython
  have hsome : frame.srcPanId.isSome := by
    have hpython := hwf.srcPanId (by
      simp [toPython, Ieee802154FrameControl.toPython, IEEE802154Frame.hasSrcPanId, hcompression,
        hcommand, Ieee802154FrameType.toPython])
    simpa [toPython] using hpython
  cases hread.mpr hsome

end Ieee802154Frame

/-! ## What the Rust package has names for -/

/-- The frame controls with a type and modes that have a name. -/
structure Named (control : Python.IEEE802154FrameControl) : Prop where
  frameType : control.frameType.value < 4
  destAddrMode : control.destAddrMode ≠ .undefined0x01
  srcAddrMode : control.srcAddrMode ≠ .undefined0x01

theorem Ieee802154FrameType.exists_toPython {frameType : Python.IEEE802154FrameType}
    (h : frameType.value < 4) : ∃ rust : Ieee802154FrameType, rust.toPython = frameType := by
  cases frameType with
  | beacon => exact ⟨.beacon, rfl⟩
  | data => exact ⟨.data, rfl⟩
  | ack => exact ⟨.ack, rfl⟩
  | command => exact ⟨.command, rfl⟩
  | _ => exact absurd h (by decide)

theorem Ieee802154AddressingMode.exists_toPython {mode : Python.IEEE802154AddressingMode}
    (h : mode ≠ .undefined0x01) : ∃ rust : Ieee802154AddressingMode, rust.toPython = mode := by
  cases mode with
  | none => exact ⟨.none, rfl⟩
  | undefined0x01 => exact absurd rfl h
  | short => exact ⟨.short, rfl⟩
  | long => exact ⟨.long, rfl⟩

theorem Ieee802154FrameType.value_toPython_lt (frameType : Ieee802154FrameType) :
    frameType.toPython.value < 4 := by
  cases frameType <;> decide

theorem Ieee802154AddressingMode.toPython_ne (mode : Ieee802154AddressingMode) :
    mode.toPython ≠ .undefined0x01 := by
  cases mode <;> decide

theorem named_toPython (control : Ieee802154FrameControl) : Named control.toPython :=
  ⟨control.frameType.value_toPython_lt, control.destAddrMode.toPython_ne,
    control.srcAddrMode.toPython_ne⟩

theorem Ieee802154FrameControl.exists_toPython {control : Python.IEEE802154FrameControl}
    (h : Named control) :
    ∃ rust : Ieee802154FrameControl, rust.WellFormed ∧ rust.toPython = control := by
  rcases control with ⟨frameType, securityEnabled, framePending, ackRequest, panIdCompression,
    reserved, suppression, elements, destAddrMode, frameVersion, srcAddrMode⟩
  obtain ⟨rustType, rfl⟩ := Ieee802154FrameType.exists_toPython h.frameType
  obtain ⟨rustDest, rfl⟩ := Ieee802154AddressingMode.exists_toPython h.destAddrMode
  obtain ⟨rustSrc, rfl⟩ := Ieee802154AddressingMode.exists_toPython h.srcAddrMode
  have hlt : frameVersion.toNat < 4 := frameVersion.isLt
  have hversion : (UInt8.ofNat frameVersion.toNat).toNat = frameVersion.toNat := by
    rw [UInt8.toNat_ofNat', Nat.mod_eq_of_lt (by omega)]
  refine ⟨{
    frameType := rustType
    securityEnabled := securityEnabled
    framePending := framePending
    ackRequest := ackRequest
    panIdCompression := panIdCompression
    reserved := reserved
    sequenceNumberSuppression := suppression
    informationElementsPresent := elements
    destAddrMode := rustDest
    frameVersion := UInt8.ofNat frameVersion.toNat
    srcAddrMode := rustSrc }, ?_, ?_⟩
  · rw [WellFormed, UInt8.lt_iff_toNat_lt, hversion]
    exact hlt
  · rw [toPython, hversion, BitVec.ofNat_toNat, BitVec.setWidth_eq]

theorem exists_address {mode : Ieee802154AddressingMode} {address : Option Python.Address}
    (h : mode.toPython.Announces address) : ∃ rust : Option Ieee802154Address,
      addressingMode rust = mode ∧ rust.map Ieee802154Address.toPython = address := by
  cases mode with
  | none =>
    cases h
    exact ⟨none, rfl, rfl⟩
  | short =>
    obtain ⟨addr, rfl⟩ := h
    exact ⟨some (.nwk addr), rfl, rfl⟩
  | long =>
    obtain ⟨addr, rfl⟩ := h
    exact ⟨some (.eui64 addr), rfl, rfl⟩

theorem PanId.value_injective : Function.Injective PanId.value := by
  rintro ⟨a⟩ ⟨b⟩ h
  exact congrArg PanId.mk h

theorem exists_panId (panId : Option UInt16) :
    ∃ rust : Option PanId, rust.map PanId.value = panId ∧ rust.isSome = panId.isSome := by
  cases panId with
  | none => exact ⟨none, rfl, rfl⟩
  | some value => exact ⟨some ⟨value⟩, rfl, rfl⟩

namespace Ieee802154Frame

theorem srcPanIdRead_of_fromBytes {data : List UInt8} {frame : IEEE802154Frame}
    (h : IEEE802154Frame.fromBytes data = .ok frame) : frame.SrcPanIdRead := by
  simp only [IEEE802154Frame.fromBytes, Python.except_bind_eq_ok] at h
  obtain ⟨⟨control, r1⟩, -, ⟨sequenceNumber, r2⟩, -, ⟨destPanId, r3⟩, -, ⟨destAddress, r4⟩, -,
    ⟨srcPanId, r5⟩, hsrcPanId, ⟨srcAddress, r6⟩, -, h⟩ := h
  cases h
  rw [IEEE802154Frame.deserializeSrcPanId] at hsrcPanId
  rw [IEEE802154Frame.SrcPanIdRead]
  dsimp only at hsrcPanId ⊢
  cases hcompression : control.panIdCompression with
  | true =>
    rw [hcompression, if_pos rfl] at hsrcPanId
    cases hsrcPanId
    rfl
  | false =>
    rw [hcompression, if_neg Bool.false_ne_true] at hsrcPanId
    rw [if_neg Bool.false_ne_true]
    obtain ⟨⟨hflag, -⟩, -⟩ := (Python.codec_uint16.deserializeIf _).written hsrcPanId
    rw [IEEE802154Frame.hasSrcPanId, hcompression, Bool.not_false, Bool.true_and]
    exact hflag

/-- A frame that the Python package reads is one of the Rust package, if its type and modes have
    a name and the rules for the source PAN id coincide. -/
theorem exists_toPython {python : IEEE802154Frame} (hwf : python.WellFormed)
    (hread : python.SrcPanIdRead) (hnamed : Named python.frameControl)
    (hrule : python.frameControl.panIdCompression = true ∨
      python.frameControl.frameType ≠ .command) {fcs : UInt16}
    (hfcs : python.fcs = some (u16ToLeBytes fcs)) :
    ∃ frame : Ieee802154Frame, frame.Decodable ∧ SameSourceRule frame.frameControl ∧
      frame.toPython = python ∧ frame.fcs = fcs := by
  rcases python with ⟨control, sequenceNumber, destPanId, destAddress, srcPanId, srcAddress, payload,
    oldFcs⟩
  obtain ⟨rust, hversion, rfl⟩ := Ieee802154FrameControl.exists_toPython hnamed
  obtain ⟨rustDest, hdestMode, rfl⟩ := exists_address hwf.destAddress
  obtain ⟨rustSrc, hsrcMode, rfl⟩ := exists_address hwf.srcAddress
  obtain ⟨rustDestPan, rfl, hdestPan⟩ := exists_panId destPanId
  obtain ⟨rustSrcPan, rfl, hsrcPan⟩ := exists_panId srcPanId
  cases hfcs
  have hsame : SameSourceRule rust := by
    refine hrule.imp_right fun hpython hcommand => hpython ?_
    change rust.frameType.toPython = .command
    rw [hcommand]
    rfl
  have hdestFlag := (hasAddress_toPython rust.destAddrMode).symm.trans hwf.destPanId
  rw [← hdestPan] at hdestFlag
  have hsequence : (!rust.sequenceNumberSuppression) = true ↔ sequenceNumber.isSome :=
    hwf.sequenceNumber
  refine ⟨{
    frameControl := rust
    sequenceNumber := sequenceNumber
    destPanId := rustDestPan
    destAddress := rustDest
    srcPanId := rustSrcPan
    srcAddress := rustSrc
    payload := payload
    fcs := fcs }, {
      frameControl := hversion
      sequenceNumber := by simpa using hsequence
      destPanId := hdestFlag
      destAddress := hdestMode
      srcPanId := ?_
      srcAddress := hsrcMode }, hsame, rfl, rfl⟩
  rw [IEEE802154Frame.SrcPanIdRead] at hread
  dsimp only at hread ⊢
  have hcompressed : rust.toPython.panIdCompression = rust.panIdCompression := rfl
  rw [hcompressed] at hread
  cases hcompression : rust.panIdCompression with
  | true =>
    rw [hcompression, if_pos rfl] at hread
    rw [if_pos rfl]
    exact Option.map_injective PanId.value_injective hread
  | false =>
    rw [hcompression, if_neg Bool.false_ne_true] at hread
    rw [if_neg Bool.false_ne_true, hsrcPan, ← hread, hasSrcPanId_toPython hsame, hcompression,
      and_iff_right rfl]

/-- What the Rust package reads the Python package reads with the same fields, where the rules
    coincide. -/
theorem python_fromBytes {bytes : List UInt8} {frame : Ieee802154Frame}
    (h : fromBytes bytes = .ok frame) (hrule : SameSourceRule frame.frameControl) :
    IEEE802154Frame.fromBytes bytes = .ok frame.toPython := by
  obtain ⟨hdecodable, hbytes⟩ := of_fromBytes h
  rw [← hbytes, toBytes, ← fcs_of_fromBytes h]
  exact python_fromBytes_body hdecodable hrule

/-- What the Python package reads the Rust package reads with the same fields, if the check
    sequence is right and behind the header, type and modes have a name, and the rules
    coincide. -/
theorem rust_fromBytes {bytes : List UInt8} {python : IEEE802154Frame}
    (h : IEEE802154Frame.fromBytes bytes = .ok python) (hfcs : PassesFcs bytes)
    (hlong : IEEE802154Frame.headerLength python.frameControl + 2 ≤ bytes.length)
    (hnamed : Named python.frameControl)
    (hrule : python.frameControl.panIdCompression = true ∨
      python.frameControl.frameType ≠ .command) :
    ∃ frame : Ieee802154Frame, fromBytes bytes = .ok frame ∧ frame.toPython = python := by
  obtain ⟨data, fcs, hdata, hfcs⟩ := hfcs
  obtain ⟨hwf, tail, htail, hpayload⟩ := IEEE802154Frame.of_fromBytes h
  have hread := srcPanIdRead_of_fromBytes h
  have hheader := IEEE802154Frame.length_header hwf _ id
  have htailLong : 2 ≤ tail.length := by
    rw [htail, List.length_append] at hlong
    omega
  have hlast : python.fcs = some (u16ToLeBytes fcs) := by
    have hheaderRead := IEEE802154Frame.fromBytes_header hwf hread tail
    dsimp only at hheaderRead
    rw [← htail, h] at hheaderRead
    rw [congrArg IEEE802154Frame.fcs (Except.ok.inj hheaderRead), hdata, List.length_append,
      length_u16ToLeBytes, Nat.add_sub_cancel, List.drop_left]
  obtain ⟨frame, hdecodable, hsame, rfl, rfl⟩ := exists_toPython hwf hread hnamed hrule hlast
  have hbody : frame.body = data := by
    rw [← header_toPython hdecodable hsame]
    change _ ++ frame.toPython.payload = _
    rw [IEEE802154Frame.header_append_payload htail hpayload htailLong, hdata,
      List.length_append, length_u16ToLeBytes, Nat.add_sub_cancel, List.take_left]
  have hbytes : frame.toBytes = bytes := by rw [toBytes, hbody, hfcs, ← hdata]
  refine ⟨frame, ?_, rfl⟩
  rw [← hbytes, fromBytes_toBytes hdecodable, hbody, hfcs]

/-- The decoders agree on what the Rust package reads exactly where the rules for the source PAN
    id coincide. The Rust package reads what the Python package reads exactly if the check
    sequence is right and behind the header, type and modes have a name, and the rules
    coincide. -/
theorem decoders_agree_iff (bytes : List UInt8) :
    (∀ frame : Ieee802154Frame, fromBytes bytes = .ok frame →
      (IEEE802154Frame.fromBytes bytes = .ok frame.toPython ↔
        SameSourceRule frame.frameControl)) ∧
    ∀ python : IEEE802154Frame, IEEE802154Frame.fromBytes bytes = .ok python →
      ((∃ frame : Ieee802154Frame, fromBytes bytes = .ok frame ∧ frame.toPython = python) ↔
        PassesFcs bytes ∧
          IEEE802154Frame.headerLength python.frameControl + 2 ≤ bytes.length ∧
          Named python.frameControl ∧
          (python.frameControl.panIdCompression = true ∨
            python.frameControl.frameType ≠ .command)) := by
  constructor
  · intro frame h
    exact ⟨sameSourceRule_of_python (of_fromBytes h).1, python_fromBytes h⟩
  · intro python hpython
    refine ⟨?_, fun ⟨hfcs, hlong, hnamed, hrule⟩ => rust_fromBytes hpython hfcs hlong hnamed hrule⟩
    rintro ⟨frame, h, rfl⟩
    obtain ⟨hdecodable, hbytes⟩ := of_fromBytes h
    have hrule := sameSourceRule_of_python hdecodable hpython
    have hheader := IEEE802154Frame.length_header (wellFormed_toPython hdecodable hrule) _ id
    have hbody := congrArg List.length (header_toPython hdecodable hrule)
    rw [List.length_append] at hbody
    refine ⟨⟨frame.body, _, hbytes.symm, rfl⟩, ?_, named_toPython _, ?_⟩
    · rw [← hbytes, toBytes, List.length_append, length_u16ToLeBytes]
      omega
    · refine hrule.imp_right fun hother hcommand => hother ?_
      change frame.frameControl.frameType.toPython = .command at hcommand
      cases htype : frame.frameControl.frameType with
      | command => rfl
      | _ =>
        rw [htype] at hcommand
        cases hcommand

/-- The acknowledgement of `test_frame_ack`. -/
theorem decoders_agree_iff_ack :
    IEEE802154Frame.fromBytes [0x02, 0x00, 0xd1, 0xbc, 0x72] = .ok ackFrame.toPython :=
  ((decoders_agree_iff _).1 ackFrame (by decide)).mpr (.inr (by decide))

end Ieee802154Frame

end ZigpySpinel.Ieee802154
