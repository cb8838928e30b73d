import ZigpySpinel.Lib.Block
import ZigpySpinel.Python.Exceptions
import ZigpySpinel.Types

/-!
# Zigbee frames of the Python package (`zigbee_types.py`)

The frames that the application builds, with their encryption. The `zigpy` integers are
machine integers, and building one from a number that does not fit raises; a bit field of a
`zigpy` struct starts at the least significant bit, and a value of an enumeration that has no
name is a member of its own. The block cipher is a parameter, as are the modes of the
`cryptography` package over it.
-/

namespace ZigpySpinel.Python
open Lib

/-- `t.uint8_t(n)`, `none` where it raises. -/
def uint8T (n : Int) : Option UInt8 :=
  if 0 ≤ n ∧ n < 0x100 then some (UInt8.ofNat n.toNat) else none

/-- `t.uint16_t(n)`, `none` where it raises. -/
def uint16T (n : Int) : Option UInt16 :=
  if 0 ≤ n ∧ n < 0x10000 then some (UInt16.ofNat n.toNat) else none

/-- `t.uint32_t(n)`, `none` where it raises. -/
def uint32T (n : Int) : Option UInt32 :=
  if 0 ≤ n ∧ n < 0x100000000 then some (UInt32.ofNat n.toNat) else none

theorem uint8T_isSome_iff {n : Int} : (∃ b, uint8T n = some b) ↔ 0 ≤ n ∧ n < 0x100 :=
  Option.isSome_iff_exists.symm.trans Option.isSome_ite

theorem uint16T_isSome_iff {n : Int} : (∃ w, uint16T n = some w) ↔ 0 ≤ n ∧ n < 0x10000 :=
  Option.isSome_iff_exists.symm.trans Option.isSome_ite

theorem uint16T_eq_some {n : Int} {value : UInt16} (h : uint16T n = some value) :
    n = value.toNat := by
  have hn := uint16T_isSome_iff.mp ⟨value, h⟩
  rw [uint16T, if_pos hn, Option.some.injEq] at h
  rw [← h, UInt16.toNat_ofNat', Nat.mod_eq_of_lt (by omega)]
  omega

theorem uint32T_isSome_iff {n : Int} : (∃ w, uint32T n = some w) ↔ 0 ≤ n ∧ n < 0x100000000 :=
  Option.isSome_iff_exists.symm.trans Option.isSome_ite

theorem uint32T_eq_some {n : Int} {value : UInt32} (h : uint32T n = some value) :
    n = value.toNat := by
  have hn := uint32T_isSome_iff.mp ⟨value, h⟩
  rw [uint32T, if_pos hn, Option.some.injEq] at h
  rw [← h, UInt32.toNat_ofNat', Nat.mod_eq_of_lt (by omega)]
  omega

/-! ## Network frames -/

/-- `ZigbeeNwkFrameType` (`zigbee_types.py:195-197`). -/
inductive ZigbeeNwkFrameType where
  | data
  | command
  | undefined0x02
  | undefined0x03
  deriving DecidableEq, Repr

/-- The value of a frame type. -/
def ZigbeeNwkFrameType.value : ZigbeeNwkFrameType → Nat
  | .data => 0b00
  | .command => 0b01
  | .undefined0x02 => 0b10
  | .undefined0x03 => 0b11

/-- `ZigbeeNwkRouteDiscovery` (`zigbee_types.py:200-203`). -/
inductive ZigbeeNwkRouteDiscovery where
  | suppress
  | enable
  | withMulticast
  | undefined0x03
  deriving DecidableEq, Repr

/-- The value of a route discovery. -/
def ZigbeeNwkRouteDiscovery.value : ZigbeeNwkRouteDiscovery → Nat
  | .suppress => 0b00
  | .enable => 0b01
  | .withMulticast => 0b10
  | .undefined0x03 => 0b11

/-- `ZigbeeNwkFrameControl` (`zigbee_types.py:206-216`). -/
structure ZigbeeNwkFrameControl where
  frameType : ZigbeeNwkFrameType
  protocolVersion : BitVec 4
  discoverRoute : ZigbeeNwkRouteDiscovery
  multicast : Bool
  security : Bool
  sourceRoute : Bool
  destination : Bool
  extendedSource : Bool
  endDeviceInitiator : Bool
  reserved : BitVec 2
  deriving DecidableEq, Repr

/-- `serialize` of a frame control: 2, 4, 2 bits, six flags and 2 bits. -/
def ZigbeeNwkFrameControl.serialize (control : ZigbeeNwkFrameControl) : List UInt8 :=
  leBytes 2 (control.frameType.value + 2 ^ 2 * control.protocolVersion.toNat +
    2 ^ 6 * control.discoverRoute.value + 2 ^ 8 * control.multicast.toNat +
    2 ^ 9 * control.security.toNat + 2 ^ 10 * control.sourceRoute.toNat +
    2 ^ 11 * control.destination.toNat + 2 ^ 12 * control.extendedSource.toNat +
    2 ^ 13 * control.endDeviceInitiator.toNat + 2 ^ 14 * control.reserved.toNat)

/-- `ZigbeeNwkHeader` (`zigbee_types.py:219-230`). -/
structure ZigbeeNwkHeader where
  frameControl : ZigbeeNwkFrameControl
  destination : Nwk
  source : Nwk
  radius : UInt8
  sequenceNumber : UInt8
  destinationIeee : Option Eui64
  sourceIeee : Option Eui64
  multicastControl : Option UInt8
  sourceRouteRelayIndex : Option UInt8
  sourceRoute : Option (List Nwk)
  deriving DecidableEq, Repr

/-- The source route in `ZigbeeNwkHeader.serialize` (`zigbee_types.py:298-303`). The number of
    relays and the relay index are converted to `t.uint8_t`. -/
def ZigbeeNwkHeader.serializeSourceRoute (header : ZigbeeNwkHeader) :
    Except PyException (List UInt8) :=
  match header.sourceRoute with
  | some sourceRoute => do
    let relayCount ← orRaise (uint8T sourceRoute.length) (.valueError "")
    let relayIndex ← orRaise header.sourceRouteRelayIndex .typeError
    .ok ([relayCount] ++ [relayIndex] ++ sourceRoute.flatMap Nwk.toBytes)
  | none => .ok []

/-- `ZigbeeNwkHeader.serialize` (`zigbee_types.py:280-305`). -/
def ZigbeeNwkHeader.serialize (header : ZigbeeNwkHeader) : Except PyException (List UInt8) := do
  let data := header.frameControl.serialize ++ header.destination.toBytes ++
    header.source.toBytes ++ [header.radius] ++ [header.sequenceNumber]
  let data := data ++ encodeOptional Eui64.toBytes header.destinationIeee
  let data := data ++ encodeOptional Eui64.toBytes header.sourceIeee
  let data := data ++ encodeOptional (fun control => [control]) header.multicastControl
  let route ← header.serializeSourceRoute
  .ok (data ++ route)

/-- `ZigbeeNwkSecurityHeaderKeyId` (`zigbee_types.py:308-312`). -/
inductive ZigbeeNwkSecurityHeaderKeyId where
  | dataKey
  | networkKey
  | keyTransportKey
  | keyLoadKey
  deriving DecidableEq, Repr

/-- The value of a key id. -/
def ZigbeeNwkSecurityHeaderKeyId.value : ZigbeeNwkSecurityHeaderKeyId → Nat
  | .dataKey => 0x00
  | .networkKey => 0x01
  | .keyTransportKey => 0x02
  | .keyLoadKey => 0x03

/-- `ZigbeeNwkSecurityLevel` (`zigbee_types.py:315-323`). -/
inductive ZigbeeNwkSecurityLevel where
  | noSecurity
  | aesCbcMac32
  | aesCbcMac64
  | aesCbcMac128
  | aesCtr
  | aesCcm32
  | aesCcm64
  | aesCcm128
  deriving DecidableEq, Repr

/-- The value of a security level. -/
def ZigbeeNwkSecurityLevel.value : ZigbeeNwkSecurityLevel → Nat
  | .noSecurity => 0x00
  | .aesCbcMac32 => 0x01
  | .aesCbcMac64 => 0x02
  | .aesCbcMac128 => 0x03
  | .aesCtr => 0x04
  | .aesCcm32 => 0x05
  | .aesCcm64 => 0x06
  | .aesCcm128 => 0x07

/-- `ZigbeeNwkSecurityHeaderControlField` (`zigbee_types.py:326-330`). -/
structure ZigbeeNwkSecurityHeaderControlField where
  securityLevel : ZigbeeNwkSecurityLevel
  keyId : ZigbeeNwkSecurityHeaderKeyId
  extendedNonce : Bool
  reserved : BitVec 2
  deriving DecidableEq, Repr

/-- `serialize` of a security control field: 3, 2, 1 and 2 bits. -/
def ZigbeeNwkSecurityHeaderControlField.serialize
    (control : ZigbeeNwkSecurityHeaderControlField) : List UInt8 :=
  [UInt8.ofNat (control.securityLevel.value + 8 * control.keyId.value +
    32 * control.extendedNonce.toNat + 64 * control.reserved.toNat)]

/-- `ZigbeeNwkAuxHeader` (`zigbee_types.py:333-338`). -/
structure ZigbeeNwkAuxHeader where
  securityControl : ZigbeeNwkSecurityHeaderControlField
  frameCounter : UInt32
  extendedSource : Option Eui64
  keySequenceNumber : UInt8
  deriving DecidableEq, Repr

/-- `ZigbeeNwkAuxHeader.serialize` (`zigbee_types.py:369-375`). -/
def ZigbeeNwkAuxHeader.serialize (header : ZigbeeNwkAuxHeader) :
    Except PyException (List UInt8) := do
  let extendedSource ← orRaise header.extendedSource .attributeError
  .ok (header.securityControl.serialize ++ u32ToLeBytes header.frameCounter ++
    extendedSource.toBytes ++ [header.keySequenceNumber])

/-! ## Encryption of network frames -/

/-- `xor` (`zigbee_types.py:378-379`). -/
def xor (a b : List UInt8) : Except PyException (List UInt8) :=
  if a.length = b.length then .ok (xorBytes a b)
  else .error (.valueError "")

/-- `pad_to_multiple_of_16` (`zigbee_types.py:382-386`). -/
def padToMultipleOf16 (data : List UInt8) : List UInt8 :=
  if data.length % 16 ≠ 0 then data ++ List.replicate (16 - data.length % 16) 0 else data

/-- The complete blocks of a byte string. -/
def completeBlocks (data : List UInt8) : List Block := cutBlocks (data.length / 16) data

/-- `update` of an encryptor in `modes.ECB()`. -/
def ecbUpdate (encryptBlock : Block → Block) (data : List UInt8) : List UInt8 :=
  blockBytes ((completeBlocks data).map encryptBlock)

/-- The first `update` of an encryptor in `modes.CBC(b"\x00" * 16)`. -/
def cbcUpdate (encryptBlock : Block → Block) (data : List UInt8) : List UInt8 :=
  blockBytes (cbcChain encryptBlock Block.zero (completeBlocks data))

/-- `ZigbeeNwkFrame` (`zigbee_types.py:389-393`). -/
structure ZigbeeNwkFrame where
  nwkHeader : ZigbeeNwkHeader
  auxHeader : Option ZigbeeNwkAuxHeader
  payload : List UInt8
  deriving DecidableEq, Repr

namespace ZigbeeNwkFrame

/-- `get_modified_aux_header` (`zigbee_types.py:419-430`), `none` at its assertion. -/
def getModifiedAuxHeader (frame : ZigbeeNwkFrame) : Option ZigbeeNwkAuxHeader := do
  let auxHeader ← frame.auxHeader
  if auxHeader.securityControl.securityLevel = .aesCcm32 then some auxHeader
  else
    some { auxHeader with
      securityControl := { auxHeader.securityControl with securityLevel := .aesCcm32 } }

/-- `_get_encryption_l_m` (`zigbee_types.py:432-437`). -/
def getEncryptionLM (frame : ZigbeeNwkFrame) : Except PyException (Nat × Nat) :=
  match frame.auxHeader with
  | none => .error (.valueError "No security header present, cannot decrypt payload.")
  | some _ => .ok (2, 4)

/-- `_get_nonce` (`zigbee_types.py:439-446`), `none` where there is no source. -/
def getNonce (frame : ZigbeeNwkFrame) (auxHeader : ZigbeeNwkAuxHeader) : Option (List UInt8) := do
  let source ← auxHeader.extendedSource <|> frame.nwkHeader.sourceIeee
  some (source.toBytes ++ u32ToLeBytes auxHeader.frameCounter ++
    auxHeader.securityControl.serialize)

/-- `_compute_mac` (`zigbee_types.py:448-471`). -/
def computeMac (encryptBlock : Key → Block → Block) (frame : ZigbeeNwkFrame) (L M : Nat) (key : Key)
    (plaintext : List UInt8) (auxHeader : ZigbeeNwkAuxHeader) (nonce : List UInt8) :
    Except PyException (List UInt8) := do
  let header ← frame.nwkHeader.serialize
  let aux ← auxHeader.serialize
  let authData := header ++ aux
  let authDataLength ← toBytesBig authData.length L
  let addedAuthData := padToMultipleOf16 (authDataLength ++ authData)
  let plaintextLength ← toBytesBig plaintext.length L
  let b0 := [0b01001001] ++ nonce ++ plaintextLength
  let x := cbcUpdate (encryptBlock key) (b0 ++ padToMultipleOf16 (addedAuthData ++ plaintext))
  -- `X[-16 : -16 + M]`
  .ok ((x.take (x.length - (16 - M))).drop (x.length - 16))

/-- One pass of the loop of `_encrypt` (`zigbee_types.py:491-496`). -/
def encryptPass (encryptBlock : Key → Block → Block) (L : Nat) (key : Key)
    (nonce taggedPlaintext taggedCiphertext : List UInt8) (blockNum : Nat) :
    Except PyException (List UInt8) := do
  let blockNumBytes ← toBytesBig blockNum L
  let counter := [0b00000001] ++ nonce ++ blockNumBytes
  let taggedPlaintextBlock := (taggedPlaintext.take (16 * (blockNum + 1))).drop (16 * blockNum)
  let block ← xor (ecbUpdate (encryptBlock key) counter) taggedPlaintextBlock
  .ok (taggedCiphertext ++ block)

/-- `_encrypt` (`zigbee_types.py:473-502`). -/
def encryptWith (encryptBlock : Key → Block → Block) (L M : Nat) (key : Key)
    (nonce macTag plaintext : List UInt8) : Except PyException (List UInt8 × List UInt8) := do
  let taggedPlaintext := padToMultipleOf16 macTag ++ padToMultipleOf16 plaintext
  let taggedCiphertext ← (List.range (taggedPlaintext.length / 16)).foldlM
    (encryptPass encryptBlock L key nonce taggedPlaintext) []
  let encryptedMacTag := taggedCiphertext.take M
  let ciphertext := (taggedCiphertext.take (16 + plaintext.length)).drop 16
  .ok (encryptedMacTag, ciphertext)

end ZigbeeNwkFrame

/-- `DecryptedZigbeeNwkFrame` (`zigbee_types.py:542-543`). -/
structure DecryptedZigbeeNwkFrame extends ZigbeeNwkFrame
  deriving DecidableEq, Repr

/-- `EncryptedZigbeeNwkFrame` (`zigbee_types.py:505-506`). -/
structure EncryptedZigbeeNwkFrame extends ZigbeeNwkFrame
  deriving DecidableEq, Repr

namespace DecryptedZigbeeNwkFrame

/-- The nonce that `encrypt` uses (`zigbee_types.py:545-547`). -/
def nonce (frame : DecryptedZigbeeNwkFrame) : Option (List UInt8) := do
  let auxHeader ← frame.getModifiedAuxHeader
  frame.getNonce auxHeader

/-- The frame counter of a frame with an auxiliary header. -/
def frameCounter (frame : DecryptedZigbeeNwkFrame) : Option UInt32 :=
  frame.auxHeader.map (·.frameCounter)

/-- `encrypt` (`zigbee_types.py:544-571`). -/
def encrypt (encryptBlock : Key → Block → Block) (frame : DecryptedZigbeeNwkFrame) (key : Key) :
    Except PyException EncryptedZigbeeNwkFrame := do
  let (L, M) ← frame.getEncryptionLM
  let auxHeader ← orRaise frame.getModifiedAuxHeader .assertionError
  let nonce ← orRaise (frame.getNonce auxHeader) .attributeError
  let plaintext := frame.payload
  let macTag ← frame.computeMac encryptBlock L M key plaintext auxHeader nonce
  let (encryptedMacTag, ciphertext) ←
    ZigbeeNwkFrame.encryptWith encryptBlock L M key nonce macTag plaintext
  .ok {
    nwkHeader := frame.nwkHeader
    auxHeader := frame.auxHeader
    payload := ciphertext ++ encryptedMacTag }

end DecryptedZigbeeNwkFrame

namespace EncryptedZigbeeNwkFrame

/-- `decrypt` (`zigbee_types.py:507-539`). -/
def decrypt (encryptBlock : Key → Block → Block) (frame : EncryptedZigbeeNwkFrame) (key : Key) :
    Except PyException DecryptedZigbeeNwkFrame := do
  let (L, M) ← frame.getEncryptionLM
  let auxHeader ← orRaise frame.getModifiedAuxHeader .assertionError
  let nonce ← orRaise (frame.getNonce auxHeader) .attributeError
  let ciphertext := frame.payload.take (frame.payload.length - M)
  let encryptedMacTag := frame.payload.drop (frame.payload.length - M)
  let (providedMacTag, plaintext) ←
    ZigbeeNwkFrame.encryptWith encryptBlock L M key nonce encryptedMacTag ciphertext
  let macTag ← frame.computeMac encryptBlock L M key plaintext auxHeader nonce
  if providedMacTag ≠ macTag then .error (.decryptionFailure "Invalid MAC tag")
  else .ok {
    nwkHeader := frame.nwkHeader
    auxHeader := frame.auxHeader
    payload := plaintext }

end EncryptedZigbeeNwkFrame

/-! ## Application support frames -/

/-- `ZigbeeApsFrameType` (`zigbee_types.py:574-576`). -/
inductive ZigbeeApsFrameType where
  | data
  | ack
  | undefined0x01
  | undefined0x03
  deriving DecidableEq, Repr

/-- The value of a frame type. -/
def ZigbeeApsFrameType.value : ZigbeeApsFrameType → Nat
  | .data => 0b00
  | .ack => 0b10
  | .undefined0x01 => 0b01
  | .undefined0x03 => 0b11

/-- `ZigbeeApsDeliveryMode` (`zigbee_types.py:579-581`). -/
inductive ZigbeeApsDeliveryMode where
  | unicast
  | broadcast
  | undefined0x01
  | undefined0x03
  deriving DecidableEq, Repr

/-- The value of a delivery mode. -/
def ZigbeeApsDeliveryMode.value : ZigbeeApsDeliveryMode → Nat
  | .unicast => 0b00
  | .broadcast => 0b10
  | .undefined0x01 => 0b01
  | .undefined0x03 => 0b11

/-- `ZigbeeApsFrameControl` (`zigbee_types.py:584-590`). -/
structure ZigbeeApsFrameControl where
  frameType : ZigbeeApsFrameType
  deliveryMode : ZigbeeApsDeliveryMode
  reserved : Bool
  security : Bool
  ackRequest : Bool
  extendedHeader : Bool
  deriving DecidableEq, Repr

/-- `serialize` of a frame control: 2, 2, 1, 1, 1 and 1 bits. -/
def ZigbeeApsFrameControl.serialize (control : ZigbeeApsFrameControl) : List UInt8 :=
  [UInt8.ofNat (control.frameType.value + 4 * control.deliveryMode.value +
    16 * control.reserved.toNat + 32 * control.security.toNat + 64 * control.ackRequest.toNat +
    128 * control.extendedHeader.toNat)]

/-- `ZigbeeApsFrame` (`zigbee_types.py:593-601`). -/
structure ZigbeeApsFrame where
  frameControl : ZigbeeApsFrameControl
  destinationEndpoint : UInt8
  clusterId : UInt16
  profileId : UInt16
  sourceEndpoint : UInt8
  counter : UInt8
  asdu : List UInt8
  deriving DecidableEq, Repr

/-- `ZigbeeApsFrame.serialize` (`zigbee_types.py:623-632`). -/
def ZigbeeApsFrame.serialize (frame : ZigbeeApsFrame) : List UInt8 :=
  frame.frameControl.serialize ++ [frame.destinationEndpoint] ++ u16ToLeBytes frame.clusterId ++
    u16ToLeBytes frame.profileId ++ [frame.sourceEndpoint] ++ [frame.counter] ++ frame.asdu

end ZigpySpinel.Python
