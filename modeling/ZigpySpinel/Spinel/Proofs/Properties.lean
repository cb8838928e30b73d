import ZigpySpinel.Spinel.Properties
import ZigpySpinel.Spinel.Proofs.PackedUint21

/-!
# What the operations of a client take for success

`prop_value_get` reads the property id of the response and drops it, and does not look at its
command, so any response whose payload starts with a packed integer is a success.
`transmit_frame` unwraps every error and returns 1 for every response.
-/

namespace ZigpySpinel.Spinel
open Lib

/-- The response is a `PropValueIs` frame for this property with this value. -/
def SpinelFrame.IsPropValue (response : SpinelFrame) (propertyId : UInt32) (value : List UInt8) :
    Prop :=
  response.commandId = SpinelCommandId.propValueIs ∧
    packedUint21Deserialize response.payload = .ok (propertyId, value)

variable (sendCommand : SendOutcome)

/-- `send_command` returns this response to a request for this property. -/
def Responds (commandId : UInt8) (propertyId : UInt32) (value : List UInt8)
    (response : SpinelFrame) : Prop :=
  ∃ request, packedUint21ToBytes propertyId = .ok request ∧
    sendCommand commandId (request ++ value) = .ok response

/-! ## `prop_value_get` -/

/-- `prop_value_get` does not panic, and what it returns is the value in the response. -/
def GetSound (propertyId : UInt32) : Prop :=
  (propValueGet sendCommand propertyId).NoPanic ∧
    ∀ value, propValueGet sendCommand propertyId = .ok value →
      ∃ response, Responds sendCommand SpinelCommandId.propValueGet propertyId [] response ∧
        response.IsPropValue propertyId value

/-- The property id fits, and a response whose payload starts with a packed integer is a
    `PropValueIs` for this property. -/
def GetAnswered (propertyId : UInt32) : Prop :=
  propertyId ≤ u21Max ∧
    ∀ response, Responds sendCommand SpinelCommandId.propValueGet propertyId [] response →
      ∀ rspPropertyId payload,
        packedUint21Deserialize response.payload = .ok (rspPropertyId, payload) →
          response.commandId = SpinelCommandId.propValueIs ∧ rspPropertyId = propertyId

theorem noPanic_packedUint21Deserialize (bytes : List UInt8) :
    (packedUint21Deserialize bytes).NoPanic := by
  have hloop : ∀ (bytes : List UInt8) result index,
      (packedUint21Loop result index bytes).NoPanic := by
    intro bytes
    induction bytes with
    | nil =>
      intro result index
      exact Outcome.noPanic_err _
    | cons byte bytes ih =>
      intro result index
      rw [packedUint21Loop]
      split
      · exact Outcome.noPanic_ok _
      · split
        · exact Outcome.noPanic_err _
        · exact ih _ _
  exact hloop bytes 0 0

/-- The encoder panics past `U21_MAX` and nowhere else. -/
theorem noPanic_packedUint21ToBytes_iff {value : UInt32} :
    (packedUint21ToBytes value).NoPanic ↔ value ≤ u21Max := by
  constructor
  · intro h
    by_contra hgt
    exact h _ (packedUint21ToBytes_of_gt (UInt32.not_le.mp hgt))
  · intro hle
    rcases UInt32.lt_or_eq_of_le hle with hlt | heq
    · obtain ⟨bytes, hbytes, -⟩ := packedUint21Deserialize_packed hlt
      rw [hbytes]
      exact Outcome.noPanic_ok _
    · rw [heq, packedUint21ToBytes_u21Max]
      exact Outcome.noPanic_ok _

theorem noPanic_propValueGet_iff {propertyId : UInt32} :
    (propValueGet sendCommand propertyId).NoPanic ↔ propertyId ≤ u21Max := by
  rw [propValueGet, Outcome.noPanic_bind_iff, Outcome.noPanic_mapErr_iff,
    noPanic_packedUint21ToBytes_iff]
  refine and_iff_left ?_
  intro request _
  refine Outcome.noPanic_bind_iff.mpr ⟨?_, ?_⟩
  · exact Outcome.noPanic_mapErr_iff.mpr (Outcome.noPanic_ofExcept _)
  · intro response _
    refine Outcome.noPanic_bind_iff.mpr ⟨?_, fun _ _ => Outcome.noPanic_ok _⟩
    exact Outcome.noPanic_mapErr_iff.mpr (noPanic_packedUint21Deserialize _)

/-- What is returned is what stands behind the property id of the response, whatever that is. -/
theorem propValueGet_eq_ok_iff {propertyId : UInt32} {value : List UInt8} :
    propValueGet sendCommand propertyId = .ok value ↔
      ∃ response rspPropertyId,
        Responds sendCommand SpinelCommandId.propValueGet propertyId [] response ∧
          packedUint21Deserialize response.payload = .ok (rspPropertyId, value) := by
  simp only [propValueGet, Outcome.bind_eq_ok, Outcome.mapErr_eq_ok, Outcome.ofExcept_eq_ok,
    Responds, List.append_nil]
  constructor
  · intro h
    rcases h with ⟨request, hrequest, response, hresponse, ⟨rspPropertyId, payload⟩, hread, h⟩
    cases h
    exact ⟨response, rspPropertyId, ⟨request, hrequest, hresponse⟩, hread⟩
  · intro h
    rcases h with ⟨response, rspPropertyId, ⟨request, hrequest, hresponse⟩, hread⟩
    exact ⟨request, hrequest, response, hresponse, (rspPropertyId, value), hread, rfl⟩

theorem getSound_iff_answered (propertyId : UInt32) :
    GetSound sendCommand propertyId ↔ GetAnswered sendCommand propertyId := by
  rw [GetSound, GetAnswered, noPanic_propValueGet_iff]
  refine and_congr_right fun _ => ?_
  constructor
  · intro h response hresponds rspPropertyId payload hread
    have hok := (propValueGet_eq_ok_iff sendCommand).mpr ⟨response, rspPropertyId, hresponds, hread⟩
    obtain ⟨response', hresponds', hcommand, hread'⟩ := h payload hok
    -- one request has one response
    obtain ⟨request, hrequest, hresponse⟩ := hresponds
    obtain ⟨request', hrequest', hresponse'⟩ := hresponds'
    rw [hrequest, Outcome.ok.injEq] at hrequest'
    rw [← hrequest', hresponse, Except.ok.injEq] at hresponse'
    subst hresponse'
    rw [hread, Outcome.ok.injEq, Prod.mk.injEq] at hread'
    exact ⟨hcommand, hread'.1⟩
  · intro h value hok
    obtain ⟨response, rspPropertyId, hresponds, hread⟩ := (propValueGet_eq_ok_iff sendCommand).mp hok
    obtain ⟨hcommand, rfl⟩ := h response hresponds rspPropertyId value hread
    exact ⟨response, hresponds, hcommand, hread⟩

/-! ## `transmit_frame` -/

/-- `transmit_frame` does not panic, and the status it returns is the one in the response. -/
def TransmitSound (txFrame : SpinelTxFrame) : Prop :=
  (transmitFrame sendCommand txFrame).NoPanic ∧
    ∀ status, transmitFrame sendCommand txFrame = .ok status →
      ∃ response rest, Responds sendCommand SpinelCommandId.propValueSet
          SpinelPropertyId.streamRaw txFrame.toBytes response ∧
        response.IsPropValue SpinelPropertyId.lastStatus (status :: rest)

/-- The response is a `PropValueIs` for `LastStatus` whose first byte is 1. -/
def TransmitAnswered (txFrame : SpinelTxFrame) : Prop :=
  ∃ response rest, Responds sendCommand SpinelCommandId.propValueSet
      SpinelPropertyId.streamRaw txFrame.toBytes response ∧
    response.IsPropValue SpinelPropertyId.lastStatus (1 :: rest)

theorem propValueSet_eq_ok_iff {propertyId rspPropertyId : UInt32} {value payload : List UInt8} :
    propValueSet sendCommand propertyId value = .ok (rspPropertyId, payload) ↔
      ∃ response, Responds sendCommand SpinelCommandId.propValueSet propertyId value response ∧
        packedUint21Deserialize response.payload = .ok (rspPropertyId, payload) := by
  simp only [propValueSet, Outcome.bind_eq_ok, Outcome.mapErr_eq_ok, Outcome.ofExcept_eq_ok,
    Responds]
  constructor
  · intro h
    rcases h with ⟨request, hrequest, response, hresponse, ⟨rspPropertyId, payload⟩, hread, h⟩
    cases h
    exact ⟨response, ⟨request, hrequest, hresponse⟩, hread⟩
  · intro h
    rcases h with ⟨response, ⟨request, hrequest, hresponse⟩, hread⟩
    exact ⟨request, hrequest, response, hresponse, (rspPropertyId, payload), hread, rfl⟩

/-- 1 is returned, or nothing is. -/
theorem transmitFrame_eq_ok_iff {txFrame : SpinelTxFrame} {status : UInt8} :
    transmitFrame sendCommand txFrame = .ok status ↔
      (propValueSet sendCommand SpinelPropertyId.streamRaw txFrame.toBytes).Returns ∧
        status = 1 := by
  simp only [transmitFrame, Outcome.bind_eq_ok, Outcome.unwrap_eq_ok, Outcome.Returns]
  constructor
  · intro h
    rcases h with ⟨answer, hanswer, h⟩
    cases h
    exact ⟨⟨answer, hanswer⟩, rfl⟩
  · intro h
    rcases h with ⟨⟨answer, hanswer⟩, rfl⟩
    exact ⟨answer, hanswer, rfl⟩

theorem noPanic_transmitFrame_iff {txFrame : SpinelTxFrame} :
    (transmitFrame sendCommand txFrame).NoPanic ↔
      (propValueSet sendCommand SpinelPropertyId.streamRaw txFrame.toBytes).Returns := by
  rw [transmitFrame, Outcome.noPanic_bind_iff, Outcome.noPanic_unwrap_iff]
  exact and_iff_left (fun _ _ => Outcome.noPanic_ok _)

theorem transmitSound_iff_answered (txFrame : SpinelTxFrame) :
    TransmitSound sendCommand txFrame ↔ TransmitAnswered sendCommand txFrame := by
  constructor
  · intro h
    rcases h with ⟨hnoPanic, hstatus⟩
    have hreturns := (noPanic_transmitFrame_iff sendCommand).mp hnoPanic
    exact hstatus 1 ((transmitFrame_eq_ok_iff sendCommand).mpr ⟨hreturns, rfl⟩)
  · intro h
    rcases h with ⟨response, rest, hresponds, hvalue⟩
    have hset := (propValueSet_eq_ok_iff sendCommand).mpr ⟨response, hresponds, hvalue.2⟩
    refine ⟨(noPanic_transmitFrame_iff sendCommand).mpr ⟨_, hset⟩, ?_⟩
    intro status hok
    obtain ⟨-, rfl⟩ := (transmitFrame_eq_ok_iff sendCommand).mp hok
    exact ⟨response, rest, hresponds, hvalue⟩

/-- `prop_value_get` reports success for the property it asked for, and `transmit_frame` the
    status of the radio, exactly in these cases; in all others one of them panics, or takes some
    other response for a success. -/
theorem sound_iff_answered (propertyId : UInt32) (txFrame : SpinelTxFrame) :
    (GetSound sendCommand propertyId ↔ GetAnswered sendCommand propertyId) ∧
      (TransmitSound sendCommand txFrame ↔ TransmitAnswered sendCommand txFrame) :=
  ⟨getSound_iff_answered sendCommand propertyId, transmitSound_iff_answered sendCommand txFrame⟩

/-! ## A request that the radio refuses -/

/-- `LAST_STATUS` with `PROP_NOT_FOUND`, as the response to any command. -/
def refusal : SpinelFrame where
  header := { flag := 0b10, networkLinkId := 0, transactionId := 1 }
  commandId := SpinelCommandId.propValueIs
  payload := [0, 13]

/-- A frame to transmit, as `packet_sender` makes it. -/
def beaconRequest : SpinelTxFrame where
  psdu := [0x03, 0x08, 0x01, 0xff, 0xff, 0xff, 0xff, 0x07, 0x13, 0x2d]
  channel := 19
  maxCsmaBackoffs := 1
  maxFrameRetries := 4
  enableCsmaCa := true
  isHeaderUpdated := true
  isARetransmit := false
  isSecurityProcessed := true
  txDelay := 0
  txDelayBaseTime := 0
  rxChannelAfterTx := 19
  txPower := 8

/-- The refusal is the value of the property that was asked for, and the status 1 of a frame;
    and a time-out of `transmit_frame` is a panic. -/
theorem refusal_is_success :
    propValueGet (fun _ _ => .ok refusal) 2 = .ok [13] ∧
      ¬ GetSound (fun _ _ => .ok refusal) 2 ∧
      transmitFrame (fun _ _ => .ok refusal) beaconRequest = .ok 1 ∧
      ¬ TransmitSound (fun _ _ => .ok refusal) beaconRequest ∧
      ¬ (transmitFrame (fun _ _ => .error .timeout) beaconRequest).NoPanic := by
  have hget : propValueGet (fun _ _ => .ok refusal) 2 = .ok [13] := by decide +kernel
  have hsent : transmitFrame (fun _ _ => .ok refusal) beaconRequest = .ok 1 := by decide +kernel
  refine ⟨hget, ?_, hsent, ?_, by decide +kernel⟩
  · intro h
    obtain ⟨response, ⟨request, -, hresponse⟩, -, hread⟩ := h.2 _ hget
    cases hresponse
    exact absurd hread (by decide)
  · intro h
    obtain ⟨response, rest, ⟨request, -, hresponse⟩, -, hread⟩ := h.2 _ hsent
    cases hresponse
    rw [show packedUint21Deserialize refusal.payload = .ok (0, [13]) from rfl] at hread
    cases hread

end ZigpySpinel.Spinel
