import ZigpySpinel.Python.Proofs.Requests
import ZigpySpinel.Spinel.Proofs.Payloads

/-!
# The two receive paths extract the same frames

`HDLCLiteFrame` of the Python package and `HdlcLiteFrame` of the Rust crate escape and
unescape alike, if one function is the CRC of both: what the Python package's `crc16_kermit`
returns is what the crate's code compares with and writes, `crcOf`. Both receive loops decode the
complete segments of the stream, so they decode the same payloads, however the stream is cut
and whatever else the Python protocol object does in the meantime.
-/

namespace ZigpySpinel.Python
open Lib

/-- Both calls return, and the second returns what the first does in its own terms, or both
    fail. -/
def Agree {α β ε : Type} (f : α → β) : Except PyException α → Outcome ε β → Prop
  | .ok a, .ok b => b = f a
  | .error _, .err _ => True
  | _, _ => False

theorem Agree.bind {α α' β β' ε : Type} {f : α → β} {g : α' → β'} {x : Except PyException α}
    {y : Outcome ε β} {k : α → Except PyException α'} {k' : β → Outcome ε β'} (h : Agree f x y)
    (hk : ∀ a, Agree g (k a) (k' (f a))) : Agree g (x >>= k) (y >>= k') := by
  cases x with
  | error e =>
    cases y with
    | ok b => cases h
    | err e' => trivial
    | panic m => cases h
  | ok a =>
    cases y with
    | ok b =>
      cases h
      exact hk a
    | err e' => cases h
    | panic m => cases h

/-! ## One frame -/

namespace HDLCLiteFrame

/-- The locals of one unescaping loop in terms of the other. -/
def Unescape.toRust (st : Unescape) : Spinel.HdlcLiteFrame.Unescape where
  data := st.unescaped
  unescaping := st.unescaping

/-- The frame of one implementation in terms of the other. -/
def toRust (frame : HDLCLiteFrame) : Spinel.HdlcLiteFrame where
  data := frame.data

theorem mem_specialBytes_iff (byte : UInt8) :
    byte ∈ specialBytes ↔ Spinel.isSpecial byte = true := by
  simp [specialBytes, Spinel.isSpecial, HDLCSpecial.value, Spinel.HdlcSpecial.toU8, or_assoc]

theorem unescapeByte_agree (st : Unescape) (byte : UInt8) :
    Agree Unescape.toRust (unescapeByte st byte)
      (Spinel.HdlcLiteFrame.unescapeByte st.toRust byte) := by
  rcases st with ⟨unescaped, unescaping⟩
  cases unescaping with
  | true =>
    by_cases hspecial : byte ^^^ 0x20 ∈ specialBytes
    · simp [unescapeByte, Spinel.HdlcLiteFrame.unescapeByte, Unescape.toRust, Agree, hspecial,
        (mem_specialBytes_iff _).mp hspecial]
    · have hrust : Spinel.isSpecial (byte ^^^ 0x20) = false := by
        rw [← Bool.not_eq_true, ← mem_specialBytes_iff]
        exact hspecial
      simp [unescapeByte, Spinel.HdlcLiteFrame.unescapeByte, Unescape.toRust, Agree, hspecial, hrust]
  | false =>
    by_cases hescape : byte = HDLCSpecial.escape.value
    · subst hescape
      rfl
    · by_cases hflag : byte = HDLCSpecial.flag.value
      · subst hflag
        rfl
      · have hescape' : byte ≠ Spinel.HdlcSpecial.escape.toU8 := hescape
        have hflag' : byte ≠ Spinel.HdlcSpecial.flag.toU8 := hflag
        simp [unescapeByte, Spinel.HdlcLiteFrame.unescapeByte, Unescape.toRust, Agree, hescape,
          hflag, hescape', hflag']

theorem unescape_agree (bytes : List UInt8) (st : Unescape) :
    Agree Unescape.toRust (bytes.foldlM unescapeByte st)
      (bytes.foldlM Spinel.HdlcLiteFrame.unescapeByte st.toRust) := by
  induction bytes generalizing st with
  | nil => rfl
  | cons byte bytes ih =>
    rw [List.foldlM_cons, List.foldlM_cons]
    exact (unescapeByte_agree st byte).bind ih

/-- A byte adds at most one byte to the unescaped ones. -/
theorem length_unescapeByte {st st' : Unescape} {byte : UInt8} (h : unescapeByte st byte = .ok st') :
    st'.unescaped.length ≤ st.unescaped.length + 1 := by
  unfold unescapeByte at h
  split at h
  · dsimp only at h
    split at h
    · cases h
    · cases h
      simp
  · split at h
    · cases h
      simp
    · split at h
      · cases h
        simp
      · cases h
        simp

theorem length_unescape {bytes : List UInt8} {st st' : Unescape}
    (h : bytes.foldlM unescapeByte st = .ok st') :
    st'.unescaped.length ≤ st.unescaped.length + bytes.length := by
  induction bytes generalizing st with
  | nil =>
    cases h
    simp
  | cons byte bytes ih =>
    rw [List.foldlM_cons] at h
    cases hbyte : unescapeByte st byte with
    | error e =>
      rw [hbyte] at h
      cases h
    | ok mid =>
      rw [hbyte] at h
      have hmid := length_unescapeByte hbyte
      have hrest := ih h
      rw [List.length_cons]
      omega

variable {crcKermit crc16Kermit : List UInt8 → UInt16}

/-- The check of the CRC behind the two loops. -/
theorem checkCrc_agree (hcrc : ∀ data, crc16Kermit data = Spinel.HdlcLiteFrame.crcOf crcKermit data)
    (body : List UInt8) (lo hi : UInt8) :
    leBytes 2 (crc16Kermit body).toNat ≠ [lo, hi] ↔
      Spinel.HdlcLiteFrame.crcOf crcKermit body ≠ u16FromLeBytes lo hi := by
  rw [hcrc body, ne_eq, ne_eq, not_iff_not]
  exact u16ToLeBytes_eq_iff

theorem checkCrc_short {crc : UInt16} {unescaped : List UInt8} (h : unescaped.length < 2) :
    leBytes 2 crc.toNat ≠ unescaped.drop (unescaped.length - 2) := by
  intro heq
  have hlen := congrArg List.length heq
  rw [length_leBytes, List.length_drop] at hlen
  omega

/-- A frame is made of two bytes at least. -/
theorem two_le_of_fromBytes {bytes : List UInt8} {frame : HDLCLiteFrame}
    (h : fromBytes crc16Kermit bytes = .ok frame) : 2 ≤ bytes.length := by
  unfold fromBytes at h
  cases hloop : bytes.foldlM unescapeByte {} with
  | error e =>
    rw [hloop] at h
    cases h
  | ok st =>
    rw [hloop] at h
    have hlen := length_unescape hloop
    by_contra hshort
    have hunescaped : st.unescaped.length < 2 := by
      simp only [List.length_nil] at hlen
      omega
    change (if _ then _ else _) = _ at h
    rw [if_pos (checkCrc_short hunescaped)] at h
    cases h

/-- The two parsers return the same frames and fail for the same bytes. The length that the
    Python one does not check is wrong for its CRC. -/
theorem fromBytes_agree (hcrc : ∀ data, crc16Kermit data = Spinel.HdlcLiteFrame.crcOf crcKermit data)
    (bytes : List UInt8) :
    Agree toRust (fromBytes crc16Kermit bytes) (Spinel.HdlcLiteFrame.fromBytes crcKermit bytes) := by
  by_cases hlen : bytes.length < 2
  · rw [Spinel.HdlcLiteFrame.fromBytes, if_pos hlen]
    cases h : fromBytes crc16Kermit bytes with
    | error e => trivial
    | ok frame => exact absurd (two_le_of_fromBytes h) (by omega)
  · rw [Spinel.HdlcLiteFrame.fromBytes, if_neg hlen]
    refine (unescape_agree bytes {}).bind ?_
    rintro ⟨unescaped, unescaping⟩
    dsimp only [Unescape.toRust]
    by_cases hshort : unescaped.length < 2
    · rw [if_pos hshort, if_pos (checkCrc_short hshort)]
      trivial
    · obtain ⟨lo, hi, hpair⟩ : ∃ lo hi, unescaped.drop (unescaped.length - 2) = [lo, hi] := by
        rw [← List.length_eq_two, List.length_drop]
        omega
      simp only [if_neg hshort, hpair]
      by_cases hvalid : leBytes 2 (crc16Kermit (unescaped.take (unescaped.length - 2))).toNat ≠ [lo, hi]
      · rw [if_pos hvalid, if_pos ((checkCrc_agree hcrc _ lo hi).mp hvalid)]
        trivial
      · rw [if_neg hvalid, if_neg (fun h => hvalid ((checkCrc_agree hcrc _ lo hi).mpr h))]
        rfl

theorem encodeByte_eq (encoded : List UInt8) (byte : UInt8) :
    encodeByte encoded byte = encoded ++ Spinel.HdlcLiteFrame.escapeByte byte := by
  unfold encodeByte Spinel.HdlcLiteFrame.escapeByte
  by_cases h : byte ∈ specialBytes
  · rw [if_pos h, if_pos ((mem_specialBytes_iff byte).mp h), List.append_assoc]
    rfl
  · rw [if_neg h, if_neg (fun hspecial => h ((mem_specialBytes_iff byte).mpr hspecial))]

/-- Both write the same bytes. -/
theorem serialize_agree (hcrc : ∀ data, crc16Kermit data = Spinel.HdlcLiteFrame.crcOf crcKermit data)
    (frame : HDLCLiteFrame) :
    frame.serialize crc16Kermit = frame.toRust.toBytesWithFlags crcKermit := by
  have hloop : encodeByte = fun encoded byte => encoded ++ Spinel.HdlcLiteFrame.escapeByte byte := by
    funext encoded byte
    exact encodeByte_eq encoded byte
  simp only [serialize, Spinel.HdlcLiteFrame.toBytesWithFlags, Spinel.HdlcLiteFrame.toBytes, hloop,
    ← List.flatMap_eq_foldl, hcrc]
  rfl

end HDLCLiteFrame

/-! ## Streams -/

variable {crcKermit crc16Kermit : List UInt8 → UInt16}

theorem segmentPayload_agree
    (hcrc : ∀ data, crc16Kermit data = Spinel.HdlcLiteFrame.crcOf crcKermit data)
    (segment : List UInt8) :
    segmentPayload crc16Kermit segment =
      Spinel.SpinelProtocol.segmentPayload crcKermit segment := by
  have h := HDLCLiteFrame.fromBytes_agree hcrc segment
  unfold segmentPayload Spinel.SpinelProtocol.segmentPayload
  cases hpython : HDLCLiteFrame.fromBytes crc16Kermit segment with
  | error e =>
    cases hrust : Spinel.HdlcLiteFrame.fromBytes crcKermit segment with
    | ok frame =>
      rw [hpython, hrust] at h
      cases h
    | err e' => rfl
    | panic m => rfl
  | ok frame =>
    cases hrust : Spinel.HdlcLiteFrame.fromBytes crcKermit segment with
    | ok frame' =>
      rw [hpython, hrust] at h
      cases h
      rfl
    | err e' =>
      rw [hpython, hrust] at h
      cases h
    | panic m =>
      rw [hpython, hrust] at h
      cases h

theorem streamPayloads_agree
    (hcrc : ∀ data, crc16Kermit data = Spinel.HdlcLiteFrame.crcOf crcKermit data)
    (stream : List UInt8) :
    streamPayloads crc16Kermit stream = Spinel.SpinelProtocol.streamPayloads crcKermit stream := by
  have h : segmentPayload crc16Kermit = Spinel.SpinelProtocol.segmentPayload crcKermit := by
    funext segment
    exact segmentPayload_agree hcrc segment
  rw [streamPayloads, h]
  rfl

/-! ## Runs -/

namespace EventLoop

/-- The bytes that the actions receive, chunk by chunk. -/
def receivedChunks (actions : List Action) : List (List UInt8) := actions.filterMap Action.received

theorem receivedChunks_append (actions actions' : List Action) :
    receivedChunks (actions ++ actions') = receivedChunks actions ++ receivedChunks actions' :=
  List.filterMap_append

/-- What has been decoded of the stream so far, and what of it is still in the buffer. -/
structure Received (crc16Kermit : List UInt8 → UInt16) (stream : List UInt8) (l : EventLoop) :
    Prop where
  payloads : l.trace.filterMap Effect.payload = streamPayloads crc16Kermit stream
  rest : l.protocol.buffer = (segments HDLCSpecial.flag.value stream).2

theorem Received.quiet {stream : List UInt8} {l l' : EventLoop}
    (h : Received crc16Kermit stream l) (hquiet : Quiet l l') : Received crc16Kermit stream l' := by
  obtain ⟨writes, htrace⟩ := hquiet.trace
  have hwrites : (writes.map Effect.write).filterMap Effect.payload = [] := by
    rw [List.filterMap_map]
    exact List.filterMap_eq_nil_iff.mpr (fun _ _ => rfl)
  refine ⟨?_, ?_⟩
  · rw [htrace, List.filterMap_append, hwrites, List.append_nil, h.payloads]
  · rw [hquiet.buffer, h.rest]

/-- A chunk for which nothing is raised. -/
theorem Received.dataReceived {stream data : List UInt8} {l : EventLoop}
    (h : Received crc16Kermit stream l)
    (hraised : ∀ e, .unhandled e ∉ (l.dataReceived crc16Kermit data).trace) :
    Received crc16Kermit (stream ++ data) (l.dataReceived crc16Kermit data) := by
  have hnone : (l.protocol.dataReceived crc16Kermit data).raised = none := by
    cases hsome : (l.protocol.dataReceived crc16Kermit data).raised with
    | none => rfl
    | some e =>
      refine absurd ?_ (hraised e)
      simp [EventLoop.dataReceived, log, hsome]
  obtain ⟨hbuffer, hpayloads, -⟩ := SpinelProtocol.dataReceived_of_raised_none crc16Kermit hnone
  refine ⟨?_, ?_⟩
  · simp only [EventLoop.dataReceived, log, hnone, Option.toList_none, List.map_nil, List.append_nil,
      List.filterMap_append, hpayloads, h.payloads, h.rest, streamPayloads]
    exact (decoded_append _ stream data).symm
  · rw [segments_append]
    simp only [EventLoop.dataReceived, log, hbuffer, h.rest]

/-- The effects of the past stay in the trace. -/
theorem mem_trace_of_step {l l' : EventLoop} {action : Action} (h : Step crc16Kermit l action l')
    {effect : Effect} (heffect : effect ∈ l.trace) : effect ∈ l'.trace := by
  rcases step_received crc16Kermit h with ⟨data, -, rfl⟩ | ⟨-, hquiet⟩
  · exact List.mem_append_left _ heffect
  · obtain ⟨writes, htrace⟩ := hquiet.trace
    rw [htrace]
    exact List.mem_append_left _ heffect

theorem received_run {actions : List Action} {l : EventLoop}
    (h : Run (Step crc16Kermit) new actions l) (hraised : ∀ e, .unhandled e ∉ l.trace) :
    Received crc16Kermit (receivedChunks actions).flatten l := by
  induction h with
  | nil => exact ⟨rfl, rfl⟩
  | snoc _ hlast ih =>
    have hbefore := ih (fun e he => hraised e (mem_trace_of_step hlast he))
    rw [receivedChunks_append, List.flatten_append]
    rcases step_received crc16Kermit hlast with ⟨data, rfl, rfl⟩ | ⟨hnone, hquiet⟩
    · simpa [receivedChunks, Action.received] using hbefore.dataReceived hraised
    · simpa [receivedChunks, hnone] using hbefore.quiet hquiet

/-- Whatever the Python protocol object does, and however the stream is cut: as long as
    `frame_received` raises nothing, it obtains the payloads that the loop of the Rust crate
    decodes from the same chunks. And both write a payload as the same bytes. The loop with the
    payloads ends where the loop of `parse_frames_from_bytes_into` does, whose frames are those of
    the payloads. -/
theorem hdlcFrames_agree
    (hcrc : ∀ data, crc16Kermit data = Spinel.HdlcLiteFrame.crcOf crcKermit data) :
    (∀ (actions : List Action) (l : EventLoop), Run (Step crc16Kermit) new actions l →
      (∀ e, .unhandled e ∉ l.trace) →
        l.trace.filterMap Effect.payload =
          Spinel.SpinelProtocol.decodedPayloadsOfChunks crcKermit .new (receivedChunks actions)) ∧
      (∀ payload : List UInt8,
        HDLCLiteFrame.serialize crc16Kermit { data := payload } =
          Spinel.HdlcLiteFrame.toBytesWithFlags crcKermit { data := payload }) ∧
      ∀ (s : Spinel.SpinelProtocol) (bytes : List UInt8),
        (Loop.exec (Spinel.SpinelProtocol.tracedPass crcKermit) (fun st => st.1.measure)
            (s.parseStart bytes [], [])).1 =
          Loop.exec (Spinel.SpinelProtocol.parsePass crcKermit)
            Spinel.SpinelProtocol.ParseState.measure (s.parseStart bytes []) ∧
        (s.parseFramesFromBytes crcKermit bytes).2 =
          (Spinel.SpinelProtocol.decodedPayloads crcKermit s bytes).filterMap
            Spinel.SpinelProtocol.payloadFrame := by
  refine ⟨?_, ?_, ?_⟩
  · intro actions l hrun hraised
    have hflag : Spinel.HdlcSpecial.flag.toU8 ∉ Spinel.SpinelProtocol.new.buffer := by
      intro hmem
      cases hmem
    rw [(received_run hrun hraised).payloads,
      Spinel.SpinelProtocol.decodedPayloadsOfChunks_eq crcKermit .new _ hflag]
    exact streamPayloads_agree hcrc (receivedChunks actions).flatten
  · intro payload
    exact HDLCLiteFrame.serialize_agree hcrc { data := payload }
  · intro s bytes
    exact ⟨Spinel.SpinelProtocol.exec_tracedPass crcKermit s bytes,
      Spinel.SpinelProtocol.parseFramesFromBytes_payloads crcKermit s bytes⟩

/-- A frame that arrives in two pieces, behind the end of another one. -/
theorem hdlcFrames_agree_twoChunks :
    Spinel.SpinelProtocol.decodedPayloadsOfChunks (fun _ => 0x421D) .new
        [[0x02, 0x7E, 0x80, 0x06, 0x02], [0xE2, 0xBD, 0x7E]] = [[0x80, 0x06, 0x02]] := by
  have hcrc : ∀ data : List UInt8, (fun _ => 0xBDE2 : List UInt8 → UInt16) data =
      Spinel.HdlcLiteFrame.crcOf (fun _ => 0x421D) data := by
    intro data
    exact (by decide : (0xBDE2 : UInt16) = 0x421D ^^^ 0xFFFF)
  have hrun : Run (Step (fun _ => 0xBDE2)) new
      [.dataReceived [0x02, 0x7E, 0x80, 0x06, 0x02], .dataReceived [0xE2, 0xBD, 0x7E]] _ :=
    Run.of_foldlM rfl
  refine ((hdlcFrames_agree hcrc).1 _ _ hrun ?_).symm
  intro e he
  rcases he with _ | ⟨_, _ | ⟨_, ⟨⟩⟩⟩

end EventLoop

end ZigpySpinel.Python
