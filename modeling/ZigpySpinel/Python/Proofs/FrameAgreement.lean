import ZigpySpinel.Python.Proofs.ReceiveAgreement

/-!
# The two packages read the same frames

Both packages take the first octet of a payload for the header. For the Rust package the next
one is the command, and at least one more has to follow. For the Python package the command is a
packed integer with a name in `CommandID`, and nothing needs to follow, not even the command. So
they agree on the payloads of at least three octets of which the second is at most 23, and on
those that both refuse. A stream of such payloads has the same frames for both.
-/

namespace ZigpySpinel.Python
open Lib

/-! ## Headers -/

/-- The header as the Rust package has it. -/
def SpinelHeader.toRust (header : SpinelHeader) : Spinel.SpinelHeader where
  flag := UInt8.ofNat header.flag.toNat
  networkLinkId := UInt8.ofNat header.networkLinkId.toNat
  transactionId := UInt8.ofNat (header.transactionId.getD 0).toNat

/-- The header that an octet is. -/
def SpinelHeader.ofByte (byte : UInt8) : SpinelHeader where
  transactionId := some (BitVec.ofNat 4 byte.toNat)
  networkLinkId := BitVec.ofNat 2 (byte.toNat / 2 ^ 4)
  flag := BitVec.ofNat 2 (byte.toNat / 2 ^ 6)

/-- The octet is the header of a Spinel frame. -/
def Flagged (byte : UInt8) : Prop := (byte &&& 0b11000000) >>> 6 = 0b10

instance (byte : UInt8) : Decidable (Flagged byte) :=
  inferInstanceAs (Decidable ((byte &&& 0b11000000) >>> 6 = 0b10))

theorem header_fields : ∀ n : Fin 256,
    (UInt8.ofNat (BitVec.ofNat 2 (n.val / 2 ^ 6)).toNat =
        (UInt8.ofNat n.val &&& 0b11000000) >>> 6) ∧
      (UInt8.ofNat (BitVec.ofNat 2 (n.val / 2 ^ 4)).toNat =
        (UInt8.ofNat n.val &&& 0b00110000) >>> 4) ∧
      (UInt8.ofNat (BitVec.ofNat 4 n.val).toNat = (UInt8.ofNat n.val &&& 0b00001111) >>> 0) ∧
      (BitVec.ofNat 2 (n.val / 2 ^ 6) = 0b10#2 ↔
        (UInt8.ofNat n.val &&& 0b11000000) >>> 6 = 0b10) := by
  decide +kernel

/-- Both packages read the octet alike. -/
theorem SpinelHeader.ofByte_agree (byte : UInt8) (rest : List UInt8) :
    Spinel.SpinelHeader.fromBytes (byte :: rest) = .ok (SpinelHeader.ofByte byte).toRust ∧
      ((SpinelHeader.ofByte byte).flag = 0b10#2 ↔ Flagged byte) ∧
      (SpinelHeader.ofByte byte).toRust.flag = (byte &&& 0b11000000) >>> 6 := by
  obtain ⟨hflag, hlink, htid, hiff⟩ := header_fields ⟨byte.toNat, byte.toNat_lt⟩
  simp only [UInt8.ofNat_toNat] at hflag hlink htid hiff
  refine ⟨?_, hiff, hflag⟩
  simp only [Spinel.SpinelHeader.fromBytes, SpinelHeader.ofByte, SpinelHeader.toRust,
    Option.getD_some, hflag, hlink, htid]

/-! ## Commands -/

theorem CommandID.ofValue_value {n : Nat} {commandId : CommandID}
    (h : CommandID.ofValue n = .ok commandId) : commandId.value = n := by
  have hfound := orRaise_eq_ok.mp h
  simpa using List.find?_some hfound

theorem CommandID.value_le (commandId : CommandID) : commandId.value ≤ 23 := by
  cases commandId <;> decide

theorem CommandID.find_of_le : ∀ n : Fin 24,
    (CommandID.members.find? (·.value == n.val)).isSome = true := by
  decide

/-- The numbers up to 23 are commands, and no others. -/
theorem CommandID.ofValue_isOk_iff (n : Nat) :
    (∃ commandId, CommandID.ofValue n = .ok commandId) ↔ n ≤ 23 := by
  constructor
  · rintro ⟨commandId, h⟩
    rw [← CommandID.ofValue_value h]
    exact commandId.value_le
  · intro hn
    obtain ⟨commandId, hfound⟩ :=
      Option.isSome_iff_exists.mp (CommandID.find_of_le ⟨n, Nat.lt_succ_of_le hn⟩)
    exact ⟨commandId, orRaise_eq_ok.mpr hfound⟩

theorem readChunks_last {byte : UInt8} (h : byte &&& 0b10000000 = 0) (rest : List UInt8) :
    PackedUInt21.readChunks [] (byte :: rest) = .ok [byte &&& 0b01111111] := by
  rw [PackedUInt21.readChunks, List.nil_append, if_neg (by simp), if_pos h]

theorem joinChunks_singleton (chunk : UInt8) : PackedUInt21.joinChunks [chunk] = chunk.toNat := by
  simp [PackedUInt21.joinChunks]

theorem low_bits : ∀ n : Fin 256,
    (UInt8.ofNat n.val &&& 0b10000000 = 0 ↔ n.val < 128) ∧
      (UInt8.ofNat n.val &&& 0b01111111).toNat = n.val % 128 := by
  decide +kernel

theorem and_high_eq_zero_iff (byte : UInt8) : byte &&& 0b10000000 = 0 ↔ byte.toNat < 128 := by
  have h := (low_bits ⟨byte.toNat, byte.toNat_lt⟩).1
  rwa [UInt8.ofNat_toNat] at h

theorem toNat_and_low (byte : UInt8) : (byte &&& 0b01111111).toNat = byte.toNat % 128 := by
  have h := (low_bits ⟨byte.toNat, byte.toNat_lt⟩).2
  rwa [UInt8.ofNat_toNat] at h

/-- A command of one octet. -/
theorem CommandID.deserialize_cons {byte : UInt8} (h : byte.toNat < 128) (rest : List UInt8) :
    CommandID.deserialize (byte :: rest) =
      (CommandID.ofValue byte.toNat).map (fun commandId => (commandId, rest)) := by
  have hmod : byte.toNat % 128 = byte.toNat := Nat.mod_eq_of_lt h
  rw [CommandID.deserialize, PackedUInt21.deserializeAs,
    readChunks_last ((and_high_eq_zero_iff byte).mpr h)]
  change (CommandID.ofValue (PackedUInt21.joinChunks _) >>= fun value => Except.ok (value, rest)) = _
  rw [joinChunks_singleton, toNat_and_low, hmod]
  cases CommandID.ofValue byte.toNat <;> rfl

/-- A last octet that announces another one ends the command all the same. -/
theorem CommandID.deserialize_singleton (byte : UInt8) :
    CommandID.deserialize [byte] =
      (CommandID.ofValue (byte.toNat % 128)).map (fun commandId => (commandId, [])) := by
  have hread : PackedUInt21.readChunks [] [byte] = .ok [byte &&& 0b01111111] := by
    rw [PackedUInt21.readChunks, List.nil_append, if_neg (by simp)]
    split
    · rfl
    · rw [PackedUInt21.readChunks]
  rw [CommandID.deserialize, PackedUInt21.deserializeAs, hread]
  change (CommandID.ofValue (PackedUInt21.joinChunks _) >>= fun value => Except.ok (value, _)) = _
  rw [joinChunks_singleton, toNat_and_low]
  cases CommandID.ofValue (byte.toNat % 128) <;> rfl

/-! ## Frames -/

/-- The frame as the Rust package has it. -/
def SpinelFrame.toRust (frame : SpinelFrame) : Spinel.SpinelFrame where
  header := frame.header.toRust
  commandId := UInt8.ofNat frame.commandId.value
  payload := frame.data

theorem toNat_value (commandId : CommandID) :
    (UInt8.ofNat commandId.value).toNat = commandId.value := by
  have h := commandId.value_le
  rw [UInt8.toNat_ofNat', Nat.mod_eq_of_lt (by omega)]

/-- What the Python package reads behind the header. -/
theorem SpinelFrame.fromBytes_cons (byte : UInt8) (rest : List UInt8) :
    SpinelFrame.fromBytes (byte :: rest) =
      if Flagged byte then
        (CommandID.deserialize rest).map (fun command => ⟨SpinelHeader.ofByte byte, command.1, command.2⟩)
      else .error (.valueError "Spinel header flag is invalid in frame") := by
  obtain ⟨-, hflag, -⟩ := SpinelHeader.ofByte_agree byte rest
  by_cases hflagged : Flagged byte
  · rw [if_pos hflagged]
    have hheader : (SpinelHeader.ofByte byte).flag = 0b10#2 := hflag.mpr hflagged
    change (if (SpinelHeader.ofByte byte).flag ≠ 0b10#2 then _ else _) = _
    rw [if_neg (not_not.mpr hheader)]
    cases CommandID.deserialize rest <;> rfl
  · rw [if_neg hflagged]
    exact if_pos fun hheader => hflagged (hflag.mp hheader)

/-- What the Rust package reads behind the header. -/
theorem rust_fromBytes_cons (header command next : UInt8) (payload : List UInt8) :
    Spinel.SpinelFrame.fromBytes (header :: command :: next :: payload) =
      if Flagged header then .ok ⟨(SpinelHeader.ofByte header).toRust, command, next :: payload⟩
      else .err .notSpinelFrame := by
  obtain ⟨hheader, -, hflag⟩ := SpinelHeader.ofByte_agree header []
  rw [Spinel.SpinelFrame.fromBytes, if_neg (by simp)]
  simp only [List.take_succ_cons, List.take_zero, hheader, hflag, List.drop_succ_cons,
    List.drop_zero, ne_eq, ite_not]
  rfl

/-- The payloads that both packages read as the same frame, or both refuse. -/
def Alike : List UInt8 → Prop
  | [] => True
  | [header] => ¬ Flagged header
  | [header, command] => Flagged header → 23 < command.toNat % 128
  | header :: command :: _ :: _ => Flagged header → command.toNat ≤ 23

/-- A frame that both read is in the same place of their tables. -/
theorem agree_of_both_ok {payload : List UInt8} {frame : Spinel.SpinelFrame} {read : SpinelFrame}
    (hrust : Spinel.SpinelFrame.fromBytes payload = .ok frame)
    (hpython : SpinelFrame.fromBytes payload = .ok read) (h : read.toRust = frame)
    (other : Spinel.SpinelFrame) :
    Spinel.SpinelFrame.fromBytes payload = .ok other ↔
      ∃ read, SpinelFrame.fromBytes payload = .ok read ∧ read.toRust = other := by
  rw [hrust, hpython, ← h]
  constructor
  · intro heq
    exact ⟨read, rfl, Outcome.ok.inj heq⟩
  · rintro ⟨same, hsame, rfl⟩
    rw [Except.ok.inj hsame]

theorem agree_of_both_refuse {payload : List UInt8}
    (hrust : ∀ frame, Spinel.SpinelFrame.fromBytes payload ≠ .ok frame)
    (hpython : ∀ read, SpinelFrame.fromBytes payload ≠ .ok read) (other : Spinel.SpinelFrame) :
    Spinel.SpinelFrame.fromBytes payload = .ok other ↔
      ∃ read, SpinelFrame.fromBytes payload = .ok read ∧ read.toRust = other := by
  refine iff_of_false (hrust other) ?_
  rintro ⟨read, h, -⟩
  exact hpython read h

theorem rust_refuses_short {payload : List UInt8} (h : payload.length < 3)
    (frame : Spinel.SpinelFrame) : Spinel.SpinelFrame.fromBytes payload ≠ .ok frame := by
  rw [Spinel.SpinelFrame.fromBytes, if_pos h]
  intro hframe
  cases hframe

theorem python_refuses_unflagged {header : UInt8} (h : ¬ Flagged header) (rest : List UInt8)
    (read : SpinelFrame) : SpinelFrame.fromBytes (header :: rest) ≠ .ok read := by
  rw [SpinelFrame.fromBytes_cons, if_neg h]
  exact nofun

/-- Without three octets the packages agree where the Python package refuses as well. -/
theorem agree_short_iff {payload : List UInt8} (h : payload.length < 3) :
    (∀ frame, Spinel.SpinelFrame.fromBytes payload = .ok frame ↔
      ∃ read, SpinelFrame.fromBytes payload = .ok read ∧ read.toRust = frame) ↔
      ∀ read, SpinelFrame.fromBytes payload ≠ .ok read := by
  constructor
  · intro hagree read hread
    exact rust_refuses_short h _ ((hagree read.toRust).mpr ⟨read, hread, rfl⟩)
  · exact agree_of_both_refuse (rust_refuses_short h)

theorem except_map_ne_ok_iff {ε α β : Type} {x : Except ε α} {f : α → β} :
    (∀ b, x.map f ≠ .ok b) ↔ ¬ ∃ a, x = .ok a := by
  cases x with
  | error e =>
    refine iff_of_true nofun ?_
    rintro ⟨a, h⟩
    cases h
  | ok a => exact iff_of_false (fun h => h _ rfl) (fun h => h ⟨a, rfl⟩)

/-- For all octets: the packages read the same frame or refuse both, exactly if the payload has no
    Spinel header, or a command up to 23 with something behind it, or nothing behind the octet of
    an unknown command. -/
theorem frames_agree_iff (payload : List UInt8) :
    (∀ frame, Spinel.SpinelFrame.fromBytes payload = .ok frame ↔
      ∃ read, SpinelFrame.fromBytes payload = .ok read ∧ read.toRust = frame) ↔ Alike payload := by
  rcases payload with _ | ⟨header, _ | ⟨command, _ | ⟨next, payload⟩⟩⟩
  · exact iff_of_true (agree_of_both_refuse (rust_refuses_short (by simp)) nofun) trivial
  · -- the Python package takes the missing command for 0
    rw [agree_short_iff (by simp), Alike, SpinelFrame.fromBytes_cons]
    by_cases hflag : Flagged header
    · rw [if_pos hflag]
      exact iff_of_false (fun h => h _ rfl) (not_not.mpr hflag)
    · rw [if_neg hflag]
      exact iff_of_true nofun hflag
  · rw [agree_short_iff (by simp), Alike, SpinelFrame.fromBytes_cons]
    by_cases hflag : Flagged header
    · rw [if_pos hflag, CommandID.deserialize_singleton, except_map_ne_ok_iff, imp_iff_right hflag,
        ← Nat.not_le, ← CommandID.ofValue_isOk_iff]
      cases CommandID.ofValue (command.toNat % 128) <;> simp [Except.map]
    · rw [if_neg hflag]
      exact iff_of_true nofun (fun h => absurd h hflag)
  · by_cases hflag : Flagged header
    · have hrust := rust_fromBytes_cons header command next payload
      rw [if_pos hflag] at hrust
      rw [Alike, imp_iff_right hflag]
      constructor
      · intro hagree
        obtain ⟨read, -, hread⟩ := (hagree _).mp hrust
        have hcommand : UInt8.ofNat read.commandId.value = command :=
          congrArg Spinel.SpinelFrame.commandId hread
        rw [← hcommand, toNat_value]
        exact read.commandId.value_le
      · intro hknown
        obtain ⟨commandId, hcommand⟩ := (CommandID.ofValue_isOk_iff command.toNat).mpr hknown
        have hpython := SpinelFrame.fromBytes_cons header (command :: next :: payload)
        rw [if_pos hflag, CommandID.deserialize_cons (by omega), hcommand] at hpython
        refine agree_of_both_ok hrust hpython ?_
        simp only [SpinelFrame.toRust, CommandID.ofValue_value hcommand, UInt8.ofNat_toNat]
    · rw [Alike]
      refine iff_of_true (agree_of_both_refuse ?_ (python_refuses_unflagged hflag _))
        (fun h => absurd h hflag)
      intro frame
      rw [rust_fromBytes_cons, if_neg hflag]
      exact nofun

/-! ## Streams -/

variable {crcKermit crc16Kermit : List UInt8 → UInt16}

/-- The frames of a stream that arrives in two pieces. -/
theorem streamFrames_append (xs ys : List UInt8) :
    streamFrames crc16Kermit (xs ++ ys) =
      streamFrames crc16Kermit xs ++
        streamFrames crc16Kermit ((segments HDLCSpecial.flag.value xs).2 ++ ys) := by
  rw [streamFrames, streamPayloads, decoded_append, List.filterMap_append]
  rfl

end ZigpySpinel.Python
