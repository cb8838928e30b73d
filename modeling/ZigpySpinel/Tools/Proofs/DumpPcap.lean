import ZigpySpinel.Tools.DumpPcap
import ZigpySpinel.Zigbee.Proofs.NwkNoPanic

/-!
# What the counters of the capture tool count

The tool moves the key that decrypted a frame to the front of its keys, to try it first for the
next one. The keys stay the same ones, so the counters are those of a search of all keys in the
order of the file: a frame is a success exactly if it is in clear or some key decrypts it. The
tool panics exactly on frames that its parsers do not take, on a secured network frame without
a source address or a tag, if there is a key, and on more packets than its counters can count.
-/

namespace ZigpySpinel.Tools
open Lib Zigbee Ieee802154

/-! ## Decryption under any key -/

/-- The parts of a parsed frame agree with the flags that announce them. -/
theorem wellFormed_of_fromBytes {bytes : List UInt8} {nwk : NwkFrame}
    (h : NwkFrame.fromBytes bytes = .ok nwk) : nwk.WellFormed := by
  obtain ⟨⟨header, r1⟩, hheader, h⟩ := Outcome.bind_eq_ok.mp h
  obtain ⟨⟨aux, r2⟩, haux, h⟩ := Outcome.bind_eq_ok.mp h
  cases h
  obtain ⟨⟨hflag, hauxWf⟩, -⟩ := (NwkAuxHeader.codec.optional _).encode_decode _ _ _ haux
  exact ⟨(NwkHeader.codec.encode_decode _ _ _ hheader).1, hflag, hauxWf, rfl⟩

/-- Whether decryption panics does not depend on the key. -/
theorem noPanic_decrypt_encrypted_iff (aes : Aes128) (key : Key) {nwk : NwkFrame}
    (hwf : nwk.WellFormed) (hencrypted : nwk.encrypted = true) :
    (nwk.decrypt aes key).NoPanic ↔ nwk.HasSource ∧ 4 ≤ nwk.payload.length := by
  obtain ⟨auxHeader, haux⟩ := Option.isSome_iff_exists.mp
    (hwf.auxHeader.mp (hwf.encrypted.symm.trans hencrypted))
  rw [← NwkFrame.isSome_nonceSource_iff hwf haux, ← NwkFrame.noPanic_splitMacTag_iff,
    NwkFrame.decrypt, hencrypted, NwkFrame.getModifiedAuxHeader_eq haux]
  simp only [Bool.not_true, Bool.false_eq_true, if_false, Outcome.ok_bind]
  cases hsource : nwk.nonceSource auxHeader with
  | none =>
    have hnone : nwk.nonceSource auxHeader.withLevel5 = none := hsource
    have hnonce : nwk.getNonce auxHeader.withLevel5 =
        .panic "Cannot compute nonce with no source address" := by
      rw [NwkFrame.getNonce, hnone]
    rw [hnonce]
    exact iff_of_false (fun hno => hno _ rfl) (by simp)
  | some source =>
    rw [NwkFrame.getNonce_eq hsource, Outcome.ok_bind, Outcome.noPanic_bind_iff]
    simp only [Option.isSome_some, true_and]
    refine and_iff_left fun read _ => ?_
    obtain ⟨ciphertext, tag⟩ := read
    obtain ⟨mac, hmac, -⟩ := NwkCrypto.computeMac_eq_tag aes key
      (xorBytes ciphertext (NwkCrypto.keyStream aes key
        (NwkFrame.nonceOf source auxHeader.withLevel5) ciphertext.length))
      auxHeader.withLevel5 (NwkFrame.nonceOf source auxHeader.withLevel5) hwf.nwkHeader.relays
    simp only [NwkCrypto.encryptDecrypt_eq, Outcome.ok_bind, hmac]
    split
    · exact Outcome.noPanic_err _
    · exact Outcome.noPanic_ok _

variable (aes : Aes128) (keys : List Key)

/-- A network frame is in clear, or one of the keys decrypts it. -/
def decryptable (nwkFrame : NwkFrame) : Bool :=
  !nwkFrame.encrypted || keys.any fun key => decide (nwkFrame.decrypt aes key).Returns

/-- A network frame does not make the search for its key panic. -/
def Searchable (nwkFrame : NwkFrame) : Prop :=
  nwkFrame.encrypted = true → keys ≠ [] → nwkFrame.HasSource ∧ 4 ≤ nwkFrame.payload.length

section Search

variable {aes keys} {keys' : List Key} {nwkFrame : NwkFrame}

theorem decryptAny_returns_iff (aes : Aes128) (hwf : nwkFrame.WellFormed) (hkeys : keys'.Perm keys) :
    (∃ result, decryptAny aes keys' nwkFrame = .ok result) ↔ Searchable keys nwkFrame := by
  rw [decryptAny, Searchable]
  cases hencrypted : nwkFrame.encrypted with
  | false => simp
  | true =>
    have hempty : keys' ≠ [] ↔ keys ≠ [] := not_congr ⟨fun h => (h ▸ hkeys).nil_eq.symm,
      fun h => (h ▸ hkeys).eq_nil⟩
    have hpanic := fun key => noPanic_decrypt_encrypted_iff aes key hwf hencrypted
    rw [← hempty]
    simp only [Bool.not_true, Bool.false_eq_true, if_false, forall_const]
    constructor
    · rintro ⟨result, hresult⟩ hne
      obtain ⟨key, -, hno⟩ := noPanic_of_searchSwap hresult hne
      exact (hpanic key).mp hno
    · intro h
      refine searchSwap_returns fun key hmem => (hpanic key).mpr (h ?_)
      rintro rfl
      exact List.not_mem_nil hmem

theorem of_decryptAny (hkeys : keys'.Perm keys) {found : Option NwkFrame} {keys'' : List Key}
    (h : decryptAny aes keys' nwkFrame = .ok (found, keys'')) :
    keys''.Perm keys ∧ found.isSome = decryptable aes keys nwkFrame := by
  rw [decryptAny] at h
  rw [decryptable]
  cases hencrypted : nwkFrame.encrypted with
  | false =>
    rw [hencrypted] at h
    cases h
    exact ⟨hkeys, rfl⟩
  | true =>
    rw [hencrypted] at h
    obtain ⟨hperm, hfound, -⟩ := of_searchSwap h
    refine ⟨hperm.trans hkeys, Bool.eq_iff_iff.mpr ?_⟩
    simp only [hfound, Bool.not_true, Bool.false_or, List.any_eq_true, decide_eq_true_eq,
      hkeys.mem_iff]

end Search

/-! ## What is counted -/

theorem increment_of_lt {counter : Nat} (h : counter + 1 < 2 ^ 31) :
    increment counter = .ok (counter + 1) := if_pos h

theorem increment_of_le {counter : Nat} (h : 2 ^ 31 ≤ counter + 1) :
    increment counter = .panic "attempt to add with overflow" := if_neg (Nat.not_lt.mpr h)

/-- The packets of the capture, in order. -/
def packets (results : List ReaderResult) : List (List UInt8) :=
  results.filterMap fun
    | .block block => block.frameData
    | _ => none

/-- The reader goes on behind a result. -/
def ReaderResult.Continues : ReaderResult → Prop
  | .block _ => True
  | .incomplete refilled => refilled = true
  | .error => False

/-- The network frame in an unsecured data frame. -/
def networkFrame (frame : Ieee802154Frame) : Option NwkFrame :=
  if frame.frameControl.securityEnabled then none
  else if frame.frameControl.frameType ≠ .data then none
  else
    match NwkFrame.fromBytes frame.payload with
    | .ok nwkFrame => some nwkFrame
    | _ => none

/-- The network frame in the data of a packet. -/
def nwkFrameOf (fcsPresent : Bool) (frameData : List UInt8) : Option NwkFrame :=
  match readFrame fcsPresent frameData with
  | .ok frame => networkFrame frame
  | _ => none

/-- A frame that the tool does not panic on. -/
def HarmlessFrame (frame : Ieee802154Frame) : Prop :=
  frame.frameControl.securityEnabled = false → frame.frameControl.frameType = .data →
    (NwkFrame.fromBytes frame.payload).NoPanic ∧
      ∀ nwkFrame, NwkFrame.fromBytes frame.payload = .ok nwkFrame → Searchable keys nwkFrame

/-- A packet that the tool does not panic on. -/
def Harmless (fcsPresent : Bool) (frameData : List UInt8) : Prop :=
  ∃ frame, readFrame fcsPresent frameData = .ok frame ∧ HarmlessFrame keys frame

/-- The first packet tells whether there is a check sequence. -/
def FcsFrom (ps : List (List UInt8)) (fcsPresent : Bool) : Prop :=
  ∀ first ∈ ps.head?, determineFcs none first = .ok fcsPresent

/-- The counters after packets, and the keys, which are those of the file. -/
structure Counts (fcsPresent : Bool) (ps : List (List UInt8)) (s : DumpState) : Prop where
  perm : s.keys.Perm keys
  totalFrames : s.totalFrames = ps.length
  nwkFrames : s.nwkFrames = (ps.filterMap (nwkFrameOf fcsPresent)).length
  success : s.decryptedFramesSuccess =
    (ps.filterMap (nwkFrameOf fcsPresent)).countP (decryptable aes keys)
  failure : s.decryptedFramesFailure =
    (ps.filterMap (nwkFrameOf fcsPresent)).countP fun nwkFrame => !decryptable aes keys nwkFrame
  fcsPresent : s.fcsPresent = if ps = [] then none else some fcsPresent
  fits : ps.length < 2 ^ 31

theorem counts_start (fcsPresent : Bool) : Counts aes keys fcsPresent [] (.start keys) :=
  ⟨List.Perm.refl keys, rfl, rfl, rfl, rfl, rfl, by decide⟩

section Step

variable {aes keys} {fcsPresent : Bool} {ps : List (List UInt8)} {frameData : List UInt8}
  {s t : DumpState} {nwkFrame : NwkFrame}

/-- The state behind the parser of the frame. -/
def DumpState.counted (s : DumpState) (fcsPresent : Bool) : DumpState :=
  { s with fcsPresent := some fcsPresent, totalFrames := s.totalFrames + 1 }

/-- None of the counters of network frames is ahead of the packets. -/
theorem Counts.le (h : Counts aes keys fcsPresent ps s) : s.nwkFrames ≤ ps.length ∧
    s.decryptedFramesSuccess ≤ ps.length ∧ s.decryptedFramesFailure ≤ ps.length := by
  have hframes := List.length_filterMap_le (nwkFrameOf fcsPresent) ps
  rw [h.nwkFrames, h.success, h.failure]
  exact ⟨hframes, List.countP_le_length.trans hframes, List.countP_le_length.trans hframes⟩

/-- A packet without a network frame is counted. -/
theorem Counts.skip (h : Counts aes keys fcsPresent ps s)
    (hfits : (ps ++ [frameData]).length < 2 ^ 31) (hnone : nwkFrameOf fcsPresent frameData = none) :
    Counts aes keys fcsPresent (ps ++ [frameData]) (s.counted fcsPresent) := by
  have hframes : (ps ++ [frameData]).filterMap (nwkFrameOf fcsPresent) =
      ps.filterMap (nwkFrameOf fcsPresent) := by
    rw [List.filterMap_append, List.filterMap_cons_none hnone, List.filterMap_nil, List.append_nil]
  constructor
  · exact h.perm
  · rw [DumpState.counted, h.totalFrames, List.length_append]
    rfl
  · rw [hframes]
    exact h.nwkFrames
  · rw [hframes]
    exact h.success
  · rw [hframes]
    exact h.failure
  · rw [if_neg (by simp)]
    rfl
  · exact hfits

/-- What counting a network frame comes to, while the counters have room. -/
theorem countNwkFrame_eq (hroom : s.nwkFrames + 1 < 2 ^ 31 ∧
      s.decryptedFramesSuccess + 1 < 2 ^ 31 ∧ s.decryptedFramesFailure + 1 < 2 ^ 31) :
    s.countNwkFrame aes nwkFrame =
      decryptAny aes s.keys nwkFrame >>= fun (decrypted, keys) =>
        let s := { s with nwkFrames := s.nwkFrames + 1, keys := keys }
        if decrypted.isNone then
          .ok { s with decryptedFramesFailure := s.decryptedFramesFailure + 1 }
        else .ok { s with decryptedFramesSuccess := s.decryptedFramesSuccess + 1 } := by
  rw [DumpState.countNwkFrame, increment_of_lt hroom.1, Outcome.ok_bind]
  simp only [increment_of_lt hroom.2.1, increment_of_lt hroom.2.2, Outcome.ok_bind]

/-- A network frame is counted as a success exactly if it is in clear or some key decrypts it. -/
theorem Counts.count (h : Counts aes keys fcsPresent ps s)
    (hfits : (ps ++ [frameData]).length < 2 ^ 31)
    (hsome : nwkFrameOf fcsPresent frameData = some nwkFrame) {found : Option NwkFrame}
    {keys' : List Key} (hsearch : decryptAny aes s.keys nwkFrame = .ok (found, keys'))
    (ht : (let s := { s.counted fcsPresent with nwkFrames := s.nwkFrames + 1, keys := keys' }
      if found.isNone then
        (.ok { s with decryptedFramesFailure := s.decryptedFramesFailure + 1 } : Outcome Empty _)
      else .ok { s with decryptedFramesSuccess := s.decryptedFramesSuccess + 1 }) = .ok t) :
    Counts aes keys fcsPresent (ps ++ [frameData]) t := by
  have hframes : (ps ++ [frameData]).filterMap (nwkFrameOf fcsPresent) =
      ps.filterMap (nwkFrameOf fcsPresent) ++ [nwkFrame] := by
    rw [List.filterMap_append, List.filterMap_cons_some hsome, List.filterMap_nil]
  obtain ⟨hperm, hfound⟩ := of_decryptAny h.perm hsearch
  have htotal := h.totalFrames
  have hnwk := h.nwkFrames
  have hsuccess := h.success
  have hfailure := h.failure
  cases found with
  | none =>
    cases ht
    have hnot : decryptable aes keys nwkFrame = false := hfound.symm
    constructor
    · exact hperm
    · simp [DumpState.counted, htotal]
    · simp [hnwk, hframes]
    · simp [DumpState.counted, hsuccess, hframes, hnot]
    · simp [DumpState.counted, hfailure, hframes, hnot]
    · simp [DumpState.counted]
    · exact hfits
  | some decrypted =>
    cases ht
    have hyes : decryptable aes keys nwkFrame = true := hfound.symm
    constructor
    · exact hperm
    · simp [DumpState.counted, htotal]
    · simp [hnwk, hframes]
    · simp [DumpState.counted, hsuccess, hframes, hyes]
    · simp [DumpState.counted, hfailure, hframes, hyes]
    · simp [DumpState.counted]
    · exact hfits

/-- What a network frame does, while there is room for the packet. -/
theorem countNwkFrame_spec (h : Counts aes keys fcsPresent ps s)
    (hfits : (ps ++ [frameData]).length < 2 ^ 31) (hwf : nwkFrame.WellFormed)
    (hsome : nwkFrameOf fcsPresent frameData = some nwkFrame) :
    ((∃ t, (s.counted fcsPresent).countNwkFrame aes nwkFrame = .ok t) ↔
        Searchable keys nwkFrame) ∧
      ∀ t, (s.counted fcsPresent).countNwkFrame aes nwkFrame = .ok t →
        Counts aes keys fcsPresent (ps ++ [frameData]) t := by
  obtain ⟨hnwk, hsuccess, hfailure⟩ := h.le
  rw [List.length_append, List.length_singleton] at hfits
  rw [countNwkFrame_eq (s := s.counted fcsPresent)
    ⟨Nat.lt_of_le_of_lt (Nat.succ_le_succ hnwk) hfits,
      Nat.lt_of_le_of_lt (Nat.succ_le_succ hsuccess) hfits,
      Nat.lt_of_le_of_lt (Nat.succ_le_succ hfailure) hfits⟩,
    ← decryptAny_returns_iff aes hwf h.perm]
  refine ⟨⟨?_, ?_⟩, ?_⟩
  · rintro ⟨t, ht⟩
    obtain ⟨result, hresult, -⟩ := Outcome.bind_eq_ok.mp ht
    exact ⟨result, hresult⟩
  · rintro ⟨⟨found, keys'⟩, hresult⟩
    have hsame : decryptAny aes (s.counted fcsPresent).keys nwkFrame = .ok (found, keys') := hresult
    rw [hsame, Outcome.ok_bind]
    dsimp only
    split <;> exact ⟨_, rfl⟩
  · intro t ht
    obtain ⟨⟨found, keys'⟩, hsearch, ht⟩ := Outcome.bind_eq_ok.mp ht
    exact h.count (by rwa [List.length_append, List.length_singleton]) hsome hsearch ht

/-- What the network frame in a frame does, while there is room for the packet. -/
theorem countPayload_spec (h : Counts aes keys fcsPresent ps s)
    (hfits : (ps ++ [frameData]).length < 2 ^ 31) {frame : Ieee802154Frame}
    (hread : readFrame fcsPresent frameData = .ok frame) :
    ((∃ t, (s.counted fcsPresent).countPayload aes frame = .ok t) ↔ HarmlessFrame keys frame) ∧
      ∀ t, (s.counted fcsPresent).countPayload aes frame = .ok t →
        Counts aes keys fcsPresent (ps ++ [frameData]) t := by
  have hof : nwkFrameOf fcsPresent frameData = networkFrame frame := by rw [nwkFrameOf, hread]
  have hskip : networkFrame frame = none →
      (s.counted fcsPresent).countPayload aes frame = .ok (s.counted fcsPresent) →
      ((∃ t, (s.counted fcsPresent).countPayload aes frame = .ok t) ↔ True) ∧
        ∀ t, (s.counted fcsPresent).countPayload aes frame = .ok t →
          Counts aes keys fcsPresent (ps ++ [frameData]) t := by
    intro hnone heq
    rw [heq]
    refine ⟨iff_of_true ⟨_, rfl⟩ trivial, ?_⟩
    rintro _ ⟨⟩
    exact h.skip hfits (hof.trans hnone)
  by_cases hsecured : frame.frameControl.securityEnabled = true
  · have hharmless : HarmlessFrame keys frame := fun hclear => by simp [hclear] at hsecured
    rw [iff_true_intro hharmless]
    exact hskip (by rw [networkFrame, if_pos hsecured])
      (by rw [DumpState.countPayload, if_pos hsecured])
  by_cases htype : frame.frameControl.frameType = .data
  swap
  · have hharmless : HarmlessFrame keys frame := fun _ hdata => absurd hdata htype
    rw [iff_true_intro hharmless]
    exact hskip (by rw [networkFrame, if_neg hsecured, if_pos htype])
      (by rw [DumpState.countPayload, if_neg hsecured, if_pos htype])
  rw [HarmlessFrame, DumpState.countPayload, if_neg hsecured, if_neg (not_not.mpr htype)]
  rw [networkFrame, if_neg hsecured, if_neg (not_not.mpr htype)] at hof hskip
  rw [DumpState.countPayload, if_neg hsecured, if_neg (not_not.mpr htype)] at hskip
  rw [Bool.not_eq_true] at hsecured
  simp only [hsecured, htype, forall_const]
  cases hnwk : NwkFrame.fromBytes frame.payload with
  | panic m => simp [Outcome.NoPanic]
  | err e =>
    rw [hnwk] at hskip
    have hharmless : (Outcome.err e : Outcome String NwkFrame).NoPanic ∧
        ∀ nwkFrame, Outcome.err e = .ok nwkFrame → Searchable keys nwkFrame :=
      ⟨Outcome.noPanic_err e, by rintro _ ⟨⟩⟩
    rw [iff_true_intro hharmless]
    exact hskip rfl rfl
  | ok nwkFrame =>
    rw [hnwk] at hof
    obtain ⟨hreturns, hcounts⟩ :=
      countNwkFrame_spec h hfits (wellFormed_of_fromBytes hnwk) hof
    refine ⟨hreturns.trans ⟨fun hsearch => ⟨Outcome.noPanic_ok _, ?_⟩, fun hall => ?_⟩, hcounts⟩
    · rintro _ ⟨⟩
      exact hsearch
    · exact hall.2 nwkFrame rfl

/-- What a frame does. -/
theorem countFrame_spec (h : Counts aes keys fcsPresent ps s) {frame : Ieee802154Frame}
    (hread : readFrame fcsPresent frameData = .ok frame) :
    let s' := { s with fcsPresent := some fcsPresent }
    ((∃ t, s'.countFrame aes frame = .ok t) ↔
        HarmlessFrame keys frame ∧ (ps ++ [frameData]).length < 2 ^ 31) ∧
      ∀ t, s'.countFrame aes frame = .ok t → Counts aes keys fcsPresent (ps ++ [frameData]) t := by
  intro s'
  have htotal : s'.totalFrames = ps.length := h.totalFrames
  have hlength : (ps ++ [frameData]).length = ps.length + 1 := by simp
  by_cases hfits : (ps ++ [frameData]).length < 2 ^ 31
  · rw [and_iff_left hfits, DumpState.countFrame, increment_of_lt (by omega), Outcome.ok_bind]
    exact countPayload_spec h hfits hread
  · have hpanic : s'.countFrame aes frame = .panic "attempt to add with overflow" := by
      rw [DumpState.countFrame, increment_of_le (by omega), Outcome.panic_bind]
    rw [hpanic]
    exact ⟨iff_of_false (by rintro ⟨t, ⟨⟩⟩) (fun hboth => hfits hboth.2), by rintro t ⟨⟩⟩

/-- What a packet does, once the first one has told whether there is a check sequence. -/
theorem processFrame_spec (h : Counts aes keys fcsPresent ps s)
    (hfcs : FcsFrom (ps ++ [frameData]) fcsPresent) :
    ((∃ t, s.processFrame aes frameData = .ok t) ↔
        Harmless keys fcsPresent frameData ∧ (ps ++ [frameData]).length < 2 ^ 31) ∧
      ∀ t, s.processFrame aes frameData = .ok t →
        Counts aes keys fcsPresent (ps ++ [frameData]) t := by
  have hdetermine : determineFcs s.fcsPresent frameData = .ok fcsPresent := by
    rw [h.fcsPresent]
    cases ps with
    | nil => exact hfcs frameData rfl
    | cons first ps => rfl
  rw [DumpState.processFrame, hdetermine, Outcome.ok_bind, Harmless]
  cases hread : readFrame fcsPresent frameData with
  | err e => simp [Outcome.expect]
  | panic m => simp [Outcome.expect]
  | ok frame =>
    obtain ⟨hreturns, hcounts⟩ := countFrame_spec h hread
    simp only [Outcome.expect, Outcome.ok_bind, Outcome.ok.injEq, exists_eq_left']
    exact ⟨hreturns, hcounts⟩

/-! ## The whole capture -/

theorem packets_cons (result : ReaderResult) (results : List ReaderResult) :
    packets (result :: results) = packets [result] ++ packets results := by
  rw [packets, packets, packets, ← List.filterMap_append]
  rfl

/-- What a result of the reader does. -/
theorem next_spec (h : Counts aes keys fcsPresent ps s) {result : ReaderResult}
    (hfcs : FcsFrom (ps ++ packets [result]) fcsPresent) :
    ((∃ t, s.next aes result = .ok t) ↔
        result.Continues ∧ (∀ frameData ∈ packets [result], Harmless keys fcsPresent frameData) ∧
          (ps ++ packets [result]).length < 2 ^ 31) ∧
      ∀ t, s.next aes result = .ok t →
        Counts aes keys fcsPresent (ps ++ packets [result]) t := by
  cases result with
  | error => simp [DumpState.next, ReaderResult.Continues]
  | incomplete refilled =>
    cases refilled with
    | false => simp [DumpState.next, ReaderResult.Continues]
    | true => simpa [DumpState.next, ReaderResult.Continues, packets, h] using h.fits
  | block block =>
    cases hdata : block.frameData with
    | none => simpa [DumpState.next, ReaderResult.Continues, packets, hdata, h] using h.fits
    | some frameData =>
      have hpackets : packets [.block block] = [frameData] := by simp [packets, hdata]
      rw [hpackets] at hfcs ⊢
      obtain ⟨hreturns, hcounts⟩ := processFrame_spec h hfcs
      simp only [DumpState.next, hdata, ReaderResult.Continues, true_and, List.mem_singleton,
        forall_eq]
      exact ⟨hreturns, hcounts⟩

/-- What the loop does, once the first packet has told whether there is a check sequence. -/
theorem run_spec (aes : Aes128) (results : List ReaderResult) (h : Counts aes keys fcsPresent ps s)
    (hfcs : FcsFrom (ps ++ packets results) fcsPresent) :
    ((∃ t, results.foldlM (DumpState.next aes) s = .ok t) ↔
        (∀ result ∈ results, result.Continues) ∧
          (∀ frameData ∈ packets results, Harmless keys fcsPresent frameData) ∧
          (ps ++ packets results).length < 2 ^ 31) ∧
      ∀ t, results.foldlM (DumpState.next aes) s = .ok t →
        Counts aes keys fcsPresent (ps ++ packets results) t := by
  induction results generalizing ps s with
  | nil => simpa [packets, h] using h.fits
  | cons result results ih =>
    rw [packets_cons] at hfcs ⊢
    rw [← List.append_assoc] at hfcs ⊢
    have hfirst : FcsFrom (ps ++ packets [result]) fcsPresent := by
      intro first hmem
      refine hfcs first ?_
      rw [Option.mem_def] at hmem ⊢
      rw [List.head?_append, hmem]
      rfl
    obtain ⟨hreturns, hcounts⟩ := next_spec h hfirst
    simp only [List.mem_cons, List.mem_append, or_imp, forall_and, forall_eq, List.foldlM_cons,
      Outcome.bind_eq_ok]
    constructor
    · constructor
      · rintro ⟨t, u, hnext, hrest⟩
        obtain ⟨hcontinues, hharmless, -⟩ := hreturns.mp ⟨u, hnext⟩
        obtain ⟨hcontinues', hharmless', hfits⟩ := (ih (hcounts u hnext) hfcs).1.mp ⟨t, hrest⟩
        exact ⟨⟨hcontinues, hcontinues'⟩, ⟨hharmless, hharmless'⟩, hfits⟩
      · rintro ⟨⟨hcontinues, hcontinues'⟩, ⟨hharmless, hharmless'⟩, hfits⟩
        have hroom : (ps ++ packets [result]).length < 2 ^ 31 := by
          rw [List.length_append] at hfits
          omega
        obtain ⟨u, hnext⟩ := hreturns.mpr ⟨hcontinues, hharmless, hroom⟩
        obtain ⟨t, hrest⟩ := (ih (hcounts u hnext) hfcs).1.mpr ⟨hcontinues', hharmless', hfits⟩
        exact ⟨t, u, hnext, hrest⟩
    · rintro t ⟨u, hnext, hrest⟩
      exact (ih (hcounts u hnext) hfcs).2 t hrest

/-- A first packet that does not tell whether there is a check sequence ends the tool. -/
theorem exists_fcsFrom {results : List ReaderResult} {s t : DumpState} (hs : s.fcsPresent = none)
    (h : results.foldlM (DumpState.next aes) s = .ok t) :
    ∃ fcsPresent, FcsFrom (packets results) fcsPresent := by
  induction results generalizing s with
  | nil => exact ⟨true, by rintro _ ⟨⟩⟩
  | cons result results ih =>
    obtain ⟨u, hnext, hrest⟩ := Outcome.bind_eq_ok.mp h
    rw [packets_cons]
    cases result with
    | error => cases hnext
    | incomplete refilled =>
      cases refilled with
      | false => cases hnext
      | true =>
        cases hnext
        exact ih hs hrest
    | block block =>
      rw [DumpState.next] at hnext
      cases hdata : block.frameData with
      | none =>
        rw [hdata] at hnext
        cases hnext
        have hpackets : packets [.block block] = [] := by simp [packets, hdata]
        rw [hpackets]
        exact ih hs hrest
      | some frameData =>
        rw [hdata] at hnext
        obtain ⟨fcsPresent, hfcs, -⟩ := Outcome.bind_eq_ok.mp hnext
        rw [hs] at hfcs
        have hpackets : packets [.block block] = [frameData] := by simp [packets, hdata]
        refine ⟨fcsPresent, ?_⟩
        rw [hpackets]
        rintro _ ⟨⟩
        exact hfcs

end Step

/-- The tool returns exactly if the file is read to its end, the first packet tells whether there
    is a check sequence, no packet makes it panic, and there are no more than an `i32` counts. Then
    its counters count the packets, the network frames in them, and those that are in clear or
    that some key of the file decrypts, and the keys are those of the file. -/
theorem dump_counts (results : List ReaderResult) :
    ((∃ s, dump aes keys results = .ok s) ↔ (∀ result ∈ results, result.Continues) ∧
        (packets results).length < 2 ^ 31 ∧
        ∃ fcsPresent, FcsFrom (packets results) fcsPresent ∧
          ∀ frameData ∈ packets results, Harmless keys fcsPresent frameData) ∧
      ∀ s, dump aes keys results = .ok s →
        (∀ fcsPresent, FcsFrom (packets results) fcsPresent →
          Counts aes keys fcsPresent (packets results) s) ∧
        s.nwkFrames = s.decryptedFramesSuccess + s.decryptedFramesFailure := by
  have hrun := fun fcsPresent hfcs =>
    run_spec aes results (counts_start aes keys fcsPresent) hfcs
  simp only [List.nil_append] at hrun
  have hfirst : ∀ s, dump aes keys results = .ok s →
      ∃ fcsPresent, FcsFrom (packets results) fcsPresent := fun s h => exists_fcsFrom rfl h
  refine ⟨⟨?_, ?_⟩, ?_⟩
  · rintro ⟨s, h⟩
    obtain ⟨fcsPresent, hfcs⟩ := hfirst s h
    obtain ⟨hcontinues, hharmless, hfits⟩ := (hrun fcsPresent hfcs).1.mp ⟨s, h⟩
    exact ⟨hcontinues, hfits, fcsPresent, hfcs, hharmless⟩
  · rintro ⟨hcontinues, hfits, fcsPresent, hfcs, hharmless⟩
    exact (hrun fcsPresent hfcs).1.mpr ⟨hcontinues, hharmless, hfits⟩
  · intro s h
    refine ⟨fun fcsPresent hfcs => (hrun fcsPresent hfcs).2 s h, ?_⟩
    obtain ⟨fcsPresent, hfcs⟩ := hfirst s h
    have hcounts := (hrun fcsPresent hfcs).2 s h
    rw [hcounts.nwkFrames, hcounts.success, hcounts.failure]
    simpa using List.length_eq_countP_add_countP (decryptable aes keys)

end ZigpySpinel.Tools
