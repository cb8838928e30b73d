import ZigpySpinel.Lib.Crc
import ZigpySpinel.Spinel.Proofs.HdlcRoundTrip

/-!
# The byte strings that are HDLC-Lite frames

`Tokens` is the grammar of an escaped byte string: Flag bytes, bytes that stand for
themselves, and escape pairs. The unescaping loop follows it byte by byte, and in the
middle of an escape pair the bytes read so far are those of the grammar and an Escape.
Nothing looks at `unescaping` behind the loop, so `from_bytes` also takes a frame that
an Escape with nothing after it follows.
-/

namespace ZigpySpinel.Spinel.HdlcLiteFrame
open Lib

/-- A byte string splits into tokens that contribute these bytes. -/
inductive Tokens : List UInt8 → List UInt8 → Prop
  | nil : Tokens [] []
  | flag {bytes data : List UInt8} : Tokens bytes data →
      Tokens (HdlcSpecial.flag.toU8 :: bytes) data
  | plain {byte : UInt8} {bytes data : List UInt8} : byte ≠ HdlcSpecial.flag.toU8 →
      byte ≠ HdlcSpecial.escape.toU8 → Tokens bytes data → Tokens (byte :: bytes) (byte :: data)
  | escaped {special : UInt8} {bytes data : List UInt8} : isSpecial special = true →
      Tokens bytes data →
      Tokens (HdlcSpecial.escape.toU8 :: (special ^^^ 0x20) :: bytes) (special :: data)

namespace Tokens

variable {bytes bytes' data data' : List UInt8}

theorem append (h : Tokens bytes data) (h' : Tokens bytes' data') :
    Tokens (bytes ++ bytes') (data ++ data') := by
  induction h with
  | nil => exact h'
  | flag _ ih => exact .flag ih
  | plain hflag hescape _ ih => exact .plain hflag hescape ih
  | escaped hspecial _ ih => exact .escaped hspecial ih

/-- The loop reads the contributions of the tokens. -/
theorem unescape (h : Tokens bytes data) (before : List UInt8) :
    bytes.foldlM unescapeByte { data := before, unescaping := false } =
      .ok { data := before ++ data, unescaping := false } := by
  induction h generalizing before with
  | nil => rw [List.append_nil]; rfl
  | flag _ ih =>
    rw [List.foldlM_cons, ← ih before]
    rfl
  | @plain byte bytes data hflag hescape _ ih =>
    have hbyte : unescapeByte { data := before, unescaping := false } byte =
        .ok { data := before ++ [byte], unescaping := false } := by
      simp [unescapeByte, hflag, hescape]
    rw [List.foldlM_cons, hbyte, Outcome.ok_bind, ih, List.append_assoc, List.singleton_append]
  | @escaped special bytes data hspecial _ ih =>
    have hpair : unescapeByte { data := before, unescaping := true } (special ^^^ 0x20) =
        .ok { data := before ++ [special], unescaping := false } :=
      unescapeByte_escaped before hspecial
    rw [List.foldlM_cons]
    change ([special ^^^ 0x20] ++ bytes).foldlM unescapeByte
      { data := before, unescaping := true } = _
    rw [List.singleton_append, List.foldlM_cons, hpair, Outcome.ok_bind, ih, List.append_assoc,
      List.singleton_append]

/-- No byte string of the grammar ends in the first half of an escape pair. -/
theorem not_concat_escape (h : Tokens bytes data) :
    ¬ Tokens (bytes ++ [HdlcSpecial.escape.toU8]) data' := by
  intro h'
  have hloop := h'.unescape []
  rw [List.foldlM_append, h.unescape, Outcome.ok_bind] at hloop
  cases hloop

end Tokens

/-! ## The loop follows the grammar -/

/-- What the loop has read when it is in this state. -/
def HasRead (bytes : List UInt8) (st : Unescape) : Prop :=
  (st.unescaping = false ∧ Tokens bytes st.data) ∨
    (st.unescaping = true ∧ ∃ whole, bytes = whole ++ [HdlcSpecial.escape.toU8] ∧
      Tokens whole st.data)

theorem hasRead_unescapeByte {bytes : List UInt8} {byte : UInt8} {st st' : Unescape}
    (h : HasRead bytes st) (hbyte : unescapeByte st byte = .ok st') :
    HasRead (bytes ++ [byte]) st' := by
  rcases h with ⟨houtside, htokens⟩ | ⟨hinside, whole, rfl, htokens⟩
  · rcases unescapeByte_cases hbyte with ⟨hinside, -⟩ | ⟨-, rfl, rfl⟩ | ⟨-, rfl, rfl⟩ |
      ⟨-, hflag, hescape, rfl⟩
    · rw [houtside] at hinside
      cases hinside
    · exact .inr ⟨rfl, bytes, rfl, htokens⟩
    · refine .inl ⟨houtside, ?_⟩
      simpa using htokens.append (.flag .nil)
    · exact .inl ⟨rfl, htokens.append (.plain hflag hescape .nil)⟩
  · rcases unescapeByte_cases hbyte with ⟨-, hspecial, rfl⟩ | ⟨houtside, -⟩ | ⟨houtside, -⟩ |
      ⟨houtside, -⟩
    · have hpair : Tokens [HdlcSpecial.escape.toU8, byte] [byte ^^^ 0x20] := by
        have hescaped := Tokens.escaped hspecial .nil
        rwa [xor_bit5_xor_bit5] at hescaped
      refine .inl ⟨rfl, ?_⟩
      rw [List.append_assoc]
      exact htokens.append hpair
    all_goals
      rw [hinside] at houtside
      cases houtside

/-- Where the loop ends without an error, it has read the grammar, or the grammar and an
    Escape. -/
theorem unescape_eq_ok_iff {bytes data : List UInt8} :
    (∃ st, bytes.foldlM unescapeByte {} = .ok st ∧ st.data = data) ↔
      Tokens bytes data ∨
        ∃ whole, bytes = whole ++ [HdlcSpecial.escape.toU8] ∧ Tokens whole data := by
  constructor
  · intro hends
    rcases hends with ⟨st, hloop, rfl⟩
    have hread : HasRead bytes st := by
      refine Outcome.foldlM_inv HasRead ?_ (.inl ⟨rfl, .nil⟩) hloop
      intro done byte st st' h hbyte
      exact hasRead_unescapeByte h hbyte
    rcases hread with ⟨-, htokens⟩ | ⟨-, hescape⟩
    · exact .inl htokens
    · exact .inr hescape
  · intro hparses
    rcases hparses with htokens | ⟨whole, rfl, htokens⟩
    · exact ⟨_, htokens.unescape [], rfl⟩
    · refine ⟨{ data := data, unescaping := true }, ?_, rfl⟩
      rw [List.foldlM_append, htokens.unescape, Outcome.ok_bind]
      rfl

variable (crcKermit : List UInt8 → UInt16)

/-- What a frame with this data looks like between its tokens: the data, then its CRC. -/
def content (data : List UInt8) : List UInt8 := data ++ u16ToLeBytes (crcOf crcKermit data)

theorem fromBytes_eq_ok_iff_tokens {bytes data : List UInt8} :
    fromBytes crcKermit bytes = .ok { data := data } ↔
      Tokens bytes (content crcKermit data) ∨
        ∃ whole, bytes = whole ++ [HdlcSpecial.escape.toU8] ∧
          Tokens whole (content crcKermit data) := by
  rw [fromBytes_eq_ok_iff, ← unescape_eq_ok_iff]
  rfl

/-- `from_bytes` accepts exactly the grammar, unless the bytes are a frame of it that an Escape
    with nothing after it follows. -/
theorem accepts_grammar_iff_not_aborted (bytes : List UInt8) :
    (∀ data, fromBytes crcKermit bytes = .ok { data := data } ↔
        Tokens bytes (content crcKermit data)) ↔
      ¬ ∃ whole data, bytes = whole ++ [HdlcSpecial.escape.toU8] ∧
        Tokens whole (content crcKermit data) := by
  constructor
  · intro h haborted
    rcases haborted with ⟨whole, data, rfl, htokens⟩
    have haccepted := (fromBytes_eq_ok_iff_tokens crcKermit).mpr (.inr ⟨whole, rfl, htokens⟩)
    exact htokens.not_concat_escape ((h data).mp haccepted)
  · intro h data
    rw [fromBytes_eq_ok_iff_tokens]
    constructor
    · intro hparses
      rcases hparses with htokens | ⟨whole, rfl, htokens⟩
      · exact htokens
      · exact absurd ⟨whole, data, rfl, htokens⟩ h
    · exact Or.inl

/-! ## An aborted frame -/

theorem tokens_escapeByte (byte : UInt8) : Tokens (escapeByte byte) [byte] := by
  unfold escapeByte
  by_cases h : isSpecial byte = true
  · rw [if_pos h]
    exact .escaped h .nil
  · rw [if_neg h]
    refine .plain ?_ ?_ .nil
    · intro heq
      subst heq
      exact h isSpecial_flag
    · intro heq
      subst heq
      exact h isSpecial_escape

theorem tokens_toBytes (frame : HdlcLiteFrame) :
    Tokens (frame.toBytes crcKermit) (content crcKermit frame.data) := by
  rw [toBytes, content]
  generalize frame.data ++ u16ToLeBytes (crcOf crcKermit frame.data) = bytes
  induction bytes with
  | nil => exact .nil
  | cons byte bytes ih => exact (tokens_escapeByte byte).append ih

/-- Every encoded frame is accepted with an Escape behind it, against the grammar. -/
theorem fromBytes_toBytes_escape (frame : HdlcLiteFrame) :
    fromBytes crcKermit (frame.toBytes crcKermit ++ [HdlcSpecial.escape.toU8]) = .ok frame ∧
      ¬ Tokens (frame.toBytes crcKermit ++ [HdlcSpecial.escape.toU8])
        (content crcKermit frame.data) := by
  have htokens := tokens_toBytes crcKermit frame
  exact ⟨(fromBytes_eq_ok_iff_tokens crcKermit).mpr (.inr ⟨_, rfl, htokens⟩),
    htokens.not_concat_escape⟩

/-- A register that computes the CRCs of the tests, one bit at a time. -/
def kermitRegister (data : List UInt8) : UInt16 :=
  .ofBitVec (Crc.register 0x8408#16 0xFFFF#16 (data.flatMap fun b => lsbFirst b.toBitVec))

/-- A vector of `test_hdlc_lite_frame_vectors` (`spinel.rs:691-698`). -/
theorem toBytes_vector : toBytes kermitRegister { data := [0x81, 0x02, 0x43] } =
    [0x81, 0x02, 0x43, 0xD3, 0xD3] := by decide +kernel

/-- The vector is accepted with an Escape behind it. -/
theorem fromBytes_aborted :
    fromBytes kermitRegister [0x81, 0x02, 0x43, 0xD3, 0xD3, 0x7D] =
      .ok { data := [0x81, 0x02, 0x43] } ∧
    ¬ Tokens [0x81, 0x02, 0x43, 0xD3, 0xD3, 0x7D]
      (content kermitRegister [0x81, 0x02, 0x43]) := by
  have h := fromBytes_toBytes_escape kermitRegister { data := [0x81, 0x02, 0x43] }
  rw [toBytes_vector] at h
  exact h

end ZigpySpinel.Spinel.HdlcLiteFrame
