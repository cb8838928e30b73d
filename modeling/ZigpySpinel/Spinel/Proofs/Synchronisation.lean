import ZigpySpinel.Spinel.Proofs.Chunking

/-!
# Synchronisation on the first Flag byte

A fresh protocol object ignores what it receives until the first Flag byte, so that a
frame is what stands between two Flag bytes. The loop clears the ignore flag where it
finds that byte, but leaves the bytes before it in the buffer. The next pass takes them
for a segment, and a receiver that starts in the middle of a frame decodes its end.
-/

namespace ZigpySpinel.Spinel.SpinelProtocol
open Lib

variable (crcKermit : List UInt8 → UInt16)

/-- The bytes received before the first Flag byte. -/
def leadingSegment (stream : List UInt8) : List UInt8 :=
  stream.takeWhile (· != HdlcSpecial.flag.toU8)

/-- The nonempty segments that lie between two consecutive Flag bytes. -/
def flaggedSegments (stream : List UInt8) : List (List UInt8) :=
  (segments HdlcSpecial.flag.toU8 stream).1.tail.filter (· != [])

/-- The frames of a receiver that waits for the first Flag byte. -/
def synchronisedFrames (stream : List UInt8) : List SpinelFrame :=
  (flaggedSegments stream).filterMap (parseSegment crcKermit)

/-- All frames that a fresh protocol object produces from these reads. -/
def producedFrames (chunks : List (List UInt8)) : List SpinelFrame :=
  (parseChunksInto crcKermit new chunks []).2.1

theorem leadingSegment_cut {head : List UInt8} (hhead : HdlcSpecial.flag.toU8 ∉ head)
    (tail : List UInt8) : leadingSegment (head ++ HdlcSpecial.flag.toU8 :: tail) = head := by
  have hall : ∀ b ∈ head, (b != HdlcSpecial.flag.toU8) = true := by
    intro b hb
    rw [bne_iff_ne]
    rintro rfl
    exact hhead hb
  rw [leadingSegment, List.takeWhile_append_of_pos hall]
  simp

theorem flaggedSegments_cut {head : List UInt8} (hhead : HdlcSpecial.flag.toU8 ∉ head)
    (tail : List UInt8) :
    flaggedSegments (head ++ HdlcSpecial.flag.toU8 :: tail) =
      (segments HdlcSpecial.flag.toU8 tail).1.filter (· != []) := by
  simp [flaggedSegments, segments_cut hhead]

/-- Too short to be decoded. -/
theorem parseSegment_nil : parseSegment crcKermit [] = none := rfl

/-- The check for consecutive Flag bytes does not change what is decoded. -/
theorem segmentFrames_eq (segment : List UInt8) :
    segmentFrames crcKermit segment = (parseSegment crcKermit segment).toList := by
  cases segment with
  | nil => simp [segmentFrames, parseSegment_nil]
  | cons b segment => simp [segmentFrames]

theorem flatMap_segmentFrames (complete : List (List UInt8)) :
    complete.flatMap (segmentFrames crcKermit) =
      (complete.filter (· != [])).filterMap (parseSegment crcKermit) := by
  induction complete with
  | nil => rfl
  | cons segment complete ih =>
    rw [List.flatMap_cons, ih, segmentFrames_eq]
    by_cases hnil : segment = []
    · simp [hnil, parseSegment_nil]
    · cases hparse : parseSegment crcKermit segment with
      | none => simp [hnil, hparse]
      | some frame => simp [hnil, hparse]

theorem producedFrames_eq (chunks : List (List UInt8)) :
    producedFrames crcKermit chunks = streamFrames crcKermit chunks.flatten := by
  cases chunks with
  | nil => rfl
  | cons chunk chunks =>
    rw [producedFrames, parseChunksInto_flatten, parseFramesFromBytesInto_eq]
    rfl

/-- What is decoded of a stream: the leading segment too, once a Flag byte ends it. -/
theorem streamFrames_eq_leading {stream : List UInt8} (hflag : HdlcSpecial.flag.toU8 ∈ stream) :
    streamFrames crcKermit stream =
      (parseSegment crcKermit (leadingSegment stream)).toList ++ synchronisedFrames crcKermit stream := by
  obtain ⟨head, tail, rfl, hhead⟩ := List.eq_append_cons_of_mem hflag
  rw [streamFrames_cut crcKermit hhead, leadingSegment_cut hhead, segmentFrames_eq,
    synchronisedFrames, flaggedSegments_cut hhead, streamFrames, flatMap_segmentFrames]

theorem synchronisedFrames_of_notMem {stream : List UInt8}
    (hflag : HdlcSpecial.flag.toU8 ∉ stream) :
    synchronisedFrames crcKermit stream = [] ∧ streamFrames crcKermit stream = [] := by
  simp [synchronisedFrames, flaggedSegments, streamFrames, segments_of_notMem hflag]

/-- However the stream is cut, a fresh protocol object produces the frames that lie between
    two Flag bytes, and no others, exactly if the bytes before the first Flag byte do not
    decode. -/
theorem producedFrames_synchronised_iff (chunks : List (List UInt8)) :
    producedFrames crcKermit chunks = synchronisedFrames crcKermit chunks.flatten ↔
      (HdlcSpecial.flag.toU8 ∈ chunks.flatten →
        parseSegment crcKermit (leadingSegment chunks.flatten) = none) := by
  rw [producedFrames_eq]
  by_cases hflag : HdlcSpecial.flag.toU8 ∈ chunks.flatten
  · rw [streamFrames_eq_leading crcKermit hflag, List.append_left_eq_self]
    cases hparse : parseSegment crcKermit (leadingSegment chunks.flatten) with
    | none => simp
    | some frame => simp [hflag]
  · obtain ⟨hsynchronised, hframes⟩ := synchronisedFrames_of_notMem crcKermit hflag
    simp [hsynchronised, hframes, hflag]

/-- The end of a `PropValueGet` request, of which the opening Flag byte was missed, is
    taken for a frame. -/
theorem missedFlag_decoded :
    ¬ ∀ (crcKermit : List UInt8 → UInt16) (chunks : List (List UInt8)),
      producedFrames crcKermit chunks = synchronisedFrames crcKermit chunks.flatten := by
  intro h
  have hframes := h (fun _ => 0x7FA1) [[0x81, 0x02, 0x02], [0x5E, 0x80, 0x7E]]
  rw [producedFrames_eq] at hframes
  revert hframes
  decide

end ZigpySpinel.Spinel.SpinelProtocol
