import ZigpySpinel.Lib.Delimited
import ZigpySpinel.Spinel.Proofs.HdlcRoundTrip
import ZigpySpinel.Spinel.Protocol

/-!
# The parsing loop refines the cut at Flag bytes

What the receive path is for: the stream is cut at every Flag byte, and every
complete segment that decodes is a frame. `parseFinal` says this of the locals of the
loop in one step. Every pass keeps it and where the loop breaks it is the identity,
so the loop computes it; that reads may be cut anywhere is then the append law of the
cut.
-/

namespace ZigpySpinel.Spinel.SpinelProtocol
open Lib

variable (crcKermit : List UInt8 → UInt16)

/-- The frames that one complete segment contributes. -/
def segmentFrames (segment : List UInt8) : List SpinelFrame :=
  if segment.length > 0 then (parseSegment crcKermit segment).toList else []

/-- The frames of a stream: those of its complete segments. -/
def streamFrames (stream : List UInt8) : List SpinelFrame :=
  (segments HdlcSpecial.flag.toU8 stream).1.flatMap (segmentFrames crcKermit)

/-- The locals with which the loop is going to break. -/
def parseFinal (st : ParseState) : ParseState where
  buffer := (segments HdlcSpecial.flag.toU8 st.buffer).2
  ignoring := st.ignoring && (segments HdlcSpecial.flag.toU8 st.buffer).1.isEmpty
  into := st.into ++ streamFrames crcKermit st.buffer
  numParsedFrames := st.numParsedFrames + (streamFrames crcKermit st.buffer).length

/-- The loop breaks where there is no Flag byte. -/
theorem parsePass_break {st : ParseState} (h : HdlcSpecial.flag.toU8 ∉ st.buffer) :
    parsePass crcKermit st = none := by
  simp only [parsePass, findIdx?_of_notMem h]

/-- A pass that only clears the ignore flag. -/
theorem parsePass_ignoring {st : ParseState} (h : HdlcSpecial.flag.toU8 ∈ st.buffer)
    (hignoring : st.ignoring = true) :
    parsePass crcKermit st = some { st with ignoring := false } := by
  obtain ⟨head, tail, hbuffer, hhead⟩ := List.eq_append_cons_of_mem h
  simp only [parsePass, hbuffer, findIdx?_delimiter hhead, hignoring, if_true]

/-- A pass that takes the first segment out of the buffer. -/
theorem parsePass_segment {st : ParseState} {head tail : List UInt8}
    (hbuffer : st.buffer = head ++ HdlcSpecial.flag.toU8 :: tail)
    (hhead : HdlcSpecial.flag.toU8 ∉ head) (hignoring : st.ignoring = false) :
    parsePass crcKermit st =
      some {
        buffer := tail
        ignoring := false
        into := st.into ++ segmentFrames crcKermit head
        numParsedFrames := st.numParsedFrames + (segmentFrames crcKermit head).length } := by
  have htake := take_delimiter (d := HdlcSpecial.flag.toU8) head tail
  have hdrop := drop_delimiter (d := HdlcSpecial.flag.toU8) head tail
  rcases st with ⟨buffer, ignoring, into, num⟩
  dsimp only at hbuffer hignoring
  subst hbuffer hignoring
  simp only [parsePass, findIdx?_delimiter hhead, htake, segmentFrames]
  by_cases hlen : head.length > 0
  · cases hp : parseSegment crcKermit head with
    | none => simp [hlen, hdrop]
    | some frame => simp [hlen, hdrop]
  · simp [hlen, hdrop]

/-- What a pass does: it finds a Flag byte, and either clears the ignore flag or takes
    out the first segment. -/
theorem parsePass_cases {st st' : ParseState} (h : parsePass crcKermit st = some st') :
    (HdlcSpecial.flag.toU8 ∈ st.buffer ∧ st.ignoring = true ∧ st' = { st with ignoring := false }) ∨
    ∃ head tail, st.buffer = head ++ HdlcSpecial.flag.toU8 :: tail ∧
      HdlcSpecial.flag.toU8 ∉ head ∧ st.ignoring = false ∧
      st' = {
        buffer := tail
        ignoring := false
        into := st.into ++ segmentFrames crcKermit head
        numParsedFrames := st.numParsedFrames + (segmentFrames crcKermit head).length } := by
  by_cases hflag : HdlcSpecial.flag.toU8 ∈ st.buffer
  · cases hi : st.ignoring with
    | true =>
      rw [parsePass_ignoring crcKermit hflag hi, Option.some.injEq] at h
      exact Or.inl ⟨hflag, rfl, h.symm⟩
    | false =>
      obtain ⟨head, tail, hbuffer, hhead⟩ := List.eq_append_cons_of_mem hflag
      rw [parsePass_segment crcKermit hbuffer hhead hi, Option.some.injEq] at h
      exact Or.inr ⟨head, tail, hbuffer, hhead, rfl, h.symm⟩
  · rw [parsePass_break crcKermit hflag] at h
    cases h

theorem parsePass_decreasing : Loop.Decreasing (parsePass crcKermit) ParseState.measure := by
  intro st st' h
  rcases parsePass_cases crcKermit h with ⟨_, hi, rfl⟩ | ⟨head, tail, hbuffer, _, hi, rfl⟩
  · simp [ParseState.measure, hi]
  · simp [ParseState.measure, hi, hbuffer]
    omega

theorem streamFrames_cut {head : List UInt8} (hhead : HdlcSpecial.flag.toU8 ∉ head)
    (tail : List UInt8) :
    streamFrames crcKermit (head ++ HdlcSpecial.flag.toU8 :: tail) =
      segmentFrames crcKermit head ++ streamFrames crcKermit tail := by
  simp [streamFrames, segments_cut hhead]

theorem parseFinal_of_notMem {st : ParseState} (h : HdlcSpecial.flag.toU8 ∉ st.buffer) :
    parseFinal crcKermit st = st := by
  simp [parseFinal, streamFrames, segments_of_notMem h]

/-- One pass of the loop keeps the locals it is going to end with. -/
theorem parseFinal_parsePass {st st' : ParseState} (h : parsePass crcKermit st = some st') :
    parseFinal crcKermit st' = parseFinal crcKermit st := by
  rcases parsePass_cases crcKermit h with ⟨hflag, hi, rfl⟩ | ⟨head, tail, hbuffer, hhead, hi, rfl⟩
  · obtain ⟨head, tail, hbuffer, hhead⟩ := List.eq_append_cons_of_mem hflag
    simp [parseFinal, hbuffer, segments_cut hhead, hi]
  · simp only [parseFinal, hbuffer, segments_cut hhead, streamFrames_cut crcKermit hhead, hi,
      List.append_assoc, List.length_append, Nat.add_assoc, Bool.false_and]

/-- The loop computes `parseFinal`. -/
theorem exec_parsePass (st : ParseState) :
    Loop.exec (parsePass crcKermit) ParseState.measure st = parseFinal crcKermit st := by
  obtain ⟨_, _, hrun⟩ := Loop.exec_runs (parsePass_decreasing crcKermit) st
  obtain ⟨hfinal, hbreak⟩ := hrun.inv
    (fun st' => parseFinal crcKermit st' = parseFinal crcKermit st)
    (fun _ _ hinv hpass => (parseFinal_parsePass crcKermit hpass).trans hinv) rfl
  rw [← hfinal]
  refine (parseFinal_of_notMem crcKermit ?_).symm
  intro hflag
  generalize Loop.exec (parsePass crcKermit) ParseState.measure st = last at hflag hbreak
  cases hi : last.ignoring with
  | true => rw [parsePass_ignoring crcKermit hflag hi] at hbreak; cases hbreak
  | false =>
    obtain ⟨head, tail, hbuffer, hhead⟩ := List.eq_append_cons_of_mem hflag
    rw [parsePass_segment crcKermit hbuffer hhead hi] at hbreak
    cases hbreak

/-- `parse_frames_from_bytes_into` in one step: the frames of the buffered stream are
    appended and counted, the incomplete segment stays in the buffer, and a Flag byte
    ends the ignoring. -/
theorem parseFramesFromBytesInto_eq (s : SpinelProtocol) (bytes : List UInt8)
    (into : List SpinelFrame) :
    s.parseFramesFromBytesInto crcKermit bytes into =
      ({ s with
          buffer := (segments HdlcSpecial.flag.toU8 (s.buffer ++ bytes)).2
          ignoringUntilNextFlag := s.ignoringUntilNextFlag &&
            (segments HdlcSpecial.flag.toU8 (s.buffer ++ bytes)).1.isEmpty },
        into ++ streamFrames crcKermit (s.buffer ++ bytes),
        (streamFrames crcKermit (s.buffer ++ bytes)).length) := by
  simp [parseFramesFromBytesInto, exec_parsePass, parseResult, parseStart, parseFinal]

/-- The frames of a stream that arrives in two pieces. -/
theorem streamFrames_append (xs ys : List UInt8) :
    streamFrames crcKermit (xs ++ ys) =
      streamFrames crcKermit xs ++
        streamFrames crcKermit ((segments HdlcSpecial.flag.toU8 xs).2 ++ ys) := by
  rw [streamFrames, segments_append, List.flatMap_append]
  rfl

/-- Two calls are one call with the bytes of both. -/
theorem parseFramesFromBytesInto_append (s : SpinelProtocol) (xs ys : List UInt8)
    (into : List SpinelFrame) :
    s.parseFramesFromBytesInto crcKermit (xs ++ ys) into =
      (let (s, into, n) := s.parseFramesFromBytesInto crcKermit xs into
       let (s, into, m) := s.parseFramesFromBytesInto crcKermit ys into
       (s, into, n + m)) := by
  have hcut := segments_append (d := HdlcSpecial.flag.toU8) (s.buffer ++ xs) ys
  have hframes := streamFrames_append crcKermit (s.buffer ++ xs) ys
  have hempty : ∀ as bs : List (List UInt8), (as ++ bs).isEmpty = (as.isEmpty && bs.isEmpty) := by
    intro as bs
    cases as <;> rfl
  simp only [parseFramesFromBytesInto_eq, ← List.append_assoc, hcut, hframes, List.length_append,
    hempty, Bool.and_assoc]

/-- Successive calls of `parse_frames_from_bytes_into`, the counts added up. -/
def parseChunksInto (s : SpinelProtocol) :
    List (List UInt8) → List SpinelFrame → SpinelProtocol × List SpinelFrame × Nat
  | [], into => (s, into, 0)
  | chunk :: chunks, into =>
    let (s, into, n) := s.parseFramesFromBytesInto crcKermit chunk into
    let (s, into, m) := parseChunksInto s chunks into
    (s, into, n + m)

theorem parseChunksInto_flatten (chunks : List (List UInt8)) (s : SpinelProtocol) (chunk : List UInt8)
    (into : List SpinelFrame) :
    parseChunksInto crcKermit s (chunk :: chunks) into =
      s.parseFramesFromBytesInto crcKermit (chunk :: chunks).flatten into := by
  induction chunks generalizing s chunk into with
  | nil => simp [parseChunksInto]
  | cons next chunks ih =>
    rw [List.flatten_cons, parseFramesFromBytesInto_append, parseChunksInto]
    simp only [ih]

/-- A call's loop breaks after finitely many passes, and no Flag byte is left. -/
theorem parseFramesFromBytesInto_terminates (s : SpinelProtocol) (bytes : List UInt8)
    (into : List SpinelFrame) :
    ∃ passes last, Loop.Runs (parsePass crcKermit) passes (parseStart s bytes into) last ∧
      s.parseFramesFromBytesInto crcKermit bytes into = parseResult s last ∧
      HdlcSpecial.flag.toU8 ∉ last.buffer := by
  obtain ⟨passes, _, hrun⟩ :=
    Loop.exec_runs (parsePass_decreasing crcKermit) (parseStart s bytes into)
  refine ⟨passes, _, hrun, rfl, ?_⟩
  rw [exec_parsePass]
  exact notMem_segments_snd _

/-- However a received byte string is cut into calls of
    `parse_frames_from_bytes_into`, the frames, the sum of the counts and the state are
    those of a single call; and the loop of every call breaks after finitely many
    passes, leaving no Flag byte in the buffer. -/
theorem parseFramesFromBytesInto_chunked (s : SpinelProtocol) (into : List SpinelFrame)
    (chunk : List UInt8) (chunks : List (List UInt8)) :
    parseChunksInto crcKermit s (chunk :: chunks) into =
        s.parseFramesFromBytesInto crcKermit (chunk :: chunks).flatten into ∧
      ∀ (s : SpinelProtocol) (bytes : List UInt8) (into : List SpinelFrame),
        ∃ passes last, Loop.Runs (parsePass crcKermit) passes (parseStart s bytes into) last ∧
          s.parseFramesFromBytesInto crcKermit bytes into = parseResult s last ∧
          HdlcSpecial.flag.toU8 ∉ last.buffer := by
  constructor
  · exact parseChunksInto_flatten crcKermit chunks s chunk into
  · intro s bytes into
    exact parseFramesFromBytesInto_terminates crcKermit s bytes into

end ZigpySpinel.Spinel.SpinelProtocol
