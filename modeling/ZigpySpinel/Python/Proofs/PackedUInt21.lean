import ZigpySpinel.Lib.Varint
import ZigpySpinel.Python.SpinelTypes

/-!
# Packed integers of the Python package are read back, zero apart

The loop of `serialize` pushes no chunk for zero, and the line after it clears a bit of the
last chunk. Every other number has a last digit, and `deserialize` reads it back from
whatever it is followed by. So of the two enumerations only the members with the value
zero, `NOOP` and `LAST_STATUS`, cannot be sent.
-/

namespace ZigpySpinel.Python
open Lib Lib.Varint

namespace PackedUInt21

/-! ## `serialize` -/

theorem continued_of_and (n : Nat) :
    UInt8.ofNat (n &&& 0b01111111) ||| 0b10000000 = continued (n % 128) := by
  have hmask : n &&& 127 = n % 128 := Nat.and_two_pow_sub_one_eq_mod n 7
  change UInt8.ofNat (n &&& 127) ||| 0b10000000 = continued (n % 128)
  rw [hmask, continued]

theorem serializePass_eq_some {s s' : Nat × List UInt8} (h : serializePass s = some s') :
    s.1 ≠ 0 ∧ s' = (s.1 / 128, s.2 ++ [continued (s.1 % 128)]) := by
  rcases s with ⟨n, chunks⟩
  have hshift : n >>> 7 = n / 128 := Nat.shiftRight_eq_div_pow n 7
  simp only [serializePass, continued_of_and, hshift] at h
  by_cases hzero : n = 0
  · rw [if_pos hzero] at h
    cases h
  · rw [if_neg hzero, Option.some.injEq] at h
    exact ⟨hzero, h.symm⟩

theorem serializePass_eq_none {s : Nat × List UInt8} (h : serializePass s = none) : s.1 = 0 := by
  rcases s with ⟨n, chunks⟩
  by_cases hzero : n = 0
  · exact hzero
  · rw [serializePass, if_neg hzero] at h
    cases h

theorem decreasing_serializePass : Loop.Decreasing serializePass Prod.fst := by
  intro s s' h
  obtain ⟨hne, rfl⟩ := serializePass_eq_some h
  dsimp only
  omega

/-- The loop of `serialize` stops with an octet for each digit. -/
theorem pending_exec (n : Nat) : Pending n 0 (Loop.exec serializePass Prod.fst (n, [])).2 := by
  obtain ⟨k, -, hrun⟩ := Loop.exec_runs decreasing_serializePass (n, [])
  have hkeep : ∀ s s', Pending n s.1 s.2 → serializePass s = some s' →
      Pending n s'.1 s'.2 := by
    intro s s' hpending hpass
    obtain ⟨hne, rfl⟩ := serializePass_eq_some hpass
    exact hpending.pass hne
  obtain ⟨hpending, hstop⟩ := hrun.inv _ hkeep (Pending.start n)
  rwa [serializePass_eq_none hstop] at hpending

theorem serializeValue_eq {n last : Nat} {init : List Nat}
    (hdigits : Nat.digits 128 n = init ++ [last]) (hlast : last < 128) :
    serializeValue n = .ok (packed init last) := by
  obtain ⟨hchunks, hclear⟩ := (pending_exec n).clear hdigits hlast
  rw [serializeValue]
  simp only [hchunks, List.getLast?_concat, List.dropLast_concat, hclear]

theorem serializeValue_zero : serializeValue 0 = .error .indexError := rfl

/-! ## `deserialize` -/

/-- The first loop takes the digits off their octets, and stops at the last one. -/
theorem readChunks_packed {init : List Nat} {last : Nat} (chunks suffix : List UInt8)
    (hinit : ∀ d ∈ init, d < 128) (hlast : last < 128) (hlen : chunks.length + init.length ≤ 2) :
    readChunks chunks (packed init last ++ suffix) =
      .ok (chunks ++ (init ++ [last]).map UInt8.ofNat) := by
  induction init generalizing chunks with
  | nil =>
    rw [List.length_nil] at hlen
    have hfits : ¬ (chunks ++ [UInt8.ofNat last]).length > 3 := by simp; omega
    rw [packed, List.map_nil, List.nil_append, List.singleton_append, readChunks,
      last_and_low hlast, last_and_high hlast]
    rw [if_neg hfits, if_pos rfl, List.nil_append, List.map_singleton]
  | cons digit init ih =>
    rw [List.length_cons] at hlen
    have hdigit : digit < 128 := hinit digit (by simp)
    have hfits : ¬ (chunks ++ [UInt8.ofNat digit]).length > 3 := by simp; omega
    have hrest := ih (chunks ++ [UInt8.ofNat digit]) (fun d hd => hinit d (by simp [hd]))
      (by simp; omega)
    rw [packed, List.map_cons, List.cons_append, List.cons_append, readChunks,
      continued_and_low hdigit]
    rw [if_neg hfits, if_neg (continued_and_high hdigit), ← packed, hrest, List.append_assoc,
      List.singleton_append, List.cons_append, List.map_cons]

/-- The second loop evaluates digits in base 128. -/
theorem joinChunks_map {digits : List Nat} (h : ∀ d ∈ digits, d < 128) :
    joinChunks (digits.map UInt8.ofNat) = Nat.ofDigits 128 digits := by
  induction digits with
  | nil => rfl
  | cons digit digits ih =>
    have hdigit : digit < 128 := h digit (by simp)
    have hrest := ih (fun d hd => h d (by simp [hd]))
    have hadd := Nat.shiftLeft_add_eq_or_of_lt (i := 7) hdigit (Nat.ofDigits 128 digits)
    rw [joinChunks, List.foldl_reverse] at hrest
    rw [joinChunks, List.foldl_reverse, List.map_cons, List.foldr_cons, hrest,
      toNat_octet hdigit, ← hadd, Nat.shiftLeft_eq, Nat.ofDigits_cons]
    omega

/-- What a class reads from the octets of a number, whatever follows them. -/
theorem deserializeAs_packed {α : Type} (cls : Nat → Except PyException α) {last : Nat}
    {init : List Nat} (suffix : List UInt8) (hinit : ∀ d ∈ init, d < 128) (hlast : last < 128)
    (hlen : init.length ≤ 2) :
    deserializeAs cls (packed init last ++ suffix) =
      (cls (Nat.ofDigits 128 (init ++ [last]))).map (fun value => (value, suffix)) := by
  have hread := readChunks_packed [] suffix hinit hlast (by simpa using hlen)
  have hall : ∀ d ∈ init ++ [last], d < 128 := by
    intro d hd
    rcases List.mem_append.mp hd with h | h
    · exact hinit d h
    · rwa [List.mem_singleton.mp h]
  have hdrop : (packed init last ++ suffix).drop ((init ++ [last]).map UInt8.ofNat).length =
      suffix := List.drop_left' (by simp [packed])
  rw [deserializeAs, hread, List.nil_append]
  change (cls _ >>= fun value => Except.ok (value, _)) = _
  rw [joinChunks_map hall, hdrop]
  cases cls (Nat.ofDigits 128 (init ++ [last])) <;> rfl

/-! ## The round trip -/

/-- A value of at most 21 bits other than zero is sent, and read back by every class. -/
theorem serializeValue_of_ne_zero {α : Type} (cls : Nat → Except PyException α) {n : Nat}
    (hne : n ≠ 0) (hlt : n < 2 ^ 21) : ∃ bytes, serializeValue n = .ok bytes ∧
      ∀ suffix, deserializeAs cls (bytes ++ suffix) =
        (cls n).map (fun value => (value, suffix)) := by
  obtain ⟨init, last, hdigits, hinit, hlast⟩ := exists_digits hne
  have hlen : init.length ≤ 2 := length_init_le (by omega : n < 128 ^ (2 + 1)) hdigits
  refine ⟨packed init last, serializeValue_eq hdigits hlast, ?_⟩
  intro suffix
  rw [deserializeAs_packed cls suffix hinit hlast hlen, ofDigits_of_digits hdigits]

theorem ofNat_value (n : PackedUInt21) : ofNat n.value = .ok n := dif_pos n.inRange

/-- `serialize` returns octets from which `deserialize` reads the value back, whatever
    follows them. -/
def RoundTrips (n : PackedUInt21) : Prop :=
  ∃ bytes, n.serialize = .ok bytes ∧
    ∀ suffix, deserialize (bytes ++ suffix) = .ok (n, suffix)

theorem roundTrips_of_ne_zero {n : PackedUInt21} (h : n.value ≠ 0) : RoundTrips n := by
  obtain ⟨bytes, hbytes, hread⟩ := serializeValue_of_ne_zero ofNat h n.inRange
  refine ⟨bytes, hbytes, ?_⟩
  intro suffix
  rw [deserialize, hread, ofNat_value]
  rfl

theorem not_serializeValue_zero (bytes : List UInt8) : serializeValue 0 ≠ .ok bytes := by
  rw [serializeValue_zero]
  intro h
  cases h

end PackedUInt21

open PackedUInt21

theorem CommandID.value_lt (commandId : CommandID) : commandId.value < 2 ^ 21 := by
  cases commandId <;> decide

theorem CommandID.value_eq_zero {commandId : CommandID} :
    commandId.value = 0 ↔ commandId = noop := by
  cases commandId <;> decide

theorem PropertyID.value_lt (propertyId : PropertyID) : propertyId.value < 2 ^ 21 := by
  have hall : ∀ value ∈ PropertyID.values, value < 2 ^ 21 := by decide
  exact hall _ propertyId.known

/-- A value that fits is sent exactly when it is not zero. -/
theorem exists_serializeValue_iff {n : Nat} (hlt : n < 2 ^ 21) :
    (∃ bytes, serializeValue n = .ok bytes) ↔ n ≠ 0 := by
  constructor
  · intro h heq
    rcases h with ⟨bytes, hbytes⟩
    subst heq
    exact not_serializeValue_zero bytes hbytes
  · intro hne
    obtain ⟨bytes, hbytes, -⟩ := serializeValue_of_ne_zero ofNat hne hlt
    exact ⟨bytes, hbytes⟩

/-- Zero apart, packed integers are read back; `NOOP` and `LAST_STATUS` apart, every command id
    and property id can be sent. -/
theorem PackedUInt21.roundTrips_iff_ne_zero (n : PackedUInt21) (commandId : CommandID)
    (propertyId : PropertyID) :
    (RoundTrips n ↔ n.value ≠ 0) ∧
      ((∃ bytes, commandId.serialize = .ok bytes) ↔ commandId ≠ .noop) ∧
      ((∃ bytes, propertyId.serialize = .ok bytes) ↔ propertyId.value ≠ 0) := by
  refine ⟨⟨?_, roundTrips_of_ne_zero⟩, ?_, exists_serializeValue_iff propertyId.value_lt⟩
  · intro h hzero
    rcases h with ⟨bytes, hbytes, -⟩
    rw [serialize, hzero] at hbytes
    exact not_serializeValue_zero bytes hbytes
  · rw [CommandID.serialize, exists_serializeValue_iff commandId.value_lt, Ne,
      CommandID.value_eq_zero]

/-- `serialize` raises for zero, and for `NOOP`. -/
theorem PackedUInt21.zero_not_sent :
    ¬ RoundTrips ⟨0, by decide⟩ ∧
      serialize ⟨0, by decide⟩ = .error .indexError ∧
      CommandID.noop.serialize = .error .indexError := by
  refine ⟨?_, rfl, rfl⟩
  intro h
  rcases h with ⟨bytes, hbytes, -⟩
  exact not_serializeValue_zero bytes hbytes

end ZigpySpinel.Python
