import ZigpySpinel.Zigbee.Proofs.NwkCodec

/-!
# Source routes are written faithfully or refused, up to 255 relays

`to_bytes` compares the relay count with the number of relays narrowed to a byte, and writes
all relays. The decoder reads as many as the count says. The two agree on every list that a
byte can count; a longer one with its count reduced modulo 256 passes the check, and the relays
past the count are left to be read as what follows.
-/

namespace ZigpySpinel.Zigbee
open Lib

namespace NwkSourceRoute

/-- `to_bytes` refuses the source route, or it is read back whatever follows it. -/
def FaithfulOrRefused (route : NwkSourceRoute) : Prop :=
  (∃ message, route.toBytes = .panic message) ∨
    ∃ bytes, route.toBytes = .ok bytes ∧
      ∀ suffix, deserialize (bytes ++ suffix) = .ok (route, suffix)

theorem toBytes_of_ne {route : NwkSourceRoute}
    (h : route.relayCount.toNat ≠ route.relays.length % 256) :
    route.toBytes = .panic "Relay count does not match number of relays" := by
  have hcount : route.relayCount ≠ UInt8.ofNat route.relays.length := by
    intro heq
    rw [heq, UInt8.toNat_ofNat'] at h
    exact h rfl
  rw [toBytes, if_pos hcount]

theorem toBytes_of_eq {route : NwkSourceRoute}
    (h : route.relayCount.toNat = route.relays.length % 256) : route.toBytes = .ok route.body := by
  have hcount : route.relayCount = UInt8.ofNat route.relays.length := by
    apply UInt8.toNat_inj.mp
    rw [h, UInt8.toNat_ofNat']
  rw [toBytes, if_neg (not_not.mpr hcount)]
  rfl

/-- What the check lets through is faithful exactly if a byte can count the relays. -/
theorem faithfulOrRefused_iff_fits {route : NwkSourceRoute}
    (h : route.relayCount.toNat = route.relays.length % 256) :
    FaithfulOrRefused route ↔ route.relays.length < 256 := by
  have hwrite := toBytes_of_eq h
  constructor
  · intro hfaithful
    rcases hfaithful with ⟨message, hpanic⟩ | ⟨bytes, hbytes, hread⟩
    · rw [hwrite] at hpanic
      cases hpanic
    · rw [hwrite, Outcome.ok.injEq] at hbytes
      subst hbytes
      -- the decoder returns only source routes whose count is right
      have hcount : route.relayCount.toNat = route.relays.length :=
        (codec.encode_decode _ _ _ (hread [])).1
      have hlt := Nat.mod_lt route.relays.length (by omega : 0 < 256)
      omega
  · intro hlt
    have hcount : route.WellFormed := by
      rw [WellFormed, h, Nat.mod_eq_of_lt hlt]
    exact Or.inr ⟨route.body, hwrite, fun suffix => codec.decode_encode route suffix hcount⟩

/-- A source route is faithful or refused exactly if its count is not the number of its relays
    modulo 256, or a byte can count them. -/
theorem faithfulOrRefused_iff (route : NwkSourceRoute) :
    FaithfulOrRefused route ↔
      (route.relayCount.toNat = route.relays.length % 256 → route.relays.length < 256) := by
  by_cases h : route.relayCount.toNat = route.relays.length % 256
  · rw [faithfulOrRefused_iff_fits h]
    exact ⟨fun hlt _ => hlt, fun himp => himp h⟩
  · exact iff_of_true (Or.inl ⟨_, toBytes_of_ne h⟩) (fun heq => absurd heq h)

/-- A source route with 256 relays and a count of zero. -/
def wrapped : NwkSourceRoute where
  relayCount := 0
  relayIndex := 0
  relays := List.replicate 256 ⟨0x0000⟩

theorem length_wrapped_relays : wrapped.relays.length = 256 := List.length_replicate

/-- It passes the check and is read back with no relays. -/
theorem wrapped_not_faithful : ¬ FaithfulOrRefused wrapped := by
  have hcount : wrapped.relayCount.toNat = wrapped.relays.length % 256 := by
    rw [length_wrapped_relays]
    rfl
  rw [faithfulOrRefused_iff_fits hcount, length_wrapped_relays]
  exact Nat.lt_irrefl 256

end NwkSourceRoute

end ZigpySpinel.Zigbee
