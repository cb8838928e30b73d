import ZigpySpinel.Types

/-!
# Addresses and keys as text (`types.rs`)

`from_hex` of `Eui64` and `Key`, and the texts that `Debug` gives. Texts are lists of characters.
`from_hex` removes colons and each `0x`, and panics on all but the digits of the right number of
bytes.
-/

namespace ZigpySpinel
open Lib

/-! ## Reading -/

/-- `text.replace("0x", "")` -/
def remove0x : List Char → List Char
  | '0' :: 'x' :: text => remove0x text
  | c :: text => c :: remove0x text
  | [] => []

/-- `text.len()`, in bytes. -/
def utf8Length (text : List Char) : Nat := (text.map Char.utf8Size).sum

/-- The value of a digit of the `hex` crate, `none` for another character. -/
def hexValue (c : Char) : Option Nat :=
  if '0' ≤ c ∧ c ≤ '9' then some (c.toNat - '0'.toNat)
  else if 'a' ≤ c ∧ c ≤ 'f' then some (c.toNat - 'a'.toNat + 10)
  else if 'A' ≤ c ∧ c ≤ 'F' then some (c.toNat - 'A'.toNat + 10)
  else none

/-- `hex::decode`, two digits a byte. -/
def hexDecode : List Char → Option (List UInt8)
  | [] => some []
  | [_] => none
  | high :: low :: text => do
    let high ← hexValue high
    let low ← hexValue low
    let bytes ← hexDecode text
    some (UInt8.ofNat (16 * high + low) :: bytes)

/-- `hex::decode_to_slice` into an array of `n` bytes, with its `expect`. -/
def hexDecodeToSlice (n : Nat) (text : List Char) : Outcome Empty (FixedBytes n) :=
  match hexDecode text with
  | none => .panic "Decoding failed"
  | some bytes =>
    if h : bytes.length = n then .ok ⟨bytes, h⟩
    else .panic "Decoding failed"

/-- What both `from_hex` do with a text, except for the order of the bytes. -/
def bytesFromHex (n : Nat) (text : List Char) : Outcome Empty (FixedBytes n) :=
  let text := remove0x (text.filter (· != ':'))
  if utf8Length text ≠ 2 * n then .panic "Invalid Eui64 length"
  else hexDecodeToSlice n text

/-- `Eui64::from_hex` (`types.rs:32-47`). -/
def Eui64.fromHex (text : List Char) : Outcome Empty Eui64 := do
  let eui64 ← bytesFromHex 8 text
  .ok ⟨⟨eui64.val.reverse, by rw [List.length_reverse, eui64.property]⟩⟩

/-- `Key::from_hex` (`types.rs:117-129`), with the text of `Eui64` for a wrong length. -/
def Key.fromHex (text : List Char) : Outcome Empty Key := do
  let key ← bytesFromHex 16 text
  .ok ⟨key⟩

/-! ## Writing -/

/-- A digit of `{:x}`. -/
def hexDigit (n : Fin 16) : Char :=
  if n.val < 10 then Char.ofNat ('0'.toNat + n.val) else Char.ofNat ('a'.toNat + (n.val - 10))

/-- `{:02x}` of a byte. -/
def hexByte (b : UInt8) : List Char :=
  [hexDigit ⟨b.toNat / 16, by have := b.toNat_lt; omega⟩,
    hexDigit ⟨b.toNat % 16, Nat.mod_lt _ (by decide)⟩]

/-- Bytes with colons in between. -/
def hexColons (bytes : List UInt8) : List Char := [':'].intercalate (bytes.map hexByte)

/-- What `Debug` writes of an `Eui64` (`types.rs:65-81`). -/
def Eui64.debug (eui64 : Eui64) : List Char :=
  "Eui64(".toList ++ hexColons eui64.value.val.reverse ++ [')']

/-- What `Debug` writes of a `Key` (`types.rs:146-156`). -/
def Key.debug (key : Key) : List Char := "Key(".toList ++ hexColons key.value.val ++ [')']

end ZigpySpinel
