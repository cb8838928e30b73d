import Mathlib.Data.List.TakeWhile
import ZigpySpinel.Tools.DumpPcap

/-!
# Keys in a file

A text from which `from_hex` gets bytes is the digits of these bytes, with colons and `0x` in any
places; the check of its length adds nothing to this. The tool finds the keys in the lines of a
file that begin with a quote, in their order, and panics if one of these lines has none.
-/

namespace ZigpySpinel
open Lib

/-! ## Digits -/

/-- The characters that are written are digits, and no others are removed or split at. -/
theorem hexDigit_spec : ∀ n : Fin 16, hexValue (hexDigit n) = some n.val ∧
    (hexDigit n).utf8Size = 1 ∧ hexDigit n ≠ ':' ∧ hexDigit n ≠ 'x' := by
  decide

theorem hexDecode_flatMap (bytes : List UInt8) :
    hexDecode (bytes.flatMap hexByte) = some bytes := by
  induction bytes with
  | nil => rfl
  | cons b bytes ih =>
    have hvalue : UInt8.ofNat (16 * (b.toNat / 16) + b.toNat % 16) = b := by
      rw [Nat.div_add_mod, UInt8.ofNat_toNat]
    simp only [List.flatMap_cons, hexByte, List.cons_append, List.nil_append, hexDecode,
      (hexDigit_spec _).1, ih, Option.bind_eq_bind, Option.bind_some, hvalue]

theorem of_mem_flatMap_hexByte {bytes : List UInt8} {c : Char} (h : c ∈ bytes.flatMap hexByte) :
    ∃ n, c = hexDigit n := by
  obtain ⟨b, -, hc⟩ := List.mem_flatMap.mp h
  rw [hexByte] at hc
  rcases List.mem_cons.mp hc with rfl | hc
  · exact ⟨_, rfl⟩
  · exact ⟨_, List.mem_singleton.mp hc⟩

/-- Nothing is removed of a text without an `x`. -/
theorem remove0x_of_not_mem {text : List Char} (h : 'x' ∉ text) : remove0x text = text := by
  fun_induction remove0x text with
  | case1 text ih => exact absurd (List.mem_cons_of_mem _ List.mem_cons_self) h
  | case2 c text hnot ih => rw [ih fun hmem => h (List.mem_cons_of_mem c hmem)]
  | case3 => rfl

/-- Digits are ASCII characters. -/
theorem utf8Size_of_hexValue {c : Char} {n : Nat} (h : hexValue c = some n) : c.utf8Size = 1 := by
  have hascii : c.toNat ≤ 'f'.toNat := by
    rw [hexValue] at h
    split_ifs at h with h1 h2 h3
    · exact Nat.le_trans h1.2 (by decide)
    · exact h2.2
    · exact Nat.le_trans h3.2 (by decide)
  have hle : c.val ≤ 127 := Nat.le_trans hascii (by decide)
  exact Char.utf8Size_eq_one_iff.mpr hle

theorem hexValue_lt {c : Char} {n : Nat} (h : hexValue c = some n) : n < 16 := by
  rw [hexValue] at h
  split_ifs at h with h1 h2 h3
  · cases h
    have hle : c.toNat ≤ '9'.toNat := h1.2
    exact Nat.lt_of_le_of_lt (Nat.sub_le_sub_right hle _) (by decide)
  · cases h
    have hle : c.toNat ≤ 'f'.toNat := h2.2
    exact Nat.lt_of_le_of_lt (Nat.add_le_add_right (Nat.sub_le_sub_right hle _) 10) (by decide)
  · cases h
    have hle : c.toNat ≤ 'F'.toNat := h3.2
    exact Nat.lt_of_le_of_lt (Nat.add_le_add_right (Nat.sub_le_sub_right hle _) 10) (by decide)

/-- The values of the two digits of a byte. -/
def nibbles (b : UInt8) : List Nat := [b.toNat / 16, b.toNat % 16]

theorem nibbles_ofNat {high low : Nat} (hhigh : high < 16) (hlow : low < 16) :
    nibbles (UInt8.ofNat (16 * high + low)) = [high, low] := by
  rw [nibbles, UInt8.toNat_ofNat', Nat.mod_eq_of_lt (by omega)]
  congr 1
  · omega
  · congr 1
    omega

/-- A text is decoded exactly if its characters are the digits of the bytes. -/
theorem hexDecode_eq_some_iff {text : List Char} {bytes : List UInt8} :
    hexDecode text = some bytes ↔ text.map hexValue = (bytes.flatMap nibbles).map some := by
  fun_induction hexDecode text generalizing bytes with
  | case1 => cases bytes <;> simp [nibbles]
  | case2 => cases bytes <;> simp [nibbles]
  | case3 high low text ih =>
    simp only [Option.bind_eq_bind, Option.bind_eq_some_iff]
    constructor
    · rintro ⟨highValue, hhigh, lowValue, hlow, rest, hrest, h⟩
      cases h
      rw [List.map_cons, List.map_cons, hhigh, hlow, ih.mp hrest, List.flatMap_cons,
        nibbles_ofNat (hexValue_lt hhigh) (hexValue_lt hlow)]
      rfl
    · intro h
      cases bytes with
      | nil => cases h
      | cons b bytes =>
        have hlt : b.toNat < 256 := b.toNat_lt
        obtain ⟨hhigh, h⟩ := List.cons_eq_cons.mp h
        obtain ⟨hlow, h⟩ := List.cons_eq_cons.mp h
        refine ⟨_, hhigh, _, hlow, bytes, ih.mpr h, ?_⟩
        rw [Nat.div_add_mod, UInt8.ofNat_toNat]

/-- A text that is decoded has two characters a byte, each of them one byte long. -/
theorem utf8Length_of_hexDecode {text : List Char} {bytes : List UInt8}
    (h : hexDecode text = some bytes) : utf8Length text = 2 * bytes.length := by
  fun_induction hexDecode text generalizing bytes with
  | case1 =>
    cases h
    rfl
  | case2 => cases h
  | case3 high low text ih =>
    simp only [Option.bind_eq_bind, Option.bind_eq_some_iff] at h
    obtain ⟨highValue, hhigh, lowValue, hlow, rest, hrest, h⟩ := h
    cases h
    have hlen := ih hrest
    rw [utf8Length] at hlen
    have hhighSize := utf8Size_of_hexValue hhigh
    have hlowSize := utf8Size_of_hexValue hlow
    rw [utf8Length, List.map_cons, List.map_cons, List.sum_cons, List.sum_cons, hlen, hhighSize,
      hlowSize, List.length_cons]
    omega

/-! ## `from_hex` -/

/-- Bytes are got of a text exactly if it is theirs, but for colons and `0x`: the check of the
    length adds nothing. -/
theorem bytesFromHex_eq_ok_iff {n : Nat} {text : List Char} {bytes : FixedBytes n} :
    bytesFromHex n text = .ok bytes ↔
      hexDecode (remove0x (text.filter (· != ':'))) = some bytes.val := by
  rw [bytesFromHex, hexDecodeToSlice]
  cases hdecode : hexDecode (remove0x (text.filter (· != ':'))) with
  | none =>
    dsimp only
    split_ifs <;> simp
  | some decoded =>
    have hlen := utf8Length_of_hexDecode hdecode
    by_cases hn : decoded.length = n
    · subst hn
      simp [hlen, Subtype.ext_iff]
    · have hne : utf8Length (remove0x (text.filter (· != ':'))) ≠ 2 * n := by omega
      simp only [if_pos hne, Option.some.injEq, reduceCtorEq, false_iff]
      rintro rfl
      exact hn bytes.property

/-- The digits of bytes, with any colons in between. -/
theorem bytesFromHex_of_digits {n : Nat} {text : List Char} (bytes : FixedBytes n)
    (h : text.filter (· != ':') = bytes.val.flatMap hexByte) :
    bytesFromHex n text = .ok bytes := by
  have hx : 'x' ∉ bytes.val.flatMap hexByte := by
    intro hmem
    obtain ⟨digit, hdigit⟩ := of_mem_flatMap_hexByte hmem
    exact (hexDigit_spec digit).2.2.2 hdigit.symm
  rw [bytesFromHex_eq_ok_iff, h, remove0x_of_not_mem hx, hexDecode_flatMap]

/-- A text is the digits of a key, in either case, with colons and `0x` in any places. -/
def KeyDigits (text : List Char) (key : Key) : Prop :=
  (remove0x (text.filter (· != ':'))).map hexValue = (key.value.val.flatMap nibbles).map some

instance (text : List Char) (key : Key) : Decidable (KeyDigits text key) :=
  inferInstanceAs (Decidable (_ = _))

theorem Key.fromHex_eq_ok_iff {text : List Char} {key : Key} :
    Key.fromHex text = .ok key ↔ KeyDigits text key := by
  rw [KeyDigits, ← hexDecode_eq_some_iff, ← bytesFromHex_eq_ok_iff, fromHex, Outcome.bind_eq_ok]
  constructor
  · rintro ⟨bytes, hbytes, h⟩
    cases h
    exact hbytes
  · intro h
    exact ⟨key.value, h, rfl⟩

theorem filter_hexByte (b : UInt8) : (hexByte b).filter (· != ':') = hexByte b := by
  refine List.filter_eq_self.mpr fun c hc => ?_
  have hmem : c ∈ [b].flatMap hexByte := by simpa using hc
  obtain ⟨digit, rfl⟩ := of_mem_flatMap_hexByte hmem
  exact bne_iff_ne.mpr (hexDigit_spec digit).2.2.1

theorem filter_hexColons (bytes : List UInt8) :
    (hexColons bytes).filter (· != ':') = bytes.flatMap hexByte := by
  rw [hexColons]
  induction bytes with
  | nil => rfl
  | cons b bytes ih =>
    cases bytes with
    | nil => simp [filter_hexByte]
    | cons b' bytes =>
      rw [List.map_cons] at ih
      rw [List.map_cons, List.map_cons, List.intercalate_cons_cons, List.filter_append,
        List.filter_append, filter_hexByte, ih, List.flatMap_cons]
      rfl

/-- What `Debug` writes of a key in its parentheses is read as this key. -/
theorem Key.fromHex_hexColons (key : Key) : Key.fromHex (hexColons key.value.val) = .ok key := by
  rw [fromHex, bytesFromHex_of_digits key.value (filter_hexColons key.value.val)]
  rfl

theorem Eui64.fromHex_hexColons (eui64 : Eui64) :
    Eui64.fromHex (hexColons eui64.value.val.reverse) = .ok eui64 := by
  have hlen : eui64.value.val.reverse.length = 8 := by
    rw [List.length_reverse, eui64.value.property]
  rw [fromHex, bytesFromHex_of_digits ⟨eui64.value.val.reverse, hlen⟩ (filter_hexColons _),
    Outcome.ok_bind]
  rcases eui64 with ⟨value⟩
  simp only [List.reverse_reverse]

/-! ## The file -/

namespace Tools

/-- In front of the first separator. -/
theorem head_splitOn {α : Type} [BEq α] (a : α) (xs : List α) :
    (xs.splitOn a)[0]? = some (xs.takeWhile (! · == a)) := by
  induction xs with
  | nil => rfl
  | cons x xs ih =>
    rw [List.splitOn_cons_eq_if_modifyHead]
    cases hx : x == a with
    | true => simp [hx]
    | false =>
      obtain ⟨piece, pieces, hsplit⟩ := List.exists_cons_of_ne_nil (List.splitOn_ne_nil a xs)
      rw [hsplit] at ih ⊢
      rw [List.takeWhile_cons_of_pos (by simp [hx])]
      exact congrArg (fun piece => some (x :: piece)) (Option.some.inj ih)

/-- What stands in a line behind its quote, up to the next quote or a comma. -/
def keyText (line : List Char) : List Char :=
  (line.drop 1).takeWhile fun c => (! c == '"') && (! c == ',')

theorem keyOfLine_eq {line : List Char} (h : line.head? = some '"') :
    keyOfLine line = Key.fromHex (keyText line) := by
  cases line with
  | nil => cases h
  | cons c rest =>
    obtain rfl := Option.some.inj h
    have hfield : ('"' :: rest).takeWhile (! · == ',') = '"' :: rest.takeWhile (! · == ',') :=
      List.takeWhile_cons_of_pos (by decide)
    have htext : (('"' :: rest.takeWhile (! · == ',')).splitOn '"')[1]? =
        some (keyText ('"' :: rest)) := by
      have hsplit := List.splitOn_append_cons_self_of_not_mem (List.not_mem_nil (a := '"'))
        (rest.takeWhile (! · == ','))
      rw [List.nil_append] at hsplit
      rw [hsplit, List.getElem?_cons_succ, head_splitOn, List.takeWhile_takeWhile, keyText]
      simp [beq_eq_decide]
    rw [keyOfLine, head_splitOn, hfield]
    dsimp only
    rw [htext]

theorem splitOn_flatMap {α : Type} [BEq α] [LawfulBEq α] (a : α) {ls : List (List α)}
    (hls : ∀ l ∈ ls, a ∉ l) {last : List α} (hlast : a ∉ last) :
    (ls.flatMap (· ++ [a]) ++ last).splitOn a = ls ++ [last] := by
  induction ls with
  | nil => exact List.splitOn_eq_singleton hlast
  | cons l ls ih =>
    rw [List.flatMap_cons, List.append_assoc, List.append_assoc, List.singleton_append,
      List.splitOn_append_cons_self_of_not_mem (hls l List.mem_cons_self),
      ih fun l hmem => hls l (List.mem_cons_of_mem _ hmem), List.cons_append]

/-- The lines that are searched for keys, among those in front of line feeds and what is behind
    the last one. -/
def quotedLines (ls : List (List Char)) (last : List Char) : List (List Char) :=
  (ls.map stripCarriageReturn ++ [last]).filter fun line => line.head? == some '"'

theorem filter_lines {ls : List (List Char)} (hls : ∀ l ∈ ls, '\n' ∉ l) {last : List Char}
    (hlast : '\n' ∉ last) :
    ((lines (ls.flatMap (· ++ ['\n']) ++ last)).filter fun line => line.head? == some '"') =
      quotedLines ls last := by
  rw [lines, splitOn_flatMap '\n' hls hlast, quotedLines, List.dropLast_concat,
    List.getLast?_concat, List.filter_append, List.filter_append]
  congr 1
  cases last <;> simp

/-- From a text with `ls` in front of its line feeds and `last` behind them, the tool loads the keys
    of the lines that begin with a quote, in their order, and panics if one of these has none. -/
theorem loadKeys_eq_ok_iff {ls : List (List Char)} (hls : ∀ l ∈ ls, '\n' ∉ l) {last : List Char}
    (hlast : '\n' ∉ last) :
    let loaded := loadKeys (ls.flatMap (· ++ ['\n']) ++ last)
    (∀ keys, loaded = .ok keys ↔
        List.Forall₂ (fun line key => KeyDigits (keyText line) key) (quotedLines ls last) keys) ∧
      ((∃ message, loaded = .panic message) ↔
        ∃ line ∈ quotedLines ls last, ∀ key, ¬ KeyDigits (keyText line) key) := by
  intro loaded
  have hkey : ∀ line ∈ quotedLines ls last, ∀ key,
      keyOfLine line = .ok key ↔ KeyDigits (keyText line) key := by
    intro line hmem key
    have hquoted := (List.mem_filter.mp hmem).2
    rw [keyOfLine_eq (beq_iff_eq.mp hquoted), Key.fromHex_eq_ok_iff]
  have hloaded : loaded = (quotedLines ls last).mapM keyOfLine := by
    rw [← filter_lines hls hlast]
    rfl
  rw [hloaded]
  refine ⟨fun keys => ?_, ?_⟩
  · rw [Outcome.mapM_eq_ok]
    constructor
    · intro h
      exact ((List.forall₂_and_left _ _).mpr ⟨fun _ hmem => hmem, h⟩).imp
        fun line key hboth => (hkey line hboth.1 key).mp hboth.2
    · intro h
      exact ((List.forall₂_and_left _ _).mpr ⟨fun _ hmem => hmem, h⟩).imp
        fun line key hboth => (hkey line hboth.1 key).mpr hboth.2
  · rw [Outcome.panics_iff, Outcome.mapM_returns_iff]
    simp only [not_forall, Outcome.Returns, not_exists, exists_prop]
    exact exists_congr fun line => and_congr_right fun hmem =>
      forall_congr' fun key => not_congr (hkey line hmem key)

/-- The key of `test_nwk_decryption_unicast`, in quotes, and once more in upper case with colons. -/
def unicastLine : List Char := "\"e8785a1ed5996b3ef715cb3fbdd69187\",\"Normal\",\"a network\"\r".toList

def upperLine : List Char := "\"0xE8:78:5A:1E:D5:99:6B:3E:F7:15:CB:3F:BD:D6:91:87\",\"\",\"\"".toList

def unicastKey : Key where
  value := ⟨[0xe8, 0x78, 0x5a, 0x1e, 0xd5, 0x99, 0x6b, 0x3e,
    0xf7, 0x15, 0xcb, 0x3f, 0xbd, 0xd6, 0x91, 0x87], rfl⟩

theorem loadKeys_eq_ok_iff_unicast :
    loadKeys (["# keys".toList, unicastLine].flatMap (· ++ ['\n']) ++ upperLine) =
        .ok [unicastKey, unicastKey] ∧
      ∃ message, loadKeys ([['"', '\r']].flatMap (· ++ ['\n']) ++ []) = .panic message := by
  constructor
  · refine ((loadKeys_eq_ok_iff (by decide) (by decide)).1 _).mpr ?_
    have hquoted : quotedLines ["# keys".toList, unicastLine] upperLine =
        [stripCarriageReturn unicastLine, upperLine] := by decide
    rw [hquoted]
    exact .cons (by decide) (.cons (by decide) .nil)
  · refine (loadKeys_eq_ok_iff (by decide) (by decide)).2.mpr ⟨['"'], by decide, fun key h => ?_⟩
    -- the digits of a key are some, and there are none
    rcases key with ⟨⟨_ | ⟨b, bytes⟩, hbytes⟩⟩
    · cases hbytes
    · cases h

end Tools

end ZigpySpinel
