import ZigpySpinel.Lib.Bytes

/-!
# Capture files

A capture file of `libpcap` with little-endian numbers: a header of 24 bytes, and records of 16
bytes and the data of a packet. Nothing separates the records, so a record is only found behind
the length of the one in front. What is written is read back, whatever the data is.
-/

namespace ZigpySpinel.Lib.Pcap

/-- A packet with the time of its capture. -/
structure Record where
  seconds : UInt32
  microseconds : UInt32
  data : List UInt8
  fits : data.length < 2 ^ 32
  deriving DecidableEq

/-- The bytes of a record. The data is not cut off, so both lengths are its own. -/
def Record.toBytes (r : Record) : List UInt8 :=
  u32ToLeBytes r.seconds ++ u32ToLeBytes r.microseconds ++
    u32ToLeBytes (UInt32.ofNat r.data.length) ++ u32ToLeBytes (UInt32.ofNat r.data.length) ++ r.data

/-- The header of a file of version 2.4. -/
def header (snapshotLength linkType : UInt32) : List UInt8 :=
  u32ToLeBytes 0xA1B2C3D4 ++ u16ToLeBytes 2 ++ u16ToLeBytes 4 ++ u32ToLeBytes 0 ++
    u32ToLeBytes 0 ++ u32ToLeBytes snapshotLength ++ u32ToLeBytes linkType

/-- A file with these records. -/
def file (snapshotLength linkType : UInt32) (records : List Record) : List UInt8 :=
  header snapshotLength linkType ++ records.flatMap Record.toBytes

/-! ## Reading -/

/-- A record and the bytes behind it. -/
def readRecord : List UInt8 → Option (Record × List UInt8)
  | s0 :: s1 :: s2 :: s3 :: m0 :: m1 :: m2 :: m3 :: l0 :: l1 :: l2 :: l3 :: _ :: _ :: _ :: _ ::
      rest =>
    let length := (u32FromLeBytes l0 l1 l2 l3).toNat
    if length ≤ rest.length then
      some ({
        seconds := u32FromLeBytes s0 s1 s2 s3
        microseconds := u32FromLeBytes m0 m1 m2 m3
        data := rest.take length
        fits := Nat.lt_of_le_of_lt (List.length_take_le length rest) (UInt32.toNat_lt _) },
        rest.drop length)
    else none
  | _ => none

/-- The records up to the end, with a bound on their number. -/
def readRecords : Nat → List UInt8 → Option (List Record)
  | _, [] => some []
  | 0, _ :: _ => none
  | n + 1, first :: bytes => do
    let (record, bytes) ← readRecord (first :: bytes)
    let records ← readRecords n bytes
    some (record :: records)

/-- The records behind a header of 24 bytes. -/
def read (bytes : List UInt8) : Option (List Record) := readRecords bytes.length (bytes.drop 24)

theorem length_header (snapshotLength linkType : UInt32) :
    (header snapshotLength linkType).length = 24 := by
  simp [header]

theorem readRecord_toBytes (r : Record) (rest : List UInt8) :
    readRecord (r.toBytes ++ rest) = some (r, rest) := by
  obtain ⟨seconds, microseconds, data, fits⟩ := r
  obtain ⟨s0, s1, s2, s3, hseconds, rfl⟩ := u32ToLeBytes_eq seconds
  obtain ⟨m0, m1, m2, m3, hmicroseconds, rfl⟩ := u32ToLeBytes_eq microseconds
  obtain ⟨l0, l1, l2, l3, hlength, hvalue⟩ := u32ToLeBytes_eq (UInt32.ofNat data.length)
  have hlen : (u32FromLeBytes l0 l1 l2 l3).toNat = data.length := by
    rw [hvalue, UInt32.toNat_ofNat', Nat.mod_eq_of_lt fits]
  simp only [Record.toBytes, hseconds, hmicroseconds, hlength, List.cons_append, List.nil_append,
    readRecord, hlen, List.length_append, Nat.le_add_right, if_true,
    List.take_left, List.drop_left]

theorem sixteen_le_length_toBytes (r : Record) : 16 ≤ r.toBytes.length := by
  simp only [Record.toBytes, List.length_append, length_u32ToLeBytes]
  omega

theorem readRecords_flatMap {n : Nat} {records : List Record} (h : records.length ≤ n) :
    readRecords n (records.flatMap Record.toBytes) = some records := by
  induction records generalizing n with
  | nil => cases n <;> rfl
  | cons r records ih =>
    obtain ⟨n, rfl⟩ : ∃ m, n = m + 1 := ⟨n - 1, by rw [List.length_cons] at h; omega⟩
    have hrest := ih (Nat.le_of_succ_le_succ h)
    have hnonempty : r.toBytes ≠ [] := by
      intro hnil
      have hlen := sixteen_le_length_toBytes r
      rw [hnil] at hlen
      cases hlen
    obtain ⟨first, more, hbytes⟩ := List.exists_cons_of_ne_nil hnonempty
    have hread := readRecord_toBytes r (records.flatMap Record.toBytes)
    rw [List.flatMap_cons]
    rw [hbytes, List.cons_append] at hread ⊢
    rw [readRecords, hread]
    simp only [Option.bind_eq_bind, Option.bind_some, hrest]

theorem length_le_flatMap (records : List Record) :
    records.length ≤ (records.flatMap Record.toBytes).length := by
  induction records with
  | nil => exact Nat.le_refl 0
  | cons r records ih =>
    have hone := sixteen_le_length_toBytes r
    rw [List.flatMap_cons, List.length_append, List.length_cons]
    omega

/-- The records of a file are read back. -/
theorem read_file (snapshotLength linkType : UInt32) (records : List Record) :
    read (file snapshotLength linkType records) = some records := by
  have hrecords := length_le_flatMap records
  rw [read, file, List.drop_left' (length_header snapshotLength linkType)]
  refine readRecords_flatMap ?_
  rw [List.length_append]
  omega

end ZigpySpinel.Lib.Pcap
