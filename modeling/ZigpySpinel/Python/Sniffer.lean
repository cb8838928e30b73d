import ZigpySpinel.Python.Ieee802154

/-!
# The sniffer (`tools/sniffer.py`)

`main` takes the values of `STREAM_RAW` from a queue, computes the check sequence of each frame
again, and writes the frames to a capture file. The times of the packets are parameters, and
the commands to the radio before the loop are left out.
-/

namespace ZigpySpinel.Python
open Lib

/-- `ieee_15_4_fcs` (`sniffer.py:12-23`). Its loop is that of `_compute_fcs`. -/
def ieee154Fcs (data : List UInt8) : Except PyException (List UInt8) :=
  let crc := data.foldl IEEE802154Frame.fcsByte 0x0000
  toBytesLittle crc 2

/-! ## `PcapWriter` -/

/-- The bytes in the file. -/
structure PcapWriter where
  fdesc : List UInt8
  deriving DecidableEq, Repr

/-- `struct.pack("<L", n)`. Times and lengths fit. -/
def packL (n : UInt32) : List UInt8 := u32ToLeBytes n

/-- `struct.pack("<H", n)`. -/
def packH (n : UInt16) : List UInt8 := u16ToLeBytes n

namespace PcapWriter

/-- A file that was opened for writing. -/
def init : PcapWriter := ⟨[]⟩

def write (writer : PcapWriter) (bytes : List UInt8) : PcapWriter := ⟨writer.fdesc ++ bytes⟩

/-- `write_header` (`sniffer.py:33-42`). -/
def writeHeader (writer : PcapWriter) (linktype : UInt32) : PcapWriter :=
  let magicNumber := 0xA1B2C3D4
  ((((((writer.write (packL magicNumber)).write (packH 2)).write (packH 4)).write (packL 0)).write
    (packL 0)).write (packL 65535)).write (packL linktype)

/-- `write_packet` (`sniffer.py:44-53`). -/
def writePacket (writer : PcapWriter) (packetBytes : List UInt8)
    (timestampSec timestampUsec : UInt32) : PcapWriter :=
  ((((writer.write (packL timestampSec)).write (packL timestampUsec)).write
    (packL (UInt32.ofNat packetBytes.length))).write
    (packL (UInt32.ofNat packetBytes.length))).write packetBytes

end PcapWriter

/-! ## The loop -/

/-- A value of the queue, with the time when it is taken from it. -/
structure QueuedValue where
  value : List UInt8
  timestampSec : UInt32
  timestampUsec : UInt32
  deriving DecidableEq, Repr

/-- `frame_data` of a value (`sniffer.py:81-86`). -/
def sniffedFrame (value : List UInt8) : Except PyException (List UInt8) := do
  let (frameLen, data) ← uint16Deserialize value
  let frame := data.take frameLen.toNat
  let frame := frame.take (frame.length - 2)
  let fcs ← ieee154Fcs frame
  .ok (frame ++ fcs)

/-- The loop (`sniffer.py:78-89`) over the values that arrive. An exception ends it, and what is
    written so far stays in the file. -/
def sniffLoop (writer : PcapWriter) : List QueuedValue → PcapWriter × Except PyException Unit
  | [] => (writer, .ok ())
  | queued :: rest =>
    match sniffedFrame queued.value with
    | .error e => (writer, .error e)
    | .ok frameData =>
      sniffLoop (writer.writePacket frameData queued.timestampSec queued.timestampUsec) rest

/-- `main` (`sniffer.py:56-89`). -/
def sniff (values : List QueuedValue) : PcapWriter × Except PyException Unit :=
  -- `LINKTYPE_IEEE802_15_4`
  sniffLoop (PcapWriter.init.writeHeader 195) values

end ZigpySpinel.Python
