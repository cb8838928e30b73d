import Mathlib.Logic.Function.Basic
import ZigpySpinel.Lib.Transition
import ZigpySpinel.Python.SendPacket

/-!
# A network of nodes that run the application

Each node has an application of its own. What a node gives to its radio is in the air from then
on, and every node may receive it, any number of times, in any order and with any other data
behind it, or not at all. Devices of other kinds send frames as well. Each frame keeps the reason
why it was sent, which the nodes do not see.
-/

namespace ZigpySpinel.Python
open Lib

/-- A radio reports the frame that another radio was given, with other data behind it. -/
def Reported (sent value : List UInt8) : Prop :=
  ∃ (length : UInt16) (data params metadata : List UInt8), data.length = length.toNat ∧
    sent = u16ToLeBytes length ++ data ++ params ∧ value = u16ToLeBytes length ++ data ++ metadata

/-- Why a frame is in the air. -/
inductive Origin (ι : Type) where
  /-- `send_packet` of a node -/
  | packet (node : ι) (packet : OutgoingPacket)
  /-- a reply of the packet callback of a node -/
  | reply (node : ι)
  /-- a device of another kind -/
  | foreign
  deriving DecidableEq, Repr

/-- A frame in the air, as the value that a radio was given. -/
structure AirFrame (ι : Type) where
  origin : Origin ι
  value : List UInt8
  deriving DecidableEq, Repr

/-- A packet that `zigpy` got on a node, with the origin of its frame. -/
structure DeliveredPacket (ι : Type) where
  node : ι
  origin : Origin ι
  packet : ReceivedPacket
  deriving DecidableEq, Repr

/-- The nodes, every frame that was sent so far, and every packet that was delivered. -/
structure Network (ι : Type) where
  nodes : ι → PacketApp
  air : List (AirFrame ι)
  delivered : List (DeliveredPacket ι)

/-- What happens in a network. -/
inductive NetworkAction (ι : Type) where
  | sendPacket (node : ι) (packet : OutgoingPacket)
  | receive (node : ι) (frame : AirFrame ι)
  | foreign (value : List UInt8)

/-- A frame that devices of other kinds may send: its addresses are short, and a network command
    has the long address of its source. -/
structure Regular (value : List UInt8) : Prop where
  destAddress : ∀ frame eui64, parseFrame value = .ok frame →
    frame.destAddress ≠ some (.eui64 eui64)
  srcAddress : ∀ frame eui64, parseFrame value = .ok frame →
    frame.srcAddress ≠ some (.eui64 eui64)
  sourceIeee : ∀ frame nwk, parseFrame value = .ok frame →
    ZigbeeNwkFrame.fromBytes frame.payload = .ok nwk →
    nwk.nwkHeader.frameControl.frameType = .command → nwk.nwkHeader.sourceIeee.isSome

namespace Network

variable {ι : Type} [DecidableEq ι]

/-- No frame is in the air. -/
def new (nodes : ι → PacketApp) : Network ι where
  nodes := nodes
  air := []
  delivered := []

/-- A node has run a coroutine: what it sends has one origin, what it delivers another. -/
def after (net : Network ι) (node : ι) (sends delivers : Origin ι) (s : CallbackState) :
    Network ι where
  nodes := Function.update net.nodes node s.app
  air := net.air ++ s.transmitted.map fun value => { origin := sends, value := value }
  delivered := net.delivered ++ s.received.map fun packet =>
    { node := node, origin := delivers, packet := packet }

/-- The steps of a network. -/
inductive Step (encryptBlock : Key → Block → Block) :
    Network ι → NetworkAction ι → Network ι → Prop
  | sendPacket (net : Network ι) (node : ι) (packet : OutgoingPacket) (answers : Answers) :
      Step encryptBlock net (.sendPacket node packet)
        (net.after node (.packet node packet) (.packet node packet)
          (Python.sendPacket encryptBlock answers packet (.start (net.nodes node))).1)
  | receive (net : Network ι) (node : ι) (answers : Answers) {frame : AirFrame ι}
      {value : List UInt8} (hair : frame ∈ net.air) (hreported : Reported frame.value value) :
      Step encryptBlock net (.receive node frame)
        (net.after node (.reply node) frame.origin
          (packetCallback encryptBlock answers (net.nodes node) value).1)
  | foreign (net : Network ι) {value : List UInt8} (hregular : Regular value) :
      Step encryptBlock net (.foreign value)
        { net with air := net.air ++ [{ origin := .foreign, value := value }] }

end Network

end ZigpySpinel.Python
