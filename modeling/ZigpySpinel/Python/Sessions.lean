import ZigpySpinel.Python.Proofs.Replies
import ZigpySpinel.Python.Tasks

/-!
# The Python application over its sessions (`application.py:49-59`, `565-630`)

A session loads `frame_counter.json`, runs `send_packet` and the packet callback, and ends with
`disconnect` or with a crash. The file and what was given to the radio outlive a session. The
calls of a session are taken one after the other: in turns they do the same. A call that a crash
cuts off has done what it does with an answer that raises. The transport of a session is
connected: what is given to `set_property` is written.
-/

namespace ZigpySpinel.Python
open Lib

/-- What one call gave to the radio: the values of its attempts, and the network frame that it
    encrypted for them. -/
structure Transmission where
  nwkFrame : Option DecryptedZigbeeNwkFrame
  values : List (List UInt8)

variable (encryptBlock : Key → Block → Block)

/-- The network frame that a call encrypts, if it gets so far. -/
def Call.nwkFrame (call : Call) (app : PacketApp) : Option DecryptedZigbeeNwkFrame :=
  match call with
  | .sendPacket packet => (AppState.sendPacket packet.toZigbeePacket app.toAppState).2
  | .packetCallback value =>
    match receive encryptBlock app value with
    | .ok (some r) =>
      match r.decrypted.request with
      | .ok (some request) => app.replyTo r.nwkFrame.nwkHeader request
      | _ => none
    | _ => none

/-- What a call transmits, if it gives anything to the radio. -/
def Call.transmissions (call : Call) (answers : Answers) (app : PacketApp) : List Transmission :=
  match (call.run encryptBlock answers app).1.transmitted with
  | [] => []
  | value :: values =>
    [{ nwkFrame := call.nwkFrame encryptBlock app, values := value :: values }]

/-- The values hold the network frame, encrypted under the network key. -/
structure Transmission.Holds (t : Transmission) (frame : DecryptedZigbeeNwkFrame) : Prop where
  nwkFrame : t.nwkFrame = some frame
  encrypted : ∃ encrypted payload,
    frame.encrypt encryptBlock (PacketApp.loadNetworkInfo 0).key = .ok encrypted ∧
      encrypted.serialize = .ok payload ∧ ∀ value ∈ t.values, ∃ ieeeFrame : IEEE802154Frame,
        ieeeFrame.payload = payload ∧
        streamRawValue (PacketApp.loadNetworkInfo 0).channel ieeeFrame = .ok value

/-- What outlives a session, and the state of the running one. `unsaved` was transmitted since
    `frame_counter.json` was written, `saved` before. -/
structure Coordinator where
  frameCounterJson : Int
  app : Option PacketApp
  unsaved : List Transmission
  saved : List Transmission

/-- What happens to a coordinator. -/
inductive SessionOp where
  | loadNetworkInfo
  | call (call : Call) (answers : Answers)
  | disconnect
  /-- the process ends without `disconnect` -/
  | crash

namespace Coordinator

/-- Before the first session, with a number in the file. -/
def start (stored : Int) : Coordinator where
  frameCounterJson := stored
  app := none
  unsaved := []
  saved := []

/-- Everything that was transmitted, newest first. -/
def sent (c : Coordinator) : List Transmission := c.unsaved ++ c.saved

/-- A session starts. -/
def loaded (c : Coordinator) : Coordinator :=
  { c with app := some (PacketApp.loadNetworkInfo c.frameCounterJson) }

/-- The session of this application has run a call. -/
def called (c : Coordinator) (app : PacketApp) (call : Call) (answers : Answers) : Coordinator :=
  { c with
    app := some (call.run encryptBlock answers app).1.app
    unsaved := call.transmissions encryptBlock answers app ++ c.unsaved }

/-- `disconnect` (`application.py:49-59`): the file is written and the session is over. -/
def disconnected (c : Coordinator) (app : PacketApp) : Coordinator where
  frameCounterJson := app.txCounter
  app := none
  unsaved := []
  saved := c.unsaved ++ c.saved

/-- The state after an operation, if it can happen. -/
def step (c : Coordinator) : SessionOp → Option Coordinator
  | .loadNetworkInfo => if c.app.isNone then some c.loaded else none
  | .call call answers => c.app.map fun app => c.called encryptBlock app call answers
  | .disconnect => c.app.map c.disconnected
  | .crash => c.app.map fun _ => { c with app := none }

/-- Sessions follow each other, each with any operations. -/
def Step (c : Coordinator) (op : SessionOp) (c' : Coordinator) : Prop :=
  c.step encryptBlock op = some c'

/-- A session is loaded only if nothing was transmitted since the file was written. -/
def SavedBeforeLoad (c : Coordinator) : SessionOp → Prop
  | .loadNetworkInfo => c.unsaved = []
  | .call _ _ => True
  | .disconnect => True
  | .crash => True

/-- No two transmissions hold frames with one frame counter or one nonce. -/
def NoncesUnique (c : Coordinator) : Prop :=
  c.sent.Pairwise fun s t => ∃ f g, s.Holds encryptBlock f ∧ t.Holds encryptBlock g ∧
    f.frameCounter ≠ g.frameCounter ∧ f.nonce ≠ g.nonce

/-- Two payloads were encrypted with one frame counter and one nonce, and transmitted. -/
def NonceReused (c : Coordinator) : Prop :=
  ∃ s ∈ c.sent, ∃ t ∈ c.sent, ∃ f g, s.Holds encryptBlock f ∧ t.Holds encryptBlock g ∧
    f.payload ≠ g.payload ∧ f.frameCounter = g.frameCounter ∧ f.nonce = g.nonce

end Coordinator

end ZigpySpinel.Python
