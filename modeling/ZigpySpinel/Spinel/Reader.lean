import ZigpySpinel.Spinel.Client

/-!
# The reader of a client (`spinel_client.rs:152-176`)

`spawn_reader` starts a task that reads from the port and hands what it has read to the
protocol object, under the lock. It ends at the end of the file or at an error; the calls
go on without it.
-/

namespace ZigpySpinel.Spinel
open Lib

/-- The size of the reader's buffer (`spinel_client.rs:157`). -/
def readerBufferSize : Nat := 2048

/-- A client with its reader. -/
structure ReaderClient where
  client : SpinelClient
  /-- the reader has not left its loop -/
  reading : Bool

/-- The steps of the calls and of the reader. -/
inductive ReaderAction where
  /-- `port.read` returns these bytes -/
  | read (bytes : List UInt8)
  /-- `port.read` returns an error -/
  | readFailed
  /-- any step but that of the reader -/
  | call (action : Action)
  deriving DecidableEq, Repr

variable (crcKermit : List UInt8 → UInt16)

/-- The locked section of the reader (`spinel_client.rs:162-165`). -/
def SpinelClient.receivedBytes (c : SpinelClient) (bytes : List UInt8) : SpinelClient :=
  let (protocol, effects) := c.protocol.handleInboundBytes crcKermit bytes
  { c with protocol := protocol, calls := effects.foldl SpinelClient.deliver c.calls }

namespace ReaderClient

/-- A new client whose reader has been started. -/
def new : ReaderClient where
  client := .new
  reading := true

/-- `port.read` returns (`spinel_client.rs:160-169`). -/
def read (r : ReaderClient) (bytes : List UInt8) : ReaderClient :=
  match bytes with
  -- "EOF or 0 bytes read, stopping."
  | [] => { r with reading := false }
  | bytes => { r with client := r.client.receivedBytes crcKermit bytes }

/-- The state after a step, if the step can be taken. -/
def step (r : ReaderClient) : ReaderAction → Option ReaderClient
  | .read bytes =>
    if r.reading ∧ bytes.length ≤ readerBufferSize then some (r.read crcKermit bytes) else none
  | .readFailed => if r.reading then some { r with reading := false } else none
  | .call action =>
    match action with
    | .inbound _ => none
    | action => (r.client.step action).map fun client => { r with client := client }

/-- Any interleaving of the calls and the reader. -/
def Step (r : ReaderClient) (action : ReaderAction) (r' : ReaderClient) : Prop :=
  r.step crcKermit action = some r'

end ReaderClient

end ZigpySpinel.Spinel
