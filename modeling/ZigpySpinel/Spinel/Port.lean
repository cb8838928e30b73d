import ZigpySpinel.Spinel.Client

/-!
# The bytes that a client writes (`spinel_client.rs:191-203`)

`send_command` hands its encoded frame to a single `SerialPort::write`. By its contract a
write of `n > 0` bytes accepts some first `k` of them, `1 ≤ k ≤ n`, and returns `Ok(k)`;
concurrent writes come one after the other. Everything but the write is a step of
`SpinelClient`.
-/

namespace ZigpySpinel.Spinel
open Lib

/-- The bytes that `send_command` hands to the port (`spinel_client.rs:191-195`). -/
def SpinelFrame.encoded (crcKermit : List UInt8 → UInt16) (frame : SpinelFrame) : List UInt8 :=
  let hdlcFrame : HdlcLiteFrame := { data := frame.toBytes }
  hdlcFrame.toBytesWithFlags crcKermit

/-- A write that has returned: the frame that was to be written, and the accepted `k`. -/
structure PortWrite where
  frame : SpinelFrame
  accepted : Nat
  deriving DecidableEq, Repr

/-- A client with its port: the bytes the port has accepted, and the writes so far. The
    call of every write in `writes` went on to wait for a response. -/
structure PortClient where
  client : SpinelClient
  wire : List UInt8
  writes : List PortWrite

/-- The steps of the calls, of the reader and of the port. -/
inductive PortAction where
  /-- `port.write` of a call accepts this many bytes and returns `Ok` -/
  | write (call : SenderId) (accepted : Nat)
  /-- any step in which nothing is written -/
  | other (action : Action)
  deriving DecidableEq, Repr

namespace PortClient

/-- Before any call. -/
def new : PortClient where
  client := .new
  wire := []
  writes := []

variable (crcKermit : List UInt8 → UInt16)

/-- A write that accepts the first bytes of what it is given. `send_command` drops the
    number that `write` returns, so the call goes on to wait whatever it is
    (`spinel_client.rs:198-203`). -/
def written (p : PortClient) (client : SpinelClient) (frame : SpinelFrame) (accepted : Nat) :
    PortClient where
  client := client
  wire := p.wire ++ (frame.encoded crcKermit).take accepted
  writes := p.writes ++ [{ frame := frame, accepted := accepted }]

/-- The state after a step, if the step can be taken. -/
def step (p : PortClient) : PortAction → Option PortClient
  | .write id accepted =>
    match p.client.calls id, p.client.step (.written id) with
    | some call, some client =>
      -- the contract of `SerialPort::write`
      if 1 ≤ accepted ∧ accepted ≤ (call.frame.encoded crcKermit).length then
        some (p.written crcKermit client call.frame accepted)
      else none
    | _, _ => none
  | .other action =>
    match action with
    | .written _ => none
    | .writeFailed _ => none
    | action => (p.client.step action).map fun client => { p with client := client }

/-- Any interleaving of the calls, the reader and the port. -/
def Step (p : PortClient) (action : PortAction) (p' : PortClient) : Prop :=
  p.step crcKermit action = some p'

end PortClient

end ZigpySpinel.Spinel
