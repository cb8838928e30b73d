import Mathlib.Data.List.AList
import ZigpySpinel.Python.Ieee802154
import ZigpySpinel.Python.ZigbeeParsing

/-!
# Checking capture files (`zigbee_types.py`, run as a script)

The script reads capture files, and asserts of each packet that it is written as it was read, and
of each network frame that it is encrypted as it was decrypted. The keys that were read from the
file of Wireshark and the packets that the capture reader returns are parameters. Of the output
the frames are kept.
-/

namespace ZigpySpinel.Python
open Lib

/-- What ends the script: an exception of the package, or a name that no loop has bound. -/
inductive ScriptError where
  | raised (exception : PyException)
  | nameError
  deriving DecidableEq, Repr

/-- A call of the package that the script does not guard. -/
def unguarded {α : Type} : Except PyException α → Except ScriptError α
  | .ok a => .ok a
  | .error e => .error (.raised e)

/-- A `dict` of keys by their names, in the order in which it is iterated. -/
abbrev NetworkKeys := AList fun _ : String => Key

/-- The variables of the script. A frame is printed with its number in the file. -/
structure CaptureCheck where
  networkKeys : NetworkKeys
  printed : List (Nat × DecryptedZigbeeNwkFrame × ZigbeeApsFrame)

variable (encryptBlock : Key → Block → Block)

/-- The loop over the keys (`zigbee_types.py:667-676`) up to the first one that decrypts, with its
    name. The exception of the last key is raised again, and the script goes on to the next packet
    (`zigbee_types.py:677-678`). Without keys nothing is bound, and line 681 raises. -/
def tryKeys (frame : EncryptedZigbeeNwkFrame) : List ((_ : String) × Key) →
    Except ScriptError (Option (String × Key × DecryptedZigbeeNwkFrame))
  | [] => .error .nameError
  | ⟨name, key⟩ :: rest =>
    match frame.decrypt encryptBlock key with
    | .ok decrypted => .ok (some (name, key, decrypted))
    | .error (.decryptionFailure _) => if rest = [] then .ok none else tryKeys frame rest
    | .error e => .error (.raised e)

namespace CaptureCheck

/-- The decrypted frame (`zigbee_types.py:666-688`), `none` where the packet is skipped. -/
def decrypted (s : CaptureCheck) (frame : EncryptedZigbeeNwkFrame) :
    Except ScriptError (CaptureCheck × Option DecryptedZigbeeNwkFrame) := do
  match ← tryKeys encryptBlock frame s.networkKeys.entries with
  | none => .ok (s, none)
  | some (name, key, decrypted) => do
    -- `{name: key, **network_keys}` starts with this name, and it holds the same key
    let s := { s with networkKeys := s.networkKeys.insert name key }
    let encrypted ← unguarded (decrypted.encrypt encryptBlock key)
    if encrypted.payload = frame.payload then .ok (s, some decrypted)
    else .error (.raised .assertionError)

/-- What is printed for a decrypted frame (`zigbee_types.py:690-703`). -/
def print (s : CaptureCheck) (index : Nat) (frame : DecryptedZigbeeNwkFrame) :
    Except ScriptError CaptureCheck :=
  if frame.nwkHeader.frameControl.frameType ≠ .data then .ok s
  else do
    let apsFrame ← unguarded (ZigbeeApsFrame.fromBytes frame.payload)
    .ok { s with printed := s.printed ++ [(index + 1, frame, apsFrame)] }

/-- The payload of a data frame (`zigbee_types.py:664-703`). `from_bytes` returns no other frames
    than encrypted ones, so that frames without security are decrypted too. -/
def checkNwkFrame (s : CaptureCheck) (index : Nat) (payload : List UInt8) :
    Except ScriptError CaptureCheck := do
  let zigbeeNwkFrame ← unguarded (ZigbeeNwkFrame.fromBytes payload)
  match ← s.decrypted encryptBlock zigbeeNwkFrame with
  | (s, none) => .ok s
  | (s, some frame) => s.print index frame

/-- A packet (`zigbee_types.py:658-703`). -/
def checkPacket (s : CaptureCheck) (index : Nat) (packet : List UInt8) :
    Except ScriptError CaptureCheck := do
  let ieeeFrame ← unguarded (IEEE802154Frame.fromBytes packet)
  let written ← unguarded ieeeFrame.serialize
  if written ≠ packet then .error (.raised .assertionError)
  else if ieeeFrame.frameControl.frameType ≠ .data then .ok s
  else s.checkNwkFrame encryptBlock index ieeeFrame.payload

/-- The packets of a file from the one with this index on. -/
def checkFrom (s : CaptureCheck) (index : Nat) : List (List UInt8) → Except ScriptError CaptureCheck
  | [] => .ok s
  | packet :: packets => do
    let s ← s.checkPacket encryptBlock index packet
    s.checkFrom (index + 1) packets

end CaptureCheck

/-- The script with these keys on the packets of some files (`zigbee_types.py:653-703`). -/
def checkCaptures (networkKeys : NetworkKeys) (files : List (List (List UInt8))) :
    Except ScriptError CaptureCheck :=
  files.foldlM (fun s packets => s.checkFrom encryptBlock 0 packets)
    { networkKeys := networkKeys, printed := [] }

end ZigpySpinel.Python
