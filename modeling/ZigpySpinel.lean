import ZigpySpinel.Types
import ZigpySpinel.Spinel.Proofs.Resync
import ZigpySpinel.Spinel.Proofs.Dispatch
import ZigpySpinel.Spinel.Proofs.Isolation
import ZigpySpinel.Zigbee.Proofs.NwkCodec
import ZigpySpinel.Lib.Block
import ZigpySpinel.Lib.Ccm
import ZigpySpinel.Zigbee.NwkCrypto
import ZigpySpinel.Zigbee.Proofs.NwkInverse
import ZigpySpinel.Zigbee.Proofs.NwkCcm
import ZigpySpinel.Zigbee.Aps
import ZigpySpinel.Zigbee.Proofs.ApsCodec
import ZigpySpinel.Python.Application
import ZigpySpinel.Ieee802154.Frame
import ZigpySpinel.Ieee802154.Proofs.FrameCodec
import ZigpySpinel.Spinel.Port
import ZigpySpinel.Spinel.Proofs.Leaks
import ZigpySpinel.Spinel.Proofs.Synchronisation
import ZigpySpinel.Spinel.Proofs.WholeFrames
import ZigpySpinel.Ieee802154.Proofs.FcsDetection
import ZigpySpinel.Python.Proofs.NwkAgreement
import ZigpySpinel.Python.SpinelTypes
import ZigpySpinel.Python.EventLoop
import ZigpySpinel.Spinel.Proofs.Payloads
import ZigpySpinel.Python.Proofs.ReceiveLoop
import ZigpySpinel.Python.Proofs.Requests
import ZigpySpinel.Python.Proofs.Robustness
import ZigpySpinel.Python.Proofs.RequestIsolation
import ZigpySpinel.Python.Proofs.ReceiveAgreement
import ZigpySpinel.Lib.Varint
import ZigpySpinel.Python.Proofs.PackedUInt21
import ZigpySpinel.Spinel.Proofs.PackedUint21
import ZigpySpinel.Lib.Slice
import ZigpySpinel.Spinel.Proofs.HdlcGrammar
import ZigpySpinel.Spinel.Proofs.RxFrame
import ZigpySpinel.Python.Ieee802154
import ZigpySpinel.Python.Proofs.FcsAgreement
import ZigpySpinel.Ieee802154.Proofs.NoPanic
import ZigpySpinel.Zigbee.Proofs.NwkNoPanic
import ZigpySpinel.Zigbee.Proofs.MacFormat
import ZigpySpinel.Python.Proofs.PackedAgreement
import ZigpySpinel.Spinel.Proofs.FrameCodec
import ZigpySpinel.Zigbee.Proofs.SourceRoute
import ZigpySpinel.Spinel.Proofs.Properties
import ZigpySpinel.Python.ZigpyTypes
import ZigpySpinel.Python.Proofs.NwkDecoding
import ZigpySpinel.Python.Proofs.Ieee802154Codec
import ZigpySpinel.Python.Proofs.NwkCcm
import ZigpySpinel.Lib.Timers
import ZigpySpinel.Python.PermitJoins
import ZigpySpinel.Python.Proofs.PermitJoins
import ZigpySpinel.Python.PacketCallback
import ZigpySpinel.Python.Proofs.Delivery
import ZigpySpinel.Python.Proofs.CallbackEffects
import ZigpySpinel.Python.Proofs.Replies
import ZigpySpinel.Python.Proofs.VersionOrder
import ZigpySpinel.Zigbee.Proofs.KeyStream
import ZigpySpinel.Python.Proofs.ApsCodec
import ZigpySpinel.Python.Proofs.SentPackets
import ZigpySpinel.Python.Proofs.EndToEnd
import ZigpySpinel.Python.Proofs.Tasks
import ZigpySpinel.Python.Sessions
import ZigpySpinel.Python.Proofs.Sessions
import ZigpySpinel.Python.Proofs.Network
import ZigpySpinel.Python.Proofs.Replays
import ZigpySpinel.Python.Proofs.Ieee802154Agreement
import ZigpySpinel.Python.Proofs.ApsAgreement
import ZigpySpinel.Python.Proofs.NwkReading
import ZigpySpinel.Python.Proofs.CrossReading
import ZigpySpinel.Lib.Search
import ZigpySpinel.Lib.Pcap
import ZigpySpinel.Hex
import ZigpySpinel.Tools.DumpPcap
import ZigpySpinel.Tools.Proofs.KeysFile
import ZigpySpinel.Tools.Proofs.DumpPcap
import ZigpySpinel.Python.Sniffer
import ZigpySpinel.Tools.Proofs.Sniffing
import ZigpySpinel.Spinel.Reader
import ZigpySpinel.Spinel.Proofs.Reader
import ZigpySpinel.Spinel.Receivers
import ZigpySpinel.Spinel.Proofs.Receivers
import ZigpySpinel.Lib.Channel
import ZigpySpinel.Tools.PacketCapture
import ZigpySpinel.Tools.Proofs.PacketCapture
import ZigpySpinel.Python.Proofs.Responses
import ZigpySpinel.Python.PropertyWaits
import ZigpySpinel.Python.Proofs.PropertyWaits
import ZigpySpinel.Python.Proofs.FrameAgreement
import ZigpySpinel.Python.Proofs.UpdateAgreement
import ZigpySpinel.Python.Proofs.Transmissions
import ZigpySpinel.Python.CaptureCheck
import ZigpySpinel.Python.Proofs.CaptureCheck
import ZigpySpinel.Tools.Proofs.CheckedTraffic
