import PacketLog.Cli.Folder
import PacketLog.Main
import PacketLog.Transport.Scripted
import PacketLog.Proofs.Cli.Lines
import PacketLog.Proofs.Cli.Offline
import PacketLog.Proofs.Group.Layers
import PacketLog.Proofs.Group.Request
import PacketLog.Proofs.Record.Connection
import PacketLog.Proofs.Session.DeadHandles
import PacketLog.Proofs.Session.Process
import PacketLog.Proofs.Session.Refinement
import PacketLog.Proofs.Session.Rejection
import PacketLog.Proofs.Session.Sizing
import PacketLog.Proofs.Session.Stream
import PacketLog.Proofs.Session.Subscription
import PacketLog.Proofs.Socket.Credit
import PacketLog.Proofs.Socket.Room
import PacketLog.Proofs.Socket.TimeLimit
import PacketLog.Proofs.Wire.Built
import PacketLog.Proofs.Wire.InPlace
import PacketLog.Proofs.Wire.Sequence
import PacketLog.Proofs.Wire.Walk
import PacketLog.Proofs.Xml.Agreement
import PacketLog.Proofs.Xml.FlagList
import PacketLog.Proofs.Xml.InPlace
import PacketLog.Proofs.Xml.LogPrefix
import PacketLog.Proofs.Xml.Malformed
import PacketLog.Proofs.Xml.WellFormed
import PacketLog.Proofs.Wire.Nesting
import PacketLog.Proofs.Wire.Walk
