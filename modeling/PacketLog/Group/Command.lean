import PacketLog.Group.CopyMode
import PacketLog.Session.Error
import PacketLog.Wire.Message
import PacketLog.Wire.Table

set_option autoImplicit false

/-! # Commands

A `Command` changes how the kernel logs. It is sent as a message of its own
(`GroupCommand.encode`) that names the group and the address family it is for, and can be
read back (`GroupCommand.decode`). -/

namespace PacketLog

/-- The netlink type of a log record. -/
def recordKind : UInt16 := 0x0400

/-- The netlink type of a configuration message. -/
def configKind : UInt16 := 0x0401

/-- One change of the kernel's configuration. -/
inductive Command where
  /-- Become the logger of an address family. -/
  | bindFamily
  /-- Give the address family up. -/
  | unbindFamily
  /-- Subscribe to a group. -/
  | bindGroup
  /-- End the subscription. -/
  | unbindGroup
  /-- How much of each packet to copy, and how many bytes at most. -/
  | mode (mode : CopyMode) (range : UInt32)
  /-- How long a batch may wait, in hundredths of a second. -/
  | timeout (hundredths : UInt32)
  /-- How many records make a batch. -/
  | queueThreshold (count : UInt32)
  /-- How many bytes a batch may have. -/
  | bufferSize (bytes : UInt32)
  /-- What to add to each record, one bit each. -/
  | flags (bits : UInt16)
  deriving DecidableEq, Inhabited

namespace Command

def name : Command → String
  | bindFamily => "bind-family"
  | unbindFamily => "unbind-family"
  | bindGroup => "bind-group"
  | unbindGroup => "unbind-group"
  | mode .. => "mode"
  | timeout _ => "timeout"
  | queueThreshold _ => "queue-threshold"
  | bufferSize _ => "buffer-size"
  | flags _ => "flags"

/-! ## Attributes

The types of a configuration message's attributes. -/

def verbAttr : UInt16 := 1
def modeAttr : UInt16 := 2
def bufferSizeAttr : UInt16 := 3
def timeoutAttr : UInt16 := 4
def queueThresholdAttr : UInt16 := 5
def flagsAttr : UInt16 := 6

/-- The greatest of these types. -/
def lastAttr : UInt16 := flagsAttr

/-- Writes the attribute that carries a command. -/
def write (w : AttrWriter) : Command → Except WireError AttrWriter
  | bindGroup => w.putUInt8 verbAttr 1
  | unbindGroup => w.putUInt8 verbAttr 2
  | bindFamily => w.putUInt8 verbAttr 3
  | unbindFamily => w.putUInt8 verbAttr 4
  | mode m range => w.put modeAttr (Bytes.be 4 range.toNat ++ [m.toUInt8, 0])
  | timeout hundredths => w.putUInt32 timeoutAttr hundredths
  | queueThreshold count => w.putUInt32 queueThresholdAttr count
  | bufferSize bytes => w.putUInt32 bufferSizeAttr bytes
  | flags bits => w.putUInt16 flagsAttr bits

/-- The command that the first attribute's code stands for. -/
def ofVerb (code : UInt8) : Except SessionError Command :=
  match code.toNat with
  | 1 => .ok bindGroup
  | 2 => .ok unbindGroup
  | 3 => .ok bindFamily
  | 4 => .ok unbindFamily
  | n => .error (.invalidCommand s!"unknown command code {n}")

/-- The command that a mode attribute of six bytes stands for. -/
def ofMode (bytes : Bytes) : Except SessionError Command :=
  let code := UInt8.ofNat (Bytes.beValue (bytes.window 4 1))
  match CopyMode.ofUInt8? code with
  | some m => .ok (mode m (.ofNat (Bytes.beValue (bytes.window 0 4))))
  | none => .error (.invalidCommand s!"unknown copy mode {code}")

/-- Finds the command among the attributes of a configuration message. If there is more than one,
the first of verb, mode, timeout, threshold, size and flags wins. -/
def ofTable (t : AttrTable) : Except SessionError Command := do
  if let some code ← (t.uint8 verbAttr).mapError .attr then return ← ofVerb code
  if let some bytes ← (t.exact modeAttr 6).mapError .attr then return ← ofMode bytes
  if let some n ← (t.uint32 timeoutAttr).mapError .attr then return timeout n
  if let some n ← (t.uint32 queueThresholdAttr).mapError .attr then return queueThreshold n
  if let some n ← (t.uint32 bufferSizeAttr).mapError .attr then return bufferSize n
  if let some n ← (t.uint16 flagsAttr).mapError .attr then return flags n
  throw (.invalidCommand "no configuration attribute present")

end Command

/-- A command with what it is for. -/
structure GroupCommand where
  command : Command
  group : UInt16
  /-- The address family; commands on a group leave it unspecified, which is 0. -/
  family : UInt8 := 0
  deriving DecidableEq, Inhabited

namespace GroupCommand

/-- The message that carries a command. Its number is still zero. -/
def encode (c : GroupCommand) : Except WireError Bytes := do
  let builder := MessageBuilder.new configKind
    (MessageHeader.requestFlag ||| MessageHeader.ackFlag) { family := c.family, group := c.group }
  let attrs ← c.command.write builder.attrs
  ({ attrs } : MessageBuilder).finish

/-- Reads the command that a message carries. -/
def decode (bytes : Bytes) : Except SessionError GroupCommand := do
  let m ← (Message.parse bytes).mapError .attr
  if m.header.kind ≠ configKind then throw (.unexpectedMessage m.header.kind)
  let (header, attrs) ← m.group.mapError .attr
  let table ← (AttrTable.parse attrs Command.lastAttr).mapError .attr
  let command ← Command.ofTable table
  return { command, group := header.group, family := header.family }

end GroupCommand

end PacketLog
