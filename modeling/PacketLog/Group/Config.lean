import PacketLog.Group.Command
import PacketLog.Json.Value

set_option autoImplicit false

/-! # Group configurations

A `GroupConfig` says how the records of a group are to be logged; what it leaves open stays
as the kernel has it. It is applied by a list of commands, and one configuration can
override another field by field (`GroupConfig.merge`). -/

namespace PacketLog

/-- What the kernel adds to each record. -/
structure LogFlags where
  /-- The number of the record within its group. -/
  seq : Bool := false
  /-- The number of the record among all groups. -/
  seqGlobal : Bool := false
  /-- What is known about the packet's connection. -/
  conntrack : Bool := false
  deriving DecidableEq, Inhabited

namespace LogFlags

/-- One bit for each addition. -/
def bits (f : LogFlags) : UInt16 :=
  (if f.seq then 1 else 0) ||| (if f.seqGlobal then 2 else 0) ||| (if f.conntrack then 4 else 0)

def toJson (f : LogFlags) : JsonValue :=
  .object [("seq", .bool f.seq), ("seq_global", .bool f.seqGlobal),
    ("conntrack", .bool f.conntrack)]

end LogFlags

/-- The parameters of a group; one that is not set stays as it is. -/
structure GroupConfig where
  copyMode : Option CopyMode := none
  /-- How many bytes of a packet to copy. -/
  copyRange : Option UInt32 := none
  /-- How long a batch may wait, in hundredths of a second. -/
  timeout : Option UInt32 := none
  queueThreshold : Option UInt32 := none
  /-- How many bytes a batch may have. -/
  bufferSize : Option UInt32 := none
  flags : Option LogFlags := none
  deriving DecidableEq, Inhabited

namespace GroupConfig

/-- The command that sets mode and range, if either is set. The mode that is not set is `packet`,
and the range that is not set is the greatest of two bytes. -/
def modeCommand (c : GroupConfig) : Option Command :=
  if c.copyMode.isSome || c.copyRange.isSome then
    some (.mode (c.copyMode.getD .packet) (c.copyRange.getD 0xffff))
  else
    none

/-- The commands that apply a configuration, in the order in which they are sent. -/
def commands (c : GroupConfig) : List Command :=
  c.modeCommand.toList ++ (c.bufferSize.map .bufferSize).toList ++
    (c.timeout.map .timeout).toList ++ (c.queueThreshold.map .queueThreshold).toList ++
    (c.flags.map fun f => .flags f.bits).toList

/-- `c` with the fields that `other` sets replaced by them. -/
def merge (c other : GroupConfig) : GroupConfig :=
  { copyMode := other.copyMode.or c.copyMode
    copyRange := other.copyRange.or c.copyRange
    timeout := other.timeout.or c.timeout
    queueThreshold := other.queueThreshold.or c.queueThreshold
    bufferSize := other.bufferSize.or c.bufferSize
    flags := other.flags.or c.flags }

/-- The configuration as JSON; a field that is not set is null. -/
def toJson (c : GroupConfig) : JsonValue :=
  let number (n : UInt32) : JsonValue := .ofNat n.toNat
  .object [("copy_mode", .orNull (fun m => .text m.name) c.copyMode),
    ("copy_range", .orNull number c.copyRange), ("timeout", .orNull number c.timeout),
    ("queue_threshold", .orNull number c.queueThreshold),
    ("buffer_size", .orNull number c.bufferSize), ("flags", .orNull LogFlags.toJson c.flags)]

end GroupConfig

end PacketLog
