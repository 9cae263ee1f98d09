set_option autoImplicit false

/-! # The fields of a log record

The attribute types of a log record, with their names, and the two types that matter inside
the connection tracking attribute. The numbers are fixed by the kernel. -/

namespace PacketLog.Field

def packetHeader : UInt16 := 1
def mark : UInt16 := 2
def timestamp : UInt16 := 3
def inDevice : UInt16 := 4
def outDevice : UInt16 := 5
def physInDevice : UInt16 := 6
def physOutDevice : UInt16 := 7
def hwAddr : UInt16 := 8
def payload : UInt16 := 9
def logPrefix : UInt16 := 10
def uid : UInt16 := 11
def seq : UInt16 := 12
def seqGlobal : UInt16 := 13
def gid : UInt16 := 14
def hwType : UInt16 := 15
def hwHeader : UInt16 := 16
def hwHeaderLen : UInt16 := 17
def conntrack : UInt16 := 18
def conntrackInfo : UInt16 := 19

/-- The greatest type that a record indexes. -/
def last : UInt16 := conntrackInfo

/-- The connection's id, inside the connection tracking attribute. -/
def connectionId : UInt16 := 12

/-- The greatest type that the connection tracking attribute indexes. -/
def lastConntrack : UInt16 := 32

/-- The name of a type. -/
def name (kind : UInt16) : String :=
  match kind.toNat with
  | 1 => "PACKET_HDR"
  | 2 => "MARK"
  | 3 => "TIMESTAMP"
  | 4 => "IFINDEX_INDEV"
  | 5 => "IFINDEX_OUTDEV"
  | 6 => "IFINDEX_PHYSINDEV"
  | 7 => "IFINDEX_PHYSOUTDEV"
  | 8 => "HWADDR"
  | 9 => "PAYLOAD"
  | 10 => "PREFIX"
  | 11 => "UID"
  | 12 => "SEQ"
  | 13 => "SEQ_GLOBAL"
  | 14 => "GID"
  | 15 => "HWTYPE"
  | 16 => "HWHEADER"
  | 17 => "HWLEN"
  | 18 => "CT"
  | 19 => "CT_INFO"
  | _ => "UNKNOWN"

end PacketLog.Field
