import PacketLog.Record.Field
import PacketLog.Wire.Table

set_option autoImplicit false

/-! # Log records

A `LogRecord` is the attribute table of one logged packet. Each field is decoded when it is
asked for: it is `none` when its attribute is absent and an error only when the attribute is
present and malformed, whatever the other attributes hold. -/

namespace PacketLog

/-- The part of a record that every logged packet carries. -/
structure PacketHeader where
  /-- Link-layer protocol. -/
  hwProtocol : UInt16
  /-- The netfilter hook that logged the packet. -/
  hook : UInt8
  deriving DecidableEq, Inhabited

/-- When the kernel logged the packet. -/
structure Timestamp where
  sec : UInt64
  usec : UInt64
  deriving DecidableEq, Inhabited

/-- The link-layer source address. -/
structure HwAddr where
  /-- The length that the kernel declared. -/
  declared : UInt16
  /-- The eight bytes that the attribute has room for. -/
  slot : Bytes
  deriving DecidableEq, Inhabited

namespace HwAddr

/-- The bytes of the address: as many as declared, and no more than there is room for. -/
def bytes (a : HwAddr) : Bytes := a.slot.take a.declared.toNat

end HwAddr

/-- One logged packet. -/
structure LogRecord where
  attrs : AttrTable

namespace LogRecord

/-- Reads the attributes of a log record message. -/
def parse (bytes : Bytes) : Except WireError LogRecord :=
  (AttrTable.parse bytes Field.last).map LogRecord.mk

/-- Decodes a field whose payload has to be `width` bytes wide. -/
def fixed {α : Type} (r : LogRecord) (kind : UInt16) (width : Nat) (decode : Bytes → α) :
    Except WireError (Option α) :=
  (r.attrs.exact kind width).map (·.map decode)

/-! ## Packet -/

def packetHeader (r : LogRecord) : Except WireError (Option PacketHeader) :=
  r.fixed Field.packetHeader 4 fun b =>
    { hwProtocol := .ofNat (Bytes.beValue (b.window 0 2))
      hook := .ofNat (Bytes.beValue (b.window 2 1)) }

def mark (r : LogRecord) : Except WireError (Option UInt32) := r.attrs.uint32 Field.mark

def timestamp (r : LogRecord) : Except WireError (Option Timestamp) :=
  r.fixed Field.timestamp 16 fun b =>
    { sec := .ofNat (Bytes.beValue (b.window 0 8)), usec := .ofNat (Bytes.beValue (b.window 8 8)) }

/-- The packet's bytes from the network header on, as many as the kernel copied. -/
def payload (r : LogRecord) : Option Bytes := r.attrs.get Field.payload

/-- The text that the firewall rule adds to its records, up to the first zero byte. -/
def logPrefix (r : LogRecord) : Except WireError (Option String) :=
  match r.attrs.get Field.logPrefix with
  | none => .ok none
  | some bytes =>
    match Bytes.toText? (bytes.takeWhile (· != 0)) with
    | some text => .ok (some text)
    | none => .error (.invalidString Field.logPrefix)

/-! ## Devices -/

def inDevice (r : LogRecord) : Except WireError (Option UInt32) := r.attrs.uint32 Field.inDevice

def outDevice (r : LogRecord) : Except WireError (Option UInt32) := r.attrs.uint32 Field.outDevice

def physInDevice (r : LogRecord) : Except WireError (Option UInt32) :=
  r.attrs.uint32 Field.physInDevice

def physOutDevice (r : LogRecord) : Except WireError (Option UInt32) :=
  r.attrs.uint32 Field.physOutDevice

/-! ## Link layer -/

def hwType (r : LogRecord) : Except WireError (Option UInt16) := r.attrs.uint16 Field.hwType

def hwHeaderLen (r : LogRecord) : Except WireError (Option UInt16) :=
  r.attrs.uint16 Field.hwHeaderLen

def hwHeader (r : LogRecord) : Option Bytes := r.attrs.get Field.hwHeader

def hwAddr (r : LogRecord) : Except WireError (Option HwAddr) :=
  r.fixed Field.hwAddr 12 fun b =>
    { declared := .ofNat (Bytes.beValue (b.window 0 2)), slot := b.drop 4 }

/-! ## Owner and order -/

def uid (r : LogRecord) : Except WireError (Option UInt32) := r.attrs.uint32 Field.uid

def gid (r : LogRecord) : Except WireError (Option UInt32) := r.attrs.uint32 Field.gid

/-- The number of the record within its group. -/
def seq (r : LogRecord) : Except WireError (Option UInt32) := r.attrs.uint32 Field.seq

/-- The number of the record among all groups. -/
def seqGlobal (r : LogRecord) : Except WireError (Option UInt32) :=
  r.attrs.uint32 Field.seqGlobal

/-! ## Connection tracking -/

/-- The first connection id among the items of an attribute sequence. What follows it is not
looked at, and an error before it ends the search. -/
def findConnectionId : List (Except WireError Attr) → Except WireError (Option UInt32)
  | [] => .ok none
  | .error e :: _ => .error e
  | .ok a :: rest =>
    if a.kind ≠ Field.connectionId then findConnectionId rest
    else if a.payload.length = 4 then .ok (some (.ofNat (Bytes.beValue a.payload)))
    else .error (.typeMismatch Field.connectionId 4 a.payload.length)

/-- The id of the connection that the packet belongs to. -/
def connectionId (r : LogRecord) : Except WireError (Option UInt32) :=
  match r.attrs.get Field.conntrack with
  | none => .ok none
  | some bytes => findConnectionId (Attr.scan bytes)

/-- The state of the connection, seen from the packet. -/
def conntrackInfo (r : LogRecord) : Except WireError (Option UInt32) :=
  r.attrs.uint32 Field.conntrackInfo

/-- Everything known about the connection, as a table of its own. -/
def conntrack (r : LogRecord) : Except WireError (Option AttrTable) :=
  r.attrs.nested Field.conntrack Field.lastConntrack

end LogRecord

end PacketLog
