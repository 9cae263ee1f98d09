import PacketLog.Json.Value
import PacketLog.Record.Basic

set_option autoImplicit false

/-! # Summaries

A `RecordSummary` holds all fields of a record that structured output shows. It exists only
if each of them can be decoded. -/

namespace PacketLog

/-- The decoded fields of a record. -/
structure RecordSummary where
  hwProtocol : Option UInt16 := none
  hook : Option UInt8 := none
  logPrefix : Option String := none
  mark : Option UInt32 := none
  inDevice : Option UInt32 := none
  outDevice : Option UInt32 := none
  physInDevice : Option UInt32 := none
  physOutDevice : Option UInt32 := none
  uid : Option UInt32 := none
  gid : Option UInt32 := none
  seq : Option UInt32 := none
  seqGlobal : Option UInt32 := none
  connectionId : Option UInt32 := none
  /-- The link-layer source address in hexadecimal. -/
  hwAddr : Option String := none
  timestamp : Option Timestamp := none
  payloadLen : Option Nat := none
  deriving DecidableEq, Inhabited

namespace LogRecord

/-- All fields of a record; the first that is malformed is the error. -/
def summary (r : LogRecord) : Except WireError RecordSummary := do
  let header ← r.packetHeader
  let logPrefix ← r.logPrefix
  let mark ← r.mark
  let inDevice ← r.inDevice
  let outDevice ← r.outDevice
  let physInDevice ← r.physInDevice
  let physOutDevice ← r.physOutDevice
  let uid ← r.uid
  let gid ← r.gid
  let seq ← r.seq
  let seqGlobal ← r.seqGlobal
  let connectionId ← r.connectionId
  let hwAddr ← r.hwAddr
  let timestamp ← r.timestamp
  return {
    hwProtocol := header.map (·.hwProtocol), hook := header.map (·.hook), logPrefix, mark,
    inDevice, outDevice, physInDevice, physOutDevice, uid, gid, seq, seqGlobal, connectionId,
    hwAddr := hwAddr.map fun a => Text.hex a.bytes, timestamp,
    payloadLen := r.payload.map List.length }

end LogRecord

namespace RecordSummary

/-- The members of the JSON object, absent fields left out. -/
def members (s : RecordSummary) : List (String × JsonValue) :=
  let number32 (n : UInt32) : JsonValue := .ofNat n.toNat
  JsonValue.present [
    ("hw_protocol", s.hwProtocol.map fun n => .ofNat n.toNat),
    ("hook", s.hook.map fun n => .ofNat n.toNat),
    ("prefix", s.logPrefix.map .text),
    ("mark", s.mark.map number32),
    ("indev", s.inDevice.map number32),
    ("outdev", s.outDevice.map number32),
    ("physindev", s.physInDevice.map number32),
    ("physoutdev", s.physOutDevice.map number32),
    ("uid", s.uid.map number32),
    ("gid", s.gid.map number32),
    ("seq", s.seq.map number32),
    ("seq_global", s.seqGlobal.map number32),
    ("ct_id", s.connectionId.map number32),
    ("hw_addr", s.hwAddr.map .text),
    ("timestamp", s.timestamp.map fun t =>
      .object [("sec", .ofNat t.sec.toNat), ("usec", .ofNat t.usec.toNat)]),
    ("payload_len", s.payloadLen.map .ofNat)]

/-- The summary as JSON. -/
def toJson (s : RecordSummary) : JsonValue := .object s.members

end RecordSummary

end PacketLog
