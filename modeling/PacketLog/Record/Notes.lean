import PacketLog.Journal
import PacketLog.Record.Basic

set_option autoImplicit false

/-! # Notes on reading a record -/

namespace PacketLog.LogRecord

/-- The notes of what reading a record passes over. -/
def parseEvents (attrs : Bytes) : List Event :=
  (AttrTable.passedOver attrs Field.last).map fun a =>
    .trace "skipping unknown attribute" [("kind", .number a.kind.toNat),
      ("max_type", .number Field.last.toNat), ("depth", .number 0)]

end PacketLog.LogRecord
