import PacketLog.Cli.Arguments
import PacketLog.Cli.Failure
import PacketLog.Record.Summary
import PacketLog.Text.Grid
import PacketLog.Text.Quoted
import PacketLog.Wire.Header
import PacketLog.Xml.Document

set_option autoImplicit false

/-! # Printed records

A record is printed as one JSON object, as a small table, as one line of names and values, or as an
XML document (`recordText`). -/

namespace PacketLog.Cli

/-- A record as one JSON object: its group and family, then its fields. -/
def jsonText (header : GroupHeader) (s : RecordSummary) : String :=
  (JsonValue.object (("group", .ofNat header.group.toNat) ::
    ("family", .ofNat header.family.toNat) :: s.members)).render

/-- A number in a cell; a dash stands for one that is absent. -/
def cell (n : Option Nat) : String := (n.map toString).getD "-"

/-- A record as a table. -/
def tableText (header : GroupHeader) (s : RecordSummary) : String :=
  Text.grid ["GROUP", "HOOK", "PREFIX", "MARK", "INDEV", "OUTDEV", "UID", "PAYLOAD"]
    [toString header.group.toNat, cell (s.hook.map (·.toNat)), s.logPrefix.getD "",
      cell (s.mark.map (·.toNat)), cell (s.inDevice.map (·.toNat)),
      cell (s.outDevice.map (·.toNat)), cell (s.uid.map (·.toNat)), cell s.payloadLen]

/-- A record on one line, with the fields that are present. -/
def prettyText (header : GroupHeader) (s : RecordSummary) : String :=
  let number (n : UInt32) : String := toString n.toNat
  let present := [
    ("prefix", s.logPrefix.map Text.quoted),
    ("hook", s.hook.map fun n => toString n.toNat),
    ("proto", s.hwProtocol.map fun n => "0x" ++ Text.hexPadded 4 n.toNat),
    ("mark", s.mark.map number),
    ("indev", s.inDevice.map number),
    ("outdev", s.outDevice.map number),
    ("uid", s.uid.map number),
    ("gid", s.gid.map number),
    ("seq", s.seq.map number),
    ("ctid", s.connectionId.map number),
    ("payload", s.payloadLen.map fun n => toString n ++ "B")]
  "group=" ++ toString header.group.toNat ++
    String.join (present.filterMap fun (name, value) => value.map fun v => " " ++ name ++ "=" ++ v)

/-- A record in a format that shows its summary. -/
def summaryText (header : GroupHeader) (r : LogRecord)
    (text : GroupHeader → RecordSummary → String) : Except Failure String :=
  match r.summary with
  | .ok s => .ok (text header s)
  | .error e => .error (.ofXml "decode failed" (.attr e))

/-- A record in the given format. A document shows the selected fields, the time among them. -/
def recordText (header : GroupHeader) (r : LogRecord) (format : OutputFormat) (flags : XmlFlags)
    (now : CalendarTime) : Except Failure String :=
  match format with
  | .json => summaryText header r jsonText
  | .table => summaryText header r tableText
  | .pretty => summaryText header r prettyText
  | .xml => (r.document flags now).mapError (.ofXml "render failed")

end PacketLog.Cli
