import PacketLog.CalendarTime
import PacketLog.Record.Basic
import PacketLog.Text.Hex
import PacketLog.Xml.BoundedWriter

set_option autoImplicit false

/-! # Records as XML

A record is rendered as one `log` element. Its text is a list of fragments
(`LogRecord.fragments`), which depends on the record, the selected fields and the time, and
not on the room that there is: `LogRecord.render` copies as many of them as fit into a
buffer, and `LogRecord.document` is all of them. Marks and device numbers that are zero are
left out. -/

namespace PacketLog

namespace Xml

/-- How one character stands in the text of an element. -/
def escapedChar (c : Char) : String :=
  if c = '&' then "&amp;" else if c = '<' then "&lt;" else if c = '>' then "&gt;"
  else c.toString

/-- A text without markup. -/
def escape (s : String) : String := String.join (s.toList.map escapedChar)

/-- An element that holds a text. -/
def element (tag text : String) : String := "<" ++ tag ++ ">" ++ text ++ "</" ++ tag ++ ">"

/-- A number of at least two digits. -/
def twoDigits (n : Nat) : String := Text.padLeft 2 '0' (toString n)

/-- The fragments of the time. -/
def whenFragments (t : CalendarTime) : List String :=
  ["<when>", element "hour" (toString t.hour), element "min" (twoDigits t.minute),
    element "sec" (twoDigits t.second), element "wday" (toString (t.weekday + 1)),
    element "day" (toString t.day), element "month" (toString t.month),
    element "year" (toString t.year), "</when>"]

/-- The fragments of the link layer. -/
def hwFragments (protocol : UInt16) (address : Option HwAddr) : List String :=
  let proto := "<hw>" ++ element "proto" (Text.hexPadded 4 protocol.toNat)
  match address with
  | none => [proto ++ "</hw>"]
  | some a => [proto, "<src>"] ++ a.bytes.map Text.hexByte ++ ["</src></hw>"]

/-- The fragments of the packet's bytes. -/
def payloadFragments (payload : Bytes) : List String :=
  ["<payload>"] ++ payload.map Text.hexByte ++ ["</payload>"]

/-- An element for a number that is present and not zero. -/
def nonzeroElement (tag : String) : Option UInt32 → List String
  | some n => if n = 0 then [] else [element tag (toString n)]
  | none => []

end Xml

namespace LogRecord

open Xml

/-- `fragments` if the flag is selected, nothing otherwise. A field that is not selected is not
decoded, so it cannot fail. -/
def selected (flags flag : XmlFlags) (fragments : Except WireError (List String)) :
    Except WireError (List String) :=
  if flags.contains flag then fragments else .ok []

/-- The hook and, if selected, the link layer. -/
def hookFragments (r : LogRecord) (flags : XmlFlags) : Except WireError (List String) := do
  match ← r.packetHeader with
  | none => return []
  | some header =>
    let hw ← selected flags .hw do
      return hwFragments header.hwProtocol (← r.hwAddr)
    return element "hook" (toString header.hook) :: hw

/-- The fragments of a record's document, in order. -/
def fragments (r : LogRecord) (flags : XmlFlags) (now : CalendarTime) :
    Except WireError (List String) := do
  let time := if flags.contains .time then whenFragments now else []
  let logPrefix ← selected flags .logPrefix do
    return (← r.logPrefix).toList.map fun s => element "prefix" (escape s)
  let hook ← r.hookFragments flags
  let mark ← selected flags .mark do
    return nonzeroElement "mark" (← r.mark)
  let devices ← selected flags .device do
    let inDevice ← r.inDevice
    let outDevice ← r.outDevice
    return nonzeroElement "indev" inDevice ++ nonzeroElement "outdev" outDevice
  let physDevices ← selected flags .physDevice do
    let inDevice ← r.physInDevice
    let outDevice ← r.physOutDevice
    return nonzeroElement "physindev" inDevice ++ nonzeroElement "physoutdev" outDevice
  let connection ← selected flags .connectionId do
    return (← r.connectionId).toList.map fun n => element "ctid" (toString n)
  let payload :=
    if flags.contains .payload then (r.payload.map payloadFragments).getD [] else []
  return ["<log>"] ++ time ++ logPrefix ++ hook ++ mark ++ devices ++ physDevices ++
    connection ++ payload ++ ["</log>"]

/-- Renders a record into a buffer: the writer that holds it, or the first field that is needed
and malformed. -/
def render (r : LogRecord) (buffer : Bytes) (flags : XmlFlags) (now : CalendarTime) :
    Except XmlError BoundedWriter :=
  match r.fragments flags now with
  | .ok fragments => .ok (fragments.foldl BoundedWriter.push (BoundedWriter.new buffer))
  | .error e => .error (.attr e)

/-- The whole document of a record: rendered once to find its length, and once more into a
buffer of that length. -/
def document (r : LogRecord) (flags : XmlFlags) (now : CalendarTime) :
    Except XmlError String := do
  let sized ← r.render [] flags now
  let full ← r.render (List.replicate sized.len 0) flags now
  match Bytes.toText? full.copied.toList with
  | some text => return text
  | none => throw .format

end LogRecord

end PacketLog
