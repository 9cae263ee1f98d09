import PacketLog.Cli.Output
import PacketLog.Group.Command
import PacketLog.Record.Notes

set_option autoImplicit false

/-! # Printing recorded traffic

`decode` prints the records in a batch of messages that was recorded earlier. It stops at the first
message that is malformed. -/

namespace PacketLog.Cli

/-- What is needed to print a record. -/
structure Printing where
  format : OutputFormat
  flags : XmlFlags
  now : CalendarTime

/-- What is done with the records that are to be printed, one after the other. -/
abbrev Printer (σ : Type) := GroupHeader → LogRecord → σ → Outcome σ (Except Failure Unit)

/-- Prints the records. -/
def Printing.printer (p : Printing) : Printer Unit := fun header r _ =>
  match recordText header r p.format p.flags p.now with
  | .error f => { result := .error f, state := () }
  | .ok text => { result := .ok (), state := (), events := [.printed text] }

namespace Decode

/-- The names of a record's attributes in a note. -/
def presentNames (r : LogRecord) : String :=
  "[" ++ ", ".intercalate (r.attrs.toList.map fun a => Text.quoted (Field.name a.kind)) ++ "]"

/-- Whether the records of a group are printed. -/
def isWanted (groups : Option (List UInt16)) (group : UInt16) : Bool :=
  match groups with
  | none => true
  | some groups => groups.contains group

section Records

variable {σ : Type} (print : Printer σ) (groups : Option (List UInt16))

/-- Prints one record, unless it belongs to a group that was not asked for. Gives how many records
were printed. -/
def record (m : Message) (state : σ) : Outcome σ (Except Failure Nat) :=
  match m.group with
  | .error e => { result := .error (.ofWire "malformed nfnetlink header" e), state }
  | .ok (header, attrs) =>
    if isWanted groups header.group then
      let passed := LogRecord.parseEvents attrs
      match LogRecord.parse attrs with
      | .error e =>
        { result := .error (.ofWire "malformed log record" e), state, events := passed }
      | .ok r =>
        ((print header r state).mapResult (·.map fun _ => 1)).after
          (passed ++ [.debug "decoded record"
            [("group", .number header.group.toNat), ("attrs", .shown (presentNames r))]])
    else
      { result := .ok 0, state }

/-- Prints the records among some messages. `printed` records were printed before. -/
def records (printed : Nat) :
    List (Except WireError Message) → σ → Outcome σ (Except Failure Unit)
  | [], state =>
    { result := .ok (), state
      events := [.debug "decode finished" [("printed", .number printed)]] }
  | .error e :: _, state => { result := .error (.ofWire "malformed netlink message" e), state }
  | .ok m :: rest, state =>
    if m.header.kind = recordKind then
      (record print groups m state).andThen fun n state => records (printed + n) rest state
    else
      (records printed rest state).after [.debug "skipping non-record message"
        [("kind", .number m.header.kind.toNat)]]

end Records

/-- Prints the records in a batch. -/
def run (p : Printing) (groups : Option (List UInt16)) (batch : Bytes) :
    Outcome Unit (Except Failure Unit) :=
  records p.printer groups 0 (Message.split batch) ()

end Decode

end PacketLog.Cli
