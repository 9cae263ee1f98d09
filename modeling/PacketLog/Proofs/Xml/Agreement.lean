import Mathlib
import PacketLog.Proofs.Text.Hex
import PacketLog.Proofs.Xml.Parts
import PacketLog.Record.Summary

set_option autoImplicit false

/-! # Documents and summaries

A record that has a summary can be rendered with every selection of fields, and its document shows
what the summary holds: the elements of the selected fields that are present, in a fixed order
(`RecordSummary.elements`), the numbers in decimal and the bytes in hexadecimal
(`LogRecord.document_agrees_with_summary`). Neither is made from the other: both are made from the
fields of the record (`LogRecord.reads_of_summary`, `LogRecord.parts_of_reads`). -/

namespace PacketLog

namespace RecordSummary

open Xml

/-- The element of a field that is selected and present. -/
def row (selected : Bool) (name : String) (text : Option String) : Option String :=
  if selected then text.map (element name) else none

/-- The text of a number that is present and not zero. -/
def nonzero (n : Option UInt32) : Option String :=
  (n.filter (· ≠ 0)).map fun n => toString n.toNat

/-- The elements that a document can have, in order. The digits of the link-layer protocol and of
the packet's bytes are given. -/
def rows (s : RecordSummary) (flags : XmlFlags) (protocol payload : String) :
    List (Option String) := [
  row (flags.contains .logPrefix) "prefix" (s.logPrefix.map escape),
  row true "hook" (s.hook.map fun n => toString n.toNat),
  row (flags.contains .hw) "hw" (s.hook.map fun _ =>
    element "proto" protocol ++ (s.hwAddr.map (element "src")).getD ""),
  row (flags.contains .mark) "mark" (nonzero s.mark),
  row (flags.contains .device) "indev" (nonzero s.inDevice),
  row (flags.contains .device) "outdev" (nonzero s.outDevice),
  row (flags.contains .physDevice) "physindev" (nonzero s.physInDevice),
  row (flags.contains .physDevice) "physoutdev" (nonzero s.physOutDevice),
  row (flags.contains .connectionId) "ctid" (s.connectionId.map fun n => toString n.toNat),
  row (flags.contains .payload) "payload" (s.payloadLen.map fun _ => payload)]

/-- **The elements of a document** of a record with this summary. -/
def elements (s : RecordSummary) (flags : XmlFlags) (protocol payload : String) : List String :=
  (s.rows flags protocol payload).reduceOption

end RecordSummary

namespace Xml

open RecordSummary

/-! ## Parts that show one field -/

theorem join_reduceOption (rows : List (Option String)) :
    String.join rows.reduceOption = String.join (rows.map fun row => row.getD "") := by
  induction rows with
  | nil => rfl
  | cons row rows ih =>
      cases row with
      | none =>
          rw [List.reduceOption_cons_of_none, ih, List.map_cons, String.join_cons]
          exact (String.empty_append).symm
      | some text =>
          rw [List.reduceOption_cons_of_some, String.join_cons, ih, List.map_cons, String.join_cons]
          rfl

/-- **What a part comes to**: its fragments can be made and are joined to a text. -/
def ComesTo (part : Except WireError (List String)) (text : String) : Prop :=
  ∃ fragments, part = .ok fragments ∧ String.join fragments = text

/-- Parts that each come to a text are all made. -/
theorem exists_of_comesTo {parts : List (Except WireError (List String))} {texts : List String}
    (h : List.Forall₂ ComesTo parts texts) :
    ∃ each : List (List String), parts = each.map .ok ∧ each.map String.join = texts := by
  induction h with
  | nil => exact ⟨[], rfl, rfl⟩
  | cons hpart _ ih =>
      obtain ⟨fragments, rfl, rfl⟩ := hpart
      obtain ⟨each, rfl, rfl⟩ := ih
      exact ⟨fragments :: each, rfl, rfl⟩

/-- **A part that shows a field by one element** comes to a row. -/
theorem comesTo_part {α : Type} {field : Except WireError α} {a : α} (hfield : field = .ok a)
    {shown : α → List String} {name : String} {text : Option String}
    (hshown : String.join (shown a) = (text.map (element name)).getD "") (selected : Bool) :
    ComesTo (part selected field shown) ((row selected name text).getD "") := by
  refine ⟨_, part_of_ok hfield selected shown, ?_⟩
  rw [row]
  cases selected with
  | true => exact hshown
  | false => rfl

theorem join_nonzero (name : String) (n : Option UInt32) :
    String.join (nonzeroElement name n) = ((nonzero n).map (element name)).getD "" := by
  rw [join_nonzeroElement, nonzero, Option.map_map]
  rfl

theorem join_present {α : Type} (value : Option α) (name : String) (text : α → String) :
    String.join (value.toList.map fun a => element name (text a)) =
      ((value.map text).map (element name)).getD "" := by
  rw [join_map_toList, Option.map_map]
  rfl

end Xml

namespace LogRecord

open Xml RecordSummary

variable {r : LogRecord} {s : RecordSummary}

/-! ## What a summary says of the fields -/

/-- **The fields of a record that a document can show** are those of the summary. -/
structure Reads (r : LogRecord) (s : RecordSummary) : Prop where
  packetHeader : ∃ header, r.packetHeader = .ok header ∧ s.hook = header.map (·.hook) ∧
    s.hwProtocol = header.map (·.hwProtocol)
  hwAddr : ∃ address, r.hwAddr = .ok address ∧
    s.hwAddr = address.map fun a => Text.hex a.bytes
  logPrefix : r.logPrefix = .ok s.logPrefix
  mark : r.mark = .ok s.mark
  inDevice : r.inDevice = .ok s.inDevice
  outDevice : r.outDevice = .ok s.outDevice
  physInDevice : r.physInDevice = .ok s.physInDevice
  physOutDevice : r.physOutDevice = .ok s.physOutDevice
  connectionId : r.connectionId = .ok s.connectionId
  payload : s.payloadLen = r.payload.map List.length

theorem reads_of_summary (h : r.summary = .ok s) : Reads r s := by
  obtain ⟨header, hheader, h⟩ := exists_ok_of_bind h
  obtain ⟨logPrefix, hlogPrefix, h⟩ := exists_ok_of_bind h
  obtain ⟨mark, hmark, h⟩ := exists_ok_of_bind h
  obtain ⟨inDevice, hinDevice, h⟩ := exists_ok_of_bind h
  obtain ⟨outDevice, houtDevice, h⟩ := exists_ok_of_bind h
  obtain ⟨physInDevice, hphysInDevice, h⟩ := exists_ok_of_bind h
  obtain ⟨physOutDevice, hphysOutDevice, h⟩ := exists_ok_of_bind h
  obtain ⟨uid, -, h⟩ := exists_ok_of_bind h
  obtain ⟨gid, -, h⟩ := exists_ok_of_bind h
  obtain ⟨seq, -, h⟩ := exists_ok_of_bind h
  obtain ⟨seqGlobal, -, h⟩ := exists_ok_of_bind h
  obtain ⟨connectionId, hconnectionId, h⟩ := exists_ok_of_bind h
  obtain ⟨address, haddress, h⟩ := exists_ok_of_bind h
  obtain ⟨timestamp, -, h⟩ := exists_ok_of_bind h
  cases h
  exact {
    packetHeader := ⟨header, hheader, rfl, rfl⟩
    hwAddr := ⟨address, haddress, rfl⟩
    logPrefix := hlogPrefix
    mark := hmark
    inDevice := hinDevice
    outDevice := houtDevice
    physInDevice := hphysInDevice
    physOutDevice := hphysOutDevice
    connectionId := hconnectionId
    payload := rfl }

/-! ## The document of a record with a summary -/

/-- The digits of the link-layer protocol, if there is one. -/
def protocolDigits (s : RecordSummary) : String :=
  (s.hwProtocol.map fun n => Text.hexPadded 4 n.toNat).getD ""

/-- The digits of the packet's bytes, if there are any. -/
def payloadDigits (r : LogRecord) : String := (r.payload.map Text.hex).getD ""

/-- **The parts of the document come to the rows of the summary**, if the time is not shown. -/
theorem parts_of_reads (h : Reads r s) {flags : XmlFlags} (htime : flags.contains .time = false)
    (now : CalendarTime) :
    List.Forall₂ ComesTo (r.parts flags now)
      ("" :: (s.rows flags (protocolDigits s) (payloadDigits r)).map fun row => row.getD "") := by
  obtain ⟨header, hheader, hhook, hprotocol⟩ := h.packetHeader
  obtain ⟨address, haddress, hsource⟩ := h.hwAddr
  have hheader? : r.header? = header := by
    rw [header?, hheader]
    rfl
  have hno_time : ComesTo (part (flags.contains .time) (.ok now) whenFragments) "" := by
    rw [htime]
    exact ⟨[], rfl, rfl⟩
  have hhw : ComesTo
      (part (flags.contains .hw && r.header?.isSome) r.hwAddr fun address =>
        (r.header?.map fun h => hwFragments h.hwProtocol address).getD [])
      ((row (flags.contains .hw) "hw" (s.hook.map fun _ =>
        element "proto" (protocolDigits s) ++ (s.hwAddr.map (element "src")).getD "")).getD "") := by
    rw [hheader?, hhook]
    cases header with
    | none =>
        -- Without a packet header the address is not looked at.
        have hrow : row (flags.contains .hw) "hw" none = none := by
          rw [row]
          split_ifs <;> rfl
        rw [Option.isSome_none, Bool.and_false]
        exact ⟨[], rfl, (congrArg (Option.getD · "") hrow).symm⟩
    | some header =>
        rw [Option.isSome_some, Bool.and_true]
        refine comesTo_part haddress ?_ _
        have hsrc : s.hwAddr.map (element "src") =
            address.map fun a => element "src" (Text.hex a.bytes) := by
          rw [hsource, Option.map_map]
          rfl
        rw [hsrc, protocolDigits, hprotocol]
        exact join_hwFragments header.hwProtocol address
  have hpayload : String.join ((r.payload.map payloadFragments).getD []) =
      ((s.payloadLen.map fun _ => payloadDigits r).map (element "payload")).getD "" := by
    rw [h.payload, payloadDigits, join_payloadFragments]
    cases r.payload <;> rfl
  refine .cons hno_time (.cons (comesTo_part h.logPrefix ?_ _) (.cons (comesTo_part hheader ?_ _)
    (.cons hhw (.cons (comesTo_part h.mark ?_ _) (.cons (comesTo_part h.inDevice ?_ _)
    (.cons (comesTo_part h.outDevice ?_ _) (.cons (comesTo_part h.physInDevice ?_ _)
    (.cons (comesTo_part h.physOutDevice ?_ _) (.cons (comesTo_part h.connectionId ?_ _)
    (.cons (comesTo_part rfl hpayload _) .nil))))))))))
  · exact join_present s.logPrefix "prefix" escape
  · rw [hhook]
    cases header with
    | none => rfl
    | some header => exact join_singleton _
  · exact join_nonzero "mark" s.mark
  · exact join_nonzero "indev" s.inDevice
  · exact join_nonzero "outdev" s.outDevice
  · exact join_nonzero "physindev" s.physInDevice
  · exact join_nonzero "physoutdev" s.physOutDevice
  · exact join_present s.connectionId "ctid" fun n => toString n.toNat

/-- **A document agrees with the summary.** A record that has a summary is rendered into every
buffer, whatever is selected. If the time is not, its document consists of the elements of the
summary: the link-layer protocol is spelled by four digits and the packet's bytes by two for each
byte, all of them lowercase hexadecimal digits. -/
theorem document_agrees_with_summary {r : LogRecord} {s : RecordSummary} (h : r.summary = .ok s)
    {flags : XmlFlags} (htime : flags.contains .time = false) (now : CalendarTime) :
    ∃ protocol payload : String,
      (∀ hook, s.hook = some hook → ∃ n, s.hwProtocol = some n ∧ protocol.length = 4 ∧
        Text.Spells protocol (Bytes.be 2 n.toNat)) ∧
      (∀ n, s.payloadLen = some n → payload.length = 2 * n ∧
        ∃ bytes, r.payload = some bytes ∧ Text.Spells payload bytes) ∧
      r.RendersTo flags now
        (element "log" (String.join (s.elements flags protocol payload))) := by
  have hreads := reads_of_summary h
  refine ⟨protocolDigits s, payloadDigits r, ?_, ?_, ?_⟩
  · intro hook hhook
    obtain ⟨header, -, hheader, hprotocol⟩ := hreads.packetHeader
    rw [hheader] at hhook
    obtain ⟨header, rfl, -⟩ := Option.map_eq_some_iff.mp hhook
    have hdigits : protocolDigits s = Text.hexPadded 4 header.hwProtocol.toNat := by
      rw [protocolDigits, hprotocol]
      rfl
    have hspells := Text.spells_hex (Bytes.be 2 header.hwProtocol.toNat)
    rw [← Text.hexPadded_eq_hex, ← hdigits] at hspells
    exact ⟨header.hwProtocol, hprotocol, hspells.length, hspells⟩
  · intro n hn
    rw [hreads.payload] at hn
    obtain ⟨bytes, hbytes, rfl⟩ := Option.map_eq_some_iff.mp hn
    have hspells := Text.spells_hex bytes
    have hdigits : payloadDigits r = Text.hex bytes := by
      rw [payloadDigits, hbytes]
      rfl
    rw [← hdigits] at hspells
    exact ⟨hspells.length, bytes, hbytes, hspells⟩
  · obtain ⟨each, heach, htexts⟩ := exists_of_comesTo (parts_of_reads hreads htime now)
    have hjoin : String.join (each.map String.join) =
        String.join (s.elements flags (protocolDigits s) (payloadDigits r)) := by
      rw [htexts, elements, join_reduceOption, String.join_cons, String.empty_append]
    rw [← hjoin]
    exact rendersTo_of_parts heach

/-- A bridged packet whose address declares more bytes than there is room for and whose mark is
zero: the document shows the eight bytes that the summary has, and no mark. -/
theorem bridged_packet_agrees :
    let attrs : List Attr := [⟨Field.packetHeader, [0x86, 0xdd, 3, 0]⟩, ⟨Field.mark, [0, 0, 0, 0]⟩,
      ⟨Field.hwAddr, [0xff, 0xff, 0, 0, 0xde, 0xad, 0xbe, 0xef, 0, 1, 0, 0]⟩,
      ⟨Field.physInDevice, [0, 0, 0, 7]⟩, ⟨Field.payload, [0x0f, 0xa0]⟩,
      ⟨Field.logPrefix, Bytes.ofText "a<b" ++ [0]⟩,
      ⟨Field.conntrack, [8, 0, 12, 0, 0, 0, 0, 77]⟩]
    let r : LogRecord := ⟨attrs.foldl AttrTable.add { maxKind := Field.last, depth := 0 }⟩
    let s : RecordSummary := {
      hwProtocol := some 0x86dd, hook := some 3, logPrefix := some "a<b", mark := some 0,
      physInDevice := some 7, connectionId := some 77, hwAddr := some "deadbeef00010000",
      payloadLen := some 2 }
    let flags := XmlFlags.all.without .time
    let now : CalendarTime := default
    r.summary = .ok s ∧ flags.contains .time = false ∧
      ∃ protocol payload document, Text.Spells protocol [0x86, 0xdd] ∧
        Text.Spells payload [0x0f, 0xa0] ∧
        document = element "log" (String.join (s.elements flags protocol payload)) ∧
        r.RendersTo flags now document ∧
        document = "<log><prefix>a&lt;b</prefix><hook>3</hook>" ++
          "<hw><proto>86dd</proto><src>deadbeef00010000</src></hw>" ++
          "<physindev>7</physindev><ctid>77</ctid><payload>0fa0</payload></log>" := by
  intro attrs r s flags now
  have hsummary : r.summary = .ok s := by decide +kernel +zetaReduce
  have htime : flags.contains .time = false := by decide
  obtain ⟨protocol, payload, hprotocol, hpayload, hrenders⟩ :=
    document_agrees_with_summary hsummary htime now
  obtain ⟨n, hn, -, hfour⟩ := hprotocol 3 rfl
  cases hn
  obtain ⟨-, bytes, hbytes, hspells⟩ := hpayload 2 rfl
  have hread : r.payload = some [0x0f, 0xa0] := by decide +kernel +zetaReduce
  rw [hread] at hbytes
  cases hbytes
  have hdocument : (r.fragments flags now).map String.join = .ok ("<log><prefix>a&lt;b</prefix><hook>3</hook>" ++
      "<hw><proto>86dd</proto><src>deadbeef00010000</src></hw>" ++
      "<physindev>7</physindev><ctid>77</ctid><payload>0fa0</payload></log>") := by
    decide +kernel +zetaReduce
  exact ⟨hsummary, htime, protocol, payload, _, hfour, hspells, rfl, hrenders,
    hrenders.eq (rendersTo_of_join hdocument)⟩

end LogRecord

end PacketLog
