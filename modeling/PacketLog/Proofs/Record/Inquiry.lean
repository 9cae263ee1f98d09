import Mathlib
import PacketLog.Record.Summary
import PacketLog.Xml.Document

set_option autoImplicit false

/-! # What a decoding asks for

An `Inquiry` decodes something from a record by asking for the payload of one type after the other.
What it asks for next can depend on what it was given, so that a malformed payload ends it early.
Its result depends on nothing that it did not ask for (`Inquiry.run_congr`). The summary and the
document of a record are results of inquiries (`LogRecord.summary_eq_run`,
`LogRecord.fragments_eq_run`). -/

namespace PacketLog

/-- A way to decode something from payloads. -/
inductive Inquiry (α : Type) where
  /-- It is over. -/
  | done (result : Except WireError α)
  /-- It asks for the payload of a type and goes on with it. -/
  | ask (kind : UInt16) (next : Option Bytes → Inquiry α)

namespace Inquiry

variable {α β : Type}

/-- What comes out, if `find` says which payload each type has. -/
def run (find : UInt16 → Option Bytes) : Inquiry α → Except WireError α
  | done result => result
  | ask kind next => (next (find kind)).run find

/-- The types that are asked for on the way, if `find` says which payload each type has. -/
def asked (find : UInt16 → Option Bytes) : Inquiry α → List UInt16
  | done _ => []
  | ask kind next => kind :: (next (find kind)).asked find

/-- **Nothing but what was asked for matters.** -/
theorem run_congr (q : Inquiry α) {find find' : UInt16 → Option Bytes}
    (h : ∀ kind ∈ q.asked find, find kind = find' kind) : q.run find = q.run find' := by
  induction q with
  | done result => rfl
  | ask kind next ih =>
      obtain ⟨hkind, hrest⟩ := List.forall_mem_cons.mp h
      show (next (find kind)).run find = (next (find' kind)).run find'
      rw [← hkind]
      exact ih (find kind) hrest

/-! ## One after the other -/

/-- A second inquiry after the first one, unless that one failed. -/
def andThen : Inquiry α → (α → Inquiry β) → Inquiry β
  | done (.ok a), next => next a
  | done (.error e), _ => done (.error e)
  | ask kind more, next => ask kind fun payload => (more payload).andThen next

instance : Monad Inquiry where
  pure a := done (.ok a)
  bind := andThen

section Run

variable (find : UInt16 → Option Bytes)

theorem run_pure (a : α) : (pure a : Inquiry α).run find = pure a := rfl

theorem run_bind (q : Inquiry α) (next : α → Inquiry β) :
    (q >>= next).run find = q.run find >>= fun a => (next a).run find := by
  show (q.andThen next).run find = _
  induction q with
  | done result => cases result <;> rfl
  | ask kind more ih => exact ih (find kind)

end Run

/-! ## Fields -/

/-- Asks for a payload that has to be `width` bytes wide. -/
def exact (kind : UInt16) (width : Nat) (decode : Bytes → α) : Inquiry (Option α) :=
  ask kind fun
    | none => done (.ok none)
    | some bytes =>
      if bytes.length = width then done (.ok (some (decode bytes)))
      else done (.error (.typeMismatch kind width bytes.length))

theorem run_exact (t : AttrTable) (kind : UInt16) (width : Nat) (decode : Bytes → α) :
    (exact kind width decode).run t.get = (t.exact kind width).map (·.map decode) := by
  rw [AttrTable.exact, exact, run]
  cases t.get kind with
  | none => rfl
  | some bytes =>
      dsimp only
      split <;> rfl

/-- Asks for a number of four bytes. -/
def uint32 (kind : UInt16) : Inquiry (Option UInt32) :=
  exact kind 4 fun bytes => .ofNat (Bytes.beValue bytes)

theorem run_uint32 (t : AttrTable) (kind : UInt16) : (uint32 kind).run t.get = t.uint32 kind := by
  rw [uint32, run_exact, AttrTable.uint32, AttrTable.number]
  rcases t.exact kind 4 with e | _ | bytes <;> rfl

def packetHeader : Inquiry (Option PacketHeader) :=
  exact Field.packetHeader 4 fun b =>
    { hwProtocol := .ofNat (Bytes.beValue (b.window 0 2))
      hook := .ofNat (Bytes.beValue (b.window 2 1)) }

def timestamp : Inquiry (Option Timestamp) :=
  exact Field.timestamp 16 fun b =>
    { sec := .ofNat (Bytes.beValue (b.window 0 8)), usec := .ofNat (Bytes.beValue (b.window 8 8)) }

def hwAddr : Inquiry (Option HwAddr) :=
  exact Field.hwAddr 12 fun b =>
    { declared := .ofNat (Bytes.beValue (b.window 0 2)), slot := b.drop 4 }

def payload : Inquiry (Option Bytes) := ask Field.payload fun bytes => done (.ok bytes)

def logPrefix : Inquiry (Option String) :=
  ask Field.logPrefix fun
    | none => done (.ok none)
    | some bytes =>
      match Bytes.toText? (bytes.takeWhile (· != 0)) with
      | some text => done (.ok (some text))
      | none => done (.error (.invalidString Field.logPrefix))

def connectionId : Inquiry (Option UInt32) :=
  ask Field.conntrack fun
    | none => done (.ok none)
    | some bytes => done (LogRecord.findConnectionId (Attr.scan bytes))

section Fields

variable (r : LogRecord)

theorem run_packetHeader : packetHeader.run r.attrs.get = r.packetHeader := run_exact _ _ _ _

theorem run_timestamp : timestamp.run r.attrs.get = r.timestamp := run_exact _ _ _ _

theorem run_hwAddr : hwAddr.run r.attrs.get = r.hwAddr := run_exact _ _ _ _

theorem run_payload : payload.run r.attrs.get = .ok r.payload := rfl

theorem run_logPrefix : logPrefix.run r.attrs.get = r.logPrefix := by
  rw [LogRecord.logPrefix, logPrefix, run]
  cases r.attrs.get Field.logPrefix with
  | none => rfl
  | some bytes =>
      dsimp only
      cases Bytes.toText? (bytes.takeWhile (· != 0)) <;> rfl

theorem run_connectionId : connectionId.run r.attrs.get = r.connectionId := by
  rw [LogRecord.connectionId, connectionId, run]
  cases r.attrs.get Field.conntrack <;> rfl

end Fields

/-! ## Summary and document -/

/-- How a summary is made. -/
def summary : Inquiry RecordSummary := do
  let header ← packetHeader
  let logPrefix ← logPrefix
  let mark ← uint32 Field.mark
  let inDevice ← uint32 Field.inDevice
  let outDevice ← uint32 Field.outDevice
  let physInDevice ← uint32 Field.physInDevice
  let physOutDevice ← uint32 Field.physOutDevice
  let uid ← uint32 Field.uid
  let gid ← uint32 Field.gid
  let seq ← uint32 Field.seq
  let seqGlobal ← uint32 Field.seqGlobal
  let connectionId ← connectionId
  let hwAddr ← hwAddr
  let timestamp ← timestamp
  let payload ← payload
  return {
    hwProtocol := header.map (·.hwProtocol), hook := header.map (·.hook), logPrefix, mark,
    inDevice, outDevice, physInDevice, physOutDevice, uid, gid, seq, seqGlobal, connectionId,
    hwAddr := hwAddr.map fun a => Text.hex a.bytes, timestamp,
    payloadLen := payload.map List.length }

open Xml

/-- Makes some fragments only if they are selected. -/
def selected (flags flag : XmlFlags) (q : Inquiry (List String)) : Inquiry (List String) :=
  if flags.contains flag then q else pure []

/-- How the hook and the link layer are shown. -/
def hook (flags : XmlFlags) : Inquiry (List String) := do
  match ← packetHeader with
  | none => return []
  | some header =>
    let hw ← selected flags .hw do
      return hwFragments header.hwProtocol (← hwAddr)
    return element "hook" (toString header.hook) :: hw

/-- How a document is made. -/
def document (flags : XmlFlags) (now : CalendarTime) : Inquiry (List String) := do
  let time := if flags.contains .time then whenFragments now else []
  let logPrefix ← selected flags .logPrefix do
    return (← logPrefix).toList.map fun s => element "prefix" (escape s)
  let hook ← hook flags
  let mark ← selected flags .mark do
    return nonzeroElement "mark" (← uint32 Field.mark)
  let devices ← selected flags .device do
    let inDevice ← uint32 Field.inDevice
    let outDevice ← uint32 Field.outDevice
    return nonzeroElement "indev" inDevice ++ nonzeroElement "outdev" outDevice
  let physDevices ← selected flags .physDevice do
    let inDevice ← uint32 Field.physInDevice
    let outDevice ← uint32 Field.physOutDevice
    return nonzeroElement "physindev" inDevice ++ nonzeroElement "physoutdev" outDevice
  let connection ← selected flags .connectionId do
    return (← connectionId).toList.map fun n => element "ctid" (toString n)
  let payload ← selected flags .payload do
    return ((← payload).map payloadFragments).getD []
  return ["<log>"] ++ time ++ logPrefix ++ hook ++ mark ++ devices ++ physDevices ++
    connection ++ payload ++ ["</log>"]

theorem run_selected (find : UInt16 → Option Bytes) (flags flag : XmlFlags)
    (q : Inquiry (List String)) :
    (selected flags flag q).run find = LogRecord.selected flags flag (q.run find) := by
  rw [selected, LogRecord.selected]
  split <;> rfl

theorem run_hook (r : LogRecord) (flags : XmlFlags) :
    (hook flags).run r.attrs.get = r.hookFragments flags := by
  rw [hook, run_bind, run_packetHeader, LogRecord.hookFragments]
  rcases r.packetHeader with e | _ | header
  · rfl
  · rfl
  · show (selected flags .hw (hwAddr >>= _) >>= _ : Inquiry _).run r.attrs.get = _
    rw [run_bind, run_selected, run_bind, run_hwAddr]
    rfl

end Inquiry

namespace LogRecord

open Inquiry in
theorem summary_eq_run (r : LogRecord) : r.summary = Inquiry.summary.run r.attrs.get := by
  simp only [Inquiry.summary, run_bind, run_pure, run_packetHeader, run_logPrefix, run_uint32,
    run_connectionId, run_hwAddr, run_timestamp, run_payload]
  rfl

open Inquiry in
theorem fragments_eq_run (r : LogRecord) (flags : XmlFlags) (now : CalendarTime) :
    r.fragments flags now = (Inquiry.document flags now).run r.attrs.get := by
  -- reading the payload cannot fail, so the code does not bind it
  have hpayload : (LogRecord.selected flags .payload do
        let found ← Except.ok r.payload
        pure ((found.map Xml.payloadFragments).getD [])) =
      .ok (if flags.contains .payload then (r.payload.map Xml.payloadFragments).getD [] else []) := by
    rw [LogRecord.selected]
    split <;> rfl
  simp only [hpayload, Inquiry.document, run_bind, run_pure, run_selected, run_hook, run_logPrefix,
    run_uint32, run_connectionId, run_payload]
  rfl

end LogRecord

end PacketLog
