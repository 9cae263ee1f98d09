import Mathlib
import PacketLog.Proofs.Xml.Parts

set_option autoImplicit false

/-! # Records that cannot be rendered

A document consults some fields of its record, in the order in which it shows them, and the rest
not at all. A record is refused exactly if one of the consulted fields is malformed, and then for
the first of them (`LogRecord.fragments_eq_error_iff`); records that agree on the consulted fields
are rendered alike (`LogRecord.render_congr`). The buffer has no part in this, so that the
outcome is the same for all of them (`LogRecord.render_fails_for_first_malformed`). -/

namespace PacketLog

namespace LogRecord

open Xml

/-- **What is malformed** among the fields that a document consults, in the order in which they are
consulted. The link-layer address is looked at only behind a packet header. -/
def malformed (r : LogRecord) (flags : XmlFlags) : List WireError :=
  (if flags.contains .logPrefix then errorOf r.logPrefix else []) ++
  errorOf r.packetHeader ++
  (if flags.contains .hw && r.header?.isSome then errorOf r.hwAddr else []) ++
  (if flags.contains .mark then errorOf r.mark else []) ++
  (if flags.contains .device then errorOf r.inDevice ++ errorOf r.outDevice else []) ++
  (if flags.contains .physDevice then errorOf r.physInDevice ++ errorOf r.physOutDevice else []) ++
  (if flags.contains .connectionId then errorOf r.connectionId else [])

/-- **The two records agree on what a document consults**, the payload included. -/
structure Agree (flags : XmlFlags) (r r' : LogRecord) : Prop where
  logPrefix : flags.contains .logPrefix = true → r.logPrefix = r'.logPrefix
  packetHeader : r.packetHeader = r'.packetHeader
  hwAddr : (flags.contains .hw && r.header?.isSome) = true → r.hwAddr = r'.hwAddr
  mark : flags.contains .mark = true → r.mark = r'.mark
  inDevice : flags.contains .device = true → r.inDevice = r'.inDevice
  outDevice : flags.contains .device = true → r.outDevice = r'.outDevice
  physInDevice : flags.contains .physDevice = true → r.physInDevice = r'.physInDevice
  physOutDevice : flags.contains .physDevice = true → r.physOutDevice = r'.physOutDevice
  connectionId : flags.contains .connectionId = true → r.connectionId = r'.connectionId
  payload : flags.contains .payload = true → r.payload = r'.payload

variable {r r' : LogRecord} {flags : XmlFlags} {now : CalendarTime}

/-! ## The first malformed field -/

/-- **The parts that cannot be made** are those of the malformed fields. -/
theorem flatMap_errorOf_parts (r : LogRecord) (flags : XmlFlags) (now : CalendarTime) :
    (r.parts flags now).flatMap errorOf = r.malformed flags := by
  have hboth : ∀ (needed : Bool) (a b : List WireError),
      (if needed then a ++ b else []) =
        (if needed then a else []) ++ (if needed then b else []) := by
    intro needed a b
    cases needed <;> rfl
  have hnone : ∀ needed : Bool, (if needed then ([] : List WireError) else []) = [] := by
    intro needed
    cases needed <;> rfl
  simp only [parts, malformed, List.flatMap_cons, List.flatMap_nil, errorOf_part, hboth,
    List.append_assoc, List.append_nil]
  simp only [errorOf, hnone, if_true, List.nil_append, List.append_nil]

/-- **A document is refused for its first malformed field.** -/
theorem fragments_eq_error_iff {e : WireError} :
    r.fragments flags now = .error e ↔ (r.malformed flags).head? = some e := by
  rw [fragments_eq_together, ← flatMap_errorOf_parts r flags now, ← together_eq_error_iff]
  cases together (r.parts flags now) with
  | error e' => exact Iff.rfl
  | ok inner => simp [Except.map]

/-- **A document is made** if none of its fields is malformed. -/
theorem exists_fragments (h : r.malformed flags = []) (now : CalendarTime) :
    ∃ fragments, r.fragments flags now = .ok fragments := by
  cases hfragments : r.fragments flags now with
  | ok fragments => exact ⟨fragments, rfl⟩
  | error e =>
      rw [fragments_eq_error_iff, h] at hfragments
      cases hfragments

/-! ## Records that agree -/

/-- **Records that agree** have the same parts. -/
theorem parts_congr (h : Agree flags r r') (now : CalendarTime) :
    r.parts flags now = r'.parts flags now := by
  have hheader : r.header? = r'.header? := by rw [header?, header?, h.packetHeader]
  -- Whether the address is looked at is the same for both, since the packet header is.
  have hhwAddr := h.hwAddr
  rw [hheader] at hhwAddr
  have hpayload : flags.contains .payload = true →
      (Except.ok r.payload : Except WireError (Option Bytes)) = .ok r'.payload :=
    fun hneeded => congrArg Except.ok (h.payload hneeded)
  rw [parts, parts, hheader, h.packetHeader, part_congr h.logPrefix, part_congr hhwAddr,
    part_congr h.mark, part_congr h.inDevice, part_congr h.outDevice, part_congr h.physInDevice,
    part_congr h.physOutDevice, part_congr h.connectionId, part_congr hpayload]

/-- **Records that agree are rendered alike.** -/
theorem render_congr (h : Agree flags r r') (buffer : Bytes) (now : CalendarTime) :
    r.render buffer flags now = r'.render buffer flags now := by
  rw [render, render, fragments_eq_together, fragments_eq_together, parts_congr h]

/-! ## All of it -/

/-- **Rendering fails for the first malformed field and for nothing else.** Whether the fields are
decoded by turns with the writing or before it, an error is that of the first field consulted that
is malformed. If there is none, the record is rendered into every buffer, and the length reported is
the same for all. Two records that agree on what is consulted have the same outcome, in the same
buffer, whatever else is malformed in either. -/
theorem render_fails_for_first_malformed (r : LogRecord) (flags : XmlFlags) (now : CalendarTime) :
    (∀ buffer, r.renderInTurns buffer flags now = r.render buffer flags now) ∧
      (∀ buffer e, r.render buffer flags now = .error e ↔
        ∃ cause, (r.malformed flags).head? = some cause ∧ e = .attr cause) ∧
      (r.malformed flags = [] →
        ∃ len, ∀ buffer, ∃ w, r.render buffer flags now = .ok w ∧ w.finish.len = len) ∧
      ∀ r', Agree flags r r' →
        ∀ buffer, r.render buffer flags now = r'.render buffer flags now := by
  refine ⟨fun buffer => r.renderInTurns_eq buffer flags now, ?_, ?_, ?_⟩
  · intro buffer e
    rw [render_eq_error_iff]
    simp only [fragments_eq_error_iff]
  · intro hnone
    obtain ⟨fragments, hfragments⟩ := exists_fragments hnone now
    exact ⟨_, (rendersTo_of_fragments hfragments).reported⟩
  · intro r' hagree buffer
    exact render_congr hagree buffer now

end LogRecord

end PacketLog
