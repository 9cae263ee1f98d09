import Mathlib
import PacketLog.Proofs.Xml.Truncation

set_option autoImplicit false

/-! # Whole documents

Where a record can be rendered there is one document for all buffers: its length is reported
whatever the buffer is, and a buffer with room for it holds it (`LogRecord.RendersTo`). The text
that is rendered in two passes, first for its length and then into a buffer of that length, is that
document, and it is missing for the same reason for which nothing is rendered
(`LogRecord.document_is_whole`). -/

namespace PacketLog

namespace LogRecord

variable {r : LogRecord} {flags : XmlFlags} {now : CalendarTime}

/-- **What a record is rendered to**: every buffer has its length reported, and one with room for
it holds it from the start on and is untouched behind it. -/
structure RendersTo (r : LogRecord) (flags : XmlFlags) (now : CalendarTime)
    (document : String) : Prop where
  reported : ∀ buffer, ∃ w, r.render buffer flags now = .ok w ∧
    w.finish.len = document.utf8ByteSize
  written : ∀ buffer w, r.render buffer flags now = .ok w →
    document.utf8ByteSize ≤ buffer.length → w.finish.written = document.utf8ByteSize ∧
      w.buffer = Bytes.ofText document ++ buffer.drop document.utf8ByteSize

/-! ## Records that are rendered -/

/-- **The fragments make the document.** -/
theorem rendersTo_of_fragments {fragments : List String}
    (h : r.fragments flags now = .ok fragments) :
    r.RendersTo flags now (String.join fragments) where
  reported := by
    intro buffer
    obtain ⟨w, hw, hholds⟩ := render_of_fragments h buffer
    exact ⟨w, hw, hholds.len⟩
  written := by
    intro buffer w hw hroom
    obtain ⟨v, hv, hholds⟩ := render_of_fragments h buffer
    rw [hw] at hv
    cases hv
    obtain ⟨-, hcopied⟩ := hholds.copied_eq hroom
    have hwritten : w.finish.written = (String.join fragments).utf8ByteSize := by
      rw [← Bytes.length_ofText, ← hcopied]
      rfl
    refine ⟨hwritten, ?_⟩
    have huntouched := hholds.untouched
    rw [hwritten] at huntouched
    have hstart := hholds.start
    rw [hwritten, List.take_of_length_le (Bytes.length_ofText _).le] at hstart
    calc w.buffer
        = w.buffer.take (String.join fragments).utf8ByteSize ++
            w.buffer.drop (String.join fragments).utf8ByteSize := (List.take_append_drop _ _).symm
      _ = _ := by rw [hstart, huntouched]

/-- A document that the fragments are joined to. -/
theorem rendersTo_of_join {document : String}
    (h : (r.fragments flags now).map String.join = .ok document) :
    r.RendersTo flags now document := by
  cases hfragments : r.fragments flags now with
  | error e =>
      rw [hfragments] at h
      cases h
  | ok fragments =>
      rw [hfragments] at h
      cases h
      exact rendersTo_of_fragments hfragments

theorem exists_rendersTo {buffer : Bytes} {w : BoundedWriter}
    (h : r.render buffer flags now = .ok w) :
    ∃ fragments, r.fragments flags now = .ok fragments ∧
      r.RendersTo flags now (String.join fragments) := by
  obtain ⟨fragments, hfragments⟩ := exists_fragments_of_render h
  exact ⟨fragments, hfragments, rendersTo_of_fragments hfragments⟩

/-- **A record is rendered to one document only.** -/
theorem RendersTo.eq {document document' : String} (h : r.RendersTo flags now document)
    (h' : r.RendersTo flags now document') : document = document' := by
  -- A buffer of the one length holds both, since the other length is the same.
  let buffer : Bytes := List.replicate document.utf8ByteSize 0
  have hroom : buffer.length = document.utf8ByteSize := List.length_replicate
  obtain ⟨w, hw, hlen⟩ := h.reported buffer
  obtain ⟨w', hw', hlen'⟩ := h'.reported buffer
  rw [hw] at hw'
  cases hw'
  have hsize : document'.utf8ByteSize = document.utf8ByteSize := hlen'.symm.trans hlen
  obtain ⟨-, hbuffer⟩ := h.written buffer w hw hroom.ge
  obtain ⟨-, hbuffer'⟩ := h'.written buffer w hw (hsize.trans hroom.symm).le
  have hbytes : Bytes.ofText document = Bytes.ofText document' := by
    rw [hbuffer, hsize] at hbuffer'
    exact List.append_cancel_right hbuffer'
  simpa using congrArg Bytes.toText? hbytes

/-- **What is rendered is the document**, and the other way round. -/
theorem document_eq_ok_iff {document : String} :
    r.document flags now = .ok document ↔ r.RendersTo flags now document := by
  constructor
  · intro h
    obtain ⟨w, hw⟩ := exists_render_of_document h
    obtain ⟨fragments, hfragments, hrenders⟩ := exists_rendersTo hw
    rw [document_of_fragments hfragments] at h
    cases h
    exact hrenders
  · intro h
    obtain ⟨w, hw, -⟩ := h.reported []
    obtain ⟨fragments, hfragments, hrenders⟩ := exists_rendersTo hw
    rw [h.eq hrenders, document_of_fragments hfragments]

/-! ## Records that are refused -/

theorem render_of_error {cause : WireError} (h : r.fragments flags now = .error cause)
    (buffer : Bytes) : r.render buffer flags now = .error (.attr cause) := by
  rw [render, h]

/-- **A record is refused for a malformed field only**, and for the same one whatever the buffer
is. -/
theorem render_eq_error_iff {buffer : Bytes} {e : XmlError} :
    r.render buffer flags now = .error e ↔
      ∃ cause, r.fragments flags now = .error cause ∧ e = .attr cause := by
  constructor
  · intro h
    cases hfragments : r.fragments flags now with
    | ok fragments =>
        obtain ⟨w, hw, -⟩ := render_of_fragments hfragments buffer
        rw [hw] at h
        cases h
    | error cause =>
        rw [render_of_error hfragments] at h
        cases h
        exact ⟨cause, rfl, rfl⟩
  · rintro ⟨cause, hcause, rfl⟩
    exact render_of_error hcause buffer

/-- **The document is missing** for the reason for which nothing is rendered. -/
theorem document_eq_error_iff {e : XmlError} :
    r.document flags now = .error e ↔
      ∃ cause, r.fragments flags now = .error cause ∧ e = .attr cause := by
  cases hfragments : r.fragments flags now with
  | ok fragments =>
      rw [document_of_fragments hfragments]
      simp
  | error cause =>
      have hdocument : r.document flags now = .error (.attr cause) := by
        rw [document, render_of_error hfragments]
        rfl
      rw [hdocument]
      simp [eq_comm]

/-! ## Both together -/

/-- **The text of a record is its whole document.** It is the text that every buffer with room for
it holds after rendering, and there is none exactly where rendering into any buffer fails, for the
same field. The pass that measures it makes room for all of it, so that the second pass is not
truncated and leaves valid UTF-8. -/
theorem document_is_whole (r : LogRecord) (flags : XmlFlags) (now : CalendarTime) :
    (∀ document, r.document flags now = .ok document ↔ r.RendersTo flags now document) ∧
      (∀ buffer e, r.document flags now = .error e ↔ r.render buffer flags now = .error e) ∧
      (∀ e, r.document flags now = .error e → ∃ cause, e = .attr cause) ∧
      ∀ sized, r.render [] flags now = .ok sized →
        ∃ full text, r.render (List.replicate sized.finish.len 0) flags now = .ok full ∧
          full.finish = { len := sized.finish.len, written := sized.finish.len } ∧
          full.finish.isTruncated = false ∧ Bytes.toText? full.copied.toList = some text ∧
          r.document flags now = .ok text := by
  refine ⟨fun document => document_eq_ok_iff, ?_, ?_, ?_⟩
  · intro buffer e
    rw [document_eq_error_iff, render_eq_error_iff]
  · intro e he
    obtain ⟨cause, -, rfl⟩ := document_eq_error_iff.mp he
    exact ⟨cause, rfl⟩
  · intro sized hsized
    obtain ⟨fragments, hfragments, hrenders⟩ := exists_rendersTo hsized
    -- The empty buffer is told the length, and a buffer of that length has room for all of it.
    let room : Bytes := List.replicate sized.finish.len 0
    have hsize : sized.finish.len = (String.join fragments).utf8ByteSize := by
      obtain ⟨v, hv, hlen⟩ := hrenders.reported []
      rw [hsized] at hv
      cases hv
      exact hlen
    have hroom : (String.join fragments).utf8ByteSize ≤ room.length := by
      rw [List.length_replicate, hsize]
    obtain ⟨full, hfull, hholds⟩ := render_of_fragments hfragments room
    obtain ⟨hwhole, hcopied⟩ := hholds.copied_eq hroom
    have hwritten := (hrenders.written room full hfull hroom).1
    have hfinish : full.finish = { len := sized.finish.len, written := sized.finish.len } := by
      show Rendered.mk full.finish.len full.finish.written = _
      rw [hholds.len, hwritten, hsize]
    refine ⟨full, String.join fragments, hfull, hfinish, hwhole, ?_, ?_⟩
    · rw [hcopied, Bytes.toText?_ofText]
    · exact document_of_fragments hfragments

end LogRecord

end PacketLog
