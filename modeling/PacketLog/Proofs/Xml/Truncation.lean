import Mathlib
import PacketLog.Proofs.Xml.Filling
import PacketLog.Proofs.Xml.Fragments

set_option autoImplicit false

/-! # Documents that do not fit

A document is rendered into a buffer by whole fragments, so that a buffer that is too small holds
the beginning of the document, as much of it as there is room for, cut between two fragments
(`HoldsStart`). Where it is cut depends on nothing but the length of the buffer, and the length
that is reported is that of a buffer which takes the whole document
(`LogRecord.render_cuts_between_fragments`). -/

namespace PacketLog

/-- **The start of a text in a buffer**: of a text that is written in `fragments`, the writer has
left in the buffer the most whole fragments that fit. -/
structure HoldsStart (fragments : List String) (buffer : Bytes) (w : BoundedWriter) : Prop where
  len : w.finish.len = (String.join fragments).utf8ByteSize
  /-- How much was written is the greatest sum of the first lengths that fits. -/
  written : IsGreatest {n | n ≤ buffer.length ∧
    ∃ k, n = ((fragments.take k).map String.utf8ByteSize).sum} w.finish.written
  start : w.buffer.take w.finish.written =
    (Bytes.ofText (String.join fragments)).take w.finish.written
  isText : ∃ text, Bytes.toText? (w.buffer.take w.finish.written) = some text
  untouched : w.buffer.drop w.finish.written = buffer.drop w.finish.written
  length : w.buffer.length = buffer.length
  isTruncated : w.finish.isTruncated = true ↔
    buffer.length < (String.join fragments).utf8ByteSize

/-- Filling a buffer leaves the start of the text in it. -/
theorem BoundedWriter.Filled.holdsStart {buffer : Bytes} {kept dropped : List String}
    {w : BoundedWriter} (h : Filled buffer kept dropped w) :
    HoldsStart (kept ++ dropped) buffer w where
  len := h.len
  written := h.isGreatest_written
  start := by
    have hlength : (Bytes.ofText (String.join kept)).length = w.written := h.written_eq.symm
    show w.buffer.take w.written = (Bytes.ofText (String.join (kept ++ dropped))).take w.written
    rw [w.take_buffer, h.copied, String.join_append, Bytes.ofText_append, List.take_left' hlength]
  isText := by
    refine ⟨String.join kept, ?_⟩
    show Bytes.toText? (w.buffer.take w.written) = _
    rw [w.take_buffer, h.copied, Bytes.toText?_ofText]
  untouched := by
    show w.buffer.drop w.written = buffer.drop w.written
    rw [w.drop_buffer, h.rest]
  length := h.length_buffer
  isTruncated := h.isTruncated_finish

/-- A longer buffer holds no less. -/
theorem HoldsStart.written_le {fragments : List String} {small large : Bytes}
    {w v : BoundedWriter} (hw : HoldsStart fragments small w) (hv : HoldsStart fragments large v)
    (h : small.length ≤ large.length) : w.finish.written ≤ v.finish.written :=
  hw.written.mono hv.written fun _ ⟨hn, hsum⟩ => ⟨hn.trans h, hsum⟩

/-- Nothing is left out if the buffer is long enough. -/
theorem HoldsStart.copied_eq {fragments : List String} {buffer : Bytes} {w : BoundedWriter}
    (h : HoldsStart fragments buffer w)
    (hlength : (String.join fragments).utf8ByteSize ≤ buffer.length) :
    w.finish.isTruncated = false ∧
      w.copied.toList = Bytes.ofText (String.join fragments) := by
  have hwhole : w.finish.isTruncated = false := by
    rw [← Bool.not_eq_true, h.isTruncated]
    omega
  have hle : (String.join fragments).utf8ByteSize ≤ w.finish.written := by
    have hle := of_decide_eq_false hwhole
    rwa [h.len, Nat.not_lt] at hle
  have hall : (Bytes.ofText (String.join fragments)).length ≤ w.finish.written := hle
  exact ⟨hwhole, w.take_buffer.symm.trans (h.start.trans (List.take_of_length_le hall))⟩

/-- **A buffer of the length of the text holds it, and nothing else.** -/
theorem HoldsStart.buffer_eq {fragments : List String} {buffer : Bytes} {w : BoundedWriter}
    (h : HoldsStart fragments buffer w)
    (hlength : buffer.length = (String.join fragments).utf8ByteSize) :
    w.finish.isTruncated = false ∧ w.buffer = Bytes.ofText (String.join fragments) := by
  obtain ⟨hwhole, hcopied⟩ := h.copied_eq hlength.ge
  have hstarts : w.copied.toList <+: w.buffer := List.prefix_append _ _
  rw [hcopied] at hstarts
  exact ⟨hwhole, (hstarts.eq_of_length (by rw [h.length, hlength, Bytes.length_ofText])).symm⟩

namespace LogRecord

variable {r : LogRecord} {flags : XmlFlags} {now : CalendarTime} {fragments : List String}

/-- A record is rendered only if every field that the document needs can be read. -/
theorem exists_fragments_of_render {buffer : Bytes} {w : BoundedWriter}
    (h : r.render buffer flags now = .ok w) :
    ∃ fragments, r.fragments flags now = .ok fragments := by
  rw [render] at h
  split at h
  · exact ⟨_, by assumption⟩
  · cases h

/-- **Rendering is filling a buffer** with the fragments of the document. -/
theorem render_of_fragments (h : r.fragments flags now = .ok fragments) (buffer : Bytes) :
    ∃ w, r.render buffer flags now = .ok w ∧ HoldsStart fragments buffer w := by
  obtain ⟨kept, dropped, rfl, hfilled⟩ := BoundedWriter.exists_filled buffer fragments
  refine ⟨_, ?_, hfilled.holdsStart⟩
  rw [render, h]

/-- **The whole document** is all of its fragments. -/
theorem document_of_fragments (h : r.fragments flags now = .ok fragments) :
    r.document flags now = .ok (String.join fragments) := by
  obtain ⟨sized, hsized, hempty⟩ := render_of_fragments h []
  obtain ⟨full, hfull, hholds⟩ := render_of_fragments h (List.replicate sized.len 0)
  have hlength : (List.replicate sized.len (0 : UInt8)).length =
      (String.join fragments).utf8ByteSize := by
    rw [List.length_replicate, ← hempty.len]
    rfl
  obtain ⟨-, hcopied⟩ := hholds.copied_eq hlength.ge
  simp only [document, hsized, hfull, hcopied, Bytes.toText?_ofText, bind, Except.bind]
  rfl

/-- What has a document can be rendered. -/
theorem exists_render_of_document {document : String} (h : r.document flags now = .ok document) :
    ∃ w, r.render [] flags now = .ok w := by
  obtain ⟨sized, hsized, -⟩ := exists_ok_of_bind h
  exact ⟨sized, hsized⟩

/-- **Where a document is cut.** If a record is rendered into some buffer, then its document is
made of fragments, none of them empty, that are the same for all buffers, and every buffer holds
the most whole fragments from the first one on that there is room for, and is untouched behind
them. A longer buffer holds no less, and one of the length that was reported holds all of it. -/
theorem render_cuts_between_fragments (r : LogRecord) (flags : XmlFlags) (now : CalendarTime)
    (h : ∃ buffer w, r.render buffer flags now = .ok w) :
    ∃ fragments : List String,
      (∀ fragment ∈ fragments, fragment ≠ "") ∧
      r.document flags now = .ok (String.join fragments) ∧
      (∀ buffer, ∃ w, r.render buffer flags now = .ok w ∧ HoldsStart fragments buffer w) ∧
      (∀ small large w v, small.length ≤ large.length →
        r.render small flags now = .ok w → r.render large flags now = .ok v →
        w.finish.written ≤ v.finish.written) ∧
      ∀ first w, r.render first flags now = .ok w → ∀ again : Bytes,
        again.length = w.finish.len → ∃ v, r.render again flags now = .ok v ∧
          v.finish.isTruncated = false ∧ v.buffer = Bytes.ofText (String.join fragments) := by
  obtain ⟨buffer, w, hw⟩ := h
  obtain ⟨fragments, hfragments⟩ := exists_fragments_of_render hw
  have hholds : ∀ {buffer w}, r.render buffer flags now = .ok w →
      HoldsStart fragments buffer w := by
    intro buffer w hw
    obtain ⟨v, hv, hholds⟩ := render_of_fragments hfragments buffer
    rw [hw] at hv
    cases hv
    exact hholds
  refine ⟨fragments, r.fragments_nonempty flags now hfragments, document_of_fragments hfragments,
    render_of_fragments hfragments, ?_, ?_⟩
  · intro small large w v hle hw hv
    exact (hholds hw).written_le (hholds hv) hle
  · intro first w hw again hlength
    obtain ⟨v, hv, hagain⟩ := render_of_fragments hfragments again
    rw [(hholds hw).len] at hlength
    exact ⟨v, hv, hagain.buffer_eq hlength⟩

/-- A packet that a rule with the text "DROP " and the mark 42 has logged: in thirty bytes there is
room for the first two fragments, of the five that the document has. -/
theorem dropped_packet_cut :
    let attrs : List Attr := [⟨Field.packetHeader, [8, 0, 1, 0]⟩, ⟨Field.mark, [0, 0, 0, 42]⟩,
      ⟨Field.logPrefix, Bytes.ofText "DROP " ++ [0]⟩]
    let r : LogRecord := ⟨attrs.foldl AttrTable.add { maxKind := Field.last, depth := 0 }⟩
    let flags := XmlFlags.logPrefix.union .mark
    let now : CalendarTime := default
    let buffer : Bytes := List.replicate 30 0xaa
    (∃ buffer w, r.render buffer flags now = .ok w) ∧
      ∃ (fragments : List String) (w : BoundedWriter),
        String.join fragments =
            "<log><prefix>DROP </prefix><hook>1</hook><mark>42</mark></log>" ∧
          r.render buffer flags now = .ok w ∧ HoldsStart fragments buffer w ∧
          w.finish = { len := 62, written := 27 } := by
  intro attrs r flags now buffer
  have hfinish : (r.render buffer flags now).map BoundedWriter.finish =
      .ok { len := 62, written := 27 } := by decide +kernel +zetaReduce
  have hdocument : r.document flags now =
      .ok "<log><prefix>DROP </prefix><hook>1</hook><mark>42</mark></log>" := by
    decide +kernel +zetaReduce
  have hrendered : ∃ buffer w, r.render buffer flags now = .ok w :=
    ⟨[], exists_render_of_document hdocument⟩
  obtain ⟨fragments, -, hmade, hcut, -, -⟩ := render_cuts_between_fragments r flags now hrendered
  obtain ⟨w, hw, hholds⟩ := hcut buffer
  rw [hw] at hfinish
  exact ⟨hrendered, fragments, w, Except.ok.inj (hmade.symm.trans hdocument), hw, hholds,
    Except.ok.inj hfinish⟩

end LogRecord

end PacketLog
