import Mathlib
import PacketLog.Proofs.Text.Utf8
import PacketLog.Xml.BoundedWriter

set_option autoImplicit false

/-! # Filling a buffer

Whatever is written into a buffer, the fragments fall into those that were copied, one behind the
other from the start of the buffer on, and those that were passed over, the first of which did not
fit behind the others (`BoundedWriter.Filled`). One fragment more keeps this (`Filled.push`), hence
any number of them (`exists_filled`). What was copied is the most that fits
(`Filled.isGreatest_written`). -/

namespace PacketLog

namespace BoundedWriter

/-! ## One fragment -/

variable {w : BoundedWriter} {fragment : String}

theorem push_of_truncated (h : w.truncated = true) :
    w.push fragment = { w with len := w.len + fragment.utf8ByteSize } := by
  simp [push, pushBytes, h, Bytes.length_ofText]

theorem push_of_le (h : w.truncated = false) (hfits : fragment.utf8ByteSize ≤ w.rest.length) :
    w.push fragment =
      { w with copied := w.copied.appendList (Bytes.ofText fragment)
               rest := w.rest.drop fragment.utf8ByteSize
               len := w.len + fragment.utf8ByteSize } := by
  simp [push, pushBytes, h, fits_iff, Bytes.length_ofText, hfits]

theorem push_of_lt (h : w.truncated = false) (hfits : w.rest.length < fragment.utf8ByteSize) :
    w.push fragment =
      { w with len := w.len + fragment.utf8ByteSize, truncated := true } := by
  simp [push, pushBytes, h, fits_iff, Bytes.length_ofText, hfits]

/-! ## Any number of fragments -/

/-- **How far a buffer is filled**: the fragments `kept` were copied into it, and the fragments
`dropped` were passed over, because the first of them did not fit behind the others. -/
structure Filled (buffer : Bytes) (kept dropped : List String) (w : BoundedWriter) : Prop where
  copied : w.copied.toList = Bytes.ofText (String.join kept)
  rest : w.rest = buffer.drop w.written
  fits : w.written ≤ buffer.length
  len : w.len = (String.join (kept ++ dropped)).utf8ByteSize
  truncated : w.truncated = true ↔ dropped ≠ []
  stopped : ∀ fragment ∈ dropped.head?, buffer.length < w.written + fragment.utf8ByteSize

theorem filled_new (buffer : Bytes) : Filled buffer [] [] (new buffer) := by
  constructor <;> simp [new, written]

variable {buffer : Bytes} {kept dropped : List String}

namespace Filled

theorem truncated_eq_false (h : Filled buffer kept [] w) : w.truncated = false := by
  simpa using h.truncated

theorem length_rest (h : Filled buffer kept dropped w) :
    w.rest.length = buffer.length - w.written := by
  rw [h.rest, List.length_drop]

theorem len_push (h : Filled buffer kept dropped w) (fragment : String) :
    w.len + fragment.utf8ByteSize =
      (String.join (kept ++ dropped ++ [fragment])).utf8ByteSize := by
  simp [h.len, Nat.add_assoc]

/-- Where a fragment was passed over, the next one is as well, even if it would fit. -/
theorem pass (h : Filled buffer kept dropped w) (hdropped : dropped ≠ []) :
    Filled buffer kept (dropped ++ [fragment]) (w.push fragment) := by
  have htruncated := h.truncated.mpr hdropped
  rw [push_of_truncated htruncated]
  exact {
    copied := h.copied
    rest := h.rest
    fits := h.fits
    len := by simpa using h.len_push fragment
    truncated := by simpa using htruncated
    stopped := by
      rw [List.head?_append_of_ne_nil _ hdropped]
      exact h.stopped }

/-- A fragment that fits is copied behind the others. -/
theorem copy (h : Filled buffer kept [] w) (hfits : fragment.utf8ByteSize ≤ w.rest.length) :
    Filled buffer (kept ++ [fragment]) [] (w.push fragment) := by
  have hpush := push_of_le h.truncated_eq_false hfits
  have hwritten : (w.push fragment).written = w.written + fragment.utf8ByteSize := by
    rw [hpush, written, ← Array.length_toList]
    simp [written, Bytes.length_ofText]
  have hle : w.written + fragment.utf8ByteSize ≤ buffer.length := by
    have hroom := h.fits
    rw [h.length_rest] at hfits
    omega
  exact {
    copied := by simp [hpush, h.copied]
    rest := by rw [hwritten, hpush, h.rest, List.drop_drop]
    fits := by rwa [hwritten]
    len := by rw [hpush, h.len_push, List.append_nil, List.append_nil]
    truncated := by simp [hpush, h.truncated_eq_false]
    stopped := by simp }

/-- The first fragment that does not fit is passed over. -/
theorem stop (h : Filled buffer kept [] w) (hfits : w.rest.length < fragment.utf8ByteSize) :
    Filled buffer kept [fragment] (w.push fragment) := by
  have hroom := h.fits
  rw [push_of_lt h.truncated_eq_false hfits]
  rw [h.length_rest] at hfits
  exact {
    copied := h.copied
    rest := h.rest
    fits := h.fits
    len := by simpa using h.len_push fragment
    truncated := by simp
    stopped := by
      rintro _ ⟨⟩
      show buffer.length < w.written + fragment.utf8ByteSize
      omega }

/-- **One fragment more** is passed over if another one was, and else copied if it fits. -/
theorem push (h : Filled buffer kept dropped w) (fragment : String) :
    ∃ kept' dropped', kept' ++ dropped' = kept ++ dropped ++ [fragment] ∧
      Filled buffer kept' dropped' (w.push fragment) := by
  by_cases hdropped : dropped = []
  · subst hdropped
    by_cases hfits : fragment.utf8ByteSize ≤ w.rest.length
    · exact ⟨kept ++ [fragment], [], by simp, h.copy hfits⟩
    · exact ⟨kept, [fragment], by simp, h.stop (Nat.not_le.mp hfits)⟩
  · exact ⟨kept, dropped ++ [fragment], by simp, h.pass hdropped⟩

end Filled

/-- **Any number of fragments**: some are copied, and the ones behind them are passed over. -/
theorem exists_filled (buffer : Bytes) (fragments : List String) :
    ∃ kept dropped, kept ++ dropped = fragments ∧
      Filled buffer kept dropped (fragments.foldl BoundedWriter.push (new buffer)) := by
  induction fragments using List.reverseRecOn with
  | nil => exact ⟨[], [], rfl, filled_new buffer⟩
  | append_singleton fragments fragment ih =>
      obtain ⟨kept, dropped, rfl, h⟩ := ih
      rw [List.foldl_append]
      exact h.push fragment

/-! ## What the buffer holds then -/

/-- What was copied stands at the start of the buffer. -/
theorem take_buffer (w : BoundedWriter) : w.buffer.take w.written = w.copied.toList :=
  List.take_left' rfl

/-- Behind it stands what is untouched. -/
theorem drop_buffer (w : BoundedWriter) : w.buffer.drop w.written = w.rest :=
  List.drop_left' rfl

namespace Filled

theorem written_eq (h : Filled buffer kept dropped w) :
    w.written = (String.join kept).utf8ByteSize := by
  rw [written, ← Array.length_toList, h.copied, Bytes.length_ofText]

theorem length_buffer (h : Filled buffer kept dropped w) : w.buffer.length = buffer.length := by
  have hfits := h.fits
  have hcopied : w.copied.toList.length = w.written := rfl
  rw [BoundedWriter.buffer, List.length_append, h.rest, List.length_drop, hcopied]
  omega

/-- More of the fragments than were copied do not fit. -/
theorem lt_of_lt (h : Filled buffer kept dropped w) {k : Nat} (hk : kept.length < k)
    (hdropped : dropped ≠ []) :
    buffer.length < (String.join ((kept ++ dropped).take k)).utf8ByteSize := by
  obtain ⟨fragment, later, rfl⟩ := List.exists_cons_of_ne_nil hdropped
  have htaken : kept ++ [fragment] <+: (kept ++ fragment :: later).take k := by
    rw [List.prefix_take_iff, List.length_append, List.length_singleton]
    exact ⟨⟨later, by simp⟩, hk⟩
  calc buffer.length
      < w.written + fragment.utf8ByteSize := h.stopped fragment rfl
    _ = (String.join (kept ++ [fragment])).utf8ByteSize := by simp [h.written_eq]
    _ ≤ (String.join ((kept ++ fragment :: later).take k)).utf8ByteSize :=
        Bytes.utf8ByteSize_join_le htaken

/-- **What was copied is the most that fits** of the fragments from the first one on. -/
theorem isGreatest_written (h : Filled buffer kept dropped w) :
    IsGreatest {n | n ≤ buffer.length ∧
      ∃ k, n = (((kept ++ dropped).take k).map String.utf8ByteSize).sum} w.written := by
  constructor
  · refine ⟨h.fits, kept.length, ?_⟩
    rw [List.take_left, ← Bytes.utf8ByteSize_join, h.written_eq]
  · rintro n ⟨hn, k, rfl⟩
    rw [← Bytes.utf8ByteSize_join] at hn ⊢
    by_cases hk : k ≤ kept.length
    · -- A beginning of what was copied is no longer than all of it.
      rw [h.written_eq, List.take_append_of_le_length hk]
      exact Bytes.utf8ByteSize_join_le (List.take_prefix k kept)
    · by_cases hdropped : dropped = []
      · subst hdropped
        rw [List.append_nil, List.take_of_length_le (by omega), h.written_eq]
      · exact absurd hn (Nat.not_le.mpr (h.lt_of_lt (Nat.not_le.mp hk) hdropped))

/-- **Everything is copied** if and only if the buffer is long enough for it. -/
theorem dropped_eq_nil_iff (h : Filled buffer kept dropped w) :
    dropped = [] ↔ (String.join (kept ++ dropped)).utf8ByteSize ≤ buffer.length := by
  constructor
  · rintro rfl
    rw [List.append_nil, ← h.written_eq]
    exact h.fits
  · intro hfits
    by_contra hdropped
    have hmore : kept.length < (kept ++ dropped).length := by
      have := List.length_pos_iff.mpr hdropped
      rw [List.length_append]
      omega
    have hlong := h.lt_of_lt hmore hdropped
    rw [List.take_length] at hlong
    omega

/-- **A text is cut** if and only if the buffer is too small for it. -/
theorem isTruncated_finish (h : Filled buffer kept dropped w) :
    w.finish.isTruncated = true ↔
      buffer.length < (String.join (kept ++ dropped)).utf8ByteSize := by
  show decide (w.written < w.len) = true ↔ _
  rw [decide_eq_true_iff, h.len]
  have hfits := h.fits
  by_cases hdropped : dropped = []
  · subst hdropped
    rw [List.append_nil, ← h.written_eq]
    omega
  · have hlong := mt h.dropped_eq_nil_iff.mpr hdropped
    omega

end Filled

end BoundedWriter

end PacketLog
