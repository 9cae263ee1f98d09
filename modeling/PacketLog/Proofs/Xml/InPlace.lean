import Mathlib
import PacketLog.Proofs.Bytes
import PacketLog.Proofs.Xml.Filling

set_option autoImplicit false

/-! # Filling a buffer in place

A fragment comes out of its formatting bit by bit, and the formatting may fail behind any of them
(`BoundedWriter.Formatting`). It is put together in a text that is used again for every fragment, and
is copied from there into the buffer, where every place is checked (`FilledBuffer`). Whatever is
called, that comes to what the writer holds (`FilledBuffer.exists_run?`). `fragments_accounted_for`
says what the writer holds behind any calls. -/

namespace PacketLog

/-! ## Calls -/

namespace BoundedWriter

/-- A fragment that is still to be formatted: the bits that come out of it, one after the other, and
whether the formatting fails behind them. -/
structure Formatting where
  bits : List String
  fails : Bool := false
  deriving DecidableEq, Inhabited

/-- What comes of a formatting. -/
def Formatting.outcome (f : Formatting) : Except String String :=
  if f.fails then .error (String.join f.bits) else .ok (String.join f.bits)

/-- A call of the writer. -/
inductive Call where
  | push (fragment : String)
  | emit (f : Formatting)
  deriving DecidableEq, Inhabited

/-- The fragment that a call appends, if it succeeds. -/
def Call.fragment? : Call → Option String
  | push fragment => some fragment
  | emit f => f.outcome.toOption

/-- The answer to a call: the writer behind it, or why there is none. -/
def call (w : BoundedWriter) : Call → Except XmlError BoundedWriter
  | .push fragment => .ok (w.push fragment)
  | .emit f => w.emit f.outcome

/-- The writer behind a call, whether it succeeds or not. -/
def after (w : BoundedWriter) (c : Call) : BoundedWriter :=
  match w.call c with
  | .ok w => w
  | .error _ => w

/-- The writer behind some calls that start on a buffer. -/
def run (buffer : Bytes) (calls : List Call) : BoundedWriter := calls.foldl after (new buffer)

variable {w : BoundedWriter} {f : Formatting}

theorem outcome_of_fails (h : f.fails = true) : f.outcome = .error (String.join f.bits) := if_pos h

theorem outcome_of_not_fails (h : ¬ f.fails = true) : f.outcome = .ok (String.join f.bits) :=
  if_neg h

theorem call_of_fails (h : f.fails = true) : w.call (.emit f) = .error .format := by
  rw [call, outcome_of_fails h, emit]

theorem call_of_not_fails (h : ¬ f.fails = true) :
    w.call (.emit f) = .ok (w.push (String.join f.bits)) := by
  rw [call, outcome_of_not_fails h, emit]

/-- A call appends its fragment, if it has one, and else changes nothing. -/
theorem after_eq (w : BoundedWriter) (c : Call) :
    w.after c = c.fragment?.toList.foldl BoundedWriter.push w := by
  cases c with
  | push fragment => rfl
  | emit f =>
      by_cases hfails : f.fails = true
      · rw [after, call_of_fails hfails, Call.fragment?, outcome_of_fails hfails]
        rfl
      · rw [after, call_of_not_fails hfails, Call.fragment?, outcome_of_not_fails hfails]
        rfl

/-- **Some calls** append the fragments of those that succeed. -/
theorem run_eq (buffer : Bytes) (calls : List Call) :
    run buffer calls =
      (calls.filterMap Call.fragment?).foldl BoundedWriter.push (new buffer) := by
  induction calls using List.reverseRecOn with
  | nil => rfl
  | append_singleton calls c ih =>
      have hlast : [c].filterMap Call.fragment? = c.fragment?.toList := by
        cases hc : c.fragment? <;> simp [hc]
      rw [List.filterMap_append, List.foldl_append, ← ih, hlast, ← after_eq, run, run,
        List.foldl_concat]

end BoundedWriter

/-! ## Calls in place -/

open BoundedWriter (Call Formatting)

/-- A buffer that is being filled in place, and the text in which fragments are put together. -/
structure FilledBuffer where
  buffer : Bytes
  written : Nat := 0
  len : Nat := 0
  truncated : Bool := false
  scratch : String := ""
  deriving DecidableEq, Inhabited

namespace FilledBuffer

/-- Copies a fragment into the buffer if it fits. This comes to nothing if the fragment is copied to
a place that is not within the buffer. -/
def push? (b : FilledBuffer) (fragment : String) : Option FilledBuffer := do
  let bytes := Bytes.ofText fragment
  let b := { b with len := b.len + bytes.length }
  if b.truncated then
    return b
  else
    let room ← b.buffer.countFrom? b.written
    if bytes.length ≤ room then
      let buffer ← b.buffer.overwrite? b.written bytes
      return { b with buffer, written := b.written + bytes.length }
    else
      return { b with truncated := true }

/-- What is left of a text that is emptied to be used again. -/
def emptied (_ : String) : String := ""

/-- Puts a fragment together behind what is left of the one before it, and copies it if its
formatting succeeds. What was put together is kept in any case. -/
def emit? (b : FilledBuffer) (f : Formatting) : Option (Except XmlError Unit × FilledBuffer) := do
  let scratch := f.bits.foldl (· ++ ·) (emptied b.scratch)
  if f.fails then
    return (.error .format, { b with scratch })
  else
    let b ← b.push? scratch
    return (.ok (), { b with scratch })

/-- A call on the buffer itself: the answer to it, and the buffer behind it. -/
def call? (b : FilledBuffer) : Call → Option (Except XmlError Unit × FilledBuffer)
  | .push fragment => (b.push? fragment).map (Except.ok (), ·)
  | .emit f => b.emit? f

/-- The buffer behind some calls. -/
def run? (buffer : Bytes) (calls : List Call) : Option FilledBuffer :=
  calls.foldlM (fun b c => (b.call? c).map Prod.snd) { buffer }

/-- **What a writer comes to in place.** The text in which fragments are put together is left out. -/
structure Holds (b : FilledBuffer) (w : BoundedWriter) : Prop where
  buffer : b.buffer = w.buffer
  written : b.written = w.written
  len : b.len = w.len
  truncated : b.truncated = w.truncated

variable {b : FilledBuffer} {w : BoundedWriter}

/-- The room is what stands behind what was copied. -/
theorem Holds.countFrom?_eq (h : Holds b w) :
    b.buffer.countFrom? b.written = some w.rest.length := by
  have hlength : w.buffer.length = w.written + w.rest.length := List.length_append
  rw [h.buffer, h.written, Bytes.countFrom?, if_pos (by omega), hlength, Nat.add_sub_cancel_left]

/-- What is copied overwrites the start of what stands behind what was copied before. -/
theorem Holds.overwrite?_eq (h : Holds b w) {bytes : Bytes} (hfits : bytes.length ≤ w.rest.length) :
    b.buffer.overwrite? b.written bytes =
      some (w.copied.toList ++ bytes ++ w.rest.drop bytes.length) := by
  have hlength : w.buffer.length = w.written + w.rest.length := List.length_append
  rw [h.buffer, h.written, Bytes.overwrite?, if_pos (by omega), Bytes.overwrite,
    BoundedWriter.take_buffer, ← List.drop_drop, BoundedWriter.drop_buffer]

/-- **A fragment** is copied in place as the writer has it, and never to a place out of the buffer. -/
theorem Holds.exists_push? (h : Holds b w) (fragment : String) :
    ∃ b', b.push? fragment = some b' ∧ Holds b' (w.push fragment) := by
  have hlen : b.len + fragment.utf8ByteSize = w.len + fragment.utf8ByteSize := by rw [h.len]
  by_cases htruncated : w.truncated = true
  · refine ⟨{ b with len := b.len + fragment.utf8ByteSize }, ?_, ?_⟩
    · simp [push?, h.truncated, htruncated, Bytes.length_ofText]
    · rw [BoundedWriter.push_of_truncated htruncated]
      exact { h with len := hlen }
  · have hopen : w.truncated = false := by simpa using htruncated
    by_cases hfits : fragment.utf8ByteSize ≤ w.rest.length
    · have hroom : (Bytes.ofText fragment).length ≤ w.rest.length := hfits
      have hover := h.overwrite?_eq hroom
      have hwritten : (w.copied.appendList (Bytes.ofText fragment)).size =
          w.written + fragment.utf8ByteSize := by
        rw [← Array.length_toList]
        simp [BoundedWriter.written, Bytes.length_ofText]
      refine ⟨{ b with
        buffer := w.copied.toList ++ Bytes.ofText fragment ++ w.rest.drop fragment.utf8ByteSize
        written := b.written + fragment.utf8ByteSize
        len := b.len + fragment.utf8ByteSize }, ?_, ?_⟩
      · simp [push?, h.truncated, hopen, h.countFrom?_eq, hover, hfits, Bytes.length_ofText]
      · rw [BoundedWriter.push_of_le hopen hfits]
        exact {
          buffer := by simp [BoundedWriter.buffer]
          written := by rw [h.written, ← hwritten, BoundedWriter.written]
          len := hlen
          truncated := h.truncated }
    · refine ⟨{ b with len := b.len + fragment.utf8ByteSize, truncated := true }, ?_, ?_⟩
      · simp [push?, h.truncated, hopen, h.countFrom?_eq, hfits, Bytes.length_ofText]
      · rw [BoundedWriter.push_of_lt hopen (Nat.not_le.mp hfits)]
        exact { h with len := hlen, truncated := rfl }

/-- **A call in place** is answered as the writer answers it, whatever was put together before. -/
theorem Holds.exists_call? (h : Holds b w) (c : Call) :
    ∃ b', b.call? c = some ((w.call c).map fun _ => (), b') ∧ Holds b' (w.after c) := by
  cases c with
  | push fragment =>
      obtain ⟨b', hpush, hholds⟩ := h.exists_push? fragment
      refine ⟨b', ?_, hholds⟩
      rw [call?, hpush]
      rfl
  | emit f =>
      -- The text that is used again was emptied, so the bits are put together behind nothing.
      have hscratch : f.bits.foldl (· ++ ·) (emptied b.scratch) = String.join f.bits := rfl
      by_cases hfails : f.fails = true
      · refine ⟨{ b with scratch := String.join f.bits }, ?_, ?_⟩
        · rw [BoundedWriter.call_of_fails hfails, call?, emit?, hscratch]
          exact if_pos hfails
        · rw [BoundedWriter.after, BoundedWriter.call_of_fails hfails]
          exact { h with }
      · obtain ⟨b', hpush, hholds⟩ := h.exists_push? (String.join f.bits)
        refine ⟨{ b' with scratch := String.join f.bits }, ?_, ?_⟩
        · rw [BoundedWriter.call_of_not_fails hfails, call?, emit?, hscratch, if_neg hfails, hpush]
          rfl
        · rw [BoundedWriter.after, BoundedWriter.call_of_not_fails hfails]
          exact { hholds with }

/-- **Any calls** can be made in place, and come to what the writer holds. -/
theorem exists_run? (buffer : Bytes) (calls : List Call) :
    ∃ b, run? buffer calls = some b ∧ Holds b (BoundedWriter.run buffer calls) := by
  induction calls using List.reverseRecOn with
  | nil => exact ⟨{ buffer }, rfl, rfl, rfl, rfl, rfl⟩
  | append_singleton calls c ih =>
      obtain ⟨b, hrun, hholds⟩ := ih
      obtain ⟨b', hcall, hholds'⟩ := hholds.exists_call? c
      refine ⟨b', ?_, ?_⟩
      · rw [run?, List.foldlM_append, ← run?, hrun]
        simp [hcall]
      · rwa [BoundedWriter.run, List.foldl_concat]

end FilledBuffer

/-! ## What is copied -/

namespace BoundedWriter

namespace Filled

variable {w : BoundedWriter} {buffer : Bytes} {kept dropped : List String}

/-- **What was copied is the longest beginning** that fits. -/
theorem take_fits_iff (h : Filled buffer kept dropped w) {k : Nat}
    (hk : k ≤ (kept ++ dropped).length) :
    (String.join ((kept ++ dropped).take k)).utf8ByteSize ≤ buffer.length ↔ k ≤ kept.length := by
  constructor
  · intro hfits
    by_contra hlt
    have hdropped : dropped ≠ [] := by
      rintro rfl
      exact hlt (by simpa using hk)
    exact absurd hfits (Nat.not_le.mpr (h.lt_of_lt (Nat.not_le.mp hlt) hdropped))
  · intro hle
    rw [List.take_append_of_le_length hle]
    calc (String.join (kept.take k)).utf8ByteSize
        ≤ (String.join kept).utf8ByteSize := Bytes.utf8ByteSize_join_le (List.take_prefix k kept)
      _ = w.written := h.written_eq.symm
      _ ≤ buffer.length := h.fits

theorem written_le_len (h : Filled buffer kept dropped w) : w.written ≤ w.len := by
  rw [h.written_eq, h.len]
  exact Bytes.utf8ByteSize_join_le (List.prefix_append kept dropped)

/-- The flag that stops the copying is set if and only if more was to be written than was copied. -/
theorem truncated_iff_lt (h : Filled buffer kept dropped w) :
    w.truncated = true ↔ w.written < w.len := by
  have hcut : w.written < w.len ↔ w.finish.isTruncated = true := decide_eq_true_iff.symm
  rw [hcut, h.isTruncated_finish, h.truncated, Ne, h.dropped_eq_nil_iff, Nat.not_le]

end Filled

end BoundedWriter

open BoundedWriter in
/-- **Every fragment is accounted for.** Any calls can be made in place on any buffer: they and the
next one are answered as the writer answers them, and what is in the buffer is what the writer holds.
A call whose formatting fails is answered with an error and changes nothing, so the writer is that
of the fragments that were appended and of nothing else. Its length is that of all of these; what was
copied is that of the longest beginning of them that fits, which stands in the buffer before what was
there at first; and the writer has cut something off if and only if a fragment is left. -/
theorem fragments_accounted_for (buffer : Bytes) (calls : List Call) :
    let w := run buffer calls
    let fragments := calls.filterMap Call.fragment?
    let total (count : Nat) := ((fragments.take count).map String.utf8ByteSize).sum
    (∃ b, FilledBuffer.run? buffer calls = some b ∧ b.Holds w ∧ ∀ c, ∃ b',
      b.call? c = some ((w.call c).map fun _ => (), b') ∧ b'.Holds (w.after c)) ∧
    (∀ f, f.fails = true → w.call (.emit f) = .error .format ∧ w.after (.emit f) = w) ∧
    w = fragments.foldl push (new buffer) ∧
    w.len = total fragments.length ∧
    w.written ≤ w.len ∧ w.written ≤ buffer.length ∧
    w.finish.isTruncated = w.truncated ∧ (w.truncated = true ↔ w.written < w.len) ∧
    ∃ copied ≤ fragments.length,
      (∀ count ≤ fragments.length, total count ≤ buffer.length ↔ count ≤ copied) ∧
      w.written = total copied ∧
      w.buffer = Bytes.ofText (String.join (fragments.take copied)) ++ buffer.drop w.written ∧
      (w.truncated = true ↔ copied < fragments.length) := by
  intro w fragments total
  have htotal (count : Nat) : total count = (String.join (fragments.take count)).utf8ByteSize :=
    (Bytes.utf8ByteSize_join _).symm
  have hrun : w = fragments.foldl push (new buffer) := run_eq buffer calls
  obtain ⟨kept, dropped, hfragments, hfilled⟩ := exists_filled buffer fragments
  rw [← hrun] at hfilled
  refine ⟨?_, ?_, hrun, ?_, hfilled.written_le_len, hfilled.fits, ?_, hfilled.truncated_iff_lt,
    kept.length, ?_, ?_, ?_, ?_, ?_⟩
  · obtain ⟨b, hb, hholds⟩ := FilledBuffer.exists_run? buffer calls
    exact ⟨b, hb, hholds, hholds.exists_call?⟩
  · intro f hfails
    have hcall := call_of_fails (w := w) hfails
    refine ⟨hcall, ?_⟩
    rw [after, hcall]
  · rw [htotal, List.take_length, hfilled.len, hfragments]
  · rw [Bool.eq_iff_iff, hfilled.truncated_iff_lt, Rendered.isTruncated, decide_eq_true_iff]
    rfl
  · rw [← hfragments, List.length_append]
    exact Nat.le_add_right _ _
  · intro count hcount
    rw [htotal, ← hfragments]
    exact hfilled.take_fits_iff (hfragments ▸ hcount)
  · rw [htotal, ← hfragments, List.take_left, hfilled.written_eq]
  · rw [← hfragments, List.take_left, BoundedWriter.buffer, hfilled.copied, hfilled.rest]
  · rw [hfilled.truncated, ← hfragments, List.length_append, Nat.lt_add_right_iff_pos,
      List.length_pos_iff]

/-- What came out of a formatting that fails is not in the next fragment, and a fragment that would
fit is passed over behind one that did not. -/
example :
    let calls := [.push "<a>", .emit ⟨["4", "2"], true⟩, .emit ⟨["<", "b/>"], false⟩,
      .push "long", .push "", .push "x"]
    let w := BoundedWriter.run (List.replicate 9 0) calls
    w.finish = { len := 12, written := 7 } ∧ w.truncated = true ∧
      w.buffer = Bytes.ofText "<a><b/>" ++ [0, 0] := by
  decide +kernel

end PacketLog
