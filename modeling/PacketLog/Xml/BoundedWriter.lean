import PacketLog.Bytes
import PacketLog.Xml.Flags

set_option autoImplicit false

/-! # Writing into a buffer of fixed size

A `BoundedWriter` copies fragments of a text into a buffer, each as a whole or not at all.
After the first fragment that did not fit nothing more is copied, so the buffer holds the
beginning of the text, cut between two fragments, but the length of the whole text is
counted on. -/

namespace PacketLog

/-- A buffer that is being filled. -/
structure BoundedWriter where
  /-- What was copied into the buffer. -/
  copied : Array UInt8 := #[]
  /-- What the buffer holds behind that, untouched. -/
  rest : Bytes
  /-- The length of everything that was to be written. -/
  len : Nat := 0
  /-- Whether a fragment did not fit. -/
  truncated : Bool := false
  deriving DecidableEq, Inhabited

/-- What became of a document. -/
structure Rendered where
  /-- The length of the whole document. -/
  len : Nat
  /-- How many bytes of it were copied. -/
  written : Nat
  deriving DecidableEq, Inhabited

/-- Whether some of the document was not copied. -/
def Rendered.isTruncated (r : Rendered) : Bool := r.written < r.len

namespace BoundedWriter

/-- Starts to fill a buffer. -/
def new (buffer : Bytes) : BoundedWriter := { rest := buffer }

/-- Whether `new` is no longer than `room`, found without measuring all of `room`. -/
def fits : Bytes → Bytes → Bool
  | [], _ => true
  | _ :: _, [] => false
  | _ :: new, _ :: room => fits new room

theorem fits_iff {new room : Bytes} : fits new room = true ↔ new.length ≤ room.length := by
  induction new generalizing room with
  | nil => simp [fits]
  | cons b new ih =>
    cases room with
    | nil => simp [fits]
    | cons c room => simp [fits, ih]

/-- Appends a fragment given as bytes. -/
def pushBytes (w : BoundedWriter) (fragment : Bytes) : BoundedWriter :=
  let w := { w with len := w.len + fragment.length }
  if w.truncated then w
  else if fits fragment w.rest then
    { w with copied := w.copied.appendList fragment, rest := w.rest.drop fragment.length }
  else { w with truncated := true }

/-- Appends a fragment. -/
def push (w : BoundedWriter) (fragment : String) : BoundedWriter :=
  w.pushBytes (Bytes.ofText fragment)

/-- Appends a fragment that is still to be formatted: either its text, or what came out
before formatting failed. A fragment whose formatting fails leaves no trace. -/
def emit (w : BoundedWriter) : Except String String → Except XmlError BoundedWriter
  | .ok fragment => .ok (w.push fragment)
  | .error _ => .error .format

/-- How many bytes were copied. -/
def written (w : BoundedWriter) : Nat := w.copied.size

/-- What the buffer holds. -/
def buffer (w : BoundedWriter) : Bytes := w.copied.toList ++ w.rest

/-- The outcome. -/
def finish (w : BoundedWriter) : Rendered := { len := w.len, written := w.written }

end BoundedWriter

end PacketLog
